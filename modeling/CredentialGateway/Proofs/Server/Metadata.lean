/-
What is signed of metadata.

A request to sign metadata carries an object, and a value that was read has what a canonical
form needs: its objects are sorted and name no member twice, its integers fit a word and it
is not nested too deep to be read again.  So the octets that are signed are read as the very
object of the request, and two requests have one signed text just if they carry the same
object, however its text was spelled and ordered.
-/
import Mathlib
import CredentialGateway.Proofs.Json.Canonical
import CredentialGateway.Server.Endpoint

namespace CredentialGateway.Server

open Json

variable {body : List UInt8} {v : Json}

theorem object?_eq_some_iff {w : Written} :
    object? w = some v ↔
      Json.ofWritten? (maxDepth - 1) w = some v ∧ ∃ members, v = .object members := by
  rw [object?]
  split
  · rename_i members hread
    rw [hread]
    constructor
    · intro h
      cases h
      exact ⟨rfl, members, rfl⟩
    · rintro ⟨h, -⟩
      exact h
  · rename_i hno
    constructor
    · intro h
      cases h
    · rintro ⟨h, members, rfl⟩
      exact absurd h (hno members)

/-- Metadata is an object that was read. -/
theorem exists_of_metadata (h : readBody? metadata? body = some v) :
    (∃ members, v = .object members) ∧ ∃ w, Json.ofWritten? (maxDepth - 1) w = some v := by
  obtain ⟨text, -, h⟩ := Option.bind_eq_some_iff.mp h
  obtain ⟨given, -, h⟩ := Option.bind_eq_some_iff.mp h
  split at h
  · rename_i value
    cases value with
    | value w =>
        obtain ⟨hread, hobject⟩ := object?_eq_some_iff.mp h
        exact ⟨hobject, w, hread⟩
    | absent | beyond => cases h
  · cases h

theorem fits_of_metadata (h : readBody? metadata? body = some v) : Fits maxDepth v := by
  obtain ⟨-, w, hread⟩ := exists_of_metadata h
  have hnormal : IsNormal (fun x => ∃ n, ofNumber? n = some x) (maxDepth - 1) v :=
    isNormal_of_ofWritten? (maxDepth - 1) w hread fun n _ _ hx => ⟨n, hx⟩
  exact (fits_of_isNormal hnormal fun n ⟨_, hn⟩ => word_of_ofNumber? hn).mono (by decide)

theorem isSorted_of_metadata (h : readBody? metadata? body = some v) : IsSorted v := by
  obtain ⟨-, w, hread⟩ := exists_of_metadata h
  have hnormal : IsNormal (fun _ => True) (maxDepth - 1) v :=
    isNormal_of_ofWritten? (maxDepth - 1) w hread fun _ _ _ _ => trivial
  exact isSorted_of_isNormal hnormal

/-- Metadata without doubles is plain. -/
theorem isPlain_of_metadata (h : readBody? metadata? body = some v)
    (hexact : Everywhere IsNoDouble v) : IsPlain v :=
  ⟨(isSorted_of_metadata h).distinct, hexact⟩

/-- **A signature over metadata covers a canonical form.**  The octets signed for two values
without doubles are equal just if the values are the same, whatever the order of their members.
They are compact, the names in each of their objects have increasing octets, and they are read as
the value that is signed.  The metadata of a request is such a value, and of two requests these
octets are equal just if they carry the same object. -/
theorem signature_covers_canonical_form :
    (∀ a b : Json, IsPlain a → IsPlain b → (a.signedOctets = b.signedOctets ↔ SameValue a b)) ∧
    (∀ v : Json, IsPlain v →
      IsCompact v.signedOctets ∧
      (∃ w, Written.parse? v.signedOctets = some w ∧ w.NamesIncrease) ∧
      (Fits maxDepth v → ∃ u, parse? v.signedOctets = some u ∧ SameValue u v)) ∧
    ∀ body v, readBody? metadata? body = some v → Everywhere IsNoDouble v →
      (∃ members, v = .object members) ∧ IsPlain v ∧ parse? v.signedOctets = some v ∧
      (∀ g key, g.contentKey = some key →
        signMetadata g body = signed (key.sign v.signedOctets)) ∧
      ∀ other u, readBody? metadata? other = some u → Everywhere IsNoDouble u →
        (v.signedOctets = u.signedOctets ↔ v = u) := by
  refine ⟨fun a b => signedOctets_eq_iff, ?_, ?_⟩
  · intro v hv
    have hparse := Written.parse?_octets hv.canonical.isExact
    refine ⟨isCompact_octets hv.canonical.isExact,
      ⟨_, hparse, namesIncrease_written (isSorted_canonical hv.distinct)⟩, ?_⟩
    intro hfits
    exact ⟨_, parse?_signedOctets hv hfits, sameValue_canonical hv.distinct⟩
  · intro body v hread hexact
    have hplain := isPlain_of_metadata hread hexact
    have hsorted := isSorted_of_metadata hread
    refine ⟨(exists_of_metadata hread).1, hplain, ?_, ?_, ?_⟩
    · rw [parse?_signedOctets hplain (fits_of_metadata hread), canonical_eq_self hsorted]
    · intro g key hkey
      simp only [signMetadata, hkey, hread]
      rfl
    · intro other u hother hexact'
      rw [signedOctets_eq_iff hplain (isPlain_of_metadata hother hexact')]
      refine ⟨eq_of_sameValue hsorted (isSorted_of_metadata hother), ?_⟩
      rintro rfl
      exact fun _ => rfl

/-- A value with its members in two orders, and an object that two requests spell differently. -/
theorem reordered_metadata_is_signed_alike :
    SameValue (.object [("b", .array [.integer 1]), ("a", .null)])
      (.object [("a", .null), ("b", .array [.integer 1])]) ∧
    let body := Utf8.encodeString
      "\x7b \"metadata\": \x7b\"z\": [1, \x7b\"k\":\"\\u00e9\", \"É\":[]\x7d], \"a\":\"\"\x7d\x7d"
    let other := Utf8.encodeString
      "\x7b\"metadata\":\x7b\"a\":\"\",\"z\":[1,\x7b\"\\u00c9\":[],\"k\":\"é\"\x7d]\x7d\x7d"
    let sent := Utf8.encodeString
      "\x7b\"a\":\"\",\"z\":[1,\x7b\"k\":\"é\",\"É\":[]\x7d]\x7d"
    ∃ v, readBody? metadata? body = some v ∧ readBody? metadata? other = some v ∧
      v.signedOctets = sent ∧ parse? v.signedOctets = some v := by
  obtain ⟨hvalues, -, hrequests⟩ := signature_covers_canonical_form
  constructor
  · have hnull : IsPlain .null := (isPlain_scalar_iff (v := .null) trivial).mpr trivial
    have hitem : IsPlain (.integer 1) := (isPlain_scalar_iff (v := .integer 1) trivial).mpr trivial
    have hlist : IsPlain (.array [.integer 1]) := by simpa [isPlain_array_iff] using hitem
    refine (hvalues _ _ ?_ ?_).mp (by decide +kernel)
    · simp [isPlain_object_iff, hlist, hnull]
    · simp [isPlain_object_iff, hlist, hnull]
  · intro body other sent
    have hsigned : ∀ v ∈ readBody? metadata? body, isExact v = true ∧ v.signedOctets = sent := by
      decide +kernel
    have hsigned' : ∀ v ∈ readBody? metadata? other, isExact v = true ∧ v.signedOctets = sent := by
      decide +kernel
    have hread : (readBody? metadata? body).isSome = true := by decide +kernel
    have hread' : (readBody? metadata? other).isSome = true := by decide +kernel
    obtain ⟨v, hv⟩ := Option.isSome_iff_exists.mp hread
    obtain ⟨u, hu⟩ := Option.isSome_iff_exists.mp hread'
    have hexact := (isExact_iff (isSorted_of_metadata hv).distinct).mp (hsigned v hv).1
    have hexact' := (isExact_iff (isSorted_of_metadata hu).distinct).mp (hsigned' u hu).1
    obtain ⟨-, -, hparse, -, hsame⟩ := hrequests body v hv hexact
    have heq : v = u :=
      (hsame other u hu hexact').mp ((hsigned v hv).2.trans (hsigned' u hu).2.symm)
    exact ⟨v, hv, heq ▸ hu, (hsigned v hv).2, hparse⟩

end CredentialGateway.Server
