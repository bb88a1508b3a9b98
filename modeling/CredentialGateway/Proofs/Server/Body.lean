/-
The body that a backend is sent.

A body is sent as it came unless it is JSON and something in it was replaced or filled;
then the whole of it is printed anew.  What it is printed from has the shape of the value
that was read (`shape_completed`), so the reader finds it again, and finds its numbers where
they were.  Numbers that fit a word are found with their value, and a body with no other
numbers is found as the completed value itself.

Any other number is printed by the digits of the double that it was read as.  An integer
with more digits than a double has comes out as another integer.
-/
import Mathlib
import CredentialGateway.Proofs.Json.Paths
import CredentialGateway.Proofs.Substitution.Idempotence
import CredentialGateway.Server.Forward

namespace CredentialGateway.Server

open Http

/-! ### When a body is rewritten -/

/-- Whether header fields leave it open that a body is JSON: their first type, if it is text,
speaks of JSON in some case of letters. -/
def MayBeJson (h : Headers) : Prop :=
  ∀ type, h.text? "content-type" = some type →
    "json".toList <:+: type.toList.map Text.lowerAscii

theorem isJsonBody_iff {h : Headers} : isJsonBody h = true ↔ MayBeJson h := by
  unfold isJsonBody MayBeJson
  cases h.text? "content-type" with
  | none => exact iff_of_true rfl fun _ h => nomatch h
  | some type =>
      simp only [Text.occursIn_iff, Option.some_inj]
      exact ⟨fun hin _ heq => heq ▸ hin, fun hin => hin type rfl⟩

variable {get : Lookup} {url : String} {h : Headers} {body : List UInt8} {v : Json}

theorem outgoingBody_of_not_json (hjson : ¬ MayBeJson h) : outgoingBody get url h body = body := by
  rw [← isJsonBody_iff, Bool.not_eq_true] at hjson
  rw [outgoingBody, hjson, Bool.not_false, Bool.or_true, if_pos rfl]

theorem outgoingBody_of_unread (hparse : Json.parse? body = none) :
    outgoingBody get url h body = body := by
  rw [outgoingBody, hparse]
  split_ifs <;> rfl

/-- A body that is read: it is sent as it came, or as what is printed of the completed value. -/
theorem outgoingBody_of_read (hjson : MayBeJson h) (hparse : Json.parse? body = some v) :
    outgoingBody get url h body =
      if v.isSubstituted get || (v.substitute get).isInjected get url then
        ((v.substitute get).inject get url).octets
      else body := by
  have hsome : body.isEmpty = false := by
    cases body with
    | nil => cases hparse
    | cons _ _ => rfl
  rw [outgoingBody, hsome, isJsonBody_iff.mpr hjson, hparse, Option.bind_some,
    if_neg (by decide), completeJson?]
  by_cases hchanged : (v.isSubstituted get || (v.substitute get).isInjected get url) = true
  · rw [if_pos hchanged, if_pos hchanged]
  · rw [if_neg hchanged, if_neg hchanged]

theorem ofWritten?_of_parse? {w : Json.Written} (hw : Json.Written.parse? body = some w)
    (hv : Json.parse? body = some v) : Json.ofWritten? Json.maxDepth w = some v := by
  rwa [Json.parse?, hw, Option.bind_some] at hv

/-! ### Reading what is sent -/

/-- A store with a model and with the key of a backend that takes it in the body. -/
def imageStore : Store :=
  ⟨[("MODEL", "gpt-4"), ("TEXT_TO_IMAGE_API_BASE_URL", "http://img.example"),
    ("TEXT_TO_IMAGE_ACCESS_KEY", "img-key")], "image-secret", by decide, by decide, by decide⟩

/-- A path of that backend. -/
def imageTarget : Target := ⟨"http://img.example/v1", none, "", .targetParam⟩

/-- Whether one text has a number just where another has one, either the same or as it is printed
after it was read. -/
def KeepsNumbers (w sent : Json.Written) : Prop :=
  ∀ path, Option.Rel (fun n m => m = n ∨ Json.Reprinted n m) (w.numberAt? path)
    (sent.numberAt? path)

theorem KeepsNumbers.refl (w : Json.Written) : KeepsNumbers w w := by
  intro path
  cases w.numberAt? path with
  | none => exact .none
  | some n => exact .some (Or.inl rfl)

/-- What is sent keeps the numbers of the body. -/
theorem exists_keepsNumbers (get : Lookup) (url : String) (h : Headers) {w : Json.Written}
    (hw : Json.Written.parse? body = some w) (hv : Json.parse? body = some v) :
    ∃ sent, Json.Written.parse? (outgoingBody get url h body) = some sent ∧
      KeepsNumbers w sent := by
  have hread := ofWritten?_of_parse? hw hv
  by_cases hjson : MayBeJson h
  · by_cases hchanged : (v.isSubstituted get || (v.substitute get).isInjected get url) = true
    · have hshape : ((v.substitute get).inject get url).shape = v.shape := Json.shape_completed v
      have hnormal : Json.IsNormal (fun _ => True) Json.maxDepth v :=
        Json.isNormal_of_ofWritten? Json.maxDepth w hread fun _ _ _ _ => trivial
      rw [outgoingBody_of_read hjson hv, if_pos hchanged]
      refine ⟨_, Json.parse?_octets_of_shape hread hshape, fun path => ?_⟩
      have hrel := Json.rel_numberAt?_written hread hshape
        (Json.isNormal_of_shape hshape hnormal) path
      exact Json.rel_imp hrel fun _ _ => Or.inr
    · rw [outgoingBody_of_read hjson hv, if_neg hchanged]
      exact ⟨w, hw, KeepsNumbers.refl w⟩
  · rw [outgoingBody_of_not_json hjson]
    exact ⟨w, hw, KeepsNumbers.refl w⟩

/-- **Numbers that fit a word survive the rewriting of a body.**  Whatever becomes of the strings
of a body that is read, what is sent has a number just where the body has one.  An integer that
fits a word keeps its value; any other number stays as it is written, or is written by the digits
of the double that it was read as. -/
theorem word_sized_numbers_survive (s : Store) (t : Target) (h : Headers) {body : List UInt8}
    {w : Json.Written} {v : Json} (hw : Json.Written.parse? body = some w)
    (hv : Json.parse? body = some v) :
    ∃ sent, Json.Written.parse? (outgoingBody s.get t.baseUrl h body) = some sent ∧
      ∀ path, Option.Rel
        (fun n m => (n.IsWord → m.value = n.value) ∧ (m = n ∨ Json.Reprinted n m))
        (w.numberAt? path) (sent.numberAt? path) := by
  obtain ⟨sent, hsent, hkeeps⟩ := exists_keepsNumbers s.get t.baseUrl h hw hv
  refine ⟨sent, hsent, fun path => Json.rel_imp (hkeeps path) fun n m hnm => ?_⟩
  refine ⟨fun hword => ?_, hnm⟩
  rcases hnm with rfl | ⟨x, hx, hm⟩
  · rfl
  · exact Json.value_of_isWord hword hx hm

/-- A seed that no double holds, but a word does, beside a name that is replaced. -/
theorem odd_seed_survives :
    let body := Utf8.encodeString
      "\x7b\"model\":\"MODEL\",\"seed\":9007199254740993\x7d"
    ∃ w sent n m, Json.Written.parse? body = some w ∧
      Json.Written.parse? (outgoingBody imageStore.get imageTarget.baseUrl [] body) = some sent ∧
      sent.numberAt? [.member "model"] = none ∧
      w.numberAt? [.member "seed"] = some n ∧ sent.numberAt? [.member "seed"] = some m ∧
      m.value = 9007199254740993 := by
  intro body
  have hwritten : (Json.Written.parse? body).isSome = true := by decide +kernel
  have hvalue : (Json.parse? body).isSome = true := by decide +kernel
  have hmodel : ∀ w ∈ Json.Written.parse? body, w.numberAt? [.member "model"] = none := by
    decide +kernel
  have hseed : ∀ w ∈ Json.Written.parse? body, w.numberAt? [.member "seed"] =
      some ⟨false, [9, 0, 0, 7, 1, 9, 9, 2, 5, 4, 7, 4, 0, 9, 9, 3], none, none⟩ := by
    decide +kernel
  obtain ⟨w, hw⟩ := Option.isSome_iff_exists.mp hwritten
  obtain ⟨v, hv⟩ := Option.isSome_iff_exists.mp hvalue
  obtain ⟨sent, hsent, hnumbers⟩ := word_sized_numbers_survive imageStore imageTarget [] hw hv
  have hmodels := hnumbers [.member "model"]
  have hseeds := hnumbers [.member "seed"]
  rw [hmodel w hw] at hmodels
  rw [hseed w hw] at hseeds
  cases hm : sent.numberAt? [.member "seed"] with
  | none =>
      rw [hm] at hseeds
      cases hseeds
  | some m =>
      rw [hm, Option.rel_some_some] at hseeds
      refine ⟨w, sent, _, m, hw, hsent, ?_, hseed w hw, hm, ?_⟩
      · cases hn : sent.numberAt? [.member "model"] with
        | none => rfl
        | some n =>
            rw [hn] at hmodels
            cases hmodels
      · rw [hseeds.1 (by decide +kernel)]
        norm_num [Json.NumberText.value, Json.natOfDigits]

/-- A seed that no word holds is sent as another integer: the shortest decimal of the double that
it was read as. -/
theorem seed_beyond_words_is_sent_as_another :
    let body := Utf8.encodeString
      "\x7b\"model\":\"MODEL\",\"seed\":18446744073709551617\x7d"
    ∃ w sent n m, Json.Written.parse? body = some w ∧ (∀ k ∈ w.numbers, k.IsPlain) ∧
      (Json.parse? body).isSome = true ∧
      Json.Written.parse? (outgoingBody imageStore.get imageTarget.baseUrl [] body) = some sent ∧
      w.numberAt? [.member "seed"] = some n ∧ sent.numberAt? [.member "seed"] = some m ∧
      n.value = 18446744073709551617 ∧ m.value = 18446744073709552000 ∧ m.value ≠ n.value := by
  intro body
  have hwritten : (Json.Written.parse? body).isSome = true := by decide +kernel
  have hvalue : (Json.parse? body).isSome = true := by decide +kernel
  have hplain : ∀ w ∈ Json.Written.parse? body, ∀ k ∈ w.numbers, k.IsPlain := by
    decide +kernel
  have hread : ∀ w ∈ Json.Written.parse? body, w.numberAt? [.member "seed"] =
      some ⟨false, [1, 8, 4, 4, 6, 7, 4, 4, 0, 7, 3, 7, 0, 9, 5, 5, 1, 6, 1, 7], none, none⟩ := by
    decide +kernel
  have hrewritten : (Json.Written.parse?
      (outgoingBody imageStore.get imageTarget.baseUrl [] body)).isSome = true := by
    decide +kernel
  have hprinted : ∀ sent ∈ Json.Written.parse?
      (outgoingBody imageStore.get imageTarget.baseUrl [] body),
      sent.numberAt? [.member "seed"] = some ⟨false, [1],
        some [8, 4, 4, 6, 7, 4, 4, 0, 7, 3, 7, 0, 9, 5, 5, 2], some (false, [1, 9])⟩ := by
    decide +kernel
  obtain ⟨w, hw⟩ := Option.isSome_iff_exists.mp hwritten
  obtain ⟨sent, hsent⟩ := Option.isSome_iff_exists.mp hrewritten
  refine ⟨w, sent, _, _, hw, hplain w hw, hvalue, hsent, hread w hw, hprinted sent hsent, ?_, ?_,
    ?_⟩
  all_goals norm_num [Json.NumberText.value, Json.natOfDigits]

end CredentialGateway.Server
