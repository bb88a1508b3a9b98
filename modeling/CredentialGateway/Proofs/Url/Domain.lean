/-
No domain name comes of a host with a control character or a space.

Such a character is refused in a name, so it is enough that it reaches the name.  Nothing
on the way takes it out: it is no part of an escape, it is a character of its own in
UTF-8, the mapping and the normal form leave it as it is, and it is no digit of Punycode.
-/
import Mathlib
import CredentialGateway.Proofs.Text.Cut
import CredentialGateway.Proofs.Text.Normal
import CredentialGateway.Proofs.Text.Utf8
import CredentialGateway.Url.Host.Domain

namespace CredentialGateway.Url.Domain

/-- A reader of items that reads an item reads it as one of its results. -/
theorem exists_of_mapM {α β : Type} {f : α → Option β} {l : List α} {results : List β}
    (h : l.mapM f = some results) {a : α} (ha : a ∈ l) : ∃ b ∈ results, f a = some b := by
  induction l generalizing results with
  | nil => cases ha
  | cons x l ih =>
      rw [List.mapM_cons, Option.bind_eq_bind, Option.bind_eq_some_iff] at h
      obtain ⟨y, hy, h⟩ := h
      obtain ⟨ys, hys, h⟩ := Option.bind_eq_some_iff.mp h
      obtain rfl : y :: ys = results := Option.some.inj h
      rcases List.mem_cons.mp ha with rfl | ha
      · exact ⟨y, List.mem_cons_self, hy⟩
      · obtain ⟨b, hb, hread⟩ := ih hys ha
        exact ⟨b, List.mem_cons_of_mem y hb, hread⟩

/-! ### Escapes and octets -/

theorem octetValue?_eq_none {b : UInt8} (hb : b.toNat ≤ 0x20) : Hex.octetValue? b = none := by
  have hall : ∀ n ≤ 0x20, Hex.value? (Char.ofNat n) = none := by decide
  exact hall b.toNat hb

/-- An octet is kept, or an escape begins with it. -/
theorem unescapeFrom_cons (b : UInt8) (rest : List UInt8) :
    Percent.unescapeFrom 0 (b :: rest) = b :: Percent.unescapeFrom 0 rest ∨
    ∃ first second tail octet, b = 0x25 ∧ rest = first :: second :: tail ∧
      (Hex.octetValue? first).isSome ∧ (Hex.octetValue? second).isSome ∧
      Percent.unescapeFrom 0 (b :: rest) = octet :: Percent.unescapeFrom 2 rest := by
  rw [Percent.unescapeFrom.eq_def]
  simp only
  split
  · rename_i hpercent
    split
    · split
      · rename_i high low hhigh hlow
        exact .inr ⟨_, _, _, _, hpercent, rfl, by rw [hhigh]; rfl, by rw [hlow]; rfl, rfl⟩
      · exact .inl rfl
    · exact .inl rfl
  · exact .inl rfl

/-- An octet below the digits is no part of an escape. -/
theorem mem_unescapeFrom {b : UInt8} (hb : b.toNat ≤ 0x20) {bs : List UInt8} :
    ∀ {skip : Nat}, b ∈ bs.drop skip → b ∈ Percent.unescapeFrom skip bs := by
  induction bs with
  | nil =>
      intro skip h
      rw [List.drop_nil] at h
      cases h
  | cons c rest ih =>
      intro skip h
      cases skip with
      | succ skip =>
          rw [List.drop_succ_cons] at h
          rw [Percent.unescapeFrom]
          exact ih h
      | zero =>
          have hdigit : ∀ {x : UInt8}, (Hex.octetValue? x).isSome → b ≠ x := by
            rintro x hx rfl
            rw [octetValue?_eq_none hb] at hx
            cases hx
          rcases unescapeFrom_cons c rest with
            hstep | ⟨first, second, tail, octet, rfl, rfl, hfirst, hsecond, hstep⟩
          · rw [hstep, List.mem_cons]
            exact (List.mem_cons.mp h).imp_right fun h => ih h
          · have hpercent : b ≠ 0x25 := by
              rintro rfl
              exact absurd hb (by decide)
            have htail := ((List.mem_cons.mp h).resolve_left hpercent)
            rw [List.mem_cons, List.mem_cons] at htail
            rw [hstep]
            exact List.mem_cons_of_mem octet
              (ih ((htail.resolve_left (hdigit hfirst)).resolve_left (hdigit hsecond)))

theorem mem_unescape {b : UInt8} (hb : b.toNat ≤ 0x20) {bs : List UInt8} (h : b ∈ bs) :
    b ∈ Percent.unescape bs :=
  mem_unescapeFrom hb h

theorem toNat_octet {d : Char} (hd : d.toNat ≤ 0x20) : (UInt8.ofNat d.toNat).toNat = d.toNat :=
  UInt8.toNat_ofNat_of_lt' (Nat.lt_of_le_of_lt hd (by decide))

theorem mem_encode {d : Char} (hd : d.toNat ≤ 0x20) {text : List Char} (h : d ∈ text) :
    UInt8.ofNat d.toNat ∈ Utf8.encode text := by
  refine List.mem_flatMap.mpr ⟨d, h, ?_⟩
  rw [Utf8.encodeChar_ascii (by omega)]
  exact List.mem_singleton_self _

/-! ### Punycode -/

namespace Punycode

variable {d : Char}

theorem value?_eq_none (hd : d.toNat ≤ 0x20) : value? d = none := by
  have hall : ∀ n ≤ 0x20, value? (Char.ofNat n) = none := by decide
  rw [← Char.ofNat_toNat d]
  exact hall d.toNat hd

/-- What a number is read from are digits. -/
theorem mem_rest_of_number? (hd : d.toNat ≤ 0x20) {bias : Nat} {code : List Char} :
    ∀ {place weight sofar n : Nat} {rest : { rest : List Char // rest.length < code.length }},
      number? bias place weight sofar code = some (n, rest) → d ∈ code → d ∈ rest.val := by
  induction code with
  | nil =>
      intro place weight sofar n rest h hmem
      cases hmem
  | cons c code ih =>
      intro place weight sofar n rest h hmem
      rw [number?] at h
      cases hvalue : value? c with
      | none =>
          simp only [hvalue] at h
          cases h
      | some value =>
          have hcode : d ∈ code := by
            refine (List.mem_cons.mp hmem).resolve_left ?_
            rintro rfl
            rw [value?_eq_none hd] at hvalue
            cases hvalue
          simp only [hvalue] at h
          split_ifs at h
          · cases h
            exact hcode
          · obtain ⟨⟨m, tail⟩, hnumber, htail⟩ := Option.map_eq_some_iff.mp h
            cases htail
            exact ih hnumber hcode

/-- Insertions keep the text, and they are read from digits. -/
theorem mem_of_insertions? (hd : d.toNat ≤ 0x20) {bias v position : Nat}
    {text code result : List Char} (h : insertions? bias v position text code = some result)
    (hmem : d ∈ text ∨ d ∈ code) : d ∈ result := by
  fun_induction insertions? bias v position text code with
  | case1 bias v position text code hempty =>
      rw [List.isEmpty_iff.mp hempty] at hmem
      exact Option.some.inj h ▸ hmem.resolve_right List.not_mem_nil
  | case2 => cases h
  | case3 bias v position text code hcode n rest hnumber length w hvalid ih =>
      refine ih h ?_
      rcases hmem with hmem | hmem
      · have hin : n % (text.length + 1) ≤ text.length :=
          Nat.le_of_lt_succ (Nat.mod_lt n (Nat.succ_pos text.length))
        exact .inl ((List.mem_insertIdx hin).mpr (.inr hmem))
      · exact .inr (mem_rest_of_number? hd hnumber hmem)
  | case4 => cases h

theorem mem_of_decode? (hd : d.toNat ≤ 0x20) {code text : List Char}
    (h : decode? code = some text) (hmem : d ∈ code) : d ∈ text := by
  rw [decode?] at h
  split at h
  · exact mem_of_insertions? hd h (.inr hmem)
  · cases h
  · rename_i basic digits hne hsplit
    obtain ⟨rfl, -⟩ := Text.splitLast?_eq_some_iff.mp hsplit
    split at h
    · refine mem_of_insertions? hd h ?_
      rcases List.mem_append.mp hmem with hmem | hmem
      · exact .inl hmem
      · refine .inr ((List.mem_cons.mp hmem).resolve_left ?_)
        rintro rfl
        exact absurd hd (by decide)
    · cases h

theorem mem_encode (hd : d.toNat ≤ 0x20) {text : List Char} (h : d ∈ text) :
    d ∈ encode text := by
  have hbasic : d ∈ text.filter fun c => c.toNat < 128 :=
    List.mem_filter.mpr ⟨h, decide_eq_true (by omega)⟩
  have hsome : (text.filter fun c => c.toNat < 128).isEmpty = false :=
    List.isEmpty_eq_false_iff_exists_mem.mpr ⟨d, hbasic⟩
  simp only [encode, hsome, Bool.false_eq_true, if_false]
  exact List.mem_append_left _ hbasic

end Punycode

/-! ### Labels and names -/

variable {d : Char}

theorem mem_of_decode? {bs : List UInt8} {text : List Char} (hd : d.toNat ≤ 0x20)
    (h : Utf8.decode? bs = some text) (hmem : UInt8.ofNat d.toNat ∈ bs) : d ∈ text := by
  have hnat := toNat_octet hd
  have hitem : some d ∈ Utf8.decode bs := by
    have hwaits : Utf8.Waits none := fun _ hwaiting => by cases hwaiting
    have hdecoded := Utf8.mem_decodeFrom (by omega) hwaits hmem
    rwa [hnat, Char.ofNat_toNat] at hdecoded
  obtain ⟨c, hc, hread⟩ := exists_of_mapM h hitem
  exact Option.some.inj hread ▸ hc

theorem lowerAscii_of_le (hd : d.toNat ≤ 0x20) : Text.lowerAscii d = d := by
  have hnot : ¬ ('A' ≤ d ∧ d ≤ 'Z') := by
    rintro ⟨h, -⟩
    have hcode : 0x41 ≤ d.toNat := h
    omega
  rw [Text.lowerAscii, if_neg hnot]

theorem mem_of_mapped? (hd : d.toNat ≤ 0x20) {text result : List Char}
    (h : mapped? text = some result) (hmem : d ∈ text) : d ∈ result := by
  obtain ⟨images, himages, rfl⟩ := Option.map_eq_some_iff.mp h
  obtain ⟨image, himage, hread⟩ := exists_of_mapM himages hmem
  have hself : image = [d] := by
    rw [Mapping.image?, if_pos (by omega), lowerAscii_of_le hd] at hread
    exact (Option.some.inj hread).symm
  refine Text.mem_normal hd (List.mem_flatten.mpr ⟨image, himage, ?_⟩)
  rw [hself]
  exact List.mem_singleton_self d

theorem mem_of_text? (hd : d.toNat ≤ 0x20) {label text : List Char}
    (h : text? label = some text) (hmem : d ∈ label) : d ∈ text := by
  rw [text?] at h
  split at h
  · exact Option.some.inj h ▸ hmem
  · rename_i code hcode
    split at h
    · cases h
    · obtain ⟨hdecoded, -⟩ := Option.filter_eq_some_iff.mp h
      refine Punycode.mem_of_decode? hd hdecoded ?_
      rw [Text.after?_eq_some_iff.mp hcode] at hmem
      refine (List.mem_append.mp hmem).resolve_left fun hmark => ?_
      have hchars : mark = ['x', 'n', '-', '-'] := String.toList_ofList
      rw [hchars] at hmark
      simp only [List.mem_cons, List.not_mem_nil, or_false] at hmark
      rcases hmark with rfl | rfl | rfl | rfl <;> exact absurd hd (by decide)

theorem mem_ofText (hd : d.toNat ≤ 0x20) {text : List Char} (h : d ∈ text) : d ∈ ofText text := by
  rw [ofText]
  split
  · exact h
  · exact List.mem_append_right mark (Punycode.mem_encode hd h)

theorem mem_intercalate {sep piece : List Char} {pieces : List (List Char)}
    (hpiece : piece ∈ pieces) (h : d ∈ piece) : d ∈ sep.intercalate pieces := by
  induction pieces with
  | nil => cases hpiece
  | cons p rest ih =>
      cases rest with
      | nil =>
          rw [List.intercalate_singleton, ← List.mem_singleton.mp hpiece]
          exact h
      | cons q rest =>
          rw [List.intercalate_cons_cons, List.mem_append]
          rcases List.mem_cons.mp hpiece with rfl | hpiece
          · exact .inl (List.mem_append_left sep h)
          · exact .inr (ih hpiece)

theorem mem_of_toAscii? (hd : d.toNat ≤ 0x20) {text name : List Char}
    (h : toAscii? text = some name) (hmem : d ∈ text) : d ∈ name := by
  simp only [toAscii?] at h
  split at h
  · obtain rfl := Option.some.inj h
    exact List.mem_map.mpr ⟨d, hmem, lowerAscii_of_le hd⟩
  · obtain ⟨mapped, hmapped, h⟩ := Option.bind_eq_some_iff.mp h
    have hdot : d ≠ '.' := by
      rintro rfl
      exact absurd hd (by decide)
    obtain ⟨label, hlabel, hin⟩ :=
      Text.exists_mem_pieces hdot (mem_of_mapped? hd hmapped hmem)
    obtain ⟨texts, htexts, h⟩ := Option.bind_eq_some_iff.mp h
    obtain ⟨text, htext, hread⟩ := exists_of_mapM htexts hlabel
    split at h
    · obtain rfl := Option.some.inj h
      exact mem_intercalate (List.mem_map_of_mem htext) (mem_ofText hd (mem_of_text? hd hread hin))
    · cases h

/-- **A host with a control character or a space writes no domain name.** -/
theorem parse?_eq_none (hd : d.toNat ≤ 0x20) {host : List Char} (hmem : d ∈ host) :
    parse? host = none := by
  have hnat := toNat_octet hd
  rw [Option.eq_none_iff_forall_not_mem]
  intro name h
  obtain ⟨text, htext, h⟩ := Option.bind_eq_some_iff.mp h
  obtain ⟨ascii, hascii, h⟩ := Option.bind_eq_some_iff.mp h
  have hoctet : UInt8.ofNat d.toNat ∈ Percent.unescape (Utf8.encode host) :=
    mem_unescape (by omega) (mem_encode hd hmem)
  have hname : d ∈ ascii := mem_of_toAscii? hd hascii (mem_of_decode? hd htext hoctet)
  have hforbidden : ascii.any isForbidden = true :=
    List.any_eq_true.mpr ⟨d, hname, by simp [isForbidden, hd]⟩
  rw [hforbidden, Bool.or_true, if_pos rfl] at h
  cases h

end CredentialGateway.Url.Domain
