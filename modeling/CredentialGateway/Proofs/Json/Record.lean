/-
Printed records read back.

A record that this gateway prints is an object with different names.  Of such an object
the reader can say at once what it says about a field: the value under its name, or
nothing.  `given` is that answer, and `fields?_written` says that the reader gives it
for every field of a record; the order of the members does not come into it.
-/
import Mathlib
import CredentialGateway.Json.Record
import CredentialGateway.Proofs.Json.RoundTrip

namespace CredentialGateway.Json

/-- What an object with different names says about a field. -/
def given (ms : List (String × Json)) (name : String) : Given :=
  match ms.lookup name with
  | some v => .value (written v)
  | none => .absent

theorem named?_written (ms : List (String × Json)) :
    named? (writtenMembers ms) = some (ms.map fun m => (m.1, written m.2)) := by
  induction ms with
  | nil => rfl
  | cons m ms ih =>
      rw [writtenMembers, named?, pieceString?_stringPieces, ih]
      rfl

theorem filter_of_not_mem {name : String} {ms : List (String × Json)}
    (h : name ∉ ms.map Prod.fst) :
    (ms.map fun m => (m.1, written m.2)).filter (fun m => m.1 = name) = [] := by
  rw [List.filter_eq_nil_iff]
  intro m hm hname
  obtain ⟨n, hn, rfl⟩ := List.mem_map.mp hm
  exact h (List.mem_map.mpr ⟨n, hn, by simpa using hname⟩)

/-- An object with different names names a field once or not at all. -/
theorem member?_written {ms : List (String × Json)} (hnodup : (ms.map Prod.fst).Nodup)
    (name : String) :
    member? (ms.map fun m => (m.1, written m.2)) name = some (given ms name) := by
  induction ms with
  | nil => rfl
  | cons m ms ih =>
      obtain ⟨k, v⟩ := m
      rw [List.map_cons, List.nodup_cons] at hnodup
      by_cases hk : name = k
      · subst hk
        have hrest := filter_of_not_mem hnodup.1
        simp only [member?, List.map_cons, List.filter_cons, decide_true, if_true, hrest, given,
          List.lookup_cons, beq_self_eq_true]
      · have hstep : member? (((k, v) :: ms).map fun m => (m.1, written m.2)) name
            = member? (ms.map fun m => (m.1, written m.2)) name := by
          simp only [member?, List.map_cons, List.filter_cons,
            decide_eq_false (fun h : k = name => hk h.symm), Bool.false_eq_true, if_false]
        rw [hstep, ih hnodup.2]
        simp only [given, List.lookup_cons, beq_eq_false_iff_ne.mpr hk]

theorem mapM_member?_written {ms : List (String × Json)} (hnodup : (ms.map Prod.fst).Nodup)
    (names : List String) :
    names.mapM (member? (ms.map fun m => (m.1, written m.2))) = some (names.map (given ms)) := by
  induction names with
  | nil => rfl
  | cons name names ih =>
      rw [List.mapM_cons, member?_written hnodup, ih]
      rfl

/-- **The fields of a printed record.** -/
theorem fields?_written {ms : List (String × Json)} (hnodup : (ms.map Prod.fst).Nodup)
    (names : List String) :
    fields? names (written (.object ms)) = some (names.map (given ms)) := by
  rw [written, fields?, named?_written, Option.bind_some, mapM_member?_written hnodup]

/-! ### Values of fields -/

@[simp] theorem string?_written (s : String) : (written (.string s)).string? = some s :=
  pieceString?_stringPieces s

@[simp] theorem word?_written (n : UInt64) :
    (written (.integer n.toNat)).word? = some n :=
  word?_integerText n

@[simp] theorem nullable_written (s : String) :
    Given.nullable Written.string? (written (.string s)) = some (some s) := by
  rw [written, Given.nullable]
  · exact congrArg (Option.map some) (pieceString?_stringPieces s)
  · intro h
    cases h

/-- What is found under the name of a text that may be missing. -/
def givenText : Option String → Given
  | none => .absent
  | some s => .value (written (.string s))

@[simp] theorem defaulted_givenText (v : Option String) :
    (givenText v).defaulted Written.string? = some v := by
  cases v with
  | none => rfl
  | some s => exact nullable_written s

/-- A record of texts says of each name the text under it. -/
theorem given_texts (texts : List (String × String)) (name : String) :
    given (texts.map fun m => (m.1, Json.string m.2)) name = givenText (texts.lookup name) := by
  induction texts with
  | nil => rfl
  | cons m texts ih =>
      obtain ⟨k, s⟩ := m
      rw [given] at ih ⊢
      by_cases hname : name = k
      · simp only [hname, List.map_cons, List.lookup_cons, beq_self_eq_true, givenText]
      · simp only [List.map_cons, List.lookup_cons, beq_eq_false_iff_ne.mpr hname]
        exact ih

end CredentialGateway.Json
