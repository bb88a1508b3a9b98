/-
A query that is rewritten, read again.

A query string is read as pairs, the values are replaced, and the pairs are written anew;
if there is nothing to replace, the string stays as it was written.  Writing is undone by
reading, whatever stands in a name or a value: a value that holds a separator, a plus sign
or an escape cannot end its pair or begin another one.  So both ways the rewritten query
is read as the pairs of the old one with their values replaced.
-/
import Mathlib
import CredentialGateway.Proofs.Form.RoundTrip
import CredentialGateway.Proofs.Substitution.Tree

namespace CredentialGateway.Substitution

variable {get : Lookup}

theorem string?_eq_none_iff {t : String} : string? get t = none ↔ ¬ IsReplaced get t := by
  rw [← isSome_string?_iff, Bool.not_eq_true, Option.isSome_eq_false_iff,
    Option.isNone_iff_eq_none]

/-- A string that is not replaced stands for itself. -/
theorem string_eq_self {t : String} (h : ¬ IsReplaced get t) : string get t = t := by
  rw [string, string?_eq_none_iff.mpr h, Option.getD_none]

/-- The pairs of a query with their values replaced. -/
def replacedPairs (get : Lookup) (pairs : List (String × String)) : List (String × String) :=
  pairs.map fun p => (p.1, string get p.2)

theorem replacedPairs_eq_self {pairs : List (String × String)}
    (h : ∀ p ∈ pairs, ¬ IsReplaced get p.2) : replacedPairs get pairs = pairs := by
  have hsame : pairs.map (fun p => (p.1, string get p.2)) = pairs.map id :=
    List.map_congr_left fun p hp => by rw [string_eq_self (h p hp), id]
  rw [replacedPairs, hsame, List.map_id]

/-- A query stays as it was written if none of its values is replaced, and only then. -/
theorem query?_eq_none_iff {raw : String} :
    query? get raw = none ↔ ∀ p ∈ Form.parse raw, ¬ IsReplaced get p.2 := by
  simp [query?, ← string?_eq_none_iff]

/-- A query that does not stay is written from the replaced pairs. -/
theorem query?_eq_some {raw rewritten : String} (h : query? get raw = some rewritten) :
    rewritten = String.ofList (Form.render (replacedPairs get (Form.parse raw))) := by
  simp only [query?, Option.ite_none_right_eq_some, Option.some_inj] at h
  exact h.2.symm

/-- The rewritten query is read as the replaced pairs. -/
theorem parse_query (get : Lookup) (raw : String) :
    Form.parse (query get raw) = replacedPairs get (Form.parse raw) := by
  rw [query]
  cases h : query? get raw with
  | none => rw [Option.getD_none, replacedPairs_eq_self (query?_eq_none_iff.mp h)]
  | some rewritten => rw [Option.getD_some, query?_eq_some h, Form.parse_render]

/-- **Rewriting a query commutes with reading it.**  The rewritten query is read as the pairs of
the query, as many and in their order, with the same names and with each value replaced by itself.
It counts as changed if one of the values is replaced, and only then; if none is, the query stays as
it was written, escapes and empty pairs included. -/
theorem query_rewriting_commutes_with_reading (s : Store) (raw : String) :
    Form.parse (query s.get raw) = (Form.parse raw).map (fun p => (p.1, string s.get p.2)) ∧
      ((query? s.get raw).isSome = true ↔ ∃ p ∈ Form.parse raw, IsReplaced s.get p.2) ∧
      ((∀ p ∈ Form.parse raw, ¬ IsReplaced s.get p.2) → query s.get raw = raw) := by
  refine ⟨parse_query s.get raw, ?_, ?_⟩
  · rw [Option.isSome_iff_ne_none, Ne, query?_eq_none_iff]
    push Not
    exact Iff.rfl
  · intro hnone
    rw [query, query?_eq_none_iff.mpr hnone, Option.getD_none]

/-- A value full of separators and escapes stays one value; beside it there are an escape that is
none, a pair without a value and an empty piece. -/
theorem separators_of_a_value_are_escaped :
    let s : Store := ⟨[("TOKEN", "a&b=c+%41")], "s3cret", by decide, by decide, by decide⟩
    query s.get "x=%2+1&key=${TOKEN}&&flag" = "x=%252+1&key=a%26b%3Dc%2B%2541&flag=" ∧
      Form.parse "x=%252+1&key=a%26b%3Dc%2B%2541&flag=" =
        [("x", "%2 1"), ("key", "a&b=c+%41"), ("flag", "")] ∧
      query s.get "x=%2+1&&env:TOKEN" = "x=%2+1&&env:TOKEN" := by
  intro s
  have hwritten : query s.get "x=%2+1&key=${TOKEN}&&flag" =
      "x=%252+1&key=a%26b%3Dc%2B%2541&flag=" := by decide +kernel
  have hread := (query_rewriting_commutes_with_reading s "x=%2+1&key=${TOKEN}&&flag").1
  have hpairs : (Form.parse "x=%2+1&key=${TOKEN}&&flag").map
      (fun p => (p.1, string s.get p.2)) =
        [("x", "%2 1"), ("key", "a&b=c+%41"), ("flag", "")] := by decide +kernel
  refine ⟨hwritten, ?_, ?_⟩
  · rw [← hwritten, hread, hpairs]
  · refine (query_rewriting_commutes_with_reading s _).2.2 ?_
    intro p hp
    have hall : ∀ p ∈ Form.parse "x=%2+1&&env:TOKEN", string? s.get p.2 = none := by
      decide +kernel
    exact string?_eq_none_iff.mp (hall p hp)

end CredentialGateway.Substitution
