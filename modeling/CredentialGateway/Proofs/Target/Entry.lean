/-
Paths that start with the name of an entry.

Slashes around a path do not count, and its first segment ends at the first slash
behind that.  So a path that is a slash and a name, alone or with a slash and anything
behind it, has that name as its first segment.  If the name is that of an entry and the
query names no URL, the entry alone decides: a target that comes out has the entry's
value for its URL, with the references in it replaced.
-/
import Mathlib
import CredentialGateway.Proofs.Target.Key

namespace CredentialGateway.Target

theorem isSlash_eq_true_iff {c : Char} : isSlash c = true ↔ c = '/' := beq_iff_eq

/-- A name is not trimmed at its end when a slash or nothing follows it; what follows it starts
with a slash still, or nothing is left of it. -/
theorem trimEnd_name {name rest : List Char} (hname : '/' ∉ name)
    (hrest : ∀ c, rest.head? = some c → c = '/') :
    ∃ left, Text.trimEnd isSlash (name ++ rest) = name ++ left ∧
      ∀ c, left.head? = some c → c = '/' := by
  obtain ⟨trail, htrail, htext⟩ := Text.trimEnd_split isSlash (name ++ rest)
  rcases List.append_eq_append_iff.mp htext with ⟨left, htrimmed, hsplit⟩ | ⟨tail, hsplit, hend⟩
  · refine ⟨left, htrimmed, ?_⟩
    intro c hc
    refine hrest c ?_
    rw [hsplit, List.head?_append, hc, Option.some_or]
  · have hnil : tail = [] := by
      rw [List.eq_nil_iff_forall_not_mem]
      intro c hc
      have hslash : c = '/' := isSlash_eq_true_iff.mp (htrail c (hend ▸ List.mem_append_left rest hc))
      exact hname (hsplit ▸ List.mem_append_right _ (hslash ▸ hc))
    rw [hnil, List.append_nil] at hsplit
    exact ⟨[], by rw [List.append_nil, ← hsplit], by simp⟩

/-- The first segment ends at the first slash. -/
theorem splitFirst?_name {name left : List Char} (hname : '/' ∉ name)
    (hleft : ∀ c, left.head? = some c → c = '/') :
    ((Text.splitFirst? '/' (name ++ left)).map Prod.fst).getD (name ++ left) = name := by
  cases left with
  | nil =>
      rw [List.append_nil]
      cases hcut : Text.splitFirst? '/' name with
      | none => rfl
      | some cut =>
          obtain ⟨htext, -⟩ := Text.splitFirst?_eq_some_iff.mp hcut
          exact absurd (by rw [htext]; simp) hname
  | cons c left =>
      obtain rfl := hleft c rfl
      have hcut : Text.splitFirst? '/' (name ++ '/' :: left) = some (name, left) :=
        Text.splitFirst?_eq_some_iff.mpr ⟨rfl, hname⟩
      rw [hcut]
      rfl

/-- **The first segment of a path that starts with a name** is the name. -/
theorem Request.segment_of {path name : String} (query : Option String) (hne : name ≠ "")
    (hname : '/' ∉ name.toList)
    (hpath : path = "/" ++ name ∨ ∃ rest, path = "/" ++ name ++ "/" ++ rest) :
    (Request.of path query).segment = name := by
  obtain ⟨rest, htext, hrest⟩ : ∃ rest, path.toList = ['/'] ++ (name.toList ++ rest) ∧
      ∀ c, rest.head? = some c → c = '/' := by
    rcases hpath with rfl | ⟨rest, rfl⟩
    · exact ⟨[], by simp, by simp⟩
    · refine ⟨'/' :: rest.toList, by simp, ?_⟩
      intro c hc
      exact (Option.some.inj hc).symm
  obtain ⟨c, tail, hcons⟩ : ∃ c tail, name.toList = c :: tail :=
    List.exists_cons_of_ne_nil fun h => hne (String.toList_eq_nil_iff.mp h)
  have hc : isSlash c = false := by
    rw [Bool.eq_false_iff]
    intro hslash
    rw [hcons, isSlash_eq_true_iff.mp hslash] at hname
    exact hname List.mem_cons_self
  have hstart : Text.trimStart isSlash path.toList = name.toList ++ rest := by
    rw [htext, hcons]
    exact Text.trimStart_append (tail ++ rest) (by simp [isSlash_eq_true_iff]) hc
  obtain ⟨left, hend, hleft⟩ := trimEnd_name hname hrest
  have htrim : Text.trim isSlash path.toList = name.toList ++ left := by
    rw [Text.trim, hstart, hend]
  rw [Request.of, htrim]
  exact (congrArg String.ofList (splitFirst?_name hname hleft)).trans String.ofList_toList

variable {get : Lookup}

/-- **An entry decides about the paths that start with its name.** -/
theorem resolve_of_entry {path value : String} {query : Option String} {t : Target}
    (hparam : Form.param ((query.map Form.parse).getD []) "target" = none)
    (hvalue : get (Request.of path query).segment = some value)
    (h : resolve get path query = .ok t) :
    t.baseUrl = Substitution.interpolate get value ∧
      isWebUrl (Substitution.interpolate get value) = true := by
  have htarget : ofTargetParam? (Request.of path query) = none :=
    Option.map_eq_none_iff.mpr hparam
  obtain ⟨u, hcandidate, hsettle⟩ := resolve_eq_ok_iff.mp h
  obtain ⟨-, rfl⟩ := settle?_eq_some_iff.mp hsettle
  simp only [candidate?, htarget, hvalue] at hcandidate
  split at hcandidate
  · rename_i hweb
    cases hcandidate
    exact ⟨rfl, hweb⟩
  · cases hcandidate

end CredentialGateway.Target
