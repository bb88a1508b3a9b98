/-
Entries found by their names.
-/
import Mathlib
import CredentialGateway.Store

namespace CredentialGateway.Store

variable {s : Store} {name value : String}

/-- A value that is found is the value of an entry. -/
theorem mem_of_get (h : s.get name = some value) : (name, value) ∈ s.entries := by
  rw [get, valueIn, Option.map_eq_some_iff] at h
  obtain ⟨e, hfind, rfl⟩ := h
  have hname : e.1 = name := by simpa using List.find?_some hfind
  rw [← hname]
  exact List.mem_of_find?_eq_some hfind

/-- A value is found for the name of every entry, and for no other name. -/
theorem isSome_get : (s.get name).isSome = true ↔ name ∈ s.entries.map Prod.fst := by
  rw [get, valueIn, Option.isSome_map, List.find?_isSome, List.mem_map]
  simp only [decide_eq_true_eq]

/-- The names of the entries. -/
def names (s : Store) : Finset String :=
  (s.entries.map Prod.fst).toFinset

theorem isSome_get_iff_mem_names : (s.get name).isSome = true ↔ name ∈ s.names := by
  rw [isSome_get, names, List.mem_toFinset]

end CredentialGateway.Store
