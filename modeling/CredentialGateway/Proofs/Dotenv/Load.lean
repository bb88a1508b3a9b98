/-
What a load that fails leaves behind.

Lines are loaded one by one, and the first one that is not well formed ends the loading
without undoing anything.  So the environment behind a load that fails is the one that the
lines in front of the fault leave (`loadLines_of_gives`): each pair they give is put at
the end, unless its name has a value already.

A store keeps all of that: the pairs that took effect stand behind the entries of the
environment alone (`Store.IsNew.latest_append`).  Hence a load that failed makes no difference
just if no pair took effect, or if there is no secret either way and no store at all.
-/
import Mathlib
import CredentialGateway.Dotenv
import CredentialGateway.Gateway
import CredentialGateway.Proofs.Store.Secrecy

namespace CredentialGateway

namespace Dotenv

/-! ### Lines up to a fault -/

/-- A line that is not well formed in an environment: it cannot be read at all, or says nothing
that has a meaning. -/
def IsMalformed (env : Environment) (line : Option (List Char)) : Prop :=
  ∀ text, line = some text → readLine env text = .bad

/-- Well-formed lines, each read in the environment that those before it leave, and the names and
values that they give, in order. -/
inductive Gives : Environment → List (Option (List Char)) → List (String × String) → Prop
  | nil {env} : Gives env [] []
  | empty {env text rest given} (hline : readLine env text = .empty)
      (hrest : Gives env rest given) : Gives env (some text :: rest) given
  | assign {env text rest given name value} (hline : readLine env text = .assign name value)
      (hrest : Gives (define env name value) rest given) :
      Gives env (some text :: rest) ((name, value) :: given)

/-- An environment with names and values put into it. -/
def defineAll (env : Environment) (given : List (String × String)) : Environment :=
  given.foldl (fun env e => define env e.1 e.2) env

variable {env : Environment} {given : List (String × String)}
  {front rest : List (Option (List Char))} {line : Option (List Char)} {name value : String}

theorem loadLines_of_isMalformed (h : IsMalformed env line) :
    loadLines env (line :: rest) = env := by
  cases line with
  | none => rfl
  | some text => rw [loadLines, h text rfl]

/-- **The first line that is not well formed ends the loading**, with all before it in effect. -/
theorem loadLines_of_gives (hfront : Gives env front given)
    (hline : IsMalformed (defineAll env given) line) :
    loadLines env (front ++ line :: rest) = defineAll env given := by
  induction hfront with
  | nil => exact loadLines_of_isMalformed hline
  | empty htext _ ih =>
      rw [List.cons_append, loadLines, htext]
      exact ih hline
  | assign htext _ ih =>
      rw [List.cons_append, loadLines, htext]
      exact ih hline

/-! ### The pairs that take effect -/

theorem isSome_valueOf : (valueOf env name).isSome = true ↔ name ∈ env.map Prod.fst := by
  rw [valueOf, Option.isSome_map, List.find?_isSome, List.mem_map]
  simp only [decide_eq_true_eq]

/-- The pairs that take effect: of each name that has no value yet, the first one. -/
def fresh (env : Environment) : List (String × String) → List (String × String)
  | [] => []
  | e :: given =>
    if e.1 ∈ env.map Prod.fst then fresh env given else e :: fresh (env ++ [e]) given

theorem defineAll_eq (env : Environment) (given : List (String × String)) :
    defineAll env given = env ++ fresh env given := by
  induction given generalizing env with
  | nil => simp [defineAll, fresh]
  | cons e given ih =>
      rw [defineAll, List.foldl_cons, define, fresh, if_congr isSome_valueOf rfl rfl]
      split
      · exact ih env
      · refine (ih _).trans ?_
        rw [List.append_assoc]
        rfl

theorem fresh_eq_nil_iff : fresh env given = [] ↔ ∀ e ∈ given, e.1 ∈ env.map Prod.fst := by
  induction given with
  | nil => simp [fresh]
  | cons e given ih =>
      rw [fresh, List.forall_mem_cons]
      split
      · rename_i hmem
        rw [ih]
        exact (and_iff_right hmem).symm
      · rename_i hmem
        simp [hmem]

theorem names_append_singleton (env : Environment) (e : String × String) :
    (env ++ [e]).map Prod.fst = env.map Prod.fst ++ [e.1] := by
  rw [List.map_append, List.map_singleton]

theorem not_mem_of_mem_fresh (h : name ∈ (fresh env given).map Prod.fst) :
    name ∉ env.map Prod.fst := by
  induction given generalizing env with
  | nil => cases h
  | cons e given ih =>
      rw [fresh] at h
      split at h
      · exact ih h
      · rename_i hnew
        rw [List.map_cons, List.mem_cons] at h
        rcases h with rfl | h
        · exact hnew
        · have hlater := ih h
          rw [names_append_singleton] at hlater
          exact fun hmem => hlater (List.mem_append_left _ hmem)

theorem nodup_fresh (env : Environment) (given : List (String × String)) :
    ((fresh env given).map Prod.fst).Nodup := by
  induction given generalizing env with
  | nil => exact List.nodup_nil
  | cons e given ih =>
      rw [fresh]
      split
      · exact ih env
      · rw [List.map_cons, List.nodup_cons]
        refine ⟨fun hmem => ?_, ih _⟩
        refine not_mem_of_mem_fresh hmem ?_
        rw [names_append_singleton]
        exact List.mem_append_right _ (List.mem_singleton_self _)

/-- Of a name that has no value yet the first one counts. -/
theorem valueIn_fresh (h : name ∉ env.map Prod.fst) :
    Store.valueIn (fresh env given) name = Store.valueIn given name := by
  induction given generalizing env with
  | nil => rfl
  | cons e given ih =>
      rw [fresh]
      by_cases hname : e.1 = name
      · rw [if_neg (hname ▸ h)]
        simp [Store.valueIn, hname]
      · have hskip : ∀ pairs, Store.valueIn (e :: pairs) name = Store.valueIn pairs name := by
          intro pairs
          simp [Store.valueIn, hname]
        rw [hskip]
        split
        · exact ih h
        · rw [hskip]
          refine ih ?_
          rw [names_append_singleton, List.mem_append, List.mem_singleton, not_or]
          exact ⟨h, Ne.symm hname⟩

end Dotenv

namespace Store

/-! ### Stores with more pairs behind -/

variable {pairs more : List (String × String)}

theorem latest_of_nodup (h : (more.map Prod.fst).Nodup) : latest more = more := by
  induction more with
  | nil => rfl
  | cons e more ih =>
      rw [List.map_cons, List.nodup_cons] at h
      rw [latest, if_neg h.1, ih h.2]

theorem others_append : others (pairs ++ more) = others pairs ++ others more :=
  List.filter_append _ _

theorem lastValue?_eq_none_iff {name : String} :
    lastValue? pairs name = none ↔ name ∉ pairs.map Prod.fst := by
  rw [lastValue?, Option.map_eq_none_iff, List.getLast?_eq_none_iff, List.filter_eq_nil_iff,
    List.mem_map]
  simp only [decide_eq_true_eq, not_exists, not_and]

theorem ofPairs?_eq_none_iff :
    ofPairs? pairs = none ↔ (lastValue? pairs secretName).getD "" = "" := by
  rw [ofPairs?, valueIn_latest]
  split
  · rename_i hempty
    exact iff_of_true rfl hempty
  · rename_i hne
    exact iff_of_false (by simp) hne

/-- Pairs that come behind others, each with a name of its own. -/
structure IsNew (pairs more : List (String × String)) : Prop where
  nodup : (more.map Prod.fst).Nodup
  fresh : ∀ name ∈ more.map Prod.fst, name ∉ pairs.map Prod.fst

namespace IsNew

variable (h : IsNew pairs more)

include h

/-- Pairs with new names change nothing before them. -/
theorem latest_append : latest (pairs ++ more) = latest pairs ++ more := by
  obtain ⟨hnodup, hnew⟩ := h
  induction pairs with
  | nil => exact latest_of_nodup hnodup
  | cons e rest ih =>
      have hrest := ih fun name hname hmem => hnew name hname (List.mem_cons_of_mem _ hmem)
      have hmem : e.1 ∈ (rest ++ more).map Prod.fst ↔ e.1 ∈ rest.map Prod.fst := by
        rw [List.map_append, List.mem_append]
        exact or_iff_left fun hmore => hnew e.1 hmore List.mem_cons_self
      rw [List.cons_append, latest, latest, if_congr hmem rfl rfl, hrest]
      split
      · rfl
      · rfl

theorem lastValue?_append (name : String) :
    lastValue? (pairs ++ more) name = (lastValue? pairs name).or (valueIn more name) := by
  rw [← valueIn_latest, ← valueIn_latest, h.latest_append, valueIn, List.find?_append,
    Option.map_or]
  rfl

/-- If there is a secret, new pairs make a difference to the store. -/
theorem ofPairs?_append_ne (hmore : more ≠ []) (hsome : ofPairs? (pairs ++ more) ≠ none) :
    ofPairs? (pairs ++ more) ≠ ofPairs? pairs := by
  intro heq
  obtain ⟨s, hs⟩ := Option.ne_none_iff_exists'.mp hsome
  obtain ⟨hentries, -⟩ := ofPairs?_eq_some_iff.mp hs
  obtain ⟨hentries', hsecret⟩ := ofPairs?_eq_some_iff.mp (heq.symm.trans hs)
  rw [hentries, ← others_latest, ← others_latest, h.latest_append, others_append,
    List.append_right_eq_self] at hentries'
  obtain ⟨e, he⟩ := List.exists_mem_of_ne_nil more hmore
  have hname : e.1 ∈ more.map Prod.fst := List.mem_map_of_mem he
  have hother : e ∈ others more := by
    refine List.mem_filter.mpr ⟨he, decide_eq_true fun hsame => ?_⟩
    rw [lastValue?_eq_none_iff.mpr (hsame ▸ h.fresh e.1 hname)] at hsecret
    cases hsecret
  rw [hentries'] at hother
  cases hother

/-- **New pairs make no difference to the store** just if there are none, or there is no secret
with them either. -/
theorem ofPairs?_append_eq_iff : ofPairs? (pairs ++ more) = ofPairs? pairs ↔
    more = [] ∨ ((lastValue? pairs secretName).or (valueIn more secretName)).getD "" = "" := by
  rw [← h.lastValue?_append, ← ofPairs?_eq_none_iff]
  constructor
  · intro heq
    by_contra hnot
    rw [not_or] at hnot
    exact h.ofPairs?_append_ne hnot.1 hnot.2 heq
  · rintro (rfl | hnone)
    · rw [List.append_nil]
    · rw [hnone, eq_comm, ofPairs?_eq_none_iff]
      rw [ofPairs?_eq_none_iff, h.lastValue?_append] at hnone
      cases hlast : lastValue? pairs secretName with
      | none => rfl
      | some value =>
          rw [hlast] at hnone
          exact hnone

end IsNew

end Store

/-! ### Loading the nearest file -/

namespace Dotenv

/-- Loading fails, behind well-formed lines that give names and values: there is no file, or the
nearest one has a line that is not well formed. -/
inductive FailsBehind (env : Environment) (files : List (Option (List UInt8))) :
    List (String × String) → Prop
  | missing (hfiles : files.findSome? id = none) : FailsBehind env files []
  | malformed {file front line rest given} (hfile : files.findSome? id = some file)
      (hlines : lines file = front ++ line :: rest) (hfront : Gives env front given)
      (hline : IsMalformed (defineAll env given) line) : FailsBehind env files given

/-- A load that fails leaves behind what the lines in front of the fault give. -/
theorem loadNearest_of_failsBehind {files : List (Option (List UInt8))}
    (h : FailsBehind env files given) : loadNearest env files = defineAll env given := by
  cases h with
  | missing hfiles =>
      rw [loadNearest, hfiles]
      rfl
  | malformed hfile hlines hfront hline =>
      rw [loadNearest, hfile]
      exact (congrArg (loadLines env) hlines).trans (loadLines_of_gives hfront hline)

end Dotenv

namespace Gateway

open Dotenv

theorem storeOf_eq_iff {pairs pairs' : List (String × String)} :
    storeOf pairs = storeOf pairs' ↔ Store.ofPairs? pairs = Store.ofPairs? pairs' := by
  rw [storeOf, storeOf]
  cases Store.ofPairs? pairs with
  | none => cases Store.ofPairs? pairs' <;> simp
  | some s => cases Store.ofPairs? pairs' <;> simp

/-- **When a failed load leaves no trace.**  With a load that fails, the store is that of the
environment alone just if every name that the lines in front of the fault give has a value in the
environment, or if neither the environment nor those lines give a secret that is not empty. -/
theorem failed_load_leaves_no_trace_iff {env : Environment} {files : List (Option (List UInt8))}
    {given : List (String × String)} (h : FailsBehind env files given) :
    storeOf (loadNearest env files) = storeOf env ↔
      (∀ e ∈ given, e.1 ∈ env.map Prod.fst) ∨
        ((Store.lastValue? env "MAGIC_GATEWAY_API_KEY").or
          (Store.valueIn given "MAGIC_GATEWAY_API_KEY")).getD "" = "" := by
  have hnew : Store.IsNew env (fresh env given) :=
    ⟨nodup_fresh env given, fun _ hname => not_mem_of_mem_fresh hname⟩
  have hsecret : (Store.lastValue? env Store.secretName).or
      (Store.valueIn (fresh env given) Store.secretName) =
        (Store.lastValue? env Store.secretName).or (Store.valueIn given Store.secretName) := by
    cases hlast : Store.lastValue? env Store.secretName with
    | some value => rfl
    | none => rw [valueIn_fresh (Store.lastValue?_eq_none_iff.mp hlast)]
  rw [loadNearest_of_failsBehind h, defineAll_eq, storeOf_eq_iff, hnew.ofPairs?_append_eq_iff,
    hsecret, fresh_eq_nil_iff]
  rfl

/-- A file that sets a variable again and then breaks off inside a quoted value. -/
def againThenOpen : List UInt8 := Utf8.encodeString "DEBUG=1\nNAME=\"open\n"

/-- A failed load that leaves no trace: the only name that it comes to has a value already. -/
theorem failed_load_sets_nothing_again :
    let env := [("MAGIC_GATEWAY_API_KEY", "s3cret"), ("DEBUG", "")]
    FailsBehind env [none, some againThenOpen] [("DEBUG", "1")] ∧
      storeOf (loadNearest env [none, some againThenOpen]) = storeOf env := by
  intro env
  have hlines : lines againThenOpen = [some "DEBUG=1".toList] ++ none :: [] := by decide +kernel
  have hread : readLine env "DEBUG=1".toList = .assign "DEBUG" "1" := by rfl
  have hfails : FailsBehind env [none, some againThenOpen] [("DEBUG", "1")] :=
    .malformed rfl hlines (.assign hread .nil) (fun text h => by cases h)
  exact ⟨hfails, (failed_load_leaves_no_trace_iff hfails).mpr (Or.inl (by decide))⟩

/-- A file that names a backend and then has a line that says nothing. -/
def backendThenNothing : List UInt8 :=
  Utf8.encodeString "DEFAULT_API_URL=http://b.example\nnothing\n"

/-- A backend that was named in front of the fault is there. -/
theorem failed_load_leaves_backend :
    let env := [("MAGIC_GATEWAY_API_KEY", "s3cret")]
    FailsBehind env [some backendThenNothing] [("DEFAULT_API_URL", "http://b.example")] ∧
      storeOf (loadNearest env [some backendThenNothing]) ≠ storeOf env := by
  intro env
  have hlines : lines backendThenNothing =
      [some "DEFAULT_API_URL=http://b.example".toList] ++ some "nothing".toList :: [] := by
    decide +kernel
  have hread : readLine env "DEFAULT_API_URL=http://b.example".toList =
      .assign "DEFAULT_API_URL" "http://b.example" := by rfl
  have hbad : readLine (defineAll env [("DEFAULT_API_URL", "http://b.example")])
      "nothing".toList = .bad := by rfl
  have hfails : FailsBehind env [some backendThenNothing]
      [("DEFAULT_API_URL", "http://b.example")] :=
    .malformed rfl hlines (.assign hread .nil) fun text h => by cases h; exact hbad
  refine ⟨hfails, fun heq => ?_⟩
  rw [loadNearest_of_failsBehind hfails, storeOf_eq_iff] at heq
  exact absurd (congrArg (Option.map Store.entries) heq) (by decide +kernel)

end Gateway

end CredentialGateway
