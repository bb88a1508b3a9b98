/-
What the signing secret has no part in.

A store is built from pairs in two moves: of the pairs with one name the last is kept, and
then the secret is set apart.  The moves can be made in either order
(`others_latest`), and with that the entries are a matter of the other pairs alone: the
secret may be given where and as often as one likes, and its values never meet the
entries.  All that callers are told about a store is found by looking up entries, so two
stores that differ in the secret tell them the same.
-/
import Mathlib
import CredentialGateway.Server.Forward
import CredentialGateway.Settings

namespace CredentialGateway.Store

/-! ### The last value of a name -/

/-- The last value that pairs give for a name. -/
def lastValue? (pairs : List (String × String)) (name : String) : Option String :=
  ((pairs.filter fun e => e.1 = name).getLast?).map Prod.snd

theorem lastValue?_cons_of_mem {e : String × String} {rest : List (String × String)}
    {name : String} (h : e.1 ∈ rest.map Prod.fst) :
    lastValue? (e :: rest) name = lastValue? rest name := by
  unfold lastValue?
  by_cases hname : e.1 = name
  · have hne : rest.filter (fun d => d.1 = name) ≠ [] := by
      obtain ⟨d, hd, hde⟩ := List.mem_map.mp h
      refine List.ne_nil_of_mem (a := d) (List.mem_filter.mpr ⟨hd, ?_⟩)
      simp [hde, hname]
    rw [List.filter_cons_of_pos (by simp [hname]), List.getLast?_cons_of_ne_nil hne]
  · rw [List.filter_cons_of_neg (by simp [hname])]

/-- **The pair that is kept for a name is the last one.** -/
theorem valueIn_latest (pairs : List (String × String)) (name : String) :
    valueIn (latest pairs) name = lastValue? pairs name := by
  induction pairs with
  | nil => rfl
  | cons e rest ih =>
      by_cases hmem : e.1 ∈ rest.map Prod.fst
      · rw [latest, if_pos hmem, ih, lastValue?_cons_of_mem hmem]
      · rw [latest, if_neg hmem]
        by_cases hname : e.1 = name
        · have hnil : rest.filter (fun d => d.1 = name) = [] := by
            rw [List.filter_eq_nil_iff]
            intro d hd hdname
            refine hmem (List.mem_map.mpr ⟨d, hd, ?_⟩)
            simpa [hname] using hdname
          simp [valueIn, lastValue?, hname, hnil]
        · have hhead : valueIn (e :: latest rest) name = valueIn (latest rest) name := by
            simp [valueIn, hname]
          have hlast : lastValue? (e :: rest) name = lastValue? rest name := by
            simp [lastValue?, hname]
          rw [hhead, hlast, ih]

/-! ### The entries of a store -/

/-- **The secret can be set apart before or after the last pairs are chosen.** -/
theorem others_latest (pairs : List (String × String)) :
    others (latest pairs) = latest (others pairs) := by
  induction pairs with
  | nil => rfl
  | cons e rest ih =>
      by_cases hsecret : e.1 = secretName
      · have hdrop : ∀ more, others (e :: more) = others more := by
          intro more
          simp [others, hsecret]
        rw [hdrop, ← ih, latest]
        split
        · rfl
        · exact hdrop _
      · have hkeep : ∀ more, others (e :: more) = e :: others more := by
          intro more
          simp [others, hsecret]
        have hmem : e.1 ∈ (others rest).map Prod.fst ↔ e.1 ∈ rest.map Prod.fst := by
          simp [others, hsecret]
        rw [hkeep, latest, latest, if_congr hmem rfl rfl]
        split
        · exact ih
        · rw [hkeep, ih]

/-- **The store of a list of pairs**: the entries come from the other pairs alone, and the secret
is the last value that is given for it. -/
theorem ofPairs?_eq_some_iff {pairs : List (String × String)} {s : Store} :
    ofPairs? pairs = some s ↔
      s.entries = latest (others pairs) ∧ lastValue? pairs secretName = some s.secret := by
  rw [← others_latest, ← valueIn_latest]
  unfold ofPairs?
  constructor
  · intro h
    simp only at h
    split at h
    · cases h
    · rename_i hne
      obtain ⟨value, hvalue⟩ : ∃ value, valueIn (latest pairs) secretName = some value := by
        rw [← Option.ne_none_iff_exists']
        intro hnone
        exact hne (by rw [hnone]; rfl)
      cases h
      refine ⟨rfl, ?_⟩
      show valueIn (latest pairs) secretName = some ((valueIn (latest pairs) secretName).getD "")
      rw [hvalue]
      rfl
  · rintro ⟨hentries, hsecret⟩
    obtain ⟨entries, secret, distinct, apart, secret_ne⟩ := s
    simp only at hentries hsecret
    subst hentries
    simp [hsecret, secret_ne]

/-! ### What callers are told -/

/-- What callers can find out about the gateway's names and values is the same for two stores,
whatever they ask. -/
structure Alike (a b : Store) : Prop where
  /-- The value of a name. -/
  get : ∀ name, a.get name = b.get name
  /-- The number of entries. -/
  size : a.size = b.size
  /-- The names that are reported. -/
  names : a.reportedNames = b.reportedNames
  /-- The services that are reported. -/
  services : Service.descriptions a.get = Service.descriptions b.get
  /-- The settings. -/
  settings : Settings.ofLookup a.get = Settings.ofLookup b.get
  /-- A JSON value with references replaced, and whether there were any. -/
  substitute : ∀ v : Json,
    v.substitute a.get = v.substitute b.get ∧ v.isSubstituted a.get = v.isSubstituted b.get
  /-- What a string stands for. -/
  string : ∀ text, Substitution.string? a.get text = Substitution.string? b.get text
  /-- A text with references replaced. -/
  interpolate : ∀ text,
    Substitution.interpolate? a.get text = Substitution.interpolate? b.get text
  /-- What a header value stands for. -/
  header : ∀ name value,
    Substitution.header? a.get name value = Substitution.header? b.get name value
  /-- A query with references replaced. -/
  query : ∀ raw, Substitution.query? a.get raw = Substitution.query? b.get raw
  /-- The target of a path and a query. -/
  resolve : ∀ path query, Target.resolve a.get path query = Target.resolve b.get path query
  /-- The URL of that target, with any query behind it. -/
  url : ∀ path query behind,
    (Target.resolve a.get path query).map (Target.url · behind) =
      (Target.resolve b.get path query).map (Target.url · behind)
  /-- The key for the body of a request to a URL. -/
  key : ∀ url, Injection.keyFor? a.get url = Injection.keyFor? b.get url
  /-- A body with that key in its open slots, and whether there were any. -/
  inject : ∀ url (v : Json),
    v.inject a.get url = v.inject b.get url ∧ v.isInjected a.get url = v.isInjected b.get url
  /-- The answer to a request that is passed on, and what goes out for it. -/
  forward : ∀ backends source r,
    Server.forward backends a.get source r = Server.forward backends b.get source r

theorem Alike.of_entries {a b : Store} (h : a.entries = b.entries) : Alike a b := by
  have hget : a.get = b.get := by rw [Store.get, Store.get, h]
  have hsize : a.size = b.size := by rw [Store.size, Store.size, h]
  have hnames : a.reportedNames = b.reportedNames := by rw [reportedNames, reportedNames, h]
  refine ⟨?_, hsize, hnames, ?_, ?_, ?_, ?_, ?_, ?_, ?_, ?_, ?_, ?_, ?_, ?_⟩
  all_goals simp only [hget, and_self, implies_true]

/-- **The signing secret is not told.**  Two lists of pairs that differ only in what they give for
the secret, be it where, how often or with which values, make two stores with the secrets that
they give last, and nothing that callers are told depends on which of the two it is. -/
theorem secret_is_not_told (p q : List (String × String)) (s₁ s₂ : String)
    (hothers : others p = others q) (hp : lastValue? p secretName = some s₁)
    (hq : lastValue? q secretName = some s₂) (h₁ : s₁ ≠ "") (h₂ : s₂ ≠ "") :
    ∃ a b, ofPairs? p = some a ∧ ofPairs? q = some b ∧ a.secret = s₁ ∧ b.secret = s₂ ∧
      Alike a b := by
  have hdistinct := nodup_latest (others p)
  have hapart : secretName ∉ (latest (others p)).map Prod.fst := by
    rw [← others_latest]
    exact secretName_not_mem_others _
  let a : Store := ⟨latest (others p), s₁, hdistinct, hapart, h₁⟩
  let b : Store := ⟨latest (others p), s₂, hdistinct, hapart, h₂⟩
  refine ⟨a, b, ?_, ?_, rfl, rfl, Alike.of_entries rfl⟩
  · exact ofPairs?_eq_some_iff.mpr ⟨rfl, hp⟩
  · refine ofPairs?_eq_some_iff.mpr ⟨?_, hq⟩
    rw [← hothers]

/-- Secrets that are given twice, in different places, beside entries that refer to them. -/
theorem secret_is_not_told_twice_given :
    let p := [("MAGIC_GATEWAY_API_KEY", "old"), ("OPENAI_API_KEY", "sk-1"),
      ("LEAK", "${MAGIC_GATEWAY_API_KEY}"), ("MAGIC_GATEWAY_API_KEY", "first")]
    let q := [("OPENAI_API_KEY", "sk-1"), ("MAGIC_GATEWAY_API_KEY", ""),
      ("MAGIC_GATEWAY_API_KEY", "second"), ("LEAK", "${MAGIC_GATEWAY_API_KEY}")]
    ∃ a b, ofPairs? p = some a ∧ ofPairs? q = some b ∧ a.secret = "first" ∧ b.secret = "second" ∧
      Alike a b := by
  intro p q
  exact secret_is_not_told p q "first" "second" (by decide) (by decide) (by decide) (by decide)
    (by decide)

end CredentialGateway.Store
