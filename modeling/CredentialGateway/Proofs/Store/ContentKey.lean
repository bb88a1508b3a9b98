/-
What callers can find out about the key that signs content.

The key is an entry like any other, and so it is replaced wherever a caller refers to it:
as a whole string, behind `env:`, in a text, as a bearer credential, in the value of a
query, and in the URL that a request is sent to.  The gateway's own secret is set apart
from the entries to prevent just that.

What can be said is that there is no other way.  Whatever does not refer to the key comes
out alike whichever key it is, and for the rest it is known exactly when it does not.  The
names of URLs and keys that are made from a request never are the name of this key, so the
target of a request depends on it only if its URL refers to it or is the entry itself.
-/
import Mathlib
import CredentialGateway.Proofs.Settings.Numbers
import CredentialGateway.Proofs.Substitution.Disclosure
import CredentialGateway.Proofs.Target.Precedence
import CredentialGateway.Settings

namespace CredentialGateway

/-- The entry that holds the key for signing content. -/
def Settings.contentKeyName : String := "ED25519_PRIVATE_KEY"

theorem Settings.contentKey_eq {get : Lookup} {settings : Settings} {value : String}
    (h : ofLookup get = .ok settings) (hvalue : get contentKeyName = some value)
    (hne : value ≠ "") : settings.contentKey = some value :=
  (contentKey_of_ofLookup h).trans (textOf_eq_some hvalue hne)

namespace Target

open Settings Reference

variable {f g : Lookup} {r : Request} {s : Strategy}

/-! ### Names that are made -/

/-- No name that ends as those of URLs and keys do is that of the key for signing content. -/
theorem append_ne_contentKeyName (start : String) {ending : String}
    (h : ending ∈ [Service.baseUrlEnd, Service.keyEnd, urlEnd]) :
    start ++ ending ≠ contentKeyName := by
  have hnone : ∀ ending ∈ [Service.baseUrlEnd, Service.keyEnd, urlEnd],
      ¬ ending.toList <:+ contentKeyName.toList := by decide
  intro heq
  refine hnone ending h ⟨start.toList, ?_⟩
  rw [← heq, String.toList_append]

theorem get_append_congr (h : DifferAt contentKeyName f g) (ending : String)
    (hending : ending ∈ [Service.baseUrlEnd, Service.keyEnd, urlEnd]) (start : String) :
    f (start ++ ending) = g (start ++ ending) :=
  h.agree _ (append_ne_contentKeyName start hending)

theorem credentials?_congr (h : DifferAt contentKeyName f g) (name : String) :
    Service.credentials? f name = Service.credentials? g name := by
  simp only [Service.credentials?, get_append_congr h Service.baseUrlEnd (by simp),
    get_append_congr h Service.keyEnd (by simp)]

theorem siblingKey?_congr (h : DifferAt contentKeyName f g) (name : String) :
    siblingKey? f name = siblingKey? g name := by
  simp only [siblingKey?, get_append_congr h Service.keyEnd (by simp)]

/-- A strategy has the same target whatever the key is, unless the path names the key. -/
theorem offered?_congr (h : DifferAt contentKeyName f g)
    (hs : s = .configName → r.segment ≠ contentKeyName) : offered? f r s = offered? g r s := by
  cases s with
  | targetParam => rfl
  | configName =>
      have hentry : ofConfigName f r = ofConfigName g r := by
        funext value
        rw [ofConfigName, ofConfigName, siblingKey?_congr h]
      rw [offered?, offered?, h.agree _ (hs rfl), hentry]
  | servicePath => simp only [offered?, ofServicePath?, credentials?_congr h]
  | serviceParam => simp only [offered?, ofServiceParam?, credentials?_congr h]
  | derivedUrl =>
      simp only [offered?, ofDerivedUrl?, get_append_congr h urlEnd (by simp),
        get_append_congr h Service.keyEnd (by simp)]
  | default =>
      have hname : defaultName ≠ contentKeyName := by decide
      simp only [offered?, ofDefault?, h.agree _ hname]

/-! ### Targets -/

/-- Whether the URL that decides about a request refers to a name or is the value of the name. -/
def TargetRefers (get : Lookup) (name : String) (r : Request) : Prop :=
  ∃ t, first? get r = some t ∧
    (Mentions name t.baseUrl ∨ t.strategy = .configName ∧ r.segment = name)

/-- The first target is the same whatever the key is, unless the path names the key and the query
no target. -/
theorem first?_congr (h : DifferAt contentKeyName f g)
    (hother : (ofTargetParam? r).isSome ∨ r.segment ≠ contentKeyName) :
    first? f r = first? g r := by
  rcases hother with hparam | hsegment
  · obtain ⟨t, ht⟩ := Option.isSome_iff_exists.mp hparam
    have hfirst : ∀ get, first? get r = some t := by
      intro get
      have hoffered : offered? get r .targetParam = some t := ht
      rw [first?, Strategy.all, List.findSome?_cons, hoffered]
    rw [hfirst, hfirst]
  · have hoffered : offered? f r = offered? g r := funext fun s => offered?_congr h fun _ => hsegment
    rw [first?, first?, hoffered]

/-- An entry that the path names comes first if the query names no target. -/
theorem first?_of_entry {get : Lookup} {value : String} (hparam : ofTargetParam? r = none)
    (hvalue : get r.segment = some value) : first? get r = some (ofConfigName get r value) := by
  have htarget : offered? get r .targetParam = none := hparam
  have hentry : offered? get r .configName = some (ofConfigName get r value) := by
    rw [offered?, hvalue]
    rfl
  rw [first?, Strategy.all, List.findSome?_cons, htarget, List.findSome?_cons, hentry]

theorem strategy_of_first? {get : Lookup} {t : Target} (hparam : (ofTargetParam? r).isSome)
    (h : first? get r = some t) : t.strategy = .targetParam := by
  obtain ⟨u, hu⟩ := Option.isSome_iff_exists.mp hparam
  have hoffered : offered? get r .targetParam = some u := hu
  rw [first?, Strategy.all, List.findSome?_cons, hoffered, Option.some_inj] at h
  obtain rfl := h
  exact (offers_of_offered? hoffered).1

/-- The target of a request is the first one, if it may be used, with its references replaced. -/
theorem resolve_eq_ok_iff_first? {get : Lookup} {path : String} {query : Option String}
    {t : Target} :
    resolve get path query = .ok t ↔ ∃ u, first? get (Request.of path query) = some u ∧
      usable get u = true ∧ settle? get u = some t := by
  simp only [resolve_eq_ok_iff, candidate?_eq, Option.filter_eq_some_iff, and_assoc]

/-- Where the URL does not refer to the key, the path does not name it or the query names a target. -/
theorem param_or_segment (h : DifferAt contentKeyName f g)
    (hrefers : ¬ TargetRefers f contentKeyName r) :
    (ofTargetParam? r).isSome ∨ r.segment ≠ contentKeyName := by
  by_contra hneither
  rw [not_or, Option.not_isSome_iff_eq_none, ne_eq, not_not] at hneither
  obtain ⟨v, w, hv, -, -⟩ := h.values
  rw [← hneither.2] at hv
  exact hrefers ⟨_, first?_of_entry hneither.1 hv, .inr ⟨rfl, hneither.2⟩⟩

/-- **A target that does not refer to the key is the same whatever the key is.** -/
theorem resolve_congr (h : DifferAt contentKeyName f g) {path : String} {query : Option String}
    (hrefers : ¬ TargetRefers f contentKeyName (Request.of path query)) :
    resolve f path query = resolve g path query := by
  have hfirst := first?_congr h (param_or_segment h hrefers)
  have hcandidate : (candidate? f (Request.of path query)).bind (settle? f) =
      (candidate? g (Request.of path query)).bind (settle? g) := by
    rw [candidate?_eq, candidate?_eq, ← hfirst]
    cases hf : first? f (Request.of path query) with
    | none => rw [Option.filter_none, Option.filter_none, Option.bind_none, Option.bind_none]
    | some t =>
        have hurl : Substitution.interpolate f t.baseUrl = Substitution.interpolate g t.baseUrl :=
          (Substitution.interpolate_eq_iff h _).mpr fun hmentions => hrefers ⟨t, hf, .inl hmentions⟩
        have husable : usable f t = usable g t := by rw [usable, usable, hurl]
        have hsettle : settle? f t = settle? g t := by simp only [settle?, hurl]
        rw [Option.filter_some, Option.filter_some, husable]
        split
        · rw [Option.bind_some, Option.bind_some, hsettle]
        · rw [Option.bind_none, Option.bind_none]
  rw [resolve, resolve, hcandidate]

/-- **A target that refers to the key tells it**: two keys have one target only if the path names
the key and both stand for one URL. -/
theorem interpolate_eq_of_resolve (h : DifferAt contentKeyName f g) {path : String}
    {query : Option String} {t : Target}
    (hrefers : TargetRefers f contentKeyName (Request.of path query))
    (hf : resolve f path query = .ok t) (hg : resolve g path query = .ok t) :
    (Request.of path query).segment = contentKeyName ∧
      ∃ v w, f contentKeyName = some v ∧ g contentKeyName = some w ∧
        Substitution.interpolate f v = Substitution.interpolate g w := by
  obtain ⟨u, hu, -, hsettle⟩ := resolve_eq_ok_iff_first?.mp hf
  obtain ⟨u', hu', -, hsettle'⟩ := resolve_eq_ok_iff_first?.mp hg
  have hurl := (settle?_eq_some_iff.mp hsettle).2
  rw [(settle?_eq_some_iff.mp hsettle').2, Target.mk.injEq] at hurl
  obtain ⟨t', ht', hreason⟩ := hrefers
  obtain rfl : t' = u := Option.some_inj.mp (ht'.symm.trans hu)
  by_cases hother : (ofTargetParam? (Request.of path query)).isSome ∨
      (Request.of path query).segment ≠ contentKeyName
  · -- Both look-ups have the same URL to replace references in, so it has none to the key.
    rw [first?_congr h hother, hu', Option.some_inj] at hu
    subst hu
    have hnone := (Substitution.interpolate_eq_iff h _).mp hurl.1.symm
    obtain ⟨hstrategy, hsegment⟩ := hreason.resolve_left hnone
    rcases hother with hparam | hne
    · rw [strategy_of_first? hparam hu'] at hstrategy
      cases hstrategy
    · exact absurd hsegment hne
  · rw [not_or, Option.not_isSome_iff_eq_none, ne_eq, not_not] at hother
    obtain ⟨v, w, hv, hw, -⟩ := h.values
    refine ⟨hother.2, v, w, hv, hw, ?_⟩
    rw [← hother.2] at hv hw
    rw [first?_of_entry hother.1 hv, Option.some_inj] at hu
    rw [first?_of_entry hother.1 hw, Option.some_inj] at hu'
    subst hu hu'
    exact hurl.1.symm

end Target

namespace Store

open Settings Reference Substitution Target

/-- What callers can find out about the value of a name, of which two look-ups have different ones:
what comes out differs for all that refers to the name and for nothing else. -/
structure ToldByReference (name : String) (f g : Lookup) : Prop where
  /-- What a string stands for. -/
  string : ∀ text, string? f text = string? g text ↔ ¬ Refers f name text
  /-- A text with references replaced. -/
  interpolate : ∀ text, interpolate? f text = interpolate? g text ↔ ¬ Mentions name text
  /-- A JSON value with references replaced, and whether there were any. -/
  substitute : ∀ v : Json, v.isSubstituted f = v.isSubstituted g ∧
    (v.substitute f = v.substitute g ↔ ∀ text ∈ v.leaves, ¬ Refers f name text)
  /-- What a header value stands for. -/
  header : ∀ field value,
    header? f field value = header? g field value ↔ ¬ HeaderRefers f name field value
  /-- A query with references replaced. -/
  query : ∀ raw, query? f raw = query? g raw ↔ ∀ p ∈ Form.parse raw, ¬ Refers f name p.2
  /-- The target of a path and a query that do not refer to the name. -/
  resolve : ∀ path query, ¬ TargetRefers f name (Request.of path query) →
    Target.resolve f path query = Target.resolve g path query
  /-- The target of a path and a query that refer to the name: it is another one, unless the path
  is the name and both its values stand for one URL. -/
  resolve_told : ∀ path query t, TargetRefers f name (Request.of path query) →
    Target.resolve f path query = .ok t → Target.resolve g path query = .ok t →
    (Request.of path query).segment = name ∧ ∃ v w, f name = some v ∧ g name = some w ∧
      Substitution.interpolate f v = Substitution.interpolate g w

/-- **The key for signing content is told to whoever refers to it**, and to nobody else.  Two stores
with different keys that agree on all other names give different answers to what refers to the
key and the same answers to anything else, and the key that they tell is the one that content is
signed with. -/
theorem content_key_is_told_by_reference (a b : Store) (v w : String)
    (hv : a.get contentKeyName = some v) (hw : b.get contentKeyName = some w) (hv' : v ≠ "")
    (hw' : w ≠ "") (hne : v ≠ w)
    (hother : ∀ name, name ≠ contentKeyName → a.get name = b.get name) :
    ToldByReference contentKeyName a.get b.get ∧
      (∀ settings, Settings.ofLookup a.get = .ok settings → settings.contentKey = some v) ∧
      ∀ settings, Settings.ofLookup b.get = .ok settings → settings.contentKey = some w := by
  have h : DifferAt contentKeyName a.get b.get := ⟨⟨v, w, hv, hw, hne⟩, hother⟩
  refine ⟨?_, fun _ hsettings => contentKey_eq hsettings hv hv',
    fun _ hsettings => contentKey_eq hsettings hw hw'⟩
  exact
    { string := string?_eq_iff h
      interpolate := interpolate?_eq_iff h
      substitute := fun x => ⟨Json.isSubstituted_eq h x, Json.substitute_eq_iff h x⟩
      header := header?_eq_iff h
      query := query?_eq_iff h
      resolve := fun _ _ => resolve_congr h
      resolve_told := fun _ _ _ => interpolate_eq_of_resolve h }

/-- A longer name is another one, and `env:` in front of the name of the key tells it. -/
theorem content_key_is_told_behind_env :
    let a : Store := ⟨[("ED25519_PRIVATE_KEY", "bWFnaWM="), ("MODEL", "gpt-4")], "s3cret",
      by decide, by decide, by decide⟩
    let b : Store := ⟨[("MODEL", "gpt-4"), ("ED25519_PRIVATE_KEY", "b3RoZXI=")], "s3cret",
      by decide, by decide, by decide⟩
    interpolate? a.get "$MODEL and $ED25519_PRIVATE_KEYS" =
        interpolate? b.get "$MODEL and $ED25519_PRIVATE_KEYS" ∧
      string? a.get "env:ED25519_PRIVATE_KEY" ≠ string? b.get "env:ED25519_PRIVATE_KEY" := by
  intro a b
  have hother : ∀ name, name ≠ contentKeyName → a.get name = b.get name := by
    intro name hname
    have hkey : ¬ "ED25519_PRIVATE_KEY" = name := Ne.symm hname
    simp [a, b, Store.get, valueIn, List.find?_cons, hkey]
  obtain ⟨htold, -, -⟩ := content_key_is_told_by_reference a b "bWFnaWM=" "b3RoZXI="
    (by decide +kernel) (by decide +kernel) (by decide) (by decide) (by decide) hother
  have henv : Refers a.get contentKeyName "env:ED25519_PRIVATE_KEY" :=
    .env (by decide +kernel) (by decide +kernel)
  refine ⟨(htold.interpolate _).mpr (by decide +kernel), fun heq => ?_⟩
  exact (htold.string _).mp heq henv

/-- Every way to refer to an entry tells the key for signing content. -/
theorem content_key_is_disclosed :
    let a : Store := ⟨[("ED25519_PRIVATE_KEY", "bWFnaWM=")], "s3cret", by decide, by decide,
      by decide⟩
    let b : Store := ⟨[("ED25519_PRIVATE_KEY", "b3RoZXI=")], "s3cret", by decide, by decide,
      by decide⟩
    (∀ name, name ≠ contentKeyName → a.get name = b.get name) ∧
      (∀ text ∈ ["ED25519_PRIVATE_KEY", "env:ED25519_PRIVATE_KEY", "$ED25519_PRIVATE_KEY",
          "${ED25519_PRIVATE_KEY}", "\x7b$ED25519_PRIVATE_KEY\x7d"],
        string? a.get text = some "bWFnaWM=" ∧ string? b.get text = some "b3RoZXI=") ∧
      Substitution.interpolate a.get "$ED25519_PRIVATE_KEY" ≠
        Substitution.interpolate b.get "$ED25519_PRIVATE_KEY" ∧
      (Json.string "ED25519_PRIVATE_KEY").substitute a.get ≠
        (Json.string "ED25519_PRIVATE_KEY").substitute b.get ∧
      header? a.get "Authorization" "Bearer ED25519_PRIVATE_KEY" ≠
        header? b.get "Authorization" "Bearer ED25519_PRIVATE_KEY" ∧
      query? a.get "key=ED25519_PRIVATE_KEY" ≠ query? b.get "key=ED25519_PRIVATE_KEY" ∧
      Target.resolve a.get "/" (some "target=http://caller.example/$ED25519_PRIVATE_KEY") ≠
        Target.resolve b.get "/" (some "target=http://caller.example/$ED25519_PRIVATE_KEY") := by
  intro a b
  refine ⟨?_, by decide +kernel, by decide +kernel, ?_, by decide +kernel, by decide +kernel,
    by decide +kernel⟩
  · intro name hname
    have hkey : ¬ "ED25519_PRIVATE_KEY" = name := Ne.symm hname
    simp [a, b, Store.get, valueIn, hkey]
  · have htold : Substitution.string a.get "ED25519_PRIVATE_KEY" ≠
        Substitution.string b.get "ED25519_PRIVATE_KEY" := by decide +kernel
    exact fun heq => htold (Json.string.inj heq)

end Store

end CredentialGateway
