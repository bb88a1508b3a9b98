/-
Which strategy decides.

Each strategy has a URL for a request or it has none, and what it has for it is said here
apart from the code that looks for it (`Offers`).  The search is a search through the list
of the strategies, and it ends at the first one that has a URL (`candidate?_eq`).  There is
one exception: if that is an entry with the name of the first segment and its value is no
URL of the web, nothing is found, and the strategies behind it are not asked.

All the ways in which there is no target are one failure, and it tells the path alone.
-/
import Mathlib
import CredentialGateway.Proofs.Target.Key

namespace CredentialGateway

/-- The strategies in the order in which they are tried. -/
def Strategy.all : List Strategy :=
  [targetParam, configName, servicePath, serviceParam, derivedUrl, default]

namespace Target

variable {get : Lookup} {r : Request} {t : Target} {s : Strategy} {url : String}

/-- What URL a strategy has for a request, before the references in it are replaced. -/
inductive Offers (get : Lookup) (r : Request) : Strategy → String → Prop where
  /-- The first value that the query gives for a target is not empty. -/
  | targetParam {url : String} (hparam : Form.param r.params "target" = some url) :
      Offers get r .targetParam url
  /-- The first segment is the name of an entry. -/
  | configName {url : String} (hvalue : get r.segment = some url) : Offers get r .configName url
  /-- The first segment has a slash behind it and is in upper case the name of a supported service
  with a URL and a key. -/
  | servicePath {rest url key : String} (hrest : r.rest = some rest)
      (hsupported : Text.upperString r.segment ∈ Service.supported)
      (hurl : get (Text.upperString r.segment ++ "_API_BASE_URL") = some url)
      (hkey : get (Text.upperString r.segment ++ "_API_KEY") = some key) :
      Offers get r .servicePath url
  /-- The first value that the query gives for a service is not empty and is in upper case the name
  of a service with a URL and a key. -/
  | serviceParam {service url key : String}
      (hparam : Form.param r.params "service" = some service)
      (hurl : get (Text.upperString service ++ "_API_BASE_URL") = some url)
      (hkey : get (Text.upperString service ++ "_API_KEY") = some key) :
      Offers get r .serviceParam url
  /-- The first segment has a slash behind it and in upper case begins the name of a URL. -/
  | derivedUrl {rest url : String} (hrest : r.rest = some rest)
      (hurl : get (Text.upperString r.segment ++ "_API_URL") = some url) :
      Offers get r .derivedUrl url
  /-- There is a URL for all other requests, and it is not empty. -/
  | default {url : String} (hurl : get "DEFAULT_API_URL" = some url) (hne : url ≠ "") :
      Offers get r .default url

/-! ### The search -/

/-- The target that a strategy has for a request, whether or not an earlier one has another. -/
def offered? (get : Lookup) (r : Request) : Strategy → Option Target
  | .targetParam => ofTargetParam? r
  | .configName => (get r.segment).map (ofConfigName get r)
  | .servicePath => ofServicePath? get r
  | .serviceParam => ofServiceParam? get r
  | .derivedUrl => ofDerivedUrl? get r
  | .default => ofDefault? get r

/-- Whether a target may be used: the value of an entry that the path names must be a URL. -/
def usable (get : Lookup) (t : Target) : Bool :=
  t.strategy ≠ .configName || isWebUrl (Substitution.interpolate get t.baseUrl)

/-- A strategy that has a target has its URL. -/
theorem offers_of_offered? (h : offered? get r s = some t) :
    t.strategy = s ∧ Offers get r s t.baseUrl := by
  cases s with
  | targetParam =>
      obtain ⟨url, hparam, rfl⟩ := Option.map_eq_some_iff.mp h
      exact ⟨rfl, .targetParam hparam⟩
  | configName =>
      obtain ⟨value, hvalue, rfl⟩ := Option.map_eq_some_iff.mp h
      exact ⟨rfl, .configName hvalue⟩
  | servicePath =>
      obtain ⟨rest, url, key, hrest, hsupported, hservice, rfl⟩ := ofServicePath?_eq_some_iff.mp h
      obtain ⟨hurl, hkey⟩ := (Service.credentials?_of_supported hsupported).mp hservice
      exact ⟨rfl, .servicePath hrest hsupported hurl hkey⟩
  | serviceParam =>
      obtain ⟨service, url, key, hparam, hservice, rfl⟩ := ofServiceParam?_eq_some_iff.mp h
      obtain ⟨hurl, hkey⟩ := Service.credentials?_eq_some_iff.mp hservice
      exact ⟨rfl, .serviceParam hparam hurl hkey⟩
  | derivedUrl =>
      obtain ⟨rest, url, hrest, hurl, rfl⟩ := ofDerivedUrl?_eq_some_iff.mp h
      exact ⟨rfl, .derivedUrl hrest hurl⟩
  | default =>
      obtain ⟨url, hurl, hne, rfl⟩ := ofDefault?_eq_some_iff.mp h
      exact ⟨rfl, .default hurl (String.isEmpty_eq_false_iff.mp hne)⟩

/-- A strategy that has a URL has a target. -/
theorem exists_offered? (h : Offers get r s url) :
    ∃ t, offered? get r s = some t ∧ t.baseUrl = url := by
  cases h with
  | targetParam hparam => exact ⟨_, by rw [offered?, ofTargetParam?, hparam]; rfl, rfl⟩
  | configName hvalue => exact ⟨_, by rw [offered?, hvalue]; rfl, rfl⟩
  | @servicePath rest url key hrest hsupported hurl hkey =>
      have hservice := (Service.credentials?_of_supported hsupported).mpr ⟨hurl, hkey⟩
      exact ⟨_, ofServicePath?_eq_some_iff.mpr
        ⟨rest, url, key, hrest, hsupported, hservice, rfl⟩, rfl⟩
  | @serviceParam service url key hparam hurl hkey =>
      have hservice := Service.credentials?_eq_some_iff.mpr ⟨hurl, hkey⟩
      exact ⟨_, ofServiceParam?_eq_some_iff.mpr ⟨service, url, key, hparam, hservice, rfl⟩, rfl⟩
  | @derivedUrl rest url hrest hurl =>
      exact ⟨_, ofDerivedUrl?_eq_some_iff.mpr ⟨rest, url, hrest, hurl, rfl⟩, rfl⟩
  | @default url hurl hne =>
      have hfull : url.isEmpty = false := String.isEmpty_eq_false_iff.mpr hne
      exact ⟨_, ofDefault?_eq_some_iff.mpr ⟨url, hurl, hfull, rfl⟩, rfl⟩

theorem offered?_eq_none_iff : offered? get r s = none ↔ ∀ url, ¬ Offers get r s url := by
  constructor
  · intro hnone url hoffers
    obtain ⟨t, hsome, -⟩ := exists_offered? hoffers
    rw [hnone] at hsome
    cases hsome
  · intro hnone
    rw [Option.eq_none_iff_forall_ne_some]
    intro t hsome
    exact hnone _ (offers_of_offered? hsome).2

theorem usable_of_offered? (h : offered? get r s = some t) (hs : s ≠ .configName) :
    usable get t = true := by
  rw [usable, (offers_of_offered? h).1]
  simp [hs]

/-- The strategies behind the first two are searched in their order. -/
theorem ofOthers?_eq (get : Lookup) (r : Request) :
    ofOthers? get r =
      [Strategy.servicePath, .serviceParam, .derivedUrl, .default].findSome? (offered? get r) := by
  simp only [ofOthers?, List.findSome?_cons, List.findSome?_nil, offered?]
  cases ofServicePath? get r <;> cases ofServiceParam? get r <;> cases ofDerivedUrl? get r <;>
    cases ofDefault? get r <;> rfl

/-- The target of the first strategy that has one. -/
def first? (get : Lookup) (r : Request) : Option Target :=
  Strategy.all.findSome? (offered? get r)

/-- **The search ends at the first strategy that has a target.** -/
theorem candidate?_eq (get : Lookup) (r : Request) :
    candidate? get r = (first? get r).filter (usable get) := by
  rw [candidate?, first?, Strategy.all, List.findSome?_cons, List.findSome?_cons]
  cases htarget : ofTargetParam? r with
  | some t =>
      have hoffered : offered? get r .targetParam = some t := htarget
      rw [hoffered]
      exact (Option.filter_eq_some_iff.mpr
        ⟨rfl, usable_of_offered? hoffered (by decide)⟩).symm
  | none =>
      have hoffered : offered? get r .targetParam = none := htarget
      rw [hoffered]
      cases hvalue : get r.segment with
      | some value =>
          simp only [offered?, hvalue, Option.map_some, Option.filter_some, usable, ofConfigName,
            ne_eq, not_true_eq_false, decide_false, Bool.false_or]
      | none =>
          simp only [offered?, hvalue, Option.map_none]
          rw [← ofOthers?_eq]
          cases hothers : ofOthers? get r with
          | none => rfl
          | some t =>
              rw [ofOthers?_eq] at hothers
              obtain ⟨s, hs, hoffered⟩ := List.exists_of_findSome?_eq_some hothers
              refine (Option.filter_eq_some_iff.mpr ⟨rfl, usable_of_offered? hoffered ?_⟩).symm
              rintro rfl
              exact absurd hs (by decide)

/-- Whether a strategy has a URL for a request and no earlier one has. -/
def Earliest (get : Lookup) (r : Request) (s : Strategy) : Prop :=
  (∃ url, Offers get r s url) ∧
    ∃ before after, Strategy.all = before ++ s :: after ∧
      ∀ earlier ∈ before, ∀ url, ¬ Offers get r earlier url

theorem earliest_of_first? (h : first? get r = some t) :
    Earliest get r t.strategy ∧ Offers get r t.strategy t.baseUrl := by
  obtain ⟨before, s, after, hall, hoffered, hbefore⟩ := List.findSome?_eq_some_iff.mp h
  obtain ⟨rfl, hoffers⟩ := offers_of_offered? hoffered
  exact ⟨⟨⟨_, hoffers⟩, before, after, hall,
    fun earlier hearlier => offered?_eq_none_iff.mp (hbefore earlier hearlier)⟩, hoffers⟩

theorem earliest_of_candidate? (h : candidate? get r = some t) :
    Earliest get r t.strategy ∧ Offers get r t.strategy t.baseUrl := by
  rw [candidate?_eq, Option.filter_eq_some_iff] at h
  exact earliest_of_first? h.1

/-- The first strategy that has a URL has the first target. -/
theorem first?_of_earliest (hearliest : Earliest get r s) (hoffers : Offers get r s url) :
    ∃ t, first? get r = some t ∧ t.strategy = s ∧ t.baseUrl = url := by
  obtain ⟨t, hoffered, hurl⟩ := exists_offered? hoffers
  obtain ⟨-, before, after, hall, hbefore⟩ := hearliest
  have hnone : ∀ earlier ∈ before, offered? get r earlier = none := fun earlier hearlier =>
    offered?_eq_none_iff.mpr (hbefore earlier hearlier)
  refine ⟨t, ?_, (offers_of_offered? hoffered).1, hurl⟩
  exact List.findSome?_eq_some_iff.mpr ⟨before, s, after, hall, hoffered, hnone⟩

/-- An entry that the path names and that is no URL of the web ends the search. -/
theorem candidate?_of_entry {value : String} (hparam : Form.param r.params "target" = none)
    (hvalue : get r.segment = some value)
    (hweb : isWebUrl (Substitution.interpolate get value) = false) : candidate? get r = none := by
  have htarget : ofTargetParam? r = none := Option.map_eq_none_iff.mpr hparam
  simp only [candidate?, htarget, hvalue, hweb, Bool.false_eq_true, if_false]

/-! ### The answer -/

/-- The first strategy that has a URL finds the target, if the URL may be used and is not blank. -/
theorem exists_resolve_of_earliest {path : String} {query : Option String}
    (hearliest : Earliest get (Request.of path query) s)
    (hoffers : Offers get (Request.of path query) s url)
    (hweb : s = .configName → isWebUrl (Substitution.interpolate get url) = true)
    (hblank : Text.trimBlank (Substitution.interpolate get url).toList ≠ []) :
    ∃ t, resolve get path query = .ok t ∧ t.strategy = s ∧
      t.baseUrl = Substitution.interpolate get url := by
  obtain ⟨u, hfirst, rfl, rfl⟩ := first?_of_earliest hearliest hoffers
  have husable : usable get u = true := by
    rw [usable, Bool.or_eq_true, decide_eq_true_eq]
    exact (Decidable.em (u.strategy = .configName)).symm.imp_right hweb
  have hcandidate : candidate? get (Request.of path query) = some u := by
    rw [candidate?_eq, Option.filter_eq_some_iff]
    exact ⟨hfirst, husable⟩
  refine ⟨{ u with baseUrl := Substitution.interpolate get u.baseUrl }, ?_, rfl, rfl⟩
  exact resolve_eq_ok_iff.mpr ⟨u, hcandidate, settle?_eq_some_iff.mpr ⟨hblank, rfl⟩⟩

/-- **The first strategy that applies decides.**  A target that comes out has the URL of that
strategy with the references in it replaced, and that is not blank.  If the query names no target
and the first segment is the name of an entry, then the request has no route unless the entry is
a URL of the web, whatever else is configured.  Every failure is that there is no route, and what
it says is a matter of the path alone.  A target does come out if the URL of the first strategy is
not blank and, where it is that of an entry in the path, a URL of the web. -/
theorem first_strategy_decides (s : Store) (path : String) (query : Option String) :
    let r := Request.of path query
    (∀ t, resolve s.get path query = .ok t → Earliest s.get r t.strategy ∧
      ∃ url, Offers s.get r t.strategy url ∧ t.baseUrl = Substitution.interpolate s.get url ∧
        Text.trimBlank t.baseUrl.toList ≠ []) ∧
    (∀ value, Form.param r.params "target" = none → s.get r.segment = some value →
      isWebUrl (Substitution.interpolate s.get value) = false →
      resolve s.get path query = .error (.noRoute r.path)) ∧
    (∀ failure, resolve s.get path query = .error failure →
      failure = .noRoute (String.ofList (Text.trim isSlash path.toList)) ∧
      failure.message = "No backend configured for path: /" ++
        String.ofList (Text.trim isSlash path.toList)) ∧
    ∀ strategy url, Earliest s.get r strategy → Offers s.get r strategy url →
      (strategy = .configName → isWebUrl (Substitution.interpolate s.get url) = true) →
      Text.trimBlank (Substitution.interpolate s.get url).toList ≠ [] →
      ∃ t, resolve s.get path query = .ok t ∧ t.strategy = strategy ∧
        t.baseUrl = Substitution.interpolate s.get url := by
  intro r
  refine ⟨?_, ?_, ?_, fun _ _ => exists_resolve_of_earliest⟩
  · intro t h
    obtain ⟨u, hcandidate, hsettle⟩ := resolve_eq_ok_iff.mp h
    obtain ⟨hblank, rfl⟩ := settle?_eq_some_iff.mp hsettle
    obtain ⟨hearliest, hoffers⟩ := earliest_of_candidate? hcandidate
    exact ⟨hearliest, u.baseUrl, hoffers, rfl, hblank⟩
  · intro value hparam hvalue hweb
    rw [resolve_eq_error_iff, candidate?_of_entry hparam hvalue hweb]
    exact ⟨rfl, rfl⟩
  · intro failure h
    obtain ⟨-, rfl⟩ := resolve_eq_error_iff.mp h
    exact ⟨rfl, rfl⟩

/-- A service in the path comes before one in the query, and an empty target names none; the name
of a key in the path leads nowhere, though a service and a default stand by. -/
theorem service_in_path_decides :
    let s : Store := ⟨[("OPENAI_API_KEY", "sk-1"), ("DEEPSEEK_API_KEY", "sk-2"),
      ("OPENAI_API_BASE_URL", "https://${HOST}/v1"), ("HOST", "openai.example"),
      ("DEEPSEEK_API_BASE_URL", "https://deepseek.example"),
      ("DEFAULT_API_URL", "https://default.example")], "s3cret", by decide, by decide, by decide⟩
    let query := some "target=&service=deepseek"
    let t : Target := ⟨"https://openai.example/v1", some "sk-1", "chat", .servicePath⟩
    resolve s.get "/openai/chat/" query = .ok t ∧
      Earliest s.get (Request.of "/openai/chat/" query) .servicePath ∧
      resolve s.get "/OPENAI_API_KEY/chat" query = .error (.noRoute "OPENAI_API_KEY/chat") := by
  intro s query t
  have h : resolve s.get "/openai/chat/" query = .ok t := by decide +kernel
  refine ⟨h, ((first_strategy_decides s _ query).1 t h).1, ?_⟩
  exact (first_strategy_decides s "/OPENAI_API_KEY/chat" query).2.1 "sk-1" (by decide +kernel)
    (by decide +kernel) (by decide +kernel)

end Target

end CredentialGateway
