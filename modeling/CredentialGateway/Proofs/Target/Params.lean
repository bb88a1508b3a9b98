/-
Parameters that are given more than once.

A query may give a name many values, and some of them may be empty.  The one that ought to count is
the first that is not (`FirstFilled`).  The search takes the first value and then looks whether it
is empty, so it finds the right one unless an empty value is in front of it; and then it finds none
(`Hides`), as if the name were not in the query at all.

What the strategies learn of a query is what the search finds in it (`resolve_of_params`).  So a
value that is found routes the request, and one that is hidden leaves the route to the strategies
behind, which may add a key where the query asked for a URL without one.
-/
import Mathlib
import CredentialGateway.Proofs.Form.RoundTrip
import CredentialGateway.Proofs.Target.NoRoute

namespace CredentialGateway

namespace Form

variable {pairs : List (String × String)} {name v : String}

/-! ### The values of a name -/

/-- The values given under a name, in their order. -/
def values (pairs : List (String × String)) (name : String) : List String :=
  (pairs.filter fun p => p.1 = name).map Prod.snd

/-- A value that is not empty, and those given under its name before it are. -/
def FirstFilled (pairs : List (String × String)) (name v : String) : Prop :=
  v ≠ "" ∧ ∃ before after, values pairs name = before ++ v :: after ∧ ∀ e ∈ before, e = ""

/-- Whether the first value of a name is empty and another one is not. -/
structure Hides (pairs : List (String × String)) (name : String) : Prop where
  first : (values pairs name).head? = some ""
  filled : ∃ v ∈ values pairs name, v ≠ ""

/-- The pairs of all other names. -/
def without (pairs : List (String × String)) (name : String) : List (String × String) :=
  pairs.filter fun p => p.1 ≠ name

/-- Some value is the first filled one, unless all are empty. -/
theorem exists_firstFilled (h : ∃ v ∈ values pairs name, v ≠ "") :
    ∃ v, FirstFilled pairs name v := by
  obtain ⟨w, hw, hne⟩ := h
  cases hfind : (values pairs name).find? fun v => !v.isEmpty with
  | none => exact absurd (by simpa using List.find?_eq_none.mp hfind w hw) hne
  | some v =>
      obtain ⟨hfilled, before, after, hvalues, hempty⟩ := List.find?_eq_some_iff_append.mp hfind
      exact ⟨v, by simpa using hfilled, before, after, hvalues,
        fun e he => by simpa using hempty e he⟩

/-! ### What is found -/

/-- The search looks at the first value alone. -/
theorem param_eq (pairs : List (String × String)) (name : String) :
    param pairs name = (values pairs name).head?.filter fun v => !v.isEmpty := by
  rw [param, values, List.head?_map, List.head?_filter]

theorem param_eq_some_iff :
    param pairs name = some v ↔ (values pairs name).head? = some v ∧ v ≠ "" := by
  rw [param_eq, Option.filter_eq_some_iff]
  simp

/-- What is found is the first filled value. -/
theorem firstFilled_of_param (h : param pairs name = some v) : FirstFilled pairs name v := by
  obtain ⟨hhead, hne⟩ := param_eq_some_iff.mp h
  obtain ⟨after, hvalues⟩ := List.head?_eq_some_iff.mp hhead
  exact ⟨hne, [], after, hvalues, List.forall_mem_nil _⟩

/-- Among empty values nothing is hidden. -/
theorem not_hides_of_empty (h : ∀ v ∈ values pairs name, v = "") : ¬ Hides pairs name := by
  rintro ⟨-, v, hv, hne⟩
  exact hne (h v hv)

/-- Nothing is found of a hidden value. -/
theorem Hides.param_eq_none (h : Hides pairs name) : param pairs name = none := by
  rw [param_eq, h.first]
  rfl

/-- The first filled value is found, unless it is hidden. -/
theorem FirstFilled.param (h : FirstFilled pairs name v) (hshown : ¬ Hides pairs name) :
    param pairs name = some v := by
  obtain ⟨hne, before, after, hvalues, hempty⟩ := h
  rw [param_eq_some_iff, hvalues]
  cases before with
  | nil => exact ⟨rfl, hne⟩
  | cons e rest =>
      obtain rfl : e = "" := hempty e List.mem_cons_self
      refine absurd ⟨?_, v, ?_, hne⟩ hshown
      · rw [hvalues]
        rfl
      · rw [hvalues]
        exact List.mem_append_right _ List.mem_cons_self

/-- **The first filled value is found, and none if there is none, unless a value is hidden.** -/
theorem param_of_not_hides (hshown : ¬ Hides pairs name) :
    (∀ v, Form.param pairs name = some v ↔ FirstFilled pairs name v) ∧
      (Form.param pairs name = none ↔ ∀ v ∈ values pairs name, v = "") := by
  refine ⟨fun v => ⟨firstFilled_of_param, fun hfirst => hfirst.param hshown⟩, ?_⟩
  constructor
  · intro hnone
    by_contra hfilled
    push Not at hfilled
    obtain ⟨v, hfirst⟩ := exists_firstFilled hfilled
    rw [hfirst.param hshown] at hnone
    cases hnone
  · intro hempty
    rw [Option.eq_none_iff_forall_ne_some]
    intro v hfound
    obtain ⟨hhead, hne⟩ := param_eq_some_iff.mp hfound
    exact hne (hempty v (List.mem_of_head? hhead))

/-! ### Queries without a name -/

theorem values_without_self (pairs : List (String × String)) (name : String) :
    values (without pairs name) name = [] := by
  simp [values, without]

theorem values_without {other : String} (h : other ≠ name) :
    values (without pairs name) other = values pairs other := by
  rw [values, values, without, List.filter_filter]
  congr 1
  refine List.filter_congr fun p _ => ?_
  by_cases hp : p.1 = other
  · simp [hp, h]
  · simp [hp]

/-- A name with a hidden value might as well not be in the query. -/
theorem Hides.param_without (h : Hides pairs name) (other : String) :
    Form.param (without pairs name) other = Form.param pairs other := by
  by_cases hother : other = name
  · rw [hother, h.param_eq_none, param_eq, values_without_self]
    rfl
  · rw [param_eq, param_eq, values_without hother]

end Form

namespace Target

variable {get : Lookup} {path : String} {query : Option String}

/-! ### The route of a query -/

/-- The strategies see of a query what is found in it. -/
theorem candidate?_of_params {r : Request} {pairs : List (String × String)}
    (h : ∀ name, Form.param pairs name = Form.param r.params name) :
    candidate? get { r with params := pairs } = candidate? get r := by
  simp only [candidate?, ofTargetParam?, ofConfigName, ofOthers?, ofServicePath?, ofServiceParam?,
    ofDerivedUrl?, ofDefault?, h]

/-- **Queries in which the same is found have the same route.** -/
theorem resolve_of_params {first second : String}
    (h : ∀ name, Form.param (Form.parse first) name = Form.param (Form.parse second) name) :
    resolve get path (some first) = resolve get path (some second) := by
  have hcandidate : candidate? get (Request.of path (some first)) =
      candidate? get (Request.of path (some second)) :=
    candidate?_of_params (r := Request.of path (some second)) h
  simp only [resolve, hcandidate]
  rfl

/-- A name with a hidden value has no part in the route. -/
theorem resolve_of_hides {text name : String} (h : Form.Hides (Form.parse text) name) :
    resolve get path (some text) = resolve get path
      (some (String.ofList (Form.render (Form.without (Form.parse text) name)))) := by
  refine resolve_of_params fun other => ?_
  rw [Form.parse_render, h.param_without]

/-- What comes of a request for which a target is found: the target with the references in its URL
replaced, or a failure if that URL is blank. -/
structure RoutesTo (get : Lookup) (path : String) (query : Option String) (t : Target) : Prop where
  full : ¬ BlankUrl get t.baseUrl →
    resolve get path query = .ok { t with baseUrl := Substitution.interpolate get t.baseUrl }
  blank : BlankUrl get t.baseUrl →
    resolve get path query = .error (.noRoute (Request.of path query).path)

theorem routesTo_of_candidate {t : Target} (h : candidate? get (Request.of path query) = some t) :
    RoutesTo get path query t := by
  constructor
  · intro hfull
    exact resolve_eq_ok_iff.mpr ⟨t, h, settle?_eq_some_iff.mpr ⟨hfull, rfl⟩⟩
  · intro hblank
    rw [resolve_eq_error_iff, h, Option.bind_some]
    exact ⟨settle?_eq_none_iff.mpr hblank, rfl⟩

/-- A URL that is found in the query is the target. -/
theorem candidate?_of_target {r : Request} {url : String}
    (h : Form.param r.params "target" = some url) :
    candidate? get r = some ⟨url, none, r.path, .targetParam⟩ := by
  simp only [candidate?, ofTargetParam?, h, Option.map_some]

/-- A service that is found in the query is the target if no strategy in front has one. -/
theorem candidate?_of_serviceParam {r : Request} {service url key : String}
    (hparam : Form.param r.params "target" = none)
    (hentry : ∀ value, ¬ Offers get r .configName value)
    (hpath : ∀ other, ¬ Offers get r .servicePath other)
    (hservice : Form.param r.params "service" = some service)
    (hcredentials : Service.credentials? get service = some (url, key)) :
    candidate? get r = some ⟨url, some key, r.path, .serviceParam⟩ := by
  have htarget : ofTargetParam? r = none := Option.map_eq_none_iff.mpr hparam
  have hsegment : get r.segment = none :=
    Option.map_eq_none_iff.mp (offered?_eq_none_iff.mpr hentry)
  have hnone : ofServicePath? get r = none := offered?_eq_none_iff.mpr hpath
  have hfound : ofServiceParam? get r = some ⟨url, some key, r.path, .serviceParam⟩ :=
    ofServiceParam?_eq_some_iff.mpr ⟨service, url, key, hservice, hcredentials, rfl⟩
  simp only [candidate?, htarget, hsegment, ofOthers?, hnone, hfound, Option.none_or,
    Option.some_or]

/-- A target that the query names is its first filled one. -/
theorem firstFilled_of_target {t : Target} (h : resolve get path query = .ok t)
    (hstrategy : t.strategy = .targetParam) :
    ∃ url, Form.FirstFilled (Request.of path query).params "target" url ∧
      t = ⟨Substitution.interpolate get url, none, (Request.of path query).path, .targetParam⟩ := by
  obtain ⟨u, hfound, rfl⟩ := exists_found_of_resolve h
  cases hfound with
  | configName | servicePath | serviceParam | derivedUrl | default => cases hstrategy
  | targetParam hparam => exact ⟨_, Form.firstFilled_of_param hparam, rfl⟩

/-- The target of a service that the query names is that of the first filled one. -/
theorem firstFilled_of_serviceParam {t : Target} (h : resolve get path query = .ok t)
    (hstrategy : t.strategy = .serviceParam) :
    ∃ service url key, Form.FirstFilled (Request.of path query).params "service" service ∧
      Service.credentials? get service = some (url, key) ∧
      t = ⟨Substitution.interpolate get url, some key, (Request.of path query).path,
        .serviceParam⟩ := by
  obtain ⟨u, hfound, rfl⟩ := exists_found_of_resolve h
  cases hfound with
  | targetParam | configName | servicePath | derivedUrl | default => cases hstrategy
  | serviceParam hparam hservice =>
      exact ⟨_, _, _, Form.firstFilled_of_param hparam, hservice, rfl⟩

/-- **The first filled value routes, unless an empty one hides it.**  Under a name of which no value
is hidden, the first filled value is found, and none exactly when all are empty.  A name with a
hidden value has a filled one, and yet the route is that of the query without the name.  The first
filled URL that is given for a target is the target, without a key.  The first filled name that is
given for a service leads to its URL with its key, if all targets are empty and neither an entry
nor a service in the path comes first.  No other values of the two are ever followed. -/
theorem first_filled_value_routes (s : Store) (path query : String) :
    let pairs := Form.parse query
    let r := Request.of path (some query)
    (∀ name, ¬ Form.Hides pairs name →
      (∀ v, Form.param pairs name = some v ↔ Form.FirstFilled pairs name v) ∧
      (Form.param pairs name = none ↔ ∀ v ∈ Form.values pairs name, v = "")) ∧
    (∀ name, Form.Hides pairs name → Form.param pairs name = none ∧
      (∃ v, Form.FirstFilled pairs name v) ∧
      resolve s.get path (some query) =
        resolve s.get path (some (String.ofList (Form.render (Form.without pairs name))))) ∧
    (∀ url, ¬ Form.Hides pairs "target" → Form.FirstFilled pairs "target" url →
      RoutesTo s.get path (some query) ⟨url, none, r.path, .targetParam⟩) ∧
    (∀ service url key, (∀ v ∈ Form.values pairs "target", v = "") →
      (∀ value, ¬ Offers s.get r .configName value) →
      (∀ other, ¬ Offers s.get r .servicePath other) →
      ¬ Form.Hides pairs "service" → Form.FirstFilled pairs "service" service →
      Service.credentials? s.get service = some (url, key) →
      RoutesTo s.get path (some query) ⟨url, some key, r.path, .serviceParam⟩) ∧
    ∀ t, resolve s.get path (some query) = .ok t →
      (t.strategy = .targetParam → ∃ url, Form.FirstFilled pairs "target" url ∧
        t = ⟨Substitution.interpolate s.get url, none, r.path, .targetParam⟩) ∧
      (t.strategy = .serviceParam → ∃ service url key, Form.FirstFilled pairs "service" service ∧
        Service.credentials? s.get service = some (url, key) ∧
        t = ⟨Substitution.interpolate s.get url, some key, r.path, .serviceParam⟩) := by
  intro pairs r
  refine ⟨fun name => Form.param_of_not_hides, ?_, ?_, ?_, ?_⟩
  · intro name hhides
    exact ⟨hhides.param_eq_none, Form.exists_firstFilled hhides.filled, resolve_of_hides hhides⟩
  · intro url hshown hfirst
    exact routesTo_of_candidate (candidate?_of_target (hfirst.param hshown))
  · intro service url key hempty hentry hpath hshown hfirst hcredentials
    have hnone : Form.param r.params "target" = none :=
      (Form.param_of_not_hides (Form.not_hides_of_empty hempty)).2.mpr hempty
    exact routesTo_of_candidate
      (candidate?_of_serviceParam hnone hentry hpath (hfirst.param hshown) hcredentials)
  · intro t h
    exact ⟨firstFilled_of_target h, firstFilled_of_serviceParam h⟩

/-- Two empty targets, and a service in front of an empty one and of another. -/
theorem deepseek_is_reached_by_first_value :
    let s : Store := ⟨[("DEEPSEEK_API_BASE_URL", "https://${HOST}/v1"), ("HOST", "deep.example"),
      ("DEEPSEEK_API_KEY", "sk-2"), ("OPENAI_API_BASE_URL", "https://openai.example"),
      ("OPENAI_API_KEY", "sk-1")], "s3cret", by decide, by decide, by decide⟩
    let query := "target=&service=deep%73eek&target&x=1&service=&service=openai"
    Form.values (Form.parse query) "service" = ["deepseek", "", "openai"] ∧
      resolve s.get "/v1/chat" (some query) =
        .ok ⟨"https://deep.example/v1", some "sk-2", "v1/chat", .serviceParam⟩ := by
  intro s query
  have hvalues : Form.values (Form.parse query) "service" = ["deepseek", "", "openai"] := by
    decide +kernel
  have hshown : ¬ Form.Hides (Form.parse query) "service" := by
    intro hhides
    have hfirst := hhides.first
    rw [hvalues] at hfirst
    exact absurd hfirst (by decide)
  have hroute := (first_filled_value_routes s "/v1/chat" query).2.2.2.1 "deepseek"
    "https://${HOST}/v1" "sk-2" (by decide +kernel) (offered?_eq_none_iff.mp (by decide +kernel))
    (offered?_eq_none_iff.mp (by decide +kernel)) hshown
    ⟨by decide, [], ["", "openai"], hvalues, by decide⟩ (by decide +kernel)
  have hfull : ¬ BlankUrl s.get "https://${HOST}/v1" := by
    unfold BlankUrl
    decide +kernel
  have hinterpolate : Substitution.interpolate s.get "https://${HOST}/v1" =
      "https://deep.example/v1" := by decide +kernel
  have hpath : (Request.of "/v1/chat" (some query)).path = "v1/chat" := by decide +kernel
  refine ⟨hvalues, ?_⟩
  rw [hroute.full hfull, hinterpolate, hpath]

/-- An empty target hides the URL behind it, and the request goes to a service, with its key. -/
theorem empty_target_hides_target :
    let s : Store := ⟨[("OPENAI_API_BASE_URL", "https://api.openai.example/v1"),
      ("OPENAI_API_KEY", "sk-1")], "s3cret", by decide, by decide, by decide⟩
    let query := "target=&target=https://b.example"
    Form.FirstFilled (Form.parse query) "target" "https://b.example" ∧
      Form.param (Form.parse query) "target" = none ∧
      resolve s.get "/openai/chat" (some query) =
        .ok ⟨"https://api.openai.example/v1", some "sk-1", "chat", .servicePath⟩ := by
  intro s query
  refine ⟨⟨by decide, [""], [], ?_, by decide⟩, ?_, ?_⟩ <;> decide +kernel

end Target

end CredentialGateway
