/-
A backend's key goes to that backend only.

The strategies make the names of a URL and of its key in different ways: by cutting an
end off a name, by putting ends behind a segment in upper case, by doing so with a
value of the query.  `Found` says once what each of them finds and under which
conditions.  In every case where there is a key, both names turn out to have one start,
and the last step replaces references in the URL and leaves the key alone.
-/
import Mathlib
import CredentialGateway.Proofs.Text.Cut
import CredentialGateway.Target

namespace CredentialGateway

theorem Service.credentials?_eq_some_iff {get : Lookup} {name url key : String} :
    credentials? get name = some (url, key) ↔
      get (Text.upperString name ++ baseUrlEnd) = some url ∧
        get (Text.upperString name ++ keyEnd) = some key := by
  simp only [credentials?, Option.bind_eq_bind, Option.bind_eq_some_iff, Option.pure_def,
    Option.some_inj, Prod.mk.injEq]
  constructor
  · rintro ⟨_, hurl, _, hkey, rfl, rfl⟩
    exact ⟨hurl, hkey⟩
  · rintro ⟨hurl, hkey⟩
    exact ⟨url, hurl, key, hkey, rfl, rfl⟩

theorem Service.upperString_supported {name : String} (h : name ∈ supported) :
    Text.upperString name = name := by
  have hall : ∀ name ∈ supported, Text.upperString name = name := by decide +kernel
  exact hall name h

/-- The URL and the key of a supported service stand under its name as it is. -/
theorem Service.credentials?_of_supported {get : Lookup} {name url key : String}
    (h : name ∈ supported) : credentials? get name = some (url, key) ↔
      get (name ++ baseUrlEnd) = some url ∧ get (name ++ keyEnd) = some key := by
  rw [credentials?_eq_some_iff, upperString_supported h]

namespace Target

variable {get : Lookup} {r : Request} {t : Target}

/-! ### What the strategies ask for -/

theorem ofServicePath?_eq_some_iff :
    ofServicePath? get r = some t ↔ ∃ rest url key, r.rest = some rest ∧
      Text.upperString r.segment ∈ Service.supported ∧
      Service.credentials? get (Text.upperString r.segment) = some (url, key) ∧
      t = ⟨url, some key, rest, .servicePath⟩ := by
  unfold ofServicePath?
  simp only [Option.bind_eq_bind, Option.bind_eq_some_iff]
  constructor
  · rintro ⟨rest, hrest, h⟩
    split at h
    · rename_i hsupported
      obtain ⟨⟨url, key⟩, hservice, h⟩ := Option.bind_eq_some_iff.mp h
      cases h
      exact ⟨rest, url, key, hrest, hsupported, hservice, rfl⟩
    · cases h
  · rintro ⟨rest, url, key, hrest, hsupported, hservice, rfl⟩
    refine ⟨rest, hrest, ?_⟩
    rw [if_pos hsupported, hservice]
    rfl

theorem ofServiceParam?_eq_some_iff :
    ofServiceParam? get r = some t ↔ ∃ service url key,
      Form.param r.params "service" = some service ∧
      Service.credentials? get service = some (url, key) ∧
      t = ⟨url, some key, r.path, .serviceParam⟩ := by
  unfold ofServiceParam?
  simp only [Option.bind_eq_bind, Option.bind_eq_some_iff]
  constructor
  · rintro ⟨service, hparam, ⟨url, key⟩, hservice, h⟩
    cases h
    exact ⟨service, url, key, hparam, hservice, rfl⟩
  · rintro ⟨service, url, key, hparam, hservice, rfl⟩
    exact ⟨service, hparam, (url, key), hservice, rfl⟩

theorem ofDerivedUrl?_eq_some_iff :
    ofDerivedUrl? get r = some t ↔ ∃ rest url, r.rest = some rest ∧
      get (Text.upperString r.segment ++ urlEnd) = some url ∧
      t = ⟨url, get (Text.upperString r.segment ++ Service.keyEnd), rest, .derivedUrl⟩ := by
  unfold ofDerivedUrl?
  simp only [Option.bind_eq_bind, Option.bind_eq_some_iff]
  constructor
  · rintro ⟨rest, hrest, url, hurl, h⟩
    cases h
    exact ⟨rest, url, hrest, hurl, rfl⟩
  · rintro ⟨rest, url, hrest, hurl, rfl⟩
    exact ⟨rest, hrest, url, hurl, rfl⟩

theorem ofDefault?_eq_some_iff :
    ofDefault? get r = some t ↔ ∃ url, get defaultName = some url ∧ url.isEmpty = false ∧
      t = ⟨url, none, r.path, .default⟩ := by
  unfold ofDefault?
  simp only [Option.map_eq_some_iff, Option.filter_eq_some_iff, Bool.not_eq_true']
  constructor
  · rintro ⟨url, ⟨hurl, hne⟩, rfl⟩
    exact ⟨url, hurl, hne, rfl⟩
  · rintro ⟨url, hurl, hne, rfl⟩
    exact ⟨url, ⟨hurl, hne⟩, rfl⟩

/-! ### What the strategies find -/

/-- A target as its strategy finds it. -/
inductive Found (get : Lookup) (r : Request) : Target → Prop where
  | targetParam {url : String} (hparam : Form.param r.params "target" = some url) :
      Found get r ⟨url, none, r.path, .targetParam⟩
  | configName {value : String} (hvalue : get r.segment = some value)
      (hweb : isWebUrl (Substitution.interpolate get value) = true) :
      Found get r ⟨value, siblingKey? get r.segment, r.rest.getD "", .configName⟩
  | servicePath {rest url key : String} (hrest : r.rest = some rest)
      (hsupported : Text.upperString r.segment ∈ Service.supported)
      (hservice : Service.credentials? get (Text.upperString r.segment) = some (url, key)) :
      Found get r ⟨url, some key, rest, .servicePath⟩
  | serviceParam {service url key : String} (hparam : Form.param r.params "service" = some service)
      (hservice : Service.credentials? get service = some (url, key)) :
      Found get r ⟨url, some key, r.path, .serviceParam⟩
  | derivedUrl {rest url : String} (hrest : r.rest = some rest)
      (hurl : get (Text.upperString r.segment ++ urlEnd) = some url) :
      Found get r ⟨url, get (Text.upperString r.segment ++ Service.keyEnd), rest, .derivedUrl⟩
  | default {url : String} (hurl : get defaultName = some url) (hne : url.isEmpty = false) :
      Found get r ⟨url, none, r.path, .default⟩

/-- Whatever strategy decides, the target is what that strategy finds. -/
theorem found_candidate? (h : candidate? get r = some t) : Found get r t := by
  rw [candidate?] at h
  cases hparam : ofTargetParam? r with
  | some u =>
      rw [hparam] at h
      cases h
      obtain ⟨url, hurl, rfl⟩ := Option.map_eq_some_iff.mp hparam
      exact .targetParam hurl
  | none =>
      rw [hparam] at h
      cases hvalue : get r.segment with
      | some value =>
          simp only [hvalue] at h
          split at h
          · cases h
            exact .configName hvalue ‹_›
          · cases h
      | none =>
          simp only [hvalue, ofOthers?, Option.or_eq_some_iff] at h
          rcases h with h | ⟨-, h | ⟨-, h | ⟨-, h⟩⟩⟩
          · obtain ⟨rest, url, key, hrest, hsupported, hservice, rfl⟩ :=
              ofServicePath?_eq_some_iff.mp h
            exact .servicePath hrest hsupported hservice
          · obtain ⟨service, url, key, hparam, hservice, rfl⟩ := ofServiceParam?_eq_some_iff.mp h
            exact .serviceParam hparam hservice
          · obtain ⟨rest, url, hrest, hurl, rfl⟩ := ofDerivedUrl?_eq_some_iff.mp h
            exact .derivedUrl hrest hurl
          · obtain ⟨url, hurl, hne, rfl⟩ := ofDefault?_eq_some_iff.mp h
            exact .default hurl hne

/-! ### Keys and the URLs beside them -/

/-- A key and a URL that stand under names with one start. -/
def Paired (get : Lookup) (key url : String) : Prop :=
  ∃ start, get (start ++ Service.keyEnd) = some key ∧
    (get (start ++ Service.baseUrlEnd) = some url ∨ get (start ++ urlEnd) = some url)

/-- The key beside an entry with a URL has that entry's start. -/
theorem siblingKey?_eq_some {name key : String} (h : siblingKey? get name = some key) :
    ∃ start, get (start ++ Service.keyEnd) = some key ∧
      (name = start ++ Service.baseUrlEnd ∨ name = start ++ urlEnd) := by
  have hname : ∀ {start : List Char} {tail : String},
      Text.before? tail.toList name.toList = some start → name = String.ofList start ++ tail := by
    intro start tail hstart
    rw [← String.toList_inj, String.toList_append, String.toList_ofList]
    exact Text.before?_eq_some_iff.mp hstart
  obtain ⟨start, hstart, hkey⟩ := Option.bind_eq_some_iff.mp h
  refine ⟨String.ofList start, hkey, ?_⟩
  rcases Option.or_eq_some_iff.mp hstart with hbase | ⟨-, hurl⟩
  · exact Or.inl (hname hbase)
  · exact Or.inr (hname hurl)

theorem Found.paired (h : Found get r t) {key : String} (hkey : t.key = some key) :
    Paired get key t.baseUrl := by
  cases h with
  | targetParam => cases hkey
  | @configName value hvalue =>
      obtain ⟨start, hsibling, hname⟩ := siblingKey?_eq_some hkey
      refine ⟨start, hsibling, ?_⟩
      rcases hname with hname | hname
      · exact Or.inl (by rw [← hname]; exact hvalue)
      · exact Or.inr (by rw [← hname]; exact hvalue)
  | servicePath hrest hsupported hservice =>
      obtain ⟨hurl, hserviceKey⟩ := Service.credentials?_eq_some_iff.mp hservice
      cases hkey
      exact ⟨_, hserviceKey, Or.inl hurl⟩
  | serviceParam hparam hservice =>
      obtain ⟨hurl, hserviceKey⟩ := Service.credentials?_eq_some_iff.mp hservice
      cases hkey
      exact ⟨_, hserviceKey, Or.inl hurl⟩
  | derivedUrl hrest hurl => exact ⟨_, hkey, Or.inr hurl⟩
  | default => cases hkey

theorem Found.key_eq_none (h : Found get r t)
    (hstrategy : t.strategy = .targetParam ∨ t.strategy = .default) : t.key = none := by
  cases h with
  | targetParam | default => rfl
  | configName | servicePath | serviceParam | derivedUrl =>
      rcases hstrategy with hstrategy | hstrategy <;> cases hstrategy

/-! ### The answer -/

theorem settle?_eq_some_iff {u : Target} :
    settle? get u = some t ↔ Text.trimBlank t.baseUrl.toList ≠ [] ∧
      t = { u with baseUrl := Substitution.interpolate get u.baseUrl } := by
  rw [settle?]
  constructor
  · intro h
    split at h
    · cases h
    · rename_i hblank
      cases h
      exact ⟨fun hnil => hblank (List.isEmpty_iff.mpr hnil), rfl⟩
  · rintro ⟨hblank, rfl⟩
    rw [if_neg fun hempty => hblank (List.isEmpty_iff.mp hempty)]

theorem resolve_eq_ok_iff {path : String} {query : Option String} :
    resolve get path query = .ok t ↔
      ∃ u, candidate? get (Request.of path query) = some u ∧ settle? get u = some t := by
  rw [resolve, ← Option.bind_eq_some_iff]
  cases (candidate? get (Request.of path query)).bind (settle? get) <;> simp

theorem resolve_eq_error_iff {path : String} {query : Option String} {failure : Failure} :
    resolve get path query = .error failure ↔
      (candidate? get (Request.of path query)).bind (settle? get) = none ∧
        failure = .noRoute (Request.of path query).path := by
  rw [resolve]
  cases (candidate? get (Request.of path query)).bind (settle? get) with
  | none => simp [eq_comm]
  | some t => simp

/-- A target that is found is resolved by replacing the references in its URL. -/
theorem exists_found_of_resolve {path : String} {query : Option String}
    (h : resolve get path query = .ok t) :
    ∃ u, Found get (Request.of path query) u ∧
      t = { u with baseUrl := Substitution.interpolate get u.baseUrl } := by
  obtain ⟨u, hcandidate, hsettle⟩ := resolve_eq_ok_iff.mp h
  exact ⟨u, found_candidate? hcandidate, (settle?_eq_some_iff.mp hsettle).2⟩

/-- **Keys are not crossed between services.**  The key of a target stands in the store under a
name that starts as the name of its URL does, and a target that the query or the default names
has no key. -/
theorem key_stands_beside_url (s : Store) (path : String) (query : Option String) (t : Target)
    (h : resolve s.get path query = .ok t) :
    (∀ key, t.key = some key →
      ∃ start url, s.get (start ++ "_API_KEY") = some key ∧
        (s.get (start ++ "_API_BASE_URL") = some url ∨ s.get (start ++ "_API_URL") = some url) ∧
        t.baseUrl = Substitution.interpolate s.get url) ∧
    (t.strategy = .targetParam ∨ t.strategy = .default → t.key = none) := by
  obtain ⟨u, hfound, rfl⟩ := exists_found_of_resolve h
  constructor
  · intro key hkey
    obtain ⟨start, hstart, hurl⟩ := hfound.paired hkey
    exact ⟨start, u.baseUrl, hstart, hurl, rfl⟩
  · exact hfound.key_eq_none

/-- A key of one service beside a base URL of it and a key of another. -/
theorem openai_key_stands_beside_url :
    let s : Store := ⟨[("OPENAI_API_KEY", "sk-1"), ("DEEPSEEK_API_KEY", "sk-2"),
      ("OPENAI_API_BASE_URL", "https://host/${V}"), ("V", "v1")], "s3cret", by decide, by decide,
      by decide⟩
    let t : Target := ⟨"https://host/v1", some "sk-1", "models", .servicePath⟩
    resolve s.get "/openai/models/" (some "a=b") = .ok t ∧
      ∃ start url, s.get (start ++ "_API_KEY") = some "sk-1" ∧
        (s.get (start ++ "_API_BASE_URL") = some url ∨ s.get (start ++ "_API_URL") = some url) ∧
        t.baseUrl = Substitution.interpolate s.get url := by
  intro s t
  have h : resolve s.get "/openai/models/" (some "a=b") = .ok t := by decide +kernel
  exact ⟨h, (key_stands_beside_url s _ _ t h).1 "sk-1" rfl⟩

end Target

end CredentialGateway
