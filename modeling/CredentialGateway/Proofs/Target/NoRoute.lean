/-
When a request has no route.

The first strategy that has a URL decides, and the strategies behind it are not asked, so a
URL that turns out to be blank is the end of the matter.  Blankness is found out last: the
references in a URL are replaced after the strategy is chosen, and a URL that was not empty
may be blank by then.  A request is without a route in three ways: its path names an entry
that is no URL of the web; the strategy that decides has a blank URL; or no strategy has one
that is not blank.

The second way hides what is behind the strategy.  It takes a strategy with others behind it
that does not look at its URL: an entry that the path names must be a URL of the web, and
those are not blank (`not_isWebUrl_of_blank`), and behind the default there is nothing.
-/
import Mathlib
import CredentialGateway.Proofs.Target.Precedence
import CredentialGateway.Proofs.Url.Origin
import CredentialGateway.Text.Blank

namespace CredentialGateway

/-! ### Blank texts -/

/-- No letter is white space. -/
theorem Text.isAlpha_of_isBlank {c : Char} (h : isBlank c = true) : c.isAlpha = false := by
  rw [Bool.eq_false_iff]
  intro halpha
  have hletter : (65 ≤ c.toNat ∧ c.toNat ≤ 90) ∨ (97 ≤ c.toNat ∧ c.toNat ≤ 122) := by
    simpa [Char.isAlpha, Char.isUpper, Char.isLower, UInt32.le_iff_toNat_le] using halpha
  simp only [isBlank, Bool.or_eq_true, Bool.and_eq_true, decide_eq_true_eq, beq_iff_eq] at h
  omega

/-- A blank text is no URL: a scheme starts with a letter. -/
theorem Url.parse?_of_blank {text : String} (h : Text.trimBlank text.toList = []) :
    parse? text = none := by
  have hblank : ∀ c ∈ clean text.toList, Text.isBlank c = true := by
    intro c hc
    have hmem : c ∈ text.toList := Text.mem_of_mem_trim (List.mem_of_mem_filter hc)
    obtain ⟨lead, trail, hlead, htrail, htext⟩ := Text.trim_split Text.isBlank text.toList
    rw [Text.trimBlank] at h
    rw [htext, h, List.nil_append] at hmem
    exact (List.mem_append.mp hmem).elim (hlead c) (htrail c)
  cases hscheme : scheme? (clean text.toList) with
  | none => rw [parse?, hscheme]; rfl
  | some found =>
      obtain ⟨name, htext, -, halpha, -⟩ := scheme?_eq_some_iff.mp hscheme
      cases name with
      | nil => cases halpha
      | cons c name =>
          have hc : c ∈ clean text.toList := by rw [htext]; exact List.mem_cons_self
          have hletter : c.isAlpha = true := halpha
          rw [Text.isAlpha_of_isBlank (hblank c hc)] at hletter
          cases hletter

namespace Target

variable {get : Lookup} {r : Request} {s : Strategy} {url : String}

/-- Whether a URL is blank once the references in it are replaced. -/
def BlankUrl (get : Lookup) (url : String) : Prop :=
  Text.trimBlank (Substitution.interpolate get url).toList = []

/-- Whether the query names no target and the path an entry that is no URL of the web. -/
def NamesNoUrl (get : Lookup) (r : Request) : Prop :=
  Form.param r.params "target" = none ∧
    ∃ value, get r.segment = some value ∧ isWebUrl (Substitution.interpolate get value) = false

theorem not_isWebUrl_of_blank (h : BlankUrl get url) :
    isWebUrl (Substitution.interpolate get url) = false := by
  unfold isWebUrl
  rw [Url.parse?_of_blank h]

/-- A target with a blank URL is none. -/
theorem settle?_eq_none_iff {t : Target} : settle? get t = none ↔ BlankUrl get t.baseUrl := by
  unfold settle? BlankUrl
  simp [List.isEmpty_iff]

/-! ### What is in front of a strategy -/

theorem mem_before {before after : List Strategy} {earlier : Strategy}
    (hall : Strategy.all = before ++ s :: after)
    (hlt : Strategy.all.idxOf earlier < Strategy.all.idxOf s) : earlier ∈ before := by
  have hnodup : (before ++ s :: after).Nodup := hall ▸ by decide
  have hfresh : s ∉ before := by
    intro hmem
    exact List.disjoint_of_nodup_append hnodup hmem List.mem_cons_self
  by_contra hmem
  rw [hall, List.idxOf_append_of_notMem hmem, List.idxOf_append_of_notMem hfresh,
    List.idxOf_cons_self] at hlt
  omega

/-- No strategy in front of the first one that has a URL has any. -/
theorem Earliest.not_offers {earlier : Strategy} (h : Earliest get r s)
    (hlt : Strategy.all.idxOf earlier < Strategy.all.idxOf s) : ¬ Offers get r earlier url := by
  obtain ⟨-, before, after, hall, hbefore⟩ := h
  exact hbefore earlier (mem_before hall hlt) url

/-- If an entry decides and is no URL of the web, the query names no target. -/
theorem namesNoUrl_of_earliest (hearliest : Earliest get r .configName)
    (hoffers : Offers get r .configName url)
    (hweb : isWebUrl (Substitution.interpolate get url) = false) : NamesNoUrl get r := by
  cases hoffers with
  | configName hvalue =>
      refine ⟨?_, url, hvalue, hweb⟩
      rw [Option.eq_none_iff_forall_ne_some]
      intro target hparam
      exact hearliest.not_offers (by decide) (.targetParam hparam)

/-- If the default decides and its URL is blank, no strategy has a URL that is not. -/
theorem blank_of_default (hearliest : Earliest get r .default) (hoffers : Offers get r .default url)
    (hblank : BlankUrl get url) : ∀ strategy other, Offers get r strategy other →
      BlankUrl get other := by
  intro strategy other hother
  cases strategy with
  | targetParam | configName | servicePath | serviceParam | derivedUrl =>
      exact absurd hother (hearliest.not_offers (by decide))
  | default =>
      cases hoffers with
      | default hurl =>
          cases hother with
          | default hurl' =>
              rw [hurl, Option.some_inj] at hurl'
              rwa [← hurl']

/-! ### Failures -/

/-- There is a first strategy that has a URL, unless there is none at all. -/
theorem exists_earliest_or_none (get : Lookup) (r : Request) :
    (∃ s url, Earliest get r s ∧ Offers get r s url) ∨ ∀ s url, ¬ Offers get r s url := by
  cases hfirst : first? get r with
  | some t => exact .inl ⟨t.strategy, t.baseUrl, earliest_of_first? hfirst⟩
  | none =>
      right
      intro s
      rw [first?, List.findSome?_eq_none_iff] at hfirst
      exact offered?_eq_none_iff.mp (hfirst s (by cases s <;> decide))

variable {path : String} {query : Option String}

/-- All failures are one: there is a failure exactly when no target comes out. -/
theorem resolve_eq_noRoute_iff :
    resolve get path query = .error (.noRoute (Request.of path query).path) ↔
      ∀ t, resolve get path query ≠ .ok t := by
  cases hresolve : resolve get path query with
  | ok t => simp
  | error failure =>
      obtain ⟨-, rfl⟩ := resolve_eq_error_iff.mp hresolve
      simp

/-- A target that comes out has a URL of some strategy, and it is not blank. -/
theorem exists_offers_of_resolve {t : Target} (h : resolve get path query = .ok t) :
    ∃ u, candidate? get (Request.of path query) = some u ∧
      Offers get (Request.of path query) u.strategy u.baseUrl ∧ ¬ BlankUrl get u.baseUrl := by
  obtain ⟨u, hcandidate, hsettle⟩ := resolve_eq_ok_iff.mp h
  obtain ⟨hne, rfl⟩ := settle?_eq_some_iff.mp hsettle
  exact ⟨u, hcandidate, (earliest_of_candidate? hcandidate).2, hne⟩

/-- The blank URL of the first strategy that has one is what comes of a request. -/
theorem not_ok_of_blank (hearliest : Earliest get (Request.of path query) s)
    (hoffers : Offers get (Request.of path query) s url) (hblank : BlankUrl get url) (t : Target) :
    resolve get path query ≠ .ok t := by
  intro hok
  obtain ⟨u, hcandidate, -, hne⟩ := exists_offers_of_resolve hok
  obtain ⟨v, hfirst, -, rfl⟩ := first?_of_earliest hearliest hoffers
  rw [candidate?_eq, hfirst, Option.filter_eq_some_iff, Option.some_inj] at hcandidate
  obtain ⟨rfl, -⟩ := hcandidate
  exact hne hblank

/-- **When a request has no route.**  Either the query names no target and the path an entry that
is no URL of the web; or the URL of the strategy that decides is blank, and it is one of the four
that hide those behind them; or no strategy has a URL that is not blank.  In all other cases there
is a target. -/
theorem no_route_iff (s : Store) (path : String) (query : Option String) :
    let r := Request.of path query
    resolve s.get path query = .error (.noRoute r.path) ↔
      NamesNoUrl s.get r ∨
      (∃ strategy ∈ [Strategy.targetParam, .servicePath, .serviceParam, .derivedUrl], ∃ url,
        Earliest s.get r strategy ∧ Offers s.get r strategy url ∧ BlankUrl s.get url) ∨
      ∀ strategy url, Offers s.get r strategy url → BlankUrl s.get url := by
  intro r
  rw [resolve_eq_noRoute_iff]
  constructor
  · intro hfail
    rcases exists_earliest_or_none s.get r with ⟨strategy, url, hearliest, hoffers⟩ | hnone
    · by_cases hblank : BlankUrl s.get url
      · cases strategy with
        | targetParam | servicePath | serviceParam | derivedUrl =>
            exact .inr (.inl ⟨_, by decide, url, hearliest, hoffers, hblank⟩)
        | configName =>
            exact .inl (namesNoUrl_of_earliest hearliest hoffers (not_isWebUrl_of_blank hblank))
        | default => exact .inr (.inr (blank_of_default hearliest hoffers hblank))
      · -- Its URL is not blank, so it was refused, and only that of an entry can be.
        left
        by_contra hentry
        obtain ⟨t, hok, -, -⟩ : ∃ t, resolve s.get path query = .ok t ∧ t.strategy = strategy ∧
            t.baseUrl = Substitution.interpolate s.get url := by
          refine exists_resolve_of_earliest hearliest hoffers ?_ hblank
          rintro rfl
          by_contra hweb
          exact hentry (namesNoUrl_of_earliest hearliest hoffers (Bool.eq_false_iff.mpr hweb))
        exact hfail t hok
    · exact .inr (.inr fun strategy url hoffers => absurd hoffers (hnone strategy url))
  · intro hways t hok
    obtain ⟨u, hcandidate, hoffers, hne⟩ := exists_offers_of_resolve hok
    rcases hways with ⟨hparam, value, hvalue, hweb⟩ | ⟨_, -, url, hearliest, hoffers, hblank⟩ | hall
    · rw [candidate?_of_entry hparam hvalue hweb] at hcandidate
      cases hcandidate
    · exact not_ok_of_blank hearliest hoffers hblank t hok
    · exact hne (hall _ _ hoffers)

/-- A service with an empty URL hides the default: the request has no route, though the path names
no entry and the URL of the default is not blank. -/
theorem blank_service_hides_default :
    let s : Store := ⟨[("OPENAI_API_BASE_URL", ""), ("OPENAI_API_KEY", "sk-1"),
      ("DEFAULT_API_URL", "https://default.example")], "s3cret", by decide, by decide, by decide⟩
    let r := Request.of "/openai/chat" none
    resolve s.get "/openai/chat" none = .error (.noRoute r.path) ∧ ¬ NamesNoUrl s.get r ∧
      Offers s.get r .default "https://default.example" ∧
      ¬ BlankUrl s.get "https://default.example" := by
  intro s r
  refine ⟨by decide +kernel, ?_, .default (by decide +kernel) (by decide), ?_⟩
  · rintro ⟨-, value, hvalue, -⟩
    have hnone : s.get r.segment = none := by decide +kernel
    rw [hnone] at hvalue
    cases hvalue
  · unfold BlankUrl
    decide +kernel

end Target

end CredentialGateway
