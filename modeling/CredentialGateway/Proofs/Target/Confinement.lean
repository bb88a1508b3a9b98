/-
Where below its base URL a request arrives.

The path of a request is put behind the base URL as it is, and whoever reads the whole text
as a URL walks along its segments: two dots go up there, also above the path of the base
URL.  So a request stays below the base path if its own path never has more steps up than
segments behind it, and else leaves as many segments of the base path as it climbs.

The characters of a request target are those that its reader lets pass, and there is no
white space among them, nor a mark of a query or a fragment.
-/
import Mathlib
import CredentialGateway.Proofs.Target.Origin
import CredentialGateway.Proofs.Target.Path
import CredentialGateway.Proofs.Url.Behind
import CredentialGateway.Server.Forward

namespace CredentialGateway

/-! ### The characters of a request's path -/

namespace Http.Uri

theorem isPathChar_of_pathAndQuery? {text path : List Char} {query : Option (List Char)}
    (h : pathAndQuery? text = some (path, query)) : ∀ c ∈ path, isPathChar c = true := by
  rw [pathAndQuery?] at h
  split at h
  · rename_i hall
    cases h
    exact List.all_eq_true.mp (Bool.and_eq_true_iff.mp hall).1
  · cases h

theorem isPathChar_of_ofFull? {text : List Char} {uri : Uri} (h : ofFull? text = some uri) :
    ∀ c ∈ uri.path, isPathChar c = true := by
  simp only [ofFull?] at h
  split at h
  · split at h
    · cases h
      simp
    · cases h
  · split at h
    · cases h
    · obtain ⟨⟨path, query⟩, hpath, rfl⟩ := Option.map_eq_some_iff.mp h
      dsimp only
      split
      · exact List.forall_mem_singleton.mpr rfl
      · exact isPathChar_of_pathAndQuery? hpath

/-- **A request target is read only if all characters of its path may stand there.** -/
theorem isPathChar_of_parse? {text : String} {uri : Uri} (h : parse? text = some uri) :
    ∀ c ∈ uri.path, isPathChar c = true := by
  simp only [parse?] at h
  split at h
  · cases h
  · split at h
    · cases h
    · cases h
      exact List.forall_mem_singleton.mpr rfl
    · obtain ⟨⟨path, query⟩, hpath, rfl⟩ := Option.map_eq_some_iff.mp h
      exact isPathChar_of_pathAndQuery? hpath
    · exact isPathChar_of_ofFull? h

theorem isOuter_of_isPathChar {c : Char} (h : isPathChar c = true) : Url.isOuter c = false := by
  simp only [isPathChar, Bool.or_eq_true, Bool.and_eq_true, beq_iff_eq, decide_eq_true_eq] at h
  rw [Url.isOuter, decide_eq_false_iff_not]
  omega

theorem isPlain_of_isPathChar {c : Char} (h : isPathChar c = true) : Url.isPlain c = true := by
  rw [Url.isPlain_eq_true_iff]
  constructor <;> (rintro rfl; revert h; decide)

end Http.Uri

namespace Target

open Url

variable {get : Lookup} {t : Target}

/-! ### The path that is left -/

/-- **What is left of a path is a part of it.** -/
theorem mem_of_mem_path {path : String} {query : Option String} {c : Char}
    (h : resolve get path query = .ok t) (hc : c ∈ t.path.toList) : c ∈ path.toList := by
  obtain ⟨u, hfound, rfl⟩ := exists_found_of_resolve h
  have hwhole : c ∈ (Request.of path query).path.toList := hfound.keeps.mem hc
  rw [Request.of, String.toList_ofList] at hwhole
  exact Text.mem_of_mem_trim hwhole

theorem isPathChar_of_targetOf {text : String} {request : Http.Request}
    (huri : Http.Uri.parse? text = some request.uri) (h : Server.targetOf get request = .ok t) :
    ∀ c ∈ t.path.toList, Http.Uri.isPathChar c = true := by
  rw [Server.targetOf] at h
  split at h
  · cases h
  · intro c hc
    have hinner := mem_of_mem_path h hc
    rw [Server.innerPath, String.toList_ofList] at hinner
    exact Http.Uri.isPathChar_of_parse? huri c (Text.mem_of_mem_trim hinner)

/-! ### Below the base URL -/

/-- Whether a path is another one, or that and more behind a slash. -/
def Under (base path : List Char) : Prop :=
  path = base ∨ (base ++ ['/']) <+: path

instance (base path : List Char) : Decidable (Under base path) :=
  inferInstanceAs (Decidable (_ ∨ _))

/-- What continues a path is below it, whatever slashes stand at its end. -/
theorem under_append {base slashes rest : List Char} (hslashes : ∀ c ∈ slashes, c = '/') :
    Under (Text.trimEnd isSlash (base ++ slashes)) (base ++ '/' :: rest) := by
  have htrim := Text.trimEnd_append_of_forall
    (fun c hc => isSlash_eq_true_iff.mpr (hslashes c hc)) base
  obtain ⟨trail, htrail, hbase⟩ := Text.trimEnd_split isSlash base
  rw [htrim]
  right
  cases trail with
  | nil =>
      rw [List.append_nil] at hbase
      exact ⟨rest, by rw [← hbase, List.append_assoc]; rfl⟩
  | cons c trail =>
      obtain rfl := isSlash_eq_true_iff.mp (htrail c List.mem_cons_self)
      refine ⟨trail ++ '/' :: rest, ?_⟩
      conv_rhs => rw [hbase]
      simp

/-- The segments that the path of a target adds behind its base URL. -/
def segments (t : Target) : List (List Char) :=
  Path.pieces true (Text.trimStart isSlash t.path.toList)

/-- **A request stays below its base URL unless its path climbs.**  Whatever the query, the URL of
the target of a legal request can be read, if the base URL is one of HTTP without query and
fragment and does not end in white space.  Its path is that of the base URL with more behind a
slash, if at no point of the request's own path more steps up than segments are behind it.  In
general the path has the segments of the base URL, but for as many at their end as the own path
climbs, and then its own. -/
theorem request_stays_below_base_url (s : Store) {text : String} {request : Http.Request}
    {t : Target} {u : Url} (huri : Http.Uri.parse? text = some request.uri)
    (htarget : Server.targetOf s.get request = .ok t) (hu : Url.parse? t.baseUrl = some u)
    (hhttp : isHttp u.scheme = true) (hquery : u.query = none) (hfragment : u.fragment = none)
    (hend : ¬ EndsOuter t.baseUrl.toList) (query : Option String) :
    ∃ v, Url.parse? (t.url query) = some v ∧ SameOrigin u v ∧
      ((∀ n, (t.segments.take n).countP Path.isDouble ≤ (t.segments.take n).countP Path.isOwn) →
        Under (Text.trimEnd isSlash u.path) v.path) ∧
      ∃ base slashes, (∀ segment ∈ base, '/' ∉ segment) ∧ (∀ c ∈ slashes, c = '/') ∧
        u.path = Path.render base ++ slashes ∧
        v.path = Path.render
          (base.take (base.length - Path.climb 0 t.segments) ++ Path.walk false [] t.segments) := by
  obtain ⟨front, slashes, mark, hslashes, hmark, hbase, hurl⟩ := exists_url_eq t query
  have hpath : ∀ c ∈ Text.trimStart isSlash t.path.toList,
      isOuter c = false ∧ isPlain c = true := by
    intro c hc
    have hchar := isPathChar_of_targetOf huri htarget c ((List.dropWhile_suffix _).mem hc)
    exact ⟨Http.Uri.isOuter_of_isPathChar hchar, Http.Uri.isPlain_of_isPathChar hchar⟩
  rw [hbase] at hu
  rw [hbase, String.toList_ofList] at hend
  obtain ⟨v, base, more, hv, horigin, hbaseSegments, hmore, hupath, hvpath⟩ :=
    parse?_behind hslashes hu hhttp hquery hfragment hend hpath hmark
  refine ⟨v, by rw [hurl, hv], horigin, ?_, base, more, hbaseSegments, hmore, hupath, hvpath⟩
  intro hclimb
  have hnone : Path.climb 0 t.segments = 0 := by
    rw [Path.climb_eq_zero_iff]
    simpa using hclimb
  obtain ⟨rest, hrest⟩ := Path.exists_render_segments (Text.trimStart isSlash t.path.toList)
  have hstay : v.path = Path.render base ++ '/' :: rest := by
    rw [segments] at hnone
    rw [hvpath, hnone, Nat.sub_zero, List.take_length, Path.render_append, hrest]
  rw [hupath, hstay]
  exact under_append hmore

/-- Two dots behind a segment of the request's own stay below the base URL. -/
theorem inner_dots_stay_below_base_url :
    let s : Store := ⟨[("OPENAI_API_BASE_URL", "https://openai.example/v1/"),
      ("OPENAI_API_KEY", "sk-1")], "s3cret", by decide, by decide, by decide⟩
    let request : Http.Request :=
      ⟨"GET", ⟨none, none, "/openai/chat/%2E./models".toList, none⟩, [], ⟨[], none⟩⟩
    let t : Target := ⟨"https://openai.example/v1/", some "sk-1", "chat/%2E./models", .servicePath⟩
    let u : Url := ⟨"https".toList, [], [], some (.domain "openai.example".toList), none,
      "/v1/".toList, none, none⟩
    Server.targetOf s.get request = .ok t ∧ Url.parse? t.baseUrl = some u ∧
      ∃ v, Url.parse? (t.url (some "a=b#c")) = some v ∧ Under "/v1".toList v.path := by
  intro s request t u
  have huri : Http.Uri.parse? "/openai/chat/%2E./models" = some request.uri := by decide +kernel
  have htarget : Server.targetOf s.get request = .ok t := by decide +kernel
  have hu : Url.parse? t.baseUrl = some u := by decide +kernel
  obtain ⟨v, hv, -, hstay, -⟩ := request_stays_below_base_url s huri htarget hu (by decide) rfl rfl
    (by decide +kernel) (some "a=b#c")
  have hclimb : Path.climb 0 t.segments = 0 := by decide +kernel
  have hunder := hstay (by simpa using Path.climb_eq_zero_iff.mp hclimb)
  have htrim : Text.trimEnd isSlash u.path = "/v1".toList := by decide +kernel
  rw [htrim] at hunder
  exact ⟨htarget, hu, v, hv, hunder⟩

/-- Two dots at the front of the request's own path leave the path of the base URL, a slash alone
is no path to stay below, and a space at the end of the base URL becomes a part of its path. -/
theorem leading_dots_leave_base_url :
    let s : Store := ⟨[("OPENAI_API_BASE_URL", "https://openai.example/v1"),
      ("OPENAI_API_KEY", "sk-1"), ("ROOT_API_URL", "https://root.example"),
      ("SPACED_API_URL", "https://spaced.example/v1 ")], "s3cret",
      by decide, by decide, by decide⟩
    let leaves (host path : String) (before after : String) : Prop :=
      ∃ uri t, Http.Uri.parse? path = some uri ∧
        Server.targetOf s.get ⟨"GET", uri, [], ⟨[], none⟩⟩ = .ok t ∧
        let on (path : String) : Url := ⟨"https".toList, [], [], some (.domain host.toList), none,
          path.toList, none, none⟩
        Url.parse? t.baseUrl = some (on before) ∧ Url.parse? (t.url none) = some (on after) ∧
          ¬ Under (on before).path (on after).path
    leaves "openai.example" "/openai/../admin/keys" "/v1" "/admin/keys" ∧
      leaves "root.example" "/root/keys" "/" "/keys" ∧
      leaves "spaced.example" "/spaced/keys" "/v1" "/v1%20/keys" := by
  intro s leaves
  refine ⟨⟨⟨none, none, "/openai/../admin/keys".toList, none⟩,
    ⟨"https://openai.example/v1", some "sk-1", "../admin/keys", .servicePath⟩, ?_⟩,
    ⟨⟨none, none, "/root/keys".toList, none⟩,
      ⟨"https://root.example", none, "keys", .derivedUrl⟩, ?_⟩,
    ⟨⟨none, none, "/spaced/keys".toList, none⟩,
      ⟨"https://spaced.example/v1 ", none, "keys", .derivedUrl⟩, ?_⟩⟩
  all_goals exact ⟨by decide +kernel, by decide +kernel, by decide +kernel, by decide +kernel,
    by decide +kernel⟩

end Target

end CredentialGateway
