/-
The services and the ways to them.

A service is available if it is one of the supported ones and has an entry for its URL and one
for its key.  What the entries hold is not looked at.  A request reaches a service by the first
segment of its path or by its query, and both put the name in upper case and look the two
entries up.

The two ways differ from each other and from the list of what is available.  The path leads to
supported services only; the query leads to whatever has both entries.  And the list names a
service whose URL is empty, or blank once its references are replaced, though a request for it
has no route.
-/
import Mathlib
import CredentialGateway.Proofs.Target.NoRoute
import CredentialGateway.Proofs.Target.Path

namespace CredentialGateway

/-! ### Available services -/

theorem Service.mem_available_iff {get : Lookup} {name : String} :
    name ∈ available get ↔ name ∈ supported ∧
      ∃ url key, get (name ++ baseUrlEnd) = some url ∧ get (name ++ keyEnd) = some key := by
  unfold available
  rw [List.mem_filter]
  apply and_congr_right
  intro hsupported
  rw [Option.isSome_iff_exists]
  constructor
  · rintro ⟨⟨url, key⟩, hservice⟩
    exact ⟨url, key, (credentials?_of_supported hsupported).mp hservice⟩
  · rintro ⟨url, key, hservice⟩
    exact ⟨(url, key), (credentials?_of_supported hsupported).mpr hservice⟩

/-- A slash is a slash in upper case. -/
theorem Text.slash_mem_upperString {text : String} (h : '/' ∈ text.toList) :
    '/' ∈ (upperString text).toList := by
  rw [upperString, String.toList_ofList, upper, List.mem_flatMap]
  exact ⟨'/', h, by decide⟩

/-- A text that is the name of a service in upper case is a segment: it has no slash and is not
empty. -/
theorem Service.segment_of_supported {segment : String}
    (h : Text.upperString segment ∈ supported) : '/' ∉ segment.toList ∧ segment ≠ "" := by
  have hall : ∀ name ∈ supported, '/' ∉ name.toList ∧ name ≠ "" := by decide
  obtain ⟨hslash, hne⟩ := hall _ h
  constructor
  · intro hmem
    exact hslash (Text.slash_mem_upperString hmem)
  · rintro rfl
    exact hne rfl

namespace Target

variable {get : Lookup}

/-! ### The path of a service -/

/-- A segment with a path behind it is not trimmed, but for the slash in front. -/
theorem trim_segment {segment rest : List Char} (hslash : '/' ∉ segment) (hne : segment ≠ [])
    (hrest : rest ≠ []) (hend : rest.getLast? ≠ some '/') :
    Text.trim isSlash ('/' :: (segment ++ '/' :: rest)) = segment ++ '/' :: rest := by
  obtain ⟨first, tail, rfl⟩ := List.exists_cons_of_ne_nil hne
  obtain ⟨front, last, rfl⟩ := (List.eq_nil_or_concat' rest).resolve_left hrest
  have hfirst : isSlash first = false := by
    rw [Bool.eq_false_iff]
    intro h
    exact hslash (isSlash_eq_true_iff.mp h ▸ List.mem_cons_self)
  have hlast : isSlash last = false := by
    rw [Bool.eq_false_iff]
    intro h
    exact hend (by rw [List.getLast?_concat, isSlash_eq_true_iff.mp h])
  have htext : '/' :: (first :: tail ++ '/' :: (front ++ [last])) =
      ['/'] ++ ((first :: tail ++ '/' :: (front ++ [last])) ++ []) := by simp
  rw [htext]
  apply Text.trim_append
  · simp [isSlash_eq_true_iff]
  · simp
  · simp
  · intro c hc
    rwa [← Option.some.inj hc]
  · intro c hc
    rw [← List.cons_append, ← List.append_assoc, List.getLast?_concat] at hc
    rwa [← Option.some.inj hc]

/-- A segment and a path behind it are found again in the path they make. -/
theorem Request.of_segment {segment rest : String} (query : Option String)
    (hslash : '/' ∉ segment.toList) (hne : segment ≠ "") (hrest : rest ≠ "")
    (hend : rest.toList.getLast? ≠ some '/') :
    Request.of ("/" ++ segment ++ "/" ++ rest) query =
      ⟨segment ++ "/" ++ rest, segment, some rest, (query.map Form.parse).getD []⟩ := by
  have htext : ("/" ++ segment ++ "/" ++ rest).toList =
      '/' :: (segment.toList ++ '/' :: rest.toList) := by simp
  have htrim := trim_segment hslash (fun h => hne (String.toList_eq_nil_iff.mp h))
    (fun h => hrest (String.toList_eq_nil_iff.mp h)) hend
  have hcut : Text.splitFirst? '/' (segment.toList ++ '/' :: rest.toList) =
      some (segment.toList, rest.toList) := Text.splitFirst?_eq_some_iff.mpr ⟨rfl, hslash⟩
  have hwhole : String.ofList (segment.toList ++ '/' :: rest.toList) = segment ++ "/" ++ rest := by
    rw [← String.toList_inj]
    simp
  unfold Request.of
  simp only [htext, htrim, hcut, hwhole, Option.map_some, Option.getD_some, String.ofList_toList]

/-- A service that the path names is the target if the query names none and the segment no entry. -/
theorem candidate?_of_service {r : Request} {rest url key : String}
    (hparam : Form.param r.params "target" = none) (hentry : get r.segment = none)
    (hrest : r.rest = some rest) (hsupported : Text.upperString r.segment ∈ Service.supported)
    (hurl : get (Text.upperString r.segment ++ Service.baseUrlEnd) = some url)
    (hkey : get (Text.upperString r.segment ++ Service.keyEnd) = some key) :
    candidate? get r = some ⟨url, some key, rest, .servicePath⟩ := by
  have htarget : ofTargetParam? r = none := Option.map_eq_none_iff.mpr hparam
  have hservice := (Service.credentials?_of_supported hsupported).mpr ⟨hurl, hkey⟩
  have hpath : ofServicePath? get r = some ⟨url, some key, rest, .servicePath⟩ :=
    ofServicePath?_eq_some_iff.mpr ⟨rest, url, key, hrest, hsupported, hservice, rfl⟩
  simp only [candidate?, htarget, hentry, ofOthers?, hpath, Option.some_or]

/-- **A service that is available is routed, unless its URL is blank.**  Its name may be spelled in
any way that is the name in upper case, as long as the spelling is not the name of an entry, and
the query names no target.  Then the target has the service's URL with the references in it
replaced, its key, and the path behind the name; if that URL is blank, there is no route. -/
theorem available_service_is_routed (s : Store) (service segment rest : String)
    (query : Option String) (havailable : service ∈ Service.available s.get)
    (hsegment : Text.upperString segment = service) (hentry : s.get segment = none)
    (hne : rest ≠ "") (hend : rest.toList.getLast? ≠ some '/')
    (hparam : Form.param ((query.map Form.parse).getD []) "target" = none) :
    ∃ url key, s.get (service ++ "_API_BASE_URL") = some url ∧
      s.get (service ++ "_API_KEY") = some key ∧
      (¬ BlankUrl s.get url → resolve s.get ("/" ++ segment ++ "/" ++ rest) query =
        .ok ⟨Substitution.interpolate s.get url, some key, rest, .servicePath⟩) ∧
      (BlankUrl s.get url → resolve s.get ("/" ++ segment ++ "/" ++ rest) query =
        .error (.noRoute (segment ++ "/" ++ rest))) := by
  subst hsegment
  obtain ⟨hsupported, url, key, hurl, hkey⟩ := Service.mem_available_iff.mp havailable
  obtain ⟨hslash, hname⟩ := Service.segment_of_supported hsupported
  have hrequest := Request.of_segment query hslash hname hne hend
  have hcandidate : candidate? s.get (Request.of ("/" ++ segment ++ "/" ++ rest) query) =
      some ⟨url, some key, rest, .servicePath⟩ := by
    rw [hrequest]
    exact candidate?_of_service hparam hentry rfl hsupported hurl hkey
  refine ⟨url, key, hurl, hkey, ?_, ?_⟩
  · intro hblank
    exact resolve_eq_ok_iff.mpr ⟨_, hcandidate, settle?_eq_some_iff.mpr ⟨hblank, rfl⟩⟩
  · intro hblank
    rw [resolve_eq_error_iff, hcandidate, hrequest, Option.bind_some]
    exact ⟨settle?_eq_none_iff.mpr hblank, rfl⟩

/-- A service spelled with a letter that is another one in upper case, a reference in its URL, and
two slashes behind its name. -/
theorem deepseek_is_routed :
    let s : Store := ⟨[("DEEPSEEK_API_BASE_URL", "https://${HOST}/v1"), ("HOST", "deep.example"),
      ("DEEPSEEK_API_KEY", "sk-2"), ("DEFAULT_API_URL", "https://default.example")], "s3cret",
      by decide, by decide, by decide⟩
    "DEEPSEEK" ∈ Service.available s.get ∧ Text.upperString "deepſeek" = "DEEPSEEK" ∧
      s.get "deepſeek" = none ∧
      resolve s.get ("/" ++ "deepſeek" ++ "/" ++ "/chat") (some "target=&service=openai") =
        .ok ⟨"https://deep.example/v1", some "sk-2", "/chat", .servicePath⟩ := by
  intro s
  have havailable : "DEEPSEEK" ∈ Service.available s.get := by decide +kernel
  have hsegment : Text.upperString "deepſeek" = "DEEPSEEK" := by decide +kernel
  have hentry : s.get "deepſeek" = none := by decide +kernel
  obtain ⟨url, key, hurl, hkey, hroute, -⟩ := available_service_is_routed s "DEEPSEEK" "deepſeek"
    "/chat" (some "target=&service=openai") havailable hsegment hentry (by decide) (by decide)
    (by decide +kernel)
  have hurl' : s.get ("DEEPSEEK" ++ "_API_BASE_URL") = some "https://${HOST}/v1" := by
    decide +kernel
  have hkey' : s.get ("DEEPSEEK" ++ "_API_KEY") = some "sk-2" := by decide +kernel
  obtain rfl : url = "https://${HOST}/v1" := Option.some.inj (hurl.symm.trans hurl')
  obtain rfl : key = "sk-2" := Option.some.inj (hkey.symm.trans hkey')
  have hblank : ¬ BlankUrl s.get "https://${HOST}/v1" := by
    unfold BlankUrl
    decide +kernel
  have hinterpolate : Substitution.interpolate s.get "https://${HOST}/v1" =
      "https://deep.example/v1" := by decide +kernel
  refine ⟨havailable, hsegment, hentry, ?_⟩
  rw [hroute hblank, hinterpolate]

/-- A service with an empty URL is listed as available, and a request for it has no route. -/
theorem available_service_has_no_route :
    let s : Store := ⟨[("OPENAI_API_BASE_URL", ""), ("OPENAI_API_KEY", "sk-1")], "s3cret",
      by decide, by decide, by decide⟩
    "OPENAI" ∈ Service.available s.get ∧ Text.upperString "openai" = "OPENAI" ∧
      s.get "openai" = none ∧
      resolve s.get ("/" ++ "openai" ++ "/" ++ "chat") none = .error (.noRoute "openai/chat") := by
  intro s
  exact ⟨by decide +kernel, by decide +kernel, by decide +kernel, by decide +kernel⟩

/-! ### The services that requests reach -/

/-- **The path leads to available services, the query to any that has a URL and a key.**  A target
found by the path is that of an available service.  One found by the query has the URL and the key
that stand in the store under the service's name in upper case, and this service is listed as
available if and only if it is a supported one. -/
theorem services_of_requests (s : Store) (path : String) (query : Option String) (t : Target)
    (h : resolve s.get path query = .ok t) :
    let r := Request.of path query
    (t.strategy = .servicePath → Text.upperString r.segment ∈ Service.supported ∧
      Text.upperString r.segment ∈ Service.available s.get) ∧
    (t.strategy = .serviceParam → ∃ service url key,
      Form.param r.params "service" = some service ∧
      s.get (Text.upperString service ++ "_API_BASE_URL") = some url ∧
      s.get (Text.upperString service ++ "_API_KEY") = some key ∧
      t.baseUrl = Substitution.interpolate s.get url ∧ t.key = some key ∧
      (Text.upperString service ∈ Service.available s.get ↔
        Text.upperString service ∈ Service.supported)) := by
  intro r
  obtain ⟨u, hfound, rfl⟩ := exists_found_of_resolve h
  constructor
  · intro hstrategy
    cases hfound with
    | targetParam | configName | serviceParam | derivedUrl | default => cases hstrategy
    | servicePath hrest hsupported hservice =>
        have hentries := (Service.credentials?_of_supported hsupported).mp hservice
        exact ⟨hsupported, Service.mem_available_iff.mpr ⟨hsupported, _, _, hentries⟩⟩
  · intro hstrategy
    cases hfound with
    | targetParam | configName | servicePath | derivedUrl | default => cases hstrategy
    | @serviceParam service url key hparam hservice =>
        obtain ⟨hurl, hkey⟩ := Service.credentials?_eq_some_iff.mp hservice
        refine ⟨service, url, key, hparam, hurl, hkey, rfl, rfl, ?_⟩
        rw [Service.mem_available_iff]
        exact ⟨And.left, fun hsupported => ⟨hsupported, url, key, hurl, hkey⟩⟩

/-- A supported service named by the query, escaped and in lower case. -/
theorem openai_is_reached_by_query :
    let s : Store := ⟨[("OPENAI_API_BASE_URL", "https://openai.example"),
      ("OPENAI_API_KEY", "sk-1")], "s3cret", by decide, by decide, by decide⟩
    let t : Target := ⟨"https://openai.example", some "sk-1", "v1/chat", .serviceParam⟩
    resolve s.get "/v1/chat" (some "service=%6Fpenai") = .ok t ∧
      ∃ service, Form.param (Request.of "/v1/chat" (some "service=%6Fpenai")).params "service" =
          some service ∧
        (Text.upperString service ∈ Service.available s.get ↔
          Text.upperString service ∈ Service.supported) := by
  intro s t
  have h : resolve s.get "/v1/chat" (some "service=%6Fpenai") = .ok t := by decide +kernel
  obtain ⟨service, -, -, hparam, -, -, -, -, hlisted⟩ := (services_of_requests s _ _ t h).2 rfl
  exact ⟨h, service, hparam, hlisted⟩

/-- A service that is not supported is reached by the query, and its key goes along. -/
theorem unlisted_service_is_routed :
    let s : Store := ⟨[("BILLING_API_BASE_URL", "http://billing.example"),
      ("BILLING_API_KEY", "bill-key")], "s3cret", by decide, by decide, by decide⟩
    resolve s.get "/v1/chat" (some "service=billing") =
        .ok ⟨"http://billing.example", some "bill-key", "v1/chat", .serviceParam⟩ ∧
      Text.upperString "billing" ∉ Service.supported ∧
      Text.upperString "billing" ∉ Service.available s.get := by
  intro s
  exact ⟨by decide +kernel, by decide +kernel, by decide +kernel⟩

end Target

end CredentialGateway
