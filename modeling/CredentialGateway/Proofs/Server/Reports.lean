/-
What the reports tell of the names and values.

Three endpoints report: on the state, on the names and on the services.  Of the entries
they tell the names that may be reported, and of a service its name, its host and its
model.  Whether a service is available hangs on a URL and a key, but of the key only
whether it is there, and the names of both may be reported anyway.  So two gateways that
agree in those names, and in the URLs and models of the services, cannot be told apart by
their reports, whatever else they hold (`ReportAlike`).

The names are reported in order.  Two sorted lists without repetition that hold the same
names are the same list, so it does not matter in which order a store holds them.
-/
import Mathlib
import CredentialGateway.Proofs.Server.Exchange
import CredentialGateway.Proofs.Store.Lookup
import CredentialGateway.Proofs.Target.Key

namespace CredentialGateway

/-! ### The names of a store -/

namespace Store

variable {a b : Store} {name : String}

theorem insertSorted_eq (name : String) (names : List String) :
    insertSorted name names = names.orderedInsert (· ≤ ·) name := by
  induction names with
  | nil => rfl
  | cons n names ih =>
      rw [insertSorted, List.orderedInsert_cons, ih]

theorem reportedNames_eq (s : Store) :
    s.reportedNames = ((s.entries.map Prod.fst).filter isReported).insertionSort (· ≤ ·) := by
  have hsort : insertSorted = List.orderedInsert (· ≤ ·) :=
    funext fun name => funext fun names => insertSorted_eq name names
  rw [reportedNames, hsort]
  rfl

/-- **The report on names is a matter of which names there are**, not of their order or values. -/
theorem reportedNames_congr
    (h : ∀ name, isReported name = true → ((a.get name).isSome = (b.get name).isSome)) :
    a.reportedNames = b.reportedNames := by
  have hmem : ∀ name, name ∈ (a.entries.map Prod.fst).filter isReported ↔
      name ∈ (b.entries.map Prod.fst).filter isReported := by
    intro name
    rw [List.mem_filter, List.mem_filter, ← isSome_get, ← isSome_get]
    exact and_congr_left fun hname => by rw [h name hname]
  have hperm := (List.perm_ext_iff_of_nodup (a.distinct.filter isReported)
    (b.distinct.filter isReported)).mpr hmem
  rw [reportedNames_eq, reportedNames_eq]
  exact List.Perm.eq_of_pairwise' (List.pairwise_insertionSort (· ≤ ·) _)
    (List.pairwise_insertionSort (· ≤ ·) _)
    ((List.perm_insertionSort _ _).trans (hperm.trans (List.perm_insertionSort _ _).symm))

end Store

/-! ### The services -/

namespace Service

variable {get get' : Lookup} {name : String}

theorem isReported_key (h : name ∈ supported) : Store.isReported (name ++ keyEnd) = true := by
  have hall : ∀ name ∈ supported, Store.isReported (name ++ keyEnd) = true := by decide +kernel
  exact hall name h

/-- What is told about a service does not depend on its key, once there is one. -/
theorem describe?_congr (hname : name ∈ supported)
    (hurl : get (name ++ baseUrlEnd) = get' (name ++ baseUrlEnd))
    (hmodel : get (name ++ modelEnd) = get' (name ++ modelEnd))
    (hkey : (get (name ++ keyEnd)).isSome = (get' (name ++ keyEnd)).isSome) :
    describe? get name = describe? get' name := by
  simp only [describe?, credentials?, upperString_supported hname, hurl, hmodel]
  cases get' (name ++ baseUrlEnd) with
  | none => rfl
  | some url =>
      cases hget : get (name ++ keyEnd) with
      | none =>
          rw [hget, Option.isSome_none] at hkey
          rw [Option.not_isSome_iff_eq_none.mp (Bool.eq_false_iff.mp hkey.symm)]
      | some key =>
          rw [hget, Option.isSome_some] at hkey
          obtain ⟨key', hget'⟩ := Option.isSome_iff_exists.mp hkey.symm
          rw [hget']
          rfl

theorem isSome_describe? : (describe? get name).isSome = (credentials? get name).isSome := by
  rw [describe?, Option.isSome_map]

variable (h : ∀ name ∈ supported, describe? get name = describe? get' name)

include h in
theorem available_congr : available get = available get' := by
  refine List.filter_congr fun name hname => ?_
  rw [← isSome_describe?, ← isSome_describe?, h name hname]

include h in
theorem descriptions_congr : descriptions get = descriptions get' := by
  rw [descriptions, descriptions, available_congr h]
  refine List.filterMap_congr fun name hname => h name ?_
  exact List.mem_of_mem_filter hname

end Service

/-! ### The reports -/

namespace Server

open Http

/-- Two gateways that agree in what is reported: the tokens and settings, which of the names that
may be reported there are, and the URLs and models of the services. -/
structure ReportAlike (a b : Gateway) : Prop where
  /-- Both judge tokens alike and have issued and revoked the same. -/
  authority : a.authority = b.authority
  /-- Both have the same settings. -/
  settings : a.settings = b.settings
  /-- Both hold the same names among those that may be reported. -/
  names : ∀ name, Store.isReported name = true →
    (a.store.get name).isSome = (b.store.get name).isSome
  /-- The services have the same URLs. -/
  urls : ∀ service ∈ Service.supported,
    a.store.get (service ++ "_API_BASE_URL") = b.store.get (service ++ "_API_BASE_URL")
  /-- The services have the same models. -/
  models : ∀ service ∈ Service.supported,
    a.store.get (service ++ "_MODEL") = b.store.get (service ++ "_MODEL")

namespace ReportAlike

variable {a b : Gateway} (h : ReportAlike a b)

include h

theorem describe?_eq : ∀ service ∈ Service.supported,
    Service.describe? a.store.get service = Service.describe? b.store.get service :=
  fun service hservice => Service.describe?_congr hservice (h.urls service hservice)
    (h.models service hservice) (h.names _ (Service.isReported_key hservice))

theorem statusReport_eq : statusReport a = statusReport b := by
  rw [statusReport, statusReport, h.authority, h.settings, Store.reportedNames_congr h.names,
    Service.available_congr h.describe?_eq]

theorem namesReport_eq (query : Option String) : namesReport a query = namesReport b query := by
  rw [namesReport, namesReport, Store.reportedNames_congr h.names]

theorem servicesReport_eq : servicesReport a = servicesReport b := by
  rw [servicesReport, servicesReport, Service.descriptions_congr h.describe?_eq]

/-- The endpoints that report answer alike. -/
theorem answer_eq {e : Endpoint} (he : e.isReport = true) (mac : Token.Mac) (o : Token.Occasion)
    (r : Request) (body : List UInt8) :
    (answer mac a o e r body).1 = (answer mac b o e r body).1 := by
  cases e with
  | status => simp only [answer, h.statusReport_eq]
  | names => simp only [answer, h.namesReport_eq]
  | services => simp only [answer, h.servicesReport_eq]
  | exchange | revoke | revokeAll | signMetadata | signPayload => cases he

theorem atEndpoint_eq {s : Surroundings} {e : Endpoint} {logged : Option LogRecord} {r : Request}
    (he : e.isReport = true) :
    (atEndpoint s a e logged r).reply = (atEndpoint s b e logged r).reply := by
  rw [atEndpoint, atEndpoint]
  split
  · split
    · rfl
    · exact h.answer_eq he s.mac s.occasion r _
  · rfl

/-- A request that could pass is answered alike where there is a report. -/
theorem route_eq {s : Surroundings} {source : Option Source} {logged : Option LogRecord}
    {r : Request} {e : Endpoint} (hendpoint : endpointOf r = some e) (he : e.isReport = true) :
    (route s a source logged r).reply = (route s b source logged r).reply := by
  rw [route, route, hendpoint]
  exact h.atEndpoint_eq he

end ReportAlike

theorem endpointOf_report {r : Request} (h : r.uri.pathText ∈ ["/status", "/env", "/services"]) :
    ∃ e, endpointOf r = some e ∧ e.isReport = true := by
  simp only [List.mem_cons, List.not_mem_nil, or_false] at h
  rcases h with h | h | h
  · exact ⟨.status, endpointOf_status h, rfl⟩
  · exact ⟨.names, by rw [endpointOf, h]; rfl, rfl⟩
  · exact ⟨.services, by rw [endpointOf, h]; rfl, rfl⟩

/-- A report that is asked for with a credential is given. -/
theorem status_of_report {s : Surroundings} {g : Gateway} {r : Request} {e : Endpoint}
    (hadmitted : Admitted s g r) (hendpoint : endpointOf r = some e) (he : e.isReport = true)
    (hget : r.method = "GET") : (handle s g r).reply.status = 200 := by
  have hanswers : e.answers r.method = true := by
    rw [Endpoint.answers, if_pos he, hget]
    rfl
  have hbody : e.takesBody = false := by
    cases e with
    | exchange | revoke | revokeAll | signMetadata | signPayload => cases he
    | status | names | services => rfl
  obtain ⟨logged, headers, hdone⟩ := handle_of_admitted hadmitted hendpoint hanswers hbody
  have hkept : ∀ reply, withoutBody r reply = reply := by
    intro reply
    rw [withoutBody, hget]
    rfl
  rw [hdone, hkept]
  cases e with
  | exchange | revoke | revokeAll | signMetadata | signPayload => cases he
  | status | names | services => rfl

/-- **The reports reveal names, hosts and models only.**  Two gateways that agree in the names that
may be reported and in the URLs and models of the services give the same answer to every request
for a report, whatever its method, query and header fields are and whatever else the two hold. -/
theorem reports_reveal_names_hosts_models (s : Surroundings) (a b : Gateway) (r : Request)
    (h : ReportAlike a b) (hpath : r.uri.pathText ∈ ["/status", "/env", "/services"]) :
    (handle s a r).reply = (handle s b r).reply := by
  obtain ⟨e, hendpoint, he⟩ := endpointOf_report hpath
  have hreply : (if publicPaths.contains r.uri.pathText then route s a none none r
        else answerGuarded s a r).reply =
      (if publicPaths.contains r.uri.pathText then route s b none none r
        else answerGuarded s b r).reply := by
    split
    · exact h.route_eq hendpoint he
    · rw [answerGuarded, answerGuarded, h.authority]
      split
      · rfl
      · rw [answerGranted, answerGranted, h.settings]
        exact h.route_eq hendpoint he
  rw [handle, handle, hreply]

/-! ### Two gateways -/

/-- An authority that two gateways have. -/
def sharedAuthority : Token.Authority := ⟨[0x73, 0x33], "main", 3, 40⟩

/-- A gateway that holds a service, and a name that is not reported. -/
def homeGateway : Gateway :=
  ⟨⟨[("OPENAI_API_BASE_URL", "https://host/v1"), ("OPENAI_API_KEY", "sk-1"), ("HOME", "/root")],
    "shared-secret", by decide, by decide, by decide⟩, .default, none, sharedAuthority⟩

/-- A gateway that holds the service with another key, in another order, and nothing else. -/
def plainGateway : Gateway :=
  ⟨⟨[("OPENAI_API_KEY", "sk-2"), ("OPENAI_API_BASE_URL", "https://host/v1")],
    "shared-secret", by decide, by decide, by decide⟩, .default, none, sharedAuthority⟩

theorem reportAlike_gateways : ReportAlike homeGateway plainGateway where
  authority := rfl
  settings := rfl
  names := by
    intro name hname
    rw [Bool.eq_iff_iff, Store.isSome_get, Store.isSome_get]
    constructor
    · intro hmem
      have hcases : name = "OPENAI_API_BASE_URL" ∨ name = "OPENAI_API_KEY" ∨ name = "HOME" := by
        simpa [homeGateway] using hmem
      rcases hcases with rfl | rfl | rfl
      · decide
      · decide
      · exact absurd hname (by decide +kernel)
    · intro hmem
      have hcases : name = "OPENAI_API_KEY" ∨ name = "OPENAI_API_BASE_URL" := by
        simpa [plainGateway] using hmem
      rcases hcases with rfl | rfl <;> decide
  urls := by decide +kernel
  models := by decide +kernel

/-- A request for a report, with a token of the authority that the two have. -/
def reportRequest (path : String) (query : Option (List Char)) : Request :=
  ⟨"GET", ⟨none, none, path.toList, query⟩,
    [(tokenField, Utf8.encodeString
      (sharedAuthority.issue Token.hmac ⟨some "ada", none, none⟩ ⟨50, 7, "n1"⟩).1.token)],
    ⟨[], none⟩⟩

/-- The surroundings in which the two are asked. -/
def askedAt : Surroundings := ⟨Token.hmac, ⟨60, 0, ""⟩, fun _ => .unreachable⟩

theorem admitted_reportRequest (path : String) (query : Option (List Char)) :
    Admitted askedAt homeGateway (reportRequest path query) := by
  have hfirst : (reportRequest path query).headers.first? tokenField = some (Utf8.encodeString
      (sharedAuthority.issue Token.hmac ⟨some "ada", none, none⟩ ⟨50, 7, "n1"⟩).1.token) := by
    simp [reportRequest, Headers.first?]
  have hkeeps : Token.Authority.Keeps sharedAuthority.secret sharedAuthority.keyId 50
      homeGateway.authority := ⟨rfl, rfl, by decide⟩
  have hlater : (50 : UInt64) ≤ askedAt.occasion.now := by decide
  exact admitted_of_issued hfirst hkeeps (by decide) hlater (by decide)

/-- Two keys that differ, an order that differs, and a name that only one gateway holds: the state,
the names, the names that a query asks for, and the services are reported alike. -/
theorem reports_hide_key_and_home :
    homeGateway.store.get "OPENAI_API_KEY" ≠ plainGateway.store.get "OPENAI_API_KEY" ∧
      homeGateway.store.get "HOME" ≠ plainGateway.store.get "HOME" ∧
      ∀ r ∈ [reportRequest "/status" none, reportRequest "/env" none,
          reportRequest "/env" (some "vars=HOME,OPENAI_API_KEY".toList),
          reportRequest "/services" none],
        (handle askedAt homeGateway r).reply.status = 200 ∧
          (handle askedAt homeGateway r).reply = (handle askedAt plainGateway r).reply := by
  have hreport : ∀ path ∈ ["/status", "/env", "/services"], ∀ query,
      (handle askedAt homeGateway (reportRequest path query)).reply.status = 200 ∧
        (handle askedAt homeGateway (reportRequest path query)).reply =
          (handle askedAt plainGateway (reportRequest path query)).reply := by
    intro path hpath query
    have htext : (reportRequest path query).uri.pathText = path := String.ofList_toList
    obtain ⟨e, hendpoint, he⟩ := endpointOf_report (by rwa [htext])
    exact ⟨status_of_report (admitted_reportRequest path query) hendpoint he rfl,
      reports_reveal_names_hosts_models askedAt homeGateway plainGateway _ reportAlike_gateways
        (by rwa [htext])⟩
  refine ⟨by decide +kernel, by decide +kernel, ?_⟩
  simp only [List.forall_mem_cons, List.not_mem_nil, false_imp_iff, implies_true, and_true]
  exact ⟨hreport _ (by decide) _, hreport _ (by decide) _, hreport _ (by decide) _,
    hreport _ (by decide) _⟩

end Server

end CredentialGateway
