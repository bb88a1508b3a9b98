/-
The names of the gateway's own endpoints.

A path is an endpoint's only as it is written in the table of endpoints.  With more slashes
around it, it is none of the gateway's paths, and the request comes to the part that passes
requests on.  There it meets a second table, that of the names that are never passed on, and
this one is read without the slashes.  The second table has the name of every endpoint but
the two that sign.  So a request that misses an endpoint by a slash is refused, unless it was
for one of these two: then it goes to a backend like a request for any other path, with what
was to be signed in it.
-/
import Mathlib
import CredentialGateway.Proofs.Server.Body
import CredentialGateway.Proofs.Server.Identity

namespace CredentialGateway.Server

open Http

/-! ### The two tables -/

namespace Endpoint

/-- Whether an endpoint signs what it is given. -/
def signs : Endpoint → Bool
  | signMetadata | signPayload => true
  | _ => false

end Endpoint

/-- A path without the slashes around it. -/
def nameOf (path : String) : String :=
  String.ofList (Text.trim Target.isSlash path.toList)

/-- **The reserved names** are those of the endpoints that do not sign. -/
theorem reservedNames_perm :
    reservedNames.Perm
      ((Endpoint.table.filter fun f => !f.2.signs).map fun f => nameOf f.1) := by
  decide +kernel

/-- Endpoints have different names. -/
theorem eq_of_nameOf_eq :
    ∀ f ∈ Endpoint.table, ∀ f' ∈ Endpoint.table, nameOf f.1 = nameOf f'.1 → f = f' := by
  decide +kernel

theorem nameOf_mem_reservedNames_iff {path : String} {e : Endpoint}
    (hrow : (path, e) ∈ Endpoint.table) : nameOf path ∈ reservedNames ↔ e.signs = false := by
  rw [reservedNames_perm.mem_iff, List.mem_map]
  constructor
  · rintro ⟨f, hf, hname⟩
    obtain ⟨hf, hsigns⟩ := List.mem_filter.mp hf
    obtain rfl := eq_of_nameOf_eq f hf (path, e) hrow hname
    simpa using hsigns
  · intro hsigns
    exact ⟨(path, e), List.mem_filter.mpr ⟨hrow, by simp [hsigns]⟩, rfl⟩

/-! ### A request that misses an endpoint by a slash -/

variable {s : Surroundings} {g : Gateway} {r : Request}

theorem innerPath_eq (r : Request) : innerPath r = nameOf r.uri.pathText := by
  unfold innerPath nameOf Uri.pathText
  rw [String.toList_ofList]

/-- A request is told that there is no route: nothing goes out, and nothing changes. -/
structure NotRouted (g : Gateway) (r : Request) (done : Reaction) : Prop where
  /-- The answer is that nothing was found. -/
  status : done.reply.status = 404
  /-- It names the path. -/
  reply : done.reply = withoutBody r (.ofFailure (.noRoute (innerPath r)))
  /-- Nothing goes out. -/
  sent : done.sent = none
  /-- The gateway is as it was. -/
  gateway : done.gateway = g

theorem status_withoutBody (r : Request) (reply : Reply) :
    (withoutBody r reply).status = reply.status := by
  unfold withoutBody
  split <;> rfl

/-- A request that comes to no endpoint leaves the gateway as it is. -/
theorem gateway_of_no_endpoint (h : endpointOf r = none) : (handle s g r).gateway = g := by
  rcases handle_gateway_cases s g r with hsame | ⟨hposts, -⟩ | ⟨hposts, -, -⟩
  · exact hsame
  · rw [endpointOf_auth hposts.path] at h
    cases h
  · rw [endpointOf_eq_revokeAll_iff.mpr hposts.path] at h
    cases h

/-- A reserved name is not passed on. -/
theorem notRouted_of_reserved (hadmitted : Admitted s g r) (hnone : endpointOf r = none)
    (hreserved : innerPath r ∈ reservedNames) : NotRouted g r (handle s g r) := by
  have htarget : ∀ headers, targetOf g.store.get { r with headers := headers } =
      .error (.noRoute (innerPath r)) := by
    intro headers
    exact if_pos (List.contains_iff_mem.mpr hreserved)
  obtain ⟨hsent, hreply⟩ := handle_of_unprepared hadmitted hnone
    fun _ headers => prepared_of_no_target (htarget headers)
  refine ⟨?_, hreply, hsent, gateway_of_no_endpoint hnone⟩
  rw [hreply, status_withoutBody]
  rfl

theorem isSome_sent_iff (hadmitted : Admitted s g r) (hnone : endpointOf r = none) :
    (handle s g r).sent.isSome = true ↔ r.body.fault = none ∧
      ∃ t, targetOf g.store.get r = .ok t ∧
        isReachable g.store.get t r.uri.queryText = true := by
  obtain ⟨granted, hgrant⟩ := exists_grant hadmitted
  rw [Option.isSome_iff_exists, exists_congr fun out => sent_eq_some_iff hgrant hnone]
  exact exists_prepared_iff

/-- A request goes out to the URL of its target, and a body that is no JSON goes out as it came. -/
theorem exists_sent_of_url {t : Target} {u : Url} (hadmitted : Admitted s g r)
    (hnone : endpointOf r = none) (hbody : r.body.fault = none)
    (htarget : targetOf g.store.get r = .ok t)
    (hparse : Url.parse? (t.url (r.uri.queryText.map (Substitution.query g.store.get))) = some u)
    (hsendable : Outgoing.isSendable u = true) :
    ∃ out, (handle s g r).sent = some out ∧ out.url = String.ofList u.renderRequest ∧
      (Json.parse? r.body.octets = none → out.body = r.body.octets) := by
  obtain ⟨granted, hgrant⟩ := exists_grant hadmitted
  have hsent := (sent_eq_some_iff hgrant hnone).mpr (prepared_eq_ok_iff.mpr
    ⟨hbody, t, htarget, prepare?_eq_some_iff.mpr ⟨u, hparse, hsendable, rfl⟩⟩)
  refine ⟨_, hsent, rfl, ?_⟩
  intro hunread
  simp only [outgoing, outgoingBody_of_unread hunread]

/-- Who sent a request gets the answer of the backend. -/
theorem reply_of_sent {out : Outgoing} (h : (handle s g r).sent = some out) :
    (handle s g r).reply = withoutBody r (replyOf (s.backends out)) := by
  have hreply := congrArg Reaction.reply (handle_backends s g r s.backends)
  rwa [h] at hreply

/-- A request with the name of an endpoint comes to this endpoint or to none. -/
theorem endpointOf_eq_none {path : String} {e : Endpoint} (hrow : (path, e) ∈ Endpoint.table)
    (hname : innerPath r = nameOf path) (hmissed : endpointOf r ≠ some e) :
    endpointOf r = none := by
  cases hendpoint : endpointOf r with
  | none => rfl
  | some e' =>
      have hrow' := mem_table_of_endpointOf hendpoint
      rw [innerPath_eq] at hname
      have hsame := eq_of_nameOf_eq _ hrow' _ hrow hname
      cases hsame
      exact absurd hendpoint hmissed

/-- **A request that misses an endpoint by a slash.**  If the endpoint does not sign, there is no
route for the request.  If it signs, the request goes out exactly if it would for any other path:
if its body is whole, the path has a target, and the URL is one that a client sends requests to. -/
theorem missed_endpoint_is_not_routed (s : Surroundings) (g : Gateway) (r : Request)
    (path : String) (e : Endpoint) (hadmitted : Admitted s g r)
    (hrow : (path, e) ∈ Endpoint.table) (hname : innerPath r = nameOf path)
    (hmissed : endpointOf r ≠ some e) :
    (e.signs = false → NotRouted g r (handle s g r)) ∧
    (e.signs = true → ((handle s g r).sent.isSome = true ↔ r.body.fault = none ∧
      ∃ t, Target.resolve g.store.get (nameOf path) r.uri.queryText = .ok t ∧
        isReachable g.store.get t r.uri.queryText = true)) := by
  have hnone := endpointOf_eq_none hrow hname hmissed
  have hreserved : innerPath r ∈ reservedNames ↔ e.signs = false := by
    rw [hname]
    exact nameOf_mem_reservedNames_iff hrow
  constructor
  · intro hsigns
    exact notRouted_of_reserved hadmitted hnone (hreserved.mpr hsigns)
  · intro hsigns
    have hfree : ¬ reservedNames.contains (innerPath r) = true := by
      rw [List.contains_iff_mem, hreserved, hsigns]
      exact Bool.noConfusion
    rw [isSome_sent_iff hadmitted hnone, targetOf, if_neg hfree, hname]

/-! ### Two requests with slashes -/

/-- A request of a user to some path, with a text in it. -/
def textRequest (path : String) : Request :=
  ⟨"POST", ⟨none, none, path.toList, none⟩,
    [(tokenField, Utf8.encodeString (userToken "ada"))], ⟨Utf8.encodeString "a text", none⟩⟩

theorem admitted_textRequest (path : String) :
    Admitted soonAfter backendGateway (textRequest path) := by
  have hfirst : (textRequest path).headers.first? tokenField =
      some (Utf8.encodeString (userToken "ada")) := by
    simp [textRequest, Headers.first?]
  have hlater : (50 : UInt64) ≤ soonAfter.occasion.now := by decide
  exact admitted_of_issued hfirst ⟨rfl, rfl, UInt64.zero_le⟩ (by decide) hlater (by decide)

/-- The report on services is refused between slashes. -/
theorem slashed_report_is_not_routed :
    Admitted soonAfter backendGateway (textRequest "//services/") ∧
      ("/services", Endpoint.services) ∈ Endpoint.table ∧
      innerPath (textRequest "//services/") = nameOf "/services" ∧
      endpointOf (textRequest "//services/") ≠ some .services ∧
      NotRouted backendGateway (textRequest "//services/")
        (handle soonAfter backendGateway (textRequest "//services/")) := by
  have hadmitted := admitted_textRequest "//services/"
  have hname : innerPath (textRequest "//services/") = nameOf "/services" := by decide +kernel
  have hmissed : endpointOf (textRequest "//services/") ≠ some .services := by decide +kernel
  exact ⟨hadmitted, by decide, hname, hmissed,
    (missed_endpoint_is_not_routed soonAfter backendGateway _ "/services" .services hadmitted
      (by decide) hname hmissed).1 rfl⟩

/-- What was to be signed goes to a backend when there is a slash too much behind the path. -/
theorem slashed_payload_is_sent_to_backend :
    let r := textRequest "/api/ai-generated/sign-payload/"
    Admitted soonAfter backendGateway r ∧
      ("/api/ai-generated/sign-payload", Endpoint.signPayload) ∈ Endpoint.table ∧
      innerPath r = nameOf "/api/ai-generated/sign-payload" ∧
      endpointOf r ≠ some .signPayload ∧
      ∃ out, (handle soonAfter backendGateway r).sent = some out ∧
        out.url = "http://backend.example/api/ai-generated/sign-payload" ∧
        out.body = Utf8.encodeString "a text" ∧
        (handle soonAfter backendGateway r).reply.status = 502 := by
  intro r
  have hadmitted : Admitted soonAfter backendGateway r := admitted_textRequest _
  have hnone : endpointOf r = none := by decide +kernel
  let t : Target := ⟨"http://backend.example", none, "api/ai-generated/sign-payload", .default⟩
  have htarget : targetOf backendGateway.store.get r = .ok t := by
    have hplain : targetOf backendGateway.store.get
        ⟨"POST", ⟨none, none, "/api/ai-generated/sign-payload/".toList, none⟩, [], ⟨[], none⟩⟩ =
          .ok t := by
      decide +kernel
    exact hplain
  have hurl : t.url none = "http://backend.example/api/ai-generated/sign-payload" := by
    decide +kernel
  let u : Url := (Url.parse? "http://backend.example/api/ai-generated/sign-payload").get
    (by decide +kernel)
  have hparse : Url.parse? (t.url none) = some u := by
    rw [hurl]
    exact (Option.some_get _).symm
  have hrender : String.ofList u.renderRequest =
      "http://backend.example/api/ai-generated/sign-payload" := by decide +kernel
  obtain ⟨out, hsent, hto, hbody⟩ :=
    exists_sent_of_url hadmitted hnone rfl htarget hparse (by decide +kernel)
  refine ⟨hadmitted, by decide, by decide +kernel, by rw [hnone]; exact nofun, out, hsent,
    hto.trans hrender, hbody (by decide +kernel), ?_⟩
  rw [reply_of_sent hsent, status_withoutBody]
  rfl

end CredentialGateway.Server
