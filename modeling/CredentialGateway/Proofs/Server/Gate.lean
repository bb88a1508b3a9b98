/-
Nothing happens for a request without a credential.

There are three ways through the gateway.  A public path goes to the routes as it is,
and the routes have an endpoint at each public path, so it never comes to the part
that passes requests on.  On any other path the token is checked, and the request is
refused on the spot or goes to the routes with what it was granted.  So it is enough to
say what the routes do, and the backends come in there only once: their answer to the
request that went out is handed back, and nothing else depends on them.
-/
import Mathlib
import CredentialGateway.Server.Handle

namespace CredentialGateway.Server

open Http

/-- A request with a credential that verifies at the time it is handled. -/
def Admitted (s : Surroundings) (g : Gateway) (r : Request) : Prop :=
  ∃ text source claims, presented? r.headers = some (text, source) ∧
    g.authority.verify s.mac s.occasion.now text = .ok claims

/-! ### The check -/

theorem grant_eq_ok {s : Surroundings} {g : Gateway} {r : Request} {granted : Grant}
    (h : grant s.mac g.authority s.occasion.now r.headers = .ok granted) : Admitted s g r := by
  rw [grant] at h
  split at h
  · cases h
  · rename_i text source hpresented
    split at h
    · rename_i claims hverified
      exact ⟨text, source, claims, hpresented, hverified⟩
    · cases h

/-- What a request is told that is not admitted. -/
def refusal (h : Headers) : Failure :=
  match presented? h with
  | none => .unauthorised "Missing authorization header"
  | some _ => .unauthorised "Invalid or expired token"

theorem grant_eq_error {mac : Token.Mac} {a : Token.Authority} {now : UInt64} {h : Headers}
    {failure : Failure} (hgrant : grant mac a now h = .error failure) : failure = refusal h := by
  rw [grant] at hgrant
  rw [refusal]
  split at hgrant
  · rename_i hpresented
    rw [hpresented]
    exact (Except.error.inj hgrant).symm
  · rename_i text source hpresented
    rw [hpresented]
    split at hgrant
    · cases hgrant
    · exact (Except.error.inj hgrant).symm

theorem exists_grant {s : Surroundings} {g : Gateway} {r : Request} (h : Admitted s g r) :
    ∃ granted, grant s.mac g.authority s.occasion.now r.headers = .ok granted := by
  obtain ⟨text, source, claims, hpresented, hverified⟩ := h
  exact ⟨⟨claims, source⟩, by simp only [grant, hpresented, hverified]⟩

/-! ### The routes -/

variable {s : Surroundings} {g : Gateway} {source : Option Source} {logged : Option LogRecord}
  {r : Request}

theorem mem_publicPaths {path : String} :
    publicPaths.contains path = true ↔ path = "/auth" ∨ path = "/status" := by
  simp [publicPaths]

theorem endpointOf_auth (h : r.uri.pathText = "/auth") : endpointOf r = some .exchange := by
  rw [endpointOf, h]
  rfl

theorem endpointOf_status (h : r.uri.pathText = "/status") : endpointOf r = some .status := by
  rw [endpointOf, h]
  rfl

/-- An endpoint sends nothing. -/
theorem atEndpoint_sent (e : Endpoint) : (atEndpoint s g e logged r).sent = none := by
  rw [atEndpoint]
  split
  · split <;> rfl
  · rfl

/-- The endpoints that take no body handle every request with a method of theirs. -/
theorem atEndpoint_answerer {e : Endpoint} (h : e.takesBody = false) :
    (atEndpoint s g e logged r).answerer =
      if e.answers r.method then some (.endpoint e) else none := by
  have hbody : bodyFor e r.body = .ok [] := by
    rw [bodyFor, h]
    rfl
  rw [atEndpoint]
  split
  · rw [hbody]
  · rfl

/-- **What goes out** is what a client makes of the request to the target with the whole body. -/
theorem prepared_eq_ok_iff {get : Lookup} {out : Outgoing} :
    prepared get source r = .ok out ↔ r.body.fault = none ∧
      ∃ t, targetOf get r = .ok t ∧
        (outgoing get source t r r.body.octets).prepare? = some out := by
  unfold prepared wholeBody
  cases htarget : targetOf get r with
  | error failure => simp [bind, Except.bind]
  | ok t =>
      cases hfault : r.body.fault with
      | some cause => simp [bind, Except.bind]
      | none =>
          simp only [bind, Except.bind, true_and, Except.ok.injEq, exists_eq_left']
          cases (outgoing get source t r r.body.octets).prepare? with
          | none => simp [throw, throwThe, MonadExceptOf.throw]
          | some sent => simp [pure, Except.pure]

theorem prepared_of_no_target {get : Lookup} {failure : Failure}
    (h : targetOf get r = .error failure) : prepared get source r = .error failure := by
  rw [prepared, h]
  rfl

theorem prepared_of_broken_body {get : Lookup} {t : Target} {cause : String}
    (htarget : targetOf get r = .ok t) (hfault : r.body.fault = some cause) :
    prepared get source r =
      .error (.invalidRequest ("Failed to read request body: " ++ cause)) := by
  rw [prepared, htarget, wholeBody, hfault]
  rfl

/-- A path without a target has no route. -/
theorem targetOf_eq_error {get : Lookup} {failure : Failure}
    (h : targetOf get r = .error failure) : ∃ path, failure = .noRoute path := by
  rw [targetOf] at h
  split at h
  · cases h
    exact ⟨_, rfl⟩
  · rw [Target.resolve] at h
    split at h
    · cases h
    · cases h
      exact ⟨_, rfl⟩

/-- What the routes do with a request that is for the backends. -/
theorem route_of_no_endpoint (h : endpointOf r = none) :
    route s g source logged r =
      match prepared g.store.get source r with
      | .error failure => ⟨.ofFailure failure, g, some .forwarder, none, logged⟩
      | .ok out => ⟨replyOf (s.backends out), g, some .forwarder, some out, logged⟩ := by
  rw [route, h]
  simp only [forward]
  cases prepared g.store.get source r <;> rfl

theorem route_sent_of_endpoint {e : Endpoint} (h : endpointOf r = some e) :
    (route s g source logged r).sent = none := by
  rw [route, h]
  exact atEndpoint_sent e

/-- What the routes send has no endpoint, but a target and a whole body. -/
theorem route_sent {out : Outgoing} (h : (route s g source logged r).sent = some out) :
    endpointOf r = none ∧ (∃ t, targetOf g.store.get r = .ok t) ∧ r.body.fault = none := by
  cases hendpoint : endpointOf r with
  | some e =>
      rw [route_sent_of_endpoint hendpoint] at h
      cases h
  | none =>
      refine ⟨rfl, ?_⟩
      rw [route_of_no_endpoint hendpoint] at h
      cases hprepared : prepared g.store.get source r with
      | error failure =>
          rw [hprepared] at h
          cases h
      | ok sent =>
          obtain ⟨hbody, t, htarget, -⟩ := prepared_eq_ok_iff.mp hprepared
          exact ⟨⟨t, htarget⟩, hbody⟩

/-- The backends are asked once, and only for the answer that is handed back. -/
theorem route_backends (backends : Backends) :
    route { s with backends := backends } g source logged r =
      { route s g source logged r with
        reply := match (route s g source logged r).sent with
          | some out => replyOf (backends out)
          | none => (route s g source logged r).reply } := by
  cases hendpoint : endpointOf r with
  | some e =>
      rw [route_sent_of_endpoint hendpoint, route, route, hendpoint]
      rfl
  | none =>
      rw [route_of_no_endpoint hendpoint, route_of_no_endpoint hendpoint]
      cases prepared g.store.get source r <;> rfl

/-! ### The three ways -/

/-- What the routes do with a request, as its sender is told. -/
def routed (s : Surroundings) (g : Gateway) (source : Option Source) (logged : Option LogRecord)
    (r : Request) (headers : Headers) : Reaction :=
  let done := route s g source logged { r with headers := headers }
  { done with reply := withoutBody r done.reply }

theorem handle_of_public (h : publicPaths.contains r.uri.pathText = true) :
    handle s g r = routed s g none none r r.headers := by
  rw [handle, if_pos h]
  rfl

/-- A request on any other path is refused, or admitted to the routes. -/
theorem handle_of_guarded (h : publicPaths.contains r.uri.pathText = false) :
    (¬ Admitted s g r ∧
      handle s g r = ⟨withoutBody r (.ofFailure (refusal r.headers)), g, none, none, none⟩) ∨
    (Admitted s g r ∧
      ∃ source logged headers, handle s g r = routed s g source logged r headers) := by
  rw [handle, if_neg (by rw [h]; exact Bool.false_ne_true), answerGuarded]
  cases hgrant : grant s.mac g.authority s.occasion.now r.headers with
  | error failure =>
      obtain rfl := grant_eq_error hgrant
      refine Or.inl ⟨?_, rfl⟩
      intro hadmitted
      obtain ⟨granted, hgranted⟩ := exists_grant hadmitted
      rw [hgrant] at hgranted
      cases hgranted
  | ok granted => exact Or.inr ⟨grant_eq_ok hgrant, _, _, _, rfl⟩

/-- A request goes to the routes if it is admitted or its path is public. -/
theorem handle_cases (s : Surroundings) (g : Gateway) (r : Request) :
    (¬ Admitted s g r ∧ publicPaths.contains r.uri.pathText = false ∧
      handle s g r = ⟨withoutBody r (.ofFailure (refusal r.headers)), g, none, none, none⟩) ∨
    ((Admitted s g r ∨ publicPaths.contains r.uri.pathText = true) ∧
      ∃ source logged headers, handle s g r = routed s g source logged r headers) := by
  cases hpath : publicPaths.contains r.uri.pathText with
  | true => exact Or.inr ⟨Or.inr rfl, _, _, _, handle_of_public hpath⟩
  | false =>
      rcases handle_of_guarded hpath with ⟨hnot, h⟩ | ⟨hadmitted, h⟩
      · exact Or.inl ⟨hnot, rfl, h⟩
      · exact Or.inr ⟨Or.inl hadmitted, h⟩

theorem routed_backends {headers : Headers} (backends : Backends) :
    routed { s with backends := backends } g source logged r headers =
      { routed s g source logged r headers with
        reply := match (routed s g source logged r headers).sent with
          | some out => withoutBody r (replyOf (backends out))
          | none => (routed s g source logged r headers).reply } := by
  simp only [routed, route_backends]
  cases (route s g source logged { r with headers := headers }).sent <;> rfl

/-- The reaction depends on the backends through one answer only: that to the request which went
out, and which request that is does not depend on them. -/
theorem handle_backends (s : Surroundings) (g : Gateway) (r : Request) (backends : Backends) :
    handle { s with backends := backends } g r =
      { handle s g r with
        reply := match (handle s g r).sent with
          | some out => withoutBody r (replyOf (backends out))
          | none => (handle s g r).reply } := by
  cases hpath : publicPaths.contains r.uri.pathText with
  | true =>
      rw [handle_of_public hpath, handle_of_public hpath]
      exact routed_backends backends
  | false =>
      have hnot : ¬ publicPaths.contains r.uri.pathText = true := by
        rw [hpath]
        exact Bool.false_ne_true
      simp only [handle, if_neg hnot, answerGuarded]
      cases grant s.mac g.authority s.occasion.now r.headers with
      | error failure => rfl
      | ok granted => exact routed_backends backends

/-- The endpoints at the public paths are open to all, and nothing goes out from there. -/
theorem handle_of_public_endpoint {e : Endpoint} (hendpoint : endpointOf r = some e)
    (hpath : publicPaths.contains r.uri.pathText = true) (hbody : e.takesBody = false) :
    (handle s g r).sent = none ∧
      (handle s g r).answerer = if e.answers r.method then some (.endpoint e) else none := by
  rw [handle_of_public hpath, routed, route, hendpoint]
  exact ⟨atEndpoint_sent e, atEndpoint_answerer hbody⟩

/-- What goes out is for no endpoint, and has a target and a whole body. -/
theorem handle_sent {out : Outgoing} (h : (handle s g r).sent = some out) :
    endpointOf r = none ∧ (∃ t, targetOf g.store.get r = .ok t) ∧ r.body.fault = none := by
  rcases handle_cases s g r with ⟨-, -, hrefused⟩ | ⟨-, source, logged, headers, hrouted⟩
  · rw [hrefused] at h
    cases h
  · rw [hrouted] at h
    exact @route_sent s g source logged { r with headers := headers } out h

theorem admitted_of_sent {out : Outgoing} (h : (handle s g r).sent = some out) :
    Admitted s g r := by
  have hnone := (handle_sent h).1
  rcases handle_cases s g r with ⟨-, -, hrefused⟩ | ⟨hadmitted | hpublic, -⟩
  · rw [hrefused] at h
    cases h
  · exact hadmitted
  · rcases mem_publicPaths.mp hpublic with hpath | hpath
    · rw [endpointOf_auth hpath] at hnone
      cases hnone
    · rw [endpointOf_status hpath] at hnone
      cases hnone

theorem admitted_of_handled {who : Answerer} (h : (handle s g r).answerer = some who)
    (hexchange : who ≠ .endpoint .exchange) (hstatus : who ≠ .endpoint .status) :
    Admitted s g r := by
  have hopen : ∀ e, endpointOf r = some e → publicPaths.contains r.uri.pathText = true →
      e.takesBody = false → who = .endpoint e := by
    intro e hendpoint hpath hbody
    rw [(handle_of_public_endpoint hendpoint hpath hbody).2] at h
    split at h
    · exact (Option.some.inj h).symm
    · cases h
  rcases handle_cases s g r with ⟨-, -, hrefused⟩ | ⟨hadmitted | hpublic, -⟩
  · rw [hrefused] at h
    cases h
  · exact hadmitted
  · rcases mem_publicPaths.mp hpublic with hpath | hpath
    · exact absurd (hopen .exchange (endpointOf_auth hpath) hpublic rfl) hexchange
    · exact absurd (hopen .status (endpointOf_status hpath) hpublic rfl) hstatus

/-- An admitted request without an endpoint, nothing of which can be sent, is told why. -/
theorem handle_of_unprepared {failure : Failure} (hadmitted : Admitted s g r)
    (hendpoint : endpointOf r = none)
    (h : ∀ source headers,
      prepared g.store.get source { r with headers := headers } = .error failure) :
    (handle s g r).sent = none ∧ (handle s g r).reply = withoutBody r (.ofFailure failure) := by
  rcases handle_cases s g r with ⟨hnot, -⟩ | ⟨-, source, logged, headers, hrouted⟩
  · exact absurd hadmitted hnot
  · have hnone : endpointOf { r with headers := headers } = none := hendpoint
    rw [hrouted, routed, route_of_no_endpoint hnone, h]
    exact ⟨rfl, rfl⟩

/-- What must hold of the reaction to a request. -/
structure Gated (s : Surroundings) (g : Gateway) (r : Request) (done : Reaction) : Prop where
  /-- Nothing goes out without a credential. -/
  sent_admitted : ∀ out, done.sent = some out → Admitted s g r
  /-- Nothing but the two public endpoints handles a request without one. -/
  handled_admitted : ∀ who, done.answerer = some who → who ≠ .endpoint .exchange →
    who ≠ .endpoint .status → Admitted s g r
  /-- On any other path such a request is refused, and that is all. -/
  refused : ¬ Admitted s g r → r.uri.pathText ≠ "/auth" → r.uri.pathText ≠ "/status" →
    done = ⟨withoutBody r (.ofFailure (refusal r.headers)), g, none, none, none⟩
  /-- The exchange of the key is open to all, and nothing goes out from its path. -/
  auth_open : r.uri.pathText = "/auth" → done.sent = none ∧
    done.answerer = if r.method = "POST" then some (.endpoint .exchange) else none
  /-- So is the report on the state. -/
  status_open : r.uri.pathText = "/status" → done.sent = none ∧
    done.answerer = if r.method = "GET" ∨ r.method = "HEAD" then some (.endpoint .status) else none
  /-- The backends are asked once at most: what is done depends on their answer to what was sent,
  and only in what is handed back. -/
  asks_once : ∀ backends, handle { s with backends := backends } g r =
    { done with
      reply := match done.sent with
        | some out => withoutBody r (replyOf (backends out))
        | none => done.reply }
  /-- What goes out has a target and a whole body. -/
  sent_whole : ∀ out, done.sent = some out →
    endpointOf r = none ∧ (∃ t, targetOf g.store.get r = .ok t) ∧ r.body.fault = none
  /-- A request without a route is told so, and nothing goes out. -/
  no_route : Admitted s g r → endpointOf r = none → ∀ failure,
    targetOf g.store.get r = .error failure → (∃ path, failure = .noRoute path) ∧
      done.sent = none ∧ done.reply = withoutBody r (.ofFailure failure)
  /-- A request whose body breaks off is told so, and nothing goes out. -/
  broken_body : Admitted s g r → endpointOf r = none → ∀ t cause,
    targetOf g.store.get r = .ok t → r.body.fault = some cause →
      done.sent = none ∧ done.reply = withoutBody r
        (.ofFailure (.invalidRequest ("Failed to read request body: " ++ cause)))

/-- **The gate.**  Whatever request the gateway handles in whatever state, it asks the backends
once at most, and neither that nor anything but the public endpoints happens without a credential
that verifies. -/
theorem handle_gated (s : Surroundings) (g : Gateway) (r : Request) :
    Gated s g r (handle s g r) := by
  refine ⟨fun _ => admitted_of_sent, fun _ => admitted_of_handled, ?_, ?_, ?_,
    handle_backends s g r, fun _ => handle_sent, ?_, ?_⟩
  · intro hnot hauth hstatus
    rcases handle_cases s g r with ⟨-, -, hrefused⟩ | ⟨hadmitted | hpublic, -⟩
    · exact hrefused
    · exact absurd hadmitted hnot
    · exact absurd (mem_publicPaths.mp hpublic) (not_or.mpr ⟨hauth, hstatus⟩)
  · intro h
    obtain ⟨hsent, hanswerer⟩ := handle_of_public_endpoint (s := s) (g := g) (endpointOf_auth h)
      (mem_publicPaths.mpr (Or.inl h)) rfl
    exact ⟨hsent, by simpa [Endpoint.answers, Endpoint.isReport] using hanswerer⟩
  · intro h
    obtain ⟨hsent, hanswerer⟩ := handle_of_public_endpoint (s := s) (g := g) (endpointOf_status h)
      (mem_publicPaths.mpr (Or.inr h)) rfl
    exact ⟨hsent, by simpa [Endpoint.answers, Endpoint.isReport] using hanswerer⟩
  · intro hadmitted hendpoint failure htarget
    exact ⟨targetOf_eq_error htarget, handle_of_unprepared hadmitted hendpoint
      fun _ _ => prepared_of_no_target htarget⟩
  · intro hadmitted hendpoint t cause htarget hfault
    exact handle_of_unprepared hadmitted hendpoint
      fun _ _ => prepared_of_broken_body htarget hfault

end CredentialGateway.Server
