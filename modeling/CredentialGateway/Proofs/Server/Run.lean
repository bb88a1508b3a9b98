/-
What a request changes, and what a run of requests leaves.

Only two requests change the gateway: a post to `/auth`, which may issue a token, and a
post to `/revoke-all` that is admitted, which moves the cutoff.  `handle_gateway_cases`
says so once and for all; what a run of requests keeps then follows from two cases.
The cutoff never goes back, so whatever verifies at the end of a run was created no
earlier than the cutoff was at any time before.
-/
import Mathlib
import CredentialGateway.Proofs.Server.Gate
import CredentialGateway.Proofs.Token.Calls

namespace CredentialGateway.Server

open Http

variable {s : Surroundings} {g : Gateway} {source : Option Source} {logged : Option LogRecord}
  {r : Request} {headers : Headers}

/-! ### Requests that change the gateway -/

/-- A request that posts to a path. -/
structure Posts (r : Request) (path : String) : Prop where
  method : r.method = "POST"
  path : r.uri.pathText = path

theorem mem_table_of_endpointOf {e : Endpoint} (h : endpointOf r = some e) :
    (r.uri.pathText, e) ∈ Endpoint.table := by
  obtain ⟨front, rest, htable, -⟩ := List.lookup_eq_some_iff.mp h
  rw [htable]
  exact List.mem_append_right front List.mem_cons_self

theorem endpointOf_eq_exchange_iff : endpointOf r = some .exchange ↔ r.uri.pathText = "/auth" := by
  constructor
  · intro h
    simpa [Endpoint.table] using mem_table_of_endpointOf h
  · exact endpointOf_auth

theorem endpointOf_eq_revokeAll_iff :
    endpointOf r = some .revokeAll ↔ r.uri.pathText = "/revoke-all" := by
  constructor
  · intro h
    simpa [Endpoint.table] using mem_table_of_endpointOf h
  · intro h
    rw [endpointOf, h]
    rfl

theorem answers_eq_true_iff {e : Endpoint} (h : e.isReport = false) {method : String} :
    e.answers method = true ↔ method = "POST" := by
  simp [Endpoint.answers, h]

/-- An endpoint that takes no body answers a request with a method of its own. -/
theorem routed_endpoint {e : Endpoint} (hendpoint : endpointOf r = some e)
    (hanswers : e.answers r.method = true) (hbody : e.takesBody = false) :
    routed s g source logged r headers =
      ⟨withoutBody r (answer s.mac g s.occasion e { r with headers := headers } []).1,
        (answer s.mac g s.occasion e { r with headers := headers } []).2, some (.endpoint e), none,
        logged⟩ := by
  have hroute : endpointOf { r with headers := headers } = some e := hendpoint
  have hempty : bodyFor e r.body = .ok [] := by
    rw [bodyFor, hbody]
    rfl
  simp only [routed, route, hroute, atEndpoint, hanswers, if_true, hempty]

theorem withoutBody_post {reply : Reply} (h : r.method = "POST") : withoutBody r reply = reply := by
  have hne : r.method ≠ "HEAD" := by
    rw [h]
    decide
  rw [withoutBody, if_neg hne]

/-- The exchange of the gateway's key for a token. -/
theorem handle_exchange (h : Posts r "/auth") :
    handle s g r = ⟨(exchange s.mac g s.occasion r.headers).1,
      (exchange s.mac g s.occasion r.headers).2, some (.endpoint .exchange), none, none⟩ := by
  rw [handle_of_public (mem_publicPaths.mpr (Or.inl h.path)),
    routed_endpoint (endpointOf_auth h.path) ((answers_eq_true_iff rfl).mpr h.method) rfl,
    withoutBody_post h.method]
  rfl

/-- An endpoint that takes no body answers an admitted request. -/
theorem handle_of_admitted {e : Endpoint} (hadmitted : Admitted s g r)
    (hendpoint : endpointOf r = some e) (hanswers : e.answers r.method = true)
    (hbody : e.takesBody = false) :
    ∃ logged headers, handle s g r =
      ⟨withoutBody r (answer s.mac g s.occasion e { r with headers := headers } []).1,
        (answer s.mac g s.occasion e { r with headers := headers } []).2, some (.endpoint e), none,
        logged⟩ := by
  rcases handle_cases s g r with ⟨hnot, -, -⟩ | ⟨-, source, logged, headers, hrouted⟩
  · exact absurd hadmitted hnot
  · exact ⟨logged, headers, by rw [hrouted, routed_endpoint hendpoint hanswers hbody]⟩

/-- The revocation of all tokens, by a request that is admitted. -/
theorem handle_revokeAll (h : Posts r "/revoke-all") (hadmitted : Admitted s g r) :
    ∃ logged, handle s g r = ⟨(revokeAll g s.occasion.now).1, (revokeAll g s.occasion.now).2,
      some (.endpoint .revokeAll), none, logged⟩ := by
  obtain ⟨logged, headers, hdone⟩ := handle_of_admitted hadmitted
    (endpointOf_eq_revokeAll_iff.mpr h.path) ((answers_eq_true_iff rfl).mpr h.method) rfl
  refine ⟨logged, ?_⟩
  rw [hdone, withoutBody_post h.method]
  rfl

/-- What the routes leave of the gateway. -/
theorem routed_gateway_cases (s : Surroundings) (g : Gateway) (source : Option Source)
    (logged : Option LogRecord) (r : Request) (headers : Headers) :
    (routed s g source logged r headers).gateway = g ∨ Posts r "/auth" ∨
      (Posts r "/revoke-all" ∧
        (routed s g source logged r headers).gateway = (revokeAll g s.occasion.now).2) := by
  cases hendpoint : endpointOf r with
  | none =>
      left
      have hnone : endpointOf { r with headers := headers } = none := hendpoint
      rw [routed, route_of_no_endpoint hnone]
      split <;> rfl
  | some e =>
      have hroute : endpointOf { r with headers := headers } = some e := hendpoint
      cases hanswers : e.answers r.method with
      | false =>
          left
          simp only [routed, route, hroute, atEndpoint, hanswers, Bool.false_eq_true, if_false]
      | true =>
          cases hbody : bodyFor e r.body with
          | error refusal =>
              left
              simp only [routed, route, hroute, atEndpoint, hanswers, if_true, hbody]
          | ok body =>
              simp only [routed, route, hroute, atEndpoint, hanswers, if_true, hbody]
              cases e with
              | exchange =>
                  right; left
                  exact ⟨(answers_eq_true_iff rfl).mp hanswers,
                    endpointOf_eq_exchange_iff.mp hendpoint⟩
              | revokeAll =>
                  right; right
                  exact ⟨⟨(answers_eq_true_iff rfl).mp hanswers,
                    endpointOf_eq_revokeAll_iff.mp hendpoint⟩, rfl⟩
              | status | names | services | revoke | signMetadata | signPayload =>
                  left
                  rfl

/-- **What a request changes.** -/
theorem handle_gateway_cases (s : Surroundings) (g : Gateway) (r : Request) :
    (handle s g r).gateway = g ∨
      (Posts r "/auth" ∧
        (handle s g r).gateway = (exchange s.mac g s.occasion r.headers).2) ∨
      (Posts r "/revoke-all" ∧ Admitted s g r ∧
        (handle s g r).gateway = (revokeAll g s.occasion.now).2) := by
  -- The exchange reads header fields, and the routes may be given other ones than the request's:
  -- so the two posts come before the three ways through the gateway.
  by_cases hauth : Posts r "/auth"
  · right; left
    refine ⟨hauth, ?_⟩
    rw [handle_exchange hauth]
  · by_cases hall : Posts r "/revoke-all"
    · by_cases hadmitted : Admitted s g r
      · right; right
        obtain ⟨logged, hdone⟩ := handle_revokeAll hall hadmitted
        exact ⟨hall, hadmitted, by rw [hdone]⟩
      · left
        rcases handle_cases s g r with ⟨-, -, hrefused⟩ | ⟨hor, -⟩
        · rw [hrefused]
        · rcases mem_publicPaths.mp (hor.resolve_left hadmitted) with hpath | hpath <;>
            exact absurd (hall.path.symm.trans hpath) (by decide)
    · left
      rcases handle_cases s g r with ⟨-, -, hrefused⟩ | ⟨-, source, logged, headers, hrouted⟩
      · rw [hrefused]
      · rw [hrouted]
        rcases routed_gateway_cases s g source logged r headers with hsame | hposts | hposts
        · exact hsame
        · exact absurd hposts hauth
        · exact absurd hposts.1 hall

/-! ### Runs -/

/-- A request as it arrives: at what time, and with what backends around. -/
structure Arrival where
  /-- The clock and the random text. -/
  occasion : Token.Occasion
  /-- The backends. -/
  backends : Backends
  /-- The request. -/
  request : Request

/-- What a request meets that arrives. -/
def Arrival.surroundings (mac : Token.Mac) (x : Arrival) : Surroundings :=
  ⟨mac, x.occasion, x.backends⟩

/-- What comes of a request that arrives. -/
def react (mac : Token.Mac) (g : Gateway) (x : Arrival) : Reaction :=
  handle (x.surroundings mac) g x.request

/-- The gateway after requests. -/
def after (mac : Token.Mac) (g : Gateway) (arrivals : List Arrival) : Gateway :=
  arrivals.foldl (fun g x => (react mac g x).gateway) g

variable {mac : Token.Mac}

theorem after_append (front back : List Arrival) :
    after mac g (front ++ back) = after mac (after mac g front) back :=
  List.foldl_append

theorem after_cons (x : Arrival) (rest : List Arrival) :
    after mac g (x :: rest) = after mac (react mac g x).gateway rest := rfl

theorem after_concat (front : List Arrival) (x : Arrival) :
    after mac g (front ++ [x]) = (react mac (after mac g front) x).gateway :=
  after_append front [x]

/-- What comes of the revocation of all tokens. -/
theorem react_revokeAll {x : Arrival} (hposts : Posts x.request "/revoke-all")
    (hadmitted : Admitted (x.surroundings mac) g x.request) :
    (react mac g x).reply.status = 200 ∧
      (react mac g x).gateway.authority = g.authority.revoke x.occasion.now := by
  obtain ⟨logged, hdone⟩ := handle_revokeAll hposts hadmitted
  rw [react, hdone]
  exact ⟨rfl, rfl⟩

/-- A request does not move the cutoff back. -/
theorem cutoff_le_react (x : Arrival) :
    g.authority.cutoff ≤ (react mac g x).gateway.authority.cutoff := by
  rcases handle_gateway_cases (x.surroundings mac) g x.request with
    hdone | ⟨-, hdone⟩ | ⟨-, -, hdone⟩
  · rw [react, hdone]
    exact UInt64.le_refl _
  · rw [react, hdone, exchange]
    split <;> exact UInt64.le_refl _
  · rw [react, hdone]
    exact (Token.Authority.cutoff_revoke g.authority _).1

/-- **A run does not move the cutoff back.** -/
theorem cutoff_le_after (arrivals : List Arrival) :
    g.authority.cutoff ≤ (after mac g arrivals).authority.cutoff := by
  induction arrivals generalizing g with
  | nil => exact UInt64.le_refl _
  | cons x rest ih => exact UInt64.le_trans (cutoff_le_react x) ih

end CredentialGateway.Server
