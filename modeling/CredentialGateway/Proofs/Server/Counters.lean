/-
What the gateway remembers of a run of requests.

The two numbers that change are told by the answers that were given: the counter is the
number of exchanges that succeeded, and the cutoff is the latest time that a caller was
told the tokens are revoked up to.  Any other request, whatever became of it, leaves the
whole gateway as it was.  What a caller was told is read from the body of the answer, as
the caller would read it, and so is the report on the state.
-/
import Mathlib
import CredentialGateway.Proofs.Server.Revocation

namespace CredentialGateway.Server

open Http Token

/-! ### What callers are told -/

/-- Whether a post to a path succeeded. -/
def succeeded (path : String) (entry : Request × Reply) : Bool :=
  entry.1.method = "POST" && entry.1.uri.pathText = path && entry.2.status = 200

/-- The time in the answer to a revocation of all tokens. -/
def revocationTime? (w : Json.Written) : Option UInt64 := do
  let [time] ← Json.fields? ["revoke_timestamp"] w | none
  time.required Json.Written.word?

/-- The time that the answer to a request says the tokens are revoked up to: the one in the body
of an answer to a revocation of all tokens that succeeded. -/
def revokedTo? (entry : Request × Reply) : Option UInt64 :=
  if succeeded "/revoke-all" entry then readBody? revocationTime? entry.2.body else none

/-- The counter and the cutoff in a report on the state. -/
def counters? (w : Json.Written) : Option (UInt64 × UInt64) := do
  let [version, cutoff] ←
    Json.fields? ["current_token_version", "global_revoke_timestamp"] w | none
  return (← version.required Json.Written.word?, ← cutoff.required Json.Written.word?)

variable {mac : Mac} {g : Gateway} {x : Arrival} {path : String}

theorem succeeded_iff {entry : Request × Reply} :
    succeeded path entry = true ↔ Posts entry.1 path ∧ entry.2.status = 200 := by
  simp only [succeeded, Bool.and_eq_true, decide_eq_true_eq]
  exact ⟨fun h => ⟨⟨h.1.1, h.1.2⟩, h.2⟩, fun h => ⟨⟨h.1.method, h.1.path⟩, h.2⟩⟩

theorem not_succeeded_of_not_posts {entry : Request × Reply} (h : ¬ Posts entry.1 path) :
    succeeded path entry = false :=
  Bool.eq_false_iff.mpr fun hdone => h (succeeded_iff.mp hdone).1

theorem not_succeeded_of_status {entry : Request × Reply} (h : entry.2.status ≠ 200) :
    succeeded path entry = false :=
  Bool.eq_false_iff.mpr fun hdone => h (succeeded_iff.mp hdone).2

theorem revokedTo?_eq_none {entry : Request × Reply} (h : succeeded "/revoke-all" entry = false) :
    revokedTo? entry = none := by
  rw [revokedTo?, h, if_neg Bool.false_ne_true]

/-- **The answer to a revocation tells the cutoff behind it.** -/
theorem readBody?_revokeAll (g : Gateway) (now : UInt64) :
    readBody? revocationTime? (revokeAll g now).1.body = some (g.authority.revoke now).cutoff := by
  let members : List (String × Json) := [("success", .bool true),
    ("message", .string "All previously issued tokens have been revoked"),
    ("revoke_timestamp", .integer (g.authority.revoke now).cutoff.toNat)]
  have hnodup : (members.map Prod.fst).Nodup := by
    simp [members]
  have hexact : Json.isExact (.object members) = true := rfl
  have hgiven : ["revoke_timestamp"].map (Json.given members) =
      [.value (Json.written (.integer (g.authority.revoke now).cutoff.toNat))] := rfl
  have hbody : (revokeAll g now).1.body = (Json.object members).octets := rfl
  rw [readBody?, hbody, Json.Written.parse?_octets hexact, Option.bind_some, revocationTime?,
    Json.fields?_written hnodup, hgiven]
  exact Json.word?_written _

theorem isExact_stringList (ss : List String) : Json.isExact (stringList ss) = true := by
  refine Json.isExactItems_iff.mpr fun v hv => ?_
  obtain ⟨s, -, rfl⟩ := List.mem_map.mp hv
  rfl

/-- **The report on the state tells the counter and the cutoff.** -/
theorem readBody?_statusReport (g : Gateway) :
    readBody? counters? (statusReport g).octets =
      some (g.authority.version, g.authority.cutoff) := by
  have hexact : Json.isExact (statusReport g) = true := by
    simp [statusReport, Json.isExact, Json.isExactMembers, isExact_stringList]
  rw [readBody?, Json.Written.parse?_octets hexact, Option.bind_some, counters?, statusReport,
    Json.fields?_written (by simp)]
  simp only [List.map_cons, List.map_nil, Json.given, List.lookup_cons, String.reduceBEq,
    Json.Given.required, Json.word?_written, Option.bind_eq_bind, Option.bind_some, Option.pure_def]

/-! ### One request -/

/-- A request with its answer. -/
def entryOf (mac : Mac) (g : Gateway) (x : Arrival) : Request × Reply :=
  (x.request, (react mac g x).reply)

/-- A post to `/auth` succeeds where the gateway's key is given. -/
theorem exchange_cases (mac : Mac) (g : Gateway) (hposts : Posts x.request "/auth") :
    (succeeded "/auth" (entryOf mac g x) = false ∧ (react mac g x).gateway = g) ∨
      (succeeded "/auth" (entryOf mac g x) = true ∧ (react mac g x).gateway = { g with
        authority := (g.authority.issue mac (callerOf x.request.headers) x.occasion).2 }) := by
  have hdone := handle_exchange (s := x.surroundings mac) (g := g) hposts
  cases hkey : hasKey g x.request.headers with
  | false =>
      rw [exchange_of_no_key hkey] at hdone
      refine .inl ⟨not_succeeded_of_status ?_, by rw [react, hdone]⟩
      rw [entryOf, react, hdone]
      exact (by decide : (401 : Nat) ≠ 200)
  | true =>
      rw [exchange_of_key hkey] at hdone
      refine .inr ⟨succeeded_iff.mpr ⟨hposts, ?_⟩, by rw [react, hdone]; rfl⟩
      rw [entryOf, react, hdone]
      rfl

/-- A post to `/revoke-all` succeeds where it is admitted, and then tells the cutoff behind it. -/
theorem revokeAll_cases (mac : Mac) (g : Gateway) (hposts : Posts x.request "/revoke-all") :
    (succeeded "/revoke-all" (entryOf mac g x) = false ∧ (react mac g x).gateway = g) ∨
      (revokedTo? (entryOf mac g x) = some (g.authority.revoke x.occasion.now).cutoff ∧
        (react mac g x).gateway = { g with authority := g.authority.revoke x.occasion.now }) := by
  by_cases hadmitted : Admitted (x.surroundings mac) g x.request
  · obtain ⟨logged, hdone⟩ := handle_revokeAll hposts hadmitted
    have hsucceeded : succeeded "/revoke-all" (entryOf mac g x) = true :=
      succeeded_iff.mpr ⟨hposts, (react_revokeAll hposts hadmitted).1⟩
    refine .inr ⟨?_, by rw [react, hdone]; rfl⟩
    rw [revokedTo?, if_pos hsucceeded, entryOf, react, hdone]
    exact readBody?_revokeAll g x.occasion.now
  · refine .inl ⟨Bool.eq_false_iff.mpr fun hsucceeded => ?_, ?_⟩
    · exact hadmitted (admitted_of_revoked hposts (succeeded_iff.mp hsucceeded).2)
    · rcases handle_gateway_cases (x.surroundings mac) g x.request with
        hsame | ⟨hauth, -⟩ | ⟨-, hdone, -⟩
      · exact hsame
      · exact absurd (hposts.path.symm.trans hauth.path) (by decide)
      · exact absurd hdone hadmitted

/-- **What a request changes, told by its answer.** -/
theorem react_cases (mac : Mac) (g : Gateway) (x : Arrival) :
    (succeeded "/auth" (entryOf mac g x) = false ∧
      succeeded "/revoke-all" (entryOf mac g x) = false ∧ (react mac g x).gateway = g) ∨
    (succeeded "/auth" (entryOf mac g x) = true ∧
      succeeded "/revoke-all" (entryOf mac g x) = false ∧ (react mac g x).gateway = { g with
        authority := (g.authority.issue mac (callerOf x.request.headers) x.occasion).2 }) ∨
    (succeeded "/auth" (entryOf mac g x) = false ∧
      revokedTo? (entryOf mac g x) = some (g.authority.revoke x.occasion.now).cutoff ∧
      (react mac g x).gateway = { g with authority := g.authority.revoke x.occasion.now }) := by
  by_cases hauth : Posts x.request "/auth"
  · have hnot : succeeded "/revoke-all" (entryOf mac g x) = false :=
      not_succeeded_of_not_posts fun hall =>
        absurd (hauth.path.symm.trans hall.path) (by decide)
    rcases exchange_cases mac g hauth with ⟨hfailed, hsame⟩ | ⟨hdone, hafter⟩
    · exact .inl ⟨hfailed, hnot, hsame⟩
    · exact .inr (.inl ⟨hdone, hnot, hafter⟩)
  · have hnot : succeeded "/auth" (entryOf mac g x) = false := not_succeeded_of_not_posts hauth
    by_cases hall : Posts x.request "/revoke-all"
    · rcases revokeAll_cases mac g hall with ⟨hfailed, hsame⟩ | ⟨hdone, hafter⟩
      · exact .inl ⟨hnot, hfailed, hsame⟩
      · exact .inr (.inr ⟨hnot, hdone, hafter⟩)
    · refine .inl ⟨hnot, not_succeeded_of_not_posts hall, ?_⟩
      rcases handle_gateway_cases (x.surroundings mac) g x.request with
        hsame | ⟨hposts, -⟩ | ⟨hposts, -, -⟩
      · exact hsame
      · exact absurd hposts hauth
      · exact absurd hposts hall

/-- What is answered to a request for the report on the state. -/
theorem react_status (hmethod : x.request.method = "GET")
    (hpath : x.request.uri.pathText = "/status") :
    (react mac g x).reply = .ofJson 200 (statusReport g) := by
  have hanswers : Endpoint.status.answers x.request.method = true := by
    rw [hmethod]
    decide
  have hkept : x.request.method ≠ "HEAD" := by
    rw [hmethod]
    decide
  rw [react, handle_of_public (mem_publicPaths.mpr (.inr hpath)),
    routed_endpoint (endpointOf_status hpath) hanswers rfl, withoutBody, if_neg hkept]
  rfl

/-! ### Runs -/

/-- The requests of a run with their answers. -/
def transcript (mac : Mac) (g : Gateway) : List Arrival → List (Request × Reply)
  | [] => []
  | x :: rest => entryOf mac g x :: transcript mac (react mac g x).gateway rest

theorem transcript_concat (front : List Arrival) (x : Arrival) :
    transcript mac g (front ++ [x]) =
      transcript mac g front ++ [entryOf mac (after mac g front) x] := by
  induction front generalizing g with
  | nil => rfl
  | cons y rest ih => rw [List.cons_append, transcript, ih]; rfl

/-- What an authority remembers, told by answers: the counter is the number of exchanges that
succeeded, in a word; the cutoff is the latest time that a caller was told, or zero; and a caller
was told a time by every revocation that succeeded. -/
structure ToldBy (a : Authority) (entries : List (Request × Reply)) : Prop where
  version_eq : a.version = UInt64.ofNat (entries.countP (succeeded "/auth"))
  cutoff_eq : a.cutoff.toNat = latest (entries.filterMap revokedTo?)
  told : ∀ entry ∈ entries, succeeded "/revoke-all" entry = true → (revokedTo? entry).isSome

/-- **A request keeps what the answers tell.** -/
theorem ToldBy.react {entries : List (Request × Reply)} (h : ToldBy g.authority entries)
    (mac : Mac) (x : Arrival) :
    ToldBy (react mac g x).gateway.authority (entries ++ [entryOf mac g x]) := by
  have hperm := List.perm_append_singleton (entryOf mac g x) entries
  have htold_of (hlast : succeeded "/revoke-all" (entryOf mac g x) = true →
      (revokedTo? (entryOf mac g x)).isSome) : ∀ entry ∈ entries ++ [entryOf mac g x],
      succeeded "/revoke-all" entry = true → (revokedTo? entry).isSome := by
    intro entry hentry
    rcases List.mem_append.mp hentry with hold | hnew
    · exact h.told entry hold
    · rw [List.mem_singleton.mp hnew]
      exact hlast
  rcases react_cases mac g x with ⟨hauth, hall, hafter⟩ | ⟨hauth, hall, hafter⟩ |
    ⟨hauth, htime, hafter⟩
  · refine ⟨?_, ?_, htold_of fun hdone => absurd (hall.symm.trans hdone) (by decide)⟩
    · rw [hafter, hperm.countP_eq, List.countP_cons_of_neg (Bool.eq_false_iff.mp hauth),
        h.version_eq]
    · rw [hafter, latest_of_perm (hperm.filterMap _),
        List.filterMap_cons_none (revokedTo?_eq_none hall), h.cutoff_eq]
  · refine ⟨?_, ?_, htold_of fun hdone => absurd (hall.symm.trans hdone) (by decide)⟩
    · rw [hafter, hperm.countP_eq, List.countP_cons_of_pos hauth, UInt64.ofNat_add, ← h.version_eq]
      rfl
    · rw [hafter, latest_of_perm (hperm.filterMap _),
        List.filterMap_cons_none (revokedTo?_eq_none hall), ← h.cutoff_eq]
      rfl
  · refine ⟨?_, ?_, htold_of fun _ => by rw [htime]; rfl⟩
    · rw [hafter, hperm.countP_eq, List.countP_cons_of_neg (Bool.eq_false_iff.mp hauth),
        ← h.version_eq]
      rfl
    · -- The caller is told the cutoff behind the revocation, which is no earlier than any time
      -- that was told before.
      have hle := UInt64.le_iff_toNat_le.mp (Authority.cutoff_revoke g.authority x.occasion.now).1
      rw [h.cutoff_eq] at hle
      rw [hafter, latest_of_perm (hperm.filterMap _), List.filterMap_cons_some htime]
      exact (Nat.max_eq_left hle).symm

/-- The answers to the requests of a run tell what the authority remembers. -/
theorem toldBy_transcript {store : Store} (hstart : g.authority = .ofStore store) (mac : Mac)
    (arrivals : List Arrival) :
    ToldBy (after mac g arrivals).authority (transcript mac g arrivals) := by
  induction arrivals using List.reverseRecOn with
  | nil =>
      rw [after, List.foldl_nil, hstart]
      exact ⟨rfl, rfl, by simp [transcript]⟩
  | append_singleton front x ih =>
      rw [after_concat, transcript_concat]
      exact ih.react mac x

theorem authority_ofStore {store : Store} {settings : Settings}
    (h : Gateway.ofStore store settings = .ok g) : g.authority = .ofStore store := by
  obtain ⟨key, -, hkey⟩ := bind_eq_ok_iff.mp h
  rw [← Except.ok.inj hkey]

/-- **Only exchanges and revocations of all tokens change the gateway.**  After any requests to a
gateway that has just started, the counter is the number of posts to `/auth` that were answered
with success, and the cutoff is the latest time that an answer to a post to `/revoke-all` told,
or zero; the report on the state tells these two numbers; and any request but those two leaves
the gateway as it was. -/
theorem only_exchange_and_revokeAll_count (mac : Mac) (store : Store) (settings : Settings)
    (g : Gateway) (hstart : Gateway.ofStore store settings = .ok g) (arrivals : List Arrival) :
    let now := after mac g arrivals
    let entries := transcript mac g arrivals
    now.authority.version = UInt64.ofNat (entries.countP (succeeded "/auth")) ∧
    (entries.countP (succeeded "/auth") < 2 ^ 64 →
      now.authority.version.toNat = entries.countP (succeeded "/auth")) ∧
    now.authority.cutoff.toNat = latest (entries.filterMap revokedTo?) ∧
    (∀ entry ∈ entries, succeeded "/revoke-all" entry = true → (revokedTo? entry).isSome) ∧
    (∀ x, x.request.method = "GET" → x.request.uri.pathText = "/status" →
      (react mac now x).reply.status = 200 ∧
      readBody? counters? (react mac now x).reply.body =
        some (now.authority.version, now.authority.cutoff)) ∧
    ∀ x, succeeded "/auth" (x.request, (react mac now x).reply) = false →
      succeeded "/revoke-all" (x.request, (react mac now x).reply) = false →
      (react mac now x).gateway = now := by
  intro now entries
  have htold := toldBy_transcript (authority_ofStore hstart) mac arrivals
  refine ⟨htold.version_eq, ?_, htold.cutoff_eq, htold.told, ?_, ?_⟩
  · intro hfits
    rw [htold.version_eq, UInt64.toNat_ofNat_of_lt' hfits]
  · intro x hmethod hpath
    rw [react_status hmethod hpath]
    exact ⟨rfl, readBody?_statusReport now⟩
  · intro x hauth hall
    rcases react_cases mac now x with ⟨-, -, hsame⟩ | ⟨hdone, -⟩ | ⟨-, htime, -⟩
    · exact hsame
    · exact absurd (hauth.symm.trans hdone) (by decide)
    · rw [entryOf, revokedTo?_eq_none hall] at htime
      cases htime

/-- A token is handed out, all tokens are revoked with it, and somebody asks for a token without
the key: the report on the state tells of one token and of the time of the revocation. -/
theorem refused_exchange_is_not_counted :
    let revocation := requestAt 60 "POST" "/revoke-all" (tokenAt 50)
    let refused := arrivalAt 70 "POST" "/auth" []
    let arrivals := [exchangeAt 50, revocation, refused]
    (transcript hmac bareGateway arrivals).countP (succeeded "/auth") = 1 ∧
      latest ((transcript hmac bareGateway arrivals).filterMap revokedTo?) = 60 ∧
      readBody? counters? (react hmac (after hmac bareGateway arrivals)
        (arrivalAt 80 "GET" "/status" [])).reply.body = some (1, 60) := by
  intro revocation refused arrivals
  have hstart : Gateway.ofStore bareGateway.store .default = .ok bareGateway := rfl
  obtain ⟨-, hversion, hcutoff, -, hstatus, -⟩ :=
    only_exchange_and_revokeAll_count hmac _ _ _ hstart arrivals
  have hrefused : after hmac bareGateway arrivals =
      after hmac bareGateway [exchangeAt 50, revocation] := by
    have hposts : Posts refused.request "/auth" := posts_arrivalAt 70 "/auth" []
    have hlast : after hmac bareGateway arrivals =
        (react hmac (after hmac bareGateway [exchangeAt 50, revocation]) refused).gateway :=
      after_concat [exchangeAt 50, revocation] refused
    rw [hlast, react, handle_exchange hposts, exchange_of_no_key rfl]
  have hauthority : (after hmac bareGateway arrivals).authority =
      (bareGateway.authority.issue hmac (callerOf (exchangeAt 50).request.headers)
        (exchangeAt 50).occasion).2.revoke 60 := by
    rw [hrefused, (@react_revokeAllAt 50 60 (by decide) (by decide) (by decide)).2, after_cons,
      gateway_of_handedOut (handedOut?_exchangeAt 50)]
    rfl
  have hone : (after hmac bareGateway arrivals).authority.version = 1 := by rw [hauthority]; rfl
  have hsixty : (after hmac bareGateway arrivals).authority.cutoff = 60 := by rw [hauthority]; rfl
  have hfits : (transcript hmac bareGateway arrivals).countP (succeeded "/auth") < 2 ^ 64 :=
    Nat.lt_of_le_of_lt List.countP_le_length (by decide : 3 < 2 ^ 64)
  have hcount := hversion hfits
  rw [hone] at hcount
  rw [hsixty] at hcutoff
  refine ⟨hcount.symm, hcutoff.symm, ?_⟩
  rw [(hstatus (arrivalAt 80 "GET" "/status" []) rfl String.ofList_toList).2, hone, hsixty]

end CredentialGateway.Server
