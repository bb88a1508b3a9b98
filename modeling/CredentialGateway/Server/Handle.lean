/-
How the gateway answers a request.

One function from the gateway, its surroundings and a request to a reaction: the
answer, the gateway as it is afterwards, the request that went out to a backend and
the record that was logged.  Clock, randomness and backends are surroundings, so
the same request in the same surroundings always gets the same answer.
-/
import CredentialGateway.Server.Endpoint
import CredentialGateway.Server.Forward

namespace CredentialGateway.Server

open Http

/-- What a request meets outside the gateway. -/
structure Surroundings where
  /-- The message authentication codes. -/
  mac : Token.Mac
  /-- The clock and the random text. -/
  occasion : Token.Occasion
  /-- The backends. -/
  backends : Backends

/-- Who handles a request that could pass. -/
inductive Answerer where
  /-- An endpoint of the gateway. -/
  | endpoint (e : Endpoint)
  /-- The part that passes requests on. -/
  | forwarder
deriving DecidableEq

/-- What comes of a request. -/
structure Reaction where
  /-- The answer. -/
  reply : Reply
  /-- The gateway afterwards. -/
  gateway : Gateway
  /-- Who handled it, if it could pass, its method is right and its body could be taken. -/
  answerer : Option Answerer
  /-- The request that went out to a backend. -/
  sent : Option Outgoing
  /-- What was logged. -/
  logged : Option LogRecord

/-- Answer a request at an endpoint. -/
def atEndpoint (s : Surroundings) (g : Gateway) (e : Endpoint) (logged : Option LogRecord)
    (r : Request) : Reaction :=
  if e.answers r.method then
    match bodyFor e r.body with
    | .error refusal => ⟨refusal, g, none, none, logged⟩
    | .ok body =>
      let (reply, after) := answer s.mac g s.occasion e r body
      ⟨reply, after, some (.endpoint e), none, logged⟩
  else ⟨methodNotAllowed e, g, none, none, logged⟩

/-- Answer a request that could pass, at the endpoint with its path or else by passing it on. -/
def route (s : Surroundings) (g : Gateway) (source : Option Source) (logged : Option LogRecord)
    (r : Request) : Reaction :=
  match endpointOf r with
  | some e => atEndpoint s g e logged r
  | none =>
    let (reply, sent) := forward s.backends g.store.get source r
    ⟨reply, g, some .forwarder, sent, logged⟩

/-- Answer a request that passed with a token. -/
def answerGranted (s : Surroundings) (g : Gateway) (granted : Grant) (r : Request) : Reaction :=
  let logged := if g.settings.debug then some (logRecord r granted.claims) else none
  route s g (some granted.source) logged
    { r with headers := publishIdentity r.headers granted.claims }

/-- Answer a request that needs a token. -/
def answerGuarded (s : Surroundings) (g : Gateway) (r : Request) : Reaction :=
  match grant s.mac g.authority s.occasion.now r.headers with
  | .error failure => ⟨.ofFailure failure, g, none, none, none⟩
  | .ok granted => answerGranted s g granted r

/-- An answer to `HEAD` has no body. -/
def withoutBody (r : Request) (reply : Reply) : Reply :=
  if r.method = "HEAD" then { reply with body := [], brokenOff := false } else reply

/-- Answer a request. -/
def handle (s : Surroundings) (g : Gateway) (r : Request) : Reaction :=
  let reaction := if publicPaths.contains r.uri.pathText then route s g none none r
    else answerGuarded s g r
  { reaction with reply := withoutBody r reaction.reply }

end CredentialGateway.Server
