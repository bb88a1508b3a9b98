/-
The token in the answer to an exchange.

A caller finds the token in the body of the answer, so that is where it is looked for
here, too: the body is read as the record it is, and its text for the token comes back.
What is read there is the token that the authority has just issued.  When the caller
sends it back in the gateway's own header field, it is the credential of that request
as it stands, because a token is readable text.
-/
import Mathlib
import CredentialGateway.Proofs.Http.Headers
import CredentialGateway.Proofs.Server.Run
import CredentialGateway.Proofs.Token.Contents
import CredentialGateway.Proofs.Token.Run

namespace CredentialGateway.Server

open Http

/-! ### The token in the answer -/

namespace TokenGrant

/-- The members of the printed answer. -/
def members (t : TokenGrant) : List (String × Json) :=
  [("token", .string t.token), ("header", .string t.header), ("example", .string t.sample),
    ("note", .string t.note), ("security", .string t.security)]

/-- **The printed answer is read as itself.** -/
theorem ofWritten?_toJson (t : TokenGrant) :
    ofWritten? (Json.written t.toJson) = some t := by
  have hnodup : (t.members.map Prod.fst).Nodup := by
    simp [members]
  have hgiven : ["token", "header", "example", "note", "security"].map (Json.given t.members) =
      [.value (Json.written (.string t.token)), .value (Json.written (.string t.header)),
        .value (Json.written (.string t.sample)), .value (Json.written (.string t.note)),
        .value (Json.written (.string t.security))] := rfl
  have hobject : t.toJson = .object t.members := rfl
  rw [ofWritten?, hobject, Json.fields?_written hnodup, hgiven]
  simp only [Option.bind_eq_bind, Option.bind_some, Json.Given.required, Json.string?_written,
    Option.pure_def]

theorem readBody?_octets (t : TokenGrant) : readBody? ofWritten? t.toJson.octets = some t := by
  have hexact : Json.isExact t.toJson = true := rfl
  rw [readBody?, Json.Written.parse?_octets hexact, Option.bind_some, ofWritten?_toJson]

end TokenGrant

/-- The token that the answer to a request hands out: the one in the body of an answer to an
exchange that succeeded. -/
def handedOut? (r : Request) (reply : Reply) : Option String :=
  if r.method = "POST" ∧ r.uri.pathText = "/auth" ∧ reply.status = 200 then
    (readBody? TokenGrant.ofWritten? reply.body).map TokenGrant.token
  else none

variable {mac : Token.Mac} {g : Gateway} {x : Arrival} {token : String}

theorem exchange_of_key {o : Token.Occasion} {h : Headers} (hkey : hasKey g h = true) :
    exchange mac g o h =
      (.ofJson 200 (TokenGrant.ofToken (g.authority.issue mac (callerOf h) o).1.token).toJson,
        { g with authority := (g.authority.issue mac (callerOf h) o).2 }) := by
  rw [exchange, if_pos hkey]

theorem exchange_of_no_key {o : Token.Occasion} {h : Headers} (hkey : hasKey g h = false) :
    exchange mac g o h = (.ofFailure (.unauthorised "Invalid gateway API key"), g) := by
  rw [exchange, if_neg (by rw [hkey]; exact Bool.false_ne_true)]

/-- **A token is handed out where the gateway's key is given, and it is the one just issued.** -/
theorem handedOut?_react_eq_some_iff :
    handedOut? x.request (react mac g x).reply = some token ↔
      Posts x.request "/auth" ∧ hasKey g x.request.headers = true ∧
        (g.authority.issue mac (callerOf x.request.headers) x.occasion).1.token = token := by
  by_cases hposts : Posts x.request "/auth"
  · cases hkey : hasKey g x.request.headers with
    | false =>
        have hstatus : (react mac g x).reply.status = 401 := by
          rw [react, handle_exchange hposts, exchange_of_no_key hkey]
          rfl
        simp [handedOut?, hstatus]
    | true =>
        have hreply : (react mac g x).reply = .ofJson 200 (TokenGrant.ofToken
            (g.authority.issue mac (callerOf x.request.headers) x.occasion).1.token).toJson := by
          rw [react, handle_exchange hposts, Arrival.surroundings, exchange_of_key hkey]
        rw [handedOut?, hreply, if_pos ⟨hposts.method, hposts.path, rfl⟩, Reply.ofJson,
          TokenGrant.readBody?_octets, Option.map_some, Option.some_inj, TokenGrant.ofToken]
        exact ⟨fun h => ⟨hposts, rfl, h⟩, fun h => h.2.2⟩
  · have hnone : handedOut? x.request (react mac g x).reply = none :=
      if_neg fun h => hposts ⟨h.1, h.2.1⟩
    rw [hnone]
    constructor
    · intro h
      cases h
    · intro h
      exact absurd h.1 hposts

/-- What an exchange that succeeds leaves. -/
theorem gateway_of_handedOut (h : handedOut? x.request (react mac g x).reply = some token) :
    (react mac g x).gateway = { g with
      authority := (g.authority.issue mac (callerOf x.request.headers) x.occasion).2 } := by
  obtain ⟨hposts, hkey, -⟩ := handedOut?_react_eq_some_iff.mp h
  rw [react, handle_exchange hposts, Arrival.surroundings, exchange_of_key hkey]

/-! ### The token in a request -/

/-- The token that a request carries, its credential without white space and scheme. -/
def carried? (r : Request) : Option (List UInt8) :=
  (presented? r.headers).map fun p => Token.Authority.presentedToken p.1

/-- The octets of a token are readable text. -/
theorem isTextOctet_of_isTokenOctet {b : UInt8} (h : Token.IsTokenOctet b) :
    isTextOctet b = true := by
  have hsymbol : ∀ n < 64, isTextOctet (Base64.urlSafe.symbol n) = true := by decide
  rcases h with rfl | ⟨n, hn, rfl⟩
  · decide
  · exact hsymbol n hn

/-- A token in the gateway's own header field is the credential of the request. -/
theorem presented?_token {h : Headers} {octets : List UInt8}
    (hfirst : h.first? tokenField = some octets) (hne : octets ≠ [])
    (hoctets : ∀ b ∈ octets, Token.IsTokenOctet b) :
    presented? h = some (asText octets, .gateway) := by
  have htext : octets.all isTextOctet = true :=
    List.all_eq_true.mpr fun b hb => isTextOctet_of_isTokenOctet (hoctets b hb)
  have hkept : (asText octets).isEmpty = false := by
    rw [Bool.eq_false_iff, ne_eq, String.isEmpty_iff, ← String.toList_inj, asText,
      String.toList_ofList]
    intro hnil
    exact hne (List.map_eq_nil_iff.mp hnil)
  have hfield : fieldText? h tokenField = some (asText octets) := by
    rw [fieldText?, Headers.text?, hfirst, Option.bind_some, valueText?_of_text htext, nonEmpty,
      Option.filter_some, hkept]
    rfl
  rw [presented?, hfield]

theorem carried?_token {r : Request} {octets : List UInt8}
    (hfirst : r.headers.first? tokenField = some octets) (hne : octets ≠ [])
    (hoctets : ∀ b ∈ octets, Token.IsTokenOctet b) : carried? r = some octets := by
  have htoken : Token.Authority.presentedToken (asText octets) = octets :=
    (Token.presentedToken_eq_iff hne hoctets).mpr (Token.presents_characters octets)
  rw [carried?, presented?_token hfirst hne hoctets, Option.map_some, htoken]

section Issued

variable {s : Surroundings} {r : Request} {a : Token.Authority} {caller : Caller}
  {o : Token.Occasion}
  (hfirst : r.headers.first? tokenField =
    some (Utf8.encodeString (a.issue s.mac caller o).1.token))

include hfirst

/-- A token that was issued is carried as it is. -/
theorem carried?_issued :
    carried? r = some (Utf8.encodeString (a.issue s.mac caller o).1.token) := by
  rw [Token.Authority.encodeString_issue] at hfirst ⊢
  exact carried?_token hfirst (Token.sealed_ne_nil _ _ _ _ _) Token.isTokenOctet_of_mem_sealed

/-- **A token that was issued opens the gateway** for thirty days, as long as no time behind its
creation was revoked. -/
theorem admitted_of_issued (hkeeps : Token.Authority.Keeps a.secret a.keyId o.now g.authority)
    (hfits : o.now.toNat + 2592000 < 2 ^ 64) (hlo : o.now ≤ s.occasion.now)
    (hhi : s.occasion.now.toNat ≤ o.now.toNat + 2592000) : Admitted s g r := by
  rw [Token.Authority.encodeString_issue] at hfirst
  exact ⟨_, _, _, presented?_token hfirst (Token.sealed_ne_nil _ _ _ _ _)
    Token.isTokenOctet_of_mem_sealed, hkeeps.verify_issue hfits hlo hhi⟩

end Issued

end CredentialGateway.Server
