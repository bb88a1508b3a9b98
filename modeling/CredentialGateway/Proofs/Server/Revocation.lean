/-
Revocation of all tokens.

A revocation moves the cutoff to the clock, the cutoff never goes back, and a token is
created at the time of the request that hands it out.  So a token from an earlier second
than the revocation stands behind the cutoff for good, and whoever carries it is
refused.  The clock counts seconds, and a token from the second of the revocation does
not stand behind the cutoff, whether it was handed out before the revocation or after
it: the two cannot be told apart, and such a token goes on to work.
-/
import Mathlib
import CredentialGateway.Proofs.Server.Exchange

namespace CredentialGateway.Server

open Http

variable {mac : Token.Mac} {s : Surroundings} {g : Gateway} {r : Request} {x : Arrival}

/-! ### Refused tokens -/

/-- A request with a token that is not accepted: it is not admitted, and unless its path asks for
no token it is told so, and that is all. -/
structure TokenRefused (s : Surroundings) (g : Gateway) (r : Request) : Prop where
  not_admitted : ¬ Admitted s g r
  told : publicPaths.contains r.uri.pathText = false → handle s g r =
    ⟨withoutBody r (.ofFailure (.unauthorised "Invalid or expired token")), g, none, none, none⟩

theorem tokenRefused_of_not_admitted {token : List UInt8} (hcarried : carried? r = some token)
    (hnot : ¬ Admitted s g r) : TokenRefused s g r := by
  refine ⟨hnot, ?_⟩
  intro hpath
  rcases handle_of_guarded hpath with ⟨-, hrefused⟩ | ⟨hadmitted, -⟩
  · obtain ⟨p, hpresented, -⟩ := Option.map_eq_some_iff.mp hcarried
    rw [hrefused, refusal, hpresented]
  · exact absurd hadmitted hnot

theorem cutoff_le_of_verify {a : Token.Authority} {now : UInt64} {text : String}
    {claims : Token.Claims} (h : a.verify mac now text = .ok claims) :
    a.cutoff ≤ claims.createdAt := by
  obtain ⟨-, -, -, -, -, -, hlive⟩ := Token.Authority.verify_eq_ok_iff.mp h
  exact hlive.unrevoked

/-- **A token that was created before the cutoff is refused.** -/
theorem tokenRefused_of_created_before {token : List UInt8} {claims : Token.Claims}
    (hcarried : carried? r = some token)
    (hclaims : Token.Authority.claimsIn? token = some claims)
    (hcreated : claims.createdAt < g.authority.cutoff) : TokenRefused s g r := by
  refine tokenRefused_of_not_admitted hcarried ?_
  rintro ⟨text, source, verified, hpresented, hverified⟩
  have htoken : Token.Authority.presentedToken text = token := by
    rw [carried?, hpresented] at hcarried
    exact Option.some.inj hcarried
  have hsame : claims = verified := by
    have hwritten := Token.Authority.claimsIn?_of_verify hverified
    rw [htoken, hclaims] at hwritten
    exact Option.some.inj hwritten
  have hcutoff := cutoff_le_of_verify hverified
  rw [← hsame] at hcutoff
  exact UInt64.not_lt.mpr hcutoff hcreated

/-! ### The revocation -/

/-- A revocation that is answered has been admitted. -/
theorem admitted_of_revoked (hposts : Posts x.request "/revoke-all")
    (hdone : (react mac g x).reply.status = 200) : Admitted (x.surroundings mac) g x.request := by
  have hpath : publicPaths.contains x.request.uri.pathText = false := by
    rw [hposts.path]
    decide
  rcases handle_of_guarded hpath with ⟨-, hrefused⟩ | ⟨hadmitted, -⟩
  · have hstatus : (react mac g x).reply.status = 401 := by
      rw [react, hrefused, withoutBody_post hposts.method, refusal]
      split <;> rfl
    rw [hstatus] at hdone
    cases hdone
  · exact hadmitted

/-- A revocation that is answered moves the cutoff up to its own time. -/
theorem le_cutoff_of_revoked (hposts : Posts x.request "/revoke-all")
    (hdone : (react mac g x).reply.status = 200) :
    x.occasion.now ≤ (react mac g x).gateway.authority.cutoff := by
  rw [(react_revokeAll hposts (admitted_of_revoked hposts hdone)).2]
  exact (Token.Authority.cutoff_revoke g.authority _).2

/-! ### A bare gateway -/

/-- A gateway at its start, without entries. -/
def bareGateway : Gateway :=
  let store : Store := ⟨[], "s3cret", List.nodup_nil, List.not_mem_nil, by decide⟩
  ⟨store, .default, none, .ofStore store⟩

/-- A request without a body that arrives in some second. -/
def arrivalAt (now : UInt64) (method path : String) (headers : Headers) : Arrival :=
  ⟨⟨now, 7, "n1"⟩, fun _ => .unreachable,
    ⟨method, ⟨none, none, path.toList, none⟩, headers, ⟨[], none⟩⟩⟩

/-- A request to exchange the key of the bare gateway. -/
def exchangeAt (now : UInt64) : Arrival :=
  arrivalAt now "POST" "/auth" [(keyField, Utf8.encodeString "s3cret")]

/-- The token that the bare gateway hands out in some second. -/
def tokenAt (now : UInt64) : String :=
  (bareGateway.authority.issue Token.hmac (callerOf (exchangeAt now).request.headers)
    ⟨now, 7, "n1"⟩).1.token

/-- A request with a token. -/
def requestAt (now : UInt64) (method path token : String) : Arrival :=
  arrivalAt now method path [(tokenField, Utf8.encodeString token)]

theorem posts_arrivalAt (now : UInt64) (path : String) (headers : Headers) :
    Posts (arrivalAt now "POST" path headers).request path :=
  ⟨rfl, String.ofList_toList⟩

theorem handedOut?_exchangeAt (now : UInt64) :
    handedOut? (exchangeAt now).request (react Token.hmac bareGateway (exchangeAt now)).reply =
      some (tokenAt now) := by
  have hkey : hasKey bareGateway [(keyField, Utf8.encodeString "s3cret")] = true := by
    decide +kernel
  exact handedOut?_react_eq_some_iff.mpr ⟨posts_arrivalAt _ _ _, hkey, rfl⟩

theorem first?_requestAt (now : UInt64) (method path token : String) :
    (requestAt now method path token).request.headers.first? tokenField =
      some (Utf8.encodeString token) := by
  simp [requestAt, arrivalAt, Headers.first?]

/-- In the bare gateway a token opens the way to its revocation. -/
theorem admitted_requestAt {born now : UInt64} (hfits : born.toNat + 2592000 < 2 ^ 64)
    (hlo : born ≤ now) (hhi : now.toNat ≤ born.toNat + 2592000) (method path : String) :
    Admitted ((requestAt now method path (tokenAt born)).surroundings Token.hmac)
      (after Token.hmac bareGateway [exchangeAt born])
      (requestAt now method path (tokenAt born)).request := by
  have hleft := gateway_of_handedOut (handedOut?_exchangeAt born)
  refine admitted_of_issued (first?_requestAt now method path (tokenAt born)) ?_ hfits hlo hhi
  rw [after_cons, hleft]
  exact ⟨rfl, rfl, UInt64.zero_le⟩

/-- With a token of its own second or an earlier one all tokens are revoked. -/
theorem react_revokeAllAt {born now : UInt64} (hfits : born.toNat + 2592000 < 2 ^ 64)
    (hlo : born ≤ now) (hhi : now.toNat ≤ born.toNat + 2592000) :
    (react Token.hmac (after Token.hmac bareGateway [exchangeAt born])
        (requestAt now "POST" "/revoke-all" (tokenAt born))).reply.status = 200 ∧
      (after Token.hmac bareGateway
          [exchangeAt born, requestAt now "POST" "/revoke-all" (tokenAt born)]).authority =
        (after Token.hmac bareGateway [exchangeAt born]).authority.revoke now := by
  have hposts : Posts (requestAt now "POST" "/revoke-all" (tokenAt born)).request "/revoke-all" :=
    posts_arrivalAt now "/revoke-all" _
  obtain ⟨hstatus, hauthority⟩ := react_revokeAll hposts
    (admitted_requestAt hfits hlo hhi "POST" "/revoke-all")
  refine ⟨hstatus, ?_⟩
  rw [← List.singleton_append, after_concat]
  exact hauthority

/-! ### What a revocation reaches -/

/-- **Revocation reaches every token of an earlier second.**  Once a revocation is answered in a
run, whatever verifies later in the run was created in the second of the revocation or after it;
and every request is refused that carries a token which an earlier request was handed in an
earlier second, or the token with which the revocation was asked for, if that was created in an
earlier second. -/
theorem revocation_refuses_earlier_tokens (mac : Token.Mac) (g : Gateway)
    (before between : List Arrival) (x y : Arrival) (hposts : Posts x.request "/revoke-all")
    (hdone : (react mac (after mac g before) x).reply.status = 200) :
    let later := after mac g (before ++ x :: between)
    (∀ text claims, later.authority.verify mac y.occasion.now text = .ok claims →
      x.occasion.now ≤ claims.createdAt) ∧
    (∀ earlier z rest token, before = earlier ++ z :: rest →
      handedOut? z.request (react mac (after mac g earlier) z).reply = some token →
      z.occasion.now < x.occasion.now → carried? y.request = some (Utf8.encodeString token) →
      TokenRefused (y.surroundings mac) later y.request) ∧
    (∀ text source claims, presented? x.request.headers = some (text, source) →
      (after mac g before).authority.verify mac x.occasion.now text = .ok claims →
      claims.createdAt < x.occasion.now →
      carried? y.request = some (Token.Authority.presentedToken text) →
      TokenRefused (y.surroundings mac) later y.request) := by
  intro later
  have hcutoff : x.occasion.now ≤ later.authority.cutoff := by
    have hlater : later = after mac (react mac (after mac g before) x).gateway between := by
      rw [← after_cons, ← after_append]
    rw [hlater]
    exact UInt64.le_trans (le_cutoff_of_revoked hposts hdone) (cutoff_le_after between)
  refine ⟨?_, ?_, ?_⟩
  · intro text claims hverified
    exact UInt64.le_trans hcutoff (cutoff_le_of_verify hverified)
  · intro earlier z rest token _ hhanded hearlier hcarried
    obtain ⟨-, -, rfl⟩ := handedOut?_react_eq_some_iff.mp hhanded
    refine tokenRefused_of_created_before hcarried (Token.Authority.claimsIn?_issue _ _ _ _) ?_
    exact UInt64.lt_of_lt_of_le hearlier hcutoff
  · intro text source claims _ hverified hearlier hcarried
    refine tokenRefused_of_created_before hcarried
      (Token.Authority.claimsIn?_of_verify hverified) ?_
    exact UInt64.lt_of_lt_of_le hearlier hcutoff

/-- In the hundredth second all tokens are revoked, with a token from the fiftieth, and then that
token is used once more. -/
theorem revocation_refuses_its_own_token :
    let z := exchangeAt 50
    let x := requestAt 100 "POST" "/revoke-all" (tokenAt 50)
    let y := requestAt 100 "GET" "/services" (tokenAt 50)
    handedOut? z.request (react Token.hmac bareGateway z).reply = some (tokenAt 50) ∧
      (react Token.hmac (after Token.hmac bareGateway [z]) x).reply.status = 200 ∧
      TokenRefused (y.surroundings Token.hmac) (after Token.hmac bareGateway [z, x]) y.request := by
  intro z x y
  have hhanded := handedOut?_exchangeAt 50
  have hdone : (react Token.hmac (after Token.hmac bareGateway [z]) x).reply.status = 200 :=
    (react_revokeAllAt (by decide) (by decide) (by decide)).1
  have hcarried : carried? y.request = some (Utf8.encodeString (tokenAt 50)) :=
    carried?_issued (s := y.surroundings Token.hmac)
      (first?_requestAt 100 "GET" "/services" (tokenAt 50))
  exact ⟨hhanded, hdone, (revocation_refuses_earlier_tokens Token.hmac bareGateway [z] [] x y
    (posts_arrivalAt _ _ _) hdone).2.1 [] z [] (tokenAt 50) rfl hhanded (by decide) hcarried⟩

/-- In one second a token is handed out, all tokens are revoked with it, and it is used once more:
it is accepted. -/
theorem token_survives_revocation_in_its_second :
    let z := exchangeAt 100
    let x := requestAt 100 "POST" "/revoke-all" (tokenAt 100)
    let y := requestAt 100 "GET" "/services" (tokenAt 100)
    handedOut? z.request (react Token.hmac bareGateway z).reply = some (tokenAt 100) ∧
      (react Token.hmac (after Token.hmac bareGateway [z]) x).reply.status = 200 ∧
      Admitted (y.surroundings Token.hmac) (after Token.hmac bareGateway [z, x]) y.request ∧
      (react Token.hmac (after Token.hmac bareGateway [z, x]) y).reply.status = 200 ∧
      (react Token.hmac (after Token.hmac bareGateway [z, x]) y).answerer =
        some (.endpoint .services) := by
  intro z x y
  have hleft := gateway_of_handedOut (handedOut?_exchangeAt 100)
  obtain ⟨hdone, hauthority⟩ := @react_revokeAllAt 100 100 (by decide) (by decide) (by decide)
  have hadmitted : Admitted (y.surroundings Token.hmac) (after Token.hmac bareGateway [z, x])
      y.request := by
    refine admitted_of_issued (first?_requestAt 100 "GET" "/services" (tokenAt 100)) ?_ (by decide)
      (by decide) (by decide)
    rw [hauthority, after_cons, hleft]
    exact ⟨rfl, rfl, by decide⟩
  obtain ⟨logged, headers, hanswered⟩ :=
    handle_of_admitted (e := .services) hadmitted rfl rfl rfl
  refine ⟨handedOut?_exchangeAt 100, hdone, hadmitted, ?_, ?_⟩
  · rw [react, hanswered]
    rfl
  · rw [react, hanswered]

end CredentialGateway.Server
