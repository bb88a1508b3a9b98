/-
Who is handed a token, and as whom.

What a header field says is read from its first value, and only if that is text: visible
ASCII, spaces and tabs.  The gateway's key is read so, too.  Hence the signing secret
obtains a token, and nothing else does, but only a secret that is text itself: if it is
not, its own octets are refused, and no request obtains a token.

The identity in the token is what three header fields say.  How long the token verifies
is said exactly, for every state of the authority: a cutoff that lies ahead of the clock
refuses it from the start.
-/
import Mathlib
import CredentialGateway.Proofs.Server.Revocation

namespace CredentialGateway

/-! ### How long a token verifies -/

namespace Token.Authority

/-- **When a token that was issued verifies, and as what**, under an authority with its key. -/
theorem verify_issue_eq_ok_iff {mac : Mac} {a later : Authority} (hkey : SharesKey a later)
    (caller : Caller) (o : Occasion) {t : UInt64} {claims : Claims} :
    later.verify mac t (a.issue mac caller o).1.token = .ok claims ↔
      claims = a.claimsFor caller o ∧ o.now ≤ t ∧ t ≤ o.now + validity ∧
        later.cutoff ≤ o.now := by
  have hpresented : presentedToken (a.issue mac caller o).1.token =
      sealed mac later.secret .hs256 (Header.toJson .hs256 later.keyId).octets
        (a.claimsFor caller o).toJson.octets := by
    rw [hkey.secret_eq, hkey.keyId_eq]
    exact (presentedToken_eq_iff (sealed_ne_nil _ _ _ _ _) isTokenOctet_of_mem_sealed).mpr
      (presents_characters _)
  rw [verify, hpresented, verifyToken_sealed (headerOf?_octets _ _) (claimsOf?_octets _),
    checkClaims_eq_ok_iff]
  constructor
  · rintro ⟨-, hlive, rfl⟩
    exact ⟨rfl, hlive.begun, hlive.unexpired, hlive.unrevoked⟩
  · rintro ⟨rfl, hbegun, hunexpired, hunrevoked⟩
    exact ⟨rfl, ⟨hbegun, hunexpired, rfl, hunrevoked, hkey.keyId_eq.symm⟩, rfl⟩

end Token.Authority

namespace Server

open Http

/-! ### What header fields say -/

/-- Whether a text is made of visible ASCII, spaces and tabs. -/
def IsVisible (text : String) : Prop :=
  ∀ b ∈ Utf8.encodeString text, b = 0x09 ∨ 0x20 ≤ b.toNat ∧ b.toNat < 0x7F

/-- A header field says a text: its first value is that text, and is visible and not empty. -/
structure Says (h : Headers) (name text : String) : Prop where
  first : h.first? name = some (Utf8.encodeString text)
  visible : IsVisible text
  ne_empty : text ≠ ""

variable {h : Headers} {name text : String}

theorem text?_eq_some_iff : h.text? name = some text ↔
    h.first? name = some (Utf8.encodeString text) ∧ IsVisible text := by
  simp only [Headers.text?, Option.bind_eq_some_iff, valueText?_eq_some_iff]
  constructor
  · rintro ⟨value, hfirst, rfl, htext⟩
    exact ⟨hfirst, all_isTextOctet_iff.mp htext⟩
  · rintro ⟨hfirst, hvisible⟩
    exact ⟨_, hfirst, rfl, all_isTextOctet_iff.mpr hvisible⟩

theorem nonEmpty_eq_some_iff {part : Option String} :
    nonEmpty part = some text ↔ part = some text ∧ text ≠ "" :=
  (Token.Authority.carries_nonEmpty part).some_iff text

theorem fieldText?_eq_some_iff : fieldText? h name = some text ↔ Says h name text := by
  rw [fieldText?, nonEmpty_eq_some_iff, text?_eq_some_iff]
  exact ⟨fun hsaid => ⟨hsaid.1.1, hsaid.1.2, hsaid.2⟩,
    fun hsaid => ⟨⟨hsaid.first, hsaid.visible⟩, hsaid.ne_empty⟩⟩

theorem fieldText?_eq_none_iff : fieldText? h name = none ↔ ∀ text, ¬ Says h name text := by
  rw [Option.eq_none_iff_forall_ne_some]
  exact forall_congr' fun text => not_congr fieldText?_eq_some_iff

/-- The key is given where the key field says the signing secret. -/
theorem hasKey_eq_true_iff {g : Gateway} :
    hasKey g h = true ↔ Says h keyField g.store.secret := by
  rw [← fieldText?_eq_some_iff, fieldText?, nonEmpty_eq_some_iff]
  cases htext : h.text? keyField with
  | none => simp [hasKey, htext]
  | some given =>
      have hne := g.store.secret_ne
      simp only [hasKey, htext, Option.getD_some, Bool.and_eq_true, Bool.not_eq_true',
        String.isEmpty_eq_false_iff, decide_eq_true_eq, Option.some_inj]
      constructor
      · rintro ⟨-, rfl⟩
        exact ⟨rfl, hne⟩
      · rintro ⟨rfl, -⟩
        exact ⟨hne, rfl⟩

/-! ### The identity -/

/-- Claims identify the caller of a request: what they say of it is what its header fields say. -/
structure Identifies (h : Headers) (c : Token.Claims) : Prop where
  asserted : ∀ id, c.assertedId = some id ↔ Says h assertedField id
  organization : ∀ code, c.organization = some code ↔ Says h organizationField code
  named : ∀ id, Says h userField id → c.subject = id
  vouched : (∀ id, ¬ Says h userField id) → ∀ id, Says h assertedField id → c.subject = id
  unnamed : (∀ id, ¬ Says h userField id) → (∀ id, ¬ Says h assertedField id) →
    c.subject = "default-user"

theorem nonEmpty_fieldText? : nonEmpty (fieldText? h name) = fieldText? h name := by
  rw [fieldText?, nonEmpty, nonEmpty, Option.filter_filter]
  simp only [Bool.and_self]

theorem identifies_claimsFor (a : Token.Authority) (o : Token.Occasion) (h : Headers) :
    Identifies h (a.claimsFor (callerOf h) o) := by
  have hsubject : (callerOf h).subject =
      ((fieldText? h userField).or (fieldText? h assertedField)).getD "default-user" := by
    rw [Caller.subject, callerOf, nonEmpty_fieldText?, nonEmpty_fieldText?]
    rfl
  refine ⟨fun id => ?_, fun code => ?_, fun id hid => ?_, fun hnone id hid => ?_,
    fun hnone hnone' => ?_⟩
  · rw [← fieldText?_eq_some_iff, ← nonEmpty_fieldText?]
    rfl
  · rw [← fieldText?_eq_some_iff, ← nonEmpty_fieldText?]
    rfl
  · change (callerOf h).subject = id
    rw [hsubject, fieldText?_eq_some_iff.mpr hid]
    rfl
  · change (callerOf h).subject = id
    rw [hsubject, fieldText?_eq_none_iff.mpr hnone, fieldText?_eq_some_iff.mpr hid]
    rfl
  · change (callerOf h).subject = "default-user"
    rw [hsubject, fieldText?_eq_none_iff.mpr hnone, fieldText?_eq_none_iff.mpr hnone']
    rfl

/-! ### The exchange -/

variable {mac : Token.Mac} {g : Gateway} {x : Arrival}

/-- A post to `/auth` is answered with a token or refused. -/
theorem status_exchange (hposts : Posts x.request "/auth") :
    (react mac g x).reply.status = if hasKey g x.request.headers then 200 else 401 := by
  rw [react, handle_exchange hposts]
  cases hkey : hasKey g x.request.headers with
  | true =>
      rw [exchange_of_key hkey]
      rfl
  | false =>
      rw [exchange_of_no_key hkey]
      rfl

/-- What an exchange of the key hands out: a token that verifies, from its creation to its expiry,
as claims that identify the caller. -/
theorem handedOut_of_key (hposts : Posts x.request "/auth")
    (hkey : hasKey g x.request.headers = true) :
    ∃ token claims, handedOut? x.request (react mac g x).reply = some token ∧
      (react mac g x).gateway = { g with
        authority := { g.authority with version := g.authority.version + 1 } } ∧
      Identifies x.request.headers claims ∧
      ∀ t c, (react mac g x).gateway.authority.verify mac t token = .ok c ↔
        c = claims ∧ x.occasion.now ≤ t ∧ t ≤ x.occasion.now + Token.validity ∧
          g.authority.cutoff ≤ x.occasion.now := by
  have hhanded : handedOut? x.request (react mac g x).reply =
      some (g.authority.issue mac (callerOf x.request.headers) x.occasion).1.token :=
    handedOut?_react_eq_some_iff.mpr ⟨hposts, hkey, rfl⟩
  have hgateway := gateway_of_handedOut hhanded
  refine ⟨_, g.authority.claimsFor (callerOf x.request.headers) x.occasion, hhanded, hgateway,
    identifies_claimsFor _ _ _, ?_⟩
  intro t c
  have hshares : Token.Authority.SharesKey g.authority
      (g.authority.issue mac (callerOf x.request.headers) x.occasion).2 := ⟨rfl, rfl⟩
  rw [hgateway]
  exact Token.Authority.verify_issue_eq_ok_iff hshares _ _

/-- **The gateway's key, and only it, obtains a token.**  A post to `/auth` is answered with a
token just if the first value of the key field is the signing secret and the secret is visible.
The token verifies as claims that identify the caller, from its creation to its expiry, unless the
cutoff is later than its creation; and the version goes up by one.  Any other post to `/auth` is
refused and changes nothing. -/
theorem only_gateway_key_obtains_token (mac : Token.Mac) (g : Gateway) (x : Arrival)
    (hposts : Posts x.request "/auth") :
    ((react mac g x).reply.status = 200 ↔
      x.request.headers.first? keyField = some (Utf8.encodeString g.store.secret) ∧
        IsVisible g.store.secret) ∧
    ((react mac g x).reply.status = 200 →
      ∃ token claims, handedOut? x.request (react mac g x).reply = some token ∧
        (react mac g x).gateway = { g with
          authority := { g.authority with version := g.authority.version + 1 } } ∧
        Identifies x.request.headers claims ∧
        ∀ t c, (react mac g x).gateway.authority.verify mac t token = .ok c ↔
          c = claims ∧ x.occasion.now ≤ t ∧ t ≤ x.occasion.now + Token.validity ∧
            g.authority.cutoff ≤ x.occasion.now) ∧
    ((react mac g x).reply.status ≠ 200 →
      (react mac g x).reply.status = 401 ∧ (react mac g x).gateway = g) := by
  have hgiven : hasKey g x.request.headers = true ↔
      x.request.headers.first? keyField = some (Utf8.encodeString g.store.secret) ∧
        IsVisible g.store.secret :=
    hasKey_eq_true_iff.trans ⟨fun hsaid => ⟨hsaid.first, hsaid.visible⟩,
      fun hboth => ⟨hboth.1, hboth.2, g.store.secret_ne⟩⟩
  rw [← hgiven, status_exchange hposts]
  cases hkey : hasKey g x.request.headers with
  | true => exact ⟨by simp, fun _ => handedOut_of_key hposts hkey, fun hnot => absurd rfl hnot⟩
  | false =>
      refine ⟨by simp, fun hanswered => absurd hanswered (by decide), fun _ => ⟨rfl, ?_⟩⟩
      rw [react, handle_exchange hposts, Arrival.surroundings, exchange_of_no_key hkey]

/-- An exchange in the fiftieth second, with an empty own id, an asserted id and a code of an
organization that is not visible. -/
theorem exchange_for_asserted_id :
    let x := arrivalAt 50 "POST" "/auth" [(keyField, Utf8.encodeString "s3cret"), (userField, []),
      (assertedField, Utf8.encodeString "ada"), (organizationField, [0xC3, 0xA9])]
    let done := react Token.hmac bareGateway x
    done.reply.status = 200 ∧ done.gateway.authority.version = 1 ∧
      ∃ token claims, handedOut? x.request done.reply = some token ∧
        done.gateway.authority.verify Token.hmac 60 token = .ok claims ∧
        claims.subject = "ada" ∧ claims.assertedId = some "ada" ∧ claims.organization = none := by
  intro x done
  have hposts : Posts x.request "/auth" := posts_arrivalAt _ _ _
  obtain ⟨hiff, hobtained, -⟩ :=
    only_gateway_key_obtains_token Token.hmac bareGateway x hposts
  have hvisible : IsVisible "s3cret" := all_isTextOctet_iff.mp (by decide +kernel)
  have hanswered := hiff.mpr ⟨rfl, hvisible⟩
  obtain ⟨token, claims, hhanded, hgateway, hidentity, hverified⟩ := hobtained hanswered
  have hasserted : Says x.request.headers assertedField "ada" :=
    ⟨by decide +kernel, all_isTextOctet_iff.mp (by decide +kernel), by decide⟩
  have hempty : ∀ id, ¬ Says x.request.headers userField id := by
    intro id hsaid
    have hnil : Utf8.encodeString id = [] := (Option.some.inj hsaid.first).symm
    exact hsaid.ne_empty (String.toList_inj.mp (Utf8.encode_injective hnil))
  have hhidden : ∀ code, ¬ Says x.request.headers organizationField code := by
    intro code hsaid
    have hoctets : Utf8.encodeString code = [0xC3, 0xA9] := (Option.some.inj hsaid.first).symm
    have hfirst := hsaid.visible 0xC3 (by simp [hoctets])
    exact absurd hfirst (by decide)
  refine ⟨hanswered, by rw [hgateway]; rfl, token, claims, hhanded,
    (hverified 60 claims).mpr ⟨rfl, by decide, by decide, by decide⟩,
    hidentity.vouched hempty _ hasserted, (hidentity.asserted _).mpr hasserted, ?_⟩
  rw [Option.eq_none_iff_forall_ne_some]
  exact fun code hcode => hhidden code ((hidentity.organization code).mp hcode)

/-- A gateway whose signing secret has a letter beyond ASCII. -/
def umlautGateway : Gateway :=
  let store : Store := ⟨[], "schlüssel", List.nodup_nil, List.not_mem_nil, by decide⟩
  ⟨store, .default, none, .ofStore store⟩

/-- The very octets of such a secret are refused. -/
theorem secret_beyond_ascii_is_refused :
    let x := arrivalAt 50 "POST" "/auth" [(keyField, Utf8.encodeString "schlüssel")]
    Posts x.request "/auth" ∧
      x.request.headers.first? keyField = some (Utf8.encodeString umlautGateway.store.secret) ∧
      (react Token.hmac umlautGateway x).reply.status = 401 := by
  intro x
  have hposts : Posts x.request "/auth" := posts_arrivalAt _ _ _
  have hkey : hasKey umlautGateway x.request.headers = false := by decide +kernel
  refine ⟨hposts, rfl, ?_⟩
  rw [status_exchange hposts, hkey, if_neg Bool.false_ne_true]

end Server

end CredentialGateway
