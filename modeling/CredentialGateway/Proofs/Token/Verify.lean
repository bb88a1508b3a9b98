/-
Which presented texts verify, and as what.

Every check of the verifier is first said by what passes it, and a run of checks
passes what all of them pass.  What comes out is a description of the accepted texts:
they present a token sealed under the live secret, with a header that names the code
and the live key and with claims that are live.  Base64 is strict, so the description
is exact, and it needs nothing of the code that seals.

In the other direction the printer comes in: claims that are live are accepted once
they are printed and sealed, because what is printed reads back.
-/
import Mathlib
import CredentialGateway.Proofs.Token.Presented
import CredentialGateway.Proofs.Token.Printed

namespace CredentialGateway.Token

/-- The token with given octets as its header and claims, sealed under a secret. -/
def sealed (mac : Mac) (secret : List UInt8) (algorithm : MacAlgorithm)
    (header claims : List UInt8) : List UInt8 :=
  let text := Base64.urlSafe.encode header ++ dot :: Base64.urlSafe.encode claims
  text ++ dot :: Base64.urlSafe.encode (mac algorithm secret text)

theorem compact_eq_sealed (mac : Mac) (secret : List UInt8) (algorithm : MacAlgorithm)
    (keyId : String) (c : Claims) :
    compact mac secret algorithm keyId c =
      sealed mac secret algorithm (Header.toJson algorithm keyId).octets c.toJson.octets := rfl

theorem sealed_ne_nil (mac : Mac) (secret : List UInt8) (algorithm : MacAlgorithm)
    (header claims : List UInt8) : sealed mac secret algorithm header claims ≠ [] := by
  simp [sealed]

theorem isTokenOctet_of_mem_sealed {mac : Mac} {secret : List UInt8} {algorithm : MacAlgorithm}
    {header claims : List UInt8} :
    ∀ b ∈ sealed mac secret algorithm header claims, IsTokenOctet b := by
  intro b hb
  simp only [sealed, List.mem_append, List.mem_cons] at hb
  rcases hb with (hb | rfl | hb) | rfl | hb
  · exact Or.inr (symbol_of_mem_encode hb)
  · exact Or.inl rfl
  · exact Or.inr (symbol_of_mem_encode hb)
  · exact Or.inl rfl
  · exact Or.inr (symbol_of_mem_encode hb)

/-- The header that octets write. -/
def headerOf? (octets : List UInt8) : Option Header :=
  (Json.Written.parse? octets).bind Header.ofWritten?

/-- The claims that octets write, and whether they name an audience. -/
def claimsOf? (octets : List UInt8) : Option (Claims × Bool) :=
  (Json.Written.parse? octets).bind Authority.claimsAndAudience?

theorem headerOf?_octets (algorithm : MacAlgorithm) (keyId : String) :
    headerOf? (Header.toJson algorithm keyId).octets = some ⟨.mac algorithm, some keyId⟩ := by
  rw [headerOf?, Json.Written.parse?_octets (Header.isExact_toJson algorithm keyId),
    Option.bind_some, Header.ofWritten?_toJson]

theorem claimsOf?_octets (c : Claims) : claimsOf? c.toJson.octets = some (c, false) := by
  rw [claimsOf?, Json.Written.parse?_octets c.isExact_toJson, Option.bind_some,
    Authority.claimsAndAudience?, Claims.ofWritten?_toJson, Claims.namesAudience?_toJson]
  rfl

namespace Authority

/-- Claims that the authority stands by at a time. -/
structure Live (a : Authority) (now : UInt64) (c : Claims) : Prop where
  begun : c.notBefore ≤ now
  unexpired : now ≤ c.expires
  inScope : c.scope = Token.scope
  unrevoked : a.cutoff ≤ c.createdAt
  underKey : c.keyId = a.keyId

/-! ### What passes each check -/

theorem parts?_eq_some_iff {token : List UInt8} {p : Parts} :
    parts? token = some p ↔
      token = p.signed ++ dot :: p.signature ∧ p.signed = p.header ++ dot :: p.claims ∧
        dot ∉ p.signature ∧ dot ∉ p.claims := by
  simp only [parts?, Option.bind_eq_bind, Option.bind_eq_some_iff, Prod.exists,
    Text.splitLast?_eq_some_iff, Option.pure_def, Option.some_inj]
  constructor
  · rintro ⟨signed, signature, ⟨htoken, hsignature⟩, header, claims, ⟨hsigned, hclaims⟩, rfl⟩
    exact ⟨htoken, hsigned, hsignature, hclaims⟩
  · rintro ⟨htoken, hsigned, hsignature, hclaims⟩
    exact ⟨_, _, ⟨htoken, hsignature⟩, _, _, ⟨hsigned, hclaims⟩, rfl⟩

/-- The parts of a sealed token. -/
def sealedParts (mac : Mac) (secret : List UInt8) (algorithm : MacAlgorithm)
    (header claims : List UInt8) : Parts :=
  let text := Base64.urlSafe.encode header ++ dot :: Base64.urlSafe.encode claims
  ⟨Base64.urlSafe.encode header, Base64.urlSafe.encode claims,
    Base64.urlSafe.encode (mac algorithm secret text), text⟩

theorem parts?_sealed (mac : Mac) (secret : List UInt8) (algorithm : MacAlgorithm)
    (header claims : List UInt8) :
    parts? (sealed mac secret algorithm header claims) =
      some (sealedParts mac secret algorithm header claims) :=
  parts?_eq_some_iff.mpr ⟨rfl, rfl, dot_not_mem_encode _, dot_not_mem_encode _⟩

theorem decodePart_eq_ok_iff {part octets : List UInt8} :
    decodePart part = .ok octets ↔ part = Base64.urlSafe.encode octets := by
  rw [← Base64.Variant.decode_eq_ok_iff Base64.urlSafe_proper, decodePart]
  cases Base64.urlSafe.decode part with
  | error f => simp [Except.mapError]
  | ok bs => simp [Except.mapError]

theorem readPart_eq_ok_iff {α : Type} {read : Json.Written → Option α} {part : List UInt8}
    {v : α} :
    readPart read part = .ok v ↔
      ∃ octets, part = Base64.urlSafe.encode octets ∧
        (Json.Written.parse? octets).bind read = some v := by
  simp only [readPart, bind_eq_ok_iff, decodePart_eq_ok_iff]
  refine exists_congr fun octets => and_congr_right fun _ => ?_
  cases (Json.Written.parse? octets).bind read with
  | none => simp [throw, throwThe, MonadExceptOf.throw]
  | some w => simp [pure, Except.pure]

variable {a : Authority} {now : UInt64}

theorem checkHeader_eq_ok_iff {h : Header} {algorithm : MacAlgorithm} :
    a.checkHeader h = .ok algorithm ↔ h = ⟨.mac algorithm, some a.keyId⟩ := by
  obtain ⟨named, keyId⟩ := h
  cases named with
  | keyPair name => simp [checkHeader]
  | mac named =>
      by_cases hkey : keyId = some a.keyId
      · simp [checkHeader, hkey]
      · simp [checkHeader, hkey]

theorem checkSignature_eq_ok_iff {mac : Mac} {algorithm : MacAlgorithm} {p : Parts} :
    a.checkSignature mac algorithm p = .ok () ↔
      p.signature = Base64.urlSafe.encode (mac algorithm a.secret p.signed) := by
  simp only [checkSignature, bind_eq_ok_iff, decodePart_eq_ok_iff]
  constructor
  · rintro ⟨signature, hdecoded, h⟩
    by_cases hmac : signature = mac algorithm a.secret p.signed
    · rw [hdecoded, hmac]
    · rw [if_neg hmac] at h
      cases h
  · intro h
    exact ⟨_, h, by rw [if_pos rfl]; rfl⟩

theorem checkClaims_eq_ok_iff {c d : Claims} {audience : Bool} :
    a.checkClaims now c audience = .ok d ↔ audience = false ∧ a.Live now c ∧ c = d := by
  constructor
  · intro h
    rw [checkClaims] at h
    split at h; · cases h
    split at h; · cases h
    split at h; · cases h
    split at h; · cases h
    split at h; · cases h
    split at h; · cases h
    rename_i hexpires hbegun haudience hscope hcutoff hkey
    exact ⟨Bool.eq_false_iff.mpr haudience,
      ⟨UInt64.not_lt.mp hbegun, UInt64.not_lt.mp hexpires, not_not.mp hscope,
        UInt64.not_lt.mp hcutoff, not_not.mp hkey⟩, Except.ok.inj h⟩
  · rintro ⟨rfl, hlive, rfl⟩
    rw [checkClaims, if_neg (UInt64.not_lt.mpr hlive.unexpired),
      if_neg (UInt64.not_lt.mpr hlive.begun), if_neg Bool.false_ne_true,
      if_neg (not_not.mpr hlive.inScope), if_neg (UInt64.not_lt.mpr hlive.unrevoked),
      if_neg (not_not.mpr hlive.underKey)]

/-! ### What verifies -/

/-- A token that is sealed under the live key is judged by its claims. -/
theorem verifyToken_sealed {mac : Mac} {algorithm : MacAlgorithm} {header claims : List UInt8}
    {c : Claims} {audience : Bool}
    (hheader : headerOf? header = some ⟨.mac algorithm, some a.keyId⟩)
    (hclaims : claimsOf? claims = some (c, audience)) :
    a.verifyToken mac now (sealed mac a.secret algorithm header claims) =
      a.checkClaims now c audience := by
  let p := sealedParts mac a.secret algorithm header claims
  have hread : readPart Header.ofWritten? p.header = .ok ⟨.mac algorithm, some a.keyId⟩ :=
    readPart_eq_ok_iff.mpr ⟨header, rfl, hheader⟩
  have hchecked : a.checkHeader ⟨.mac algorithm, some a.keyId⟩ = .ok algorithm :=
    checkHeader_eq_ok_iff.mpr rfl
  have hsealed : a.checkSignature mac algorithm p = .ok () := checkSignature_eq_ok_iff.mpr rfl
  have hclaimed : readPart claimsAndAudience? p.claims = .ok (c, audience) :=
    readPart_eq_ok_iff.mpr ⟨claims, rfl, hclaims⟩
  rw [verifyToken, parts?_sealed]
  simp only [bind, Except.bind, p, hread, hchecked, hsealed, hclaimed]

/-- The tokens that verify. -/
theorem verifyToken_eq_ok_iff {mac : Mac} {token : List UInt8} {c : Claims} :
    a.verifyToken mac now token = .ok c ↔
      ∃ algorithm header claims, token = sealed mac a.secret algorithm header claims ∧
        headerOf? header = some ⟨.mac algorithm, some a.keyId⟩ ∧
        claimsOf? claims = some (c, false) ∧ a.Live now c := by
  constructor
  · intro h
    rw [verifyToken] at h
    cases hparts : parts? token with
    | none =>
        rw [hparts] at h
        cases h
    | some p =>
        rw [hparts] at h
        obtain ⟨htoken, hsigned, -, -⟩ := parts?_eq_some_iff.mp hparts
        simp only [bind_eq_ok_iff, readPart_eq_ok_iff, checkHeader_eq_ok_iff, Prod.exists,
          checkClaims_eq_ok_iff] at h
        obtain ⟨_, ⟨header, hheader, hread⟩, algorithm, rfl, ⟨⟩, hseal, d, audience,
          ⟨claims, hclaims, hclaimed⟩, rfl, hlive, rfl⟩ := h
        refine ⟨algorithm, header, claims, ?_, hread, hclaimed, hlive⟩
        rw [sealed, ← hheader, ← hclaims, ← hsigned,
          ← checkSignature_eq_ok_iff.mp hseal, ← htoken]
  · rintro ⟨algorithm, header, claims, rfl, hheader, hclaims, hlive⟩
    rw [verifyToken_sealed hheader hclaims]
    exact checkClaims_eq_ok_iff.mpr ⟨rfl, hlive, rfl⟩

/-- **The presented texts that verify.** -/
theorem verify_eq_ok_iff {mac : Mac} {presented : String} {c : Claims} :
    a.verify mac now presented = .ok c ↔
      ∃ algorithm header claims,
        Presents presented (sealed mac a.secret algorithm header claims) ∧
        headerOf? header = some ⟨.mac algorithm, some a.keyId⟩ ∧
        claimsOf? claims = some (c, false) ∧ a.Live now c := by
  rw [verify, verifyToken_eq_ok_iff]
  refine exists_congr fun algorithm => exists_congr fun header => exists_congr fun claims => ?_
  rw [presentedToken_eq_iff (sealed_ne_nil _ _ _ _ _) isTokenOctet_of_mem_sealed]

/-- Live claims verify as themselves once they are printed and sealed. -/
theorem verify_of_presents_compact {mac : Mac} {presented : String} {c : Claims}
    {algorithm : MacAlgorithm} (hlive : a.Live now c)
    (hpresents : Presents presented (compact mac a.secret algorithm a.keyId c)) :
    a.verify mac now presented = .ok c := by
  rw [compact_eq_sealed] at hpresents
  exact verify_eq_ok_iff.mpr ⟨algorithm, _, _, hpresents, headerOf?_octets algorithm a.keyId,
    claimsOf?_octets c, hlive⟩

/-- **Verification is sound and complete.**  A text verifies as some claims only if it presents
a token of three Base64 parts whose header names one of the codes and the live key, whose third
part is that code of the first two under the live secret, and whose claims are these and live;
and live claims, printed and sealed with any of the codes, verify as themselves. -/
theorem verify_sound_and_complete (mac : Mac) (a : Authority) (now : UInt64) :
    (∀ presented c, a.verify mac now presented = .ok c →
      ∃ algorithm header claims,
        Presents presented (sealed mac a.secret algorithm header claims) ∧
        headerOf? header = some ⟨.mac algorithm, some a.keyId⟩ ∧
        (claimsOf? claims).map Prod.fst = some c ∧ a.Live now c) ∧
    (∀ c algorithm presented, a.Live now c →
      Presents presented (compact mac a.secret algorithm a.keyId c) →
      a.verify mac now presented = .ok c) := by
  constructor
  · intro presented c h
    obtain ⟨algorithm, header, claims, hpresents, hheader, hclaims, hlive⟩ :=
      verify_eq_ok_iff.mp h
    exact ⟨algorithm, header, claims, hpresents, hheader, by rw [hclaims]; rfl, hlive⟩
  · intro c algorithm presented hlive hpresents
    exact verify_of_presents_compact hlive hpresents

theorem verify_sealed_sample :
    let a : Authority := ⟨[0x73, 0x33], "main", 4, 50⟩
    let c : Claims := ⟨"7-ada", 60, 60, 90, "ada", none, some "ops", 4, 60, "main", "n1", scope⟩
    a.verify hmac 75 (String.ofList (characters (compact hmac a.secret .hs384 a.keyId c))) =
      .ok c := by
  intro a c
  have hlive : a.Live 75 c := ⟨by decide, by decide, rfl, by decide, rfl⟩
  exact (verify_sound_and_complete hmac a 75).2 c .hs384 _ hlive (presents_characters _)

end Authority

end CredentialGateway.Token
