/-
Which texts hold a key for signing content.

A text holds a key exactly if it is, up to white space around it, the padded Base64 of a
seed, or of a seed with its public key behind it, and the key is that seed.  So both forms
of one seed are the same key.  Every other text makes the gateway fail to start.

Reading a seed with its public key asks first whether the second half is a point, and only
then whether it is the public key of the first half.  That the first question refuses no
key is the one fact here about the curve: what is computed as a public key is a point,
whatever the seed (`Ed25519.isPoint_publicKey`).
-/
import Mathlib
import CredentialGateway.CommandLine
import CredentialGateway.ContentKey
import CredentialGateway.Gateway
import CredentialGateway.Proofs.Ed25519.Curve
import CredentialGateway.Proofs.Settings.Numbers
import CredentialGateway.Proofs.Text.Base64
import CredentialGateway.Proofs.Token.Presented

namespace CredentialGateway

theorem Base64.standard_proper : Base64.standard.Proper := ⟨by decide, by decide⟩

/-- Base64 is written in ASCII. -/
theorem Base64.lt_of_mem_encode {b : UInt8} {bytes : List UInt8}
    (h : b ∈ Base64.standard.encode bytes) : b.toNat < 0x80 := by
  have hsymbols : ∀ n < 64, (Base64.standard.symbol n).toNat < 0x80 := by decide
  rcases Base64.Variant.mem_encode h with ⟨-, rfl⟩ | ⟨n, hn, rfl⟩
  · decide
  · exact hsymbols n hn

namespace ContentKey

variable {text : String} {bytes : List UInt8} {key : ContentKey}

/-- Whether a text is padded Base64 of octets, with white space around it allowed. -/
def Writes (text : String) (bytes : List UInt8) : Prop :=
  String.ofList (Text.trimBlank text.toList) = Base64.encodeString Base64.standard bytes

/-- Whether octets are a seed, or a seed with its public key behind it. -/
def AreKey (bytes : List UInt8) : Prop :=
  bytes.length = 32 ∨
    bytes.length = 64 ∧ bytes.drop 32 = Ed25519.publicKey (bytes.take 32)

/-- Whether a text holds a key. -/
def HoldsKey (text : String) : Prop :=
  ∃ bytes, Writes text bytes ∧ AreKey bytes

/-! ### Octets -/

/-- **Octets are read as a key exactly if they are a seed, or a seed with its public key.** -/
theorem ofOctets_eq_ok_iff : ofOctets bytes = .ok key ↔ AreKey bytes ∧ key = ⟨bytes.take 32⟩ := by
  by_cases hpair : bytes.length = 64
  · have hread : ofOctets bytes =
        if !Ed25519.isPoint (bytes.drop 32) then .error .notAPoint
        else if Ed25519.publicKey (bytes.take 32) = bytes.drop 32 then .ok ⟨bytes.take 32⟩
        else .error .mismatch := if_pos hpair
    constructor
    · intro h
      rw [hread] at h
      split_ifs at h with hpoint hpublic
      cases h
      exact ⟨.inr ⟨hpair, hpublic.symm⟩, rfl⟩
    · rintro ⟨hkey, rfl⟩
      have hpublic := (hkey.resolve_left (by omega)).2
      have hpoint : Ed25519.isPoint (bytes.drop 32) = true := by
        rw [hpublic]
        exact Ed25519.isPoint_publicKey _
      rw [hread, hpoint, if_neg (by decide), if_pos hpublic.symm]
  · rw [ofOctets, if_neg hpair]
    by_cases hseed : bytes.length = 32
    · rw [if_pos hseed, List.take_of_length_le hseed.le, Except.ok.injEq]
      exact ⟨fun h => ⟨.inl hseed, h.symm⟩, fun h => h.2.symm⟩
    · rw [if_neg hseed]
      constructor
      · intro h
        cases h
      · rintro ⟨hkey | ⟨hkey, -⟩, -⟩
        · exact absurd hkey hseed
        · exact absurd hkey hpair

theorem areKey_seed {seed : List UInt8} (h : seed.length = 32) :
    AreKey seed ∧ seed.take 32 = seed :=
  ⟨.inl h, List.take_of_length_le h.le⟩

theorem areKey_pair {seed : List UInt8} (h : seed.length = 32) :
    AreKey (seed ++ Ed25519.publicKey seed) ∧ (seed ++ Ed25519.publicKey seed).take 32 = seed := by
  have htake : (seed ++ Ed25519.publicKey seed).take 32 = seed := List.take_left' h
  have hdrop : (seed ++ Ed25519.publicKey seed).drop 32 = Ed25519.publicKey seed :=
    List.drop_left' h
  refine ⟨.inr ⟨?_, ?_⟩, htake⟩
  · rw [List.length_append, h, Ed25519.length_publicKey]
  · rw [htake, hdrop]

/-! ### Texts -/

theorem decode_eq_ok_iff :
    Base64.standard.decode (Utf8.encode (Text.trimBlank text.toList)) = .ok bytes ↔
      Writes text bytes := by
  have hwritten : Base64.encodeString Base64.standard bytes =
      String.ofList (Token.characters (Base64.standard.encode bytes)) := rfl
  have hascii : Utf8.encode (Token.characters (Base64.standard.encode bytes)) =
      Base64.standard.encode bytes :=
    Token.encode_characters fun _ hb => Base64.lt_of_mem_encode hb
  rw [Base64.Variant.decode_eq_ok_iff Base64.standard_proper, Writes, hwritten, String.ofList_inj]
  constructor
  · intro h
    exact Utf8.encode_injective (h.trans hascii.symm)
  · intro h
    rw [h, hascii]

/-- A text is Base64 of one sequence of octets at most. -/
theorem Writes.unique {other : List UInt8} (h : Writes text bytes) (hother : Writes text other) :
    bytes = other := by
  have hread := decode_eq_ok_iff.mpr h
  rw [decode_eq_ok_iff.mpr hother] at hread
  exact (Except.ok.inj hread).symm

/-- **A text is read as a key exactly if it is Base64 of octets that are one.** -/
theorem ofBase64_eq_ok_iff : ofBase64 text = .ok key ↔
    ∃ bytes, Writes text bytes ∧ AreKey bytes ∧ key = ⟨bytes.take 32⟩ := by
  rw [ofBase64]
  constructor
  · intro h
    split at h
    · rename_i bytes hdecode
      exact ⟨bytes, decode_eq_ok_iff.mp hdecode, ofOctets_eq_ok_iff.mp h⟩
    · cases h
  · rintro ⟨bytes, hwrites, hkey⟩
    rw [decode_eq_ok_iff.mpr hwrites]
    exact ofOctets_eq_ok_iff.mpr hkey

end ContentKey

/-! ### The start -/

namespace Gateway

open ContentKey

variable {text : String} {settings : Settings}

/-- What is no key is a failure of the configuration. -/
theorem contentKeyOf_of_not_holdsKey (hsettings : settings.contentKey = some text)
    (h : ¬ HoldsKey text) : ∃ message, contentKeyOf settings = .error (.config message) := by
  cases hread : ofBase64 text with
  | ok key =>
      obtain ⟨bytes, hwrites, hkey, -⟩ := ofBase64_eq_ok_iff.mp hread
      exact absurd ⟨bytes, hwrites, hkey⟩ h
  | error fault =>
      refine ⟨fault.message, ?_⟩
      rw [contentKeyOf, hsettings]
      simp only [hread]

/-- A gateway whose key cannot be read does not start. -/
theorem ofStore_of_not_holdsKey (store : Store) (hsettings : settings.contentKey = some text)
    (h : ¬ HoldsKey text) : ∃ message, ofStore store settings = .error (.config message) := by
  obtain ⟨message, hfails⟩ := contentKeyOf_of_not_holdsKey hsettings h
  exact ⟨message, by rw [ofStore, hfails]; rfl⟩

/-- With an entry that is no key, no options make a gateway start. -/
theorem start_of_not_holdsKey (o : CommandLine.Options) {env : List (String × String)}
    {store : Store} (hstore : storeOf env = .ok store)
    (hentry : store.get "ED25519_PRIVATE_KEY" = some text) (hne : text ≠ "")
    (h : ¬ HoldsKey text) : ∃ message, start o env = .error (.config message) := by
  have hstart : start o env = settingsOf store >>= fun s => ofStore store (o.over s) := by
    rw [start, hstore]
    rfl
  rw [hstart]
  cases hread : settingsOf store with
  | error failure =>
      obtain ⟨fault, -, rfl⟩ := settingsOf_eq_error_iff.mp hread
      exact ⟨fault.message, rfl⟩
  | ok settings =>
      have hover : (o.over settings).contentKey = settings.contentKey := rfl
      have hkey := Settings.contentKey_of_ofLookup (settingsOf_eq_ok_iff.mp hread)
      have htext := Settings.textOf_eq_some hentry hne
      exact ofStore_of_not_holdsKey store (hover.trans (hkey.trans htext)) h

/-- **A text is taken for a key exactly if it is Base64 of a seed, or of a seed with its public
key.**  The key signs as the seed does, both forms of one seed are the same key, and with any other
text there is no gateway. -/
theorem content_key_is_accepted_iff (text : String) :
    ((∃ key, ofBase64 text = .ok key) ↔ HoldsKey text) ∧
    (∀ bytes key, Writes text bytes → ofBase64 text = .ok key →
      key.publicKey =
        Base64.encodeString Base64.standard (Ed25519.publicKey (bytes.take 32)) ∧
      ∀ message, key.sign message =
        Base64.encodeString Base64.standard (Ed25519.sign (bytes.take 32) message)) ∧
    (∀ seed other, seed.length = 32 → Writes text (seed ++ Ed25519.publicKey seed) →
      Writes other seed → ofBase64 text = .ok ⟨seed⟩ ∧ ofBase64 other = .ok ⟨seed⟩) ∧
    (¬ HoldsKey text →
      (∀ settings : Settings, settings.contentKey = some text → ∀ store,
        ∃ message, ofStore store settings = .error (.config message)) ∧
      ∀ o env store, storeOf env = .ok store →
        store.get "ED25519_PRIVATE_KEY" = some text → text ≠ "" →
          ∃ message, start o env = .error (.config message)) := by
  refine ⟨⟨?_, ?_⟩, ?_, ?_, ?_⟩
  · rintro ⟨key, hkey⟩
    obtain ⟨bytes, hwrites, hbytes, -⟩ := ofBase64_eq_ok_iff.mp hkey
    exact ⟨bytes, hwrites, hbytes⟩
  · rintro ⟨bytes, hwrites, hbytes⟩
    exact ⟨_, ofBase64_eq_ok_iff.mpr ⟨bytes, hwrites, hbytes, rfl⟩⟩
  · intro bytes key hwrites hkey
    obtain ⟨read, hread, -, rfl⟩ := ofBase64_eq_ok_iff.mp hkey
    obtain rfl := hwrites.unique hread
    exact ⟨rfl, fun _ => rfl⟩
  · intro seed other hseed hpair hother
    obtain ⟨hkey, htake⟩ := areKey_seed hseed
    obtain ⟨hpairKey, hpairTake⟩ := areKey_pair hseed
    exact ⟨ofBase64_eq_ok_iff.mpr ⟨_, hpair, hpairKey, by rw [hpairTake]⟩,
      ofBase64_eq_ok_iff.mpr ⟨_, hother, hkey, by rw [htake]⟩⟩
  · intro hnot
    exact ⟨fun settings hsettings store => ofStore_of_not_holdsKey store hsettings hnot,
      fun o env store hstore hentry hne => start_of_not_holdsKey o hstore hentry hne hnot⟩

/-- Both forms of one seed, with white space around them, and a text of three octets. -/
theorem both_forms_of_a_seed_are_one_key :
    let seed : List UInt8 := List.replicate 32 7
    let pair := "\n\u2003" ++
      "BwcHBwcHBwcHBwcHBwcHBwcHBwcHBwcHBwcHBwcHBwfqSmxj4pxSCr71UHsTLsX5lUd2rr6+e5JCHuppFEbSLA==\t"
    let single := " BwcHBwcHBwcHBwcHBwcHBwcHBwcHBwcHBwcHBwcHBwc=\u00a0"
    let env := [("ED25519_PRIVATE_KEY", "AAAA"), ("MAGIC_GATEWAY_API_KEY", "s3cret")]
    Writes pair (seed ++ Ed25519.publicKey seed) ∧ Writes single seed ∧
      ofBase64 pair = .ok ⟨seed⟩ ∧ ofBase64 single = .ok ⟨seed⟩ ∧
      ∃ message, start .none env = .error (.config message) := by
  intro seed pair single env
  have hpair : Writes pair (seed ++ Ed25519.publicKey seed) :=
    decode_eq_ok_iff.mp (by decide +kernel)
  have hsingle : Writes single seed := decode_eq_ok_iff.mp (by decide +kernel)
  obtain ⟨-, -, halike, -⟩ := content_key_is_accepted_iff pair
  obtain ⟨haccepted, -, -, hrefused⟩ := content_key_is_accepted_iff "AAAA"
  have hshort : ofBase64 "AAAA" = .error (.length 3) := by decide
  have hnot : ¬ HoldsKey "AAAA" := by
    intro hkey
    obtain ⟨key, hread⟩ := haccepted.mpr hkey
    rw [hshort] at hread
    cases hread
  have hstore : storeOf env = .ok ⟨[("ED25519_PRIVATE_KEY", "AAAA")], "s3cret", by decide, by decide,
    by decide⟩ := rfl
  exact ⟨hpair, hsingle, (halike seed single (by decide) hpair hsingle).1,
    (halike seed single (by decide) hpair hsingle).2,
    (hrefused hnot).2 .none env _ hstore rfl (by decide)⟩

end Gateway

end CredentialGateway
