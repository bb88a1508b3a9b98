/-
The two numbers among the settings.

The port and the waiting time are numbers in decimal with white space around them allowed,
each with a limit of its own; where there is no entry a default stands in.  An entry either
gives a number or is at fault (`Gives`, `IsAtFault`), and the settings of a store are read
just if neither entry is at fault.  If both are, it is the port that is reported.
-/
import Mathlib
import CredentialGateway.Gateway
import CredentialGateway.Proofs.Text.Base64
import CredentialGateway.Proofs.Text.Decimal

namespace CredentialGateway

namespace Settings

/-! ### Entries that hold a number -/

/-- The number that an entry gives: the default one if there is no entry, else the one that it
writes, which is within the limit. -/
def Gives (get : Lookup) (name : String) (limit default n : Nat) : Prop :=
  match get name with
  | none => n = default
  | some text => Decimal.Writes (Text.trimBlank text.toList) n ∧ n ≤ limit

/-- The fault of an entry that gives no number. -/
def IsAtFault (get : Lookup) (name : String) (limit : Nat) (cause : Decimal.Fault) : Prop :=
  ∃ text, get name = some text ∧ Decimal.IsFault limit (Text.trimBlank text.toList) cause

variable {get : Lookup} {name text : String} {limit default n : Nat} {cause : Decimal.Fault}
  {fault : Fault}

theorem gives_of_none (h : get name = none) : Gives get name limit default n ↔ n = default := by
  rw [Gives, h]

theorem gives_of_some (h : get name = some text) :
    Gives get name limit default n ↔ number limit text = .ok n := by
  rw [Gives, h]
  exact Decimal.read_eq_ok_iff.symm

theorem not_isAtFault_of_none (h : get name = none) : ¬ IsAtFault get name limit cause := by
  rintro ⟨text, hget, -⟩
  rw [h] at hget
  cases hget

theorem isAtFault_of_some (h : get name = some text) :
    IsAtFault get name limit cause ↔ number limit text = .error cause := by
  rw [IsAtFault, h]
  simp only [Option.some.injEq, exists_eq_left']
  exact Decimal.read_eq_error_iff.symm

/-! ### The port and the waiting time -/

theorem toNat_port (h : number 65535 text = .ok n) : (UInt16.ofNat n).toNat = n :=
  UInt16.toNat_ofNat_of_lt' (Nat.lt_succ_of_le (Decimal.read_eq_ok_iff.mp h).2)

theorem gives_port_iff : Gives get portName 65535 8000 n ↔
    ∃ port, portOf get = .ok port ∧ port.toNat = n := by
  rw [portOf]
  cases hget : get portName with
  | none =>
      simp only [gives_of_none hget, Except.ok.injEq, exists_eq_left']
      exact eq_comm
  | some text =>
      rw [gives_of_some hget]
      dsimp only
      cases hread : number 65535 text with
      | error cause => simp
      | ok m => simp only [Except.ok.injEq, exists_eq_left', toNat_port hread]

theorem portOf_eq_error_iff : portOf get = .error fault ↔
    ∃ cause, IsAtFault get portName 65535 cause ∧ fault = .port cause := by
  rw [portOf]
  cases hget : get portName with
  | none => simp [not_isAtFault_of_none hget]
  | some text =>
      simp only [isAtFault_of_some hget]
      cases hread : number 65535 text with
      | error cause => simp [eq_comm]
      | ok n => simp

theorem seconds_eq (text : String) : seconds text = number (2 ^ 64 - 1) text := rfl

theorem gives_wait_iff :
    Gives get waitName (2 ^ 64 - 1) 1800 n ↔ waitOf get = .ok (n * 1000) := by
  rw [waitOf]
  cases hget : get waitName with
  | none =>
      rw [gives_of_none hget]
      simp only [Settings.default, Except.ok.injEq]
      omega
  | some text =>
      rw [gives_of_some hget, ← seconds_eq]
      dsimp only
      cases seconds text with
      | error cause => simp
      | ok m => simp

theorem waitOf_eq_error_iff : waitOf get = .error fault ↔
    ∃ cause, IsAtFault get waitName (2 ^ 64 - 1) cause ∧ fault = .wait cause := by
  rw [waitOf]
  cases hget : get waitName with
  | none => simp [not_isAtFault_of_none hget]
  | some text =>
      simp only [isAtFault_of_some hget, ← seconds_eq]
      cases seconds text with
      | error cause => simp [eq_comm]
      | ok n => simp

/-- The settings are read just if both numbers are, and then hold them. -/
theorem exists_ofLookup_iff {port : UInt16} {wait : Nat} :
    (∃ s, ofLookup get = .ok s ∧ s.port = port ∧ s.waitMillis = wait) ↔
      portOf get = .ok port ∧ waitOf get = .ok wait := by
  simp only [ofLookup, bind_eq_ok_iff]
  constructor
  · rintro ⟨s, ⟨port, hport, wait, hwait, hs⟩, rfl, rfl⟩
    cases hs
    exact ⟨hport, hwait⟩
  · rintro ⟨hport, hwait⟩
    exact ⟨_, ⟨port, hport, wait, hwait, rfl⟩, rfl, rfl⟩

theorem ofLookup_eq_error_iff : ofLookup get = .error fault ↔
    portOf get = .error fault ∨ (∃ port, portOf get = .ok port) ∧ waitOf get = .error fault := by
  simp only [ofLookup, bind_eq_error_iff]
  refine or_congr_right ⟨?_, ?_⟩
  · rintro ⟨port, hport, hwait | ⟨wait, -, hs⟩⟩
    · exact ⟨⟨port, hport⟩, hwait⟩
    · cases hs
  · rintro ⟨⟨port, hport⟩, hwait⟩
    exact ⟨port, hport, Or.inl hwait⟩

/-- The key for signing content is the text of its entry. -/
theorem contentKey_of_ofLookup {s : Settings} (h : ofLookup get = .ok s) :
    s.contentKey = textOf get "ED25519_PRIVATE_KEY" := by
  simp only [ofLookup, bind_eq_ok_iff] at h
  obtain ⟨port, -, wait, -, hs⟩ := h
  cases hs
  rfl

theorem textOf_eq_some {name text : String} (h : get name = some text) (hne : text ≠ "") :
    textOf get name = some text :=
  Option.filter_eq_some_iff.mpr ⟨h, by simpa using hne⟩

end Settings

namespace Gateway

open Settings

variable {store : Store}

theorem settingsOf_eq_ok_iff {s : Settings} :
    settingsOf store = .ok s ↔ ofLookup store.get = .ok s := by
  rw [settingsOf]
  cases ofLookup store.get with
  | error fault => simp [Except.mapError]
  | ok s => simp [Except.mapError]

theorem settingsOf_eq_error_iff {failure : Failure} : settingsOf store = .error failure ↔
    ∃ fault, ofLookup store.get = .error fault ∧ failure = .config fault.message := by
  rw [settingsOf]
  cases ofLookup store.get with
  | error fault => simp [Except.mapError, eq_comm]
  | ok s => simp [Except.mapError]

theorem message_port (cause : Decimal.Fault) :
    (Fault.port cause).message = "Invalid MAGIC_GATEWAY_PORT: " ++ cause.message := rfl

theorem message_wait (cause : Decimal.Fault) : (Fault.wait cause).message =
    "Invalid MAGIC_GATEWAY_UPSTREAM_TIMEOUT_SECS: " ++ cause.message := rfl

/-- **The numbers among the settings are exactly those of the entries.**  The settings are read,
with a port and a waiting time, just if both entries give these numbers.  Otherwise the failure
names the port if its entry is at fault, and else the waiting time, and says what the fault is. -/
theorem settings_hold_numbers_of_entries (store : Store) :
    (∀ port wait,
      (∃ s, settingsOf store = .ok s ∧ s.port.toNat = port ∧ s.waitMillis = wait * 1000) ↔
        Gives store.get "MAGIC_GATEWAY_PORT" 65535 8000 port ∧
          Gives store.get "MAGIC_GATEWAY_UPSTREAM_TIMEOUT_SECS" (2 ^ 64 - 1) 1800 wait) ∧
    (∀ failure, settingsOf store = .error failure ↔
      (∃ cause, IsAtFault store.get "MAGIC_GATEWAY_PORT" 65535 cause ∧
        failure = .config ("Invalid MAGIC_GATEWAY_PORT: " ++ cause.message)) ∨
      (∃ port, Gives store.get "MAGIC_GATEWAY_PORT" 65535 8000 port) ∧
        ∃ cause, IsAtFault store.get "MAGIC_GATEWAY_UPSTREAM_TIMEOUT_SECS" (2 ^ 64 - 1) cause ∧
          failure = .config ("Invalid MAGIC_GATEWAY_UPSTREAM_TIMEOUT_SECS: " ++ cause.message)) := by
  rw [show "MAGIC_GATEWAY_PORT" = portName from rfl,
    show "MAGIC_GATEWAY_UPSTREAM_TIMEOUT_SECS" = waitName from rfl]
  constructor
  · intro port wait
    simp only [gives_port_iff, gives_wait_iff, settingsOf_eq_ok_iff]
    constructor
    · rintro ⟨s, hs, rfl, hmillis⟩
      obtain ⟨hport, hwait⟩ := exists_ofLookup_iff.mp ⟨s, hs, rfl, hmillis⟩
      exact ⟨⟨s.port, hport, rfl⟩, hwait⟩
    · rintro ⟨⟨p, hport, rfl⟩, hwait⟩
      obtain ⟨s, hs, rfl, hmillis⟩ := exists_ofLookup_iff.mpr ⟨hport, hwait⟩
      exact ⟨s, hs, rfl, hmillis⟩
  · intro failure
    simp only [settingsOf_eq_error_iff, ofLookup_eq_error_iff, portOf_eq_error_iff,
      waitOf_eq_error_iff, gives_port_iff, ← message_port, ← message_wait]
    constructor
    · rintro ⟨fault, ⟨cause, hcause, rfl⟩ | ⟨⟨p, hport⟩, cause, hcause, rfl⟩, rfl⟩
      · exact Or.inl ⟨cause, hcause, rfl⟩
      · exact Or.inr ⟨⟨_, p, hport, rfl⟩, cause, hcause, rfl⟩
    · rintro (⟨cause, hcause, rfl⟩ | ⟨⟨_, p, hport, rfl⟩, cause, hcause, rfl⟩)
      · exact ⟨_, Or.inl ⟨cause, hcause, rfl⟩, rfl⟩
      · exact ⟨_, Or.inr ⟨⟨p, hport⟩, cause, hcause, rfl⟩, rfl⟩

end Gateway

end CredentialGateway
