import Mathlib
import Stede.Solana.Anchor

set_option autoImplicit false

/- The program `stede_rule_time_window` (night mode). -/
namespace Stede

structure TimeWindowConfig where
  sender : Pubkey
  stedeMint : Pubkey
  startHour : UInt8
  endHour : UInt8
  bump : UInt8
deriving DecidableEq

namespace TimeWindowConfig

def fields : Pubkey × Pubkey × UInt8 × UInt8 × UInt8 ≃ TimeWindowConfig where
  toFun := fun (sender, stedeMint, startHour, endHour, bump) =>
    ⟨sender, stedeMint, startHour, endHour, bump⟩
  invFun value := (value.sender, value.stedeMint, value.startHour, value.endHour, value.bump)
  left_inv _ := rfl
  right_inv _ := rfl

def kind : ConfigKind TimeWindowConfig where
  program := Programs.stedeRuleTimeWindow
  discriminator := [124, 246, 156, 41, 13, 114, 148, 89]
  codec := (Pubkey.codec.prod (Pubkey.codec.prod (Codec.byte.prod (Codec.byte.prod
    Codec.byte)))).imap fields
  zero := ⟨.default, .default, 0, 0, 0⟩
  discriminator_length := rfl
  encode_zero := by decide
  seedPrefix := byteString "time_window"
  sender := TimeWindowConfig.sender
  stedeMint := TimeWindowConfig.stedeMint
  bump := TimeWindowConfig.bump
  foreign := by decide +kernel

/-- The body of `set_time_window_handler`. Unlike the other rules' it writes the
sender, the mint and the bump every time. -/
def setTimeWindowHandler (sender stedeMint : Pubkey) (bump startHour endHour : UInt8)
    (_config : TimeWindowConfig) : Except Error TimeWindowConfig := do
  require (startHour < 24 ∧ endHour < 24) (.timeWindow .invalidHour)
  return ⟨sender, stedeMint, startHour, endHour, bump⟩

def setTimeWindow (rt : Runtime) (ledger : Ledger) (accounts : SetConfig)
    (startHour endHour : UInt8) : Except Error Ledger :=
  kind.set rt ledger accounts fun bump =>
    setTimeWindowHandler accounts.sender.pubkey accounts.stedeMint bump startHour endHour

def disableTimeWindow (rt : Runtime) (ledger : Ledger) (accounts : DisableConfig) :
    Except Error Ledger :=
  kind.disable rt ledger accounts

/-- `(((now % 86_400) + 86_400) % 86_400) / 3600` in `i64`, cast to `u8`. -/
def hourOf (now : Int64) : UInt8 := ((((now % 86400) + 86400) % 86400) / 3600).toUInt64.toUInt8

/-- Whether an hour falls in the blocked window, which may wrap past midnight. -/
def blocks (startHour endHour hour : UInt8) : Bool :=
  if startHour ≤ endHour then startHour ≤ hour ∧ hour < endHour
  else startHour ≤ hour ∨ hour < endHour

/-- `check_transfer_handler`: the hours are the bytes at 72 and 73, read without
a length check. -/
def checkTransferHandler (clock : Clock) (config : Account) (_amount : UInt64) :
    Except Error Unit :=
  if config.unconfigured then .ok ()
  else do
    let startHour ← readByte config.data 72
    let endHour ← readByte config.data 73
    require (blocks startHour endHour (hourOf clock.unixTimestamp) = false)
      (.timeWindow .withinBlockedWindow)

/-- `CheckTransfer` derives the config address from the sender and mint it is given. -/
def checkTransfer (rt : Runtime) (clock : Clock) (ledger : Ledger)
    (config sender stedeMint : AccountMeta) (amount : UInt64) : Except Error Unit := do
  require (config.pubkey = (kind.pda rt sender.pubkey stedeMint.pubkey).1) (.anchor .constraintSeeds)
  checkTransferHandler clock (ledger config.pubkey) amount

theorem setTimeWindowHandler_eq_ok (sender stedeMint : Pubkey) (bump startHour endHour : UInt8)
    (config next : TimeWindowConfig) :
    setTimeWindowHandler sender stedeMint bump startHour endHour config = .ok next ↔
      (startHour < 24 ∧ endHour < 24) ∧ next = ⟨sender, stedeMint, startHour, endHour, bump⟩ := by
  simp only [setTimeWindowHandler, bind_eq_ok, require_eq_ok, exists_const, pure, Except.pure,
    Except.ok.injEq]
  refine and_congr_right fun _ => eq_comm

/-- The address error is raised exactly away from the address of the given pair. -/
theorem checkTransfer_misplaced (rt : Runtime) (clock : Clock) (ledger : Ledger)
    (config sender stedeMint : AccountMeta) (amount : UInt64) :
    checkTransfer rt clock ledger config sender stedeMint amount = .error (.anchor .constraintSeeds) ↔
      config.pubkey ≠ (kind.pda rt sender.pubkey stedeMint.pubkey).1 := by
  have other : checkTransferHandler clock (ledger config.pubkey) amount ≠
      .error (.anchor .constraintSeeds) := by
    unfold checkTransferHandler
    split <;> simp [bind_eq_error]
  simp [checkTransfer, bind_eq_error, other]

end TimeWindowConfig

end Stede
