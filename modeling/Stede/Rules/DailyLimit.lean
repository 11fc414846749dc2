import Mathlib
import Stede.Lib.Checked
import Stede.Solana.Anchor

set_option autoImplicit false

/- The program `stede_rule_daily_limit`. -/
namespace Stede

structure DailyLimit where
  sender : Pubkey
  stedeMint : Pubkey
  limit : UInt64
  spentToday : UInt64
  windowStartSlot : UInt64
  bump : UInt8
deriving DecidableEq

namespace DailyLimit

/-- Solana targets about 400 ms a slot, so a day is taken to be 216,000 slots. -/
def SLOTS_PER_DAY : UInt64 := 216000

def fields : Pubkey × Pubkey × UInt64 × UInt64 × UInt64 × UInt8 ≃ DailyLimit where
  toFun := fun (sender, stedeMint, limit, spentToday, windowStartSlot, bump) =>
    ⟨sender, stedeMint, limit, spentToday, windowStartSlot, bump⟩
  invFun value := (value.sender, value.stedeMint, value.limit, value.spentToday,
    value.windowStartSlot, value.bump)
  left_inv _ := rfl
  right_inv _ := rfl

/-- The account type; the discriminator is the hash prefix of `account:DailyLimit`. -/
def kind : ConfigKind DailyLimit where
  program := Programs.stedeRuleDailyLimit
  discriminator := [206, 4, 32, 239, 201, 204, 25, 225]
  codec := (Pubkey.codec.prod (Pubkey.codec.prod (Codec.uint64.prod (Codec.uint64.prod
    (Codec.uint64.prod Codec.byte))))).imap fields
  zero := ⟨.default, .default, 0, 0, 0, 0⟩
  discriminator_length := rfl
  encode_zero := by decide
  seedPrefix := byteString "rule_daily_limit"
  sender := DailyLimit.sender
  stedeMint := DailyLimit.stedeMint
  bump := DailyLimit.bump
  foreign := by decide +kernel

/-- The body of `set_limit_handler`. -/
def setLimitHandler (clock : Clock) (sender stedeMint : Pubkey) (bump : UInt8) (limit : UInt64)
    (dailyLimit : DailyLimit) : Except Error DailyLimit := do
  require (0 < limit) (.dailyLimit .zeroLimit)
  let dailyLimit :=
    if dailyLimit.sender = .default then
      { dailyLimit with
        sender := sender, stedeMint := stedeMint, windowStartSlot := clock.slot
        spentToday := 0, bump := bump }
    else dailyLimit
  return { dailyLimit with limit := limit }

def setLimit (rt : Runtime) (clock : Clock) (ledger : Ledger) (accounts : SetConfig)
    (limit : UInt64) : Except Error Ledger :=
  kind.set rt ledger accounts fun bump =>
    setLimitHandler clock accounts.sender.pubkey accounts.stedeMint bump limit

/-- "Roll the window forward if 24h has passed." -/
def rolled (slot : UInt64) (dailyLimit : DailyLimit) : DailyLimit :=
  if SLOTS_PER_DAY ≤ Checked.saturatingSubU64 slot dailyLimit.windowStartSlot then
    { dailyLimit with spentToday := 0, windowStartSlot := slot }
  else dailyLimit

/-- The part of `check_transfer_handler` after the account has been validated,
up to writing it back. -/
def spend (slot amount : UInt64) (dailyLimit : DailyLimit) : Except Error DailyLimit := do
  let dailyLimit := dailyLimit.rolled slot
  let newTotal ← okOr (Checked.addU64 dailyLimit.spentToday amount) (.dailyLimit .overflow)
  require (newTotal ≤ dailyLimit.limit) (.dailyLimit .dailyLimitExceeded)
  return { dailyLimit with spentToday := newTotal }

/-- `check_transfer_handler`: the account as the call leaves it. -/
def checkTransferHandler (rt : Runtime) (clock : Clock) (key : Pubkey) (account : Account)
    (amount : UInt64) : Except Error Account :=
  kind.checked rt (.dailyLimit .invalidConfigAccount) key account account fun dailyLimit => do
    let dailyLimit ← spend clock.slot amount dailyLimit
    kind.store dailyLimit account

def checkTransfer (rt : Runtime) (clock : Clock) (ledger : Ledger) (dailyLimit : AccountMeta)
    (amount : UInt64) : Except Error Ledger := do
  require (dailyLimit.isWritable) (.anchor .constraintMut)
  let account ← checkTransferHandler rt clock dailyLimit.pubkey (ledger dailyLimit.pubkey) amount
  return ledger.write dailyLimit.pubkey account

theorem setLimitHandler_eq_ok (clock : Clock) (sender stedeMint : Pubkey) (bump : UInt8)
    (limit : UInt64) (dailyLimit next : DailyLimit) :
    setLimitHandler clock sender stedeMint bump limit dailyLimit = .ok next ↔
      0 < limit ∧ next = if dailyLimit.sender = .default then
          ⟨sender, stedeMint, limit, 0, clock.slot, bump⟩
        else { dailyLimit with limit := limit } := by
  simp only [setLimitHandler, bind_eq_ok, require_eq_ok, exists_const, pure, Except.pure,
    Except.ok.injEq]
  refine and_congr_right fun _ => ?_
  split <;> exact eq_comm

/-- A check succeeds exactly when the rolled total fits under the limit; the sum
is taken over the naturals, so the overflow error adds no refusal of its own. -/
theorem spend_eq_ok (slot amount : UInt64) (dailyLimit next : DailyLimit) :
    dailyLimit.spend slot amount = .ok next ↔
      next = { dailyLimit.rolled slot with spentToday := next.spentToday } ∧
      next.spentToday.toNat = (dailyLimit.rolled slot).spentToday.toNat + amount.toNat ∧
      next.spentToday.toNat ≤ dailyLimit.limit.toNat := by
  have limit_kept : (dailyLimit.rolled slot).limit = dailyLimit.limit := by
    unfold rolled
    split <;> rfl
  simp only [spend, bind_eq_ok, okOr_eq_ok, require_eq_ok, exists_const, pure, Except.pure,
    Except.ok.injEq, Checked.addU64_eq_some, UInt64.le_iff_toNat_le, limit_kept]
  constructor
  · rintro ⟨total, sum, below, rfl⟩
    exact ⟨rfl, sum, below⟩
  · rintro ⟨same, sum, below⟩
    exact ⟨next.spentToday, sum, below, same.symm⟩

theorem checkTransferHandler_misplaced (rt : Runtime) (clock : Clock) (key : Pubkey)
    (dailyLimit : DailyLimit) (amount : UInt64) :
    checkTransferHandler rt clock key (kind.created rt dailyLimit) amount =
        .error (.dailyLimit .invalidConfigAccount) ↔
      key ≠ (kind.pda rt dailyLimit.sender dailyLimit.stedeMint).1 := by
  apply kind.checked_misplaced
  simp [bind_eq_error, spend, AccountType.store_eq_error, pure, Except.pure]

theorem checkTransfer_eq_ok (rt : Runtime) (clock : Clock) (ledger next : Ledger)
    (dailyLimit : AccountMeta) (amount : UInt64) :
    checkTransfer rt clock ledger dailyLimit amount = .ok next ↔
      dailyLimit.isWritable = true ∧ ∃ account,
        checkTransferHandler rt clock dailyLimit.pubkey (ledger dailyLimit.pubkey) amount =
          .ok account ∧ next = ledger.write dailyLimit.pubkey account := by
  simp only [checkTransfer, bind_eq_ok, require_eq_ok, exists_const, pure, Except.pure,
    Except.ok.injEq]
  refine and_congr_right fun _ => exists_congr fun _ => and_congr_right fun _ => eq_comm

end DailyLimit

end Stede
