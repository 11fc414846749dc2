import Mathlib
import Stede.Lib.Checked
import Stede.Solana.Anchor

set_option autoImplicit false

/- The program `stede_rule_cooloff`. -/
namespace Stede

/-- `last_large_transfer_at` is 0 while no large transfer has occurred. -/
structure Cooloff where
  sender : Pubkey
  stedeMint : Pubkey
  threshold : UInt64
  durationSeconds : Int64
  lastLargeTransferAt : Int64
  bump : UInt8
deriving DecidableEq

namespace Cooloff

/-- Anything longer than a day feels like accidental lockout, not protection. -/
def MAX_DURATION_SECONDS : Int64 := 86400

/-- Zero duration would be a no-op rule. -/
def MIN_DURATION_SECONDS : Int64 := 1

def fields : Pubkey × Pubkey × UInt64 × Int64 × Int64 × UInt8 ≃ Cooloff where
  toFun := fun (sender, stedeMint, threshold, durationSeconds, lastLargeTransferAt, bump) =>
    ⟨sender, stedeMint, threshold, durationSeconds, lastLargeTransferAt, bump⟩
  invFun value := (value.sender, value.stedeMint, value.threshold, value.durationSeconds,
    value.lastLargeTransferAt, value.bump)
  left_inv _ := rfl
  right_inv _ := rfl

def kind : ConfigKind Cooloff where
  program := Programs.stedeRuleCooloff
  discriminator := [99, 24, 119, 214, 185, 25, 67, 191]
  codec := (Pubkey.codec.prod (Pubkey.codec.prod (Codec.uint64.prod (Codec.int64.prod
    (Codec.int64.prod Codec.byte))))).imap fields
  zero := ⟨.default, .default, 0, 0, 0, 0⟩
  discriminator_length := rfl
  encode_zero := by decide
  seedPrefix := byteString "rule_cooloff"
  sender := Cooloff.sender
  stedeMint := Cooloff.stedeMint
  bump := Cooloff.bump
  foreign := by decide +kernel

/-- The body of `set_cooloff_handler`. -/
def setCooloffHandler (sender stedeMint : Pubkey) (bump : UInt8) (threshold : UInt64)
    (durationSeconds : Int64) (cooloff : Cooloff) : Except Error Cooloff := do
  require (0 < threshold) (.cooloff .zeroThreshold)
  require (MIN_DURATION_SECONDS ≤ durationSeconds ∧ durationSeconds ≤ MAX_DURATION_SECONDS)
    (.cooloff .invalidDuration)
  -- "On subsequent updates, we preserve last_large_transfer_at so users can't
  -- reset the cool-off by reconfiguring the rule."
  let cooloff :=
    if cooloff.sender = .default then
      { cooloff with
        sender := sender, stedeMint := stedeMint, lastLargeTransferAt := 0, bump := bump }
    else cooloff
  return { cooloff with threshold := threshold, durationSeconds := durationSeconds }

def setCooloff (rt : Runtime) (ledger : Ledger) (accounts : SetConfig) (threshold : UInt64)
    (durationSeconds : Int64) : Except Error Ledger :=
  kind.set rt ledger accounts fun bump =>
    setCooloffHandler accounts.sender.pubkey accounts.stedeMint bump threshold durationSeconds

def disableCooloff (rt : Runtime) (ledger : Ledger) (accounts : DisableConfig) :
    Except Error Ledger :=
  kind.disable rt ledger accounts

/-- `check_transfer_handler`: the account as the call leaves it. Only a large
transfer that is approved writes the account. -/
def checkTransferHandler (rt : Runtime) (clock : Clock) (key : Pubkey) (account : Account)
    (amount : UInt64) : Except Error Account :=
  kind.checked rt (.cooloff .invalidConfigAccount) key account account fun cooloff =>
    if amount < cooloff.threshold then .ok account
    else do
      let now := clock.unixTimestamp
      let elapsed ← okOr (Checked.subI64 now cooloff.lastLargeTransferAt) (.cooloff .overflow)
      require (cooloff.durationSeconds ≤ elapsed) (.cooloff .cooloffActive)
      kind.store { cooloff with lastLargeTransferAt := now } account

def checkTransfer (rt : Runtime) (clock : Clock) (ledger : Ledger) (cooloff : AccountMeta)
    (amount : UInt64) : Except Error Ledger := do
  require (cooloff.isWritable) (.anchor .constraintMut)
  let account ← checkTransferHandler rt clock cooloff.pubkey (ledger cooloff.pubkey) amount
  return ledger.write cooloff.pubkey account

theorem setCooloffHandler_eq_ok (sender stedeMint : Pubkey) (bump : UInt8) (threshold : UInt64)
    (durationSeconds : Int64) (cooloff next : Cooloff) :
    setCooloffHandler sender stedeMint bump threshold durationSeconds cooloff = .ok next ↔
      0 < threshold ∧
      (MIN_DURATION_SECONDS ≤ durationSeconds ∧ durationSeconds ≤ MAX_DURATION_SECONDS) ∧
      next = if cooloff.sender = .default then
          ⟨sender, stedeMint, threshold, durationSeconds, 0, bump⟩
        else { cooloff with threshold := threshold, durationSeconds := durationSeconds } := by
  simp only [setCooloffHandler, bind_eq_ok, require_eq_ok, exists_const, pure, Except.pure,
    Except.ok.injEq]
  refine and_congr_right fun _ => and_congr_right fun _ => ?_
  split <;> exact eq_comm

/-- A configured check passes below the threshold and leaves the account alone, or
is large, late enough, and moves the timestamp to now. -/
theorem checkTransferHandler_eq_ok (rt : Runtime) (clock : Clock) (key : Pubkey)
    (account next : Account) (amount : UInt64) :
    checkTransferHandler rt clock key account amount = .ok next ↔
      (account.unconfigured = true ∧ next = account) ∨
      (account.unconfigured = false ∧ account.owner = kind.program ∧
        ∃ cooloff, kind.tryDeserialize account.data = .ok cooloff ∧
          key = (kind.pda rt cooloff.sender cooloff.stedeMint).1 ∧
          ((amount.toNat < cooloff.threshold.toNat ∧ next = account) ∨
            (cooloff.threshold.toNat ≤ amount.toNat ∧
              (∃ elapsed, Checked.subI64 clock.unixTimestamp cooloff.lastLargeTransferAt =
                some elapsed ∧ cooloff.durationSeconds.toInt ≤ elapsed.toInt) ∧
              kind.store { cooloff with lastLargeTransferAt := clock.unixTimestamp } account =
                .ok next))) := by
  rw [checkTransferHandler, ConfigKind.checked_eq_ok]
  refine or_congr_right (and_congr_right fun _ => and_congr_right fun _ => exists_congr fun cooloff =>
    and_congr_right fun _ => and_congr_right fun _ => ?_)
  split
  · rename_i small
    have below := UInt64.lt_iff_toNat_lt.mp small
    simp only [Except.ok.injEq, below, true_and, Nat.not_le_of_lt below, false_and, or_false]
    exact eq_comm
  · rename_i large
    have above := Nat.le_of_not_lt (UInt64.lt_iff_toNat_lt.not.mp large)
    simp only [bind_eq_ok, okOr_eq_ok, require_eq_ok, exists_const, Int64.le_iff_toInt_le,
      Nat.not_lt_of_le above, above, false_and, false_or, true_and]
    constructor
    · rintro ⟨elapsed, difference, late, stored⟩
      exact ⟨⟨elapsed, difference, late⟩, stored⟩
    · rintro ⟨⟨elapsed, difference, late⟩, stored⟩
      exact ⟨elapsed, difference, late, stored⟩

theorem checkTransferHandler_misplaced (rt : Runtime) (clock : Clock) (key : Pubkey)
    (cooloff : Cooloff) (amount : UInt64) :
    checkTransferHandler rt clock key (kind.created rt cooloff) amount =
        .error (.cooloff .invalidConfigAccount) ↔
      key ≠ (kind.pda rt cooloff.sender cooloff.stedeMint).1 := by
  apply kind.checked_misplaced
  split <;> simp [bind_eq_error, AccountType.store_eq_error]

theorem checkTransfer_eq_ok (rt : Runtime) (clock : Clock) (ledger next : Ledger)
    (cooloff : AccountMeta) (amount : UInt64) :
    checkTransfer rt clock ledger cooloff amount = .ok next ↔
      cooloff.isWritable = true ∧ ∃ account,
        checkTransferHandler rt clock cooloff.pubkey (ledger cooloff.pubkey) amount =
          .ok account ∧ next = ledger.write cooloff.pubkey account := by
  simp only [checkTransfer, bind_eq_ok, require_eq_ok, exists_const, pure, Except.pure,
    Except.ok.injEq]
  refine and_congr_right fun _ => exists_congr fun _ => and_congr_right fun _ => eq_comm

end Cooloff

end Stede
