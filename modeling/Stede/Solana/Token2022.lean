import Mathlib
import Stede.Lib.Buffer
import Stede.Solana.Account

set_option autoImplicit false

/- Transfers as Token-2022 processes them, up to its call of the transfer hook. The
program itself is a parameter, known by its documented effects on the bytes of the
accounts. -/
namespace Stede

/- The base layout of a token account: the mint at 0, the owner at 32, the amount at
64, the delegate at 72, the state at 108 and the delegated amount at 121. -/
namespace Account

/-- A token account of the mint, initialized and not frozen. -/
def HoldsTokens (account : Account) (stedeMint : Pubkey) : Prop :=
  account.owner = Programs.token2022 ∧ 165 ≤ account.data.length ∧
    account.data.take 32 = stedeMint.bytes ∧ account.data[108]? = some 1

instance (account : Account) (stedeMint : Pubkey) : Decidable (account.HoldsTokens stedeMint) :=
  inferInstanceAs (Decidable (_ ∧ _))

def tokenOwner (account : Account) : Option Pubkey :=
  Pubkey.tryFrom ((account.data.drop 32).take 32)

def tokenAmount (account : Account) : Nat := natLE ((account.data.drop 64).take 8)

/-- The owner has approved the key as delegate, for at least the amount. -/
def Approves (account : Account) (delegate : Pubkey) (amount : UInt64) : Prop :=
  (account.data.drop 72).take 4 = [1, 0, 0, 0] ∧ (account.data.drop 76).take 32 = delegate.bytes ∧
    amount.toNat ≤ natLE ((account.data.drop 121).take 8)

instance (account : Account) (delegate : Pubkey) (amount : UInt64) :
    Decidable (account.Approves delegate amount) :=
  inferInstanceAs (Decidable (_ ∧ _))

theorem tokenOwner_eq_some (account : Account) (owner : Pubkey) :
    account.tokenOwner = some owner ↔ owner.bytes = (account.data.drop 32).take 32 := by
  by_cases size : ((account.data.drop 32).take 32).length = 32
  · simp only [tokenOwner, Pubkey.tryFrom, size, ↓reduceDIte, Option.some.injEq]
    constructor
    · intro same
      rw [← same]
    · intro same
      exact Pubkey.bytes_injective same.symm
  · simp only [tokenOwner, Pubkey.tryFrom, size, ↓reduceDIte, reduceCtorEq, false_iff]
    intro same
    rw [← same] at size
    exact size owner.size

theorem tokenOwner_congr {first second : Account}
    (same : first.data.take 64 = second.data.take 64) : first.tokenOwner = second.tokenOwner := by
  have dropped := congrArg (List.drop 32) same
  rw [List.drop_take, List.drop_take] at dropped
  exact congrArg Pubkey.tryFrom dropped

/-- Only an account that is long enough names its owner. -/
theorem long_of_tokenOwner {account : Account} {owner : Pubkey}
    (owned : account.tokenOwner = some owner) : 64 ≤ account.data.length := by
  have width := congrArg List.length ((tokenOwner_eq_some _ _).mp owned)
  rw [owner.size, List.length_take, List.length_drop] at width
  omega

end Account

/-- `TransferChecked`: the four accounts it starts with, its arguments, and the
further accounts that the caller supplied for the hook. -/
structure Transfer where
  source : Pubkey
  stedeMint : Pubkey
  destination : Pubkey
  authority : AccountMeta
  amount : UInt64
  decimals : UInt8
  supplied : List AccountMeta
deriving DecidableEq

namespace Transfer

/-- The account metas of the instruction. -/
def metas (transfer : Transfer) : List AccountMeta :=
  [⟨transfer.source, false, true⟩, ⟨transfer.stedeMint, false, false⟩,
    ⟨transfer.destination, false, true⟩, transfer.authority] ++ transfer.supplied

/-- What Token-2022 asks of the accounts of any transfer. -/
structure Valid (rt : Runtime) (ledger : Ledger) (transfer : Transfer) : Prop where
  mint : (ledger transfer.stedeMint).owner = Programs.token2022 ∧
    rt.unpacksAsMint (ledger transfer.stedeMint).data = true
  decimals : (ledger transfer.stedeMint).data[44]? = some transfer.decimals
  source : (ledger transfer.source).HoldsTokens transfer.stedeMint
  destination : (ledger transfer.destination).HoldsTokens transfer.stedeMint
  authorised : (ledger transfer.source).tokenOwner = some transfer.authority.pubkey ∨
    (ledger transfer.source).Approves transfer.authority.pubkey transfer.amount
  funds : transfer.amount.toNat ≤ (ledger transfer.source).tokenAmount
  fits : transfer.source ≠ transfer.destination →
    (ledger transfer.destination).tokenAmount + transfer.amount.toNat < 2 ^ 64

/-- Only the two token accounts differ, and not in their program, mint or owner. -/
structure Keeps (transfer : Transfer) (before after : Ledger) : Prop where
  elsewhere : ∀ key, key ≠ transfer.source → key ≠ transfer.destination → after key = before key
  program : ∀ key, (after key).owner = (before key).owner
  parties : ∀ key, (after key).data.take 64 = (before key).data.take 64

end Transfer

/-- Token-2022, for mints with a transfer hook and neither a fee nor a permanent
delegate: what it does before it calls the hook, and after. `admits` stands for all it
asks for beyond the checks of `Transfer.Valid`. -/
structure Token2022 (rt : Runtime) where
  admits : Ledger → Transfer → Prop
  move : Ledger → Transfer → Except Error Ledger
  settle : Ledger → Transfer → Ledger
  move_valid : ∀ ledger (transfer : Transfer) moved, move ledger transfer = .ok moved →
    transfer.Valid rt ledger ∧ admits ledger transfer
  move_complete : ∀ ledger (transfer : Transfer), transfer.authority.signed rt = true →
    transfer.Valid rt ledger → admits ledger transfer → ∃ moved, move ledger transfer = .ok moved
  move_keeps : ∀ ledger (transfer : Transfer) moved, move ledger transfer = .ok moved →
    transfer.Keeps ledger moved
  move_self : ∀ ledger (transfer : Transfer) moved, move ledger transfer = .ok moved →
    transfer.source = transfer.destination →
      (moved transfer.source).tokenAmount = (ledger transfer.source).tokenAmount
  move_pays : ∀ ledger (transfer : Transfer) moved, move ledger transfer = .ok moved →
    transfer.source ≠ transfer.destination →
      (moved transfer.source).tokenAmount + transfer.amount.toNat =
        (ledger transfer.source).tokenAmount ∧
      (moved transfer.destination).tokenAmount =
        (ledger transfer.destination).tokenAmount + transfer.amount.toNat
  settle_keeps : ∀ ledger (transfer : Transfer), transfer.Keeps ledger (settle ledger transfer)
  settle_amount : ∀ ledger transfer key,
    (settle ledger transfer key).tokenAmount = (ledger key).tokenAmount

namespace Token2022

/-- The allowance that a delegate's transfer uses up. -/
def spendAllowance (account : Account) (transfer : Transfer) : Account :=
  let left := natLE ((account.data.drop 121).take 8) - transfer.amount.toNat
  if account.tokenOwner = some transfer.authority.pubkey then account
  else ⟨account.lamports, splice account.data 121 (bytesLE 8 left), account.owner⟩

def setAmount (account : Account) (amount : Nat) : Account :=
  ⟨account.lamports, splice account.data 64 (bytesLE 8 amount), account.owner⟩

/-- The balances, and the allowance of a delegate, after a transfer. -/
def moved (ledger : Ledger) (transfer : Transfer) : Ledger :=
  let source := ledger transfer.source
  let destination := ledger transfer.destination
  if transfer.source = transfer.destination then ledger
  else (ledger.write transfer.source (setAmount (spendAllowance source transfer)
      (source.tokenAmount - transfer.amount.toNat))).write transfer.destination
    (setAmount destination (destination.tokenAmount + transfer.amount.toNat))

theorem spendAllowance_take (account : Account) (transfer : Transfer) {count : Nat}
    (before : count ≤ 121) (long : 165 ≤ account.data.length) :
    (spendAllowance account transfer).data.take count = account.data.take count := by
  unfold spendAllowance
  split
  · rfl
  · exact splice_take before (by omega)

theorem setAmount_take (account : Account) (amount : Nat) (long : 64 ≤ account.data.length) :
    (setAmount account amount).data.take 64 = account.data.take 64 :=
  splice_take le_rfl long

theorem setAmount_amount (account : Account) {amount : Nat} (fits : amount < 2 ^ 64)
    (long : 64 ≤ account.data.length) : (setAmount account amount).tokenAmount = amount := by
  have field : ((setAmount account amount).data.drop 64).take 8 = bytesLE 8 amount :=
    splice_field (bytesLE_length 8 amount) long
  rw [Account.tokenAmount, field, natLE_bytesLE]
  exact Nat.mod_eq_of_lt fits

theorem tokenAmount_lt (account : Account) : account.tokenAmount < 2 ^ 64 := by
  have bound := natLE_lt ((account.data.drop 64).take 8)
  have width : ((account.data.drop 64).take 8).length ≤ 8 := List.length_take_le ..
  have power : 256 ^ ((account.data.drop 64).take 8).length ≤ 256 ^ 8 :=
    Nat.pow_le_pow_right (by decide) width
  rw [Account.tokenAmount]
  omega

theorem spendAllowance_long {account : Account} (transfer : Transfer)
    (long : 165 ≤ account.data.length) : 121 ≤ (spendAllowance account transfer).data.length := by
  have same := congrArg List.length (spendAllowance_take account transfer le_rfl long)
  rw [List.length_take, List.length_take] at same
  omega

section Moved

variable {ledger : Ledger} {transfer : Transfer} {rt : Runtime} (valid : transfer.Valid rt ledger)
include valid

theorem moved_keeps : transfer.Keeps ledger (moved ledger transfer) := by
  by_cases self : transfer.source = transfer.destination
  · have same : moved ledger transfer = ledger := if_pos self
    rw [same]
    exact ⟨fun _ _ _ => rfl, fun _ => rfl, fun _ => rfl⟩
  · have same : moved ledger transfer = _ := if_neg self
    rw [same]
    refine ⟨fun key not_source not_destination => ?_, fun key => ?_, fun key => ?_⟩
    · rw [Ledger.write_of_ne not_destination, Ledger.write_of_ne not_source]
    · by_cases credited : key = transfer.destination
      · rw [credited, Ledger.write_self]
        rfl
      · rw [Ledger.write_of_ne credited]
        by_cases debited : key = transfer.source
        · rw [debited, Ledger.write_self, setAmount, spendAllowance]
          split <;> rfl
        · rw [Ledger.write_of_ne debited]
    · by_cases credited : key = transfer.destination
      · rw [credited, Ledger.write_self]
        have long := valid.destination.2.1
        exact setAmount_take _ _ (by omega)
      · rw [Ledger.write_of_ne credited]
        by_cases debited : key = transfer.source
        · rw [debited, Ledger.write_self]
          have long := valid.source.2.1
          have kept := spendAllowance_long transfer long
          exact (setAmount_take _ _ (by omega)).trans
            (spendAllowance_take _ transfer (by omega) long)
        · rw [Ledger.write_of_ne debited]

theorem moved_pays (apart : transfer.source ≠ transfer.destination) :
    (moved ledger transfer transfer.source).tokenAmount + transfer.amount.toNat =
        (ledger transfer.source).tokenAmount ∧
      (moved ledger transfer transfer.destination).tokenAmount =
        (ledger transfer.destination).tokenAmount + transfer.amount.toNat := by
  have same : moved ledger transfer = _ := if_neg apart
  have enough := valid.funds
  have bound := tokenAmount_lt (ledger transfer.source)
  constructor
  · have kept := spendAllowance_long transfer valid.source.2.1
    rw [same, Ledger.write_of_ne apart, Ledger.write_self, setAmount_amount _ (by omega) (by omega)]
    omega
  · have long := valid.destination.2.1
    rw [same, Ledger.write_self, setAmount_amount _ (valid.fits apart) (by omega)]

end Moved

instance (rt : Runtime) (ledger : Ledger) (transfer : Transfer) :
    Decidable (transfer.Valid rt ledger) :=
  decidable_of_iff (((ledger transfer.stedeMint).owner = Programs.token2022 ∧
      rt.unpacksAsMint (ledger transfer.stedeMint).data = true) ∧
    (ledger transfer.stedeMint).data[44]? = some transfer.decimals ∧
    (ledger transfer.source).HoldsTokens transfer.stedeMint ∧
    (ledger transfer.destination).HoldsTokens transfer.stedeMint ∧
    ((ledger transfer.source).tokenOwner = some transfer.authority.pubkey ∨
      (ledger transfer.source).Approves transfer.authority.pubkey transfer.amount) ∧
    transfer.amount.toNat ≤ (ledger transfer.source).tokenAmount ∧
    (transfer.source ≠ transfer.destination →
      (ledger transfer.destination).tokenAmount + transfer.amount.toNat < 2 ^ 64))
    ⟨fun ⟨mint, decimals, source, destination, authorised, funds, fits⟩ =>
      ⟨mint, decimals, source, destination, authorised, funds, fits⟩,
    fun ⟨mint, decimals, source, destination, authorised, funds, fits⟩ =>
      ⟨mint, decimals, source, destination, authorised, funds, fits⟩⟩

/-- Token-2022 on accounts without extensions, where the hook call leaves nothing to
undo. -/
def plain (rt : Runtime) : Token2022 rt where
  admits _ transfer := transfer.authority.signed rt = true
  move ledger transfer := do
    require (transfer.authority.signed rt) (.program .ownerMismatch)
    require (transfer.Valid rt ledger) (.program .invalidAccountData)
    return moved ledger transfer
  settle ledger _ := ledger
  move_valid ledger transfer next success := by
    simp only [bind_eq_ok, require_eq_ok, exists_const] at success
    exact ⟨success.2.1, success.1⟩
  move_complete ledger transfer signed valid _ := by
    refine ⟨moved ledger transfer, ?_⟩
    rw [require_of_true signed, ok_bind, require_of_true valid, ok_bind]
    rfl
  move_keeps ledger transfer next success := by
    simp only [bind_eq_ok, require_eq_ok, exists_const, pure, Except.pure, Except.ok.injEq] at success
    rw [← success.2.2]
    exact moved_keeps success.2.1
  move_self ledger transfer next success self := by
    simp only [bind_eq_ok, require_eq_ok, exists_const, pure, Except.pure, Except.ok.injEq] at success
    have same : moved ledger transfer = ledger := if_pos self
    rw [← success.2.2, same]
  move_pays ledger transfer next success apart := by
    simp only [bind_eq_ok, require_eq_ok, exists_const, pure, Except.pure, Except.ok.injEq] at success
    rw [← success.2.2]
    exact moved_pays success.2.1 apart
  settle_keeps _ _ := ⟨fun _ _ _ => rfl, fun _ => rfl, fun _ => rfl⟩
  settle_amount _ _ _ := rfl

end Token2022

end Stede
