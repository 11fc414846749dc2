import Mathlib
import Stede.Solana.Token

set_option autoImplicit false

/- What a successful token instruction does to balances, supplies and holdings. -/
namespace Stede.TokenLedger

variable {ledger next : TokenLedger}

/-- A new account is empty. -/
theorem update_of_absent {value : Pubkey → Nat} {key : Pubkey} (absent : value key = 0) :
    Function.update value key 0 = value := by
  rw [← absent, Function.update_eq_self]

theorem supply_of_none {key : Pubkey} (absent : ledger.mints key = none) : ledger.supply key = 0 := by
  simp only [supply, absent]

theorem balance_of_none {key : Pubkey} (absent : ledger.accounts key = none) :
    ledger.balance key = 0 := by
  simp only [balance, absent]

theorem balance_lt (ledger : TokenLedger) (key : Pubkey) : ledger.balance key < 2 ^ 64 := by
  unfold balance
  split
  · rename_i account _
    exact account.amount.toNat_lt
  · omega

theorem supply_lt (ledger : TokenLedger) (key : Pubkey) : ledger.supply key < 2 ^ 64 := by
  unfold supply
  split
  · rename_i terms _
    exact terms.supply.toNat_lt
  · omega

section InitializeMint

variable {key : Pubkey} {terms : Mint} (success : ledger.initializeMint key terms = .ok next)
include success

theorem initializeMint_extends : ledger.Extends next := by
  have ⟨⟨unused, _⟩, _, after⟩ := (initializeMint_eq_ok _ _ _ _).mp success
  rw [← after]
  apply putMint_extends
  intro old found
  rw [unused] at found
  cases found

theorem initializeMint_balance : next.balance = ledger.balance := by
  have ⟨_, _, after⟩ := (initializeMint_eq_ok _ _ _ _).mp success
  rw [← after, putMint_balance]

theorem initializeMint_supply : next.supply = ledger.supply := by
  have ⟨⟨unused, _⟩, _, after⟩ := (initializeMint_eq_ok _ _ _ _).mp success
  rw [← after, putMint_supply]
  exact update_of_absent (supply_of_none unused)

theorem initializeMint_issued (issued : ledger.Issued) : next.Issued := by
  have supply := initializeMint_supply success
  have ⟨_, _, after⟩ := (initializeMint_eq_ok _ _ _ _).mp success
  intro mint
  have bounded := issued mint
  rw [supply, ← after, putMint_holding]
  exact bounded

end InitializeMint

section InitializeAccount

variable {program key mint owner : Pubkey}
  (success : ledger.initializeAccount program key mint owner = .ok next)
include success

theorem initializeAccount_extends : ledger.Extends next := by
  have ⟨⟨_, unused⟩, terms, _, _, after⟩ := (initializeAccount_eq_ok _ _ _ _ _ _).mp success
  rw [← after]
  apply put_extends
  intro old found
  rw [unused] at found
  cases found

theorem initializeAccount_supply : next.supply = ledger.supply := by
  have ⟨_, terms, _, _, after⟩ := (initializeAccount_eq_ok _ _ _ _ _ _).mp success
  rw [← after, put_supply]

theorem initializeAccount_balance : next.balance = ledger.balance := by
  have ⟨⟨_, unused⟩, terms, _, _, after⟩ := (initializeAccount_eq_ok _ _ _ _ _ _).mp success
  rw [← after, put_balance]
  exact update_of_absent (balance_of_none unused)

theorem initializeAccount_issued (issued : ledger.Issued) : next.Issued := by
  have supply := initializeAccount_supply success
  have ⟨⟨_, unused⟩, terms, _, _, after⟩ := (initializeAccount_eq_ok _ _ _ _ _ _).mp success
  intro other
  have bounded := issued other
  rw [supply, ← after]
  by_cases here : mint = other
  · rw [put_holding_same _ _ _ other here]
    have empty : ledger.holding other key = 0 := by simp only [holding, unused]
    rw [show (0 : UInt64).toNat = 0 from rfl, update_of_absent empty]
    exact bounded
  · rw [put_holding_other here]
    · exact bounded
    · intro old found
      rw [unused] at found
      cases found

end InitializeAccount

section TransferChecked

variable {program source mint target authority : Pubkey} {amount : UInt64} {decimals : UInt8}
  {permitted : Bool}
  (success : ledger.transferChecked program source mint target authority amount decimals permitted =
    .ok next)
include success

theorem transferChecked_mints : next.mints = ledger.mints := by
  have ⟨_, _, _, _, _, _, _, _, _, _, _, _, moved⟩ := (transferChecked_eq_ok _ _ _ _ _ _ _ _ _ _).mp success
  rcases moved with ⟨_, after⟩ | ⟨_, received, _, after⟩
  · rw [← after]
  · rw [← after, put_mints, put_mints]

theorem transferChecked_supply : next.supply = ledger.supply := by
  funext key
  simp only [supply, transferChecked_mints success]

theorem transferChecked_extends : ledger.Extends next := by
  have ⟨sourceAccount, found, _, _, targetAccount, found', _, _, _, _, _, _, moved⟩ :=
    (transferChecked_eq_ok _ _ _ _ _ _ _ _ _ _).mp success
  rcases moved with ⟨_, after⟩ | ⟨apart, received, _, after⟩
  · rw [← after]
    exact .refl ledger
  · have debited : ledger.Extends
        (ledger.put source { sourceAccount with amount := sourceAccount.amount - amount }) := by
      apply put_extends
      intro old same
      rw [found, Option.some.injEq] at same
      rw [← same]
      exact ⟨rfl, rfl⟩
    rw [← after]
    apply debited.trans
    apply put_extends
    intro old same
    rw [put_accounts, Function.update_of_ne (Ne.symm apart), found', Option.some.injEq] at same
    rw [← same]
    exact ⟨rfl, rfl⟩

/-- The source pays the amount, the target gets what the fee leaves of it. -/
theorem transferChecked_balance (apart : source ≠ target) :
    ∃ terms, ledger.mints mint = some terms ∧ amount.toNat ≤ ledger.balance source ∧
      next.balance = Function.update (Function.update ledger.balance source
        (ledger.balance source - amount.toNat)) target
        (ledger.balance target + (amount - terms.fee amount).toNat) := by
  have ⟨sourceAccount, found, terms, known, targetAccount, found', _, funds, _, _, _, _, moved⟩ :=
    (transferChecked_eq_ok _ _ _ _ _ _ _ _ _ _).mp success
  rcases moved with ⟨same, _⟩ | ⟨_, received, total, after⟩
  · exact absurd same apart
  · refine ⟨terms, known, ?_, ?_⟩
    · rw [balance_of_some found]
      exact UInt64.le_iff_toNat_le.mp funds
    · rw [← after, put_balance, put_balance, balance_of_some found, balance_of_some found']
      simp only [total, UInt64.toNat_sub_of_le _ _ funds]

theorem transferChecked_other {key : Pubkey} (not_source : key ≠ source) (not_target : key ≠ target) :
    next.accounts key = ledger.accounts key := by
  have ⟨_, _, _, _, _, _, _, _, _, _, _, _, moved⟩ := (transferChecked_eq_ok _ _ _ _ _ _ _ _ _ _).mp success
  rcases moved with ⟨_, after⟩ | ⟨_, received, _, after⟩
  · rw [← after]
  · rw [← after, put_accounts, put_accounts, Function.update_of_ne not_target,
      Function.update_of_ne not_source]

theorem transferChecked_issued (issued : ledger.Issued) : next.Issued := by
  have supply := transferChecked_supply success
  have ⟨sourceAccount, found, terms, _, targetAccount, found', _, funds, mints, _, _, _, moved⟩ :=
    (transferChecked_eq_ok _ _ _ _ _ _ _ _ _ _).mp success
  rcases moved with ⟨_, after⟩ | ⟨apart, received, total, after⟩
  · rw [← after]
    exact issued
  · intro other
    have bounded := issued other
    rw [supply, ← after]
    by_cases here : mint = other
    · have paid := holding_of_some found
      have got := holding_of_some found'
      rw [mints.1, here] at paid
      rw [mints.2, here] at got
      rw [put_amount_holding (mints.2.trans here),
        put_amount_holding (mints.1.trans here)]
      rw [UInt64.toNat_sub_of_le _ _ funds, total, ← paid, ← got]
      apply bounded.move apart
      · rw [paid]
        exact UInt64.le_iff_toNat_le.mp funds
      · rw [terms.credit_toNat]
        exact Nat.sub_le _ _
    · rw [put_holding_other, put_holding_other]
      · exact bounded
      · exact fun same => here (mints.1.symm.trans same)
      · intro old same
        rw [found, Option.some.injEq] at same
        rw [← same]
      · exact fun same => here (mints.2.symm.trans same)
      · intro old same
        rw [put_accounts, Function.update_of_ne (Ne.symm apart), found', Option.some.injEq] at same
        rw [← same]

end TransferChecked

section MintTo

variable {program mint target authority : Pubkey} {amount : UInt64}
  (success : ledger.mintTo program mint target authority amount = .ok next)
include success

theorem mintTo_extends : ledger.Extends next := by
  have ⟨targetAccount, found, _, terms, known, _, _, received, _, supply, _, after⟩ :=
    (mintTo_eq_ok _ _ _ _ _ _ _).mp success
  have credited : ledger.Extends (ledger.put target { targetAccount with amount := received }) := by
    apply put_extends
    intro old same
    rw [found, Option.some.injEq] at same
    rw [← same]
    exact ⟨rfl, rfl⟩
  rw [← after]
  apply credited.trans
  apply putMint_extends
  intro old same
  rw [put_mints, known, Option.some.injEq] at same
  rw [← same]
  exact ⟨rfl, rfl, rfl, rfl, id⟩

theorem mintTo_balance : next.balance =
    Function.update ledger.balance target (ledger.balance target + amount.toNat) := by
  have ⟨targetAccount, found, _, terms, known, _, _, received, total, supply, _, after⟩ :=
    (mintTo_eq_ok _ _ _ _ _ _ _).mp success
  rw [← after, putMint_balance, put_balance, balance_of_some found, ← total]

theorem mintTo_supply :
    next.supply = Function.update ledger.supply mint (ledger.supply mint + amount.toNat) := by
  have ⟨targetAccount, found, _, terms, known, _, _, received, _, supply, total, after⟩ :=
    (mintTo_eq_ok _ _ _ _ _ _ _).mp success
  rw [← after, putMint_supply, put_supply, supply_of_some known, ← total]

theorem mintTo_issued (issued : ledger.Issued) : next.Issued := by
  have more := mintTo_supply success
  have ⟨targetAccount, found, mint_eq, terms, known, _, _, received, total, supply, _, after⟩ :=
    (mintTo_eq_ok _ _ _ _ _ _ _).mp success
  intro other
  have bounded := issued other
  by_cases here : mint = other
  · have got := holding_of_some found
    rw [mint_eq, here] at got
    rw [more, here, Function.update_self, ← after, putMint_holding,
      put_amount_holding (mint_eq.trans here)]
    rw [total, ← got]
    exact bounded.issue target amount.toNat
  · rw [more, Function.update_of_ne (Ne.symm here), ← after, putMint_holding, put_holding_other]
    · exact bounded
    · exact fun same => here (mint_eq.symm.trans same)
    · intro old same
      rw [found, Option.some.injEq] at same
      rw [← same]

end MintTo

section Burn

variable {program source mint authority : Pubkey} {amount : UInt64}
  (success : ledger.burn program source mint authority amount = .ok next)
include success

theorem burn_extends : ledger.Extends next := by
  have ⟨sourceAccount, found, terms, known, _, _, _, _, supply, _, after⟩ :=
    (burn_eq_ok _ _ _ _ _ _ _).mp success
  have debited : ledger.Extends
      (ledger.put source { sourceAccount with amount := sourceAccount.amount - amount }) := by
    apply put_extends
    intro old same
    rw [found, Option.some.injEq] at same
    rw [← same]
    exact ⟨rfl, rfl⟩
  rw [← after]
  apply debited.trans
  apply putMint_extends
  intro old same
  rw [put_mints, known, Option.some.injEq] at same
  rw [← same]
  exact ⟨rfl, rfl, rfl, rfl, id⟩

theorem burn_balance : amount.toNat ≤ ledger.balance source ∧
    next.balance = Function.update ledger.balance source (ledger.balance source - amount.toNat) := by
  have ⟨sourceAccount, found, terms, known, _, funds, _, _, supply, _, after⟩ :=
    (burn_eq_ok _ _ _ _ _ _ _).mp success
  rw [← after, putMint_balance, put_balance, balance_of_some found,
    UInt64.toNat_sub_of_le _ _ funds]
  exact ⟨UInt64.le_iff_toNat_le.mp funds, rfl⟩

theorem burn_supply : amount.toNat ≤ ledger.supply mint ∧
    next.supply = Function.update ledger.supply mint (ledger.supply mint - amount.toNat) := by
  have ⟨sourceAccount, found, terms, known, _, _, _, _, supply, total, after⟩ :=
    (burn_eq_ok _ _ _ _ _ _ _).mp success
  have less : supply.toNat = terms.supply.toNat - amount.toNat := by omega
  rw [← after, putMint_supply, put_supply, supply_of_some known, ← less]
  exact ⟨by omega, rfl⟩

theorem burn_other {key : Pubkey} (not_source : key ≠ source) :
    next.accounts key = ledger.accounts key := by
  have ⟨_, _, _, _, _, _, _, _, _, _, after⟩ := (burn_eq_ok _ _ _ _ _ _ _).mp success
  rw [← after, putMint_accounts, put_accounts, Function.update_of_ne not_source]

theorem burn_issued (issued : ledger.Issued) : next.Issued := by
  have ⟨_, less⟩ := burn_supply success
  have ⟨sourceAccount, found, terms, known, _, funds, mint_eq, _, supply, total, after⟩ :=
    (burn_eq_ok _ _ _ _ _ _ _).mp success
  intro other
  have bounded := issued other
  by_cases here : mint = other
  · have paid := holding_of_some found
    rw [mint_eq, here] at paid
    rw [less, here, Function.update_self, ← after, putMint_holding,
      put_amount_holding (mint_eq.trans here)]
    rw [UInt64.toNat_sub_of_le _ _ funds, ← paid]
    apply bounded.retire
    rw [paid]
    exact UInt64.le_iff_toNat_le.mp funds
  · rw [less, Function.update_of_ne (Ne.symm here), ← after, putMint_holding, put_holding_other]
    · exact bounded
    · exact fun same => here (mint_eq.symm.trans same)
    · intro old same
      rw [found, Option.some.injEq] at same
      rw [← same]

end Burn

section SetTransferFee

variable {mint : Pubkey} {fee : TransferFee} (success : ledger.setTransferFee mint fee = .ok next)
include success

theorem setTransferFee_extends : ledger.Extends next := by
  have ⟨terms, known, charging, after⟩ := (setTransferFee_eq_ok _ _ _ _).mp success
  rw [← after]
  apply putMint_extends
  intro old same
  rw [known, Option.some.injEq] at same
  rw [← same]
  refine ⟨rfl, rfl, rfl, rfl, ?_⟩
  intro feeless
  rw [feeless] at charging
  cases charging

theorem setTransferFee_balance : next.balance = ledger.balance := by
  have ⟨terms, _, _, after⟩ := (setTransferFee_eq_ok _ _ _ _).mp success
  rw [← after, putMint_balance]

theorem setTransferFee_supply : next.supply = ledger.supply := by
  have ⟨terms, known, _, after⟩ := (setTransferFee_eq_ok _ _ _ _).mp success
  rw [← after, putMint_supply]
  show Function.update ledger.supply mint terms.supply.toNat = ledger.supply
  rw [← supply_of_some known, Function.update_eq_self]

theorem setTransferFee_issued (issued : ledger.Issued) : next.Issued := by
  have supply := setTransferFee_supply success
  have ⟨terms, _, _, after⟩ := (setTransferFee_eq_ok _ _ _ _).mp success
  intro other
  have bounded := issued other
  rw [supply, ← after, putMint_holding]
  exact bounded

end SetTransferFee

end Stede.TokenLedger
