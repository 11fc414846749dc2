import Mathlib
import Stede.Lib.Custody
import Stede.Lib.Run
import Stede.Solana.TokenEffects
import Stede.StedeVault.Vault

set_option autoImplicit false

/- How a vault is tied to its mints and its token account, and what every
instruction enters in its books. -/
namespace Stede.StedeVault

open Custody

/-- A vault lies at its derived address, owns its token account and is the
authority of its Stede mint. -/
structure Wired (rt : Runtime) (ledger : TokenLedger) (key : Pubkey) (vault : Vault) : Prop where
  derived : (key, vault.bump) = Vault.pda rt vault.underlyingMint
  underlying : ∃ terms, ledger.mints vault.underlyingMint = some terms ∧
    (terms.program = Programs.token ∨ terms.program = Programs.token2022)
  held : ∃ account, ledger.accounts vault.tokenVault = some account ∧
    account.mint = vault.underlyingMint ∧ account.owner = key
  issued : ∃ terms, ledger.mints vault.stedeMint = some terms ∧
    terms.program = Programs.token2022 ∧ terms.mintAuthority = some key ∧ terms.guarded = true

def WellWired (rt : Runtime) (state : State) : Prop :=
  ∀ key vault, state.vaults key = some vault → Wired rt state.ledger key vault

section Wired

variable {rt : Runtime} {ledger : TokenLedger} {key : Pubkey} {vault : Vault}
  (wired : Wired rt ledger key vault)
include wired

theorem Wired.mono {after : TokenLedger} (extended : ledger.Extends after) :
    Wired rt after key vault where
  derived := wired.derived
  underlying := by
    have ⟨terms, known, program⟩ := wired.underlying
    have ⟨terms', known', same⟩ := extended.mints _ _ known
    refine ⟨terms', known', ?_⟩
    rw [same.program]
    exact program
  held := by
    have ⟨account, found, mint, owner⟩ := wired.held
    have ⟨account', found', mint', owner'⟩ := extended.accounts _ _ found
    exact ⟨account', found', mint'.trans mint, owner'.trans owner⟩
  issued := by
    have ⟨terms, known, program, authority, guarded⟩ := wired.issued
    have ⟨terms', known', same⟩ := extended.mints _ _ known
    exact ⟨terms', known', same.program.trans program, same.mintAuthority.trans authority,
      same.guarded.trans guarded⟩

/-- The wiring does not depend on the accounting. -/
theorem Wired.update (lockedAmount : UInt64) (paused : Bool) :
    Wired rt ledger key { vault with lockedAmount := lockedAmount, paused := paused } :=
  ⟨wired.derived, wired.underlying, wired.held, wired.issued⟩

/-- A vault is a derived address: nobody signs as one. -/
theorem Wired.not_signed {signer : AccountMeta} (signed : signer.signed rt = true) :
    signer.pubkey ≠ key := by
  intro same
  have address : key = (Vault.pda rt vault.underlyingMint).1 := congrArg Prod.fst wired.derived
  have silent : rt.canSign key = false := by
    rw [address]
    exact rt.pda_cannot_sign _ (by simp [Programs.workspace]) _
  simp only [AccountMeta.signed, same, silent, Bool.and_false] at signed
  cases signed

/-- So an account that a signer owns is not the vault's. -/
theorem Wired.ne_of_owner {signer : AccountMeta} (signed : signer.signed rt = true) {other : Pubkey}
    {account : TokenAccount} (found : ledger.accounts other = some account)
    (owner : account.owner = signer.pubkey) : other ≠ vault.tokenVault := by
  intro same
  have ⟨account', found', _, owner'⟩ := wired.held
  rw [same, found', Option.some.injEq] at found
  rw [found] at owner'
  exact wired.not_signed signed (owner.symm.trans owner')

/-- And a signer is not the authority of its Stede mint. -/
theorem Wired.ne_of_authority {signer : AccountMeta} (signed : signer.signed rt = true)
    {mint : Pubkey} {terms : Mint} (known : ledger.mints mint = some terms)
    (authority : terms.mintAuthority = some signer.pubkey) : mint ≠ vault.stedeMint := by
  intro same
  have ⟨terms', known', _, authority', _⟩ := wired.issued
  rw [same, known', Option.some.injEq] at known
  rw [known, authority, Option.some.injEq] at authority'
  exact wired.not_signed signed authority'

theorem Wired.tokenVault_ne {other : Pubkey} {vault' : Vault} (wired' : Wired rt ledger other vault')
    (apart : key ≠ other) : vault.tokenVault ≠ vault'.tokenVault := by
  intro same
  have ⟨account, found, _, owner⟩ := wired.held
  have ⟨account', found', _, owner'⟩ := wired'.held
  rw [← same, found, Option.some.injEq] at found'
  rw [← found', owner] at owner'
  exact apart owner'

theorem Wired.stedeMint_ne {other : Pubkey} {vault' : Vault} (wired' : Wired rt ledger other vault')
    (apart : key ≠ other) : vault.stedeMint ≠ vault'.stedeMint := by
  intro same
  have ⟨terms, known, _, authority, _⟩ := wired.issued
  have ⟨terms', known', _, authority', _⟩ := wired'.issued
  rw [← same, known, Option.some.injEq] at known'
  rw [← known', authority, Option.some.injEq] at authority'
  exact apart authority'

end Wired

/-- The three numbers of a vault. -/
def books (ledger : TokenLedger) (vault : Vault) : Books where
  balance := ledger.balance vault.tokenVault
  locked := vault.lockedAmount.toNat
  supply := ledger.supply vault.stedeMint

/-- What the fee in force withholds of `amount`. -/
def feeOf (ledger : TokenLedger) (mint : Pubkey) (amount : UInt64) : Nat :=
  match ledger.mints mint with
  | some terms => (terms.fee amount).toNat
  | none => 0

theorem feeOf_of_some {ledger : TokenLedger} {mint : Pubkey} {terms : Mint}
    (known : ledger.mints mint = some terms) (amount : UInt64) :
    feeOf ledger mint amount = (terms.fee amount).toNat := by
  simp only [feeOf, known]

/-- What an instruction enters in the books of the vault at `key`. -/
def entryOf (ledger : TokenLedger) (key : Pubkey) (vault : Vault) : Instruction → Entry
  | .wrap accounts amount _ =>
      if accounts.vault = key then .deposit amount.toNat (feeOf ledger vault.underlyingMint amount)
      else .idle
  | .unwrap accounts amount _ => if accounts.vault = key then .redeem amount.toNat else .idle
  | .transferChecked _ _ mint target _ amount _ _ =>
      if target = vault.tokenVault then .donate (amount.toNat - feeOf ledger mint amount) else .idle
  | .mintTo _ _ target _ amount =>
      if target = vault.tokenVault then .donate amount.toNat else .idle
  | .burn _ _ mint _ amount => if mint = vault.stedeMint then .forfeit amount.toNat else .idle
  | _ => .idle

theorem direct_effect {rt : Runtime} {state next : State} {signer : AccountMeta}
    {outcome : Except Error TokenLedger} (success : state.direct rt signer outcome = .ok next) :
    signer.signed rt = true ∧ outcome = .ok next.ledger ∧ next.vaults = state.vaults := by
  have ⟨signed, ledger, done, same⟩ := (direct_eq_ok _ _ _ _ _).mp success
  rw [← same]
  exact ⟨signed, done, rfl⟩

/-- No instruction rewires a mint or a token account. -/
theorem step_extends {rt : Runtime} {state next : State} {instruction : Instruction}
    (success : step rt state instruction = .ok next) : state.ledger.Extends next.ledger := by
  cases instruction with
  | initializeVault accounts =>
      obtain ⟨_, _, _, _, _, _, opened, account, _, _, _, ledger, minted, same⟩ :=
        (initializeVault_eq_ok _ _ _ _).mp success
      rw [← same]
      exact (TokenLedger.initializeAccount_extends account).trans
        (TokenLedger.initializeMint_extends minted)
  | wrap accounts amount permitted =>
      obtain ⟨_, _, _, _, _, _, _, _, moved, transfer, ledger, minted, _, _, same⟩ :=
        (wrap_eq_ok _ _ _ _ _ _).mp success
      rw [← same]
      exact (TokenLedger.transferChecked_extends transfer).trans (TokenLedger.mintTo_extends minted)
  | unwrap accounts amount permitted =>
      obtain ⟨_, _, _, _, _, _, _, _, _, burned, burn, ledger, transfer, _, _, same⟩ :=
        (unwrap_eq_ok _ _ _ _ _ _).mp success
      rw [← same]
      exact (TokenLedger.burn_extends burn).trans (TokenLedger.transferChecked_extends transfer)
  | setPaused accounts paused =>
      obtain ⟨_, _, _, _, _, same⟩ := (setPaused_eq_ok _ _ _ _ _).mp success
      rw [← same]
      exact .refl state.ledger
  | transferChecked program source mint target authority amount decimals permitted =>
      exact TokenLedger.transferChecked_extends (direct_effect success).2.1
  | mintTo program mint target authority amount =>
      exact TokenLedger.mintTo_extends (direct_effect success).2.1
  | burn program source mint authority amount =>
      exact TokenLedger.burn_extends (direct_effect success).2.1
  | initializeMint key mint => exact TokenLedger.initializeMint_extends (direct_effect success).2.1
  | initializeAccount program key mint owner =>
      exact TokenLedger.initializeAccount_extends (direct_effect success).2.1
  | setTransferFee mint fee =>
      simp only [step, bind_eq_ok, pure, Except.pure, Except.ok.injEq] at success
      obtain ⟨ledger, changed, same⟩ := success
      rw [← same]
      exact TokenLedger.setTransferFee_extends changed

/-- The vault at `key` stays, and its books take exactly the instruction's entry. -/
def Posted (state next : State) (key : Pubkey) (vault : Vault) (entry : Entry) : Prop :=
  ∃ lockedAmount paused,
    next.vaults key = some { vault with lockedAmount := lockedAmount, paused := paused } ∧
    (books state.ledger vault).post entry =
      some (books next.ledger { vault with lockedAmount := lockedAmount, paused := paused })

section Posting

variable {rt : Runtime} {state next : State} {key : Pubkey} {vault : Vault}

theorem posted_of_same (same : next.vaults key = some vault) {entry : Entry}
    (post : (books state.ledger vault).post entry = some (books next.ledger vault)) :
    Posted state next key vault entry :=
  ⟨vault.lockedAmount, vault.paused, same, post⟩

/-- Nothing entered, nothing changed. -/
theorem posted_idle (same : next.vaults key = some vault)
    (balance : next.ledger.balance vault.tokenVault = state.ledger.balance vault.tokenVault)
    (supply : next.ledger.supply vault.stedeMint = state.ledger.supply vault.stedeMint) :
    Posted state next key vault .idle := by
  apply posted_of_same same
  simp only [Books.post, books, balance, supply]

theorem putVault_other {ledger : TokenLedger} {here : Pubkey} {vault' : Vault} (apart : here ≠ key)
    (found : state.vaults key = some vault) :
    (State.putVault ⟨ledger, state.vaults⟩ here vault').vaults key = some vault := by
  show Function.update state.vaults here (some vault') key = some vault
  rw [Function.update_of_ne (Ne.symm apart)]
  exact found

theorem putVault_self {ledger : TokenLedger} {vault' : Vault} :
    (State.putVault ⟨ledger, state.vaults⟩ key vault').vaults key = some vault' :=
  Function.update_self ..

variable (found : state.vaults key = some vault)
include found

theorem setPaused_posted {accounts : SetPaused} {paused : Bool}
    (success : setPaused rt state accounts paused = .ok next) :
    Posted state next key vault .idle := by
  have ⟨_, own, here, _, _, same⟩ := (setPaused_eq_ok _ _ _ _ _).mp success
  rw [← same]
  by_cases mine : accounts.vault = key
  · rw [← mine, here, Option.some.injEq] at found
    subst found
    refine ⟨own.lockedAmount, paused, ?_, rfl⟩
    rw [← mine]
    exact putVault_self
  · exact posted_idle (putVault_other mine found) rfl rfl

theorem initializeVault_posted {accounts : InitializeVault}
    (success : initializeVault rt state accounts = .ok next) :
    Posted state next key vault .idle := by
  have ⟨_, _, _, _, unused, _, opened, account, _, _, _, ledger, minted, same⟩ :=
    (initializeVault_eq_ok _ _ _ _).mp success
  have apart : accounts.vault ≠ key := by
    intro same_key
    rw [same_key, found] at unused
    cases unused.1
  rw [← same]
  apply posted_idle (putVault_other apart found)
  · show ledger.balance vault.tokenVault = state.ledger.balance vault.tokenVault
    rw [TokenLedger.initializeMint_balance minted, TokenLedger.initializeAccount_balance account]
  · show ledger.supply vault.stedeMint = state.ledger.supply vault.stedeMint
    rw [TokenLedger.initializeMint_supply minted, TokenLedger.initializeAccount_supply account]

variable (wired : WellWired rt state)
include wired

theorem wrap_posted {accounts : WrapAccounts} {amount : UInt64} {permitted : Bool}
    (success : wrap rt state accounts amount permitted = .ok next) :
    Posted state next key vault (entryOf state.ledger key vault (.wrap accounts amount permitted)) := by
  have ⟨own, underlyingMint, stedeMint, checked, underlyingAta, stedeAta, _, _, moved, transfer,
    ledger, minted, lockedAmount, total, same⟩ := (wrap_eq_ok _ _ _ _ _ _).mp success
  have ⟨pays, here, known, _, _, _, _, _, underlying, stede, vault_eq⟩ :=
    (tryVault_eq_ok _ _ _ _ _ _).mp checked
  have signed := AccountMeta.signed_of_pays pays
  have ⟨source, paying, sourceOwner, _⟩ := (tryUnderlyingAta_eq_ok _ _ _).mp underlyingAta
  have ⟨target, receiving, targetOwner, _⟩ := (tryStedeAta_eq_ok _ _ _ _).mp stedeAta
  have wired_own := wired _ _ here
  have wired_key := wired _ _ found
  have apart : accounts.userUnderlyingAta ≠ accounts.tokenVault := by
    rw [← vault_eq]
    exact wired_own.ne_of_owner signed paying sourceOwner
  have ⟨terms, known', funds, balance⟩ := TokenLedger.transferChecked_balance transfer apart
  have balance' := TokenLedger.mintTo_balance minted
  have supply := TokenLedger.transferChecked_supply transfer
  have supply' := TokenLedger.mintTo_supply minted
  have not_paying := wired_key.ne_of_owner signed paying sourceOwner
  have not_receiving := wired_key.ne_of_owner signed receiving targetOwner
  by_cases mine : accounts.vault = key
  · rw [← mine, here, Option.some.injEq] at found
    subst found
    have fee_less := terms.fee_le amount
    have less : (terms.fee amount).toNat ≤ amount.toNat := UInt64.le_iff_toNat_le.mp fee_less
    refine ⟨lockedAmount, own.paused, ?_, ?_⟩
    · rw [← same, ← mine]
      exact putVault_self
    · have after : books next.ledger { own with lockedAmount := lockedAmount, paused := own.paused } =
          ⟨state.ledger.balance own.tokenVault + (amount.toNat - (terms.fee amount).toNat),
            own.lockedAmount.toNat + amount.toNat, state.ledger.supply own.stedeMint + amount.toNat⟩ := by
        rw [← same]
        simp only [books, State.putVault, total, Books.mk.injEq, true_and]
        constructor
        · rw [balance', Function.update_of_ne (Ne.symm not_receiving), balance, vault_eq,
            Function.update_self, terms.credit_toNat]
        · rw [supply', supply, stede, Function.update_self]
      rw [after]
      simp only [entryOf, mine, ↓reduceIte, Books.post, underlying, feeOf_of_some known', less, books]
  · have wired_apart := wired_own.tokenVault_ne wired_key mine
    have mint_apart := wired_own.stedeMint_ne wired_key mine
    rw [vault_eq] at wired_apart
    rw [stede] at mint_apart
    have idle : entryOf state.ledger key vault (.wrap accounts amount permitted) = .idle := by
      simp only [entryOf, mine, ↓reduceIte]
    rw [idle, ← same]
    apply posted_idle (putVault_other mine found)
    · show ledger.balance vault.tokenVault = state.ledger.balance vault.tokenVault
      rw [balance', Function.update_of_ne (Ne.symm not_receiving), balance,
        Function.update_of_ne (Ne.symm wired_apart), Function.update_of_ne (Ne.symm not_paying)]
    · show ledger.supply vault.stedeMint = state.ledger.supply vault.stedeMint
      rw [supply', Function.update_of_ne (Ne.symm mint_apart), supply]

theorem unwrap_posted {accounts : WrapAccounts} {amount : UInt64} {permitted : Bool}
    (success : unwrap rt state accounts amount permitted = .ok next) :
    Posted state next key vault (entryOf state.ledger key vault (.unwrap accounts amount permitted)) := by
  have ⟨own, underlyingMint, stedeMint, checked, stedeAta, underlyingAta, _, _, enough, burned, burn,
    ledger, transfer, lockedAmount, total, same⟩ := (unwrap_eq_ok _ _ _ _ _ _).mp success
  have ⟨pays, here, known, _, _, _, _, _, underlying, stede, vault_eq⟩ :=
    (tryVault_eq_ok _ _ _ _ _ _).mp checked
  have signed := AccountMeta.signed_of_pays pays
  have ⟨source, paying, sourceOwner, _⟩ := (tryStedeAta_eq_ok _ _ _ _).mp stedeAta
  have ⟨target, receiving, targetOwner, _⟩ := (tryUnderlyingAta_eq_ok _ _ _).mp underlyingAta
  have wired_own := wired _ _ here
  have wired_key := wired _ _ found
  have apart : accounts.tokenVault ≠ accounts.userUnderlyingAta := by
    rw [← vault_eq]
    exact (wired_own.ne_of_owner signed receiving targetOwner).symm
  have ⟨funds, balance⟩ := TokenLedger.burn_balance burn
  have ⟨_, _, funds', balance'⟩ := TokenLedger.transferChecked_balance transfer apart
  have ⟨issued, supply⟩ := TokenLedger.burn_supply burn
  have supply' := TokenLedger.transferChecked_supply transfer
  have not_paying := wired_key.ne_of_owner signed paying sourceOwner
  have not_receiving := wired_key.ne_of_owner signed receiving targetOwner
  by_cases mine : accounts.vault = key
  · rw [← mine, here, Option.some.injEq] at found
    subst found
    have in_vault : burned.balance own.tokenVault = state.ledger.balance own.tokenVault := by
      rw [balance, Function.update_of_ne (Ne.symm not_paying)]
    have locked : lockedAmount.toNat = own.lockedAmount.toNat - amount.toNat := by omega
    refine ⟨lockedAmount, own.paused, ?_, ?_⟩
    · rw [← same, ← mine]
      exact putVault_self
    · have after : books next.ledger { own with lockedAmount := lockedAmount, paused := own.paused } =
          ⟨state.ledger.balance own.tokenVault - amount.toNat,
            own.lockedAmount.toNat - amount.toNat, state.ledger.supply own.stedeMint - amount.toNat⟩ := by
        rw [← same]
        simp only [books, State.putVault, locked, Books.mk.injEq, true_and]
        constructor
        · rw [balance', Function.update_of_ne (Ne.symm not_receiving), ← vault_eq,
            Function.update_self, in_vault]
        · rw [supply', supply, stede, Function.update_self]
      have enough' : amount.toNat ≤ own.lockedAmount.toNat := UInt64.le_iff_toNat_le.mp enough
      rw [← vault_eq, in_vault] at funds'
      rw [← stede] at issued
      rw [after]
      simp only [entryOf, mine, ↓reduceIte, Books.post, books, funds', enough', issued, and_self]
  · have wired_apart := wired_own.tokenVault_ne wired_key mine
    have mint_apart := wired_own.stedeMint_ne wired_key mine
    rw [vault_eq] at wired_apart
    rw [stede] at mint_apart
    have idle : entryOf state.ledger key vault (.unwrap accounts amount permitted) = .idle := by
      simp only [entryOf, mine, ↓reduceIte]
    rw [idle, ← same]
    apply posted_idle (putVault_other mine found)
    · show ledger.balance vault.tokenVault = state.ledger.balance vault.tokenVault
      rw [balance', Function.update_of_ne (Ne.symm not_receiving),
        Function.update_of_ne (Ne.symm wired_apart), balance, Function.update_of_ne (Ne.symm not_paying)]
    · show ledger.supply vault.stedeMint = state.ledger.supply vault.stedeMint
      rw [supply', supply, Function.update_of_ne (Ne.symm mint_apart)]

theorem transferChecked_posted {program source mint target : Pubkey} {authority : AccountMeta}
    {amount : UInt64} {decimals : UInt8} {permitted : Bool}
    (success : state.direct rt authority (state.ledger.transferChecked program source mint target
      authority.pubkey amount decimals permitted) = .ok next) :
    Posted state next key vault (entryOf state.ledger key vault
      (.transferChecked program source mint target authority amount decimals permitted)) := by
  obtain ⟨signed, transfer, vaults⟩ := direct_effect success
  obtain ⟨paying, paid, _, _, _, _, _, _, _, _, owner, _, _⟩ :=
    (TokenLedger.transferChecked_eq_ok _ _ _ _ _ _ _ _ _ _).mp transfer
  have supply := TokenLedger.transferChecked_supply transfer
  have not_paying := (wired _ _ found).ne_of_owner signed paid owner
  rw [← vaults] at found
  by_cases into : target = vault.tokenVault
  · have apart : source ≠ target := by
      rw [into]
      exact not_paying
    obtain ⟨terms, known, _, balance⟩ := TokenLedger.transferChecked_balance transfer apart
    apply posted_of_same found
    simp only [entryOf, into, ↓reduceIte, Books.post, books, balance, supply, Function.update_self,
      feeOf_of_some known, terms.credit_toNat]
  · have idle : entryOf state.ledger key vault
        (.transferChecked program source mint target authority amount decimals permitted) = .idle := by
      simp only [entryOf, into, ↓reduceIte]
    rw [idle]
    apply posted_idle found
    · by_cases itself : source = target
      · obtain ⟨_, _, _, _, _, _, _, _, _, _, _, _, moved⟩ :=
          (TokenLedger.transferChecked_eq_ok _ _ _ _ _ _ _ _ _ _).mp transfer
        rcases moved with ⟨_, same⟩ | ⟨apart, _⟩
        · rw [← same]
        · exact absurd itself apart
      · obtain ⟨_, _, _, balance⟩ := TokenLedger.transferChecked_balance transfer itself
        rw [balance, Function.update_of_ne (Ne.symm into), Function.update_of_ne (Ne.symm not_paying)]
    · rw [supply]

theorem mintTo_posted {program mint target : Pubkey} {authority : AccountMeta} {amount : UInt64}
    (success : state.direct rt authority (state.ledger.mintTo program mint target authority.pubkey
      amount) = .ok next) :
    Posted state next key vault
      (entryOf state.ledger key vault (.mintTo program mint target authority amount)) := by
  have ⟨signed, minted, vaults⟩ := direct_effect success
  have ⟨_, _, _, _, known, _, authority', _, _, _, _, _⟩ :=
    (TokenLedger.mintTo_eq_ok _ _ _ _ _ _ _).mp minted
  have balance := TokenLedger.mintTo_balance minted
  have supply := TokenLedger.mintTo_supply minted
  have not_stede := (wired _ _ found).ne_of_authority signed known authority'
  rw [← vaults] at found
  by_cases into : target = vault.tokenVault
  · apply posted_of_same found
    simp only [entryOf, into, ↓reduceIte, Books.post, books, balance, supply, Function.update_self,
      Function.update_of_ne (Ne.symm not_stede)]
  · simp only [entryOf, into, ↓reduceIte]
    apply posted_idle found
    · rw [balance, Function.update_of_ne (Ne.symm into)]
    · rw [supply, Function.update_of_ne (Ne.symm not_stede)]

theorem burn_posted {program source mint : Pubkey} {authority : AccountMeta} {amount : UInt64}
    (success : state.direct rt authority (state.ledger.burn program source mint authority.pubkey
      amount) = .ok next) :
    Posted state next key vault
      (entryOf state.ledger key vault (.burn program source mint authority amount)) := by
  have ⟨signed, burn, vaults⟩ := direct_effect success
  have ⟨_, paid, _, _, _, _, _, owner, _, _, _⟩ := (TokenLedger.burn_eq_ok _ _ _ _ _ _ _).mp burn
  have ⟨_, balance⟩ := TokenLedger.burn_balance burn
  have ⟨issued, supply⟩ := TokenLedger.burn_supply burn
  have not_paying := (wired _ _ found).ne_of_owner signed paid owner
  rw [← vaults] at found
  by_cases stede : mint = vault.stedeMint
  · rw [stede] at issued
    apply posted_of_same found
    simp only [entryOf, stede, ↓reduceIte, Books.post, books, balance, supply, Function.update_self,
      Function.update_of_ne (Ne.symm not_paying), issued]
  · simp only [entryOf, stede, ↓reduceIte]
    apply posted_idle found
    · rw [balance, Function.update_of_ne (Ne.symm not_paying)]
    · rw [supply, Function.update_of_ne (Ne.symm stede)]

/-- The refinement: whatever succeeds, the books of every vault take exactly the
entry of the instruction. -/
theorem step_posted {instruction : Instruction} (success : step rt state instruction = .ok next) :
    Posted state next key vault (entryOf state.ledger key vault instruction) := by
  cases instruction with
  | initializeVault accounts => exact initializeVault_posted found success
  | wrap accounts amount permitted => exact wrap_posted found wired success
  | unwrap accounts amount permitted => exact unwrap_posted found wired success
  | setPaused accounts paused => exact setPaused_posted found success
  | transferChecked program source mint target authority amount decimals permitted =>
      exact transferChecked_posted found wired success
  | mintTo program mint target authority amount => exact mintTo_posted found wired success
  | burn program source mint authority amount => exact burn_posted found wired success
  | initializeMint key mint =>
      obtain ⟨_, minted, vaults⟩ := direct_effect success
      rw [← vaults] at found
      apply posted_idle found
      · rw [TokenLedger.initializeMint_balance minted]
      · rw [TokenLedger.initializeMint_supply minted]
  | initializeAccount program key mint owner =>
      obtain ⟨_, opened, vaults⟩ := direct_effect success
      rw [← vaults] at found
      apply posted_idle found
      · rw [TokenLedger.initializeAccount_balance opened]
      · rw [TokenLedger.initializeAccount_supply opened]
  | setTransferFee mint fee =>
      simp only [step, bind_eq_ok, pure, Except.pure, Except.ok.injEq] at success
      obtain ⟨ledger, changed, same⟩ := success
      rw [← same]
      have kept : (State.mk ledger state.vaults).vaults key = some vault := found
      apply posted_idle kept
      · show ledger.balance vault.tokenVault = state.ledger.balance vault.tokenVault
        rw [TokenLedger.setTransferFee_balance changed]
      · show ledger.supply vault.stedeMint = state.ledger.supply vault.stedeMint
        rw [TokenLedger.setTransferFee_supply changed]

end Posting

section NewVaults

variable {rt : Runtime} {state next : State} {key : Pubkey} {vault : Vault}

theorem putVault_cases {ledger : TokenLedger} {here : Pubkey} {vault' : Vault}
    (found : (State.putVault ⟨ledger, state.vaults⟩ here vault').vaults key = some vault) :
    here = key ∧ vault' = vault ∨ state.vaults key = some vault := by
  by_cases mine : here = key
  · rw [mine, putVault_self, Option.some.injEq] at found
    exact Or.inl ⟨mine, found⟩
  · have kept : (State.putVault ⟨ledger, state.vaults⟩ here vault').vaults key = state.vaults key :=
      Function.update_of_ne (Ne.symm mine) _ _
    exact Or.inr (kept ▸ found)

/-- Only `initialize_vault` makes a vault, and it makes a wired one with empty books. -/
theorem initializeVault_new {accounts : InitializeVault} (absent : state.vaults key = none)
    (success : initializeVault rt state accounts = .ok next) (found : next.vaults key = some vault) :
    vault.underlyingMint = accounts.underlyingMint ∧ Wired rt next.ledger key vault ∧
      books next.ledger vault = .empty := by
  have ⟨_, terms, known, address, _, _, opened, account, token2022, program, _, ledger, minted, same⟩ :=
    (initializeVault_eq_ok _ _ _ _).mp success
  rw [← same] at found
  rcases putVault_cases found with ⟨mine, fresh⟩ | old
  · have ⟨unused, terms', known', program', opened'⟩ :=
      (TokenLedger.initializeAccount_eq_ok _ _ _ _ _ _).mp account
    have ⟨unused', _, minted'⟩ := (TokenLedger.initializeMint_eq_ok _ _ _ _).mp minted
    have extended := TokenLedger.initializeMint_extends minted
    have held : opened.accounts accounts.tokenVault.pubkey =
        some ⟨accounts.underlyingMint, accounts.vault, 0⟩ := by
      rw [← opened', TokenLedger.put_accounts, Function.update_self]
    have held' : ledger.accounts accounts.tokenVault.pubkey =
        some ⟨accounts.underlyingMint, accounts.vault, 0⟩ := by
      rw [← minted', TokenLedger.putMint_accounts]
      exact held
    have issued : ledger.mints accounts.stedeMint.pubkey =
        some ⟨accounts.tokenProgram, terms.decimals, 0, some accounts.vault, none, true⟩ := by
      rw [← minted', TokenLedger.putMint_mints, Function.update_self]
    rw [known, Option.some.injEq] at known'
    have ⟨terms'', known'', same_terms⟩ := extended.mints accounts.underlyingMint terms (by
      rw [← opened', TokenLedger.put_mints]
      exact known)
    rw [← same, ← fresh]
    refine ⟨rfl, ⟨?_, ⟨terms'', known'', ?_⟩, ⟨_, held', rfl, mine⟩, ⟨_, issued, token2022, ?_, rfl⟩⟩, ?_⟩
    · rw [← mine, address]
    · rw [same_terms.program, known', program']
      exact program
    · rw [mine]
    · show Books.mk (ledger.balance accounts.tokenVault.pubkey) (0 : UInt64).toNat
        (ledger.supply accounts.stedeMint.pubkey) = .empty
      rw [TokenLedger.balance_of_some held', TokenLedger.supply_of_some issued]
      rfl
  · rw [absent] at old
    cases old

/-- A vault that a step makes is one that `initialize_vault` makes. -/
theorem step_new {instruction : Instruction} (absent : state.vaults key = none)
    (success : step rt state instruction = .ok next) (found : next.vaults key = some vault) :
    ∃ accounts, instruction = .initializeVault accounts ∧
      initializeVault rt state accounts = .ok next := by
  have same_vaults : next.vaults key = state.vaults key → False := by
    intro same
    rw [same, absent] at found
    cases found
  have put_elsewhere : ∀ {ledger : TokenLedger} {here : Pubkey} {old vault' : Vault},
      state.vaults here = some old → State.putVault ⟨ledger, state.vaults⟩ here vault' = next → False := by
    intro ledger here old vault' known same
    rw [← same] at found
    rcases putVault_cases found with ⟨mine, _⟩ | kept
    · rw [← mine, known] at absent
      cases absent
    · rw [absent] at kept
      cases kept
  cases instruction with
  | initializeVault accounts => exact ⟨accounts, rfl, success⟩
  | wrap accounts amount permitted =>
      obtain ⟨_, _, _, checked, _, _, _, _, _, _, _, _, _, _, same⟩ := (wrap_eq_ok _ _ _ _ _ _).mp success
      obtain ⟨_, known, _⟩ := (tryVault_eq_ok _ _ _ _ _ _).mp checked
      exact (put_elsewhere known same).elim
  | unwrap accounts amount permitted =>
      obtain ⟨_, _, _, checked, _, _, _, _, _, _, _, _, _, _, _, same⟩ :=
        (unwrap_eq_ok _ _ _ _ _ _).mp success
      obtain ⟨_, known, _⟩ := (tryVault_eq_ok _ _ _ _ _ _).mp checked
      exact (put_elsewhere known same).elim
  | setPaused accounts paused =>
      obtain ⟨_, _, known, _, _, same⟩ := (setPaused_eq_ok _ _ _ _ _).mp success
      exact (put_elsewhere known same).elim
  | transferChecked program source mint target authority amount decimals permitted =>
      exact (same_vaults (congrFun (direct_effect success).2.2 key)).elim
  | mintTo program mint target authority amount =>
      exact (same_vaults (congrFun (direct_effect success).2.2 key)).elim
  | burn program source mint authority amount =>
      exact (same_vaults (congrFun (direct_effect success).2.2 key)).elim
  | initializeMint here mint => exact (same_vaults (congrFun (direct_effect success).2.2 key)).elim
  | initializeAccount program here mint owner =>
      exact (same_vaults (congrFun (direct_effect success).2.2 key)).elim
  | setTransferFee mint fee =>
      simp only [step, bind_eq_ok, pure, Except.pure, Except.ok.injEq] at success
      obtain ⟨ledger, _, same⟩ := success
      rw [← same] at same_vaults
      exact (same_vaults rfl).elim

end NewVaults

theorem wellWired_of_no_vaults {rt : Runtime} {state : State}
    (no_vaults : ∀ key, state.vaults key = none) : WellWired rt state := by
  intro key vault found
  rw [no_vaults] at found
  cases found

/-- The wiring is an invariant. -/
theorem step_wellWired {rt : Runtime} {state next : State} {instruction : Instruction}
    (wired : WellWired rt state) (success : step rt state instruction = .ok next) :
    WellWired rt next := by
  intro key vault found
  cases before : state.vaults key with
  | none =>
      have ⟨accounts, _, made⟩ := step_new before success found
      exact (initializeVault_new before made found).2.1
  | some old =>
      have ⟨lockedAmount, paused, kept, _⟩ := step_posted before wired success
      rw [kept, Option.some.injEq] at found
      rw [← found]
      exact ((wired key old before).mono (step_extends success)).update lockedAmount paused

end Stede.StedeVault
