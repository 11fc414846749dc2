import Mathlib
import Stede.StedeVault.Redemption

set_option autoImplicit false

/- Who can wrap and unwrap, exactly, and that a holder's tokens wait for the holder. -/
namespace Stede.StedeVault

open Custody

/-- A signed `wrap`: an open vault's own accounts, enough of the underlying, and
somewhere to receive the Stede. -/
structure Wrappable (rt : Runtime) (state : State) (accounts : WrapAccounts) (amount : UInt64) :
    Prop where
  pays : accounts.user.pays rt = true
  positive : 0 < amount
  vault : ∃ vault, state.vaults accounts.vault = some vault ∧ vault.paused = false ∧
    vault.underlyingMint = accounts.underlyingMint ∧ vault.stedeMint = accounts.stedeMint ∧
    vault.tokenVault = accounts.tokenVault
  tokenProgram : accounts.tokenProgram = Programs.token2022
  underlyingTokenProgram : ∃ terms, state.ledger.mints accounts.underlyingMint = some terms ∧
    terms.program = accounts.underlyingTokenProgram
  underlyingAta : ∃ account, state.ledger.accounts accounts.userUnderlyingAta = some account ∧
    account.owner = accounts.user.pubkey ∧ account.mint = accounts.underlyingMint ∧
    amount ≤ account.amount
  stedeAta : ∃ account, state.ledger.accounts accounts.userStedeAta = some account ∧
    account.owner = accounts.user.pubkey ∧ account.mint = accounts.stedeMint

theorem Wrappable.signed {rt : Runtime} {state : State} {accounts : WrapAccounts} {amount : UInt64}
    (wrappable : Wrappable rt state accounts amount) : accounts.user.signed rt = true :=
  AccountMeta.signed_of_pays wrappable.pays

section Wrapping

variable {rt : Runtime} {state : State} {accounts : WrapAccounts} {amount : UInt64}
  (orderly : Orderly rt state) (wrappable : Wrappable rt state accounts amount)
include orderly wrappable

/-- What the token vault holds leaves room for the amount, so all that backs and
that is backed by it has room too. -/
theorem Wrappable.room : state.ledger.balance accounts.tokenVault + amount.toNat < 2 ^ 64 ∧
    state.ledger.supply accounts.stedeMint ≤ state.ledger.balance accounts.tokenVault ∧
    ∃ vault, state.vaults accounts.vault = some vault ∧
      vault.lockedAmount.toNat ≤ state.ledger.balance accounts.tokenVault := by
  obtain ⟨vault, found, _, underlying, stede, vault_eq⟩ := wrappable.vault
  obtain ⟨source, paying, owner, mint, funds⟩ := wrappable.underlyingAta
  have wired := orderly.wired _ _ found
  obtain ⟨target, held, targetMint, _⟩ := wired.held
  have solvent := orderly.solvent _ _ found
  have apart := wired.ne_of_owner wrappable.signed paying owner
  rw [vault_eq] at held apart solvent
  rw [stede] at solvent
  rw [underlying] at targetMint
  have both := (orderly.issued accounts.underlyingMint).two apart
  have paid := TokenLedger.holding_of_some paying
  have got := TokenLedger.holding_of_some held
  have bound := state.ledger.supply_lt accounts.underlyingMint
  have less := UInt64.le_iff_toNat_le.mp funds
  rw [mint] at paid
  rw [targetMint] at got
  have balance := TokenLedger.balance_of_some held
  exact ⟨by omega, solvent.2.trans solvent.1, vault, found, solvent.1⟩

/-- The underlying moves in, and touches neither the mints nor the holder's Stede. -/
theorem Wrappable.pay {terms : Mint}
    (known : state.ledger.mints accounts.underlyingMint = some terms) (permitted : Bool) :
    ∃ moved, state.ledger.transferChecked accounts.underlyingTokenProgram
        accounts.userUnderlyingAta accounts.underlyingMint accounts.tokenVault accounts.user.pubkey
        amount terms.decimals permitted = .ok moved ∧
      moved.accounts accounts.userStedeAta = state.ledger.accounts accounts.userStedeAta := by
  obtain ⟨vault, found, _, underlying, stede, vault_eq⟩ := wrappable.vault
  obtain ⟨source, paying, owner, mint, funds⟩ := wrappable.underlyingAta
  obtain ⟨receiving, stedeHeld, stedeOwner, stedeMint⟩ := wrappable.stedeAta
  obtain ⟨terms', known', program⟩ := wrappable.underlyingTokenProgram
  obtain ⟨room, _, _⟩ := wrappable.room orderly
  have wired := orderly.wired _ _ found
  obtain ⟨target, held, targetMint, _⟩ := wired.held
  have apart := wired.ne_of_owner wrappable.signed paying owner
  have not_vault := wired.ne_of_owner wrappable.signed stedeHeld stedeOwner
  have plain := orderly.plain _ _ found
  rw [vault_eq] at held apart not_vault
  rw [underlying] at targetMint plain
  obtain ⟨feeless, unguarded⟩ := plain terms known
  rw [known, Option.some.injEq] at known'
  rw [TokenLedger.balance_of_some held] at room
  have credit := Mint.credit_of_feeless feeless amount
  obtain ⟨received, _, total⟩ := Checked.addU64_of_fits target.amount (amount - terms.fee amount)
    (by omega)
  have not_paying : accounts.userStedeAta ≠ accounts.userUnderlyingAta := by
    intro same
    rw [same, paying, Option.some.injEq] at stedeHeld
    rw [← stedeHeld, mint, ← underlying, ← stede] at stedeMint
    exact orderly.stedeMint_ne_underlyingMint found found stedeMint.symm
  have transfer := (TokenLedger.transferChecked_eq_ok state.ledger _ accounts.underlyingTokenProgram
    accounts.userUnderlyingAta accounts.underlyingMint accounts.tokenVault accounts.user.pubkey amount
    terms.decimals permitted).mpr ⟨source, paying, terms, known, target, held, known' ▸ program, funds,
      ⟨mint, targetMint⟩, rfl, owner, fun guarded => absurd guarded (by simp [unguarded]),
      Or.inr ⟨apart, received, total, rfl⟩⟩
  exact ⟨_, transfer, TokenLedger.transferChecked_other transfer not_paying not_vault⟩

/-- Every holder of the underlying can wrap any part of it. -/
theorem Wrappable.wrap (permitted : Bool) :
    ∃ next, StedeVault.wrap rt state accounts amount permitted = .ok next := by
  obtain ⟨vault, found, unpaused, underlying, stede, vault_eq⟩ := wrappable.vault
  have wired := orderly.wired _ _ found
  obtain ⟨stedeTerms, stedeKnown, stedeProgram, authority, _⟩ := wired.issued
  obtain ⟨terms, known, program⟩ := wired.underlying
  obtain ⟨held, heldFound, _, _⟩ := wired.held
  obtain ⟨source, paying, owner, mint, _⟩ := wrappable.underlyingAta
  obtain ⟨receiving, stedeHeld, stedeOwner, stedeMint⟩ := wrappable.stedeAta
  obtain ⟨terms', known', program'⟩ := wrappable.underlyingTokenProgram
  obtain ⟨room, backed, vault', found', covered⟩ := wrappable.room orderly
  rw [found, Option.some.injEq] at found'
  rw [← found'] at covered
  have derived := wired.derived
  rw [underlying] at known derived
  rw [stede] at stedeKnown
  rw [vault_eq] at heldFound
  rw [known, Option.some.injEq] at known'
  rw [known', program'] at program
  obtain ⟨moved, transfer, same⟩ := wrappable.pay orderly known permitted
  have stedeKnown' : moved.mints accounts.stedeMint = some stedeTerms := by
    rw [TokenLedger.transferChecked_mints transfer]
    exact stedeKnown
  have holding := TokenLedger.holding_of_some stedeHeld
  have one := (orderly.issued receiving.mint).one accounts.userStedeAta
  rw [holding, stedeMint] at one
  rw [TokenLedger.supply_of_some stedeKnown] at one backed
  obtain ⟨received, _, total⟩ := Checked.addU64_of_fits receiving.amount amount (by omega)
  obtain ⟨supply, _, total'⟩ := Checked.addU64_of_fits stedeTerms.supply amount (by omega)
  obtain ⟨lockedAmount, _, total''⟩ := Checked.addU64_of_fits vault.lockedAmount amount (by omega)
  have minted := (TokenLedger.mintTo_eq_ok moved _ accounts.tokenProgram accounts.stedeMint
    accounts.userStedeAta accounts.vault amount).mpr ⟨receiving, same.trans stedeHeld, stedeMint,
      stedeTerms, stedeKnown', stedeProgram.trans wrappable.tokenProgram.symm, authority, received,
      total, supply, total', rfl⟩
  have checked := (tryVault_eq_ok rt state accounts vault terms stedeTerms).mpr
    ⟨wrappable.pays, found, known, stedeKnown, ⟨held, heldFound⟩, wrappable.tokenProgram, program,
      derived, underlying, stede, vault_eq⟩
  have underlyingAta := (tryUnderlyingAta_eq_ok state accounts ()).mpr ⟨source, paying, owner, mint⟩
  have stedeAta := (tryStedeAta_eq_ok state accounts stedeTerms ()).mpr
    ⟨receiving, stedeHeld, stedeOwner, stedeMint, stedeProgram.trans wrappable.tokenProgram.symm⟩
  exact ⟨_, (wrap_eq_ok _ _ _ _ _ _).mpr ⟨vault, terms, stedeTerms, checked, underlyingAta, stedeAta,
    unpaused, wrappable.positive, moved, transfer, _, minted, lockedAmount, total'', rfl⟩⟩

end Wrapping

section Exactly

variable {rt : Runtime} {state next : State} {accounts : WrapAccounts} {amount : UInt64}
  {permitted : Bool}

theorem wrappable_of_wrap (success : wrap rt state accounts amount permitted = .ok next) :
    Wrappable rt state accounts amount := by
  obtain ⟨vault, underlyingMint, stedeMint, checked, underlyingAta, stedeAta, unpaused, positive, moved,
    transfer, _⟩ := (wrap_eq_ok _ _ _ _ _ _).mp success
  obtain ⟨pays, found, known, _, _, tokenProgram, _, _, underlying, stede, vault_eq⟩ :=
    (tryVault_eq_ok _ _ _ _ _ _).mp checked
  obtain ⟨source, paying, owner, mint⟩ := (tryUnderlyingAta_eq_ok _ _ _).mp underlyingAta
  obtain ⟨target, receiving, owner', mint', _⟩ := (tryStedeAta_eq_ok _ _ _ _).mp stedeAta
  obtain ⟨source', paying', terms, known', _, _, program, funds, _⟩ :=
    (TokenLedger.transferChecked_eq_ok _ _ _ _ _ _ _ _ _ _).mp transfer
  rw [paying, Option.some.injEq] at paying'
  rw [← paying'] at funds
  exact ⟨pays, positive, ⟨vault, found, unpaused, underlying, stede, vault_eq⟩, tokenProgram,
    ⟨terms, known', program⟩, ⟨source, paying, owner, mint, funds⟩, ⟨target, receiving, owner', mint'⟩⟩

theorem redeemable_of_unwrap (success : unwrap rt state accounts amount permitted = .ok next) :
    Redeemable rt state accounts amount := by
  obtain ⟨vault, underlyingMint, stedeMint, checked, stedeAta, underlyingAta, unpaused, positive, _,
    burned, burn, ledger, transfer, _⟩ := (unwrap_eq_ok _ _ _ _ _ _).mp success
  obtain ⟨pays, found, known, _, _, tokenProgram, _, _, underlying, stede, vault_eq⟩ :=
    (tryVault_eq_ok _ _ _ _ _ _).mp checked
  obtain ⟨target, receiving, owner, mint⟩ := (tryUnderlyingAta_eq_ok _ _ _).mp underlyingAta
  obtain ⟨source, paying, owner', mint', _⟩ := (tryStedeAta_eq_ok _ _ _ _).mp stedeAta
  obtain ⟨source', paying', terms, knownStede, _, funds, _, _, _, _, after⟩ :=
    (TokenLedger.burn_eq_ok _ _ _ _ _ _ _).mp burn
  obtain ⟨_, _, terms', known', _, _, program, _⟩ :=
    (TokenLedger.transferChecked_eq_ok _ _ _ _ _ _ _ _ _ _).mp transfer
  rw [paying, Option.some.injEq] at paying'
  rw [← paying'] at funds
  obtain ⟨terms'', known'', same⟩ := (TokenLedger.burn_extends burn).mints _ _ known
  rw [known', Option.some.injEq] at known''
  have program' : underlyingMint.program = accounts.underlyingTokenProgram := by
    rw [← same.program, ← known'']
    exact program
  exact ⟨pays, positive, ⟨vault, found, unpaused, underlying, stede, vault_eq⟩, tokenProgram,
    ⟨underlyingMint, known, program'⟩, ⟨source, paying, owner', mint', funds⟩,
    ⟨target, receiving, owner, mint⟩⟩

/-- What the user pays is what the user gets. -/
theorem wrap_exchange (orderly : Orderly rt state)
    (success : wrap rt state accounts amount permitted = .ok next) :
    next.ledger.balance accounts.userUnderlyingAta + amount.toNat =
        state.ledger.balance accounts.userUnderlyingAta ∧
      next.ledger.balance accounts.userStedeAta =
        state.ledger.balance accounts.userStedeAta + amount.toNat := by
  obtain ⟨vault, underlyingMint, stedeMint, checked, underlyingAta, stedeAta, _, _, moved, transfer,
    ledger, minted, _, _, same⟩ := (wrap_eq_ok _ _ _ _ _ _).mp success
  obtain ⟨pays, found, _, _, _, _, _, _, underlying, stede, vault_eq⟩ :=
    (tryVault_eq_ok _ _ _ _ _ _).mp checked
  have signed := AccountMeta.signed_of_pays pays
  obtain ⟨source, paying, owner, mint⟩ := (tryUnderlyingAta_eq_ok _ _ _).mp underlyingAta
  obtain ⟨target, receiving, owner', mint', _⟩ := (tryStedeAta_eq_ok _ _ _ _).mp stedeAta
  have wired := orderly.wired _ _ found
  have apart := wired.ne_of_owner signed paying owner
  have apart' := wired.ne_of_owner signed receiving owner'
  have different : accounts.userStedeAta ≠ accounts.userUnderlyingAta := by
    intro both
    rw [both, paying, Option.some.injEq] at receiving
    rw [← receiving, mint, ← underlying, ← stede] at mint'
    exact orderly.stedeMint_ne_underlyingMint found found mint'.symm
  rw [vault_eq] at apart apart'
  obtain ⟨terms, _, funds, balance⟩ := TokenLedger.transferChecked_balance transfer apart
  have balance' := TokenLedger.mintTo_balance minted
  rw [← same]
  simp only [State.putVault, balance', balance]
  rw [Function.update_of_ne (Ne.symm different), Function.update_of_ne apart, Function.update_self,
    Function.update_self, Function.update_of_ne apart', Function.update_of_ne different]
  exact ⟨by omega, rfl⟩

/-- And back. -/
theorem unwrap_exchange (orderly : Orderly rt state)
    (success : unwrap rt state accounts amount permitted = .ok next) :
    next.ledger.balance accounts.userUnderlyingAta =
        state.ledger.balance accounts.userUnderlyingAta + amount.toNat ∧
      next.ledger.balance accounts.userStedeAta + amount.toNat =
        state.ledger.balance accounts.userStedeAta := by
  obtain ⟨vault, underlyingMint, stedeMint, checked, stedeAta, underlyingAta, _, _, _, burned, burn,
    ledger, transfer, _, _, same⟩ := (unwrap_eq_ok _ _ _ _ _ _).mp success
  obtain ⟨pays, found, known, _, _, _, _, _, underlying, stede, vault_eq⟩ :=
    (tryVault_eq_ok _ _ _ _ _ _).mp checked
  have signed := AccountMeta.signed_of_pays pays
  obtain ⟨target, receiving, owner, mint⟩ := (tryUnderlyingAta_eq_ok _ _ _).mp underlyingAta
  obtain ⟨source, paying, owner', mint', _⟩ := (tryStedeAta_eq_ok _ _ _ _).mp stedeAta
  have wired := orderly.wired _ _ found
  have apart := wired.ne_of_owner signed receiving owner
  have apart' := wired.ne_of_owner signed paying owner'
  have different : accounts.userStedeAta ≠ accounts.userUnderlyingAta := by
    intro both
    rw [both, receiving, Option.some.injEq] at paying
    rw [← paying, mint, ← underlying, ← stede] at mint'
    exact orderly.stedeMint_ne_underlyingMint found found mint'.symm
  rw [vault_eq] at apart apart'
  obtain ⟨funds, balance⟩ := TokenLedger.burn_balance burn
  obtain ⟨terms, known', _, balance'⟩ := TokenLedger.transferChecked_balance transfer (Ne.symm apart)
  have plain := (orderly.plain _ _ found).mono (underlying ▸ known) (TokenLedger.burn_extends burn)
  rw [underlying] at plain
  have credit := Mint.credit_of_feeless (plain terms known').1 amount
  rw [← same]
  simp only [State.putVault, balance', balance]
  rw [Function.update_self, Function.update_of_ne different, Function.update_of_ne apart',
    Function.update_self, Function.update_of_ne (Ne.symm different), credit]
  exact ⟨rfl, by omega⟩

/-- Over plain mints, in every state reached: `wrap` and `unwrap` go through exactly
for the holders of enough, into and out of an open vault. -/
theorem served_exactly (rt : Runtime) (genesis : State) (no_vaults : ∀ key, genesis.vaults key = none)
    (issued : genesis.ledger.Issued) (instructions : List Instruction)
    (opens : OpensPlainVaults rt genesis instructions) (accounts : WrapAccounts) (amount : UInt64)
    (permitted : Bool) :
    ((∃ next, wrap rt (Run.run (step rt) genesis instructions) accounts amount permitted = .ok next) ↔
      Wrappable rt (Run.run (step rt) genesis instructions) accounts amount) ∧
    ((∃ next, unwrap rt (Run.run (step rt) genesis instructions) accounts amount permitted = .ok next) ↔
      Redeemable rt (Run.run (step rt) genesis instructions) accounts amount) := by
  have orderly := run_orderly (orderly_of_no_vaults no_vaults issued) opens
  constructor
  · constructor
    · rintro ⟨next, success⟩
      exact wrappable_of_wrap success
    · intro wrappable
      exact wrappable.wrap orderly permitted
  · constructor
    · rintro ⟨next, success⟩
      exact redeemable_of_unwrap success
    · intro redeemable
      exact redeemable.unwrap orderly permitted

/-- The holder has 300 of the underlying left, and 550 of Stede. -/
theorem served_exactly_sample :
    Wrappable .sample (Run.run (step .sample) emptyGenesis plainRun) sampleAccounts 300 ∧
      Redeemable .sample (Run.run (step .sample) emptyGenesis plainRun) sampleAccounts 550 := by
  have opens : OpensPlainVaults .sample emptyGenesis plainRun :=
    opensPlainVaults_of_check (by decide +kernel)
  constructor
  · apply (served_exactly .sample emptyGenesis (fun _ => rfl) (fun _ => Holdings.Bounded.nothing 0)
      plainRun opens sampleAccounts 300 true).1.mp
    exact isOk_iff_exists.mp (by decide +kernel)
  · apply (served_exactly .sample emptyGenesis (fun _ => rfl) (fun _ => Holdings.Bounded.nothing 0)
      plainRun opens sampleAccounts 550 true).2.mp
    exact isOk_iff_exists.mp (by decide +kernel)

end Exactly

/-- The account at `key` is the owner's, with at least `amount` of the mint. -/
def Holds (ledger : TokenLedger) (key owner mint : Pubkey) (amount : UInt64) : Prop :=
  ∃ account, ledger.accounts key = some account ∧ account.owner = owner ∧ account.mint = mint ∧
    amount ≤ account.amount

/-- The instructions by which an owner, whose signature they carry, moves tokens. -/
def spends (rt : Runtime) (owner : Pubkey) : Instruction → Bool
  | .wrap accounts _ _ => accounts.user.signed rt ∧ accounts.user.pubkey = owner
  | .unwrap accounts _ _ => accounts.user.signed rt ∧ accounts.user.pubkey = owner
  | .transferChecked _ _ _ _ authority _ _ _ => authority.signed rt ∧ authority.pubkey = owner
  | .burn _ _ _ authority _ => authority.signed rt ∧ authority.pubkey = owner
  | _ => false

section Holding

variable {ledger after : TokenLedger} {key owner mint : Pubkey} {amount : UInt64}
  (holds : Holds ledger key owner mint amount)
include holds

theorem Holds.of_same (same : after.accounts key = ledger.accounts key) :
    Holds after key owner mint amount := by
  obtain ⟨account, found, rest⟩ := holds
  exact ⟨account, same.trans found, rest⟩

theorem Holds.ne_of_owner {other : Pubkey} {account : TokenAccount}
    (found : ledger.accounts other = some account) (apart : account.owner ≠ owner) : key ≠ other := by
  rintro rfl
  obtain ⟨account', found', owner', _⟩ := holds
  rw [found, Option.some.injEq] at found'
  rw [found'] at apart
  exact apart owner'

theorem Holds.initializeMint {terms : Mint} {here : Pubkey}
    (success : ledger.initializeMint here terms = .ok after) : Holds after key owner mint amount := by
  obtain ⟨_, _, same⟩ := (TokenLedger.initializeMint_eq_ok _ _ _ _).mp success
  apply holds.of_same
  rw [← same, TokenLedger.putMint_accounts]

theorem Holds.initializeAccount {program here mint' owner' : Pubkey}
    (success : ledger.initializeAccount program here mint' owner' = .ok after) :
    Holds after key owner mint amount := by
  obtain ⟨⟨_, unused⟩, _, _, _, same⟩ := (TokenLedger.initializeAccount_eq_ok _ _ _ _ _ _).mp success
  have apart : key ≠ here := by
    rintro rfl
    obtain ⟨account, found, _⟩ := holds
    rw [unused] at found
    cases found
  apply holds.of_same
  rw [← same, TokenLedger.put_accounts, Function.update_of_ne apart]

theorem Holds.setTransferFee {fee : TransferFee} {here : Pubkey}
    (success : ledger.setTransferFee here fee = .ok after) : Holds after key owner mint amount := by
  obtain ⟨_, _, _, same⟩ := (TokenLedger.setTransferFee_eq_ok _ _ _ _).mp success
  apply holds.of_same
  rw [← same, TokenLedger.putMint_accounts]

/-- A transfer from elsewhere can only add. -/
theorem Holds.transferChecked {program source mint' target authority : Pubkey} {amount' : UInt64}
    {decimals : UInt8} {permitted : Bool}
    (success : ledger.transferChecked program source mint' target authority amount' decimals permitted =
      .ok after) (apart : key ≠ source) : Holds after key owner mint amount := by
  by_cases into : key = target
  · obtain ⟨paying, found, terms, _, receiving, found', _, _, _, _, _, _, moved⟩ :=
      (TokenLedger.transferChecked_eq_ok _ _ _ _ _ _ _ _ _ _).mp success
    rcases moved with ⟨itself, _⟩ | ⟨_, received, total, same⟩
    · exact absurd (into.trans itself.symm) apart
    · obtain ⟨account, here, owner', mint'', enough⟩ := holds
      rw [into, found', Option.some.injEq] at here
      refine ⟨{ receiving with amount := received }, ?_, ?_, ?_, ?_⟩
      · rw [← same, into, TokenLedger.put_accounts, Function.update_self]
      · rw [← owner', ← here]
      · rw [← mint'', ← here]
      · have less := UInt64.le_iff_toNat_le.mp enough
        rw [← here] at less
        exact UInt64.le_iff_toNat_le.mpr (by dsimp only; omega)
  · exact holds.of_same (TokenLedger.transferChecked_other success apart into)

theorem Holds.mintTo {program mint' target authority : Pubkey} {amount' : UInt64}
    (success : ledger.mintTo program mint' target authority amount' = .ok after) :
    Holds after key owner mint amount := by
  obtain ⟨receiving, found, _, terms, _, _, _, received, total, supply, _, same⟩ :=
    (TokenLedger.mintTo_eq_ok _ _ _ _ _ _ _).mp success
  by_cases into : key = target
  · obtain ⟨account, here, owner', mint'', enough⟩ := holds
    rw [into, found, Option.some.injEq] at here
    refine ⟨{ receiving with amount := received }, ?_, ?_, ?_, ?_⟩
    · rw [← same, into, TokenLedger.putMint_accounts, TokenLedger.put_accounts, Function.update_self]
    · rw [← owner', ← here]
    · rw [← mint'', ← here]
    · have less := UInt64.le_iff_toNat_le.mp enough
      rw [← here] at less
      exact UInt64.le_iff_toNat_le.mpr (by dsimp only; omega)
  · apply holds.of_same
    rw [← same, TokenLedger.putMint_accounts, TokenLedger.put_accounts, Function.update_of_ne into]

end Holding

section Waiting

variable {rt : Runtime} {owner : Pubkey} (wallet : rt.canSign owner = true)
include wallet

/-- Nobody but the owner takes anything out of an account: the vaults, which nobody
signs for, own theirs. -/
theorem step_holds {state next : State} {instruction : Instruction} {key mint : Pubkey}
    {amount : UInt64}
    (wired : WellWired rt state) (holds : Holds state.ledger key owner mint amount)
    (unspent : spends rt owner instruction = false) (success : step rt state instruction = .ok next) :
    Holds next.ledger key owner mint amount := by
  cases instruction with
  | initializeVault accounts =>
      obtain ⟨_, _, _, _, _, _, opened, account, _, _, _, ledger, minted, same⟩ :=
        (initializeVault_eq_ok _ _ _ _).mp success
      rw [← same]
      exact (holds.initializeAccount account).initializeMint minted
  | wrap accounts amount' permitted =>
      obtain ⟨_, _, _, checked, underlyingAta, _, _, _, moved, transfer, ledger, minted, _, _, same⟩ :=
        (wrap_eq_ok _ _ _ _ _ _).mp success
      obtain ⟨pays, _⟩ := (tryVault_eq_ok _ _ _ _ _ _).mp checked
      obtain ⟨paying, found, payer, _⟩ := (tryUnderlyingAta_eq_ok _ _ _).mp underlyingAta
      have other : paying.owner ≠ owner := by
        rw [payer]
        exact fun mine => of_decide_eq_false unspent ⟨AccountMeta.signed_of_pays pays, mine⟩
      rw [← same]
      exact (holds.transferChecked transfer (holds.ne_of_owner found other)).mintTo minted
  | unwrap accounts amount' permitted =>
      obtain ⟨own, _, _, checked, stedeAta, _, _, _, _, burned, burn, ledger, transfer, _, _, same⟩ :=
        (unwrap_eq_ok _ _ _ _ _ _).mp success
      obtain ⟨pays, here, _, _, _, _, _, _, _, _, vault_eq⟩ :=
        (tryVault_eq_ok _ _ _ _ _ _).mp checked
      obtain ⟨paying, found, payer, _⟩ := (tryStedeAta_eq_ok _ _ _ _).mp stedeAta
      have other : paying.owner ≠ owner := by
        rw [payer]
        exact fun mine => of_decide_eq_false unspent ⟨AccountMeta.signed_of_pays pays, mine⟩
      have burned_holds := holds.of_same (TokenLedger.burn_other burn (holds.ne_of_owner found other))
      have not_vault : key ≠ accounts.tokenVault := by
        obtain ⟨account, found', owner', _⟩ := holds
        have signed : AccountMeta.signed rt ⟨owner, true, true⟩ = true := wallet
        rw [← vault_eq]
        exact (wired _ _ here).ne_of_owner signed found' owner'
      rw [← same]
      exact burned_holds.transferChecked transfer not_vault
  | setPaused accounts paused =>
      obtain ⟨_, _, _, _, _, same⟩ := (setPaused_eq_ok _ _ _ _ _).mp success
      rw [← same]
      exact holds
  | transferChecked program source mint' target authority amount' decimals permitted =>
      obtain ⟨signed, transfer, _⟩ := direct_effect success
      obtain ⟨paying, found, _, _, _, _, _, _, _, _, payer, _⟩ :=
        (TokenLedger.transferChecked_eq_ok _ _ _ _ _ _ _ _ _ _).mp transfer
      have other : paying.owner ≠ owner := by
        rw [payer]
        exact fun mine => of_decide_eq_false unspent ⟨signed, mine⟩
      exact holds.transferChecked transfer (holds.ne_of_owner found other)
  | mintTo program mint' target authority amount' => exact holds.mintTo (direct_effect success).2.1
  | burn program source mint' authority amount' =>
      obtain ⟨signed, burn, _⟩ := direct_effect success
      obtain ⟨paying, found, _, _, _, _, _, payer, _⟩ := (TokenLedger.burn_eq_ok _ _ _ _ _ _ _).mp burn
      have other : paying.owner ≠ owner := by
        rw [payer]
        exact fun mine => of_decide_eq_false unspent ⟨signed, mine⟩
      exact holds.of_same (TokenLedger.burn_other burn (holds.ne_of_owner found other))
  | initializeMint here mint' => exact holds.initializeMint (direct_effect success).2.1
  | initializeAccount program here mint' owner' =>
      exact holds.initializeAccount (direct_effect success).2.1
  | setTransferFee mint' fee =>
      simp only [step, bind_eq_ok, pure, Except.pure, Except.ok.injEq] at success
      obtain ⟨ledger, changed, same⟩ := success
      rw [← same]
      exact holds.setTransferFee changed

theorem run_holds {genesis : State} {instructions : List Instruction} {key mint : Pubkey}
    {amount : UInt64} (wired : WellWired rt genesis) (holds : Holds genesis.ledger key owner mint amount)
    (unspent : ∀ instruction ∈ instructions, spends rt owner instruction = false) :
    Holds (Run.run (step rt) genesis instructions).ledger key owner mint amount := by
  have start : WellWired rt genesis ∧ Holds genesis.ledger key owner mint amount := ⟨wired, holds⟩
  have final : WellWired rt (Run.run (step rt) genesis instructions) ∧
      Holds (Run.run (step rt) genesis instructions).ledger key owner mint amount := by
    apply @Run.run_invariant State Instruction Error (step rt)
      (fun state => WellWired rt state ∧ Holds state.ledger key owner mint amount) _ _ start
    intro current instruction next member here success
    exact ⟨step_wellWired here.1 success, step_holds wallet here.1 here.2 (unspent _ member) success⟩
  exact final.2

end Waiting

end Stede.StedeVault
