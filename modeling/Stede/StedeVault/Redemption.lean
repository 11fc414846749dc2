import Mathlib
import Stede.StedeVault.Accounting

set_option autoImplicit false

/- Every holder of Stede can get the underlying back. -/
namespace Stede.StedeVault

open Custody

/-- The instruction leaves the three numbers of the vault at `key` to others. -/
def Concerns (state : State) (key : Pubkey) : Instruction → Prop
  | .wrap accounts _ _ => accounts.vault = key
  | .unwrap accounts _ _ => accounts.vault = key
  | .transferChecked _ _ _ target _ _ _ _ => isTokenVault state key target = true
  | .mintTo _ _ target _ _ => isTokenVault state key target = true
  | .burn _ _ mint _ _ => isStedeMint state key mint = true
  | _ => False

/-- A signed `unwrap` by a holder: an open vault's own accounts, enough Stede, and
somewhere to receive the underlying. -/
structure Redeemable (rt : Runtime) (state : State) (accounts : WrapAccounts) (amount : UInt64) :
    Prop where
  pays : accounts.user.pays rt = true
  positive : 0 < amount
  vault : ∃ vault, state.vaults accounts.vault = some vault ∧ vault.paused = false ∧
    vault.underlyingMint = accounts.underlyingMint ∧ vault.stedeMint = accounts.stedeMint ∧
    vault.tokenVault = accounts.tokenVault
  tokenProgram : accounts.tokenProgram = Programs.token2022
  underlyingTokenProgram : ∃ terms, state.ledger.mints accounts.underlyingMint = some terms ∧
    terms.program = accounts.underlyingTokenProgram
  stedeAta : ∃ account, state.ledger.accounts accounts.userStedeAta = some account ∧
    account.owner = accounts.user.pubkey ∧ account.mint = accounts.stedeMint ∧ amount ≤ account.amount
  underlyingAta : ∃ account, state.ledger.accounts accounts.userUnderlyingAta = some account ∧
    account.owner = accounts.user.pubkey ∧ account.mint = accounts.underlyingMint

theorem Redeemable.signed {rt : Runtime} {state : State} {accounts : WrapAccounts} {amount : UInt64}
    (redeemable : Redeemable rt state accounts amount) : accounts.user.signed rt = true :=
  AccountMeta.signed_of_pays redeemable.pays

/-- Operations on one vault leave the numbers of every other as they are. -/
theorem step_unconcerned {rt : Runtime} {state next : State} {instruction : Instruction}
    (orderly : Orderly rt state) (success : step rt state instruction = .ok next) {key : Pubkey}
    {vault : Vault} (found : state.vaults key = some vault)
    (unconcerned : ¬ Concerns state key instruction) :
    ∃ vault', next.vaults key = some vault' ∧ vault'.lockedAmount = vault.lockedAmount ∧
      next.ledger.balance vault'.tokenVault = state.ledger.balance vault.tokenVault ∧
      next.ledger.supply vault'.stedeMint = state.ledger.supply vault.stedeMint := by
  have ⟨lockedAmount, paused, kept, posted⟩ := step_posted found orderly.wired success
  have idle : entryOf state.ledger key vault instruction = .idle := by
    cases instruction with
    | wrap accounts amount permitted =>
        have other : ¬ accounts.vault = key := unconcerned
        simp only [entryOf, other, ↓reduceIte]
    | unwrap accounts amount permitted =>
        have other : ¬ accounts.vault = key := unconcerned
        simp only [entryOf, other, ↓reduceIte]
    | transferChecked program source mint target authority amount decimals permitted =>
        have other : ¬ isTokenVault state key target = true := unconcerned
        rw [isTokenVault_of_some found, decide_eq_true_eq] at other
        simp only [entryOf, other, ↓reduceIte]
    | mintTo program mint target authority amount =>
        have other : ¬ isTokenVault state key target = true := unconcerned
        rw [isTokenVault_of_some found, decide_eq_true_eq] at other
        simp only [entryOf, other, ↓reduceIte]
    | burn program source mint authority amount =>
        have other : ¬ isStedeMint state key mint = true := unconcerned
        rw [isStedeMint_of_some found, decide_eq_true_eq] at other
        simp only [entryOf, other, ↓reduceIte]
    | _ => rfl
  rw [idle] at posted
  have same : books state.ledger vault =
      books next.ledger { vault with lockedAmount := lockedAmount, paused := paused } :=
    Option.some.inj posted
  simp only [books, Books.mk.injEq] at same
  exact ⟨_, kept, UInt64.toNat_inj.mp same.2.1.symm, same.1.symm, same.2.2.symm⟩

/- The overflow branches are dead. -/
section Overflow

theorem tryVault_ne_overflow (rt : Runtime) (state : State) (accounts : WrapAccounts) :
    accounts.tryVault rt state ≠ .error (.vault .overflow) := by
  simp [WrapAccounts.tryVault, State.loadVault, TokenLedger.loadMint, TokenLedger.loadAccount,
    bind_eq_error, pure, Except.pure]

theorem tryUnderlyingAta_ne_overflow (state : State) (accounts : WrapAccounts) :
    accounts.tryUnderlyingAta state ≠ .error (.vault .overflow) := by
  simp [WrapAccounts.tryUnderlyingAta, TokenLedger.loadAccount, bind_eq_error]

theorem tryStedeAta_ne_overflow (state : State) (accounts : WrapAccounts) (stedeMint : Mint) :
    accounts.tryStedeAta state stedeMint ≠ .error (.vault .overflow) := by
  simp [WrapAccounts.tryStedeAta, TokenLedger.loadAccount, bind_eq_error]

theorem mintTo_ne_overflow (ledger : TokenLedger) (program mint target authority : Pubkey)
    (amount : UInt64) : ledger.mintTo program mint target authority amount ≠ .error (.vault .overflow) := by
  simp [TokenLedger.mintTo, TokenLedger.loadMint, TokenLedger.loadAccount, bind_eq_error, pure,
    Except.pure]

theorem burn_ne_overflow (ledger : TokenLedger) (program source mint authority : Pubkey)
    (amount : UInt64) : ledger.burn program source mint authority amount ≠ .error (.vault .overflow) := by
  simp [TokenLedger.burn, TokenLedger.loadMint, TokenLedger.loadAccount, bind_eq_error, pure,
    Except.pure]

theorem transferChecked_ne_overflow (ledger : TokenLedger)
    (program source mint target authority : Pubkey) (amount : UInt64) (decimals : UInt8)
    (permitted : Bool) :
    ledger.transferChecked program source mint target authority amount decimals permitted ≠
      .error (.vault .overflow) := by
  by_cases itself : source = target
  · simp [TokenLedger.transferChecked, TokenLedger.loadMint, TokenLedger.loadAccount, bind_eq_error,
      pure, Except.pure, itself]
  · simp [TokenLedger.transferChecked, TokenLedger.loadMint, TokenLedger.loadAccount, bind_eq_error,
      pure, Except.pure, itself]

variable {rt : Runtime} {state : State} (orderly : Orderly rt state)
include orderly

/-- What is locked lies in the token vault, which has just taken the amount. -/
theorem wrap_ne_overflow (accounts : WrapAccounts) (amount : UInt64) (permitted : Bool) :
    wrap rt state accounts amount permitted ≠ .error (.vault .overflow) := by
  intro failed
  simp only [wrap, bind_eq_error, tryVault_ne_overflow, tryUnderlyingAta_ne_overflow,
    tryStedeAta_ne_overflow, transferChecked_ne_overflow, mintTo_ne_overflow, require_eq_error,
    okOr_eq_error, require_eq_ok, exists_const, false_or, Error.vault.injEq, reduceCtorEq, and_false,
    Checked.addU64_eq_none, pure, Except.pure, and_true, or_false, Prod.exists] at failed
  obtain ⟨vault, underlyingMint, stedeMint, checked, _, underlyingAta, _, _, _, _, moved, transfer, _, _,
    overflow⟩ := failed
  obtain ⟨pays, found, _, _, _, _, _, _, underlying, _, vault_eq⟩ :=
    (tryVault_eq_ok _ _ _ _ _ _).mp checked
  obtain ⟨source, paying, sourceOwner, _⟩ := (tryUnderlyingAta_eq_ok _ _ _).mp underlyingAta
  have apart : accounts.userUnderlyingAta ≠ accounts.tokenVault := by
    rw [← vault_eq]
    exact (orderly.wired _ _ found).ne_of_owner (AccountMeta.signed_of_pays pays) paying
      sourceOwner
  obtain ⟨terms, known, _, balance⟩ := TokenLedger.transferChecked_balance transfer apart
  rw [← underlying] at known
  have feeless := (orderly.plain _ _ found terms known).1
  have held : moved.balance accounts.tokenVault =
      state.ledger.balance accounts.tokenVault + amount.toNat := by
    rw [balance, Function.update_self, Mint.credit_of_feeless feeless]
  have bound := moved.balance_lt accounts.tokenVault
  have covered := (orderly.solvent _ _ found).1
  rw [vault_eq] at covered
  omega

omit orderly in
/-- `unwrap` has compared the amount with what is locked before it subtracts. -/
theorem unwrap_ne_overflow (accounts : WrapAccounts) (amount : UInt64) (permitted : Bool) :
    unwrap rt state accounts amount permitted ≠ .error (.vault .overflow) := by
  intro failed
  simp only [unwrap, bind_eq_error, tryVault_ne_overflow, tryUnderlyingAta_ne_overflow,
    tryStedeAta_ne_overflow, transferChecked_ne_overflow, burn_ne_overflow, require_eq_error,
    okOr_eq_error, require_eq_ok, exists_const, false_or, Error.vault.injEq, reduceCtorEq, and_false,
    pure, Except.pure, and_true, or_false, Prod.exists] at failed
  obtain ⟨vault, _, _, _, _, _, _, _, _, _, enough, _, _, _, _, underflow⟩ := failed
  obtain ⟨difference, defined, _⟩ := Checked.subU64_of_le _ _ (UInt64.le_iff_toNat_le.mp enough)
  rw [underflow] at defined
  cases defined

end Overflow

/-- A Stede mint has its hook, an underlying mint has none. -/
theorem Orderly.stedeMint_ne_underlyingMint {rt : Runtime} {state : State}
    (orderly : Orderly rt state) {first second : Pubkey} {vault vault' : Vault}
    (found : state.vaults first = some vault) (found' : state.vaults second = some vault') :
    vault.stedeMint ≠ vault'.underlyingMint := by
  intro same
  have ⟨terms, known, _, _, guarded⟩ := (orderly.wired _ _ found).issued
  rw [same] at known
  have unguarded := (orderly.plain _ _ found' terms known).2
  rw [guarded] at unguarded
  cases unguarded

/- Redeeming. -/
section Redeeming

variable {rt : Runtime} {state : State} {accounts : WrapAccounts} {amount : UInt64}
  (orderly : Orderly rt state) (redeemable : Redeemable rt state accounts amount)
include orderly redeemable

theorem Redeemable.mints_ne : accounts.underlyingMint ≠ accounts.stedeMint := by
  have ⟨vault, found, _, underlying, stede, _⟩ := redeemable.vault
  rw [← underlying, ← stede]
  exact (orderly.stedeMint_ne_underlyingMint found found).symm

/-- A holder's tokens are issued, what is issued is locked, and what is locked is there. -/
theorem Redeemable.funds : amount.toNat ≤ state.ledger.supply accounts.stedeMint ∧
    ∃ vault, state.vaults accounts.vault = some vault ∧
      state.ledger.supply accounts.stedeMint ≤ vault.lockedAmount.toNat ∧
      vault.lockedAmount.toNat ≤ state.ledger.balance accounts.tokenVault := by
  have ⟨vault, found, _, underlying, stede, vault_eq⟩ := redeemable.vault
  have ⟨account, held, _, mint, enough⟩ := redeemable.stedeAta
  have holding := TokenLedger.holding_of_some held
  have issued := (orderly.issued account.mint).one accounts.userStedeAta
  have solvent := orderly.solvent _ _ found
  rw [vault_eq, stede] at solvent
  rw [holding, mint] at issued
  exact ⟨(UInt64.le_iff_toNat_le.mp enough).trans issued, vault, found, solvent.2, solvent.1⟩

/-- Burning the holder's Stede goes through and leaves the underlying side alone. -/
theorem Redeemable.burn : ∃ burned, state.ledger.burn accounts.tokenProgram accounts.userStedeAta
      accounts.stedeMint accounts.user.pubkey amount = .ok burned ∧
    burned.mints accounts.underlyingMint = state.ledger.mints accounts.underlyingMint ∧
    ∀ key, key ≠ accounts.userStedeAta → burned.accounts key = state.ledger.accounts key := by
  have ⟨vault, found, _, underlying, stede, vault_eq⟩ := redeemable.vault
  have ⟨terms, known, program, _⟩ := (orderly.wired _ _ found).issued
  have ⟨account, held, owner, mint, enough⟩ := redeemable.stedeAta
  have ⟨issued, _⟩ := redeemable.funds orderly
  rw [stede] at known
  rw [TokenLedger.supply_of_some known] at issued
  have ⟨supply, _, total⟩ := Checked.subU64_of_le terms.supply amount issued
  have program_eq := redeemable.tokenProgram
  refine ⟨_, (TokenLedger.burn_eq_ok _ _ _ _ _ _ _).mpr ⟨account, held, terms, known,
    program.trans program_eq.symm, enough, mint, owner, supply, total, rfl⟩, ?_, ?_⟩
  · rw [TokenLedger.putMint_mints, TokenLedger.put_mints,
      Function.update_of_ne (redeemable.mints_ne orderly)]
  · intro key other
    rw [TokenLedger.putMint_accounts, TokenLedger.put_accounts, Function.update_of_ne other]

/-- The two user accounts differ, as their mints do. -/
theorem Redeemable.atas_ne : accounts.userUnderlyingAta ≠ accounts.userStedeAta := by
  intro same
  have ⟨account, held, _, mint, _⟩ := redeemable.stedeAta
  have ⟨account', held', _, mint'⟩ := redeemable.underlyingAta
  rw [same, held, Option.some.injEq] at held'
  rw [← held', mint] at mint'
  exact redeemable.mints_ne orderly mint'.symm

/-- Releasing the underlying goes through: it fits, as the mint issued both balances. -/
theorem Redeemable.release {burned : TokenLedger}
    (mint_same : burned.mints accounts.underlyingMint = state.ledger.mints accounts.underlyingMint)
    (accounts_same : ∀ key, key ≠ accounts.userStedeAta →
      burned.accounts key = state.ledger.accounts key)
    {terms : Mint} (known : state.ledger.mints accounts.underlyingMint = some terms)
    (permitted : Bool) :
    ∃ ledger, burned.transferChecked accounts.underlyingTokenProgram accounts.tokenVault
      accounts.underlyingMint accounts.userUnderlyingAta accounts.vault amount terms.decimals
      permitted = .ok ledger := by
  have ⟨vault, found, _, underlying, stede, vault_eq⟩ := redeemable.vault
  have wired := orderly.wired _ _ found
  have ⟨stedeAccount, stedeHeld, stedeOwner, _, _⟩ := redeemable.stedeAta
  have ⟨source, sourceHeld, sourceMint, sourceOwner⟩ := wired.held
  have ⟨target, targetHeld, targetOwner, targetMint⟩ := redeemable.underlyingAta
  have ⟨terms', known', program⟩ := redeemable.underlyingTokenProgram
  have ⟨issued, vault', found', backed, covered⟩ := redeemable.funds orderly
  have not_stede := (wired.ne_of_owner redeemable.signed stedeHeld stedeOwner).symm
  have not_target := (wired.ne_of_owner redeemable.signed targetHeld targetOwner).symm
  rw [vault_eq] at sourceHeld not_stede not_target
  rw [underlying] at sourceMint
  have plain := orderly.plain _ _ found
  rw [underlying] at plain
  have ⟨feeless, unguarded⟩ := plain terms known
  rw [known, Option.some.injEq] at known'
  have funds : amount ≤ source.amount := by
    rw [TokenLedger.balance_of_some sourceHeld] at covered
    exact UInt64.le_iff_toNat_le.mpr (by omega)
  have fits : target.amount.toNat + (amount - terms.fee amount).toNat < 2 ^ 64 := by
    have both := (orderly.issued accounts.underlyingMint).two not_target
    have paid := TokenLedger.holding_of_some sourceHeld
    have got := TokenLedger.holding_of_some targetHeld
    have bound := state.ledger.supply_lt accounts.underlyingMint
    have less := UInt64.le_iff_toNat_le.mp funds
    rw [sourceMint] at paid
    rw [targetMint] at got
    rw [Mint.credit_of_feeless feeless]
    omega
  have ⟨received, _, total⟩ := Checked.addU64_of_fits _ _ fits
  rw [← accounts_same _ not_stede] at sourceHeld
  rw [← accounts_same _ (redeemable.atas_ne orderly)] at targetHeld
  refine ⟨_, (TokenLedger.transferChecked_eq_ok _ _ _ _ _ _ _ _ _ _).mpr
    ⟨source, sourceHeld, terms, mint_same.trans known, target, targetHeld, ?_, funds,
      ⟨sourceMint, targetMint⟩, rfl, sourceOwner, ?_, Or.inr ⟨not_target, received, total, rfl⟩⟩⟩
  · rw [known']
    exact program
  · intro guarded
    rw [unguarded] at guarded
    cases guarded

/-- Every holder can redeem any part of what they hold. -/
theorem Redeemable.unwrap (permitted : Bool) :
    ∃ next, StedeVault.unwrap rt state accounts amount permitted = .ok next := by
  have ⟨vault, found, unpaused, underlying, stede, vault_eq⟩ := redeemable.vault
  have wired := orderly.wired _ _ found
  have ⟨stedeTerms, stedeKnown, stedeProgram, _⟩ := wired.issued
  have ⟨terms, known, program⟩ := wired.underlying
  have ⟨source, sourceHeld, _, _⟩ := wired.held
  have ⟨account, held, owner, mint, _⟩ := redeemable.stedeAta
  have ⟨target, targetHeld, targetOwner, targetMint⟩ := redeemable.underlyingAta
  have ⟨terms', known', program'⟩ := redeemable.underlyingTokenProgram
  have ⟨issued, vault', found', backed, covered⟩ := redeemable.funds orderly
  have ⟨burned, burn, mint_same, accounts_same⟩ := redeemable.burn orderly
  rw [found, Option.some.injEq] at found'
  rw [underlying] at known
  rw [stede] at stedeKnown
  rw [vault_eq] at sourceHeld
  rw [known, Option.some.injEq] at known'
  rw [known', program'] at program
  have ⟨ledger, transfer⟩ := redeemable.release orderly mint_same accounts_same known permitted
  have enough : amount.toNat ≤ vault.lockedAmount.toNat := by
    rw [found']
    exact issued.trans backed
  have ⟨lockedAmount, _, total⟩ := Checked.subU64_of_le _ _ enough
  have derived := wired.derived
  rw [underlying] at derived
  have checked := (tryVault_eq_ok rt state accounts vault terms stedeTerms).mpr
    ⟨redeemable.pays, found, known, stedeKnown, ⟨source, sourceHeld⟩, redeemable.tokenProgram,
      program, derived, underlying, stede, vault_eq⟩
  have stedeAta := (tryStedeAta_eq_ok state accounts stedeTerms ()).mpr
    ⟨account, held, owner, mint, stedeProgram.trans redeemable.tokenProgram.symm⟩
  have underlyingAta := (tryUnderlyingAta_eq_ok state accounts ()).mpr
    ⟨target, targetHeld, targetOwner, targetMint⟩
  exact ⟨_, (unwrap_eq_ok _ _ _ _ _ _).mpr ⟨vault, terms, stedeTerms, checked, stedeAta, underlyingAta,
    unpaused, redeemable.positive, UInt64.le_iff_toNat_le.mpr enough, burned, burn, ledger, transfer,
    lockedAmount, total, rfl⟩⟩

/-- One redemption leaves every other as it was: it touches neither the other's
Stede account nor the other's place to receive. -/
theorem Redeemable.after {next : State} {permitted : Bool}
    (success : StedeVault.unwrap rt state accounts amount permitted = .ok next)
    {accounts' : WrapAccounts} {amount' : UInt64} (other : Redeemable rt state accounts' amount')
    (apart : accounts'.userStedeAta ≠ accounts.userStedeAta) :
    Redeemable rt next accounts' amount' := by
  have stepped : step rt state (.unwrap accounts amount permitted) = .ok next := success
  have extended := step_extends stepped
  have ⟨own, _, _, checked, _, _, _, _, _, burned, burn, ledger, transfer, lockedAmount, _, same⟩ :=
    (unwrap_eq_ok _ _ _ _ _ _).mp success
  have ⟨_, here, _, _, _, _, _, _, underlying, _, vault_eq⟩ := (tryVault_eq_ok _ _ _ _ _ _).mp checked
  have ⟨terms, known, program⟩ := other.underlyingTokenProgram
  have ⟨terms', known', same_terms⟩ := extended.mints _ _ known
  have ⟨target, targetHeld, targetOwner, targetMint⟩ := other.underlyingAta
  have ⟨target', targetHeld', targetMint', targetOwner'⟩ := extended.accounts _ _ targetHeld
  have ⟨account, held, owner, mint, enough⟩ := other.stedeAta
  have ⟨vault, found, unpaused, underlying', stede', vault_eq'⟩ := other.vault
  refine ⟨other.pays, other.positive, ?_, other.tokenProgram,
    ⟨terms', known', same_terms.program.trans program⟩, ⟨account, ?_, owner, mint, enough⟩,
    ⟨target', targetHeld', targetOwner'.trans targetOwner, targetMint'.trans targetMint⟩⟩
  · rw [← same]
    by_cases mine : accounts.vault = accounts'.vault
    · rw [← mine, here, Option.some.injEq] at found
      rw [← found] at unpaused underlying' stede' vault_eq'
      rw [← mine]
      exact ⟨_, putVault_self, unpaused, underlying', stede', vault_eq'⟩
    · exact ⟨vault, putVault_other mine found, unpaused, underlying', stede', vault_eq'⟩
  · have not_vault : accounts'.userStedeAta ≠ accounts.tokenVault := by
      rw [← vault_eq]
      exact (orderly.wired _ _ here).ne_of_owner other.signed held owner
    have not_target : accounts'.userStedeAta ≠ accounts.userUnderlyingAta := by
      intro same_ata
      have ⟨receiving, receivingHeld, _, receivingMint⟩ := redeemable.underlyingAta
      rw [same_ata, receivingHeld, Option.some.injEq] at held
      rw [held, mint, ← stede', ← underlying] at receivingMint
      exact orderly.stedeMint_ne_underlyingMint found here receivingMint
    rw [← same]
    show ledger.accounts accounts'.userStedeAta = some account
    rw [TokenLedger.transferChecked_other transfer not_vault not_target,
      TokenLedger.burn_other burn apart]
    exact held

end Redeeming

/-- One holder's `unwrap`. -/
structure Redemption where
  accounts : WrapAccounts
  amount : UInt64
  permitted : Bool

def Redemption.instruction (redemption : Redemption) : Instruction :=
  .unwrap redemption.accounts redemption.amount redemption.permitted

/-- Redemptions from different Stede accounts all succeed, in the order given. -/
theorem redeem_all {rt : Runtime} {state : State} (orderly : Orderly rt state)
    (redemptions : List Redemption)
    (all : ∀ redemption ∈ redemptions, Redeemable rt state redemption.accounts redemption.amount)
    (distinct : (redemptions.map (·.accounts.userStedeAta)).Nodup) :
    ∀ entry ∈ Run.trace (step rt) state (redemptions.map Redemption.instruction), entry.2 = .ok () := by
  induction redemptions generalizing state with
  | nil =>
      intro entry member
      cases member
  | cons redemption rest ih =>
      have ⟨fresh, rest_distinct⟩ := List.nodup_cons.mp distinct
      have first := all redemption List.mem_cons_self
      have ⟨next, success⟩ := first.unwrap orderly redemption.permitted
      have next_orderly : Orderly rt next := by
        have stepped : step rt state redemption.instruction = .ok next := success
        apply orderly.step _ stepped
        intro accounts kind
        cases kind
      have rest_redeemable : ∀ later ∈ rest, Redeemable rt next later.accounts later.amount := by
        intro later member
        apply first.after orderly success (all later (List.mem_cons_of_mem _ member))
        intro same
        exact fresh (List.mem_map.mpr ⟨later, member, same⟩)
      intro entry member
      simp only [List.map_cons, Run.trace, List.mem_cons] at member
      have stepped : step rt state redemption.instruction = .ok next := success
      rcases member with now | later
      · rw [now, stepped]
        rfl
      · rw [Run.commit_of_ok stepped] at later
        exact ih next_orderly rest_redeemable rest_distinct entry later

/-- The exact ledger at the end of a run. -/
structure LedgerExact (rt : Runtime) (genesis : State) (instructions : List Instruction)
    (final : State) : Prop where
  /-- What lies in the token vault beyond the locked amount was donated to it. -/
  balance : ∀ key vault, final.vaults key = some vault →
    final.ledger.balance vault.tokenVault =
      vault.lockedAmount.toNat + Run.total (step rt) (donatedTo key) genesis instructions
  /-- What is locked beyond the supply was burned directly. -/
  locked : ∀ key vault, final.vaults key = some vault →
    vault.lockedAmount.toNat =
      final.ledger.supply vault.stedeMint + Run.total (step rt) (burnedOf key) genesis instructions
  isolated : ∀ instruction next key vault, step rt final instruction = .ok next →
    final.vaults key = some vault → ¬ Concerns final key instruction →
    ∃ vault', next.vaults key = some vault' ∧ vault'.lockedAmount = vault.lockedAmount ∧
      next.ledger.balance vault'.tokenVault = final.ledger.balance vault.tokenVault ∧
      next.ledger.supply vault'.stedeMint = final.ledger.supply vault.stedeMint
  no_overflow : ∀ accounts amount permitted,
    wrap rt final accounts amount permitted ≠ .error (.vault .overflow) ∧
      unwrap rt final accounts amount permitted ≠ .error (.vault .overflow)
  redeemable : ∀ accounts amount permitted, Redeemable rt final accounts amount →
    ∃ next, unwrap rt final accounts amount permitted = .ok next
  all_redeemable : ∀ redemptions : List Redemption,
    (∀ redemption ∈ redemptions, Redeemable rt final redemption.accounts redemption.amount) →
    (redemptions.map (·.accounts.userStedeAta)).Nodup →
    ∀ entry ∈ Run.trace (step rt) final (redemptions.map Redemption.instruction), entry.2 = .ok ()

/-- Vaults over plain mints, from any ledger whose tokens are issued: whatever
anybody does in whatever order, the ledger is exact at every point. -/
theorem vault_ledger_exact (rt : Runtime) (genesis : State)
    (no_vaults : ∀ key, genesis.vaults key = none) (issued : genesis.ledger.Issued)
    (instructions : List Instruction) (opens : OpensPlainVaults rt genesis instructions) :
    LedgerExact rt genesis instructions (Run.run (step rt) genesis instructions) := by
  have start : Orderly rt genesis := orderly_of_no_vaults no_vaults issued
  have orderly := run_orderly start opens
  refine ⟨?_, ?_, ?_, ?_, ?_, redeem_all orderly⟩
  · intro key vault found
    have moved := run_surplus start opens key
    simp only [surplusOf, found, no_vaults] at moved
    omega
  · intro key vault found
    have moved := run_shortage start opens key
    simp only [shortageOf, found, no_vaults] at moved
    omega
  · intro instruction next key vault success found unconcerned
    exact step_unconcerned orderly success found unconcerned
  · intro accounts amount permitted
    exact ⟨wrap_ne_overflow orderly accounts amount permitted,
      unwrap_ne_overflow accounts amount permitted⟩
  · intro accounts amount permitted redeemable
    exact redeemable.unwrap orderly permitted

/- The same chain from nothing: the mint is made and issued, a vault opened, 600
units wrapped, 100 donated and 50 Stede burned. -/
section Sample

open Stede.Runtime (sampleKey)

def emptyGenesis : State := ⟨⟨fun _ => none, fun _ => none⟩, fun _ => none⟩

def plainRun : List Instruction :=
  [.initializeMint (sampleSigner 10) { plainMint with mintAuthority := some (sampleKey 3) },
    .initializeAccount Programs.token2022 (sampleSigner 11) (sampleKey 10) (sampleKey 1),
    .mintTo Programs.token2022 (sampleKey 10) (sampleKey 11) (sampleSigner 3) 1000,
    .initializeVault ⟨sampleSigner 2, sampleKey 10, sampleVault, sampleSigner 12, sampleSigner 13,
      Programs.token2022, Programs.token2022⟩,
    .initializeAccount Programs.token2022 (sampleSigner 14) (sampleKey 12) (sampleKey 1),
    .wrap sampleAccounts 600 true,
    .transferChecked Programs.token2022 (sampleKey 11) (sampleKey 10) (sampleKey 13)
      (sampleSigner 1) 100 6 true,
    .burn Programs.token2022 (sampleKey 14) (sampleKey 12) (sampleSigner 1) 50]

def opensPlain (state : State) : Instruction → Bool
  | .initializeVault accounts => (state.ledger.mints accounts.underlyingMint).all fun terms =>
      terms.transferFee.isNone && !terms.guarded
  | _ => true

theorem opensPlainVaults_of_check {rt : Runtime} {genesis : State} {instructions : List Instruction}
    (checked : Run.allTaken (step rt) opensPlain genesis instructions = true) :
    OpensPlainVaults rt genesis instructions := by
  intro current accounts taken terms known
  have plain := Run.check_of_allTaken checked taken
  simp only [opensPlain, known, Option.all_some, Bool.and_eq_true, Option.isNone_iff_eq_none,
    Bool.not_eq_true'] at plain
  exact plain

theorem vault_ledger_exact_sample :
    LedgerExact .sample emptyGenesis plainRun (Run.run (step .sample) emptyGenesis plainRun) ∧
    ((Run.run (step .sample) emptyGenesis plainRun).vaults sampleVault).map
      (fun vault => vault.lockedAmount) = some 600 ∧
    Run.total (step .sample) (donatedTo sampleVault) emptyGenesis plainRun = 100 ∧
    Run.total (step .sample) (burnedOf sampleVault) emptyGenesis plainRun = 50 :=
  ⟨vault_ledger_exact .sample emptyGenesis (fun _ => rfl) (fun _ => Holdings.Bounded.nothing 0) plainRun
    (opensPlainVaults_of_check (by decide +kernel)), by decide +kernel, by decide +kernel,
    by decide +kernel⟩

end Sample

end Stede.StedeVault
