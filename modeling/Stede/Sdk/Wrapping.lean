import Mathlib
import Stede.Sdk.Transfer
import Stede.StedeVault.Deposit
import Stede.StedeVault.History

set_option autoImplicit false

/- `StedeClient.getVault`, `wrap` and `unwrap`. -/
namespace Stede.Sdk

open StedeVault (Orderly Wrappable Redeemable Holds spends OpensPlainVaults)

def deriveVaultPda (rt : Runtime) (underlyingMint : Pubkey) : Pubkey :=
  (rt.pda [byteString "vault", underlyingMint.bytes] STEDE_VAULT_PROGRAM_ID).1

structure VaultRecord where
  admin : Pubkey
  underlyingMint : Pubkey
  stedeMint : Pubkey
  tokenVault : Pubkey
  lockedAmount : UInt64
  paused : Bool

def VaultRecord.ofVault (vault : StedeVault.Vault) : VaultRecord :=
  ⟨vault.admin, vault.underlyingMint, vault.stedeMint, vault.tokenVault, vault.lockedAmount,
    vault.paused⟩

/-- `getVault`: a failing fetch is `null`. -/
def getVault (rt : Runtime) (state : StedeVault.State) (underlyingMint : Pubkey) : Option VaultRecord :=
  (state.loadVault (deriveVaultPda rt underlyingMint)).toOption.map VaultRecord.ofVault

/-- The address of a wallet's account for an SPL Token mint. -/
def underlyingAta (rt : Runtime) (wallet underlyingMint : Pubkey) : Pubkey :=
  (rt.pda [wallet.bytes, Programs.token.bytes, underlyingMint.bytes] ASSOCIATED_TOKEN_PROGRAM_ID).1

/-- Every account holds its rent: nothing is at an address without lamports. -/
def RentExempt (lamports : Pubkey → Nat) (state : StedeVault.State) : Prop :=
  ∀ key, lamports key = 0 → state.ledger.accounts key = none ∧ state.ledger.mints key = none ∧
    state.vaults key = none

section Client

variable {rt : Runtime} (spl : SplToken rt)

/-- `getAssociatedTokenAddressSync` with the classic token program. -/
def getUnderlyingAta (wallet underlyingMint : Pubkey) : Except Error Pubkey := do
  require (spl.isOnCurve wallet) (.program .invalidArgument)
  return underlyingAta rt wallet underlyingMint

/-- The accounts of both instructions, with the programs that the client names. -/
def wrapAccounts (rt : Runtime) (user underlyingMint : Pubkey) (vault : VaultRecord)
    (userUnderlyingAta userStedeAta : Pubkey) : StedeVault.WrapAccounts :=
  ⟨⟨user, true, true⟩, deriveVaultPda rt underlyingMint, underlyingMint, vault.stedeMint,
    vault.tokenVault, userUnderlyingAta, userStedeAta, Programs.token2022, Programs.token⟩

/-- The instruction that creates the user's Stede account, at the user's expense, if
`getAccountInfo` is `null`, as it is where there are no lamports. -/
def ensureStedeAta (lamports : Pubkey → Nat) (state : StedeVault.State)
    (user userStedeAta stedeMint : Pubkey) : Except Error StedeVault.State :=
  if lamports userStedeAta = 0 then do
    require ((spl.opened stedeMint user).lamports ≤ lamports user) (.program .insufficientFunds)
    let ledger ← state.ledger.initializeAccount Programs.token2022 userStedeAta stedeMint user
    return ⟨ledger, state.vaults⟩
  else .ok state

/-- `StedeClient.wrap`, in one transaction. -/
def wrap (lamports : Pubkey → Nat) (state : StedeVault.State) (user underlyingMint : Pubkey)
    (amount : UInt64) (permitted : Bool) : Except Error StedeVault.State := do
  let vault ← okOr (getVault rt state underlyingMint) (.program .invalidArgument)
  let userUnderlyingAta ← getUnderlyingAta spl user underlyingMint
  let userStedeAta ← getStedeAta spl user vault.stedeMint
  let state ← ensureStedeAta spl lamports state user userStedeAta vault.stedeMint
  StedeVault.wrap rt state (wrapAccounts rt user underlyingMint vault userUnderlyingAta userStedeAta)
    amount permitted

/-- `StedeClient.unwrap`. -/
def unwrap (state : StedeVault.State) (user underlyingMint : Pubkey) (amount : UInt64)
    (permitted : Bool) : Except Error StedeVault.State := do
  let vault ← okOr (getVault rt state underlyingMint) (.program .invalidArgument)
  let userUnderlyingAta ← getUnderlyingAta spl user underlyingMint
  let userStedeAta ← getStedeAta spl user vault.stedeMint
  StedeVault.unwrap rt state (wrapAccounts rt user underlyingMint vault userUnderlyingAta userStedeAta)
    amount permitted

/-- What the client sends for the vault at an address. -/
def accountsOf (rt : Runtime) (user underlyingMint : Pubkey) (vault : StedeVault.Vault) :
    StedeVault.WrapAccounts :=
  wrapAccounts rt user underlyingMint (.ofVault vault) (underlyingAta rt user underlyingMint)
    (stedeAta rt user vault.stedeMint)

variable {spl} {lamports : Pubkey → Nat} {state next : StedeVault.State}
  {user underlyingMint : Pubkey} {amount : UInt64} {permitted : Bool}

theorem wrap_eq_ok : wrap spl lamports state user underlyingMint amount permitted = .ok next ↔
    ∃ vault, state.vaults (deriveVaultPda rt underlyingMint) = some vault ∧ spl.isOnCurve user = true ∧
      ∃ opened,
        ensureStedeAta spl lamports state user (stedeAta rt user vault.stedeMint) vault.stedeMint =
          .ok opened ∧
        StedeVault.wrap rt opened (accountsOf rt user underlyingMint vault) amount permitted =
          .ok next := by
  cases found : state.vaults (deriveVaultPda rt underlyingMint) with
  | none =>
      simp only [wrap, getVault, StedeVault.State.loadVault, found, okOr, Except.toOption, Option.map_none,
        reduceCtorEq, false_and, exists_false, iff_false]
      intro success
      cases success
  | some vault =>
      simp only [wrap, getVault, StedeVault.State.loadVault, found, okOr, Except.toOption, Option.map_some,
        getUnderlyingAta, getStedeAta, bind_eq_ok, require_eq_ok, exists_const, pure, Except.pure,
        Except.ok.injEq, exists_eq_left', Option.some.injEq]
      constructor
      · rintro ⟨_, ⟨onCurve, rfl⟩, _, ⟨_, rfl⟩, opened, made, success⟩
        exact ⟨onCurve, opened, made, success⟩
      · rintro ⟨onCurve, opened, made, success⟩
        exact ⟨_, ⟨onCurve, rfl⟩, _, ⟨onCurve, rfl⟩, opened, made, success⟩

theorem unwrap_eq_ok : unwrap spl state user underlyingMint amount permitted = .ok next ↔
    ∃ vault, state.vaults (deriveVaultPda rt underlyingMint) = some vault ∧ spl.isOnCurve user = true ∧
      StedeVault.unwrap rt state (accountsOf rt user underlyingMint vault) amount permitted =
        .ok next := by
  cases found : state.vaults (deriveVaultPda rt underlyingMint) with
  | none =>
      simp only [unwrap, getVault, StedeVault.State.loadVault, found, okOr, Except.toOption,
        Option.map_none, reduceCtorEq, false_and, exists_false, iff_false]
      intro success
      cases success
  | some vault =>
      simp only [unwrap, getVault, StedeVault.State.loadVault, found, okOr, Except.toOption,
        Option.map_some, getUnderlyingAta, getStedeAta, bind_eq_ok, require_eq_ok, exists_const, pure,
        Except.pure, Except.ok.injEq, exists_eq_left', Option.some.injEq]
      constructor
      · rintro ⟨_, ⟨onCurve, rfl⟩, _, ⟨_, rfl⟩, success⟩
        exact ⟨onCurve, success⟩
      · rintro ⟨onCurve, success⟩
        exact ⟨_, ⟨onCurve, rfl⟩, _, ⟨onCurve, rfl⟩, success⟩

end Client

/-- Opening a token account disturbs no vault. -/
theorem orderly_of_opened {rt : Runtime} {state : StedeVault.State} (orderly : Orderly rt state)
    {ledger : TokenLedger} {program key mint owner : Pubkey}
    (success : state.ledger.initializeAccount program key mint owner = .ok ledger) :
    Orderly rt ⟨ledger, state.vaults⟩ where
  wired here vault found :=
    (orderly.wired here vault found).mono (TokenLedger.initializeAccount_extends success)
  issued := TokenLedger.initializeAccount_issued success orderly.issued
  plain here vault found := by
    obtain ⟨_, _, _, _, same⟩ := (TokenLedger.initializeAccount_eq_ok _ _ _ _ _ _).mp success
    rw [← same]
    exact orderly.plain here vault found
  solvent here vault found := by
    show ledger.balance vault.tokenVault ≥ _ ∧ _ ≥ ledger.supply vault.stedeMint
    rw [TokenLedger.initializeAccount_balance success, TokenLedger.initializeAccount_supply success]
    exact orderly.solvent here vault found

section Ensured

variable {rt : Runtime} {spl : SplToken rt} {lamports : Pubkey → Nat}
  {state opened : StedeVault.State} {user key stedeMint : Pubkey}
  (made : ensureStedeAta spl lamports state user key stedeMint = .ok opened)
include made

theorem ensureStedeAta_cases : opened = state ∨
    (lamports key = 0 ∧ (spl.opened stedeMint user).lamports ≤ lamports user) ∧ ∃ ledger,
      state.ledger.initializeAccount Programs.token2022 key stedeMint user = .ok ledger ∧
        opened = ⟨ledger, state.vaults⟩ := by
  unfold ensureStedeAta at made
  by_cases vacant : lamports key = 0
  · rw [if_pos vacant] at made
    simp only [bind_eq_ok, require_eq_ok, exists_const, pure, Except.pure, Except.ok.injEq] at made
    obtain ⟨affords, ledger, success, same⟩ := made
    exact Or.inr ⟨⟨vacant, affords⟩, ledger, success, same.symm⟩
  · rw [if_neg vacant, Except.ok.injEq] at made
    exact Or.inl made.symm

theorem ensured_orderly (orderly : Orderly rt state) : Orderly rt opened := by
  rcases ensureStedeAta_cases made with rfl | ⟨_, ledger, success, rfl⟩
  · exact orderly
  · exact orderly_of_opened orderly success

theorem ensured_vaults : opened.vaults = state.vaults := by
  rcases ensureStedeAta_cases made with rfl | ⟨_, ledger, success, rfl⟩
  · rfl
  · rfl

theorem ensured_mints : opened.ledger.mints = state.ledger.mints := by
  rcases ensureStedeAta_cases made with rfl | ⟨_, ledger, success, rfl⟩
  · rfl
  · obtain ⟨_, _, _, _, same⟩ := (TokenLedger.initializeAccount_eq_ok _ _ _ _ _ _).mp success
    rw [← same]
    rfl

theorem ensured_balance : opened.ledger.balance = state.ledger.balance := by
  rcases ensureStedeAta_cases made with rfl | ⟨_, ledger, success, rfl⟩
  · rfl
  · exact TokenLedger.initializeAccount_balance success

/-- An account with something in it was there before. -/
theorem funds_of_ensured {other owner mint : Pubkey} {amount : UInt64} (positive : 0 < amount)
    (holds : Holds opened.ledger other owner mint amount) :
    Holds state.ledger other owner mint amount := by
  rcases ensureStedeAta_cases made with rfl | ⟨_, ledger, success, rfl⟩
  · exact holds
  · obtain ⟨_, _, _, _, same⟩ := (TokenLedger.initializeAccount_eq_ok _ _ _ _ _ _).mp success
    obtain ⟨account, found, owner', mint', enough⟩ := holds
    rw [← same, TokenLedger.put_accounts] at found
    by_cases here : other = key
    · rw [here, Function.update_self, Option.some.injEq] at found
      rw [← found] at enough
      have less := UInt64.le_iff_toNat_le.mp enough
      have more := UInt64.lt_iff_toNat_lt.mp positive
      exact absurd (Nat.lt_of_lt_of_le more less) (Nat.lt_irrefl _)
    · rw [Function.update_of_ne here] at found
      exact ⟨account, found, owner', mint', enough⟩

end Ensured

/-- What the client's `wrap` needs: a wallet with enough of an SPL Token mint in its
associated account, an open vault, and a Stede account that is the wallet's, or an
address without lamports and the rent of an account there. -/
structure ClientWraps {rt : Runtime} (spl : SplToken rt) (lamports : Pubkey → Nat)
    (state : StedeVault.State) (user underlyingMint : Pubkey) (amount : UInt64) : Prop where
  wallet : rt.canSign user = true
  onCurve : spl.isOnCurve user = true
  positive : 0 < amount
  vault : ∃ vault, state.vaults (deriveVaultPda rt underlyingMint) = some vault ∧
    vault.paused = false ∧ vault.underlyingMint = underlyingMint ∧
    ((lamports (stedeAta rt user vault.stedeMint) = 0 ∧
        (spl.opened vault.stedeMint user).lamports ≤ lamports user) ∨
      Holds state.ledger (stedeAta rt user vault.stedeMint) user vault.stedeMint 0)
  classic : ∃ terms, state.ledger.mints underlyingMint = some terms ∧ terms.program = Programs.token
  funds : Holds state.ledger (underlyingAta rt user underlyingMint) user underlyingMint amount

section Exactly

variable {rt : Runtime} {spl : SplToken rt} {lamports : Pubkey → Nat} {state next : StedeVault.State}
  {user underlyingMint : Pubkey} {amount : UInt64} {permitted : Bool}

theorem clientWraps_of_wrap
    (success : wrap spl lamports state user underlyingMint amount permitted = .ok next) :
    ClientWraps spl lamports state user underlyingMint amount := by
  obtain ⟨vault, found, onCurve, opened, made, done⟩ := wrap_eq_ok.mp success
  have wrappable := StedeVault.wrappable_of_wrap done
  obtain ⟨own, here, unpaused, underlying, _, _⟩ := wrappable.vault
  obtain ⟨terms, known, program⟩ := wrappable.underlyingTokenProgram
  obtain ⟨account, held, owner, mint⟩ := wrappable.stedeAta
  have same : own = vault := by
    have here' : opened.vaults (deriveVaultPda rt underlyingMint) = some own := here
    rw [ensured_vaults made, found, Option.some.injEq] at here'
    exact here'.symm
  rw [ensured_mints made] at known
  rw [same] at unpaused underlying
  refine ⟨wrappable.signed, onCurve, wrappable.positive, ⟨vault, found, unpaused, underlying, ?_⟩,
    ⟨terms, known, program⟩, funds_of_ensured made wrappable.positive wrappable.underlyingAta⟩
  rcases ensureStedeAta_cases made with rfl | ⟨vacant, _⟩
  · exact Or.inr ⟨account, held, owner, mint, UInt64.zero_le⟩
  · exact Or.inl vacant

theorem ClientWraps.wrap (orderly : Orderly rt state) (exempt : RentExempt lamports state)
    (wraps : ClientWraps spl lamports state user underlyingMint amount) (permitted : Bool) :
    ∃ next, Sdk.wrap spl lamports state user underlyingMint amount permitted = .ok next := by
  obtain ⟨vault, found, unpaused, underlying, ready⟩ := wraps.vault
  obtain ⟨stedeTerms, stedeKnown, stedeProgram, _⟩ := (orderly.wired _ _ found).issued
  obtain ⟨source, paying, payer, mint, enough⟩ := wraps.funds
  -- what the first instruction leaves has an account for the Stede, and the funds
  have ensured : ∃ opened, ensureStedeAta spl lamports state user (stedeAta rt user vault.stedeMint)
      vault.stedeMint = .ok opened ∧
      Holds opened.ledger (stedeAta rt user vault.stedeMint) user vault.stedeMint 0 ∧
      opened.ledger.accounts (underlyingAta rt user underlyingMint) = some source := by
    rcases ready with ⟨vacant, affords⟩ | holds
    · obtain ⟨no_account, no_mint, _⟩ := exempt _ vacant
      have success := (TokenLedger.initializeAccount_eq_ok state.ledger _ Programs.token2022
        (stedeAta rt user vault.stedeMint) vault.stedeMint user).mpr
          ⟨⟨no_mint, no_account⟩, stedeTerms, stedeKnown, stedeProgram, rfl⟩
      have apart : underlyingAta rt user underlyingMint ≠ stedeAta rt user vault.stedeMint := by
        intro same
        rw [same, no_account] at paying
        cases paying
      have created : ensureStedeAta spl lamports state user (stedeAta rt user vault.stedeMint)
          vault.stedeMint = .ok ⟨state.ledger.put (stedeAta rt user vault.stedeMint)
            ⟨vault.stedeMint, user, 0⟩, state.vaults⟩ := by
        unfold ensureStedeAta
        rw [if_pos vacant, require_of_true affords, ok_bind, success]
        rfl
      refine ⟨_, created, ⟨⟨vault.stedeMint, user, 0⟩, ?_, rfl, rfl, UInt64.le_refl 0⟩, ?_⟩
      · exact Function.update_self ..
      · rw [TokenLedger.put_accounts, Function.update_of_ne apart]
        exact paying
    · have occupied : lamports (stedeAta rt user vault.stedeMint) ≠ 0 := by
        intro vacant
        obtain ⟨account, held, _⟩ := holds
        rw [(exempt _ vacant).1] at held
        cases held
      refine ⟨state, ?_, holds, paying⟩
      unfold ensureStedeAta
      rw [if_neg occupied]
  obtain ⟨opened, made, ⟨receiving, held, owner, stedeMint, _⟩, paying'⟩ := ensured
  have here : opened.vaults (deriveVaultPda rt underlyingMint) = some vault := by
    rw [ensured_vaults made]
    exact found
  obtain ⟨terms, known, program⟩ := wraps.classic
  rw [← ensured_mints made] at known
  have wrappable : Wrappable rt opened (accountsOf rt user underlyingMint vault) amount :=
    ⟨AccountMeta.pays_of_canSign wraps.wallet, wraps.positive,
      ⟨vault, here, unpaused, underlying, rfl, rfl⟩, rfl,
      ⟨terms, known, program⟩, ⟨source, paying', payer, mint, enough⟩,
      ⟨receiving, held, owner, stedeMint⟩⟩
  obtain ⟨next, done⟩ := wrappable.wrap (ensured_orderly made orderly) permitted
  exact ⟨next, wrap_eq_ok.mpr ⟨vault, found, wraps.onCurve, opened, made, done⟩⟩

end Exactly

/-- In every state reached over plain mints, exactly who can wrap through the client:
never into a vault over a Token-2022 mint, though the program has such vaults, and not
once somebody has sent lamports to where the first Stede account would be. -/
theorem client_wraps_exactly (rt : Runtime) (spl : SplToken rt) (genesis : StedeVault.State)
    (no_vaults : ∀ key, genesis.vaults key = none) (issued : genesis.ledger.Issued)
    (instructions : List StedeVault.Instruction) (opens : OpensPlainVaults rt genesis instructions)
    (lamports : Pubkey → Nat)
    (exempt : RentExempt lamports (Run.run (StedeVault.step rt) genesis instructions))
    (user underlyingMint : Pubkey) (amount : UInt64) (permitted : Bool) :
    (∃ next, wrap spl lamports (Run.run (StedeVault.step rt) genesis instructions) user underlyingMint
        amount permitted = .ok next) ↔
      ClientWraps spl lamports (Run.run (StedeVault.step rt) genesis instructions) user underlyingMint
        amount := by
  have orderly := StedeVault.run_orderly (StedeVault.orderly_of_no_vaults no_vaults issued) opens
  constructor
  · rintro ⟨next, success⟩
    exact clientWraps_of_wrap success
  · intro wraps
    exact wraps.wrap orderly exempt permitted

/-- An account ends with what it had at first and what others sent in between. -/
def Returned (key : Pubkey) (first wrapped later last : TokenLedger) : Prop :=
  wrapped.balance key ≤ later.balance key ∧
    last.balance key + wrapped.balance key = first.balance key + later.balance key

section Waiting

variable {rt : Runtime} {spl : SplToken rt} {lamports : Pubkey → Nat}
  {state wrapped : StedeVault.State} {user underlyingMint : Pubkey} {amount : UInt64} {permitted : Bool}

/-- What the client's `wrap` leaves behind: a vault over the mint, and the wallet's two
accounts, which exchanged the amount. -/
structure Deposited (rt : Runtime) (state wrapped : StedeVault.State) (user underlyingMint : Pubkey)
    (amount : UInt64) (vault : StedeVault.Vault) : Prop where
  record : wrapped.vaults (deriveVaultPda rt underlyingMint) = some vault
  underlying : vault.underlyingMint = underlyingMint
  classic : ∃ terms, wrapped.ledger.mints underlyingMint = some terms ∧ terms.program = Programs.token
  paid : wrapped.ledger.balance (underlyingAta rt user underlyingMint) + amount.toNat =
    state.ledger.balance (underlyingAta rt user underlyingMint)
  received : wrapped.ledger.balance (stedeAta rt user vault.stedeMint) =
    state.ledger.balance (stedeAta rt user vault.stedeMint) + amount.toNat
  paying : ∃ account, wrapped.ledger.accounts (underlyingAta rt user underlyingMint) = some account ∧
    account.owner = user ∧ account.mint = underlyingMint
  receiving : ∃ account, wrapped.ledger.accounts (stedeAta rt user vault.stedeMint) = some account ∧
    account.owner = user ∧ account.mint = vault.stedeMint

theorem wrap_deposits (orderly : Orderly rt state)
    (success : wrap spl lamports state user underlyingMint amount permitted = .ok wrapped) :
    Orderly rt wrapped ∧ ∃ vault, Deposited rt state wrapped user underlyingMint amount vault := by
  obtain ⟨vault, found, onCurve, opened, made, done⟩ := wrap_eq_ok.mp success
  have opened_orderly := ensured_orderly made orderly
  obtain ⟨paid, received⟩ := StedeVault.wrap_exchange opened_orderly done
  rw [ensured_balance made] at paid received
  have stepped : StedeVault.step rt opened
      (.wrap (accountsOf rt user underlyingMint vault) amount permitted) = .ok wrapped := done
  have extended := StedeVault.step_extends stepped
  have after := opened_orderly.step (by rintro accounts ⟨⟩) stepped
  have wrappable := StedeVault.wrappable_of_wrap done
  obtain ⟨own, known, _, underlying, _, _⟩ := wrappable.vault
  obtain ⟨terms, mintKnown, program⟩ := wrappable.underlyingTokenProgram
  obtain ⟨terms', mintKnown', sameTerms⟩ := extended.mints _ _ mintKnown
  obtain ⟨source, sourceHeld, sourceOwner, sourceMint, _⟩ := wrappable.underlyingAta
  obtain ⟨target, targetHeld, targetOwner, targetMint⟩ := wrappable.stedeAta
  obtain ⟨paying, payingHeld, sameMint, sameOwner⟩ := extended.accounts _ _ sourceHeld
  obtain ⟨receiving, receivingHeld, sameMint', sameOwner'⟩ := extended.accounts _ _ targetHeld
  have here : opened.vaults (deriveVaultPda rt underlyingMint) = some vault := by
    rw [ensured_vaults made]
    exact found
  have same : own = vault := by
    have known' : opened.vaults (deriveVaultPda rt underlyingMint) = some own := known
    rw [here, Option.some.injEq] at known'
    exact known'.symm
  rw [same] at underlying
  obtain ⟨lockedAmount, paused, kept, _⟩ := StedeVault.step_posted here opened_orderly.wired stepped
  exact ⟨after, _, kept, underlying, ⟨terms', mintKnown', sameTerms.program.trans program⟩,
    paid, received,
    ⟨paying, payingHeld, sameOwner.trans sourceOwner, sameMint.trans sourceMint⟩,
    ⟨receiving, receivingHeld, sameOwner'.trans targetOwner, sameMint'.trans targetMint⟩⟩

theorem run_extends (genesis : StedeVault.State) (instructions : List StedeVault.Instruction) :
    genesis.ledger.Extends (Run.run (StedeVault.step rt) genesis instructions).ledger := by
  apply @Run.run_invariant StedeVault.State StedeVault.Instruction Error (StedeVault.step rt)
    (fun state => genesis.ledger.Extends state.ledger) _ _ (TokenLedger.Extends.refl genesis.ledger)
  intro current instruction next _ extended success
  exact extended.trans (StedeVault.step_extends success)

/-- An account that waits for its owner has at least what it had. -/
theorem waiting {genesis : StedeVault.State} (wallet : rt.canSign user = true)
    (wired : StedeVault.WellWired rt genesis) {instructions : List StedeVault.Instruction}
    (unspent : ∀ instruction ∈ instructions, spends rt user instruction = false) {key mint : Pubkey}
    {account : TokenAccount} (found : genesis.ledger.accounts key = some account)
    (owner : account.owner = user) (mint_eq : account.mint = mint) :
    ∃ account',
      (Run.run (StedeVault.step rt) genesis instructions).ledger.accounts key = some account' ∧
      account'.owner = user ∧ account'.mint = mint ∧
      genesis.ledger.balance key ≤ account'.amount.toNat := by
  have holds : Holds genesis.ledger key user mint account.amount :=
    ⟨account, found, owner, mint_eq, UInt64.le_refl _⟩
  obtain ⟨account', found', owner', mint', enough⟩ :=
    StedeVault.run_holds wallet wired holds unspent
  refine ⟨account', found', owner', mint', ?_⟩
  rw [TokenLedger.balance_of_some found]
  exact UInt64.le_iff_toNat_le.mp enough

end Waiting

/-- What the client wrapped, the client can unwrap, whatever others did in the meantime
and in whatever order, unless the vault is paused by then: the wallet ends with what it
had and what others sent. -/
theorem wrapped_redeemable (rt : Runtime) (spl : SplToken rt) (genesis : StedeVault.State)
    (no_vaults : ∀ key, genesis.vaults key = none) (issued : genesis.ledger.Issued)
    (instructions : List StedeVault.Instruction) (opens : OpensPlainVaults rt genesis instructions)
    (lamports : Pubkey → Nat) (user underlyingMint : Pubkey) (amount : UInt64) (permitted : Bool)
    (wrapped : StedeVault.State)
    (success : wrap spl lamports (Run.run (StedeVault.step rt) genesis instructions) user underlyingMint
      amount permitted = .ok wrapped)
    (later : List StedeVault.Instruction) (opens_later : OpensPlainVaults rt wrapped later)
    (unspent : ∀ instruction ∈ later, spends rt user instruction = false)
    (unpaused : ∀ vault, (Run.run (StedeVault.step rt) wrapped later).vaults
      (deriveVaultPda rt underlyingMint) = some vault → vault.paused = false) (permitted_later : Bool) :
    ∃ vault final, (Run.run (StedeVault.step rt) wrapped later).vaults
        (deriveVaultPda rt underlyingMint) = some vault ∧
      unwrap spl (Run.run (StedeVault.step rt) wrapped later) user underlyingMint amount
        permitted_later = .ok final ∧
      Returned (underlyingAta rt user underlyingMint)
        (Run.run (StedeVault.step rt) genesis instructions).ledger wrapped.ledger
        (Run.run (StedeVault.step rt) wrapped later).ledger final.ledger ∧
      Returned (stedeAta rt user vault.stedeMint)
        (Run.run (StedeVault.step rt) genesis instructions).ledger wrapped.ledger
        (Run.run (StedeVault.step rt) wrapped later).ledger final.ledger := by
  have orderly := StedeVault.run_orderly (StedeVault.orderly_of_no_vaults no_vaults issued) opens
  have wraps := clientWraps_of_wrap success
  obtain ⟨after, vault, deposited⟩ := wrap_deposits orderly success
  have settled := StedeVault.run_orderly after opens_later
  obtain ⟨_, lockedAmount, paused, here⟩ := StedeVault.run_kept after.wired deposited.record later
  obtain ⟨terms, known, program⟩ := deposited.classic
  obtain ⟨terms', known', sameTerms⟩ := (@run_extends rt wrapped later).mints _ _ known
  obtain ⟨paying, payingHeld, payingOwner, payingMint⟩ := deposited.paying
  obtain ⟨receiving, receivingHeld, receivingOwner, receivingMint⟩ := deposited.receiving
  obtain ⟨target, targetHeld, targetOwner, targetMint, more⟩ :=
    waiting wraps.wallet after.wired unspent payingHeld payingOwner payingMint
  obtain ⟨source, sourceHeld, sourceOwner, sourceMint, enough⟩ :=
    waiting wraps.wallet after.wired unspent receivingHeld receivingOwner receivingMint
  have paid := deposited.paid
  have received := deposited.received
  have redeemable : Redeemable rt (Run.run (StedeVault.step rt) wrapped later)
      (accountsOf rt user underlyingMint vault) amount :=
    ⟨AccountMeta.pays_of_canSign wraps.wallet, wraps.positive,
      ⟨_, here, unpaused _ here, deposited.underlying, rfl, rfl⟩, rfl,
      ⟨terms', known', sameTerms.program.trans program⟩,
      ⟨source, sourceHeld, sourceOwner, sourceMint, UInt64.le_iff_toNat_le.mpr (by omega)⟩,
      ⟨target, targetHeld, targetOwner, targetMint⟩⟩
  obtain ⟨final, done⟩ := redeemable.unwrap settled permitted_later
  obtain ⟨refunded, returned⟩ := StedeVault.unwrap_exchange settled done
  have target_balance := TokenLedger.balance_of_some targetHeld
  have source_balance := TokenLedger.balance_of_some sourceHeld
  dsimp only [accountsOf, wrapAccounts] at refunded returned
  refine ⟨_, final, here, unwrap_eq_ok.mpr ⟨_, here, wraps.onCurve, done⟩, ?_, ?_⟩
  · constructor
    · omega
    · omega
  · show Returned (stedeAta rt user vault.stedeMint) _ _ _ _
    constructor
    · omega
    · omega

/- A wallet with 1000 units of an SPL Token mint at its associated address. -/
section Sample

open Stede.Runtime (sampleKey)
open StedeVault (sampleSigner sampleVault)

def clientGenesis : StedeVault.State where
  ledger :=
    { mints := fun key =>
        if key = sampleKey 10 then some ⟨Programs.token, 6, 1000, none, none, false⟩ else none
      accounts := fun key =>
        if key = underlyingAta .sample (sampleKey 1) (sampleKey 10) then
          some ⟨sampleKey 10, sampleKey 1, 1000⟩
        else none }
  vaults _ := none

theorem clientGenesis_issued : clientGenesis.ledger.Issued := by
  intro mint
  by_cases here : mint = sampleKey 10
  · have held : clientGenesis.ledger.holding mint =
        Function.update (fun _ => 0) (underlyingAta .sample (sampleKey 1) (sampleKey 10))
          (0 + 1000) := by
      funext key
      by_cases own : key = underlyingAta .sample (sampleKey 1) (sampleKey 10)
      · rw [own, Function.update_self]
        simp only [TokenLedger.holding, clientGenesis, ↓reduceIte, here]
        rfl
      · rw [Function.update_of_ne own]
        simp only [TokenLedger.holding, clientGenesis, own, ↓reduceIte]
    have supply : clientGenesis.ledger.supply mint = 0 + 1000 := by
      simp only [TokenLedger.supply, clientGenesis, here, ↓reduceIte]
      rfl
    rw [held, supply]
    exact (Holdings.Bounded.nothing 0).issue _ 1000
  · have held : clientGenesis.ledger.holding mint = fun _ => 0 := by
      funext key
      by_cases own : key = underlyingAta .sample (sampleKey 1) (sampleKey 10)
      · simp only [TokenLedger.holding, clientGenesis, own, ↓reduceIte, Ne.symm here]
      · simp only [TokenLedger.holding, clientGenesis, own, ↓reduceIte]
    rw [held]
    exact Holdings.Bounded.nothing _

def clientRun : List StedeVault.Instruction :=
  [.initializeVault ⟨sampleSigner 2, sampleKey 10, sampleVault, sampleSigner 12, sampleSigner 13,
    Programs.token2022, Programs.token⟩]

theorem client_opens_plain : OpensPlainVaults .sample clientGenesis clientRun :=
  StedeVault.opensPlainVaults_of_check (by decide +kernel)

/-- The wallet has the rent of two accounts; its Stede account is missing. -/
def clientLamports (key : Pubkey) : Nat :=
  if key = stedeAta .sample (sampleKey 1) (sampleKey 12) then 0 else 2

theorem client_exempt :
    RentExempt clientLamports (Run.run (StedeVault.step .sample) clientGenesis clientRun) := by
  intro key empty
  have here : key = stedeAta .sample (sampleKey 1) (sampleKey 12) := by
    by_contra elsewhere
    simp [clientLamports, elsewhere] at empty
  rw [here]
  refine ⟨?_, ?_, ?_⟩ <;> exact Option.isNone_iff_eq_none.mp (by decide +kernel)

theorem client_wraps_exactly_sample :
    ClientWraps plainSpl clientLamports (Run.run (StedeVault.step .sample) clientGenesis clientRun)
      (sampleKey 1) (sampleKey 10) 600 := by
  apply (client_wraps_exactly .sample plainSpl clientGenesis (fun _ => rfl) clientGenesis_issued clientRun
    client_opens_plain clientLamports client_exempt (sampleKey 1) (sampleKey 10) 600 true).mp
  exact isOk_iff_exists.mp (by decide +kernel)

/-- One lamport from anybody at the missing account, and the client does not create it. -/
example : (wrap plainSpl (Function.update clientLamports (stedeAta .sample (sampleKey 1) (sampleKey 12)) 1)
    (Run.run (StedeVault.step .sample) clientGenesis clientRun) (sampleKey 1) (sampleKey 10) 600
      true).toOption.isNone = true := by
  decide +kernel

/-- The wallet has wrapped 600 units. -/
def clientWrapped : StedeVault.State :=
  ((wrap plainSpl clientLamports (Run.run (StedeVault.step .sample) clientGenesis clientRun) (sampleKey 1)
    (sampleKey 10) 600 true).toOption).getD clientGenesis

theorem clientWrapped_eq : wrap plainSpl clientLamports
    (Run.run (StedeVault.step .sample) clientGenesis clientRun) (sampleKey 1) (sampleKey 10) 600 true =
      .ok clientWrapped := by
  have accepted : (wrap plainSpl clientLamports
      (Run.run (StedeVault.step .sample) clientGenesis clientRun) (sampleKey 1) (sampleKey 10) 600
        true).isOk = true := by
    decide +kernel
  obtain ⟨next, success⟩ := isOk_iff_exists.mp accepted
  rw [clientWrapped, success]
  rfl

/-- Another wallet tries to burn them, and to move the underlying. -/
def clientLater : List StedeVault.Instruction :=
  [.burn Programs.token2022 (stedeAta .sample (sampleKey 1) (sampleKey 12)) (sampleKey 12)
      (sampleSigner 3) 600,
    .transferChecked Programs.token (sampleKey 13) (sampleKey 10)
      (underlyingAta .sample (sampleKey 1) (sampleKey 10)) (sampleSigner 3) 600 6 true]

theorem wrapped_redeemable_sample :
    ∃ final, unwrap plainSpl (Run.run (StedeVault.step .sample) clientWrapped clientLater) (sampleKey 1)
        (sampleKey 10) 600 true = .ok final ∧
      Returned (underlyingAta .sample (sampleKey 1) (sampleKey 10))
        (Run.run (StedeVault.step .sample) clientGenesis clientRun).ledger clientWrapped.ledger
        (Run.run (StedeVault.step .sample) clientWrapped clientLater).ledger final.ledger := by
  have opens : OpensPlainVaults .sample clientWrapped clientLater :=
    StedeVault.opensPlainVaults_of_check (by decide +kernel)
  have running : ((Run.run (StedeVault.step .sample) clientWrapped clientLater).vaults
      (deriveVaultPda .sample (sampleKey 10))).all (fun vault => !vault.paused) = true := by
    decide +kernel
  obtain ⟨vault, final, _, done, returned, _⟩ := wrapped_redeemable .sample plainSpl clientGenesis
    (fun _ => rfl) clientGenesis_issued clientRun client_opens_plain clientLamports (sampleKey 1)
    (sampleKey 10) 600 true clientWrapped clientWrapped_eq clientLater opens (by decide +kernel)
    (fun vault found => by simpa [found] using running) true
  exact ⟨final, done, returned⟩

end Sample

end Stede.Sdk
