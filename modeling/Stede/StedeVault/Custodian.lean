import Mathlib
import Stede.Lib.Custodian
import Stede.Lib.Refinement
import Stede.StedeVault.Solvency

set_option autoImplicit false

/- The vault program carries out a custodian, in every run of anybody's instructions. -/
namespace Stede.StedeVault

open Custody

/-- What the vault at `key` is to the public. -/
def custodianAt (key : Pubkey) (state : State) : Option (Custodian Pubkey) :=
  (state.vaults key).map fun vault => ⟨vault.admin, vault.paused, books state.ledger vault⟩

/-- The refusals that are the vault's own. All others are about the accounts given. -/
def denial : Error → Option Denial
  | .vault .paused => some .paused
  | .vault .zeroAmount => some .nothing
  | .vault .insufficientLocked => some .short
  | .vault .overflow => some .full
  | .vault .unauthorized => some .stranger
  | _ => none

/-- What an instruction asks of the vault at `key`. -/
def actionOf (key : Pubkey) (state : State) : Instruction → Option (Action Pubkey)
  | .initializeVault accounts =>
      if accounts.vault = key then some (.establish accounts.admin.pubkey) else none
  | .setPaused accounts paused =>
      if accounts.vault = key then some (.setPaused accounts.admin.pubkey paused) else none
  | instruction =>
      match state.vaults key with
      | none => none
      | some vault =>
          if entryOf state.ledger key vault instruction = .idle then none
          else some (.enter (entryOf state.ledger key vault instruction))

/-- It is observed where it succeeds, or fails for a reason of the vault's own. -/
def observe (rt : Runtime) (key : Pubkey) (state : State) (instruction : Instruction) :
    Option (Action Pubkey) :=
  match step rt state instruction with
  | .ok _ => actionOf key state instruction
  | .error reason => if (denial reason).isSome then actionOf key state instruction else none

/-- The largest amount that the books hold is one less. -/
def capacity : Nat := 2 ^ 64

theorem custodianAt_of_some {key : Pubkey} {state : State} {vault : Vault}
    (found : state.vaults key = some vault) :
    custodianAt key state = some ⟨vault.admin, vault.paused, books state.ledger vault⟩ := by
  simp only [custodianAt, found, Option.map_some]

theorem custodianAt_of_none {key : Pubkey} {state : State} (absent : state.vaults key = none) :
    custodianAt key state = none := by
  simp only [custodianAt, absent, Option.map_none]

theorem vault_of_denial {reason : Error} (own : (denial reason).isSome = true) :
    ∃ error, reason = .vault error ∧ error ≠ .mintMismatch := by
  cases reason with
  | vault error =>
      cases error with
      | mintMismatch => cases own
      | _ => exact ⟨_, rfl, by decide⟩
  | _ => cases own

/- The token programs never answer with an error of the vault's. -/
section Foreign

variable (ledger : TokenLedger) (program source mint target authority : Pubkey) (amount : UInt64)
  (error : VaultError)

theorem transferChecked_ne_vault (decimals : UInt8) (permitted : Bool) :
    ledger.transferChecked program source mint target authority amount decimals permitted ≠
      .error (.vault error) := by
  by_cases itself : source = target
  · simp [TokenLedger.transferChecked, TokenLedger.loadMint, TokenLedger.loadAccount, bind_eq_error,
      pure, Except.pure, itself]
  · simp [TokenLedger.transferChecked, TokenLedger.loadMint, TokenLedger.loadAccount, bind_eq_error,
      pure, Except.pure, itself]

theorem mintTo_ne_vault :
    ledger.mintTo program mint target authority amount ≠ .error (.vault error) := by
  simp [TokenLedger.mintTo, TokenLedger.loadMint, TokenLedger.loadAccount, bind_eq_error, pure,
    Except.pure]

theorem burn_ne_vault :
    ledger.burn program source mint authority amount ≠ .error (.vault error) := by
  simp [TokenLedger.burn, TokenLedger.loadMint, TokenLedger.loadAccount, bind_eq_error, pure,
    Except.pure]

theorem initializeMint_ne_vault (terms : Mint) :
    ledger.initializeMint mint terms ≠ .error (.vault error) := by
  simp [TokenLedger.initializeMint, bind_eq_error, pure, Except.pure]

theorem initializeAccount_ne_vault (key : Pubkey) :
    ledger.initializeAccount program key mint authority ≠ .error (.vault error) := by
  simp [TokenLedger.initializeAccount, TokenLedger.loadMint, bind_eq_error, pure, Except.pure]

theorem setTransferFee_ne_vault (fee : TransferFee) :
    ledger.setTransferFee mint fee ≠ .error (.vault error) := by
  simp [TokenLedger.setTransferFee, TokenLedger.loadMint, bind_eq_error, pure, Except.pure]

theorem direct_ne_vault (rt : Runtime) (state : State) (signer : AccountMeta)
    {outcome : Except Error TokenLedger} (foreign : outcome ≠ .error (.vault error)) :
    state.direct rt signer outcome ≠ .error (.vault error) := by
  simp [State.direct, bind_eq_error, pure, Except.pure, foreign]

variable (rt : Runtime) (state : State)

theorem initializeVault_ne_vault (accounts : InitializeVault) :
    initializeVault rt state accounts ≠ .error (.vault error) := by
  simp [initializeVault, TokenLedger.loadMint, bind_eq_error, initializeAccount_ne_vault,
    initializeMint_ne_vault, pure, Except.pure]

theorem tryUnderlyingAta_ne_vault (accounts : WrapAccounts) :
    accounts.tryUnderlyingAta state ≠ .error (.vault error) := by
  simp [WrapAccounts.tryUnderlyingAta, TokenLedger.loadAccount, bind_eq_error]

theorem tryStedeAta_ne_vault (accounts : WrapAccounts) (stedeMint : Mint) :
    accounts.tryStedeAta state stedeMint ≠ .error (.vault error) := by
  simp [WrapAccounts.tryStedeAta, TokenLedger.loadAccount, bind_eq_error]

/-- Only the mints can be wrong about a vault. -/
theorem tryVault_ne_vault (accounts : WrapAccounts) (other : error ≠ .mintMismatch) :
    accounts.tryVault rt state ≠ .error (.vault error) := by
  simp [WrapAccounts.tryVault, State.loadVault, TokenLedger.loadMint, TokenLedger.loadAccount,
    bind_eq_error, pure, Except.pure, Ne.symm other]

end Foreign

/- What the vault refuses, and on which vault. -/
section Refusals

variable {rt : Runtime} {state : State} {error : VaultError} (own : error ≠ .mintMismatch)
include own

theorem wrap_denied {accounts : WrapAccounts} {amount : UInt64} {permitted : Bool}
    (failed : wrap rt state accounts amount permitted = .error (.vault error)) :
    ∃ vault, state.vaults accounts.vault = some vault ∧
      (vault.paused = true ∧ error = .paused ∨
        vault.paused = false ∧ amount = 0 ∧ error = .zeroAmount ∨
        vault.paused = false ∧ amount ≠ 0 ∧
          2 ^ 64 ≤ vault.lockedAmount.toNat + amount.toNat ∧ error = .overflow) := by
  simp only [wrap, bind_eq_error, tryVault_ne_vault error rt state accounts own,
    tryUnderlyingAta_ne_vault, tryStedeAta_ne_vault, transferChecked_ne_vault, mintTo_ne_vault,
    require_eq_error, okOr_eq_error, require_eq_ok, exists_const, false_or, Error.vault.injEq,
    reduceCtorEq, and_false, Checked.addU64_eq_none, pure, Except.pure, or_false, Prod.exists] at failed
  obtain ⟨vault, underlyingMint, stedeMint, checked, _, _, _, _, outcome⟩ := failed
  obtain ⟨_, found, _⟩ := (tryVault_eq_ok _ _ _ _ _ _).mp checked
  refine ⟨vault, found, ?_⟩
  rcases outcome with ⟨paused, same⟩ | ⟨unpaused, outcome⟩
  · exact Or.inl ⟨by simpa using paused, same.symm⟩
  · rcases outcome with ⟨nothing, same⟩ | ⟨something, moved, _, ledger, _, full, same⟩
    · exact Or.inr (Or.inl ⟨unpaused, by simpa using nothing, same.symm⟩)
    · exact Or.inr (Or.inr ⟨unpaused, UInt64.pos_iff_ne_zero.mp something, full, same.symm⟩)

theorem unwrap_denied {accounts : WrapAccounts} {amount : UInt64} {permitted : Bool}
    (failed : unwrap rt state accounts amount permitted = .error (.vault error)) :
    ∃ vault, state.vaults accounts.vault = some vault ∧
      (vault.paused = true ∧ error = .paused ∨
        vault.paused = false ∧ amount = 0 ∧ error = .zeroAmount ∨
        vault.paused = false ∧ amount ≠ 0 ∧ vault.lockedAmount < amount ∧
          error = .insufficientLocked) := by
  simp only [unwrap, bind_eq_error, tryVault_ne_vault error rt state accounts own,
    tryUnderlyingAta_ne_vault, tryStedeAta_ne_vault, transferChecked_ne_vault, burn_ne_vault,
    require_eq_error, okOr_eq_error, require_eq_ok, exists_const, false_or, Error.vault.injEq,
    reduceCtorEq, and_false, pure, Except.pure, or_false, Prod.exists] at failed
  obtain ⟨vault, underlyingMint, stedeMint, checked, _, _, _, _, outcome⟩ := failed
  obtain ⟨_, found, _⟩ := (tryVault_eq_ok _ _ _ _ _ _).mp checked
  refine ⟨vault, found, ?_⟩
  rcases outcome with ⟨paused, same⟩ | ⟨unpaused, outcome⟩
  · exact Or.inl ⟨by simpa using paused, same.symm⟩
  · rcases outcome with ⟨nothing, same⟩ | ⟨something, outcome⟩
    · exact Or.inr (Or.inl ⟨unpaused, by simpa using nothing, same.symm⟩)
    · have positive := UInt64.pos_iff_ne_zero.mp something
      rcases outcome with ⟨short, same⟩ | ⟨enough, burned, _, ledger, _, underflow, same⟩
      · exact Or.inr (Or.inr ⟨unpaused, positive, UInt64.not_le.mp short, same.symm⟩)
      · -- what was compared with the locked amount is not subtracted in vain
        obtain ⟨difference, defined, _⟩ := Checked.subU64_of_le _ _ (UInt64.le_iff_toNat_le.mp enough)
        rw [underflow] at defined
        cases defined

omit own in
theorem setPaused_denied {accounts : SetPaused} {paused : Bool}
    (failed : setPaused rt state accounts paused = .error (.vault error)) :
    ∃ vault, state.vaults accounts.vault = some vault ∧ vault.admin ≠ accounts.admin.pubkey ∧
      error = .unauthorized := by
  simp only [setPaused, State.loadVault, bind_eq_error, require_eq_error, okOr_eq_error,
    require_eq_ok, okOr_eq_ok, exists_const, false_or, Error.vault.injEq, reduceCtorEq, and_false, pure,
    Except.pure, or_false] at failed
  obtain ⟨_, vault, found, _, other, same⟩ := failed
  exact ⟨vault, found, other, same.symm⟩

end Refusals

/- What succeeds is allowed by the custodian, who keeps to the switch. -/
section Successes

variable {rt : Runtime} {state next : State} {key : Pubkey} {vault : Vault}
  {instruction : Instruction} (found : state.vaults key = some vault)
  (success : step rt state instruction = .ok next)
include found success

theorem step_allowed :
    Custodian.allow capacity ⟨vault.admin, vault.paused, books state.ledger vault⟩
      (entryOf state.ledger key vault instruction) = .ok () := by
  cases instruction with
  | wrap accounts amount permitted =>
      obtain ⟨own, _, _, checked, _, _, unpaused, positive, _, _, _, _, lockedAmount, total, _⟩ :=
        (wrap_eq_ok _ _ _ _ _ _).mp success
      obtain ⟨_, here, _⟩ := (tryVault_eq_ok _ _ _ _ _ _).mp checked
      by_cases mine : accounts.vault = key
      · rw [← mine, here, Option.some.injEq] at found
        rw [← found]
        have something : amount.toNat ≠ 0 := by
          have := UInt64.lt_iff_toNat_lt.mp positive
          exact Nat.pos_iff_ne_zero.mp this
        have fits : ¬ capacity ≤ own.lockedAmount.toNat + amount.toNat := by
          have := lockedAmount.toNat_lt
          unfold capacity
          omega
        simp only [entryOf, mine, ↓reduceIte, Custodian.allow, unpaused, Bool.false_eq_true, something,
          books, fits]
      · simp only [entryOf, mine, ↓reduceIte, Custodian.allow]
  | unwrap accounts amount permitted =>
      obtain ⟨own, _, _, checked, _, _, unpaused, positive, enough, _⟩ :=
        (unwrap_eq_ok _ _ _ _ _ _).mp success
      obtain ⟨_, here, _⟩ := (tryVault_eq_ok _ _ _ _ _ _).mp checked
      by_cases mine : accounts.vault = key
      · rw [← mine, here, Option.some.injEq] at found
        rw [← found]
        have something : amount.toNat ≠ 0 := by
          have := UInt64.lt_iff_toNat_lt.mp positive
          exact Nat.pos_iff_ne_zero.mp this
        have covered : ¬ own.lockedAmount.toNat < amount.toNat :=
          Nat.not_lt.mpr (UInt64.le_iff_toNat_le.mp enough)
        simp only [entryOf, mine, ↓reduceIte, Custodian.allow, unpaused, Bool.false_eq_true, something,
          books, covered]
      · simp only [entryOf, mine, ↓reduceIte, Custodian.allow]
  | transferChecked program source mint target authority amount decimals permitted =>
      by_cases gift : target = vault.tokenVault
      · simp only [entryOf, gift, ↓reduceIte, Custodian.allow]
      · simp only [entryOf, gift, ↓reduceIte, Custodian.allow]
  | mintTo program mint target authority amount =>
      by_cases gift : target = vault.tokenVault
      · simp only [entryOf, gift, ↓reduceIte, Custodian.allow]
      · simp only [entryOf, gift, ↓reduceIte, Custodian.allow]
  | burn program source mint authority amount =>
      by_cases forfeit : mint = vault.stedeMint
      · simp only [entryOf, forfeit, ↓reduceIte, Custodian.allow]
      · simp only [entryOf, forfeit, ↓reduceIte, Custodian.allow]
  | _ => rfl

/-- No instruction but `set_paused` touches the switch. -/
theorem step_paused {vault' : Vault} (kept : next.vaults key = some vault')
    (other : ∀ accounts paused, instruction = .setPaused accounts paused → accounts.vault ≠ key) :
    vault'.paused = vault.paused := by
  have untouched : next.vaults key = state.vaults key → vault'.paused = vault.paused := by
    intro same
    rw [same, found, Option.some.injEq] at kept
    rw [kept]
  have accounted : ∀ {ledger : TokenLedger} {here : Pubkey} {own : Vault} {lockedAmount : UInt64},
      state.vaults here = some own →
      State.putVault ⟨ledger, state.vaults⟩ here { own with lockedAmount := lockedAmount } = next →
      vault'.paused = vault.paused := by
    intro ledger here own lockedAmount known same
    rw [← same] at kept
    rcases putVault_cases kept with ⟨mine, changed⟩ | old
    · rw [← mine, known, Option.some.injEq] at found
      rw [← changed, ← found]
    · rw [found, Option.some.injEq] at old
      rw [old]
  cases instruction with
  | initializeVault accounts =>
      obtain ⟨_, _, _, _, unused, _, _, _, _, _, _, _, _, same⟩ :=
        (initializeVault_eq_ok _ _ _ _).mp success
      rw [← same] at kept
      rcases putVault_cases kept with ⟨mine, _⟩ | old
      · rw [mine, found] at unused
        cases unused.1
      · rw [found, Option.some.injEq] at old
        rw [old]
  | wrap accounts amount permitted =>
      obtain ⟨own, _, _, checked, _, _, _, _, _, _, _, _, _, _, same⟩ :=
        (wrap_eq_ok _ _ _ _ _ _).mp success
      obtain ⟨_, here, _⟩ := (tryVault_eq_ok _ _ _ _ _ _).mp checked
      exact accounted here same
  | unwrap accounts amount permitted =>
      obtain ⟨own, _, _, checked, _, _, _, _, _, _, _, _, _, _, _, same⟩ :=
        (unwrap_eq_ok _ _ _ _ _ _).mp success
      obtain ⟨_, here, _⟩ := (tryVault_eq_ok _ _ _ _ _ _).mp checked
      exact accounted here same
  | setPaused accounts paused =>
      obtain ⟨_, own, here, _, _, same⟩ := (setPaused_eq_ok _ _ _ _ _).mp success
      rw [← same] at kept
      rcases putVault_cases kept with ⟨mine, _⟩ | old
      · exact absurd mine (other accounts paused rfl)
      · rw [found, Option.some.injEq] at old
        rw [old]
  | setTransferFee mint fee =>
      simp only [step, bind_eq_ok, pure, Except.pure, Except.ok.injEq] at success
      obtain ⟨ledger, _, same⟩ := success
      rw [← same] at untouched
      exact untouched rfl
  | _ => exact untouched (congrFun (direct_effect success).2.2 key)

/-- An entry on the books is served, and is all that happens. -/
theorem step_entered (wired : WellWired rt state)
    (other : ∀ accounts paused, instruction = .setPaused accounts paused → accounts.vault ≠ key) :
    ∃ after, custodianAt key next = some after ∧
      Custodian.serve capacity ⟨vault.admin, vault.paused, books state.ledger vault⟩
        (.enter (entryOf state.ledger key vault instruction)) = .ok after := by
  obtain ⟨lockedAmount, paused, kept, posted⟩ := step_posted found wired success
  have switch := step_paused found success kept other
  refine ⟨_, custodianAt_of_some kept, (Custodian.serve_enter_eq_ok _ _ _ _).mpr
    ⟨step_allowed found success, (Custodian.enter_eq_ok _ _ _).mpr ⟨_, posted, ?_⟩⟩⟩
  dsimp only at switch ⊢
  rw [switch]

end Successes

section Simulation

variable {rt : Runtime} {state next : State} {key : Pubkey} {instruction : Instruction}
  {action : Action Pubkey}

/-- The vault at `key` comes with `initialize_vault`, and with the admin who signs. -/
theorem established {accounts : InitializeVault} (mine : accounts.vault = key)
    (success : initializeVault rt state accounts = .ok next) :
    state.vaults key = none ∧
      custodianAt key next = some ⟨accounts.admin.pubkey, false, .empty⟩ := by
  obtain ⟨_, _, _, _, unused, _, _, _, _, _, _, _, _, same⟩ :=
    (initializeVault_eq_ok _ _ _ _).mp success
  have absent : state.vaults key = none := by
    rw [← mine]
    exact unused.1
  refine ⟨absent, ?_⟩
  rw [mine] at same
  have here := congrArg (fun state => state.vaults key) same
  rw [putVault_self] at here
  rw [custodianAt_of_some here.symm, (initializeVault_new absent success here.symm).2.2]

/-- An instruction that asks nothing of the vault leaves it as it was. -/
theorem step_unasked (wired : WellWired rt state) (success : step rt state instruction = .ok next)
    (unasked : actionOf key state instruction = none) :
    custodianAt key next = custodianAt key state := by
  have elsewhere : ∀ accounts paused,
      instruction = .setPaused accounts paused → accounts.vault ≠ key := by
    rintro accounts paused rfl mine
    simp only [actionOf, mine, ↓reduceIte, reduceCtorEq] at unasked
  cases before : state.vaults key with
  | none =>
      cases after : next.vaults key with
      | none => rw [custodianAt_of_none before, custodianAt_of_none after]
      | some vault =>
          obtain ⟨accounts, rfl, made⟩ := step_new before success after
          obtain ⟨_, _, _, _, _, _, _, _, _, _, _, _, _, same⟩ :=
            (initializeVault_eq_ok _ _ _ _).mp made
          rw [← same] at after
          rcases putVault_cases after with ⟨mine, _⟩ | old
          · simp only [actionOf, mine, ↓reduceIte, reduceCtorEq] at unasked
          · rw [before] at old
            cases old
  | some vault =>
      have idle : entryOf state.ledger key vault instruction = .idle := by
        cases instruction with
        | initializeVault accounts => rfl
        | setPaused accounts paused => rfl
        | _ =>
            simpa only [actionOf, before, ite_eq_left_iff, reduceCtorEq, imp_false, not_not]
              using unasked
      obtain ⟨after, shown, served⟩ := step_entered before success wired elsewhere
      rw [idle] at served
      cases served
      rw [shown, custodianAt_of_some before]

/-- What succeeds and asks something of the vault, the custodian does. -/
theorem step_served (wired : WellWired rt state) (success : step rt state instruction = .ok next)
    (asked : actionOf key state instruction = some action) :
    Custodian.step capacity (custodianAt key state) action = .ok (custodianAt key next) := by
  cases before : state.vaults key with
  | none =>
      cases instruction with
      | initializeVault accounts =>
          simp only [actionOf, Option.ite_none_right_eq_some, Option.some.injEq] at asked
          obtain ⟨mine, rfl⟩ := asked
          rw [custodianAt_of_none before, (established mine success).2]
          rfl
      | setPaused accounts paused =>
          simp only [actionOf, Option.ite_none_right_eq_some, Option.some.injEq] at asked
          obtain ⟨mine, rfl⟩ := asked
          obtain ⟨_, own, here, _⟩ := (setPaused_eq_ok _ _ _ _ _).mp success
          rw [mine, before] at here
          cases here
      | _ => simp only [actionOf, before, reduceCtorEq] at asked
  | some vault =>
      have entered : ∀ entry, entry = entryOf state.ledger key vault instruction →
          (∀ accounts paused, instruction = .setPaused accounts paused → accounts.vault ≠ key) →
          Custodian.step capacity (custodianAt key state) (.enter entry) =
            .ok (custodianAt key next) := by
        rintro entry rfl other
        obtain ⟨after, shown, served⟩ := step_entered before success wired other
        rw [custodianAt_of_some before, shown]
        exact congrArg (Except.map some) served
      cases instruction with
      | initializeVault accounts =>
          simp only [actionOf, Option.ite_none_right_eq_some, Option.some.injEq] at asked
          obtain ⟨mine, rfl⟩ := asked
          have absent := (established mine success).1
          rw [before] at absent
          cases absent
      | setPaused accounts paused =>
          simp only [actionOf, Option.ite_none_right_eq_some, Option.some.injEq] at asked
          obtain ⟨mine, rfl⟩ := asked
          obtain ⟨_, own, here, _, admin, same⟩ := (setPaused_eq_ok _ _ _ _ _).mp success
          rw [mine, before, Option.some.injEq] at here
          have kept : next.vaults key = some { own with paused := paused } := by
            rw [← same, ← mine]
            exact putVault_self
          have ledger : next.ledger = state.ledger := by
            rw [← same]
            rfl
          rw [custodianAt_of_some before, custodianAt_of_some kept, here, ledger]
          simp only [Custodian.step, Custodian.serve, admin, ↓reduceIte]
          rfl
      | _ =>
          simp only [actionOf, before, Option.ite_none_left_eq_some, Option.some.injEq] at asked
          obtain ⟨_, rfl⟩ := asked
          exact entered _ rfl (by simp)

/-- A refusal of the vault's own is the custodian's. -/
theorem step_denied {error : VaultError} (own : error ≠ .mintMismatch)
    (failed : step rt state instruction = .error (.vault error))
    (asked : actionOf key state instruction = some action) :
    ∃ refusal, denial (.vault error) = some refusal ∧
      Custodian.step capacity (custodianAt key state) action = .error refusal := by
  cases instruction with
  | initializeVault accounts => exact absurd failed (initializeVault_ne_vault error rt state accounts)
  | wrap accounts amount permitted =>
      obtain ⟨vault, found, outcome⟩ := wrap_denied own failed
      have mine : accounts.vault = key := by
        by_contra other
        cases here : state.vaults key with
        | none => simp only [actionOf, here, reduceCtorEq] at asked
        | some vault => simp only [actionOf, here, entryOf, other, ↓reduceIte, reduceCtorEq] at asked
      rw [mine] at found
      simp only [actionOf, found, entryOf, mine, reduceCtorEq, ↓reduceIte, Option.some.injEq] at asked
      rw [← asked, custodianAt_of_some found]
      rcases outcome with ⟨paused, rfl⟩ | ⟨unpaused, rfl, rfl⟩ | ⟨unpaused, something, full, rfl⟩
      · refine ⟨.paused, rfl, ?_⟩
        simp only [Custodian.step, Custodian.serve, Custodian.allow, paused, ↓reduceIte]
        rfl
      · refine ⟨.nothing, rfl, ?_⟩
        simp only [Custodian.step, Custodian.serve, Custodian.allow, unpaused, UInt64.toNat_zero,
          Bool.false_eq_true, ↓reduceIte]
        rfl
      · refine ⟨.full, rfl, ?_⟩
        have nonzero : amount.toNat ≠ 0 := fun zero => something (UInt64.toNat_inj.mp zero)
        have full' : capacity ≤ vault.lockedAmount.toNat + amount.toNat := full
        simp only [Custodian.step, Custodian.serve, Custodian.allow, unpaused, nonzero, books, full',
          Bool.false_eq_true, ↓reduceIte]
        rfl
  | unwrap accounts amount permitted =>
      obtain ⟨vault, found, outcome⟩ := unwrap_denied own failed
      have mine : accounts.vault = key := by
        by_contra other
        cases here : state.vaults key with
        | none => simp only [actionOf, here, reduceCtorEq] at asked
        | some vault => simp only [actionOf, here, entryOf, other, ↓reduceIte, reduceCtorEq] at asked
      rw [mine] at found
      simp only [actionOf, found, entryOf, mine, reduceCtorEq, ↓reduceIte, Option.some.injEq] at asked
      rw [← asked, custodianAt_of_some found]
      rcases outcome with ⟨paused, rfl⟩ | ⟨unpaused, rfl, rfl⟩ | ⟨unpaused, something, short, rfl⟩
      · refine ⟨.paused, rfl, ?_⟩
        simp only [Custodian.step, Custodian.serve, Custodian.allow, paused, ↓reduceIte]
        rfl
      · refine ⟨.nothing, rfl, ?_⟩
        simp only [Custodian.step, Custodian.serve, Custodian.allow, unpaused, UInt64.toNat_zero,
          Bool.false_eq_true, ↓reduceIte]
        rfl
      · refine ⟨.short, rfl, ?_⟩
        have nonzero : amount.toNat ≠ 0 := fun zero => something (UInt64.toNat_inj.mp zero)
        have less : vault.lockedAmount.toNat < amount.toNat := UInt64.lt_iff_toNat_lt.mp short
        simp only [Custodian.step, Custodian.serve, Custodian.allow, unpaused, nonzero, books, less,
          Bool.false_eq_true, ↓reduceIte]
        rfl
  | setPaused accounts paused =>
      obtain ⟨vault, found, stranger, rfl⟩ := setPaused_denied failed
      simp only [actionOf, Option.ite_none_right_eq_some, Option.some.injEq] at asked
      obtain ⟨mine, rfl⟩ := asked
      rw [mine] at found
      refine ⟨.stranger, rfl, ?_⟩
      rw [custodianAt_of_some found]
      simp only [Custodian.step, Custodian.serve, Ne.symm stranger, ↓reduceIte]
      rfl
  | transferChecked program source mint target authority amount decimals permitted =>
      exact absurd failed (direct_ne_vault error rt state authority
        (transferChecked_ne_vault _ _ _ _ _ _ _ error decimals permitted))
  | mintTo program mint target authority amount =>
      exact absurd failed (direct_ne_vault error rt state authority (mintTo_ne_vault _ _ _ _ _ _ error))
  | burn program source mint authority amount =>
      exact absurd failed (direct_ne_vault error rt state authority (burn_ne_vault _ _ _ _ _ _ error))
  | initializeMint here mint =>
      exact absurd failed (direct_ne_vault error rt state here (initializeMint_ne_vault _ _ error mint))
  | initializeAccount program here mint owner =>
      exact absurd failed (direct_ne_vault error rt state here
        (initializeAccount_ne_vault _ _ _ _ error here.pubkey))
  | setTransferFee mint fee =>
      have silent : step rt state (.setTransferFee mint fee) ≠ .error (.vault error) := by
        simp [step, bind_eq_error, setTransferFee_ne_vault, pure, Except.pure]
      exact absurd failed silent

end Simulation

/-- A wired state shows what the vault at `key` is to the public. -/
def Shows (rt : Runtime) (key : Pubkey) (state : State)
    (custodian : Option (Custodian Pubkey)) : Prop :=
  WellWired rt state ∧ custodianAt key state = custodian

theorem step_simulates (rt : Runtime) (key : Pubkey) (instructions : List Instruction) :
    Refinement.Simulates (step rt) (Custodian.step capacity) (observe rt key) denial (Shows rt key)
      instructions where
  seen state custodian instruction action _ := by
    rintro ⟨wired, rfl⟩ observed
    unfold observe at observed
    cases outcome : step rt state instruction with
    | ok next =>
        rw [outcome] at observed
        rw [step_served wired outcome observed]
        exact .ok ⟨step_wellWired wired outcome, rfl⟩
    | error reason =>
        rw [outcome] at observed
        simp only [Option.ite_none_right_eq_some] at observed
        obtain ⟨own, asked⟩ := observed
        obtain ⟨error, rfl, other⟩ := vault_of_denial own
        obtain ⟨refusal, read, refused⟩ := step_denied other outcome asked
        rw [refused]
        exact .error read
  unseen state custodian instruction next _ := by
    rintro ⟨wired, rfl⟩ unobserved success
    simp only [observe, success] at unobserved
    exact ⟨step_wellWired wired success, step_unasked wired success unobserved⟩

/-- In every run the vault at `key` is the custodian that the observed instructions
make of it, and each of these has the custodian's verdict. -/
theorem vault_refined (rt : Runtime) (key : Pubkey) (genesis : State) (wired : WellWired rt genesis)
    (instructions : List Instruction) :
    custodianAt key (Run.run (step rt) genesis instructions) =
      Run.run (Custodian.step capacity) (custodianAt key genesis)
        (Refinement.observed (step rt) (observe rt key) genesis instructions) ∧
    Refinement.verdicts (step rt) (observe rt key) denial genesis instructions =
      (Run.trace (Custodian.step capacity) (custodianAt key genesis)
        (Refinement.observed (step rt) (observe rt key) genesis instructions)).map
          fun entry => entry.2.mapError some := by
  obtain ⟨shown, same⟩ := (step_simulates rt key instructions).run ⟨wired, rfl⟩
  exact ⟨shown.2, same⟩

section Sample

open Stede.Runtime (sampleKey)

/-- Opened and filled, then paused: the holder is refused, and may not end the pause. -/
def custodianRun : List Instruction :=
  sampleRun ++ [.unwrap sampleAccounts 0 true, .setPaused ⟨sampleSigner 2, sampleVault⟩ true,
    .unwrap sampleAccounts 100 true, .setPaused ⟨sampleSigner 1, sampleVault⟩ false]

theorem vault_refined_sample :
    custodianAt sampleVault (Run.run (step .sample) (sampleGenesis plainMint) custodianRun) =
      Run.run (Custodian.step capacity) (custodianAt sampleVault (sampleGenesis plainMint))
        (Refinement.observed (step .sample) (observe .sample sampleVault) (sampleGenesis plainMint)
          custodianRun) :=
  (vault_refined .sample sampleVault (sampleGenesis plainMint) (wellWired_of_no_vaults fun _ => rfl)
    custodianRun).1

example : Refinement.verdicts (step .sample) (observe .sample sampleVault) denial
      (sampleGenesis plainMint) custodianRun =
    [.ok (), .ok (), .error (some .nothing), .ok (), .error (some .paused),
      .error (some .stranger)] := by
  decide +kernel

end Sample

end Stede.StedeVault
