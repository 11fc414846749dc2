import Mathlib
import Stede.StedeVault.Wiring

set_option autoImplicit false

/- When the outstanding Stede is backed. -/
namespace Stede.StedeVault

open Custody

/-- `token_vault.balance ≥ locked_amount ≥ stede_mint.supply`, for every vault. -/
def Solvent (state : State) : Prop :=
  ∀ key vault, state.vaults key = some vault →
    state.ledger.balance vault.tokenVault ≥ vault.lockedAmount.toNat ∧
      vault.lockedAmount.toNat ≥ state.ledger.supply vault.stedeMint

/-- A wrap that goes through loses no more to the mint's fee than the token vault
holds beyond the locked amount. -/
def FeeCovered (rt : Runtime) (state : State) : Instruction → Prop
  | .wrap accounts amount permitted =>
      (wrap rt state accounts amount permitted).isOk = true →
      ∀ vault, state.vaults accounts.vault = some vault →
        feeOf state.ledger vault.underlyingMint amount ≤
          state.ledger.balance vault.tokenVault - vault.lockedAmount.toNat
  | _ => True

theorem solvent_iff_books (state : State) :
    Solvent state ↔ ∀ key vault, state.vaults key = some vault →
      (books state.ledger vault).Solvent := by
  have one : ∀ vault, (state.ledger.balance vault.tokenVault ≥ vault.lockedAmount.toNat ∧
      vault.lockedAmount.toNat ≥ state.ledger.supply vault.stedeMint) ↔
      (books state.ledger vault).Solvent := fun _ => and_comm
  simp only [Solvent, one]

theorem fee_ite_idle {condition : Prop} [Decidable condition] {entry : Entry}
    (free : entry.fee = 0) : (if condition then entry else .idle).fee = 0 := by
  split
  · exact free
  · rfl

/-- An entry charges a fee only when a wrap into the vault does. -/
theorem entryOf_fee (ledger : TokenLedger) (key : Pubkey) (vault : Vault) (instruction : Instruction) :
    (entryOf ledger key vault instruction).fee = 0 ∨
      ∃ accounts amount permitted, instruction = .wrap accounts amount permitted ∧
        accounts.vault = key ∧ (entryOf ledger key vault instruction).fee =
          feeOf ledger vault.underlyingMint amount := by
  cases instruction with
  | wrap accounts amount permitted =>
      by_cases mine : accounts.vault = key
      · refine Or.inr ⟨accounts, amount, permitted, rfl, mine, ?_⟩
        simp only [entryOf, mine, ↓reduceIte, Entry.fee]
      · apply Or.inl
        simp only [entryOf, mine, ↓reduceIte, Entry.fee]
  | unwrap accounts amount permitted =>
      exact Or.inl (fee_ite_idle rfl)
  | transferChecked program source mint target authority amount decimals permitted =>
      exact Or.inl (fee_ite_idle rfl)
  | mintTo program mint target authority amount =>
      exact Or.inl (fee_ite_idle rfl)
  | burn program source mint authority amount =>
      exact Or.inl (fee_ite_idle rfl)
  | _ => exact Or.inl rfl

/-- One successful step, from solvent books: what it needs to leave them solvent. -/
theorem step_solvent_iff {rt : Runtime} {state next : State} {instruction : Instruction}
    (wired : WellWired rt state) (solvent : Solvent state)
    (success : step rt state instruction = .ok next) :
    Solvent next ↔ FeeCovered rt state instruction := by
  rw [solvent_iff_books] at solvent ⊢
  constructor
  · intro after
    cases instruction with
    | wrap accounts amount permitted =>
        intro _ vault found
        obtain ⟨lockedAmount, paused, kept, posted⟩ := step_posted found wired success
        have covered := (Books.post_solvent_iff posted (solvent _ _ found)).mp (after _ _ kept)
        simp only [entryOf, ↓reduceIte, Entry.fee] at covered
        exact covered
    | _ => trivial
  · intro covered key vault found
    cases before : state.vaults key with
    | none =>
        obtain ⟨accounts, _, made⟩ := step_new before success found
        rw [(initializeVault_new before made found).2.2]
        exact Books.empty_solvent
    | some old =>
        obtain ⟨lockedAmount, paused, kept, posted⟩ := step_posted before wired success
        rw [kept, Option.some.injEq] at found
        rw [← found]
        apply (Books.post_solvent_iff posted (solvent _ _ before)).mpr
        rcases entryOf_fee state.ledger key old instruction with free | ⟨accounts, amount, permitted, kind, mine, fee⟩
        · rw [free]
          exact Nat.zero_le _
        · rw [fee]
          rw [kind] at covered success
          rw [← mine] at before
          have accepted : (wrap rt state accounts amount permitted).isOk = true :=
            isOk_iff_exists.mpr ⟨next, success⟩
          exact covered accepted old before

/-- In every run from a state without vaults: the books are solvent in every
state reached exactly when every fee was covered. -/
theorem solvent_iff_fees_covered (rt : Runtime) (genesis : State)
    (no_vaults : ∀ key, genesis.vaults key = none) (instructions : List Instruction) :
    (∀ reached, Run.Reached (step rt) genesis instructions reached → Solvent reached) ↔
      ∀ current instruction, Run.Taken (step rt) genesis instructions current instruction →
        FeeCovered rt current instruction := by
  apply Run.forall_reached_iff (wellWired_of_no_vaults no_vaults)
  · intro key vault found
    rw [no_vaults] at found
    cases found
  · intro current instruction next _ wired success
    exact step_wellWired wired success
  · intro current instruction _ wired solvent
    rcases Run.commit_cases (step rt) current instruction with success | ⟨⟨reason, failed⟩, unchanged⟩
    · exact step_solvent_iff wired solvent success
    · rw [unchanged]
      constructor
      · intro _
        cases instruction with
        | wrap accounts amount permitted =>
            intro accepted
            have failed' : wrap rt current accounts amount permitted = .error reason := failed
            rw [failed'] at accepted
            cases accepted
        | _ => trivial
      · intro _
        exact solvent

/- A chain with one wallet that holds all 1000 units of a mint. -/
section Sample

open Stede.Runtime (sampleKey)

def sampleSigner (byte : UInt8) : AccountMeta := ⟨sampleKey byte, true, true⟩

/-- The mint is at `sampleKey 10`, the holder's account at `sampleKey 11`. -/
def sampleGenesis (terms : Mint) : State where
  ledger :=
    { mints := fun key => if key = sampleKey 10 then some { terms with supply := 1000 } else none
      accounts := fun key =>
        if key = sampleKey 11 then some ⟨sampleKey 10, sampleKey 1, 1000⟩ else none }
  vaults _ := none

def sampleVault : Pubkey := (Vault.pda .sample (sampleKey 10)).1

def sampleAccounts : WrapAccounts :=
  ⟨sampleSigner 1, sampleVault, sampleKey 10, sampleKey 12, sampleKey 13, sampleKey 11, sampleKey 14,
    Programs.token2022, Programs.token2022⟩

/-- A vault is opened, the holder opens a Stede account and wraps everything. -/
def sampleRun : List Instruction :=
  [.initializeVault ⟨sampleSigner 2, sampleKey 10, sampleVault, sampleSigner 12, sampleSigner 13,
      Programs.token2022, Programs.token2022⟩,
    .initializeAccount Programs.token2022 (sampleSigner 14) (sampleKey 12) (sampleKey 1),
    .wrap sampleAccounts 1000 true]

def plainMint : Mint := ⟨Programs.token2022, 6, 0, none, none, false⟩

/-- One per cent. -/
def feeMint : Mint := { plainMint with transferFee := some ⟨100, 1000000, by decide⟩ }

theorem solvent_iff_fees_covered_sample :
    (∀ reached, Run.Reached (step .sample) (sampleGenesis feeMint) sampleRun reached →
        Solvent reached) ↔
      ∀ current instruction,
        Run.Taken (step .sample) (sampleGenesis feeMint) sampleRun current instruction →
          FeeCovered .sample current instruction :=
  solvent_iff_fees_covered .sample (sampleGenesis feeMint) (fun _ => rfl) sampleRun

/-- With the fee, 1000 are locked and minted against a balance of 990. -/
theorem fee_mint_breaks_solvency :
    ¬ ∀ reached, Run.Reached (step .sample) (sampleGenesis feeMint) sampleRun reached →
      Solvent reached := by
  intro all_solvent
  have last := all_solvent _ ⟨sampleRun, [], (List.append_nil sampleRun).symm, rfl⟩
  have short : ((Run.run (step .sample) (sampleGenesis feeMint) sampleRun).vaults sampleVault).any
      (fun vault => decide ((Run.run (step .sample) (sampleGenesis feeMint) sampleRun).ledger.balance
        vault.tokenVault < vault.lockedAmount.toNat)) = true := by
    decide +kernel
  have ⟨vault, found, less⟩ := (Option.any_eq_true _ _).mp short
  have ⟨backed, _⟩ := last sampleVault vault found
  exact absurd backed (Nat.not_le_of_lt (of_decide_eq_true less))

end Sample

end Stede.StedeVault
