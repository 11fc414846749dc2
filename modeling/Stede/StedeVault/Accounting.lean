import Mathlib
import Stede.StedeVault.Solvency

set_option autoImplicit false

/- The exact ledger of vaults whose underlying moves without fee or gatekeeper. -/
namespace Stede.StedeVault

open Custody

/-- Transfers of the mint move exactly the stated amount, and nobody can refuse them. -/
def PlainMint (ledger : TokenLedger) (mint : Pubkey) : Prop :=
  ∀ terms, ledger.mints mint = some terms → terms.transferFee = none ∧ terms.guarded = false

/-- Every vault that the run opens is opened over a plain mint. -/
def OpensPlainVaults (rt : Runtime) (genesis : State) (instructions : List Instruction) : Prop :=
  ∀ current accounts, Run.Taken (step rt) genesis instructions current (.initializeVault accounts) →
    PlainMint current.ledger accounts.underlyingMint

/-- What holds in every state that such a run reaches. -/
structure Orderly (rt : Runtime) (state : State) : Prop where
  wired : WellWired rt state
  issued : state.ledger.Issued
  plain : ∀ key vault, state.vaults key = some vault → PlainMint state.ledger vault.underlyingMint
  solvent : Solvent state

theorem PlainMint.mono {before after : TokenLedger} {mint : Pubkey} (plain : PlainMint before mint)
    {terms : Mint} (known : before.mints mint = some terms) (extended : before.Extends after) :
    PlainMint after mint := by
  intro terms' known'
  have ⟨feeless, unguarded⟩ := plain terms known
  have ⟨terms'', known'', same⟩ := extended.mints _ _ known
  rw [known'', Option.some.injEq] at known'
  rw [← known']
  exact ⟨same.feeless feeless, same.guarded.trans unguarded⟩

theorem PlainMint.feeOf_eq_zero {ledger : TokenLedger} {mint : Pubkey} (plain : PlainMint ledger mint)
    (amount : UInt64) : feeOf ledger mint amount = 0 := by
  unfold feeOf
  split
  · rename_i terms known
    simp only [Mint.fee, (plain terms known).1, UInt64.toNat_zero]
  · rfl

/-- No instruction puts more tokens into accounts than it issues. -/
theorem step_issued {rt : Runtime} {state next : State} {instruction : Instruction}
    (issued : state.ledger.Issued) (success : step rt state instruction = .ok next) :
    next.ledger.Issued := by
  cases instruction with
  | initializeVault accounts =>
      obtain ⟨_, _, _, _, _, _, opened, account, _, _, _, ledger, minted, same⟩ :=
        (initializeVault_eq_ok _ _ _ _).mp success
      rw [← same]
      exact TokenLedger.initializeMint_issued minted (TokenLedger.initializeAccount_issued account issued)
  | wrap accounts amount permitted =>
      obtain ⟨_, _, _, _, _, _, _, _, moved, transfer, ledger, minted, _, _, same⟩ :=
        (wrap_eq_ok _ _ _ _ _ _).mp success
      rw [← same]
      exact TokenLedger.mintTo_issued minted (TokenLedger.transferChecked_issued transfer issued)
  | unwrap accounts amount permitted =>
      obtain ⟨_, _, _, _, _, _, _, _, _, burned, burn, ledger, transfer, _, _, same⟩ :=
        (unwrap_eq_ok _ _ _ _ _ _).mp success
      rw [← same]
      exact TokenLedger.transferChecked_issued transfer (TokenLedger.burn_issued burn issued)
  | setPaused accounts paused =>
      obtain ⟨_, _, _, _, _, same⟩ := (setPaused_eq_ok _ _ _ _ _).mp success
      rw [← same]
      exact issued
  | transferChecked program source mint target authority amount decimals permitted =>
      exact TokenLedger.transferChecked_issued (direct_effect success).2.1 issued
  | mintTo program mint target authority amount =>
      exact TokenLedger.mintTo_issued (direct_effect success).2.1 issued
  | burn program source mint authority amount =>
      exact TokenLedger.burn_issued (direct_effect success).2.1 issued
  | initializeMint key mint =>
      exact TokenLedger.initializeMint_issued (direct_effect success).2.1 issued
  | initializeAccount program key mint owner =>
      exact TokenLedger.initializeAccount_issued (direct_effect success).2.1 issued
  | setTransferFee mint fee =>
      simp only [step, bind_eq_ok, pure, Except.pure, Except.ok.injEq] at success
      obtain ⟨ledger, changed, same⟩ := success
      rw [← same]
      exact TokenLedger.setTransferFee_issued changed issued

/-- Over plain mints no fee is due, so none is uncovered. -/
theorem Orderly.feeCovered {rt : Runtime} {state : State} (orderly : Orderly rt state)
    (instruction : Instruction) : FeeCovered rt state instruction := by
  cases instruction with
  | wrap accounts amount permitted =>
      intro _ vault found
      rw [(orderly.plain _ _ found).feeOf_eq_zero]
      exact Nat.zero_le _
  | _ => trivial

theorem Orderly.step {rt : Runtime} {state next : State} {instruction : Instruction}
    (orderly : Orderly rt state)
    (opens : ∀ accounts, instruction = .initializeVault accounts →
      PlainMint state.ledger accounts.underlyingMint)
    (success : step rt state instruction = .ok next) : Orderly rt next where
  wired := step_wellWired orderly.wired success
  issued := step_issued orderly.issued success
  solvent := (step_solvent_iff orderly.wired orderly.solvent success).mpr
    (orderly.feeCovered instruction)
  plain key vault found := by
    have extended := step_extends success
    cases before : state.vaults key with
    | none =>
        have ⟨accounts, kind, made⟩ := step_new before success found
        have ⟨_, terms, known, _⟩ := (initializeVault_eq_ok _ _ _ _).mp made
        rw [(initializeVault_new before made found).1]
        exact (opens accounts kind).mono known extended
    | some old =>
        have ⟨lockedAmount, paused, kept, _⟩ := step_posted before orderly.wired success
        have ⟨terms, known, _⟩ := (orderly.wired key old before).underlying
        rw [kept, Option.some.injEq] at found
        rw [← found]
        exact (orderly.plain key old before).mono known extended

theorem orderly_of_no_vaults {rt : Runtime} {state : State}
    (no_vaults : ∀ key, state.vaults key = none) (issued : state.ledger.Issued) : Orderly rt state where
  wired := wellWired_of_no_vaults no_vaults
  issued := issued
  plain key vault found := by
    rw [no_vaults] at found
    cases found
  solvent key vault found := by
    rw [no_vaults] at found
    cases found

/-- The address is the token account of the vault at `key`. -/
def isTokenVault (state : State) (key target : Pubkey) : Bool :=
  (state.vaults key).any fun vault => vault.tokenVault = target

/-- The address is the Stede mint of the vault at `key`. -/
def isStedeMint (state : State) (key mint : Pubkey) : Bool :=
  (state.vaults key).any fun vault => vault.stedeMint = mint

/-- What an instruction sends to a vault's token account other than by wrapping. -/
def donatedTo (key : Pubkey) (state : State) : Instruction → Nat
  | .transferChecked _ _ _ target _ amount _ _ => if isTokenVault state key target then amount.toNat else 0
  | .mintTo _ _ target _ amount => if isTokenVault state key target then amount.toNat else 0
  | _ => 0

/-- What an instruction burns of a vault's Stede other than by unwrapping. -/
def burnedOf (key : Pubkey) (state : State) : Instruction → Nat
  | .burn _ _ mint _ amount => if isStedeMint state key mint then amount.toNat else 0
  | _ => 0

theorem isTokenVault_of_some {state : State} {key : Pubkey} {vault : Vault}
    (found : state.vaults key = some vault) (target : Pubkey) :
    isTokenVault state key target = decide (target = vault.tokenVault) := by
  simp only [isTokenVault, found, Option.any_some, eq_comm]

theorem isStedeMint_of_some {state : State} {key : Pubkey} {vault : Vault}
    (found : state.vaults key = some vault) (mint : Pubkey) :
    isStedeMint state key mint = decide (mint = vault.stedeMint) := by
  simp only [isStedeMint, found, Option.any_some, eq_comm]

theorem donatedTo_of_none {state : State} {key : Pubkey} (absent : state.vaults key = none)
    (instruction : Instruction) : donatedTo key state instruction = 0 := by
  unfold donatedTo isTokenVault
  simp only [absent, Option.any_none, Bool.false_eq_true, ↓reduceIte]
  split <;> rfl

theorem burnedOf_of_none {state : State} {key : Pubkey} (absent : state.vaults key = none)
    (instruction : Instruction) : burnedOf key state instruction = 0 := by
  unfold burnedOf isStedeMint
  simp only [absent, Option.any_none, Bool.false_eq_true, ↓reduceIte]
  split <;> rfl

theorem donated_ite {condition : Prop} [Decidable condition] (entry : Entry) :
    (if condition then entry else .idle).donated = if condition then entry.donated else 0 :=
  apply_ite Entry.donated condition entry .idle

theorem forfeited_ite {condition : Prop} [Decidable condition] (entry : Entry) :
    (if condition then entry else .idle).forfeited = if condition then entry.forfeited else 0 :=
  apply_ite Entry.forfeited condition entry .idle

section Entries

variable {rt : Runtime} {state next : State} {key : Pubkey} {vault : Vault}
  {instruction : Instruction} (found : state.vaults key = some vault)
include found

/-- What the books call forfeited is what was burned. -/
theorem entryOf_forfeited :
    (entryOf state.ledger key vault instruction).forfeited = burnedOf key state instruction := by
  cases instruction with
  | burn program source mint authority amount =>
      simp only [entryOf, forfeited_ite]
      simp only [Entry.forfeited, burnedOf, isStedeMint_of_some found,
        decide_eq_true_eq]
  | wrap accounts amount permitted =>
      simp only [entryOf, forfeited_ite]
      simp only [Entry.forfeited, ite_self, burnedOf]
  | unwrap accounts amount permitted =>
      simp only [entryOf, forfeited_ite]
      simp only [Entry.forfeited, ite_self, burnedOf]
  | transferChecked program source mint target authority amount decimals permitted =>
      simp only [entryOf, forfeited_ite]
      simp only [Entry.forfeited, ite_self, burnedOf]
  | mintTo program mint target authority amount =>
      simp only [entryOf, forfeited_ite]
      simp only [Entry.forfeited, ite_self, burnedOf]
  | _ => rfl

variable (orderly : Orderly rt state)
include orderly

/-- No entry over a plain mint has a fee. -/
theorem entryOf_fee_eq_zero : (entryOf state.ledger key vault instruction).fee = 0 := by
  rcases entryOf_fee state.ledger key vault instruction with free | ⟨_, amount, _, _, _, fee⟩
  · exact free
  · rw [fee]
    exact (orderly.plain key vault found).feeOf_eq_zero amount

variable (success : step rt state instruction = .ok next)
include success

/-- What the books call donated is what was sent: the target's mint is the
underlying, which charges nothing. -/
theorem entryOf_donated :
    (entryOf state.ledger key vault instruction).donated = donatedTo key state instruction := by
  cases instruction with
  | transferChecked program source mint target authority amount decimals permitted =>
      simp only [entryOf, donated_ite]
      simp only [Entry.donated, donatedTo, isTokenVault_of_some found,
        decide_eq_true_eq]
      by_cases into : target = vault.tokenVault
      · obtain ⟨_, transfer, _⟩ := direct_effect success
        obtain ⟨_, _, _, _, _, receiving, _, _, mints, _, _, _, _⟩ :=
          (TokenLedger.transferChecked_eq_ok _ _ _ _ _ _ _ _ _ _).mp transfer
        obtain ⟨account, held, mint_eq, _⟩ := (orderly.wired key vault found).held
        rw [into, held, Option.some.injEq] at receiving
        have underlying : mint = vault.underlyingMint := by
          rw [← mint_eq, receiving]
          exact mints.2.symm
        rw [underlying, (orderly.plain key vault found).feeOf_eq_zero amount, Nat.sub_zero]
      · simp only [into, ↓reduceIte]
  | mintTo program mint target authority amount =>
      simp only [entryOf, donated_ite]
      simp only [Entry.donated, donatedTo, isTokenVault_of_some found,
        decide_eq_true_eq]
  | wrap accounts amount permitted =>
      simp only [entryOf, donated_ite]
      simp only [Entry.donated, ite_self, donatedTo]
  | unwrap accounts amount permitted =>
      simp only [entryOf, donated_ite]
      simp only [Entry.donated, ite_self, donatedTo]
  | burn program source mint authority amount =>
      simp only [entryOf, donated_ite]
      simp only [Entry.donated, ite_self, donatedTo]
  | _ => rfl

end Entries

/-- Balance against locked amount, and locked amount against supply, of the vault
at `key`; zero before it exists. -/
def surplusOf (key : Pubkey) (state : State) : Int :=
  match state.vaults key with
  | some vault => state.ledger.balance vault.tokenVault - vault.lockedAmount.toNat
  | none => 0

def shortageOf (key : Pubkey) (state : State) : Int :=
  match state.vaults key with
  | some vault => vault.lockedAmount.toNat - state.ledger.supply vault.stedeMint
  | none => 0

theorem surplusOf_books {state : State} {key : Pubkey} {vault : Vault}
    (found : state.vaults key = some vault) :
    surplusOf key state = (books state.ledger vault).balance - (books state.ledger vault).locked := by
  simp only [surplusOf, found, books]

theorem shortageOf_books {state : State} {key : Pubkey} {vault : Vault}
    (found : state.vaults key = some vault) :
    shortageOf key state = (books state.ledger vault).locked - (books state.ledger vault).supply := by
  simp only [shortageOf, found, books]

section Moves

variable {rt : Runtime} {state next : State} {instruction : Instruction}
  (orderly : Orderly rt state) (success : step rt state instruction = .ok next)
include orderly success

/-- Every step moves the surplus by what it donates. -/
theorem step_surplus (key : Pubkey) :
    surplusOf key next = surplusOf key state + donatedTo key state instruction := by
  cases before : state.vaults key with
  | some vault =>
      have ⟨lockedAmount, paused, kept, posted⟩ := step_posted before orderly.wired success
      have moved := Books.post_surplus posted
      rw [entryOf_donated before orderly success, entryOf_fee_eq_zero before orderly] at moved
      rw [surplusOf_books kept, surplusOf_books before]
      omega
  | none =>
      rw [donatedTo_of_none before]
      simp only [surplusOf, before]
      cases after : next.vaults key with
      | none => rfl
      | some vault =>
          have ⟨_, _, made⟩ := step_new before success after
          have empty := (initializeVault_new before made after).2.2
          have same := surplusOf_books after
          rw [empty] at same
          simp only [surplusOf, after] at same
          exact same

/-- Every step moves the shortage of claims by what it burns. -/
theorem step_shortage (key : Pubkey) :
    shortageOf key next = shortageOf key state + burnedOf key state instruction := by
  cases before : state.vaults key with
  | some vault =>
      have ⟨lockedAmount, paused, kept, posted⟩ := step_posted before orderly.wired success
      have moved := Books.post_forfeited posted
      rw [entryOf_forfeited before] at moved
      rw [shortageOf_books kept, shortageOf_books before]
      omega
  | none =>
      rw [burnedOf_of_none before]
      simp only [shortageOf, before]
      cases after : next.vaults key with
      | none => rfl
      | some vault =>
          have ⟨_, _, made⟩ := step_new before success after
          have empty := (initializeVault_new before made after).2.2
          have same := shortageOf_books after
          rw [empty] at same
          simp only [shortageOf, after] at same
          exact same

end Moves

section Runs

variable {rt : Runtime} {genesis : State} {instructions : List Instruction}
  (orderly : Orderly rt genesis) (opens : OpensPlainVaults rt genesis instructions)
include orderly opens

theorem run_orderly : Orderly rt (Run.run (step rt) genesis instructions) := by
  apply Run.run_invariant_of_taken orderly
  intro current instruction next taken here success
  apply here.step _ success
  intro accounts kind
  exact opens current accounts (kind ▸ taken)

theorem run_surplus (key : Pubkey) : surplusOf key (Run.run (step rt) genesis instructions) =
    surplusOf key genesis + Run.total (step rt) (donatedTo key) genesis instructions := by
  apply Run.run_total orderly
  · intro current instruction next taken here success
    apply here.step _ success
    intro accounts kind
    exact opens current accounts (kind ▸ taken)
  · intro current instruction next _ here success
    exact step_surplus here success key

theorem run_shortage (key : Pubkey) : shortageOf key (Run.run (step rt) genesis instructions) =
    shortageOf key genesis + Run.total (step rt) (burnedOf key) genesis instructions := by
  apply Run.run_total orderly
  · intro current instruction next taken here success
    apply here.step _ success
    intro accounts kind
    exact opens current accounts (kind ▸ taken)
  · intro current instruction next _ here success
    exact step_shortage here success key

end Runs

end Stede.StedeVault
