import Mathlib
import Stede.StedeVault.Custodian

set_option autoImplicit false

/- What holds over the whole history of a vault, whatever its mint charges. -/
namespace Stede.StedeVault

open Custody

/-- The vault's part in a state, which no instruction changes. -/
def Kept (rt : Runtime) (key : Pubkey) (vault : Vault) (state : State) : Prop :=
  WellWired rt state ∧ ∃ lockedAmount paused,
    state.vaults key = some { vault with lockedAmount := lockedAmount, paused := paused }

theorem Kept.step {rt : Runtime} {key : Pubkey} {vault : Vault} {state next : State}
    {instruction : Instruction} (kept : Kept rt key vault state)
    (success : step rt state instruction = .ok next) : Kept rt key vault next := by
  obtain ⟨wired, _, _, found⟩ := kept
  obtain ⟨lockedAmount, paused, after, _⟩ := step_posted found wired success
  exact ⟨step_wellWired wired success, lockedAmount, paused, after⟩

theorem run_kept {rt : Runtime} {key : Pubkey} {vault : Vault} {genesis : State}
    (wired : WellWired rt genesis) (found : genesis.vaults key = some vault)
    (instructions : List Instruction) :
    Kept rt key vault (Run.run (step rt) genesis instructions) := by
  have start : Kept rt key vault genesis := ⟨wired, vault.lockedAmount, vault.paused, found⟩
  apply Run.run_invariant start
  intro current instruction next _ kept success
  exact kept.step success

theorem run_wellWired {rt : Runtime} {genesis : State} (wired : WellWired rt genesis)
    (instructions : List Instruction) : WellWired rt (Run.run (step rt) genesis instructions) := by
  apply Run.run_invariant wired
  intro current instruction next _ here success
  exact step_wellWired here success

/-- The admin's signature, or the lack of it, decides about the switch. -/
theorem Kept.setPaused {rt : Runtime} {key : Pubkey} {vault : Vault} {state : State}
    (kept : Kept rt key vault state) {accounts : SetPaused} (here : accounts.vault = key) (flag : Bool) :
    (StedeVault.setPaused rt state accounts flag).isOk = true ↔
      accounts.admin.signed rt = true ∧ accounts.admin.pubkey = vault.admin := by
  obtain ⟨wired, lockedAmount, paused, found⟩ := kept
  constructor
  · intro accepted
    cases outcome : StedeVault.setPaused rt state accounts flag with
    | error reason =>
        rw [outcome] at accepted
        cases accepted
    | ok next =>
        obtain ⟨signed, own, known, _, admin, _⟩ := (setPaused_eq_ok _ _ _ _ _).mp outcome
        rw [here, found, Option.some.injEq] at known
        rw [← known] at admin
        exact ⟨signed, admin.symm⟩
  · rintro ⟨signed, admin⟩
    have derived := (wired key _ found).derived
    rw [← here] at found derived
    have success := (setPaused_eq_ok rt state _ accounts flag).mpr
      ⟨signed, _, found, derived, admin.symm, rfl⟩
    rw [success]
    rfl

/-- Nothing goes in or out of a paused vault. -/
theorem not_served_of_paused {rt : Runtime} {state : State} {accounts : WrapAccounts} {vault : Vault}
    (found : state.vaults accounts.vault = some vault) (paused : vault.paused = true) (amount : UInt64)
    (permitted : Bool) :
    (wrap rt state accounts amount permitted).isOk = false ∧
      (unwrap rt state accounts amount permitted).isOk = false := by
  constructor
  · cases outcome : wrap rt state accounts amount permitted with
    | error reason => rfl
    | ok next =>
        obtain ⟨own, _, _, checked, _, _, unpaused, _⟩ := (wrap_eq_ok _ _ _ _ _ _).mp outcome
        obtain ⟨_, here, _⟩ := (tryVault_eq_ok _ _ _ _ _ _).mp checked
        rw [found, Option.some.injEq] at here
        rw [← here, paused] at unpaused
        cases unpaused
  · cases outcome : unwrap rt state accounts amount permitted with
    | error reason => rfl
    | ok next =>
        obtain ⟨own, _, _, checked, _, _, unpaused, _⟩ := (unwrap_eq_ok _ _ _ _ _ _).mp outcome
        obtain ⟨_, here, _⟩ := (tryVault_eq_ok _ _ _ _ _ _).mp checked
        rw [found, Option.some.injEq] at here
        rw [← here, paused] at unpaused
        cases unpaused

/-- What is observed of a signed `set_paused` is signed by the account it names. -/
theorem signed_of_observed {rt : Runtime} {key signer : Pubkey} {state : State}
    {instruction : Instruction} {flag : Bool}
    (observed : observe rt key state instruction = some (.setPaused signer flag)) :
    ∃ accounts : SetPaused, instruction = .setPaused accounts flag ∧ accounts.vault = key ∧
      accounts.admin.pubkey = signer ∧ accounts.admin.signed rt = true := by
  have asked : actionOf key state instruction = some (.setPaused signer flag) := by
    unfold observe at observed
    split at observed
    · exact observed
    · simp only [Option.ite_none_right_eq_some] at observed
      exact observed.2
  cases instruction with
  | initializeVault accounts =>
      simp only [actionOf, Option.ite_none_right_eq_some, Option.some.injEq, reduceCtorEq,
        and_false] at asked
  | setPaused accounts paused =>
      simp only [actionOf, Option.ite_none_right_eq_some, Option.some.injEq,
        Action.setPaused.injEq] at asked
      obtain ⟨mine, same, rfl⟩ := asked
      refine ⟨accounts, rfl, mine, same, ?_⟩
      by_contra unsigned
      have failed : step rt state (.setPaused accounts paused) =
          .error (.anchor .accountNotSigner) := by
        simp only [step, StedeVault.setPaused, require, unsigned, ↓reduceIte]
        rfl
      simp only [observe, failed] at observed
      cases observed
  | _ =>
      cases here : state.vaults key with
      | none => simp only [actionOf, here, reduceCtorEq] at asked
      | some vault =>
          simp only [actionOf, here, Option.ite_none_left_eq_some, Option.some.injEq, reduceCtorEq,
            and_false] at asked

/-- What a pause keeps of a vault, and who ends it. -/
structure FrozenSince (rt : Runtime) (key : Pubkey) (vault : Vault) (genesis final : State) : Prop where
  record : final.vaults key = some vault
  balance : genesis.ledger.balance vault.tokenVault ≤ final.ledger.balance vault.tokenVault
  supply : final.ledger.supply vault.stedeMint ≤ genesis.ledger.supply vault.stedeMint
  unserved : ∀ accounts amount permitted, accounts.vault = key →
    (wrap rt final accounts amount permitted).isOk = false ∧
      (unwrap rt final accounts amount permitted).isOk = false
  switch : ∀ accounts flag, accounts.vault = key →
    ((setPaused rt final accounts flag).isOk = true ↔
      accounts.admin.signed rt = true ∧ accounts.admin.pubkey = vault.admin)

/-- As long as its admin signs nothing that ends the pause, a paused vault keeps its
record and all it holds and issues no Stede, whoever sends what. -/
theorem paused_vault_frozen (rt : Runtime) (key : Pubkey) (genesis : State)
    (wired : WellWired rt genesis) (vault : Vault) (found : genesis.vaults key = some vault)
    (paused : vault.paused = true) (instructions : List Instruction)
    (held : ∀ accounts, .setPaused accounts false ∈ instructions → accounts.vault = key →
      accounts.admin.signed rt = true → accounts.admin.pubkey ≠ vault.admin) :
    FrozenSince rt key vault genesis (Run.run (step rt) genesis instructions) := by
  have shown := ((step_simulates rt key instructions).run ⟨wired, rfl⟩).1.2
  obtain ⟨_, lockedAmount, flag, here⟩ := run_kept wired found instructions
  rw [custodianAt_of_some found, custodianAt_of_some here] at shown
  have silent : ∀ action ∈ Refinement.observed (step rt) (observe rt key) genesis instructions,
      action ≠ .setPaused vault.admin false := by
    rintro action member rfl
    obtain ⟨instruction, inside, reached, observed⟩ := Refinement.mem_observed member
    obtain ⟨accounts, rfl, mine, admin, signed⟩ := signed_of_observed observed
    exact held accounts inside mine signed admin
  have since : Custodian.Since ⟨vault.admin, vault.paused, books genesis.ledger vault⟩ _ :=
    Custodian.run_frozen capacity paused silent
  rw [← shown] at since
  obtain ⟨after, same, frozen⟩ := since
  rw [Option.some.injEq] at same
  subst same
  have locked : lockedAmount = vault.lockedAmount := UInt64.toNat_inj.mp frozen.locked
  have still : flag = vault.paused := frozen.paused.trans paused.symm
  rw [locked, still] at here
  refine ⟨here, frozen.balance, frozen.supply, ?_, ?_⟩
  · rintro accounts amount permitted rfl
    exact not_served_of_paused here paused amount permitted
  · intro accounts flag mine
    exact (run_kept wired found instructions).setPaused mine flag

/-- The books at `key`, empty before there is a vault. -/
def booksAt (key : Pubkey) (state : State) : Books :=
  match state.vaults key with
  | some vault => books state.ledger vault
  | none => .empty

/-- What an instruction enters in them. -/
def entered (key : Pubkey) (state : State) (instruction : Instruction) : Entry :=
  match state.vaults key with
  | some vault => entryOf state.ledger key vault instruction
  | none => .idle

theorem booksAt_of_some {key : Pubkey} {state : State} {vault : Vault}
    (found : state.vaults key = some vault) : booksAt key state = books state.ledger vault := by
  simp only [booksAt, found]

theorem step_books {rt : Runtime} {state next : State} {instruction : Instruction}
    (wired : WellWired rt state) (success : step rt state instruction = .ok next) (key : Pubkey) :
    (booksAt key state).post (entered key state instruction) = some (booksAt key next) := by
  cases before : state.vaults key with
  | some vault =>
      obtain ⟨lockedAmount, paused, kept, posted⟩ := step_posted before wired success
      simp only [booksAt, entered, before, kept]
      exact posted
  | none =>
      simp only [booksAt, entered, before, Books.post]
      cases after : next.vaults key with
      | none => rfl
      | some vault =>
          obtain ⟨accounts, _, made⟩ := step_new before success after
          exact congrArg some (initializeVault_new before made after).2.2.symm

/-- The sum of one part of all that a run enters in the books at `key`. -/
def totalOf (rt : Runtime) (key : Pubkey) (part : Entry → Nat) (genesis : State)
    (instructions : List Instruction) : Nat :=
  Run.total (step rt) (fun state instruction => part (entered key state instruction)) genesis instructions

section Totals

variable {rt : Runtime} {genesis : State} (wired : WellWired rt genesis)
  (instructions : List Instruction) (key : Pubkey)
include wired

/-- A number of the books that every entry credits and debits, over a run. -/
theorem run_books {quantity : Books → Nat} {credit debit : Entry → Nat}
    (moves : ∀ books entry after, Books.post books entry = some after →
      quantity after + debit entry = quantity books + credit entry) :
    quantity (booksAt key (Run.run (step rt) genesis instructions)) +
        totalOf rt key debit genesis instructions =
      quantity (booksAt key genesis) + totalOf rt key credit genesis instructions := by
  apply @Run.run_net State Instruction Error (step rt) (WellWired rt)
    (fun state => quantity (booksAt key state)) _ _ genesis instructions wired
  · intro current instruction next here success
    exact step_wellWired here success
  · intro current instruction next here success
    exact moves _ _ _ (step_books here success key)

theorem run_locked : (booksAt key (Run.run (step rt) genesis instructions)).locked +
      totalOf rt key Entry.redeemed genesis instructions =
    (booksAt key genesis).locked + totalOf rt key Entry.deposited genesis instructions :=
  run_books wired instructions key fun _ _ _ posted => (Books.post_effect posted).2.1

theorem run_supply : (booksAt key (Run.run (step rt) genesis instructions)).supply +
      (totalOf rt key Entry.redeemed genesis instructions +
        totalOf rt key Entry.forfeited genesis instructions) =
    (booksAt key genesis).supply + totalOf rt key Entry.deposited genesis instructions := by
  have moves : ∀ books entry after, Books.post books entry = some after →
      after.supply + (entry.redeemed + entry.forfeited) = books.supply + entry.deposited := by
    intro books entry after posted
    have := (Books.post_effect posted).2.2
    omega
  have law := run_books wired instructions key moves
  rw [totalOf, Run.total_add] at law
  exact law

theorem run_balance : (booksAt key (Run.run (step rt) genesis instructions)).balance +
      (totalOf rt key Entry.redeemed genesis instructions +
        totalOf rt key Entry.fee genesis instructions) =
    (booksAt key genesis).balance + (totalOf rt key Entry.deposited genesis instructions +
      totalOf rt key Entry.donated genesis instructions) := by
  have moves : ∀ books entry after, Books.post books entry = some after →
      after.balance + (entry.redeemed + entry.fee) =
        books.balance + (entry.deposited + entry.donated) := by
    intro books entry after posted
    have := (Books.post_effect posted).1
    omega
  have law := run_books wired instructions key moves
  rw [totalOf, totalOf, Run.total_add, Run.total_add] at law
  exact law

end Totals

/-- The three numbers of a vault, from all that was ever entered. -/
structure Reconciled (rt : Runtime) (key : Pubkey) (genesis : State) (instructions : List Instruction)
    (books : Books) : Prop where
  locked : books.locked + totalOf rt key Entry.redeemed genesis instructions =
    totalOf rt key Entry.deposited genesis instructions
  supply : books.supply + totalOf rt key Entry.redeemed genesis instructions +
      totalOf rt key Entry.forfeited genesis instructions =
    totalOf rt key Entry.deposited genesis instructions
  balance : books.balance + totalOf rt key Entry.redeemed genesis instructions +
      totalOf rt key Entry.fee genesis instructions =
    totalOf rt key Entry.deposited genesis instructions +
      totalOf rt key Entry.donated genesis instructions
  /-- Fees are all that can leave the Stede of a vault uncovered. -/
  solvent : books.Solvent ↔
    totalOf rt key Entry.fee genesis instructions ≤ totalOf rt key Entry.donated genesis instructions

/-- In every reachable state the books of every vault, whatever its mint charges and
whatever the fee is changed to, are what was wrapped, unwrapped, burned, donated and
withheld. -/
theorem books_reconciled (rt : Runtime) (genesis : State)
    (no_vaults : ∀ key, genesis.vaults key = none) (instructions : List Instruction) (key : Pubkey)
    (vault : Vault) (found : (Run.run (step rt) genesis instructions).vaults key = some vault) :
    Reconciled rt key genesis instructions
      (books (Run.run (step rt) genesis instructions).ledger vault) := by
  have wired : WellWired rt genesis := wellWired_of_no_vaults no_vaults
  have locked := run_locked wired instructions key
  have supply := run_supply wired instructions key
  have balance := run_balance wired instructions key
  have empty : booksAt key genesis = .empty := by
    simp only [booksAt, no_vaults]
  rw [booksAt_of_some found, empty] at locked supply balance
  simp only [Books.empty, Nat.zero_add] at locked supply balance
  refine ⟨locked, ?_, ?_, ?_⟩
  · omega
  · omega
  · unfold Books.Solvent
    omega

/- The chain of before goes on: the admin of the vault is wallet 2. -/
section Sample

open Stede.Runtime (sampleKey)

theorem sample_wired : WellWired .sample (sampleGenesis feeMint) :=
  wellWired_of_no_vaults fun _ => rfl

/-- Ten units are withheld of the 1000 wrapped, so the last ten cannot be unwrapped. -/
def historyRun : List Instruction := sampleRun ++ [.unwrap sampleAccounts 400 true]

theorem books_reconciled_sample :
    ∃ vault,
      (Run.run (step .sample) (sampleGenesis feeMint) historyRun).vaults sampleVault = some vault ∧
      Reconciled .sample sampleVault (sampleGenesis feeMint) historyRun
        (books (Run.run (step .sample) (sampleGenesis feeMint) historyRun).ledger vault) ∧
      totalOf .sample sampleVault Entry.fee (sampleGenesis feeMint) historyRun = 10 ∧
      totalOf .sample sampleVault Entry.donated (sampleGenesis feeMint) historyRun = 0 := by
  have there :
      ((Run.run (step .sample) (sampleGenesis feeMint) historyRun).vaults sampleVault).isSome := by
    decide +kernel
  have found := (Option.some_get there).symm
  exact ⟨_, found, books_reconciled .sample (sampleGenesis feeMint) (fun _ => rfl) historyRun sampleVault
    _ found, by decide +kernel, by decide +kernel⟩

/-- The admin pauses the vault. -/
def pausedSample : State :=
  Run.run (step .sample) (sampleGenesis feeMint)
    (historyRun ++ [.setPaused ⟨sampleSigner 2, sampleVault⟩ true])

/-- The holder tries to unwrap, then to end the pause, then sends 100 units. -/
def pausedRun : List Instruction :=
  [.unwrap sampleAccounts 400 true, .setPaused ⟨sampleSigner 1, sampleVault⟩ false,
    .transferChecked Programs.token2022 (sampleKey 11) (sampleKey 10) (sampleKey 13)
      (sampleSigner 1) 100 6 true]

theorem paused_vault_frozen_sample :
    ∃ vault, pausedSample.vaults sampleVault = some vault ∧
      FrozenSince .sample sampleVault vault pausedSample
        (Run.run (step .sample) pausedSample pausedRun) := by
  have checked : (pausedSample.vaults sampleVault).any
      (fun vault => vault.paused && decide (sampleKey 1 ≠ vault.admin)) = true := by
    decide +kernel
  obtain ⟨vault, found, both⟩ := (Option.any_eq_true _ _).mp checked
  simp only [Bool.and_eq_true, decide_eq_true_eq] at both
  obtain ⟨paused, other⟩ := both
  refine ⟨_, found, paused_vault_frozen .sample sampleVault pausedSample
    (run_wellWired sample_wired _) _ found paused pausedRun ?_⟩
  intro accounts member _ _
  simp only [pausedRun, List.mem_cons, Instruction.setPaused.injEq, and_true, List.not_mem_nil, or_false,
    reduceCtorEq, false_or] at member
  rw [member]
  exact other

end Sample

end Stede.StedeVault
