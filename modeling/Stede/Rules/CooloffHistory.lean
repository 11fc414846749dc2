import Mathlib
import Stede.Lib.Run
import Stede.Rules.Cooloff
import Stede.Solana.Lifecycle

set_option autoImplicit false

/- The timestamp of a cool-off against the history of its account. -/
namespace Stede.Cooloff

/-- The instructions of the rule on the account of one sender and mint. -/
inductive Instruction
  | setCooloff (threshold : UInt64) (durationSeconds : Int64)
  | disableCooloff
  | checkTransfer (input : Check)

def step (rt : Runtime) (accounts : SetConfig) (ledger : Ledger) : Instruction → Except Error Ledger
  | .setCooloff threshold durationSeconds =>
      Cooloff.setCooloff rt ledger accounts threshold durationSeconds
  | .disableCooloff => Cooloff.disableCooloff rt ledger ⟨accounts.sender, accounts.config⟩
  | .checkTransfer input =>
      Cooloff.checkTransfer rt input.clock ledger ⟨accounts.config, false, true⟩ input.amount

/-- The Cooloff account at `key`, when it exists. -/
def accountAt (key : Pubkey) (ledger : Ledger) : Option Cooloff := (kind.load (ledger key)).toOption

/-- The time that the history keeps of the latest approved check at or above the
threshold then in force, taken while the account existed; 0 before the first. -/
def lastLarge (key : Pubkey) (ledger : Ledger) (instruction : Instruction) (last : Int64) : Int64 :=
  match instruction, accountAt key ledger with
  | .checkTransfer input, some cooloff =>
      if cooloff.threshold ≤ input.amount then input.clock.unixTimestamp else last
  | _, _ => last

/-- The rule with its history. -/
def recorded (rt : Runtime) (accounts : SetConfig) :
    Ledger × Int64 → Instruction → Except Error (Ledger × Int64) :=
  Run.withGhost (step rt accounts) (lastLarge accounts.config)

/-- While the account exists, its timestamp is the history's. -/
def Faithful (key : Pubkey) (state : Ledger × Int64) : Prop :=
  ∀ cooloff, accountAt key state.1 = some cooloff → cooloff.lastLargeTransferAt = state.2

/-- A large check is approved no earlier than the duration in force after the
history's latest one. -/
def Waits (rt : Runtime) (accounts : SetConfig) (state : Ledger × Int64) : Instruction → Prop
  | .checkTransfer input => ∀ cooloff next, accountAt accounts.config state.1 = some cooloff →
      cooloff.threshold ≤ input.amount →
      step rt accounts state.1 (.checkTransfer input) = .ok next →
      cooloff.durationSeconds.toInt ≤ input.clock.unixTimestamp.toInt - state.2.toInt
  | _ => True

/-- A `set_cooloff` that meets its own requirements does not make the account anew
after a large transfer. -/
def KeepsHistory (rt : Runtime) (accounts : SetConfig) (state : Ledger × Int64) : Instruction → Prop
  | .setCooloff threshold durationSeconds =>
      accounts.sender.pays rt = true → 0 < threshold →
      MIN_DURATION_SECONDS ≤ durationSeconds ∧ durationSeconds ≤ MAX_DURATION_SECONDS →
      accountAt accounts.config state.1 = none → state.2 = 0
  | _ => True

/-- Either nobody uses the address, or it holds a rent-exempt cool-off of the pair. -/
def Placed (rt : Runtime) (accounts : SetConfig) (ledger : Ledger) : Prop :=
  ((ledger accounts.config).owner = Programs.system ∧ (ledger accounts.config).data = []) ∨
    ∃ lamports cooloff, rt.minimumBalance kind.space ≤ lamports ∧
      ledger accounts.config = kind.held lamports cooloff ∧
      cooloff.sender = accounts.sender.pubkey ∧ cooloff.stedeMint = accounts.stedeMint ∧
      accounts.sender.pubkey ≠ .default

def PlacedState (rt : Runtime) (accounts : SetConfig) (state : Ledger × Int64) : Prop :=
  Placed rt accounts state.1

theorem accountAt_of_unused {key : Pubkey} {ledger : Ledger}
    (unused : (ledger key).owner = Programs.system) : accountAt key ledger = none := by
  cases outcome : kind.load (ledger key) with
  | error reason => simp only [accountAt, outcome, Except.toOption]
  | ok cooloff =>
      obtain ⟨owned, _⟩ := (kind.load_eq_ok _ _ kind.foreign).mp outcome
      exact absurd (owned.symm.trans unused) kind.foreign

theorem accountAt_of_held {key : Pubkey} {ledger : Ledger} {lamports : Nat} {cooloff : Cooloff}
    (holds : ledger key = kind.held lamports cooloff) : accountAt key ledger = some cooloff := by
  have loaded : kind.load (ledger key) = .ok cooloff := by
    rw [holds]
    exact (kind.load_eq_ok _ _ kind.foreign).mpr ⟨rfl, [], (List.append_nil _).symm⟩
  simp only [accountAt, loaded, Except.toOption]

theorem placed_of_written {rt : Runtime} {accounts : SetConfig} {ledger next : Ledger}
    {lamports : Nat} {cooloff : Cooloff} (exempt : rt.minimumBalance kind.space ≤ lamports)
    (after : next = ledger.write accounts.config (kind.held lamports cooloff))
    (sender : cooloff.sender = accounts.sender.pubkey)
    (stedeMint : cooloff.stedeMint = accounts.stedeMint)
    (signs : accounts.sender.pubkey ≠ .default) : Placed rt accounts next := by
  refine Or.inr ⟨lamports, cooloff, exempt, ?_, sender, stedeMint, signs⟩
  rw [after, Ledger.write_self]

theorem accountAt_of_written {key : Pubkey} {ledger next : Ledger} {lamports : Nat}
    {cooloff : Cooloff} (after : next = ledger.write key (kind.held lamports cooloff)) :
    accountAt key next = some cooloff := by
  have holds : next key = kind.held lamports cooloff := by rw [after, Ledger.write_self]
  exact accountAt_of_held holds

section Steps

variable {rt : Runtime} {accounts : SetConfig} {ledger next : Ledger}

theorem checkTransfer_unused (unused : (ledger accounts.config).data = []) (input : Check) :
    step rt accounts ledger (.checkTransfer input) = .ok ledger := by
  have absent : (ledger accounts.config).unconfigured = true := by
    simp [Account.unconfigured, unused]
  have passes : checkTransferHandler rt input.clock accounts.config (ledger accounts.config)
      input.amount = .ok (ledger accounts.config) :=
    (checkTransferHandler_eq_ok _ _ _ _ _ _).mpr (Or.inl ⟨absent, rfl⟩)
  exact (checkTransfer_eq_ok _ _ _ _ _ _).mpr
    ⟨rfl, _, passes, (Function.update_eq_self _ _).symm⟩

theorem disable_unused (unused : (ledger accounts.config).owner = Programs.system) :
    ¬ ∃ next, step rt accounts ledger .disableCooloff = .ok next := by
  intro ⟨next, success⟩
  have ⟨_, value, loaded, _⟩ := (kind.disable_eq_ok _ _ _ _).mp success
  have ⟨owned, _⟩ := (kind.load_eq_ok _ _ kind.foreign).mp loaded
  exact kind.foreign (owned.symm.trans unused)

/-- What a check does to an account that is there. -/
theorem checkTransfer_held {lamports : Nat} {cooloff : Cooloff} (funded : 0 < lamports)
    (holds : ledger accounts.config = kind.held lamports cooloff)
    (derived : accounts.config = (kind.pda rt cooloff.sender cooloff.stedeMint).1) (input : Check) :
    step rt accounts ledger (.checkTransfer input) = .ok next ↔
      (input.amount < cooloff.threshold ∧ next = ledger) ∨
      (cooloff.threshold ≤ input.amount ∧
        (∃ elapsed, Checked.subI64 input.clock.unixTimestamp cooloff.lastLargeTransferAt =
          some elapsed ∧ cooloff.durationSeconds ≤ elapsed) ∧
        next = ledger.write accounts.config (kind.held lamports
          { cooloff with lastLargeTransferAt := input.clock.unixTimestamp })) := by
  show checkTransfer rt input.clock ledger ⟨accounts.config, false, true⟩ input.amount = .ok next ↔ _
  rw [checkTransfer_eq_ok]
  simp only [true_and, checkTransferHandler, holds, kind.checked_held rt _ funded derived]
  by_cases small : input.amount < cooloff.threshold
  · have not_large : ¬ cooloff.threshold ≤ input.amount := UInt64.not_le.mpr small
    simp only [small, ↓reduceIte, Except.ok.injEq, true_and, not_large, false_and, or_false]
    constructor
    · rintro ⟨account, same, after⟩
      rw [after, ← same, ← holds]
      exact Function.update_eq_self _ _
    · intro after
      refine ⟨_, rfl, ?_⟩
      rw [after, ← holds]
      exact (Function.update_eq_self _ _).symm
  · have large : cooloff.threshold ≤ input.amount := UInt64.not_lt.mp small
    simp only [small, ↓reduceIte, false_and, false_or, large, true_and, bind_eq_ok, okOr_eq_ok,
      require_eq_ok, exists_const, AccountType.store_held, Except.ok.injEq]
    constructor
    · rintro ⟨account, ⟨elapsed, difference, late, same⟩, after⟩
      rw [after, ← same]
      exact ⟨⟨elapsed, difference, late⟩, rfl⟩
    · rintro ⟨⟨elapsed, difference, late⟩, after⟩
      exact ⟨_, ⟨elapsed, difference, late, rfl⟩, after⟩

/-- `set_cooloff` changes the threshold and the duration of an account that is there. -/
theorem setCooloff_held {threshold : UInt64} {durationSeconds : Int64}
    {lamports : Nat} {cooloff : Cooloff} (exempt : rt.minimumBalance kind.space ≤ lamports)
    (holds : ledger accounts.config = kind.held lamports cooloff)
    (configured : cooloff.sender ≠ .default)
    (success : step rt accounts ledger (.setCooloff threshold durationSeconds) = .ok next) :
    next = ledger.write accounts.config (kind.held lamports
      { cooloff with threshold := threshold, durationSeconds := durationSeconds }) := by
  have called : setCooloff rt ledger accounts threshold durationSeconds = .ok next := success
  have ⟨_, _, value, handled, after⟩ := (kind.set_of_held _ _ _ _ _ exempt holds).mp called
  have ⟨_, _, made⟩ := (setCooloffHandler_eq_ok _ _ _ _ _ _ _).mp handled
  simp only [configured, ↓reduceIte] at made
  rw [after, made]

end Steps

section Runs

variable {rt : Runtime} {accounts : SetConfig}
  (derived : accounts.config = (kind.pda rt accounts.sender.pubkey accounts.stedeMint).1)
include derived

/-- `set_cooloff` makes the account where there is none. -/
theorem setCooloff_unused {ledger next : Ledger} {threshold : UInt64} {durationSeconds : Int64}
    (unused : (ledger accounts.config).owner = Programs.system ∧ (ledger accounts.config).data = []) :
    step rt accounts ledger (.setCooloff threshold durationSeconds) = .ok next ↔
      accounts.sender.pays rt = true ∧ 0 < threshold ∧
      (MIN_DURATION_SECONDS ≤ durationSeconds ∧ durationSeconds ≤ MAX_DURATION_SECONDS) ∧
      next = ledger.write accounts.config (kind.held
        (max (ledger accounts.config).lamports (rt.minimumBalance kind.space))
        ⟨accounts.sender.pubkey, accounts.stedeMint, threshold, durationSeconds, 0,
          (kind.pda rt accounts.sender.pubkey accounts.stedeMint).2⟩) := by
  have fresh : kind.zero.sender = Pubkey.default := rfl
  show setCooloff rt ledger accounts threshold durationSeconds = .ok next ↔ _
  rw [setCooloff, kind.set_of_unused _ _ _ _ _ unused.1]
  simp only [derived.symm, unused.2, true_and, setCooloffHandler_eq_ok, fresh, ↓reduceIte]
  constructor
  · intro ⟨pays, value, ⟨positive, range, made⟩, after⟩
    rw [made] at after
    exact ⟨pays, positive, range, after⟩
  · intro ⟨pays, positive, range, after⟩
    exact ⟨pays, _, ⟨positive, range, rfl⟩, after⟩

theorem Placed.step {ledger next : Ledger} {instruction : Instruction}
    (placed : Placed rt accounts ledger)
    (success : Cooloff.step rt accounts ledger instruction = .ok next) :
    Placed rt accounts next := by
  rcases placed with unused | ⟨lamports, cooloff, exempt, holds, sender, stedeMint, signs⟩
  · cases instruction with
    | setCooloff threshold durationSeconds =>
        have ⟨pays, _, _, after⟩ := (setCooloff_unused derived unused).mp success
        have not_default := ConfigKind.signer_ne_default pays
        exact placed_of_written (Nat.le_max_right _ _) after rfl rfl not_default
    | disableCooloff => exact absurd ⟨next, success⟩ (disable_unused unused.1)
    | checkTransfer input =>
        rw [checkTransfer_unused unused.2, Except.ok.injEq] at success
        rw [← success]
        exact Or.inl unused
  · have funded := (rt.minimumBalance_pos kind.space).trans_le exempt
    have derived' : accounts.config = (kind.pda rt cooloff.sender cooloff.stedeMint).1 := by
      rw [sender, stedeMint]
      exact derived
    cases instruction with
    | setCooloff threshold durationSeconds =>
        have configured : cooloff.sender ≠ .default := by
          rw [sender]
          exact signs
        have after := setCooloff_held exempt holds configured success
        exact placed_of_written exempt after sender stedeMint signs
    | disableCooloff =>
        have ⟨_, value, _, _, _, after⟩ := (kind.disable_eq_ok _ _ _ _).mp success
        apply Or.inl
        rw [after, Ledger.write_self]
        exact ⟨rfl, rfl⟩
    | checkTransfer input =>
        rcases (checkTransfer_held funded holds derived' input).mp success with
          ⟨_, after⟩ | ⟨_, _, after⟩
        · rw [after]
          exact Or.inr ⟨lamports, cooloff, exempt, holds, sender, stedeMint, signs⟩
        · exact placed_of_written exempt after sender stedeMint signs

/-- One step out of a faithful state: it is left faithful exactly when the
account is not made anew over a history. -/
theorem step_faithful_iff {state next : Ledger × Int64} {instruction : Instruction}
    (placed : Placed rt accounts state.1) (faithful : Faithful accounts.config state)
    (success : recorded rt accounts state instruction = .ok next) :
    Faithful accounts.config next ↔ KeepsHistory rt accounts state instruction := by
  have ⟨stepped, record⟩ := Run.withGhost_eq_ok.mp success
  rcases placed with unused | ⟨lamports, cooloff, exempt, holds, sender, stedeMint, signs⟩
  · have absent := accountAt_of_unused unused.1
    cases instruction with
    | setCooloff threshold durationSeconds =>
        have ⟨pays, positive, range, after⟩ := (setCooloff_unused derived unused).mp stepped
        have held := accountAt_of_written after
        have same_record : next.2 = state.2 := record
        constructor
        · intro kept _ _ _ _
          have zero := kept _ held
          rw [← same_record, ← zero]
        · intro keeps made found
          rw [held, Option.some.injEq] at found
          rw [← found, same_record]
          exact (keeps pays positive range absent).symm
    | disableCooloff => exact absurd ⟨next.1, stepped⟩ (disable_unused unused.1)
    | checkTransfer input =>
        rw [checkTransfer_unused unused.2, Except.ok.injEq] at stepped
        simp only [KeepsHistory, iff_true]
        intro made found
        rw [← stepped, absent] at found
        cases found
  · have found := accountAt_of_held holds
    have last := faithful cooloff found
    have funded := (rt.minimumBalance_pos kind.space).trans_le exempt
    have derived' : accounts.config = (kind.pda rt cooloff.sender cooloff.stedeMint).1 := by
      rw [sender, stedeMint]
      exact derived
    cases instruction with
    | setCooloff threshold durationSeconds =>
        have configured : cooloff.sender ≠ .default := by
          rw [sender]
          exact signs
        have after := setCooloff_held exempt holds configured stepped
        have held := accountAt_of_written after
        have same_record : next.2 = state.2 := record
        constructor
        · intro _ _ _ _ absent
          rw [found] at absent
          cases absent
        · intro _ made found'
          rw [held, Option.some.injEq] at found'
          rw [← found', same_record]
          exact last
    | disableCooloff =>
        have ⟨_, value, _, _, _, after⟩ := (kind.disable_eq_ok _ _ _ _).mp stepped
        have absent : accountAt accounts.config next.1 = none := by
          apply accountAt_of_unused
          rw [after, Ledger.write_self]
          rfl
        simp only [KeepsHistory, iff_true]
        intro made found'
        rw [absent] at found'
        cases found'
    | checkTransfer input =>
        simp only [KeepsHistory, iff_true]
        simp only [lastLarge, found] at record
        rcases (checkTransfer_held funded holds derived' input).mp stepped with
          ⟨small, after⟩ | ⟨large, _, after⟩
        · simp only [UInt64.not_le.mpr small, ↓reduceIte] at record
          intro made found'
          rw [after, found, Option.some.injEq] at found'
          rw [← found', record]
          exact last
        · simp only [large, ↓reduceIte] at record
          intro made found'
          rw [accountAt_of_written after, Option.some.injEq] at found'
          rw [← found', record]

/-- In a faithful state a large check has to wait. -/
theorem waits_of_faithful {state : Ledger × Int64} (placed : Placed rt accounts state.1)
    (faithful : Faithful accounts.config state) (instruction : Instruction) :
    Waits rt accounts state instruction := by
  cases instruction with
  | checkTransfer input =>
      intro cooloff next found large success
      rcases placed with unused | ⟨lamports, held, exempt, holds, sender, stedeMint, signs⟩
      · rw [accountAt_of_unused unused.1] at found
        cases found
      · have funded := (rt.minimumBalance_pos kind.space).trans_le exempt
        have derived' : accounts.config = (kind.pda rt held.sender held.stedeMint).1 := by
          rw [sender, stedeMint]
          exact derived
        have last := faithful cooloff found
        rw [accountAt_of_held holds, Option.some.injEq] at found
        rw [found] at holds derived'
        rcases (checkTransfer_held funded holds derived' input).mp success with
          ⟨small, _⟩ | ⟨_, ⟨elapsed, difference, late⟩, _⟩
        · exact absurd large (UInt64.not_le.mpr small)
        · have exact_elapsed := (Checked.subI64_eq_some _ _ _).mp difference
          have late' := Int64.le_iff_toInt_le.mp late
          rw [← last, ← exact_elapsed]
          exact late'
  | _ => trivial

/-- A `set_cooloff` that fails made nothing anew. -/
theorem keepsHistory_of_failed {state : Ledger × Int64} {instruction : Instruction} {reason : Error}
    (placed : Placed rt accounts state.1)
    (failed : recorded rt accounts state instruction = .error reason) :
    KeepsHistory rt accounts state instruction := by
  cases instruction with
  | setCooloff threshold durationSeconds =>
      intro pays positive range absent
      rcases placed with unused | ⟨lamports, cooloff, _, holds, _⟩
      · have success := (setCooloff_unused derived unused).mpr ⟨pays, positive, range, rfl⟩
        simp only [recorded, Run.withGhost, success, Except.map, reduceCtorEq] at failed
      · rw [accountAt_of_held holds] at absent
        cases absent
  | _ => trivial

/-- In every run from an unused address: the timestamp follows the history in
every state reached, and every large check waits for it, exactly when no
`set_cooloff` makes the account anew after a large transfer. -/
theorem cooloff_history_iff (ledger : Ledger)
    (unused : (ledger accounts.config).owner = Programs.system ∧ (ledger accounts.config).data = [])
    (instructions : List Instruction) :
    ((∀ reached, Run.Reached (recorded rt accounts) (ledger, 0) instructions reached →
        Faithful accounts.config reached) ∧
      ∀ current instruction,
        Run.Taken (recorded rt accounts) (ledger, 0) instructions current instruction →
          Waits rt accounts current instruction) ↔
      ∀ current instruction,
        Run.Taken (recorded rt accounts) (ledger, 0) instructions current instruction →
          KeepsHistory rt accounts current instruction := by
  have placed : PlacedState rt accounts (ledger, 0) := Or.inl unused
  have preserved : ∀ current instruction next, instruction ∈ instructions →
      PlacedState rt accounts current → recorded rt accounts current instruction = .ok next →
      PlacedState rt accounts next := by
    intro current instruction next _ here success
    exact Placed.step derived here (Run.withGhost_eq_ok.mp success).1
  have start : Faithful accounts.config (ledger, 0) := by
    intro cooloff found
    rw [accountAt_of_unused unused.1] at found
    cases found
  have exactly : ∀ current instruction, instruction ∈ instructions →
      PlacedState rt accounts current → Faithful accounts.config current →
      (Faithful accounts.config (Run.commit (recorded rt accounts) current instruction) ↔
        KeepsHistory rt accounts current instruction) := by
    intro current instruction _ here faithful
    rcases Run.commit_cases (recorded rt accounts) current instruction with
      success | ⟨⟨reason, failed⟩, unchanged⟩
    · exact step_faithful_iff derived here faithful success
    · rw [unchanged]
      exact iff_of_true faithful (keepsHistory_of_failed derived here failed)
  have core := Run.forall_reached_iff placed start preserved exactly
  constructor
  · intro ⟨faithful, _⟩
    exact core.mp faithful
  · intro keeps
    have faithful := core.mpr keeps
    refine ⟨faithful, ?_⟩
    intro current instruction taken
    have here := Run.reached_invariant placed preserved taken.reached
    exact waits_of_faithful derived here (faithful current taken.reached) instruction

end Runs

/- A cool-off of an hour, switched off and on again a second after a large transfer. -/
section Sample

open Stede.Runtime (sampleKey)

def sampleSet : SetConfig :=
  ⟨⟨sampleKey 1, true, true⟩, sampleKey 2, (kind.pda .sample (sampleKey 1) (sampleKey 2)).1⟩

def sampleToggle : List Instruction :=
  [.setCooloff 100 3600, .checkTransfer ⟨⟨0, 10000⟩, 100⟩, .disableCooloff, .setCooloff 100 3600]

theorem cooloff_history_iff_sample :
    ((∀ reached,
        Run.Reached (recorded .sample sampleSet) (fun _ => .absent, 0) sampleToggle reached →
          Faithful sampleSet.config reached) ∧
      ∀ current instruction,
        Run.Taken (recorded .sample sampleSet) (fun _ => .absent, 0) sampleToggle current instruction →
          Waits .sample sampleSet current instruction) ↔
      ∀ current instruction,
        Run.Taken (recorded .sample sampleSet) (fun _ => .absent, 0) sampleToggle current instruction →
          KeepsHistory .sample sampleSet current instruction :=
  cooloff_history_iff rfl (fun _ => .absent) ⟨rfl, rfl⟩ sampleToggle

/-- The timestamp is back at 0, and another large transfer passes at once. -/
theorem cooloff_erased :
    (¬ ∀ reached,
      Run.Reached (recorded .sample sampleSet) (fun _ => .absent, 0) sampleToggle reached →
        Faithful sampleSet.config reached) ∧
    (step .sample sampleSet
      (Run.run (recorded .sample sampleSet) (fun _ => .absent, 0) sampleToggle).1
      (.checkTransfer ⟨⟨0, 10001⟩, 100⟩)).isOk = true := by
  refine ⟨?_, by decide +kernel⟩
  intro faithful
  have last := faithful _ ⟨sampleToggle, [], (List.append_nil sampleToggle).symm, rfl⟩
  have erased : (accountAt sampleSet.config
      (Run.run (recorded .sample sampleSet) (fun _ => .absent, 0) sampleToggle).1).any
        (fun cooloff => decide (cooloff.lastLargeTransferAt ≠
          (Run.run (recorded .sample sampleSet) (fun _ => .absent, 0) sampleToggle).2)) = true := by
    decide +kernel
  have ⟨cooloff, found, differs⟩ := (Option.any_eq_true _ _).mp erased
  exact of_decide_eq_true differs (last cooloff found)

end Sample

end Stede.Cooloff
