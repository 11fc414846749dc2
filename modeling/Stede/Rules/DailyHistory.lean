import Stede.Rules.DailyWindow
import Stede.Solana.Lifecycle

set_option autoImplicit false

/- The counters of a daily limit against the history of its account. -/
namespace Stede.DailyLimit

open Window

/-- The instructions of the rule on the account at one address. -/
inductive Instruction
  | setLimit (clock : Clock) (sender : AccountMeta) (stedeMint : Pubkey) (limit : UInt64)
  | checkTransfer (input : Check)

def Instruction.slot : Instruction → Nat
  | setLimit clock _ _ _ => clock.slot.toNat
  | checkTransfer input => input.slot

def step (rt : Runtime) (key : Pubkey) (ledger : Ledger) : Instruction → Except Error Ledger
  | .setLimit clock sender stedeMint limit =>
      setLimit rt clock ledger ⟨sender, stedeMint, key⟩ limit
  | .checkTransfer input => check rt key ledger input

/-- The DailyLimit account at `key`, when it exists. -/
def accountAt (key : Pubkey) (ledger : Ledger) : Option DailyLimit := (kind.load (ledger key)).toOption

/-- The limit last set in a history that began with `first`. -/
def lastLimit (first : UInt64) (history : List Instruction) : UInt64 :=
  history.foldl (fun limit instruction =>
    match instruction with
    | .setLimit _ _ _ newLimit => newLimit
    | .checkTransfer _ => limit) first

def asCheck : Instruction → Option Check
  | .setLimit .. => none
  | .checkTransfer input => some input

/-- The amount that counts against a check at `slot`, given the accepted history. -/
def base (dailyLimit : DailyLimit) (history : List Instruction) (slot : Nat) : Nat :=
  dailyLimit.meter.base Check.slot (fun check => check.amount.toNat) SLOTS_PER_DAY.toNat
    (history.filterMap asCheck) slot

theorem setLimitHandler_claims (clock : Clock) (sender stedeMint : Pubkey) (limit : UInt64) :
    kind.Claims sender stedeMint fun bump => setLimitHandler clock sender stedeMint bump limit := by
  intro bump old new handled
  have ⟨_, made⟩ := (setLimitHandler_eq_ok _ _ _ _ _ _ _).mp handled
  by_cases fresh : old.sender = .default
  · simp only [fresh, ↓reduceIte] at made
    rw [made]
    exact Or.inr ⟨rfl, rfl, rfl⟩
  · simp only [fresh, ↓reduceIte] at made
    rw [made]
    exact Or.inl ⟨fresh, rfl, rfl, rfl⟩

theorem spend_charge {input : Check} {dailyLimit next : DailyLimit}
    (success : dailyLimit.spend input.clock.slot input.amount = .ok next) :
    charge Check.slot (fun check => check.amount.toNat) SLOTS_PER_DAY.toNat dailyLimit.limit.toNat
      dailyLimit.meter input = .ok next.meter := by
  have charges := spend_charges input dailyLimit
  rw [success] at charges
  cases outcome : charge Check.slot (fun check => check.amount.toNat) SLOTS_PER_DAY.toNat
      dailyLimit.limit.toNat dailyLimit.meter input with
  | error reason =>
      rw [outcome] at charges
      exact nomatch charges
  | ok charged =>
      rw [outcome] at charges
      exact congrArg Except.ok (Option.some.inj charges).symm

/-- A spend is accepted exactly when the rolled meter has room for it. -/
theorem spend_accepts (input : Check) (dailyLimit : DailyLimit) :
    (∃ next, dailyLimit.spend input.clock.slot input.amount = .ok next) ↔
      (dailyLimit.meter.rolled SLOTS_PER_DAY.toNat input.slot).spent + input.amount.toNat ≤
        dailyLimit.limit.toNat := by
  constructor
  · intro ⟨next, success⟩
    exact ((charge_eq_ok _ _ _).mp (spend_charge success)).1
  · intro fits
    have charged : charge Check.slot (fun check => check.amount.toNat) SLOTS_PER_DAY.toNat
        dailyLimit.limit.toNat dailyLimit.meter input = .ok _ := (charge_eq_ok _ _ _).mpr ⟨fits, rfl⟩
    have charges := spend_charges input dailyLimit
    rw [charged] at charges
    cases outcome : dailyLimit.spend input.clock.slot input.amount with
    | error reason =>
        rw [outcome] at charges
        exact nomatch charges
    | ok next => exact ⟨next, rfl⟩

section Steps

variable {rt : Runtime} {key : Pubkey} {ledger next : Ledger} {dailyLimit : DailyLimit}

theorem accountAt_of_live (live : kind.Live rt key dailyLimit (ledger key)) :
    accountAt key ledger = some dailyLimit := by
  rw [accountAt, live.load]
  rfl

/-- What a check does to a live account. -/
theorem checkTransfer_live (live : kind.Live rt key dailyLimit (ledger key)) (input : Check) :
    step rt key ledger (.checkTransfer input) = .ok next ↔
      ∃ charged, dailyLimit.spend input.clock.slot input.amount = .ok charged ∧
        next = ledger.write key (kind.held (ledger key).lamports charged) := by
  show check rt key ledger input = .ok next ↔ _
  rw [check_of_held live.funded live.holds live.address]
  cases dailyLimit.spend input.clock.slot input.amount with
  | error reason => simp only [Except.map, reduceCtorEq, false_and, exists_false]
  | ok charged =>
      simp only [Except.map, Except.ok.injEq, exists_eq_left']
      exact eq_comm

/-- A check that is accepted leaves the account live, and renews its window when a
day's worth of slots has passed. -/
theorem checkTransfer_next (live : kind.Live rt key dailyLimit (ledger key)) {input : Check}
    (success : step rt key ledger (.checkTransfer input) = .ok next) :
    ∃ charged, dailyLimit.spend input.clock.slot input.amount = .ok charged ∧
      kind.Live rt key charged (next key) ∧
      charged.windowStartSlot.toNat =
        if SLOTS_PER_DAY.toNat ≤ input.slot - dailyLimit.windowStartSlot.toNat then input.slot
          else dailyLimit.windowStartSlot.toNat := by
  have ⟨charged, spent, written⟩ := (checkTransfer_live live input).mp success
  have ⟨same, _, _⟩ := (spend_eq_ok _ _ _ _).mp spent
  have bump : charged.bump = dailyLimit.bump := by
    rw [same]
    unfold rolled
    split <;> rfl
  have ⟨sender, stedeMint, _⟩ := spend_keeps spent
  have ⟨_, meter⟩ := (charge_eq_ok _ _ _).mp (spend_charge spent)
  refine ⟨charged, spent, ?_, (congrArg Meter.start meter).trans (Meter.rolled_start _ _ _)⟩
  rw [written, Ledger.write_self]
  apply live.rewrite
  · show (key, charged.bump) = kind.pda rt charged.sender charged.stedeMint
    rw [bump, sender, stedeMint]
    exact live.derived
  · show charged.sender ≠ .default
    rw [sender]
    exact live.claimed

/-- `set_limit` changes the limit of a live account and nothing else. -/
theorem setLimit_live (live : kind.Live rt key dailyLimit (ledger key)) {clock : Clock}
    {sender : AccountMeta} {stedeMint : Pubkey} {limit : UInt64}
    (success : step rt key ledger (.setLimit clock sender stedeMint limit) = .ok next) :
    kind.Live rt key { dailyLimit with limit := limit } (next key) := by
  have ⟨new, handled, rewritten⟩ :=
    ConfigKind.Live.set_live ⟨sender, stedeMint, key⟩
      (setLimitHandler_claims clock sender.pubkey stedeMint limit) live success
  have ⟨_, made⟩ := (setLimitHandler_eq_ok _ _ _ _ _ _ _).mp handled
  simp only [show ¬ dailyLimit.sender = .default from live.claimed, ↓reduceIte] at made
  rw [made] at rewritten
  exact rewritten

end Steps

/-- The account stands for its history: it names the limit last set, and its meter
records the accepted checks. -/
structure Faithful (rt : Runtime) (key : Pubkey) (limit : UInt64) (created : Nat) (ledger : Ledger)
    (history : List Instruction) (dailyLimit : DailyLimit) : Prop where
  live : kind.Live rt key dailyLimit (ledger key)
  limit_last : dailyLimit.limit = lastLimit limit history
  records : dailyLimit.meter.Records Check.slot (fun check => check.amount.toNat)
    SLOTS_PER_DAY.toNat (history.filterMap asCheck)
  started : dailyLimit.windowStartSlot.toNat = created ∨
    ∃ input, .checkTransfer input ∈ history ∧ dailyLimit.windowStartSlot.toNat = input.slot

section Runs

variable {rt : Runtime} {key : Pubkey} {limit : UInt64} {created : Nat} {ledger next : Ledger}
  {history : List Instruction} {dailyLimit : DailyLimit}

theorem Faithful.accepts (faithful : Faithful rt key limit created ledger history dailyLimit)
    (input : Check) :
    (∃ next, step rt key ledger (.checkTransfer input) = .ok next) ↔
      base dailyLimit history input.slot + input.amount.toNat ≤ (lastLimit limit history).toNat := by
  have accepts := spend_accepts input dailyLimit
  rw [faithful.records.rolled_spent, faithful.limit_last] at accepts
  rw [← base] at accepts
  rw [← accepts]
  constructor
  · intro ⟨next, success⟩
    have ⟨charged, spent, _⟩ := (checkTransfer_live faithful.live input).mp success
    exact ⟨charged, spent⟩
  · intro ⟨charged, spent⟩
    exact ⟨_, (checkTransfer_live faithful.live input).mpr ⟨charged, spent, rfl⟩⟩

/-- The step lemma: a check that is accepted is recorded. -/
theorem Faithful.checkTransfer (faithful : Faithful rt key limit created ledger history dailyLimit)
    {input : Check} (later : dailyLimit.windowStartSlot.toNat ≤ input.slot)
    (success : step rt key ledger (.checkTransfer input) = .ok next) :
    ∃ charged, Faithful rt key limit created next (history ++ [.checkTransfer input]) charged ∧
      charged.spentToday.toNat = base dailyLimit history input.slot + input.amount.toNat ∧
      charged.windowStartSlot.toNat =
        (if SLOTS_PER_DAY.toNat ≤ input.slot - dailyLimit.windowStartSlot.toNat then input.slot
          else dailyLimit.windowStartSlot.toNat) ∧
      charged.windowStartSlot.toNat ≤ input.slot := by
  have ⟨charged, spent, live, renewed⟩ := checkTransfer_next faithful.live success
  have meter := spend_charge spent
  have ⟨_, same⟩ := (charge_eq_ok _ _ _).mp meter
  have positive : 0 < SLOTS_PER_DAY.toNat := by decide
  have ⟨recorded, begun⟩ := faithful.records.charge positive later meter
  have ⟨_, _, kept⟩ := spend_keeps spent
  refine ⟨charged, ⟨live, ?_, ?_, ?_⟩, ?_, renewed, begun⟩
  · rw [kept, faithful.limit_last, lastLimit, lastLimit, List.foldl_append]
    rfl
  · rw [List.filterMap_append]
    exact recorded
  · rw [renewed]
    split
    · exact Or.inr ⟨input, List.mem_append_right _ (List.mem_singleton_self _), rfl⟩
    · rcases faithful.started with first | ⟨earlier, member, same_slot⟩
      · exact Or.inl first
      · exact Or.inr ⟨earlier, List.mem_append_left _ member, same_slot⟩
  · have total : charged.spentToday.toNat =
        (dailyLimit.meter.rolled SLOTS_PER_DAY.toNat input.slot).spent + input.amount.toNat :=
      congrArg Meter.spent same
    rw [total, faithful.records.rolled_spent]
    rfl

theorem Faithful.setLimit (faithful : Faithful rt key limit created ledger history dailyLimit)
    {clock : Clock} {sender : AccountMeta} {stedeMint : Pubkey} {newLimit : UInt64}
    (success : step rt key ledger (.setLimit clock sender stedeMint newLimit) = .ok next) :
    Faithful rt key limit created next (history ++ [.setLimit clock sender stedeMint newLimit])
      { dailyLimit with limit := newLimit } := by
  refine ⟨setLimit_live faithful.live success, ?_, ?_, ?_⟩
  · rw [lastLimit, List.foldl_append]
    rfl
  · rw [List.filterMap_append]
    show dailyLimit.meter.Records _ _ _ (history.filterMap asCheck ++ [])
    rw [List.append_nil]
    exact faithful.records
  · rcases faithful.started with first | ⟨earlier, member, same_slot⟩
    · exact Or.inl first
    · exact Or.inr ⟨earlier, List.mem_append_left _ member, same_slot⟩

/-- Creating the account begins its history. -/
theorem setLimit_faithful {clock : Clock} {accounts : SetConfig}
    (unused : (ledger accounts.config).Unused)
    (set : setLimit rt clock ledger accounts limit = .ok next) :
    ∃ dailyLimit,
      Faithful rt accounts.config limit clock.slot.toNat next [] dailyLimit := by
  have ⟨dailyLimit, handled, live⟩ := ConfigKind.set_live_of_unused accounts
    (setLimitHandler_claims clock accounts.sender.pubkey accounts.stedeMint limit) rfl unused set
  have ⟨_, made⟩ := (setLimitHandler_eq_ok _ _ _ _ _ _ _).mp handled
  have fresh : kind.zero.sender = Pubkey.default := rfl
  simp only [fresh, ↓reduceIte] at made
  refine ⟨dailyLimit, live, ?_, ?_, ?_⟩
  · rw [made]
    rfl
  · rw [made]
    exact Meter.records_nil _
  · rw [made]
    exact Or.inl rfl

/-- Two window starts coincide, or the later one is a day's worth of slots on. -/
def Spaced (earlier later : Nat) : Prop :=
  earlier = later ∨ earlier + SLOTS_PER_DAY.toNat ≤ later

theorem spaced_trans {first second third : Nat} (early : Spaced first second)
    (late : Spaced second third) : Spaced first third := by
  unfold Spaced at *
  omega

/-- The account is live, in the window that starts at `start` or in a later one. -/
def InWindowFrom (rt : Runtime) (key : Pubkey) (start : Nat) (ledger : Ledger) : Prop :=
  ∃ dailyLimit, kind.Live rt key dailyLimit (ledger key) ∧
    Spaced start dailyLimit.windowStartSlot.toNat

/-- Over any stretch of a run the window only moves by a day or more. -/
theorem windows_spaced {start : Nat} (here : InWindowFrom rt key start ledger)
    (instructions : List Instruction) :
    InWindowFrom rt key start (Run.run (step rt key) ledger instructions) := by
  apply Run.run_invariant here
  intro current instruction next _ ⟨last, live, spaced⟩ success
  cases instruction with
  | setLimit clock sender stedeMint newLimit => exact ⟨_, setLimit_live live success, spaced⟩
  | checkTransfer input =>
      have ⟨charged, _, after, renewed⟩ := checkTransfer_next live success
      have positive : 0 < SLOTS_PER_DAY.toNat := by decide
      refine ⟨charged, after, spaced_trans spaced ?_⟩
      unfold Spaced
      split at renewed <;> omega

def Recorded (rt : Runtime) (key : Pubkey) (limit : UInt64) (created : Nat) (ledger : Ledger)
    (history : List Instruction) : Prop :=
  ∃ dailyLimit, Faithful rt key limit created ledger history dailyLimit

section Ordered

variable {instructions before after : List Instruction}
  (ordered : (created :: instructions.map Instruction.slot).Pairwise (· ≤ ·))
  (split : instructions = before ++ after)
include ordered split

/-- No window starts later than an instruction that is still to come. -/
theorem Faithful.started_before
    (faithful : Faithful rt key limit created (Run.run (step rt key) ledger before)
      (Run.accepted (step rt key) ledger before) dailyLimit) :
    ∀ instruction ∈ after, dailyLimit.windowStartSlot.toNat ≤ instruction.slot := by
  intro instruction member
  have ⟨first_least, rest_ordered⟩ := List.pairwise_cons.mp ordered
  rw [split, List.map_append] at rest_ordered
  rw [split] at first_least
  rcases faithful.started with first | ⟨earlier, listed, same_slot⟩
  · rw [first]
    exact first_least _ (List.mem_map_of_mem (List.mem_append_right _ member))
  · rw [same_slot]
    have inside := (Run.accepted_sublist _ _).subset listed
    exact (List.pairwise_append.mp rest_ordered).2.2 _ (List.mem_map_of_mem inside) _
      (List.mem_map_of_mem member)

/-- At every point of a run the account stands for the history up to there. -/
theorem recorded_at (start : Recorded rt key limit created ledger []) :
    Recorded rt key limit created (Run.run (step rt key) ledger before)
      (Run.accepted (step rt key) ledger before) := by
  apply Run.history_invariant start _ before after split
  intro before instruction after next split ⟨dailyLimit, faithful⟩ success
  cases instruction with
  | setLimit clock sender stedeMint newLimit => exact ⟨_, faithful.setLimit success⟩
  | checkTransfer input =>
      have later := faithful.started_before ordered split _ List.mem_cons_self
      have ⟨charged, recorded, _⟩ := faithful.checkTransfer later success
      exact ⟨charged, recorded⟩

end Ordered

end Runs

/-- Every verdict and both counters of a daily limit are those of its history. -/
theorem daily_limit_history (rt : Runtime) (clock : Clock) (ledger start : Ledger)
    (accounts : SetConfig) (limit : UInt64) (unused : (ledger accounts.config).Unused)
    (set : setLimit rt clock ledger accounts limit = .ok start) (instructions : List Instruction)
    (ordered : (clock.slot.toNat :: instructions.map Instruction.slot).Pairwise (· ≤ ·))
    (before after : List Instruction) :
    (∀ input, instructions = before ++ .checkTransfer input :: after →
      ∃ dailyLimit,
        accountAt accounts.config (Run.run (step rt accounts.config) start before) = some dailyLimit ∧
        ((∃ next, step rt accounts.config (Run.run (step rt accounts.config) start before)
            (.checkTransfer input) = .ok next) ↔
          base dailyLimit (Run.accepted (step rt accounts.config) start before) input.slot +
              input.amount.toNat ≤
            (lastLimit limit (Run.accepted (step rt accounts.config) start before)).toNat) ∧
        (∀ next, step rt accounts.config (Run.run (step rt accounts.config) start before)
            (.checkTransfer input) = .ok next →
          ∃ charged, accountAt accounts.config next = some charged ∧
            charged.spentToday.toNat =
              base dailyLimit (Run.accepted (step rt accounts.config) start before) input.slot +
                input.amount.toNat ∧
            charged.spentToday.toNat ≤
              (lastLimit limit (Run.accepted (step rt accounts.config) start before)).toNat ∧
            charged.windowStartSlot.toNat ≤ input.slot ∧
            input.slot < charged.windowStartSlot.toNat + SLOTS_PER_DAY.toNat) ∧
        ∀ reason, step rt accounts.config (Run.run (step rt accounts.config) start before)
            (.checkTransfer input) = .error reason →
          accountAt accounts.config
            (Run.run (step rt accounts.config) start (before ++ [.checkTransfer input])) =
              some dailyLimit) ∧
    (∀ clock' sender stedeMint newLimit,
      instructions = before ++ .setLimit clock' sender stedeMint newLimit :: after →
      ∃ old new,
        accountAt accounts.config (Run.run (step rt accounts.config) start before) = some old ∧
        accountAt accounts.config (Run.run (step rt accounts.config) start
          (before ++ [.setLimit clock' sender stedeMint newLimit])) = some new ∧
        new.spentToday = old.spentToday ∧ new.windowStartSlot = old.windowStartSlot) ∧
    ∀ middle, instructions = before ++ (middle ++ after) → ∃ earlier later,
      accountAt accounts.config (Run.run (step rt accounts.config) start before) = some earlier ∧
      accountAt accounts.config (Run.run (step rt accounts.config) start (before ++ middle)) =
        some later ∧
      (later.windowStartSlot.toNat = earlier.windowStartSlot.toNat ∨
        earlier.windowStartSlot.toNat + SLOTS_PER_DAY.toNat ≤ later.windowStartSlot.toNat) := by
  have begun : Recorded rt accounts.config limit clock.slot.toNat start [] :=
    setLimit_faithful unused set
  refine ⟨?_, ?_, ?_⟩
  · intro input split
    have ⟨dailyLimit, faithful⟩ := recorded_at ordered split begun
    have later := faithful.started_before ordered split _ List.mem_cons_self
    refine ⟨dailyLimit, accountAt_of_live faithful.live, faithful.accepts input, ?_, ?_⟩
    · intro next success
      have ⟨charged, recorded, spent, renewed, started⟩ := faithful.checkTransfer later success
      have fits := (faithful.accepts input).mp ⟨next, success⟩
      have positive : 0 < SLOTS_PER_DAY.toNat := by decide
      refine ⟨charged, accountAt_of_live recorded.live, spent, spent.trans_le fits, started, ?_⟩
      split at renewed <;> omega
    · intro reason failed
      rw [Run.run_snoc, Run.commit_of_error failed]
      exact accountAt_of_live faithful.live
  · intro clock' sender stedeMint newLimit split
    have ⟨dailyLimit, faithful⟩ := recorded_at ordered split begun
    have here := accountAt_of_live faithful.live
    rw [Run.run_snoc]
    rcases Run.commit_cases (step rt accounts.config) (Run.run (step rt accounts.config) start before)
      (.setLimit clock' sender stedeMint newLimit) with success | ⟨_, unchanged⟩
    · exact ⟨_, _, here, accountAt_of_live (setLimit_live faithful.live success), rfl, rfl⟩
    · rw [unchanged]
      exact ⟨_, _, here, here, rfl, rfl⟩
  · intro middle split
    have ⟨dailyLimit, faithful⟩ := recorded_at ordered split begun
    have ⟨last, live, spaced⟩ := windows_spaced ⟨dailyLimit, faithful.live, Or.inl rfl⟩ middle
    rw [Run.run_append]
    exact ⟨_, _, accountAt_of_live faithful.live, accountAt_of_live live, spaced.imp_left Eq.symm⟩

/- A limit of 100 lowered to 50 after 40 were spent. -/
section Sample

def sampleHistory : List Instruction :=
  [.checkTransfer ⟨⟨10, 0⟩, 40⟩, .setLimit ⟨20, 0⟩ sampleSet.sender sampleSet.stedeMint 50,
    .checkTransfer ⟨⟨30, 0⟩, 20⟩, .checkTransfer ⟨⟨40, 0⟩, 10⟩, .checkTransfer ⟨⟨216000, 0⟩, 50⟩]

theorem daily_limit_history_sample :
    ∃ dailyLimit,
      accountAt sampleSet.config (Run.run (step .sample sampleSet.config) sampleStart
        (sampleHistory.take 2)) = some dailyLimit ∧
      ((∃ next, step .sample sampleSet.config (Run.run (step .sample sampleSet.config) sampleStart
          (sampleHistory.take 2)) (.checkTransfer ⟨⟨30, 0⟩, 20⟩) = .ok next) ↔
        base dailyLimit (Run.accepted (step .sample sampleSet.config) sampleStart
            (sampleHistory.take 2)) 30 + 20 ≤
          (lastLimit 100 (Run.accepted (step .sample sampleSet.config) sampleStart
            (sampleHistory.take 2))).toNat) := by
  have exactly := (daily_limit_history .sample ⟨0, 0⟩ (fun _ => .absent) sampleStart sampleSet 100
    ⟨rfl, rfl⟩ sampleStart_set sampleHistory (by decide) (sampleHistory.take 2)
    (sampleHistory.drop 3)).1 ⟨⟨30, 0⟩, 20⟩ rfl
  have ⟨dailyLimit, found, verdict, _⟩ := exactly
  exact ⟨dailyLimit, found, verdict⟩

example : (Run.trace (step .sample sampleSet.config) sampleStart sampleHistory).map (·.2) =
    [.ok (), .ok (), .error (.dailyLimit .dailyLimitExceeded), .ok (), .ok ()] := by
  decide +kernel

end Sample

end Stede.DailyLimit
