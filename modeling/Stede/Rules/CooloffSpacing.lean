import Stede.Rules.CooloffHistory
import Stede.Solana.Lifecycle

set_option autoImplicit false

/- The verdicts of a cool-off between a creation of its account and the next
closing, against the history of that life. -/
namespace Stede.Cooloff

/-- What a history says: the threshold and the duration in force, and the time of
the last approved check at or above the threshold then in force, 0 if none. -/
structure Terms where
  threshold : UInt64
  durationSeconds : Int64
  lastLarge : Int64

def Terms.advance (terms : Terms) : Instruction → Terms
  | .setCooloff threshold durationSeconds => { terms with threshold, durationSeconds }
  | .disableCooloff => terms
  | .checkTransfer input =>
      if terms.threshold ≤ input.amount then { terms with lastLarge := input.clock.unixTimestamp }
      else terms

theorem Terms.advance_lastLarge (terms : Terms) (input : Check) :
    (terms.advance (.checkTransfer input)).lastLarge =
      if terms.threshold ≤ input.amount then input.clock.unixTimestamp else terms.lastLarge := by
  simp only [advance]
  split <;> rfl

/-- The terms after a history that began with a creation under these. -/
def termsAfter (threshold : UInt64) (durationSeconds : Int64) (history : List Instruction) : Terms :=
  history.foldl Terms.advance ⟨threshold, durationSeconds, 0⟩

def checkTime : Instruction → Option Int
  | .checkTransfer input => some input.clock.unixTimestamp.toInt
  | _ => none

theorem setCooloffHandler_claims (sender stedeMint : Pubkey) (threshold : UInt64)
    (durationSeconds : Int64) :
    kind.Claims sender stedeMint fun bump =>
      setCooloffHandler sender stedeMint bump threshold durationSeconds := by
  intro bump old new handled
  have ⟨_, _, made⟩ := (setCooloffHandler_eq_ok _ _ _ _ _ _ _).mp handled
  by_cases fresh : old.sender = .default
  · simp only [fresh, ↓reduceIte] at made
    rw [made]
    exact Or.inr ⟨rfl, rfl, rfl⟩
  · simp only [fresh, ↓reduceIte] at made
    rw [made]
    exact Or.inl ⟨fresh, rfl, rfl, rfl⟩

/-- The account stands for the terms of its history. -/
structure Follows (rt : Runtime) (key : Pubkey) (ledger : Ledger) (terms : Terms)
    (cooloff : Cooloff) : Prop where
  live : kind.Live rt key cooloff (ledger key)
  threshold : cooloff.threshold = terms.threshold
  durationSeconds : cooloff.durationSeconds = terms.durationSeconds
  lastLarge : cooloff.lastLargeTransferAt = terms.lastLarge

section Steps

variable {rt : Runtime} {accounts : SetConfig} {ledger next : Ledger} {terms : Terms}
  {cooloff : Cooloff}

theorem Follows.checkTransfer (follows : Follows rt accounts.config ledger terms cooloff)
    {input : Check} (success : step rt accounts ledger (.checkTransfer input) = .ok next) :
    ∃ later, Follows rt accounts.config next (terms.advance (.checkTransfer input)) later ∧
      (input.amount < terms.threshold → next = ledger) := by
  have ⟨live, threshold, durationSeconds, lastLarge⟩ := follows
  rcases (checkTransfer_held live.funded live.holds live.address input).mp success with
    ⟨small, same⟩ | ⟨large, _, written⟩
  · have not_large : ¬ terms.threshold ≤ input.amount := by
      rw [← threshold]
      exact UInt64.not_le.mpr small
    refine ⟨cooloff, ?_, fun _ => same⟩
    simp only [Terms.advance, not_large, ↓reduceIte]
    rw [same]
    exact follows
  · have large' : terms.threshold ≤ input.amount := by
      rw [← threshold]
      exact large
    refine ⟨{ cooloff with lastLargeTransferAt := input.clock.unixTimestamp }, ?_, ?_⟩
    · simp only [Terms.advance, large', ↓reduceIte]
      refine ⟨?_, threshold, durationSeconds, rfl⟩
      rw [written, Ledger.write_self]
      exact live.rewrite live.derived live.claimed
    · intro small
      exact absurd large' (UInt64.not_le.mpr small)

theorem Follows.setCooloff (follows : Follows rt accounts.config ledger terms cooloff)
    {threshold : UInt64} {durationSeconds : Int64}
    (success : step rt accounts ledger (.setCooloff threshold durationSeconds) = .ok next) :
    Follows rt accounts.config next (terms.advance (.setCooloff threshold durationSeconds))
      { cooloff with threshold, durationSeconds } := by
  have live := follows.live
  have written := setCooloff_held live.exempt live.holds live.claimed success
  refine ⟨?_, rfl, rfl, follows.lastLarge⟩
  rw [written, Ledger.write_self]
  exact live.rewrite live.derived live.claimed

/-- No difference of timestamps overflows once both are non-negative. -/
theorem elapsed_exists {now last : Int64} (now_nonneg : 0 ≤ now.toInt) (last_nonneg : 0 ≤ last.toInt) :
    ∃ elapsed, Checked.subI64 now last = some elapsed ∧ elapsed.toInt = now.toInt - last.toInt := by
  have high := now.toInt_lt
  have high' := last.toInt_lt
  exact Checked.subI64_of_fits now last (by omega) (by omega)

/-- The verdict of a check at non-negative times. -/
theorem Follows.accepts (follows : Follows rt accounts.config ledger terms cooloff) {input : Check}
    (now_nonneg : 0 ≤ input.clock.unixTimestamp.toInt) (last_nonneg : 0 ≤ terms.lastLarge.toInt) :
    (∃ next, step rt accounts ledger (.checkTransfer input) = .ok next) ↔
      input.amount < terms.threshold ∨
        terms.durationSeconds.toInt ≤ input.clock.unixTimestamp.toInt - terms.lastLarge.toInt := by
  have ⟨live, threshold, durationSeconds, lastLarge⟩ := follows
  have ⟨elapsed, difference, exact_elapsed⟩ := elapsed_exists now_nonneg last_nonneg
  simp only [checkTransfer_held live.funded live.holds live.address, threshold, durationSeconds,
    lastLarge, difference, Option.some.injEq, exists_eq_left', Int64.le_iff_toInt_le, exact_elapsed]
  constructor
  · rintro ⟨next, ⟨small, _⟩ | ⟨_, late, _⟩⟩
    · exact Or.inl small
    · exact Or.inr late
  · intro allowed
    by_cases small : input.amount < terms.threshold
    · exact ⟨_, Or.inl ⟨small, rfl⟩⟩
    · exact ⟨_, Or.inr ⟨UInt64.not_lt.mp small, allowed.resolve_left small, rfl⟩⟩

/-- The only refusal left is the one of a cool-off that is active. -/
theorem Follows.refusal (follows : Follows rt accounts.config ledger terms cooloff) {input : Check}
    (now_nonneg : 0 ≤ input.clock.unixTimestamp.toInt) (last_nonneg : 0 ≤ terms.lastLarge.toInt)
    {reason : Error} (failed : step rt accounts ledger (.checkTransfer input) = .error reason) :
    reason = .cooloff .cooloffActive := by
  have ⟨live, threshold, durationSeconds, lastLarge⟩ := follows
  have ⟨elapsed, difference, _⟩ := elapsed_exists now_nonneg last_nonneg
  have body : Cooloff.checkTransfer rt input.clock ledger ⟨accounts.config, false, true⟩ input.amount =
      .error reason := failed
  rw [Cooloff.checkTransfer, require_of_true rfl, ok_bind] at body
  dsimp only at body
  rw [checkTransferHandler, live.checked, lastLarge] at body
  dsimp only at body
  rw [difference] at body
  by_cases small : input.amount < cooloff.threshold
  · simp only [small, ↓reduceIte, ok_bind, pure, Except.pure, reduceCtorEq] at body
  · simp only [small, ↓reduceIte, bind_eq_error, okOr_eq_error, okOr_eq_ok, reduceCtorEq, false_and,
      false_or, require_eq_error, Option.some.injEq, exists_eq_left', live.store, pure, Except.pure,
      and_false, exists_false, or_false] at body
    exact body.2.symm

end Steps

section Runs

variable {rt : Runtime} {accounts : SetConfig} {ledger : Ledger} {threshold : UInt64}
  {durationSeconds : Int64} {instructions before after : List Instruction}

/-- The account of a history: it follows the terms, and the time of the last large
check is that of a check of the history. -/
def Told (rt : Runtime) (accounts : SetConfig) (threshold : UInt64) (durationSeconds : Int64)
    (ledger : Ledger) (history : List Instruction) : Prop :=
  ∃ cooloff, Follows rt accounts.config ledger (termsAfter threshold durationSeconds history) cooloff

theorem termsAfter_snoc (history : List Instruction) (instruction : Instruction) :
    termsAfter threshold durationSeconds (history ++ [instruction]) =
      (termsAfter threshold durationSeconds history).advance instruction := by
  rw [termsAfter, List.foldl_append]
  rfl

/-- The last large time is 0 or the time of a check of the history. -/
theorem lastLarge_cases (history : List Instruction) :
    (termsAfter threshold durationSeconds history).lastLarge = 0 ∨
      (termsAfter threshold durationSeconds history).lastLarge.toInt ∈ history.filterMap checkTime := by
  induction history using List.reverseRecOn with
  | nil => exact Or.inl rfl
  | append_singleton history instruction ih =>
      rw [termsAfter_snoc, List.filterMap_append]
      have kept : (termsAfter threshold durationSeconds history).lastLarge = 0 ∨
          (termsAfter threshold durationSeconds history).lastLarge.toInt ∈
            history.filterMap checkTime ++ [instruction].filterMap checkTime :=
        ih.imp_right fun member => List.mem_append_left _ member
      cases instruction with
      | setCooloff => exact kept
      | disableCooloff => exact kept
      | checkTransfer input =>
          rw [Terms.advance_lastLarge]
          split
          · exact Or.inr (List.mem_append_right _ (List.mem_singleton_self _))
          · exact kept

/-- What follows a large check moves its time forward only. -/
theorem lastLarge_after (history later : List Instruction) (input : Check)
    (large : (termsAfter threshold durationSeconds history).threshold ≤ input.amount)
    (ordered : ∀ time ∈ later.filterMap checkTime, input.clock.unixTimestamp.toInt ≤ time) :
    input.clock.unixTimestamp.toInt ≤
      (termsAfter threshold durationSeconds
        (history ++ .checkTransfer input :: later)).lastLarge.toInt := by
  induction later using List.reverseRecOn with
  | nil =>
      rw [termsAfter_snoc, Terms.advance_lastLarge]
      simp only [large, ↓reduceIte, le_refl]
  | append_singleton later instruction ih =>
      have earlier := ih fun time member => ordered time (by
        rw [List.filterMap_append]
        exact List.mem_append_left _ member)
      have regroup : history ++ .checkTransfer input :: (later ++ [instruction]) =
          (history ++ .checkTransfer input :: later) ++ [instruction] := by
        rw [List.append_assoc]
        rfl
      rw [regroup, termsAfter_snoc]
      cases instruction with
      | setCooloff => exact earlier
      | disableCooloff => exact earlier
      | checkTransfer next =>
          rw [Terms.advance_lastLarge]
          split
          · apply ordered
            rw [List.filterMap_append]
            exact List.mem_append_right _ (List.mem_singleton_self _)
          · exact earlier

theorem told_at (opened : ∀ instruction ∈ instructions, instruction ≠ .disableCooloff)
    (start : Told rt accounts threshold durationSeconds ledger [])
    (split : instructions = before ++ after) :
    Told rt accounts threshold durationSeconds (Run.run (step rt accounts) ledger before)
      (Run.accepted (step rt accounts) ledger before) := by
  apply Run.history_invariant start _ before after split
  intro before instruction after next split ⟨cooloff, follows⟩ success
  rw [Told, termsAfter_snoc]
  cases instruction with
  | setCooloff threshold durationSeconds => exact ⟨_, follows.setCooloff success⟩
  | disableCooloff =>
      have member : Instruction.disableCooloff ∈ instructions := by
        rw [split]
        exact List.mem_append_right _ List.mem_cons_self
      exact absurd rfl (opened _ member)
  | checkTransfer input =>
      have ⟨later, recorded, _⟩ := follows.checkTransfer success
      exact ⟨later, recorded⟩

/-- Creating the account begins its history. -/
theorem setCooloff_told {start : Ledger} (unused : (ledger accounts.config).Unused)
    (set : setCooloff rt ledger accounts threshold durationSeconds = .ok start) :
    Told rt accounts threshold durationSeconds start [] := by
  have ⟨cooloff, handled, live⟩ := ConfigKind.set_live_of_unused accounts
    (setCooloffHandler_claims accounts.sender.pubkey accounts.stedeMint threshold durationSeconds)
    rfl unused set
  have ⟨_, _, made⟩ := (setCooloffHandler_eq_ok _ _ _ _ _ _ _).mp handled
  have fresh : kind.zero.sender = Pubkey.default := rfl
  simp only [fresh, ↓reduceIte] at made
  refine ⟨cooloff, live, ?_, ?_, ?_⟩ <;> rw [made] <;> rfl

end Runs

/-- The terms at a point of a run that began with a creation under these. -/
def termsAt (rt : Runtime) (accounts : SetConfig) (threshold : UInt64) (durationSeconds : Int64)
    (start : Ledger) (before : List Instruction) : Terms :=
  termsAfter threshold durationSeconds (Run.accepted (step rt accounts) start before)

/-- The check is approved there, at or above the threshold in force. -/
def ApprovedLarge (rt : Runtime) (accounts : SetConfig) (threshold : UInt64) (durationSeconds : Int64)
    (start : Ledger) (before : List Instruction) (input : Check) : Prop :=
  (termsAt rt accounts threshold durationSeconds start before).threshold ≤ input.amount ∧
    ∃ next, step rt accounts (Run.run (step rt accounts) start before) (.checkTransfer input) = .ok next

theorem times_subset {rt : Runtime} {accounts : SetConfig} (start : Ledger)
    (inputs : List Instruction) {time : Int}
    (member : time ∈ (Run.accepted (step rt accounts) start inputs).filterMap checkTime) :
    time ∈ inputs.filterMap checkTime :=
  ((Run.accepted_sublist _ _).filterMap checkTime).subset member

/-- Within one life of the account the verdicts are exactly those of its history,
and approved large checks keep the duration in force apart. -/
theorem cooloff_spacing (rt : Runtime) (ledger start : Ledger) (accounts : SetConfig)
    (threshold : UInt64) (durationSeconds : Int64) (unused : (ledger accounts.config).Unused)
    (set : setCooloff rt ledger accounts threshold durationSeconds = .ok start)
    (instructions : List Instruction)
    (opened : ∀ instruction ∈ instructions, instruction ≠ .disableCooloff)
    (ordered : (instructions.filterMap checkTime).Pairwise (· ≤ ·))
    (nonneg : ∀ time ∈ instructions.filterMap checkTime, 0 ≤ time)
    (before after : List Instruction) :
    (∀ input, instructions = before ++ .checkTransfer input :: after →
      ((∃ next, step rt accounts (Run.run (step rt accounts) start before) (.checkTransfer input) =
          .ok next) ↔
        input.amount < (termsAt rt accounts threshold durationSeconds start before).threshold ∨
        (termsAt rt accounts threshold durationSeconds start before).durationSeconds.toInt ≤
          input.clock.unixTimestamp.toInt -
            (termsAt rt accounts threshold durationSeconds start before).lastLarge.toInt) ∧
      (∀ next, step rt accounts (Run.run (step rt accounts) start before) (.checkTransfer input) =
          .ok next →
        input.amount < (termsAt rt accounts threshold durationSeconds start before).threshold →
        next = Run.run (step rt accounts) start before) ∧
      ∀ reason, step rt accounts (Run.run (step rt accounts) start before) (.checkTransfer input) =
          .error reason →
        reason ≠ .cooloff .overflow ∧
        Run.run (step rt accounts) start (before ++ [.checkTransfer input]) =
          Run.run (step rt accounts) start before) ∧
    ∀ first middle second,
      instructions = before ++ .checkTransfer first :: (middle ++ .checkTransfer second :: after) →
      ApprovedLarge rt accounts threshold durationSeconds start before first →
      ApprovedLarge rt accounts threshold durationSeconds start
        (before ++ .checkTransfer first :: middle) second →
      (termsAt rt accounts threshold durationSeconds start
          (before ++ .checkTransfer first :: middle)).durationSeconds.toInt ≤
        second.clock.unixTimestamp.toInt - first.clock.unixTimestamp.toInt := by
  have begun := setCooloff_told unused set
  have last_nonneg : ∀ before after, instructions = before ++ after →
      0 ≤ (termsAt rt accounts threshold durationSeconds start before).lastLarge.toInt := by
    intro before after split
    rcases lastLarge_cases (Run.accepted (step rt accounts) start before) with zero | listed
    · rw [termsAt, zero]
      exact le_refl 0
    · apply nonneg
      rw [split, List.filterMap_append]
      exact List.mem_append_left _ (times_subset start before listed)
  have now_nonneg : ∀ input before after, instructions = before ++ .checkTransfer input :: after →
      0 ≤ input.clock.unixTimestamp.toInt := by
    intro input before after split
    apply nonneg
    rw [split, List.filterMap_append]
    exact List.mem_append_right _ List.mem_cons_self
  refine ⟨?_, ?_⟩
  · intro input split
    have ⟨cooloff, follows⟩ := told_at opened begun split
    have now := now_nonneg input before after split
    have last := last_nonneg before _ split
    refine ⟨follows.accepts now last, ?_, ?_⟩
    · intro next success small
      have ⟨_, _, same⟩ := follows.checkTransfer success
      exact same small
    · intro reason failed
      rw [Run.run_snoc, Run.commit_of_error failed, follows.refusal now last failed]
      exact ⟨by decide, rfl⟩
  · intro first middle second split ⟨first_large, next, first_approved⟩ ⟨large, approved⟩
    have split' : instructions = (before ++ .checkTransfer first :: middle) ++
        .checkTransfer second :: after := by
      rw [split, List.append_assoc]
      rfl
    have ⟨cooloff, follows⟩ := told_at opened begun split'
    have now := now_nonneg second _ after split'
    have waited := ((follows.accepts now (last_nonneg _ _ split')).mp approved).resolve_left
      (UInt64.not_lt.mpr large)
    have history : Run.accepted (step rt accounts) start (before ++ .checkTransfer first :: middle) =
        Run.accepted (step rt accounts) start before ++
          .checkTransfer first :: Run.accepted (step rt accounts) next middle := by
      rw [Run.accepted_append, Run.accepted_of_ok middle first_approved]
    have ordered' : ∀ time ∈ (Run.accepted (step rt accounts) next middle).filterMap checkTime,
        first.clock.unixTimestamp.toInt ≤ time := by
      intro time member
      rw [split, List.filterMap_append] at ordered
      have tail := (List.pairwise_append.mp ordered).2.1
      apply (List.pairwise_cons.mp tail).1
      rw [List.filterMap_append]
      exact List.mem_append_left _ (times_subset next middle member)
    have moved := lastLarge_after _ _ first first_large ordered'
    rw [← history] at moved
    unfold termsAt
    omega

/- A cool-off of an hour above 100, shortened to a minute. -/
section Sample

def sampleStart : Ledger :=
  Ledger.write (fun _ => .absent) sampleSet.config (kind.created .sample
    ⟨Runtime.sampleKey 1, Runtime.sampleKey 2, 100, 3600, 0,
      (kind.pda .sample (Runtime.sampleKey 1) (Runtime.sampleKey 2)).2⟩)

def sampleLife : List Instruction :=
  [.checkTransfer ⟨⟨0, 10000⟩, 100⟩, .checkTransfer ⟨⟨0, 10060⟩, 100⟩, .setCooloff 100 60,
    .checkTransfer ⟨⟨0, 10060⟩, 100⟩]

theorem cooloff_spacing_sample :
    (∃ next, step .sample sampleSet (Run.run (step .sample sampleSet) sampleStart
        (sampleLife.take 3)) (.checkTransfer ⟨⟨0, 10060⟩, 100⟩) = .ok next) ↔
      (100 : UInt64) < (termsAt .sample sampleSet 100 3600 sampleStart (sampleLife.take 3)).threshold ∨
      (termsAt .sample sampleSet 100 3600 sampleStart (sampleLife.take 3)).durationSeconds.toInt ≤
        (10060 : Int64).toInt -
          (termsAt .sample sampleSet 100 3600 sampleStart (sampleLife.take 3)).lastLarge.toInt :=
  ((cooloff_spacing .sample (fun _ => .absent) sampleStart sampleSet 100 3600 ⟨rfl, rfl⟩
    ((kind.set_of_absent _ _ _ _ _ rfl).mpr ⟨by decide +kernel, rfl, _, rfl, rfl⟩) sampleLife
    (by simp [sampleLife]) (by decide) (by decide) (sampleLife.take 3) []).1 _ rfl).1

example : (Run.trace (step .sample sampleSet) sampleStart sampleLife).map (·.2) =
    [.ok (), .error (.cooloff .cooloffActive), .ok (), .ok ()] := by
  decide +kernel

end Sample

end Stede.Cooloff
