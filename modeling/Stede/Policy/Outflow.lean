import Stede.Policy.Bounds
import Stede.Policy.Transfers

set_option autoImplicit false

/- What the rules of a sender bound of the money that leaves the sender's accounts, over
any run of anybody's transfers and instructions. -/
namespace Stede.Policy

open Hook (Rule Chain ListsWritten)

/-- When an event comes, if it is one with a clock. -/
def slotOf : Hook.Event → Option Nat
  | .transfer env _ | .process env _ => some env.clock.slot.toNat
  | _ => none

/-- The slots do not go back. -/
def Before (first second : Hook.Event) : Prop :=
  ∀ early ∈ slotOf first, ∀ late ∈ slotOf second, early ≤ late

section Reports

variable (pair : SenderMint)

/-- The slot and the amount of a transfer of the sender. -/
def moves : Hook.Event → List (Nat × Nat)
  | .transfer env transfer =>
      if Outgoing pair transfer then [(env.clock.slot.toNat, transfer.amount.toNat)] else []
  | _ => []

/-- The time of a transfer of the sender of at least the threshold. -/
def largeMoves (threshold : Nat) : Hook.Event → List Int
  | .transfer env transfer =>
      if Outgoing pair transfer ∧ threshold ≤ transfer.amount.toNat then
        [env.clock.unixTimestamp.toInt]
      else []
  | _ => []

variable {rt : Runtime} (token : Token2022 rt) (chain : Chain) (events : List Hook.Event)

/-- What the transfers of the sender that settle move in the day's worth of slots from
`low` on. -/
def outflow (low : Nat) : Nat :=
  Window.sumIn Prod.fst Prod.snd slotsPerDay low
    ((Run.accepted (Hook.happen token) chain events).flatMap (moves pair))

/-- When the large ones among them settle. -/
def largeOutflows (threshold : Nat) : List Int :=
  (Run.accepted (Hook.happen token) chain events).flatMap (largeMoves pair threshold)

end Reports

section Observed

variable {rt : Runtime} {token : Token2022 rt} {pair : SenderMint} {recipients : Finset Pubkey}
  {chain next : Chain} {event : Hook.Event} {action : Action}

/-- The instruction that an action which is not a check must come from. -/
def Asks (rt : Runtime) (pair : SenderMint) (instruction : Hook.Instruction) : Action → Prop
  | .setLimit _ limit => ∃ accounts limit', instruction = .setLimit accounts limit' ∧
      Owned rt pair .dailyLimit accounts ∧ limit = limit'.toNat
  | .setCooloff threshold duration => ∃ accounts threshold' duration',
      instruction = .setCooloff accounts threshold' duration' ∧ Owned rt pair .cooloff accounts ∧
        threshold = threshold'.toNat ∧ duration = duration'.toInt
  | .disableCooloff => ∃ accounts, instruction = .disableCooloff accounts ∧
      OwnedForDisable rt pair .cooloff accounts
  | .removeBlocked wallet => ∃ accounts, instruction = .removeBlocked accounts wallet ∧
      OwnedForRemove rt pair accounts
  | _ => True

section Instructions

variable {ledger : Ledger} {env : Env} {instruction : Hook.Instruction}

/-- A check is one at the time of the instruction. -/
def Timed (env : Env) : Action → Prop
  | .check _ payment => payment.slot = env.clock.slot.toNat
  | _ => True

theorem observeExecute_check {accounts : List AccountMeta} {amount : UInt64}
    (observed : Event.observeExecute rt pair recipients ledger env accounts amount = some action) :
    Asks rt pair instruction action ∧ Timed env action := by
  unfold Event.observeExecute at observed
  split at observed
  · rw [← Option.some.inj observed]
    exact ⟨trivial, rfl⟩
  · split at observed
    · rw [← Option.some.inj observed]
      exact ⟨trivial, rfl⟩
    · cases observed

theorem observe_asks
    (observed : Event.observe rt pair recipients ledger (.instruction env instruction) = some action) :
    Asks rt pair instruction action ∧ Timed env action := by
  cases instruction with
  | execute accounts amount => exact observeExecute_check observed
  | fallback accounts data =>
      rw [Event.observe] at observed
      split at observed
      · split at observed
        · exact observeExecute_check observed
        · cases observed
      · cases observed
  | checkSlowSend config contact destinationToken =>
      rw [Event.observe] at observed
      split at observed
      · split at observed
        · rw [← Option.some.inj observed]
          exact ⟨trivial, rfl⟩
        · cases observed
      · cases observed
  | setLimit accounts limit =>
      rw [Event.observe] at observed
      split at observed
      · rename_i owned
        rw [← Option.some.inj observed]
        exact ⟨⟨accounts, limit, rfl, owned, rfl⟩, trivial⟩
      · cases observed
  | setCooloff accounts threshold durationSeconds =>
      rw [Event.observe] at observed
      split at observed
      · rename_i owned
        rw [← Option.some.inj observed]
        exact ⟨⟨accounts, threshold, durationSeconds, rfl, owned, rfl, rfl⟩, trivial⟩
      · cases observed
  | disableCooloff accounts | removeBlocked accounts blockedWallet =>
      rw [Event.observe] at observed
      split at observed
      · rename_i owned
        rw [← Option.some.inj observed]
        exact ⟨⟨accounts, rfl, owned⟩, trivial⟩
      · cases observed
  | checkDailyLimit | checkBlockList | checkCooloff | checkTimeWindow | checkFriendGate | addBlocked |
      setSlowSend | disableSlowSend | registerRecipient | setTimeWindow | disableTimeWindow |
      setFriendGate | disableFriendGate =>
      rw [Event.observe] at observed
      split at observed
      · rw [← Option.some.inj observed]
        exact ⟨trivial, by first | rfl | trivial⟩
      · cases observed

end Instructions

/-- What an event on the chain shows is a check that a transfer makes, or what an
instruction asks for. -/
theorem observeChain_eq_some
    (observed : observeChain token pair recipients chain event = some action) :
    (∃ env transfer recipient, event = .transfer env transfer ∧ Outgoing pair transfer ∧
        action = .check (asked recipients recipient) (paymentOf env transfer.amount recipient)) ∨
      ∃ env instruction, event = .process env instruction ∧ Asks rt pair instruction action ∧
        Timed env action := by
  cases event with
  | transfer env transfer =>
      obtain ⟨recipient, _, outgoing, _, same⟩ := observeTransfer_eq_some observed
      exact Or.inl ⟨env, transfer, recipient, rfl, outgoing, same⟩
  | process env instruction => exact Or.inr ⟨env, instruction, rfl, observe_asks observed⟩
  | initializeExtraAccountMetaList accounts => cases observed
  | elsewhere key account => cases observed

theorem asked_daily (recipients : Finset Pubkey) (recipient : Pubkey) :
    ∃ rest, asked recipients recipient = .dailyLimit :: rest :=
  ⟨_, List.filter_cons_of_pos (by simp)⟩

/-- What is charged is charged at the time of the event. -/
theorem charges_slot (observed : observeChain token pair recipients chain event = some action)
    {payment : Payment} (charged : payment ∈ action.charges) : slotOf event = some payment.slot := by
  rcases observeChain_eq_some observed with
    ⟨env, transfer, recipient, here, _, same⟩ | ⟨env, instruction, here, _, timed⟩
  · rw [same] at charged
    rw [here, mem_charges charged]
    rfl
  · cases action with
    | check rules payment' =>
        rw [here, mem_charges charged]
        exact congrArg some timed.symm
    | _ => cases charged

/-- A transfer of the sender that shows is charged. -/
theorem moves_charged (observed : observeChain token pair recipients chain event = some action) :
    (moves pair event).Sublist (action.charges.map fun payment => (payment.slot, payment.amount)) := by
  rcases observeChain_eq_some observed with
    ⟨env, transfer, recipient, here, outgoing, same⟩ | ⟨env, instruction, here, _⟩
  · obtain ⟨rest, split⟩ := asked_daily recipients recipient
    rw [here, same, split, Action.charges, List.flatMap_cons, if_pos rfl, List.singleton_append,
      List.map_cons, moves, if_pos outgoing]
    exact (List.nil_sublist _).cons_cons _
  · rw [here]
    exact List.nil_sublist _

/-- If it is large, it begins a pause. -/
theorem largeMoves_paused (threshold : Nat)
    (observed : observeChain token pair recipients chain event = some action) :
    (largeMoves pair threshold event).Sublist (action.pauses threshold) := by
  rcases observeChain_eq_some observed with
    ⟨env, transfer, recipient, here, outgoing, same⟩ | ⟨env, instruction, here, _⟩
  · have member : Rule.cooloff ∈ asked recipients recipient := by simp [asked, Rule.all]
    rw [here, same, Action.pauses, largeMoves]
    by_cases large : threshold ≤ transfer.amount.toNat
    · have paused : Rule.cooloff ∈ asked recipients recipient ∧
          threshold ≤ (paymentOf env transfer.amount recipient).amount := ⟨member, large⟩
      rw [if_pos ⟨outgoing, large⟩, if_pos paused]
      exact List.Sublist.refl _
    · rw [if_neg fun both => large both.2]
      exact List.nil_sublist _
  · rw [here]
    exact List.nil_sublist _

/-- What does not show is no transfer of the sender that settles. -/
theorem not_outgoing_of_hidden {env : Env} {transfer : Transfer}
    (hidden : observeChain token pair recipients chain (.transfer env transfer) = none)
    (success : Hook.happen token chain (.transfer env transfer) = .ok next) :
    ¬ Outgoing pair transfer := by
  obtain ⟨ledger, transferred, _⟩ := (bind_eq_ok _ _ _).mp success
  exact not_outgoing_of_unseen hidden transferred

theorem moves_unseen (hidden : observeChain token pair recipients chain event = none)
    (success : Hook.happen token chain event = .ok next) : moves pair event = [] := by
  cases event with
  | transfer env transfer => exact if_neg (not_outgoing_of_hidden hidden success)
  | process | initializeExtraAccountMetaList | elsewhere => rfl

theorem largeMoves_unseen (threshold : Nat)
    (hidden : observeChain token pair recipients chain event = none)
    (success : Hook.happen token chain event = .ok next) : largeMoves pair threshold event = [] := by
  cases event with
  | transfer env transfer => exact if_neg fun both => not_outgoing_of_hidden hidden success both.1
  | process | initializeExtraAccountMetaList | elsewhere => rfl

end Observed

section Bounds

variable {rt : Runtime} (token : Token2022 rt) {pair : SenderMint} {inPlay : Set RuleKey}
  (free : rt.CollisionFree (RuleKey.derivation '' inPlay))
  (own : ∀ slot ∈ slots ∅, ⟨pair, slot⟩ ∈ inPlay) {start : Chain} (written : ListsWritten start.2)
  (unused : ∀ slot ∈ slots ∅, (start.1 (RuleKey.address rt ⟨pair, slot⟩)).Unused)
  {past : List Hook.Event}
include free own written unused

theorem governed (within : ∀ event ∈ past, WithinChain pair ∅ rt inPlay event) :
    ∃ policy, Governs pair ∅ rt (Run.run (Hook.happen token) start past) policy :=
  ⟨_, ((chain_simulates token free own within).run
    (And.intro (represents_empty unused) written)).1⟩

end Bounds

/-- In any day's worth of slots at most twice the highest limit in force leaves the
sender's accounts by transfers that the sender signs: from any point at which there is a
limit, whatever anybody does, and whatever the sender changes, as long as no limit that
the sender sets is higher. -/
theorem outflow_capped (rt : Runtime) (token : Token2022 rt) (pair : SenderMint)
    (inPlay : Set RuleKey) (free : rt.CollisionFree (RuleKey.derivation '' inPlay))
    (own : ∀ slot ∈ slots ∅, ⟨pair, slot⟩ ∈ inPlay) (start : Chain) (written : ListsWritten start.2)
    (unused : ∀ slot ∈ slots ∅, (start.1 (RuleKey.address rt ⟨pair, slot⟩)).Unused)
    (past future : List Hook.Event)
    (within : ∀ event ∈ past ++ future, WithinChain pair ∅ rt inPlay event)
    (dailyLimit : DailyLimit)
    (configured : DailyLimit.kind.load ((Run.run (Hook.happen token) start past).1
      (RuleKey.address rt ⟨pair, .dailyLimit⟩)) = .ok dailyLimit)
    (bound : Nat) (set : dailyLimit.limit.toNat ≤ bound)
    (kept : ∀ env accounts limit, .process env (.setLimit accounts limit) ∈ future →
      accounts.sender.signed rt = true → accounts.sender.pubkey = pair.sender →
        accounts.stedeMint = pair.stedeMint → limit.toNat ≤ bound)
    (ordered : future.Pairwise Before) (low : Nat) :
    outflow pair token (Run.run (Hook.happen token) start past) future low ≤ 2 * bound := by
  obtain ⟨policy, governs⟩ := governed token free own written unused
    fun event member => within event (List.mem_append_left future member)
  have simulates := chain_simulates token free own
    fun event member => within event (List.mem_append_right past member)
  have budget : policy.budget = some dailyLimit.budget :=
    ConfigKind.Shows.of_load (governs.1 .dailyLimit (mem_slots (by simp))) configured
  have capped : Capped bound dailyLimit.meter policy := ⟨_, set, budget⟩
  have limits : ∀ slot limit, .setLimit slot limit ∈ Refinement.observed (Hook.happen token)
      (observeChain token pair ∅) (Run.run (Hook.happen token) start past) future → limit ≤ bound := by
    intro slot limit member
    obtain ⟨event, inside, reached, shown⟩ := Refinement.mem_observed member
    rcases observeChain_eq_some shown with ⟨_, _, _, _, _, same⟩ | ⟨env, instruction, here, asks, _⟩
    · cases same
    · obtain ⟨accounts, limit', called, owned, same⟩ := asks
      rw [here, called] at inside
      rw [same]
      exact kept env accounts limit' inside (AccountMeta.signed_of_pays owned.1) owned.2.1 owned.2.2.1
  have sorted : (Refinement.observed (Hook.happen token) (observeChain token pair ∅)
      (Run.run (Hook.happen token) start past) future).Pairwise fun first second =>
        ∀ early ∈ first.charges, ∀ late ∈ second.charges, early.slot ≤ late.slot := by
    apply Refinement.observed_pairwise _ ordered
    intro state state' first second action action' shown shown' before early charged late charged'
    exact before _ (charges_slot shown charged) _ (charges_slot shown' charged')
  have reported := simulates.reports (fun _ _ _ shown => moves_charged shown)
    (fun _ _ _ hidden success => moves_unseen hidden success) governs
  have total := @charged_capped pair.sender _ _ _ _ capped limits sorted low
  refine (Window.sumIn_sublist reported).trans ?_
  rw [← List.map_flatMap, Window.sumIn_map]
  exact total

/-- Two transfers that the sender signs for at least `threshold`, a threshold that no
cool-off in force exceeds, settle at least as far apart as the shortest duration in
force, and as far from the last large transfer before. -/
theorem large_outflows_spaced (rt : Runtime) (token : Token2022 rt) (pair : SenderMint)
    (inPlay : Set RuleKey) (free : rt.CollisionFree (RuleKey.derivation '' inPlay))
    (own : ∀ slot ∈ slots ∅, ⟨pair, slot⟩ ∈ inPlay) (start : Chain) (written : ListsWritten start.2)
    (unused : ∀ slot ∈ slots ∅, (start.1 (RuleKey.address rt ⟨pair, slot⟩)).Unused)
    (past future : List Hook.Event)
    (within : ∀ event ∈ past ++ future, WithinChain pair ∅ rt inPlay event) (cooloff : Cooloff)
    (configured : Cooloff.kind.load ((Run.run (Hook.happen token) start past).1
      (RuleKey.address rt ⟨pair, .cooloff⟩)) = .ok cooloff)
    (threshold : Nat) (duration : Int) (patient : 0 ≤ duration)
    (set : cooloff.threshold.toNat ≤ threshold ∧ duration ≤ cooloff.durationSeconds.toInt)
    (kept : ∀ env accounts threshold' duration',
      .process env (.setCooloff accounts threshold' duration') ∈ future →
        accounts.sender.signed rt = true → accounts.sender.pubkey = pair.sender →
          accounts.stedeMint = pair.stedeMint → threshold'.toNat ≤ threshold ∧ duration ≤ duration'.toInt)
    (on : ∀ env accounts, .process env (.disableCooloff accounts) ∈ future →
      accounts.sender.signed rt = true → accounts.sender.pubkey = pair.sender →
        accounts.config ≠ RuleKey.address rt ⟨pair, .cooloff⟩) :
    (∀ time ∈ largeOutflows pair token (Run.run (Hook.happen token) start past) future threshold,
      cooloff.lastLargeTransferAt.toInt + duration ≤ time) ∧
    (largeOutflows pair token (Run.run (Hook.happen token) start past) future threshold).Pairwise
      fun early late => early + duration ≤ late := by
  obtain ⟨policy, governs⟩ := governed token free own written unused
    fun event member => within event (List.mem_append_left future member)
  have simulates := chain_simulates token free own
    fun event member => within event (List.mem_append_right past member)
  have pause : policy.pause = some cooloff.pause :=
    ConfigKind.Shows.of_load (governs.1 .cooloff (mem_slots (by simp))) configured
  have paused : Paused threshold duration cooloff.lastLargeTransferAt.toInt policy :=
    ⟨cooloff.pause, pause, set.1, set.2, rfl⟩
  have stays : ∀ action ∈ Refinement.observed (Hook.happen token) (observeChain token pair ∅)
      (Run.run (Hook.happen token) start past) future, action.KeepsPause threshold duration := by
    intro action member
    obtain ⟨event, inside, reached, shown⟩ := Refinement.mem_observed member
    rcases observeChain_eq_some shown with ⟨_, _, _, _, _, same⟩ | ⟨env, instruction, here, asks, _⟩
    · rw [same]
      trivial
    · cases action with
      | setCooloff threshold' duration' =>
          obtain ⟨accounts, given, given', called, owned, same, same'⟩ := asks
          rw [here, called] at inside
          rw [same, same']
          exact kept env accounts given given' inside (AccountMeta.signed_of_pays owned.1) owned.2.1
            owned.2.2.1
      | disableCooloff =>
          obtain ⟨accounts, called, owned⟩ := asks
          rw [here, called] at inside
          exact absurd owned.2.2 (on env accounts inside (AccountMeta.signed_of_pays owned.1) owned.2.1)
      | _ => trivial
  have reported := simulates.reports (fun _ _ _ shown => largeMoves_paused threshold shown)
    (fun _ _ _ hidden success => largeMoves_unseen threshold hidden success) governs
  obtain ⟨waits, spaced⟩ := @pauses_spaced pair.sender _ _ _ _ patient _ paused stays
  exact ⟨fun time member => waits time (reported.subset member), spaced.sublist reported⟩

/-- As long as the sender does not take a wallet off the block list, no transfer that
the sender signs brings money to an account of that wallet. -/
theorem blocked_unpaid (rt : Runtime) (token : Token2022 rt) (pair : SenderMint)
    (inPlay : Set RuleKey) (free : rt.CollisionFree (RuleKey.derivation '' inPlay))
    (own : ∀ slot ∈ slots ∅, ⟨pair, slot⟩ ∈ inPlay) (start : Chain) (written : ListsWritten start.2)
    (unused : ∀ slot ∈ slots ∅, (start.1 (RuleKey.address rt ⟨pair, slot⟩)).Unused)
    (past future : List Hook.Event)
    (within : ∀ event ∈ past ++ future, WithinChain pair ∅ rt inPlay event) (blockList : BlockList)
    (configured : BlockList.kind.load ((Run.run (Hook.happen token) start past).1
      (RuleKey.address rt ⟨pair, .blockList⟩)) = .ok blockList)
    (wallet : Pubkey) (listed : wallet ∈ blockList.entries)
    (kept : ∀ env accounts, .process env (.removeBlocked accounts wallet) ∈ future →
      accounts.sender.signed rt = true → accounts.sender.pubkey = pair.sender →
        accounts.stedeMint ≠ pair.stedeMint) :
    ∀ before env transfer after,
      Run.Taken (Hook.happen token) (Run.run (Hook.happen token) start past) future before
        (.transfer env transfer) →
      Hook.happen token before (.transfer env transfer) = .ok after →
      Outgoing pair transfer → (before.1 transfer.destination).tokenOwner ≠ some wallet := by
  intro before env transfer after taken success outgoing paid
  obtain ⟨policy, governs⟩ := governed token free own written unused
    fun event member => within event (List.mem_append_left future member)
  have simulates := chain_simulates token free own
    fun event member => within event (List.mem_append_right past member)
  have entries : policy.blocked = some blockList.entries :=
    ConfigKind.Shows.of_load (governs.1 .blockList (mem_slots (by simp))) configured
  obtain ⟨current, reached, governs'⟩ := simulates.reached governs taken.reached
  have blocks : Blocks wallet current := by
    refine Run.reached_invariant ⟨_, entries, listed⟩ ?_ reached
    intro policy action next shows blocks success
    refine step_blocked blocks (fun removal => ?_) success
    obtain ⟨event, inside, _, shown⟩ := Refinement.mem_observed shows
    rcases observeChain_eq_some shown with ⟨_, _, _, _, _, same⟩ | ⟨env, instruction, here, asks, _⟩
    · rw [removal] at same
      cases same
    · rw [removal] at asks
      obtain ⟨accounts, called, owned⟩ := asks
      rw [here, called] at inside
      exact kept env accounts inside owned.1 owned.2.1 owned.2.2.1
  obtain ⟨ledger, transferred, _⟩ := (bind_eq_ok _ _ _).mp success
  obtain ⟨changed, passes, _⟩ := settled_agrees free own governs' outgoing paid transferred
  exact check_blocked blocks (by simp [asked, Rule.all]) passes

/- Wallet 1 limits itself to 100 a day, pauses after every transfer of 50 or more for a
minute, and blocks wallet 9, for which somebody opens a token account. Then wallet 3
tries to end the pauses, and wallet 1 lowers the limit and tries to pay wallet 9. -/
section Sample

open Stede.Runtime (sampleKey)

def samplePast : List Hook.Event :=
  [.process Hook.sampleEnv (.setLimit (sampleSet .dailyLimit) 100),
    .process Hook.sampleEnv (.setCooloff (sampleSet .cooloff) 50 60),
    .process Hook.sampleEnv (.addBlocked (sampleSet .blockList) (sampleKey 9)),
    .elsewhere (sampleKey 10) (Hook.sampleTokens (sampleKey 9) (sampleKey 3))]

/-- `amount` from the account of wallet 1 to the account `destination` of `recipient`. -/
def sampleMove (destination recipient : Pubkey) (slot : UInt64) (now : Int64) (amount : UInt64) :
    Hook.Event :=
  .transfer ⟨⟨slot, now⟩, [[]], 0⟩ { Hook.sampleTransfer (sampleKey 1) amount with
    destination := destination
    supplied := (Hook.resolvedAccounts .sample (sampleKey 6) (sampleKey 2) destination (sampleKey 1)
      recipient).toList.drop 5 ++ [⟨Programs.stedeHook, false, false⟩,
        ⟨(Hook.extraAccountMetaListPda .sample (sampleKey 2)).1, false, false⟩] }

def sampleFuture : List Hook.Event :=
  [.process ⟨⟨215999, 999⟩, [[]], 0⟩
      (.disableCooloff ⟨⟨sampleKey 3, true, true⟩, RuleKey.address .sample ⟨samplePair, .cooloff⟩⟩),
    sampleMove (sampleKey 4) (sampleKey 5) 215999 1000 90,
    .process ⟨⟨216000, 1001⟩, [[]], 0⟩ (.setLimit (sampleSet .dailyLimit) 80),
    sampleMove (sampleKey 4) (sampleKey 5) 216000 1059 70,
    sampleMove (sampleKey 10) (sampleKey 9) 216500 1060 20,
    sampleMove (sampleKey 4) (sampleKey 5) 216500 1060 75,
    sampleMove (sampleKey 4) (sampleKey 5) 216501 1061 5]

theorem sample_bare : ∀ slot ∈ slots ∅, ⟨samplePair, slot⟩ ∈ {key | key ∈ sampleKeys} := by
  intro slot member
  exact sample_own slot fun recipient same => absurd (member recipient same) (Finset.notMem_empty _)

theorem sample_moves_within : ∀ event ∈ samplePast ++ sampleFuture,
    WithinChain samplePair ∅ .sample {key | key ∈ sampleKeys} event := by
  have apart : ∀ key ∈ sampleKeys, sampleKey 10 ≠ key.address .sample := by
    decide +kernel
  have opened : ∀ slot ∈ slots ∅, sampleKey 10 ≠ RuleKey.address .sample ⟨samplePair, slot⟩ :=
    fun slot inside => apart _ (sample_bare slot inside)
  simp only [samplePast, sampleFuture, sampleMove, List.cons_append, List.nil_append,
    List.forall_mem_cons]
  exact ⟨.of_process (by decide), .of_process (by decide), .of_process (by decide),
    .of_elsewhere opened, .of_process (by decide), .of_transfer (by decide), .of_process (by decide),
    .of_transfer (by decide), .of_transfer (by decide), .of_transfer (by decide),
    .of_transfer (by decide), nofun⟩

theorem outflow_capped_sample :
    outflow samplePair (.plain .sample)
      (Run.run (Hook.happen (.plain .sample)) sampleChain samplePast) sampleFuture 215999 ≤ 2 * 100 := by
  refine outflow_capped .sample (.plain .sample) samplePair {key | key ∈ sampleKeys} sample_free
    sample_bare sampleChain Hook.sample_written
    (fun slot member => sample_chain_unused _ (sample_bare slot member)) samplePast sampleFuture
    sample_moves_within Hook.sampleLimit ?_ 100 (by decide) ?_ ?_ 215999
  · decide +kernel
  · intro env accounts limit member _ _ _
    simp only [sampleFuture, sampleMove, List.mem_cons, List.not_mem_nil, or_false, reduceCtorEq,
      false_or, Hook.Event.process.injEq, and_false, Hook.Instruction.setLimit.injEq] at member
    rw [member.2.2]
    decide
  · simp [sampleFuture, sampleMove, Before, slotOf]

/-- The second transfer, a second too early, and the third, to a blocked wallet, do not
settle; of the others the limit in force lets the last two through in the next day. -/
example : outflow samplePair (.plain .sample)
      (Run.run (Hook.happen (.plain .sample)) sampleChain samplePast) sampleFuture 215999 = 170 := by
  decide +kernel

def sampleCooloff : Cooloff :=
  ⟨sampleKey 1, sampleKey 2, 50, 60, 0, (Cooloff.kind.pda .sample (sampleKey 1) (sampleKey 2)).2⟩

theorem large_outflows_spaced_sample :
    (largeOutflows samplePair (.plain .sample)
      (Run.run (Hook.happen (.plain .sample)) sampleChain samplePast) sampleFuture 50).Pairwise
        fun early late => early + 60 ≤ late := by
  refine (large_outflows_spaced .sample (.plain .sample) samplePair {key | key ∈ sampleKeys} sample_free
    sample_bare sampleChain Hook.sample_written
    (fun slot member => sample_chain_unused _ (sample_bare slot member)) samplePast sampleFuture
    sample_moves_within sampleCooloff ?_ 50 60 (by decide) (by decide) ?_ ?_).2
  · decide +kernel
  · intro env accounts threshold duration member
    simp [sampleFuture, sampleMove] at member
  · intro env accounts member _ mine
    simp only [sampleFuture, sampleMove, List.mem_cons, List.not_mem_nil, or_false, reduceCtorEq,
      Hook.Event.process.injEq, and_false, Hook.Instruction.disableCooloff.injEq] at member
    rw [member.2] at mine
    exact absurd mine (by decide)

def sampleBlockList : BlockList :=
  ⟨sampleKey 1, sampleKey 2, ⟨sampleKey 9 :: List.replicate (MAX_BLOCKED - 1) .default, by decide⟩, 1,
    (BlockList.kind.pda .sample (sampleKey 1) (sampleKey 2)).2⟩

theorem blocked_unpaid_sample :
    sampleKey 9 ∈ sampleBlockList.entries ∧ ∀ before env transfer after,
      Run.Taken (Hook.happen (.plain .sample))
        (Run.run (Hook.happen (.plain .sample)) sampleChain samplePast) sampleFuture before
        (.transfer env transfer) →
      Hook.happen (.plain .sample) before (.transfer env transfer) = .ok after →
      Outgoing samplePair transfer →
        (before.1 transfer.destination).tokenOwner ≠ some (sampleKey 9) := by
  have listed : sampleKey 9 ∈ sampleBlockList.entries := by
    decide +kernel
  refine ⟨listed, blocked_unpaid .sample (.plain .sample) samplePair {key | key ∈ sampleKeys}
    sample_free sample_bare sampleChain Hook.sample_written
    (fun slot member => sample_chain_unused _ (sample_bare slot member)) samplePast sampleFuture
    sample_moves_within sampleBlockList ?_ (sampleKey 9) listed ?_⟩
  · decide +kernel
  · intro env accounts member
    simp [sampleFuture, sampleMove] at member

end Sample

end Stede.Policy
