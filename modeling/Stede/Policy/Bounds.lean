import Stede.Policy.Machine

set_option autoImplicit false

/- What a policy bounds over whole runs, whatever else its owner does in between. -/
namespace Stede.Policy

open Hook (Rule)

variable {owner : Pubkey} {policy next changed : Policy} {action : Action} {payment : Payment}

theorem map_eq_ok {α β : Type} {outcome : Except Refusal α} {after : α → β} {value : β} :
    outcome.map after = .ok value ↔ ∃ first, outcome = .ok first ∧ after first = value := by
  cases outcome with
  | ok first => simp [Except.map]
  | error refusal => simp [Except.map]

theorem refusal_bind_eq_ok {α β : Type} {first : Except Refusal α} {later : α → Except Refusal β}
    {value : β} :
    (first >>= later) = .ok value ↔ ∃ middle, first = .ok middle ∧ later middle = .ok value := by
  cases first with
  | ok middle => simp [bind, Except.bind]
  | error refusal => simp [bind, Except.bind]

theorem permit_eq_ok {condition : Prop} [Decidable condition] {refusal : Refusal} {result : Unit} :
    permit condition refusal = .ok result ↔ condition := by
  by_cases holds : condition <;> simp [permit, holds]

theorem under_eq_ok {β : Type} {content : Option β} {verdict : β → Except Refusal Policy} :
    under content policy verdict = .ok changed ↔
      (content = none ∧ changed = policy) ∨
        ∃ value, content = some value ∧ verdict value = .ok changed := by
  cases content with
  | none => simp [under, eq_comm]
  | some value => simp [under]

/-- What a rule that accepts leaves of the policy: the budget and the pause are all
that a payment can change. -/
theorem obey_frame {rule : Rule} (success : obey payment policy rule = .ok changed) :
    (rule ≠ .dailyLimit → changed.budget = policy.budget) ∧
      (rule ≠ .cooloff → changed.pause = policy.pause) ∧ changed.blocked = policy.blocked ∧
      changed.gate = policy.gate := by
  cases rule with
  | dailyLimit =>
      rcases under_eq_ok.mp success with ⟨_, same⟩ | ⟨budget, _, obeyed⟩
      · rw [same]
        exact ⟨fun _ => rfl, fun _ => rfl, rfl, rfl⟩
      · obtain ⟨charged, _, same⟩ := map_eq_ok.mp obeyed
        rw [← same]
        exact ⟨fun other => absurd rfl other, fun _ => rfl, rfl, rfl⟩
  | cooloff =>
      rcases under_eq_ok.mp success with ⟨_, same⟩ | ⟨pause, _, obeyed⟩
      · rw [same]
        exact ⟨fun _ => rfl, fun _ => rfl, rfl, rfl⟩
      · obtain ⟨rested, _, same⟩ := map_eq_ok.mp obeyed
        rw [← same]
        exact ⟨fun _ => rfl, fun other => absurd rfl other, rfl, rfl⟩
  | blockHandle | newRecipientDelay | timeWindow | friendGate =>
      rcases under_eq_ok.mp success with ⟨_, same⟩ | ⟨value, _, obeyed⟩
      · rw [same]
        exact ⟨fun _ => rfl, fun _ => rfl, rfl, rfl⟩
      · obtain ⟨_, _, same⟩ := map_eq_ok.mp obeyed
        rw [← same]
        exact ⟨fun _ => rfl, fun _ => rfl, rfl, rfl⟩

/- The budget. -/

/-- What an action charges if it is accepted. -/
def Action.charges : Action → List Payment
  | .check rules payment => rules.flatMap fun rule => if rule = .dailyLimit then [payment] else []
  | _ => []

theorem mem_charges {rules : List Rule} {charged : Payment}
    (member : charged ∈ Action.charges (.check rules payment)) : charged = payment := by
  obtain ⟨rule, _, inside⟩ := List.mem_flatMap.mp member
  split at inside
  · exact List.mem_singleton.mp inside
  · cases inside

/-- There is a budget, of at most `bound`. -/
def Capped (bound : Nat) (meter : Window.Meter) (policy : Policy) : Prop :=
  ∃ cap ≤ bound, policy.budget = some ⟨cap, meter⟩

section Budgets

variable {bound : Nat} {meter : Window.Meter}

/-- The charges of one payment, under whatever limit is set, go through under the bound. -/
theorem check_budget {rules : List Rule} (capped : Capped bound meter policy)
    (success : check payment policy rules = .ok changed) :
    ∃ meter', (Action.charges (.check rules payment)).foldlM
        (Window.charge Payment.slot Payment.amount slotsPerDay bound) meter = .ok meter' ∧
      Capped bound meter' changed := by
  induction rules generalizing policy meter with
  | nil =>
      rw [← Except.ok.inj success]
      exact ⟨meter, rfl, capped⟩
  | cons rule rest ih =>
      obtain ⟨middle, obeyed, later⟩ := refusal_bind_eq_ok.mp success
      by_cases daily : rule = .dailyLimit
      · obtain ⟨cap, under_bound, budget⟩ := capped
        rw [daily] at obeyed
        rcases under_eq_ok.mp obeyed with ⟨absent, _⟩ | ⟨present, held, obeyed⟩
        · rw [absent] at budget
          cases budget
        · rw [budget] at held
          obtain ⟨after, charged, same⟩ := map_eq_ok.mp obeyed
          rw [← Option.some.inj held, charge] at charged
          cases outcome : Window.charge Payment.slot Payment.amount slotsPerDay cap meter payment with
          | error reason =>
              rw [outcome] at charged
              cases charged
          | ok spent =>
              rw [outcome] at charged
              have middle_capped : Capped bound spent middle := by
                rw [← same, ← Except.ok.inj charged]
                exact ⟨cap, under_bound, rfl⟩
              obtain ⟨last, passes, done⟩ := ih middle_capped later
              refine ⟨last, ?_, done⟩
              rw [Action.charges, List.flatMap_cons, if_pos daily, List.singleton_append,
                List.foldlM_cons, Window.charge_mono under_bound outcome]
              exact passes
      · have middle_capped : Capped bound meter middle := by
          obtain ⟨cap, under_bound, budget⟩ := capped
          exact ⟨cap, under_bound, ((obey_frame obeyed).1 daily).trans budget⟩
        obtain ⟨last, passes, done⟩ := ih middle_capped later
        refine ⟨last, ?_, done⟩
        rw [Action.charges, List.flatMap_cons, if_neg daily]
        exact passes

theorem step_budget (capped : Capped bound meter policy)
    (kept : ∀ slot limit, action = .setLimit slot limit → limit ≤ bound)
    (success : step owner policy action = .ok next) :
    ∃ meter', action.charges.foldlM (Window.charge Payment.slot Payment.amount slotsPerDay bound) meter =
        .ok meter' ∧ Capped bound meter' next := by
  have still (same : next.budget = policy.budget) : Capped bound meter next := by
    obtain ⟨cap, under_bound, budget⟩ := capped
    exact ⟨cap, under_bound, same.trans budget⟩
  cases action with
  | check rules payment => exact check_budget capped success
  | setLimit slot limit =>
      obtain ⟨cap, _, budget⟩ := capped
      rw [step, budget] at success
      obtain ⟨fresh, made, same⟩ := map_eq_ok.mp success
      obtain ⟨_, _, same'⟩ := refusal_bind_eq_ok.mp made
      refine ⟨meter, rfl, limit, kept slot limit rfl, ?_⟩
      rw [← same, ← Except.ok.inj same']
  | removeBlocked wallet =>
      rw [step] at success
      cases blocked : policy.blocked with
      | none =>
          rw [blocked] at success
          cases success
      | some entries =>
          rw [blocked] at success
          obtain ⟨_, _, same⟩ := map_eq_ok.mp success
          exact ⟨meter, rfl, still (by rw [← same])⟩
  | addBlocked | setCooloff | disableCooloff | setSlowSend | disableSlowSend | registerRecipient |
      setTimeWindow | disableTimeWindow | setFriendGate | disableFriendGate =>
      obtain ⟨_, _, same⟩ := map_eq_ok.mp success
      exact ⟨meter, rfl, still (by rw [← same])⟩

theorem accepted_budget {actions : List Action} (capped : Capped bound meter policy)
    (kept : ∀ slot limit, .setLimit slot limit ∈ actions → limit ≤ bound) :
    ∃ meter', ((Run.accepted (step owner) policy actions).flatMap Action.charges).foldlM
      (Window.charge Payment.slot Payment.amount slotsPerDay bound) meter = .ok meter' := by
  induction actions generalizing policy meter with
  | nil => exact ⟨meter, rfl⟩
  | cons action rest ih =>
      have rest_kept : ∀ slot limit, .setLimit slot limit ∈ rest → limit ≤ bound :=
        fun slot limit member => kept slot limit (List.mem_cons_of_mem _ member)
      cases outcome : step owner policy action with
      | error reason =>
          rw [Run.accepted_of_error rest outcome]
          exact ih capped rest_kept
      | ok after =>
          have here : ∀ slot limit, action = .setLimit slot limit → limit ≤ bound := by
            intro slot limit same
            exact kept slot limit (same ▸ List.mem_cons_self)
          obtain ⟨middle, passes, after_capped⟩ := step_budget capped here outcome
          obtain ⟨last, later⟩ := ih after_capped rest_kept
          refine ⟨last, ?_⟩
          rw [Run.accepted_of_ok rest outcome, List.flatMap_cons, List.foldlM_append, passes]
          exact later

/-- In any day's worth of slots at most twice the highest limit in force is charged. -/
theorem charged_capped {actions : List Action} (capped : Capped bound meter policy)
    (kept : ∀ slot limit, .setLimit slot limit ∈ actions → limit ≤ bound)
    (ordered : actions.Pairwise fun first second =>
      ∀ early ∈ first.charges, ∀ late ∈ second.charges, early.slot ≤ late.slot) (low : Nat) :
    Window.sumIn Payment.slot Payment.amount slotsPerDay low
      ((Run.accepted (step owner) policy actions).flatMap Action.charges) ≤ 2 * bound := by
  obtain ⟨last, passes⟩ := @accepted_budget owner _ _ _ _ capped kept
  have once (action : Action) : action.charges.Pairwise fun early late => early.slot ≤ late.slot := by
    cases action with
    | check rules payment =>
        apply List.pairwise_of_forall_mem_list
        intro early first late second
        rw [mem_charges first, mem_charges second]
    | _ => exact List.Pairwise.nil
  have sorted : ((Run.accepted (step owner) policy actions).flatMap Action.charges).Pairwise
      fun early late => early.slot ≤ late.slot := by
    rw [List.pairwise_flatMap]
    exact ⟨fun action _ => once action, ordered.sublist (Run.accepted_sublist policy actions)⟩
  have positive : 0 < slotsPerDay := by decide
  have bounded : Window.spentIn Payment.slot Payment.amount slotsPerDay bound low meter _ ≤ 2 * bound :=
    Window.spentIn_le_of_any positive sorted
  rw [Window.spentIn, Run.accepted_of_foldlM passes] at bounded
  exact bounded

end Budgets

/- The pause. -/

/-- When an action, if it is accepted, lets a large payment through. -/
def Action.pauses (threshold : Nat) : Action → List Int
  | .check rules payment =>
      if .cooloff ∈ rules ∧ threshold ≤ payment.amount then [payment.now] else []
  | _ => []

/-- There is a pause after every payment of `threshold` or more, of `duration` or
longer, and the last one began at `last`. -/
def Paused (threshold : Nat) (duration last : Int) (policy : Policy) : Prop :=
  ∃ pause : Pause, policy.pause = some pause ∧ pause.threshold ≤ threshold ∧
    duration ≤ pause.duration ∧ pause.last = last

/-- An action that leaves a pause of that kind in place. -/
def Action.KeepsPause (threshold : Nat) (duration : Int) : Action → Prop
  | .setCooloff threshold' duration' => threshold' ≤ threshold ∧ duration ≤ duration'
  | .disableCooloff => False
  | _ => True

section Pauses

variable {threshold : Nat} {duration last : Int}

theorem elapsed_eq_ok {now since waited : Int} (success : elapsed now since = .ok waited) :
    waited = now - since := by
  unfold elapsed at success
  split at success
  · exact (Except.ok.inj success).symm
  · cases success

/-- The rule accepts a large payment only after the pause, and then begins another. -/
theorem obey_cooloff (patient : 0 ≤ duration) (paused : Paused threshold duration last policy)
    (success : obey payment policy .cooloff = .ok changed) :
    ∃ last', Paused threshold duration last' changed ∧ last ≤ last' ∧
      (threshold ≤ payment.amount → last + duration ≤ payment.now ∧ payment.now ≤ last') := by
  obtain ⟨pause, set, low, long, begun⟩ := paused
  rcases under_eq_ok.mp success with ⟨absent, _⟩ | ⟨present, held, obeyed⟩
  · rw [absent] at set
    cases set
  · rw [set] at held
    obtain ⟨after, rested, same⟩ := map_eq_ok.mp obeyed
    rw [← Option.some.inj held, rest] at rested
    by_cases small : payment.amount < pause.threshold
    · rw [if_pos small] at rested
      refine ⟨last, ⟨pause, ?_, low, long, begun⟩, le_refl _, fun large => ?_⟩
      · rw [← same, ← Except.ok.inj rested]
      · omega
    · rw [if_neg small] at rested
      obtain ⟨waited, difference, rested⟩ := refusal_bind_eq_ok.mp rested
      obtain ⟨_, permitted, renewed⟩ := refusal_bind_eq_ok.mp rested
      have enough : pause.duration ≤ waited := permit_eq_ok.mp permitted
      rw [elapsed_eq_ok difference] at enough
      refine ⟨payment.now, ⟨{ pause with last := payment.now }, ?_, low, long, rfl⟩, ?_, fun _ => ?_⟩
      · rw [← same, ← Except.ok.inj renewed]
      · omega
      · omega

theorem check_pause (patient : 0 ≤ duration) {rules : List Rule}
    (paused : Paused threshold duration last policy)
    (success : check payment policy rules = .ok changed) :
    ∃ last', Paused threshold duration last' changed ∧ last ≤ last' ∧
      (.cooloff ∈ rules → threshold ≤ payment.amount →
        last + duration ≤ payment.now ∧ payment.now ≤ last') := by
  induction rules generalizing policy last with
  | nil =>
      rw [← Except.ok.inj success]
      exact ⟨last, paused, le_refl _, nofun⟩
  | cons rule rest ih =>
      obtain ⟨middle, obeyed, later⟩ := refusal_bind_eq_ok.mp success
      by_cases cool : rule = .cooloff
      · rw [cool] at obeyed
        obtain ⟨first, middle_paused, grown, large⟩ := obey_cooloff patient paused obeyed
        obtain ⟨last', done, grown', _⟩ := ih middle_paused later
        refine ⟨last', done, grown.trans grown', fun _ enough => ?_⟩
        obtain ⟨apart, begun⟩ := large enough
        exact ⟨apart, begun.trans grown'⟩
      · have middle_paused : Paused threshold duration last middle := by
          obtain ⟨pause, set, terms⟩ := paused
          exact ⟨pause, ((obey_frame obeyed).2.1 cool).trans set, terms⟩
        obtain ⟨last', done, grown, large⟩ := ih middle_paused later
        refine ⟨last', done, grown, fun member => large ?_⟩
        exact (List.mem_cons.mp member).resolve_left (Ne.symm cool)

theorem step_pause (patient : 0 ≤ duration) (paused : Paused threshold duration last policy)
    (kept : action.KeepsPause threshold duration) (success : step owner policy action = .ok next) :
    ∃ last', Paused threshold duration last' next ∧ last ≤ last' ∧
      ∀ time ∈ action.pauses threshold, last + duration ≤ time ∧ time ≤ last' := by
  have still (same : next.pause = policy.pause) : Paused threshold duration last next := by
    obtain ⟨pause, set, terms⟩ := paused
    exact ⟨pause, same.trans set, terms⟩
  cases action with
  | check rules payment =>
      obtain ⟨last', done, grown, large⟩ := check_pause patient paused success
      refine ⟨last', done, grown, fun time member => ?_⟩
      rw [Action.pauses] at member
      split at member
      · rename_i counts
        rw [List.mem_singleton.mp member]
        exact large counts.1 counts.2
      · cases member
  | setCooloff threshold' duration' =>
      obtain ⟨pause, set, _, _, begun⟩ := paused
      rw [step, set] at success
      obtain ⟨fresh, made, same⟩ := map_eq_ok.mp success
      obtain ⟨_, _, made⟩ := refusal_bind_eq_ok.mp made
      obtain ⟨_, _, same'⟩ := refusal_bind_eq_ok.mp made
      refine ⟨last, ⟨⟨threshold', duration', pause.last⟩, ?_, kept.1, kept.2, begun⟩, le_refl _, nofun⟩
      rw [← same, ← Except.ok.inj same']
      rfl
  | disableCooloff => exact absurd kept not_false
  | removeBlocked wallet =>
      rw [step] at success
      cases blocked : policy.blocked with
      | none =>
          rw [blocked] at success
          cases success
      | some entries =>
          rw [blocked] at success
          obtain ⟨_, _, same⟩ := map_eq_ok.mp success
          exact ⟨last, still (by rw [← same]), le_refl _, nofun⟩
  | setLimit | addBlocked | setSlowSend | disableSlowSend | registerRecipient | setTimeWindow |
      disableTimeWindow | setFriendGate | disableFriendGate =>
      obtain ⟨_, _, same⟩ := map_eq_ok.mp success
      exact ⟨last, still (by rw [← same]), le_refl _, nofun⟩

/-- Two large payments that are accepted lie as far apart as the shortest pause in force. -/
theorem pauses_spaced (patient : 0 ≤ duration) {actions : List Action}
    (paused : Paused threshold duration last policy)
    (kept : ∀ action ∈ actions, action.KeepsPause threshold duration) :
    (∀ time ∈ (Run.accepted (step owner) policy actions).flatMap (Action.pauses threshold),
        last + duration ≤ time) ∧
      ((Run.accepted (step owner) policy actions).flatMap (Action.pauses threshold)).Pairwise
        fun early late => early + duration ≤ late := by
  induction actions generalizing policy last with
  | nil => exact ⟨nofun, List.Pairwise.nil⟩
  | cons action rest ih =>
      have rest_kept : ∀ other ∈ rest, other.KeepsPause threshold duration :=
        fun other member => kept other (List.mem_cons_of_mem _ member)
      cases outcome : step owner policy action with
      | error reason =>
          rw [Run.accepted_of_error rest outcome]
          exact ih paused rest_kept
      | ok after =>
          obtain ⟨last', after_paused, grown, here⟩ :=
            step_pause patient paused (kept action List.mem_cons_self) outcome
          obtain ⟨behind, spaced⟩ := ih after_paused rest_kept
          rw [Run.accepted_of_ok rest outcome, List.flatMap_cons]
          constructor
          · intro time member
            rcases List.mem_append.mp member with first | later
            · exact (here time first).1
            · have bound := behind time later
              omega
          · refine List.pairwise_append.mpr ⟨?_, spaced, fun early first late second => ?_⟩
            · cases action with
              | check rules payment =>
                  rw [Action.pauses]
                  split
                  · exact List.pairwise_singleton _ _
                  · exact List.Pairwise.nil
              | _ => exact List.Pairwise.nil
            · have begun := (here early first).2
              have bound := behind late second
              omega

end Pauses

/- The block list. -/

def Blocks (wallet : Pubkey) (policy : Policy) : Prop :=
  ∃ blocked, policy.blocked = some blocked ∧ wallet ∈ blocked

theorem check_keeps_blocked {rules : List Rule} (success : check payment policy rules = .ok changed) :
    changed.blocked = policy.blocked := by
  induction rules generalizing policy with
  | nil => rw [← Except.ok.inj success]
  | cons rule rest ih =>
      obtain ⟨middle, obeyed, later⟩ := refusal_bind_eq_ok.mp success
      exact (ih later).trans (obey_frame obeyed).2.2.1

/-- A blocked wallet stays blocked until it is removed. -/
theorem step_blocked {wallet : Pubkey} (blocks : Blocks wallet policy)
    (kept : action ≠ .removeBlocked wallet) (success : step owner policy action = .ok next) :
    Blocks wallet next := by
  obtain ⟨blocked, held, member⟩ := blocks
  have still (same : next.blocked = policy.blocked) : Blocks wallet next :=
    ⟨blocked, same.trans held, member⟩
  cases action with
  | check rules payment => exact still (check_keeps_blocked success)
  | addBlocked other =>
      obtain ⟨entries, added, same⟩ := map_eq_ok.mp success
      rw [held] at added
      obtain ⟨_, _, added⟩ := refusal_bind_eq_ok.mp added
      obtain ⟨_, _, added⟩ := refusal_bind_eq_ok.mp added
      obtain ⟨_, _, added⟩ := refusal_bind_eq_ok.mp added
      refine ⟨insert other blocked, ?_, Finset.mem_insert_of_mem member⟩
      rw [← same, ← Except.ok.inj added]
      rfl
  | removeBlocked other =>
      rw [step, held] at success
      obtain ⟨entries, removed, same⟩ := map_eq_ok.mp success
      obtain ⟨_, _, removed⟩ := refusal_bind_eq_ok.mp removed
      refine ⟨blocked.erase other, ?_, ?_⟩
      · rw [← same, ← Except.ok.inj removed]
      · refine Finset.mem_erase.mpr ⟨fun equal => kept ?_, member⟩
        rw [equal]
  | setLimit | setCooloff | disableCooloff | setSlowSend | disableSlowSend | registerRecipient |
      setTimeWindow | disableTimeWindow | setFriendGate | disableFriendGate =>
      obtain ⟨_, _, same⟩ := map_eq_ok.mp success
      exact still (by rw [← same])

/-- No payment to a blocked wallet is accepted. -/
theorem check_blocked {rules : List Rule} (blocks : Blocks payment.recipient policy)
    (asked : .blockHandle ∈ rules) : ¬ check payment policy rules = .ok changed := by
  intro success
  obtain ⟨blocked, held, member⟩ := blocks
  induction rules generalizing policy with
  | nil => cases asked
  | cons rule rest ih =>
      obtain ⟨middle, obeyed, later⟩ := refusal_bind_eq_ok.mp success
      by_cases here : rule = .blockHandle
      · rw [here] at obeyed
        rcases under_eq_ok.mp obeyed with ⟨absent, _⟩ | ⟨entries, present, obeyed⟩
        · rw [absent] at held
          cases held
        · obtain ⟨_, permitted, _⟩ := map_eq_ok.mp obeyed
          rw [held] at present
          rw [Option.some.inj present] at member
          exact permit_eq_ok.mp permitted member
      · exact ih ((List.mem_cons.mp asked).resolve_left (Ne.symm here)) later
          ((obey_frame obeyed).2.2.1.trans held)

/- The gate. -/

/-- The friend of a gate is somebody else. -/
def Befriended (owner : Pubkey) (policy : Policy) : Prop :=
  ∀ gate, policy.gate = some gate → gate.friend ≠ owner

theorem check_keeps_gate {rules : List Rule} (success : check payment policy rules = .ok changed) :
    changed.gate = policy.gate := by
  induction rules generalizing policy with
  | nil => rw [← Except.ok.inj success]
  | cons rule rest ih =>
      obtain ⟨middle, obeyed, later⟩ := refusal_bind_eq_ok.mp success
      exact (ih later).trans (obey_frame obeyed).2.2.2

theorem step_befriended (befriended : Befriended owner policy)
    (success : step owner policy action = .ok next) : Befriended owner next := by
  have still (same : next.gate = policy.gate) : Befriended owner next := by
    intro gate held
    exact befriended gate (same.symm.trans held)
  cases action with
  | check rules payment => exact still (check_keeps_gate success)
  | setFriendGate threshold friend =>
      obtain ⟨fresh, made, same⟩ := map_eq_ok.mp success
      obtain ⟨_, _, made⟩ := refusal_bind_eq_ok.mp made
      obtain ⟨_, _, made⟩ := refusal_bind_eq_ok.mp made
      obtain ⟨_, other, made⟩ := refusal_bind_eq_ok.mp made
      intro gate held
      rw [← same, ← Except.ok.inj made] at held
      rw [← Option.some.inj held]
      exact permit_eq_ok.mp other
  | disableFriendGate =>
      obtain ⟨_, _, same⟩ := map_eq_ok.mp success
      intro gate held
      rw [← same] at held
      cases held
  | removeBlocked wallet =>
      rw [step] at success
      cases blocked : policy.blocked with
      | none =>
          rw [blocked] at success
          cases success
      | some entries =>
          rw [blocked] at success
          obtain ⟨_, _, same⟩ := map_eq_ok.mp success
          exact still (by rw [← same])
  | setLimit | addBlocked | setCooloff | disableCooloff | setSlowSend | disableSlowSend |
      registerRecipient | setTimeWindow | disableTimeWindow =>
      obtain ⟨_, _, same⟩ := map_eq_ok.mp success
      exact still (by rw [← same])

/-- The rules besides the gate. -/
def ungated : List Rule := [.dailyLimit, .blockHandle, .cooloff, .newRecipientDelay, .timeWindow]

/-- Under a gate a large payment is accepted if the other rules accept it and the
friend signs too. -/
theorem check_gated {gate : Gate} (set : policy.gate = some gate) (large : gate.threshold ≤ payment.amount) :
    check payment policy Rule.all = .ok changed ↔
      check payment policy ungated = .ok changed ∧ gate.friend ∈ payment.cosigners := by
  have split : Rule.all = ungated ++ [.friendGate] := rfl
  have gated {middle : Policy} (kept : middle.gate = policy.gate) :
      check payment middle [.friendGate] = .ok changed ↔
        middle = changed ∧ gate.friend ∈ payment.cosigners := by
    have not_small : ¬ payment.amount < gate.threshold := by omega
    rw [check_singleton, obey, kept, set, under, map_eq_ok]
    simp only [cosigned, permit_eq_ok, not_small, false_or, exists_const]
    exact and_comm
  rw [split, check_append, refusal_bind_eq_ok]
  constructor
  · rintro ⟨middle, others, last⟩
    obtain ⟨same, signed⟩ := (gated (check_keeps_gate others)).mp last
    rw [← same]
    exact ⟨others, signed⟩
  · rintro ⟨others, signed⟩
    exact ⟨changed, others, (gated (check_keeps_gate others)).mpr ⟨rfl, signed⟩⟩

end Stede.Policy
