import Mathlib
import Stede.Lib.Run

set_option autoImplicit false

/- Transactions of one machine read as actions of another: what is observed has the
same verdict in both, and what is not observed leaves the other machine where it is. -/
namespace Refinement

variable {σ τ ι κ ε δ α β : Type}

/-- Both succeed with related results, or both refuse and one refusal is the reading
of the other. -/
inductive Agree (rel : α → β → Prop) (reads : ε → Option δ) : Except ε α → Except δ β → Prop
  | ok {value : α} {content : β} (related : rel value content) :
      Agree rel reads (.ok value) (.ok content)
  | error {reason : ε} {refusal : δ} (same : reads reason = some refusal) :
      Agree rel reads (.error reason) (.error refusal)

namespace Agree

variable {rel : α → β → Prop} {reads : ε → Option δ} {left : Except ε α} {right : Except δ β}

theorem mono {wider : α → β → Prop} (agree : Agree rel reads left right)
    (wide : ∀ value content, left = .ok value → right = .ok content → rel value content →
      wider value content) :
    Agree wider reads left right := by
  cases agree with
  | ok related => exact .ok (wide _ _ rfl rfl related)
  | error same => exact .error same

/-- Computations that go on with related values agree if their continuations do. -/
theorem bind {α' β' : Type} {rel' : α' → β' → Prop} {next : α → Except ε α'}
    {next' : β → Except δ β'} (agree : Agree rel reads left right)
    (later : ∀ value content, left = .ok value → rel value content →
      Agree rel' reads (next value) (next' content)) :
    Agree rel' reads (left >>= next) (right >>= next') := by
  cases agree with
  | ok related => exact later _ _ rfl related
  | error same => exact .error same

theorem map {α' β' : Type} {rel' : α' → β' → Prop} {after : α → α'} {after' : β → β'}
    (agree : Agree rel reads left right)
    (related : ∀ value content, left = .ok value → right = .ok content → rel value content →
      rel' (after value) (after' content)) :
    Agree rel' reads (left.map after) (right.map after') := by
  cases agree with
  | ok holds => exact .ok (related _ _ rfl rfl holds)
  | error same => exact .error same

/-- What is done with the one result alone. -/
theorem map_left {α' : Type} {rel' : α' → β → Prop} {after : α → α'}
    (agree : Agree rel reads left right)
    (related : ∀ value content, left = .ok value → rel value content → rel' (after value) content) :
    Agree rel' reads (left.map after) right := by
  cases agree with
  | ok holds => exact .ok (related _ _ rfl holds)
  | error same => exact .error same

theorem map_right {β' : Type} {rel' : α → β' → Prop} {after : β → β'}
    (agree : Agree rel reads left right)
    (related : ∀ value content, left = .ok value → rel value content → rel' value (after content)) :
    Agree rel' reads left (right.map after) := by
  cases agree with
  | ok holds => exact .ok (related _ _ rfl holds)
  | error same => exact .error same

theorem error_of_error (agree : Agree rel reads left right) {reason : ε}
    (failed : left = .error reason) : ∃ refusal, reads reason = some refusal ∧ right = .error refusal := by
  cases agree with
  | ok related => cases failed
  | error same =>
      cases failed
      exact ⟨_, same, rfl⟩

theorem ok_of_ok (agree : Agree rel reads left right) {value : α} (success : left = .ok value) :
    ∃ content, right = .ok content ∧ rel value content := by
  cases agree with
  | ok related =>
      cases success
      exact ⟨_, rfl, related⟩
  | error same => cases success

theorem ok_of_accepted (agree : Agree rel reads left right) {content : β}
    (accepted : right = .ok content) : ∃ value, left = .ok value ∧ rel value content := by
  cases agree with
  | ok related =>
      cases accepted
      exact ⟨_, rfl, related⟩
  | error same => cases accepted

/-- Forgetting the results, the two verdicts are the same. -/
theorem verdict (agree : Agree rel reads left right) :
    (left.map fun _ => ()).mapError reads = (right.map fun _ => ()).mapError some := by
  cases agree with
  | ok related => rfl
  | error same => exact congrArg Except.error same

end Agree

section Runs

variable (step : σ → ι → Except ε σ) (spec : τ → κ → Except δ τ) (observe : σ → ι → Option κ)
  (reads : ε → Option δ) (rel : σ → τ → Prop)

/-- The actions that a run shows. -/
def observed (state : σ) : List ι → List κ
  | [] => []
  | input :: rest => (observe state input).toList ++ observed (Run.commit step state input) rest

/-- The verdicts of what is observed, with the refusals as they are read. -/
def verdicts (state : σ) : List ι → List (Except (Option δ) Unit)
  | [] => []
  | input :: rest =>
      (observe state input).toList.map (fun _ => ((step state input).map fun _ => ()).mapError reads) ++
        verdicts (Run.commit step state input) rest

/-- Each input is an action of the other machine, with its verdict, or touches
nothing that the relation speaks of. -/
structure Simulates (inputs : List ι) : Prop where
  seen : ∀ state shadow input action, input ∈ inputs → rel state shadow →
    observe state input = some action → Agree rel reads (step state input) (spec shadow action)
  unseen : ∀ state shadow input next, input ∈ inputs → rel state shadow →
    observe state input = none → step state input = .ok next → rel next shadow

variable {step spec observe reads rel}

theorem Simulates.tail {input : ι} {rest : List ι}
    (simulates : Simulates step spec observe reads rel (input :: rest)) :
    Simulates step spec observe reads rel rest where
  seen state shadow input action member :=
    simulates.seen state shadow input action (List.mem_cons_of_mem _ member)
  unseen state shadow input next member :=
    simulates.unseen state shadow input next (List.mem_cons_of_mem _ member)

/-- One transaction that is not observed. -/
theorem Simulates.silent {state : σ} {shadow : τ} {input : ι} {inputs : List ι}
    (simulates : Simulates step spec observe reads rel inputs) (member : input ∈ inputs)
    (related : rel state shadow) (hidden : observe state input = none) :
    rel (Run.commit step state input) shadow := by
  rcases Run.commit_cases step state input with success | ⟨_, same⟩
  · exact simulates.unseen state shadow input _ member related hidden success
  · rw [same]
    exact related

/-- One transaction that is observed. -/
theorem Agree.commit {state : σ} {shadow : τ} {input : ι} {action : κ} (related : rel state shadow)
    (agree : Agree rel reads (step state input) (spec shadow action)) :
    rel (Run.commit step state input) (Run.commit spec shadow action) := by
  cases outcome : step state input with
  | ok next =>
      cases outcome' : spec shadow action with
      | ok next' =>
          rw [outcome, outcome'] at agree
          cases agree with
          | ok after =>
              rw [Run.commit_of_ok outcome, Run.commit_of_ok outcome']
              exact after
      | error refusal =>
          rw [outcome, outcome'] at agree
          cases agree
  | error reason =>
      obtain ⟨refusal, _, failed⟩ := agree.error_of_error outcome
      rw [Run.commit_of_error outcome, Run.commit_of_error failed]
      exact related

/-- A whole run ends in a state related to the one that the observed actions lead
to, and each of them has the verdict that it has there. -/
theorem Simulates.run {state : σ} {shadow : τ} {inputs : List ι}
    (simulates : Simulates step spec observe reads rel inputs) (related : rel state shadow) :
    rel (Run.run step state inputs) (Run.run spec shadow (observed step observe state inputs)) ∧
      verdicts step observe reads state inputs =
        (Run.trace spec shadow (observed step observe state inputs)).map
          fun entry => entry.2.mapError some := by
  induction inputs generalizing state shadow with
  | nil => exact ⟨related, rfl⟩
  | cons input rest ih =>
      cases shown : observe state input with
      | none =>
          have after := simulates.silent List.mem_cons_self related shown
          have later := ih simulates.tail after
          simp only [Run.run_cons, observed, verdicts, shown, Option.toList_none, List.nil_append,
            List.map_nil]
          exact later
      | some action =>
          have agree := simulates.seen state shadow input action List.mem_cons_self related shown
          have later := ih simulates.tail (agree.commit related)
          simp only [observed, verdicts, shown, Option.toList_some, List.singleton_append,
            List.map_cons, List.map_nil, Run.run_cons, Run.trace]
          refine ⟨later.1, ?_⟩
          rw [agree.verdict, later.2]

/-- The same at every point of the run. -/
theorem Simulates.reached {state reached : σ} {shadow : τ} {inputs : List ι}
    (simulates : Simulates step spec observe reads rel inputs) (related : rel state shadow)
    (prefix_of : Run.Reached step state inputs reached) :
    ∃ shadow', Run.Reached spec shadow (observed step observe state inputs) shadow' ∧
      rel reached shadow' := by
  induction inputs generalizing state shadow with
  | nil =>
      refine ⟨shadow, ⟨[], _, rfl, rfl⟩, ?_⟩
      rw [(Run.reached_nil _ _).mp prefix_of]
      exact related
  | cons input rest ih =>
      rcases (Run.reached_cons _ _ _ _).mp prefix_of with here | later
      · rw [here]
        exact ⟨shadow, ⟨[], _, rfl, rfl⟩, related⟩
      · cases shown : observe state input with
        | none =>
            have after := simulates.silent List.mem_cons_self related shown
            simp only [observed, shown, Option.toList_none, List.nil_append]
            exact ih simulates.tail after later
        | some action =>
            have agree := simulates.seen state shadow input action List.mem_cons_self related shown
            obtain ⟨shadow', there, after⟩ := ih simulates.tail (agree.commit related) later
            refine ⟨shadow', ?_, after⟩
            simp only [observed, shown, Option.toList_some, List.singleton_append]
            exact (Run.reached_cons _ _ _ _).mpr (Or.inr there)

section Reports

theorem mem_observed {state : σ} {inputs : List ι} {action : κ}
    (member : action ∈ observed step observe state inputs) :
    ∃ input ∈ inputs, ∃ reached, observe reached input = some action := by
  induction inputs generalizing state with
  | nil => cases member
  | cons input rest ih =>
      rcases List.mem_append.mp member with here | later
      · exact ⟨input, List.mem_cons_self, state, Option.mem_toList.mp here⟩
      · obtain ⟨other, inside, shown⟩ := ih later
        exact ⟨other, List.mem_cons_of_mem _ inside, shown⟩

/-- The actions come in the order of the inputs that show them. -/
theorem observed_pairwise {before : ι → ι → Prop} {before' : κ → κ → Prop} {state : σ} {inputs : List ι}
    (shown : ∀ state state' first second action action', observe state first = some action →
      observe state' second = some action' → before first second → before' action action')
    (ordered : inputs.Pairwise before) :
    (observed step observe state inputs).Pairwise before' := by
  induction inputs generalizing state with
  | nil => exact List.Pairwise.nil
  | cons input rest ih =>
      obtain ⟨first, later⟩ := List.pairwise_cons.mp ordered
      have tail : (observed step observe (Run.commit step state input) rest).Pairwise before' := ih later
      unfold observed
      cases here : observe state input with
      | none => exact tail
      | some action =>
          refine List.pairwise_cons.mpr ⟨fun other member => ?_, tail⟩
          obtain ⟨input', inside, state', there⟩ := mem_observed member
          exact shown state state' input input' action other here there (first input' inside)

/-- What the accepted inputs report is among what the accepted actions note. -/
theorem Simulates.reports {γ : Type} {report : ι → List γ} {note : κ → List γ} {state : σ} {shadow : τ}
    {inputs : List ι} (simulates : Simulates step spec observe reads rel inputs)
    (noted : ∀ state input action, observe state input = some action →
      (report input).Sublist (note action))
    (silent : ∀ state input next, observe state input = none → step state input = .ok next →
      report input = [])
    (related : rel state shadow) :
    ((Run.accepted step state inputs).flatMap report).Sublist
      ((Run.accepted spec shadow (observed step observe state inputs)).flatMap note) := by
  induction inputs generalizing state shadow with
  | nil => exact List.Sublist.refl _
  | cons input rest ih =>
      cases shown : observe state input with
      | none =>
          have later := ih simulates.tail (simulates.silent List.mem_cons_self related shown)
          simp only [observed, shown, Option.toList_none, List.nil_append]
          cases outcome : step state input with
          | ok next =>
              rw [Run.commit_of_ok outcome] at later ⊢
              rw [Run.accepted_of_ok rest outcome, List.flatMap_cons,
                silent state input next shown outcome]
              exact later
          | error reason =>
              rw [Run.commit_of_error outcome] at later ⊢
              rw [Run.accepted_of_error rest outcome]
              exact later
      | some action =>
          have agree := simulates.seen state shadow input action List.mem_cons_self related shown
          have later := ih simulates.tail (agree.commit related)
          simp only [observed, shown, Option.toList_some, List.singleton_append]
          cases outcome : step state input with
          | ok next =>
              obtain ⟨content, done, _⟩ := agree.ok_of_ok outcome
              rw [Run.commit_of_ok outcome, Run.commit_of_ok done] at later
              rw [Run.commit_of_ok outcome, Run.accepted_of_ok rest outcome,
                Run.accepted_of_ok _ done, List.flatMap_cons, List.flatMap_cons]
              exact (noted state input action shown).append later
          | error reason =>
              obtain ⟨refusal, _, failed⟩ := agree.error_of_error outcome
              rw [Run.commit_of_error outcome, Run.commit_of_error failed] at later
              rw [Run.commit_of_error outcome, Run.accepted_of_error rest outcome,
                Run.accepted_of_error _ failed]
              exact later

end Reports

end Runs

end Refinement
