import Mathlib

set_option autoImplicit false

/- Runs of a fallible step function whose failures are rolled back: the
transactional reading of a state machine. -/
namespace Run

variable {σ ι ε : Type}

section Steps

variable (step : σ → ι → Except ε σ)

/-- One transaction: a failing step leaves the state as it was. -/
def commit (state : σ) (input : ι) : σ :=
  match step state input with
  | .ok next => next
  | .error _ => state

/-- The state after a whole sequence of transactions. -/
def run (state : σ) (inputs : List ι) : σ := inputs.foldl (commit step) state

/-- Every transaction together with its verdict. -/
def trace (state : σ) : List ι → List (ι × Except ε Unit)
  | [] => []
  | input :: rest => (input, (step state input).map fun _ => ()) :: trace (commit step state input) rest

/-- `reached` is the state after some prefix of the run. -/
def Reached (state : σ) (inputs : List ι) (reached : σ) : Prop :=
  ∃ before after, inputs = before ++ after ∧ reached = run step state before

/-- The run takes `input` from the state `current`. -/
def Taken (state : σ) (inputs : List ι) (current : σ) (input : ι) : Prop :=
  ∃ before after, inputs = before ++ input :: after ∧ current = run step state before

end Steps

variable {step : σ → ι → Except ε σ}

theorem commit_of_ok {state next : σ} {input : ι} (success : step state input = .ok next) :
    commit step state input = next := by
  simp only [commit, success]

theorem commit_of_error {state : σ} {input : ι} {reason : ε}
    (failed : step state input = .error reason) : commit step state input = state := by
  simp only [commit, failed]

theorem commit_cases (step : σ → ι → Except ε σ) (state : σ) (input : ι) :
    step state input = .ok (commit step state input) ∨
      (∃ reason, step state input = .error reason) ∧ commit step state input = state := by
  cases outcome : step state input with
  | ok next => exact Or.inl (by rw [commit_of_ok outcome])
  | error reason => exact Or.inr ⟨⟨reason, rfl⟩, commit_of_error outcome⟩

@[simp] theorem run_nil (state : σ) : run step state [] = state := rfl

@[simp] theorem run_cons (state : σ) (input : ι) (rest : List ι) :
    run step state (input :: rest) = run step (commit step state input) rest := rfl

theorem run_append (state : σ) (first second : List ι) :
    run step state (first ++ second) = run step (run step state first) second :=
  List.foldl_append

theorem run_snoc (state : σ) (inputs : List ι) (input : ι) :
    run step state (inputs ++ [input]) = commit step (run step state inputs) input :=
  run_append state inputs [input]

theorem reached_nil (state reached : σ) : Reached step state [] reached ↔ reached = state := by
  constructor
  · rintro ⟨before, after, split, rfl⟩
    rw [(List.append_eq_nil_iff.mp split.symm).1, run_nil]
  · rintro rfl
    exact ⟨[], [], rfl, rfl⟩

theorem reached_cons (state reached : σ) (input : ι) (rest : List ι) :
    Reached step state (input :: rest) reached ↔
      reached = state ∨ Reached step (commit step state input) rest reached := by
  constructor
  · rintro ⟨before, after, split, rfl⟩
    cases before with
    | nil => exact Or.inl rfl
    | cons first before =>
        obtain ⟨rfl, rfl⟩ := List.cons.inj split
        exact Or.inr ⟨before, after, rfl, rfl⟩
  · rintro (rfl | ⟨before, after, rfl, rfl⟩)
    · exact ⟨[], input :: rest, rfl, rfl⟩
    · exact ⟨input :: before, after, rfl, rfl⟩

theorem not_taken_nil (state current : σ) (input : ι) : ¬ Taken step state [] current input := by
  rintro ⟨before, after, split, _⟩
  simp at split

theorem taken_cons (state current : σ) (first : ι) (rest : List ι) (input : ι) :
    Taken step state (first :: rest) current input ↔
      (current = state ∧ input = first) ∨ Taken step (commit step state first) rest current input := by
  constructor
  · rintro ⟨before, after, split, rfl⟩
    cases before with
    | nil =>
        obtain ⟨rfl, rfl⟩ := List.cons.inj split
        exact Or.inl ⟨rfl, rfl⟩
    | cons head before =>
        obtain ⟨rfl, rfl⟩ := List.cons.inj split
        exact Or.inr ⟨before, after, rfl, rfl⟩
  · rintro (⟨rfl, rfl⟩ | ⟨before, after, rfl, rfl⟩)
    · exact ⟨[], rest, rfl, rfl⟩
    · exact ⟨first :: before, after, rfl, rfl⟩

theorem Taken.mem {state current : σ} {inputs : List ι} {input : ι}
    (taken : Taken step state inputs current input) : input ∈ inputs := by
  obtain ⟨before, after, rfl, _⟩ := taken
  simp

theorem Taken.reached {state current : σ} {inputs : List ι} {input : ι}
    (taken : Taken step state inputs current input) : Reached step state inputs current := by
  obtain ⟨before, after, split, same⟩ := taken
  exact ⟨before, input :: after, split, same⟩

/-- A test of every transaction of a run, from the state it is taken in. -/
def allTaken (step : σ → ι → Except ε σ) (check : σ → ι → Bool) (state : σ) : List ι → Bool
  | [] => true
  | input :: rest => check state input && allTaken step check (commit step state input) rest

theorem check_of_allTaken {check : σ → ι → Bool} {state current : σ} {inputs : List ι} {input : ι}
    (checked : allTaken step check state inputs = true) (taken : Taken step state inputs current input) :
    check current input = true := by
  induction inputs generalizing state with
  | nil => exact absurd taken (not_taken_nil state current input)
  | cons first rest ih =>
      have ⟨here, later⟩ := Bool.and_eq_true_iff.mp checked
      rcases (taken_cons _ _ _ _ _).mp taken with ⟨same, same'⟩ | rest_taken
      · rw [same, same']
        exact here
      · exact ih later rest_taken

/-- What every successful step preserves, a transaction preserves. -/
theorem commit_invariant {inv : σ → Prop} {state : σ} {input : ι} (holds : inv state)
    (preserved : ∀ next, step state input = .ok next → inv next) :
    inv (commit step state input) := by
  rcases commit_cases step state input with success | ⟨_, unchanged⟩
  · exact preserved _ success
  · rw [unchanged]
    exact holds

/-- The induction of every safety proof: what holds at the start and is
preserved by each successful step holds after the whole run. -/
theorem run_invariant {inv : σ → Prop} {state : σ} {inputs : List ι} (holds : inv state)
    (preserved : ∀ current input next, input ∈ inputs → inv current →
      step current input = .ok next → inv next) :
    inv (run step state inputs) := by
  induction inputs generalizing state with
  | nil => exact holds
  | cons input rest ih =>
      apply ih
      · exact commit_invariant holds (preserved state input · List.mem_cons_self holds)
      · intro current next after member
        exact preserved current next after (List.mem_cons_of_mem _ member)

theorem reached_invariant {inv : σ → Prop} {state reached : σ} {inputs : List ι}
    (holds : inv state)
    (preserved : ∀ current input next, input ∈ inputs → inv current →
      step current input = .ok next → inv next)
    (prefix_of : Reached step state inputs reached) : inv reached := by
  obtain ⟨before, after, rfl, rfl⟩ := prefix_of
  apply run_invariant holds
  intro current input next member
  exact preserved current input next (List.mem_append_left after member)

/-- The same where a step preserves the invariant only under a condition that
every transaction of the run meets. -/
theorem run_invariant_of_taken {inv : σ → Prop} {state : σ} {inputs : List ι} (holds : inv state)
    (preserved : ∀ current input next, Taken step state inputs current input → inv current →
      step current input = .ok next → inv next) :
    inv (run step state inputs) := by
  induction inputs generalizing state with
  | nil => exact holds
  | cons input rest ih =>
      apply ih
      · apply commit_invariant holds
        intro next
        exact preserved state input next ((taken_cons _ _ _ _ _).mpr (Or.inl ⟨rfl, rfl⟩)) holds
      · intro current input' next taken
        exact preserved current input' next ((taken_cons _ _ _ _ _).mpr (Or.inr taken))

/-- Exactness over whole runs. Where one transaction out of a good state ends in
a good state exactly when `allowed` holds of it, every state of a run is good
exactly when every transaction of the run is allowed. -/
theorem forall_reached_iff {inv good : σ → Prop} {allowed : σ → ι → Prop} {state : σ}
    {inputs : List ι} (holds : inv state) (start : good state)
    (preserved : ∀ current input next, input ∈ inputs → inv current →
      step current input = .ok next → inv next)
    (exactly : ∀ current input, input ∈ inputs → inv current → good current →
      (good (commit step current input) ↔ allowed current input)) :
    (∀ reached, Reached step state inputs reached → good reached) ↔
      ∀ current input, Taken step state inputs current input → allowed current input := by
  induction inputs generalizing state with
  | nil =>
      constructor
      · intro _ current input taken
        exact absurd taken (not_taken_nil state current input)
      · intro _ reached prefix_of
        rw [(reached_nil state reached).mp prefix_of]
        exact start
  | cons input rest ih =>
      have here := exactly state input List.mem_cons_self holds start
      have next_inv : inv (commit step state input) :=
        commit_invariant holds (preserved state input · List.mem_cons_self holds)
      have rest_preserved : ∀ current next after, next ∈ rest → inv current →
          step current next = .ok after → inv after := fun current next after member =>
        preserved current next after (List.mem_cons_of_mem _ member)
      have rest_exactly : ∀ current next, next ∈ rest → inv current → good current →
          (good (commit step current next) ↔ allowed current next) := fun current next member =>
        exactly current next (List.mem_cons_of_mem _ member)
      constructor
      · intro all_good current next taken
        have good_next : good (commit step state input) :=
          all_good _ ((reached_cons _ _ _ _).mpr (Or.inr ⟨[], rest, rfl, rfl⟩))
        rcases (taken_cons _ _ _ _ _).mp taken with ⟨rfl, rfl⟩ | later
        · exact here.mp good_next
        · refine (ih next_inv good_next rest_preserved rest_exactly).mp ?_ current next later
          intro reached prefix_of
          exact all_good reached ((reached_cons _ _ _ _).mpr (Or.inr prefix_of))
      · intro all_allowed reached prefix_of
        have good_next := here.mpr
          (all_allowed state input ((taken_cons _ _ _ _ _).mpr (Or.inl ⟨rfl, rfl⟩)))
        rcases (reached_cons _ _ _ _).mp prefix_of with rfl | later
        · exact start
        · refine (ih next_inv good_next rest_preserved rest_exactly).mpr ?_ reached later
          intro current next taken
          exact all_allowed current next ((taken_cons _ _ _ _ _).mpr (Or.inr taken))

section Totals

/-- What the successful transactions of a run add up to. -/
def total (step : σ → ι → Except ε σ) (measure : σ → ι → Nat) (state : σ) : List ι → Nat
  | [] => 0
  | input :: rest =>
      (if (step state input).isOk then measure state input else 0) +
        total step measure (commit step state input) rest

theorem total_of_ok {measure : σ → ι → Nat} {state next : σ} {input : ι} (rest : List ι)
    (success : step state input = .ok next) :
    total step measure state (input :: rest) = measure state input + total step measure next rest := by
  have done : (step state input).isOk = true := by
    rw [success]
    rfl
  simp only [total, done, ↓reduceIte, commit_of_ok success]

theorem total_of_error {measure : σ → ι → Nat} {state : σ} {input : ι} (rest : List ι) {reason : ε}
    (failed : step state input = .error reason) :
    total step measure state (input :: rest) = total step measure state rest := by
  have undone : (step state input).isOk = false := by
    rw [failed]
    rfl
  simp only [total, undone, Bool.false_eq_true, ↓reduceIte, Nat.zero_add, commit_of_error failed]

/-- A quantity that every successful step moves by its measure moves by the total
over a run. -/
theorem run_total {inv : σ → Prop} {quantity : σ → Int} {measure : σ → ι → Nat} {state : σ}
    {inputs : List ι} (holds : inv state)
    (preserved : ∀ current input next, Taken step state inputs current input → inv current →
      step current input = .ok next → inv next)
    (moves : ∀ current input next, Taken step state inputs current input → inv current →
      step current input = .ok next → quantity next = quantity current + measure current input) :
    quantity (run step state inputs) = quantity state + total step measure state inputs := by
  induction inputs generalizing state with
  | nil => exact (Int.add_zero _).symm
  | cons input rest ih =>
      have later : ∀ {current : σ} {input' : ι},
          Taken step (commit step state input) rest current input' →
            Taken step state (input :: rest) current input' :=
        fun taken => (taken_cons _ _ _ _ _).mpr (Or.inr taken)
      have now : Taken step state (input :: rest) state input :=
        (taken_cons _ _ _ _ _).mpr (Or.inl ⟨rfl, rfl⟩)
      rcases commit_cases step state input with success | ⟨⟨reason, failed⟩, unchanged⟩
      · have rest_total := ih (preserved state input _ now holds success)
          (fun current input' next taken => preserved current input' next (later taken))
          (fun current input' next taken => moves current input' next (later taken))
        have first := moves state input _ now holds success
        rw [total_of_ok rest success, run_cons, rest_total, first]
        omega
      · have still : inv (commit step state input) := by
          rw [unchanged]
          exact holds
        have rest_total := ih still
          (fun current input' next taken => preserved current input' next (later taken))
          (fun current input' next taken => moves current input' next (later taken))
        rw [total_of_error rest failed, run_cons, rest_total, unchanged]

theorem total_add (first second : σ → ι → Nat) (state : σ) (inputs : List ι) :
    total step (fun current input => first current input + second current input) state inputs =
      total step first state inputs + total step second state inputs := by
  induction inputs generalizing state with
  | nil => rfl
  | cons input rest ih =>
      rcases commit_cases step state input with success | ⟨⟨reason, failed⟩, unchanged⟩
      · rw [total_of_ok rest success, total_of_ok rest success, total_of_ok rest success, ih]
        omega
      · rw [total_of_error rest failed, total_of_error rest failed, total_of_error rest failed, ih]

/-- A quantity that every successful step credits and debits is, after a run, what
was credited less what was debited. -/
theorem run_net {inv : σ → Prop} {quantity : σ → Nat} {credit debit : σ → ι → Nat} {state : σ}
    {inputs : List ι} (holds : inv state)
    (preserved : ∀ current input next, inv current → step current input = .ok next → inv next)
    (moves : ∀ current input next, inv current → step current input = .ok next →
      quantity next + debit current input = quantity current + credit current input) :
    quantity (run step state inputs) + total step debit state inputs =
      quantity state + total step credit state inputs := by
  induction inputs generalizing state with
  | nil => rfl
  | cons input rest ih =>
      rcases commit_cases step state input with success | ⟨⟨reason, failed⟩, unchanged⟩
      · have later := ih (preserved state input _ holds success)
        have here := moves state input _ holds success
        rw [total_of_ok rest success, total_of_ok rest success, run_cons]
        omega
      · have still : inv (commit step state input) := by
          rw [unchanged]
          exact holds
        have later := ih still
        rw [unchanged] at later
        rw [total_of_error rest failed, total_of_error rest failed, run_cons, unchanged]
        exact later

end Totals

section Accepted

/-- The transactions of a run that succeed. -/
def accepted (step : σ → ι → Except ε σ) (state : σ) : List ι → List ι
  | [] => []
  | input :: rest =>
      if (step state input).isOk then input :: accepted step (commit step state input) rest
      else accepted step (commit step state input) rest

theorem accepted_of_ok {state next : σ} {input : ι} (rest : List ι)
    (success : step state input = .ok next) :
    accepted step state (input :: rest) = input :: accepted step next rest := by
  have done : (step state input).isOk = true := by
    rw [success]
    rfl
  simp only [accepted, done, ↓reduceIte, commit_of_ok success]

theorem accepted_of_error {state : σ} {input : ι} (rest : List ι) {reason : ε}
    (failed : step state input = .error reason) :
    accepted step state (input :: rest) = accepted step state rest := by
  have undone : (step state input).isOk = false := by
    rw [failed]
    rfl
  simp only [accepted, undone, Bool.false_eq_true, ↓reduceIte, commit_of_error failed]

theorem accepted_sublist (state : σ) (inputs : List ι) : (accepted step state inputs).Sublist inputs := by
  induction inputs generalizing state with
  | nil => exact List.Sublist.refl []
  | cons input rest ih =>
      unfold accepted
      split
      · exact (ih _).cons_cons input
      · exact (ih _).cons input

theorem accepted_append (state : σ) (first second : List ι) :
    accepted step state (first ++ second) =
      accepted step state first ++ accepted step (run step state first) second := by
  induction first generalizing state with
  | nil => rfl
  | cons input rest ih =>
      rw [List.cons_append, run_cons]
      rcases commit_cases step state input with success | ⟨⟨reason, failed⟩, _⟩
      · rw [accepted_of_ok _ success, accepted_of_ok _ success, ih, List.cons_append]
      · rw [accepted_of_error _ failed, accepted_of_error _ failed, commit_of_error failed, ih]

theorem accepted_snoc_of_ok {state next : σ} {inputs : List ι} {input : ι}
    (success : step (run step state inputs) input = .ok next) :
    accepted step state (inputs ++ [input]) = accepted step state inputs ++ [input] := by
  rw [accepted_append, accepted_of_ok [] success]
  rfl

theorem accepted_snoc_of_error {state : σ} {inputs : List ι} {input : ι} {reason : ε}
    (failed : step (run step state inputs) input = .error reason) :
    accepted step state (inputs ++ [input]) = accepted step state inputs := by
  rw [accepted_append, accepted_of_error [] failed]
  exact List.append_nil _

/-- Inputs that go through one after the other are all accepted. -/
theorem accepted_of_foldlM {state last : σ} {inputs : List ι}
    (passes : inputs.foldlM step state = .ok last) : accepted step state inputs = inputs := by
  induction inputs generalizing state with
  | nil => rfl
  | cons input rest ih =>
      rw [List.foldlM_cons] at passes
      cases outcome : step state input with
      | ok next =>
          rw [outcome] at passes
          rw [accepted_of_ok rest outcome, ih passes]
      | error reason =>
          rw [outcome] at passes
          cases passes

/-- What relates a state to the history that led to it: it holds at every point
of a run if each successful step carries it to the history with that step. -/
theorem history_invariant {inv : σ → List ι → Prop} {state : σ} {inputs : List ι}
    (holds : inv state [])
    (preserved : ∀ before input after next, inputs = before ++ input :: after →
      inv (run step state before) (accepted step state before) →
      step (run step state before) input = .ok next →
      inv next (accepted step state before ++ [input])) :
    ∀ before after, inputs = before ++ after →
      inv (run step state before) (accepted step state before) := by
  intro before
  induction before using List.reverseRecOn with
  | nil =>
      intro _ _
      exact holds
  | append_singleton before input ih =>
      intro after split
      have earlier : inputs = before ++ input :: after := by
        rw [split, List.append_assoc]
        rfl
      have here := ih (input :: after) earlier
      rw [run_snoc]
      rcases commit_cases step (run step state before) input with
        success | ⟨⟨reason, failed⟩, unchanged⟩
      · rw [accepted_snoc_of_ok success]
        exact preserved before input after _ earlier here success
      · rw [accepted_snoc_of_error failed, unchanged]
        exact here

variable {τ δ : Type} {step' : τ → ι → Except δ τ}

/-- One machine carries out another when each step of the one is a step of the
other on what `view` shows of the state. -/
theorem run_simulates {inv : σ → Prop} {view : σ → τ} {state : σ} {inputs : List ι}
    (holds : inv state)
    (preserved : ∀ current input next, input ∈ inputs → inv current →
      step current input = .ok next → inv next)
    (simulates : ∀ current input, input ∈ inputs → inv current →
      (step current input).toOption.map view = (step' (view current) input).toOption) :
    view (run step state inputs) = run step' (view state) inputs ∧
      accepted step state inputs = accepted step' (view state) inputs := by
  induction inputs generalizing state with
  | nil => exact ⟨rfl, rfl⟩
  | cons input rest ih =>
      have here := simulates state input List.mem_cons_self holds
      have next_inv : inv (commit step state input) :=
        commit_invariant holds (preserved state input · List.mem_cons_self holds)
      have ⟨last, same⟩ := ih next_inv
        (fun current next after member => preserved current next after (List.mem_cons_of_mem _ member))
        (fun current next member => simulates current next (List.mem_cons_of_mem _ member))
      cases outcome : step state input with
      | ok next =>
          cases outcome' : step' (view state) input with
          | ok next' =>
              simp only [outcome, outcome', Except.toOption, Option.map_some, Option.some.injEq] at here
              rw [commit_of_ok outcome, here] at last same
              rw [run_cons, run_cons, commit_of_ok outcome, commit_of_ok outcome',
                accepted_of_ok rest outcome, accepted_of_ok rest outcome', last, same]
              exact ⟨rfl, rfl⟩
          | error reason' =>
              simp only [outcome, outcome', Except.toOption, Option.map_some, reduceCtorEq] at here
      | error reason =>
          cases outcome' : step' (view state) input with
          | ok next' =>
              simp only [outcome, outcome', Except.toOption, Option.map_none, reduceCtorEq] at here
          | error reason' =>
              rw [commit_of_error outcome] at last same
              rw [run_cons, run_cons, commit_of_error outcome, commit_of_error outcome',
                accepted_of_error rest outcome, accepted_of_error rest outcome', last, same]
              exact ⟨rfl, rfl⟩

end Accepted

section Ghost

variable {γ : Type}

/-- The same step with a record of the past beside the state. -/
def withGhost (step : σ → ι → Except ε σ) (record : σ → ι → γ → γ) (state : σ × γ) (input : ι) :
    Except ε (σ × γ) :=
  (step state.1 input).map fun next => (next, record state.1 input state.2)

theorem withGhost_eq_ok {record : σ → ι → γ → γ} {state next : σ × γ} {input : ι} :
    withGhost step record state input = .ok next ↔
      step state.1 input = .ok next.1 ∧ next.2 = record state.1 input state.2 := by
  unfold withGhost
  cases step state.1 input with
  | error reason => simp only [Except.map, reduceCtorEq, false_and]
  | ok reached =>
      simp only [Except.map, Except.ok.injEq]
      constructor
      · intro same
        rw [← same]
        exact ⟨rfl, rfl⟩
      · intro ⟨state_same, ghost_same⟩
        rw [state_same, ← ghost_same]

end Ghost

section Isolation

variable {ν : Type}

/-- The two conditions under which one part of the state is isolated: inputs
of others leave its view alone, and what its own inputs do to it, verdict
included, depends on nothing but the view. Both may use an invariant. -/
structure Isolated (step : σ → ι → Except ε σ) (inv : σ → Prop) (mine : ι → Bool)
    (view : σ → ν) (inputs : List ι) : Prop where
  preserved : ∀ state input next, input ∈ inputs → inv state →
    step state input = .ok next → inv next
  foreign : ∀ state input next, input ∈ inputs → mine input = false → inv state →
    step state input = .ok next → view next = view state
  own : ∀ left right input, input ∈ inputs → mine input = true → inv left → inv right →
    view left = view right → (step left input).map view = (step right input).map view

theorem Isolated.tail {inv : σ → Prop} {mine : ι → Bool} {view : σ → ν} {input : ι}
    {rest : List ι} (isolated : Isolated step inv mine view (input :: rest)) :
    Isolated step inv mine view rest where
  preserved state next after member := isolated.preserved state next after (List.mem_cons_of_mem _ member)
  foreign state next after member := isolated.foreign state next after (List.mem_cons_of_mem _ member)
  own left right next member := isolated.own left right next (List.mem_cons_of_mem _ member)

private theorem own_commit {inv : σ → Prop} {mine : ι → Bool} {view : σ → ν} {input : ι}
    {rest : List ι} (isolated : Isolated step inv mine view (input :: rest)) {left right : σ}
    (own : mine input = true) (left_inv : inv left) (right_inv : inv right)
    (same : view left = view right) :
    (step left input).map (fun _ => ()) = (step right input).map (fun _ => ()) ∧
      view (commit step left input) = view (commit step right input) := by
  have step_same := isolated.own left right input List.mem_cons_self own left_inv right_inv same
  unfold commit
  cases first : step left input <;> cases second : step right input <;>
    simp only [first, second, Except.map, Except.ok.injEq, Except.error.injEq, reduceCtorEq] at step_same
  · exact ⟨congrArg Except.error step_same, same⟩
  · exact ⟨rfl, step_same⟩

/-- Dropping every foreign input changes neither the view at the end of the run
nor the verdict of any input of one's own. -/
theorem Isolated.replay {inv : σ → Prop} {mine : ι → Bool} {view : σ → ν} {inputs : List ι}
    (isolated : Isolated step inv mine view inputs) {left right : σ} (left_inv : inv left)
    (right_inv : inv right) (same : view left = view right) :
    view (run step left inputs) = view (run step right (inputs.filter mine)) ∧
      (trace step left inputs).filter (fun entry => mine entry.1) =
        trace step right (inputs.filter mine) := by
  induction inputs generalizing left right with
  | nil => exact ⟨same, rfl⟩
  | cons input rest ih =>
      have next_inv : inv (commit step left input) :=
        commit_invariant left_inv (isolated.preserved left input · List.mem_cons_self left_inv)
      cases own : mine input with
      | true =>
          obtain ⟨verdict, views⟩ := own_commit isolated own left_inv right_inv same
          have other_inv : inv (commit step right input) :=
            commit_invariant right_inv (isolated.preserved right input · List.mem_cons_self right_inv)
          obtain ⟨last, traces⟩ := ih isolated.tail next_inv other_inv views
          rw [List.filter_cons_of_pos own]
          simp only [run_cons, trace, verdict, last, true_and]
          rw [List.filter_cons_of_pos (by simpa using own), traces]
      | false =>
          have unchanged : view (commit step left input) = view left := by
            rcases commit_cases step left input with success | ⟨_, rolled_back⟩
            · exact isolated.foreign left input _ List.mem_cons_self own left_inv success
            · rw [rolled_back]
          obtain ⟨last, traces⟩ := ih isolated.tail next_inv right_inv (unchanged.trans same)
          rw [List.filter_cons_of_neg (by simp [own])]
          simp only [run_cons, trace, last, true_and]
          rw [List.filter_cons_of_neg (by simp [own]), traces]

end Isolation

end Run
