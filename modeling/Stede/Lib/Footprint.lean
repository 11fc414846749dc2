import Stede.Lib.Guards
import Stede.Lib.Run

set_option autoImplicit false

/- Steps over a keyed state that touch few of its keys: what such a step cannot
change, what it cannot notice, and the isolation that follows over runs. -/

variable {κ ν ε α : Type}

/-- The answer depends on nothing but the `reads` part of the state. -/
def Local (reads : Set κ) (answer : (κ → ν) → α) : Prop :=
  ∀ left right, Set.EqOn left right reads → answer left = answer right

namespace Local

variable {reads : Set κ}

theorem const (answer : α) : Local reads fun _ : κ → ν => answer := fun _ _ _ => rfl

theorem read {key : κ} (inside : key ∈ reads) (answer : ν → α) :
    Local reads fun state => answer (state key) :=
  fun _ _ agree => congrArg answer (agree inside)

end Local

/-- The part of a state that lies in `visible`. -/
def shown (visible : Set κ) (state : κ → ν) : visible → ν := fun key => state key

theorem shown_eq_iff (visible : Set κ) (left right : κ → ν) :
    shown visible left = shown visible right ↔ Set.EqOn left right visible := by
  constructor
  · intro same key inside
    exact congrFun same ⟨key, inside⟩
  · intro same
    funext key
    exact same key.property

/-- The step changes nothing outside `writes`, and its verdict and what it leaves
on `reads` depend on nothing but `reads`. -/
structure Footprint (step : (κ → ν) → Except ε (κ → ν)) (writes reads : Set κ) : Prop where
  included : writes ⊆ reads
  frame : ∀ state next, step state = .ok next → Set.EqOn next state writesᶜ
  blind : Local reads fun state => (step state).map (shown reads)

namespace Footprint

variable {step first second : (κ → ν) → Except ε (κ → ν)} {writes writes' reads visible : Set κ}

/-- Both runs are refused for the same reason, or both succeed and agree. -/
theorem same_verdict {left right : κ → ν}
    (same : (step left).map (shown reads) = (step right).map (shown reads)) :
    (∃ reason, step left = .error reason ∧ step right = .error reason) ∨
      ∃ next next', step left = .ok next ∧ step right = .ok next' ∧ Set.EqOn next next' reads := by
  cases first : step left with
  | error reason =>
      cases second : step right with
      | error reason' =>
          rw [first, second] at same
          exact Or.inl ⟨reason, rfl, by rw [Except.error.inj same]⟩
      | ok next' =>
          rw [first, second] at same
          exact nomatch same
  | ok next =>
      cases second : step right with
      | error reason' =>
          rw [first, second] at same
          exact nomatch same
      | ok next' =>
          rw [first, second] at same
          exact Or.inr ⟨next, next', rfl, rfl, (shown_eq_iff _ _ _).mp (Except.ok.inj same)⟩

/-- What a step leaves agrees on every part of the state that includes its reads. -/
theorem blind_of_subset (footprint : Footprint step writes reads) (included : reads ⊆ visible) :
    Local visible fun state => (step state).map (shown visible) := by
  intro left right agree
  rcases same_verdict (footprint.blind left right (agree.mono included)) with
    ⟨reason, refused, refused'⟩ | ⟨next, next', success, success', after⟩
  · show (step left).map _ = (step right).map _
    rw [refused, refused']
  · show (step left).map _ = (step right).map _
    rw [success, success']
    apply congrArg Except.ok
    apply (shown_eq_iff _ _ _).mpr
    intro key inside
    by_cases written : key ∈ writes
    · exact after (footprint.included written)
    · rw [footprint.frame left next success written, footprint.frame right next' success' written]
      exact agree inside

theorem mono (footprint : Footprint step writes reads) (more : writes ⊆ writes')
    (included : writes' ⊆ visible) (wider : reads ⊆ visible) : Footprint step writes' visible where
  included := included
  frame state next success := (footprint.frame state next success).mono
    (Set.compl_subset_compl.mpr more)
  blind := footprint.blind_of_subset wider

/-- A step that changes nothing. -/
theorem unchanged : Footprint (fun state : κ → ν => (.ok state : Except ε (κ → ν))) ∅ reads where
  included := Set.empty_subset reads
  frame state next success := by
    rw [← Except.ok.inj success]
    exact Set.eqOn_refl state _
  blind left right agree := congrArg Except.ok ((shown_eq_iff _ _ _).mpr agree)

/-- A step that overwrites one key. -/
theorem overwrite [DecidableEq κ] {key : κ} (value : ν) (inside : key ∈ reads) :
    Footprint (fun state : κ → ν => (.ok (Function.update state key value) : Except ε (κ → ν)))
      {key} reads where
  included := Set.singleton_subset_iff.mpr inside
  frame state next success := by
    intro other outside
    rw [← Except.ok.inj success]
    exact Function.update_of_ne outside value state
  blind left right agree := by
    apply congrArg Except.ok
    apply (shown_eq_iff _ _ _).mpr
    intro other visible
    by_cases here : other = key
    · rw [here, Function.update_self, Function.update_self]
    · rw [Function.update_of_ne here, Function.update_of_ne here]
      exact agree visible

/-- A step that first looks at what it reads. -/
theorem after {look : (κ → ν) → Except ε α} {next : α → (κ → ν) → Except ε (κ → ν)}
    (included : writes ⊆ reads) (looks : Local reads look)
    (each : ∀ state value, look state = .ok value → Footprint (next value) writes reads) :
    Footprint (fun state => look state >>= fun value => next value state) writes reads where
  included := included
  frame state last success := by
    cases found : look state with
    | error reason =>
        rw [found] at success
        exact nomatch success
    | ok value =>
        rw [found] at success
        exact (each state value found).frame state last success
  blind left right agree := by
    have same := looks left right agree
    cases found : look left with
    | error reason =>
        rw [found] at same
        simp only [found, ← same]
        rfl
    | ok value =>
        rw [found] at same
        simp only [found, ← same]
        exact (each left value found).blind left right agree

/-- One step after another. -/
theorem seq (begins : Footprint first writes reads) (goes : Footprint second writes' reads) :
    Footprint (fun state => first state >>= second) (writes ∪ writes') reads where
  included := Set.union_subset begins.included goes.included
  frame state last success := by
    cases started : first state with
    | error reason =>
        rw [started] at success
        exact nomatch success
    | ok middle =>
        rw [started] at success
        intro key outside
        have ⟨here, later⟩ := not_or.mp outside
        rw [goes.frame middle last success later]
        exact begins.frame state middle started here
  blind left right agree := by
    rcases same_verdict (begins.blind left right agree) with
      ⟨reason, refused, refused'⟩ | ⟨middle, middle', started, started', between⟩
    · show (first left >>= second).map _ = (first right >>= second).map _
      rw [refused, refused']
    · simp only [started, started']
      exact goes.blind middle middle' between

/-- A step that only answers. -/
theorem of_check {check : (κ → ν) → Except ε Unit} (looks : Local reads check)
    (answers : ∀ state, step state = check state >>= fun _ => .ok state) : Footprint step ∅ reads := by
  rw [funext answers]
  exact after (Set.empty_subset reads) looks fun _ _ _ => unchanged

section Updates

variable [DecidableEq κ] {key : κ} {verdict : (κ → ν) → Except ε ν}

/-- A step that overwrites one key by what it has worked out. -/
theorem of_write (inside : key ∈ reads) (looks : Local reads verdict)
    (writes : ∀ state, step state = verdict state >>= fun value => .ok (Function.update state key value)) :
    Footprint step {key} reads := by
  rw [funext writes]
  exact after (Set.singleton_subset_iff.mpr inside) looks fun _ value _ => overwrite value inside

theorem guard (guard : Guard κ ν ε) (inside : guard.key ∈ reads) (looks : Local reads guard.verdict) :
    Footprint guard.apply {guard.key} reads := by
  apply of_write inside looks
  intro state
  unfold Guard.apply
  cases guard.verdict state <;> rfl

/-- Guards in turn write their own keys at most. -/
theorem guards {guards : List (Guard κ ν ε)}
    (each : ∀ guard ∈ guards, guard.key ∈ reads ∧ Local reads guard.verdict) :
    Footprint (Guard.applyAll guards) {key | key ∈ guards.map Guard.key} reads := by
  induction guards with
  | nil => exact unchanged.mono (Set.empty_subset _) (fun _ member => nomatch member) subset_rfl
  | cons head rest ih =>
      have ⟨inside, looks⟩ := each head List.mem_cons_self
      have later := ih fun other member => each other (List.mem_cons_of_mem _ member)
      have both := (guard head inside looks).seq later
      apply both.mono _ _ subset_rfl
      · intro key written
        rcases written with here | later
        · exact List.mem_cons.mpr (Or.inl here)
        · exact List.mem_cons_of_mem _ later
      · intro key written
        obtain ⟨other, member, same⟩ := List.mem_map.mp written
        rw [← same]
        exact (each other member).1

end Updates

/-- Inputs that never touch each other's keys are isolated: what lies outside the
keys that the others write depends on one's own inputs alone. -/
theorem isolated {ι : Type} {step : (κ → ν) → ι → Except ε (κ → ν)} {mine : ι → Bool}
    {inputs : List ι} {writes reads : ι → Set κ} {foreign : Set κ}
    (footprints : ∀ input ∈ inputs, Footprint (step · input) (writes input) (reads input))
    (theirs : ∀ input ∈ inputs, mine input = false → writes input ⊆ foreign)
    (ours : ∀ input ∈ inputs, mine input = true → reads input ⊆ foreignᶜ) :
    Run.Isolated step (fun _ => True) mine (shown foreignᶜ) inputs where
  preserved _ _ _ _ _ _ := trivial
  foreign state input next member others _ success := by
    apply (shown_eq_iff _ _ _).mpr
    have outside := Set.compl_subset_compl.mpr (theirs input member others)
    exact ((footprints input member).frame state next success).mono outside
  own left right input member own _ _ same :=
    (footprints input member).blind_of_subset (ours input member own) left right
      ((shown_eq_iff _ _ _).mp same)

end Footprint
