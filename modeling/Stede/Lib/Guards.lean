import Mathlib

set_option autoImplicit false

/- Sequences of guarded updates: each may refuse, and otherwise replaces the
content of one key. Where no update shows in a later verdict, the sequence is the
conjunction of its members. -/

structure Guard (κ ν ε : Type) where
  key : κ
  verdict : (κ → ν) → Except ε ν

namespace Guard

variable {κ ν ε : Type} [DecidableEq κ]

def apply (guard : Guard κ ν ε) (state : κ → ν) : Except ε (κ → ν) :=
  (guard.verdict state).map (Function.update state guard.key)

/-- The guards in turn, the first refusal ending the sequence. -/
def applyAll : List (Guard κ ν ε) → (κ → ν) → Except ε (κ → ν)
  | [], state => .ok state
  | guard :: rest, state => guard.apply state >>= applyAll rest

/-- What `first` writes is not what `second` writes and does not change what
`second` answers, in the states of the invariant. -/
structure Unseen (inv : (κ → ν) → Prop) (first second : Guard κ ν ε) : Prop where
  apart : first.key ≠ second.key
  blind : ∀ state value, inv state → first.verdict state = .ok value →
    second.verdict (Function.update state first.key value) = second.verdict state

def Preserves (inv : (κ → ν) → Prop) (guard : Guard κ ν ε) : Prop :=
  ∀ state value, inv state → guard.verdict state = .ok value →
    inv (Function.update state guard.key value)

theorem apply_eq_ok (guard : Guard κ ν ε) (state next : κ → ν) :
    guard.apply state = .ok next ↔
      ∃ value, guard.verdict state = .ok value ∧ next = Function.update state guard.key value := by
  unfold apply
  cases outcome : guard.verdict state with
  | error reason => simp [Except.map]
  | ok value =>
      simp only [Except.map, Except.ok.injEq, exists_eq_left']
      exact eq_comm

theorem applyAll_cons (guard : Guard κ ν ε) (rest : List (Guard κ ν ε)) (state next : κ → ν) :
    applyAll (guard :: rest) state = .ok next ↔
      ∃ value, guard.verdict state = .ok value ∧
        applyAll rest (Function.update state guard.key value) = .ok next := by
  rw [applyAll]
  cases outcome : guard.verdict state with
  | error reason => simp [apply, outcome, Except.map, bind, Except.bind]
  | ok value => simp [apply, outcome, Except.map, bind, Except.bind]

/-- A sequence succeeds exactly when each guard does alone on the initial state,
and then holds on each guard's key what that guard alone would write. -/
theorem applyAll_eq_ok {inv : (κ → ν) → Prop} {guards : List (Guard κ ν ε)} {state next : κ → ν}
    (unseen : guards.Pairwise (Unseen inv)) (preserved : ∀ guard ∈ guards, Preserves inv guard)
    (holds : inv state) :
    applyAll guards state = .ok next ↔
      (∀ guard ∈ guards, guard.verdict state = .ok (next guard.key)) ∧
        ∀ key, key ∉ guards.map Guard.key → next key = state key := by
  induction guards generalizing state with
  | nil =>
      simp only [applyAll, Except.ok.injEq, List.not_mem_nil, false_implies, implies_true,
        List.map_nil, not_false_eq_true, forall_const, true_and]
      exact ⟨fun same key => (congrFun same key).symm, fun same => funext fun key => (same key).symm⟩
  | cons guard rest ih =>
      have ⟨first, later⟩ := List.pairwise_cons.mp unseen
      have rest_preserved : ∀ other ∈ rest, Preserves inv other := fun other member =>
        preserved other (List.mem_cons_of_mem _ member)
      have fresh : guard.key ∉ rest.map Guard.key := by
        intro member
        obtain ⟨other, inside, same⟩ := List.mem_map.mp member
        exact (first other inside).apart same.symm
      rw [applyAll_cons]
      constructor
      · intro ⟨value, accepted, success⟩
        have after := preserved guard List.mem_cons_self state value holds accepted
        have ⟨alone, frame⟩ := (ih later rest_preserved after).mp success
        have written : next guard.key = value := by
          rw [frame guard.key fresh, Function.update_self]
        refine ⟨?_, ?_⟩
        · intro other member
          rcases List.mem_cons.mp member with here | inside
          · rw [here, written]
            exact accepted
          · rw [← (first other inside).blind state value holds accepted]
            exact alone other inside
        · intro key outside
          rw [List.map_cons, List.mem_cons, not_or] at outside
          rw [frame key outside.2, Function.update_of_ne outside.1]
      · intro ⟨alone, frame⟩
        have accepted := alone guard List.mem_cons_self
        have after := preserved guard List.mem_cons_self state _ holds accepted
        refine ⟨next guard.key, accepted, (ih later rest_preserved after).mpr ⟨?_, ?_⟩⟩
        · intro other inside
          rw [(first other inside).blind state _ holds accepted]
          exact alone other (List.mem_cons_of_mem _ inside)
        · intro key outside
          by_cases here : key = guard.key
          · rw [here, Function.update_self]
          · rw [Function.update_of_ne here]
            apply frame
            rw [List.map_cons, List.mem_cons, not_or]
            exact ⟨here, outside⟩

section Order

variable {inv : (κ → ν) → Prop} {guards others : List (Guard κ ν ε)} {state : κ → ν}
  (unseen : guards.Pairwise fun first second => Unseen inv first second ∧ Unseen inv second first)
  (preserved : ∀ guard ∈ guards, Preserves inv guard) (holds : inv state)
include unseen preserved holds

/-- The order of independent guards does not matter. -/
theorem applyAll_perm (reordered : others.Perm guards) (next : κ → ν) :
    applyAll others state = .ok next ↔ applyAll guards state = .ok next := by
  have symmetric : others.Pairwise fun first second =>
      Unseen inv first second ∧ Unseen inv second first :=
    (reordered.pairwise_iff fun both => ⟨both.2, both.1⟩).mpr unseen
  rw [applyAll_eq_ok (symmetric.imp And.left)
      (fun guard member => preserved guard (reordered.mem_iff.mp member)) holds,
    applyAll_eq_ok (unseen.imp And.left) preserved holds]
  simp only [reordered.mem_iff, (reordered.map Guard.key).mem_iff]

/-- A guard that writes back what it finds can be left out. -/
theorem applyAll_of_idle {guard : Guard κ ν ε} (split : guards.Perm (guard :: others))
    (idle : guard.verdict state = .ok (state guard.key)) (next : κ → ν) :
    applyAll others state = .ok next ↔ applyAll guards state = .ok next := by
  rw [← applyAll_perm unseen preserved holds split.symm next, applyAll_cons, idle]
  simp only [Except.ok.injEq, exists_eq_left', Function.update_eq_self]

end Order

end Guard
