import Mathlib

set_option autoImplicit false

/- Two partial maps kept in lockstep, each the inverse of the other on the keys of
interest. -/
namespace Inverse

variable {α β : Type}

def InverseOn (left : Set α) (right : Set β) (forward : α → Option β) (backward : β → Option α) :
    Prop :=
  ∀ a ∈ left, ∀ b ∈ right, forward a = some b ↔ backward b = some a

theorem InverseOn.congr {left : Set α} {right : Set β} {forward forward' : α → Option β}
    {backward backward' : β → Option α} (inverse : InverseOn left right forward backward)
    (same : Set.EqOn forward' forward left) (same' : Set.EqOn backward' backward right) :
    InverseOn left right forward' backward' := by
  intro a inLeft b inRight
  rw [same inLeft, same' inRight]
  exact inverse a inLeft b inRight

theorem InverseOn.empty (left : Set α) (right : Set β) :
    InverseOn left right (fun _ => none) (fun _ => none) := by
  intro a _ b _
  simp only [reduceCtorEq]

variable [DecidableEq α] [DecidableEq β] {left : Set α} {right : Set β}
  {forward : α → Option β} {backward : β → Option α} {a : α} {b c : β}

/-- Two free keys can be linked. -/
theorem InverseOn.link (inverse : InverseOn left right forward backward) (inLeft : a ∈ left)
    (inRight : b ∈ right) (free : forward a = none) (free' : backward b = none) :
    InverseOn left right (Function.update forward a (some b))
      (Function.update backward b (some a)) := by
  intro x xLeft y yRight
  by_cases here : x = a
  · by_cases there : y = b
    · simp only [here, there, Function.update_self]
    · have vacant : backward y ≠ some a := by
        intro taken
        rw [(inverse a inLeft y yRight).mpr taken] at free
        cases free
      simp only [here, Function.update_self, Function.update_of_ne there, Option.some.injEq, vacant,
        iff_false]
      exact fun same => there same.symm
  · by_cases there : y = b
    · have vacant : forward x ≠ some b := by
        intro taken
        rw [(inverse x xLeft b inRight).mp taken] at free'
        cases free'
      simp only [there, Function.update_self, Function.update_of_ne here, Option.some.injEq, vacant,
        false_iff]
      exact fun same => here same.symm
    · rw [Function.update_of_ne here, Function.update_of_ne there]
      exact inverse x xLeft y yRight

/-- A linked pair can be separated. -/
theorem InverseOn.unlink (inverse : InverseOn left right forward backward) (inLeft : a ∈ left)
    (inRight : b ∈ right) (linked : forward a = some b) :
    InverseOn left right (Function.update forward a none) (Function.update backward b none) := by
  intro x xLeft y yRight
  by_cases here : x = a
  · by_cases there : y = b
    · simp only [here, there, Function.update_self, reduceCtorEq]
    · have elsewhere : backward y ≠ some a := by
        intro taken
        have both := linked.symm.trans ((inverse a inLeft y yRight).mpr taken)
        exact there (Option.some.inj both).symm
      simp only [here, Function.update_self, Function.update_of_ne there, reduceCtorEq, elsewhere]
  · by_cases there : y = b
    · have elsewhere : forward x ≠ some b := by
        intro taken
        have both := ((inverse a inLeft b inRight).mp linked).symm.trans
          ((inverse x xLeft b inRight).mp taken)
        exact here (Option.some.inj both).symm
      simp only [there, Function.update_self, Function.update_of_ne here, reduceCtorEq, elsewhere]
    · rw [Function.update_of_ne here, Function.update_of_ne there]
      exact inverse x xLeft y yRight

/-- The left key of a pair can move to a free right key. -/
theorem InverseOn.relink (inverse : InverseOn left right forward backward) (inLeft : a ∈ left)
    (inRight : b ∈ right) (inRight' : c ∈ right) (linked : forward a = some b)
    (free : backward c = none) :
    InverseOn left right (Function.update forward a (some c))
      (Function.update (Function.update backward b none) c (some a)) := by
  have apart : c ≠ b := by
    intro same
    rw [same, (inverse a inLeft b inRight).mp linked] at free
    cases free
  have separated := inverse.unlink inLeft inRight linked
  have joined := separated.link inLeft inRight' (Function.update_self _ _ _)
    ((Function.update_of_ne apart _ _).trans free)
  rw [Function.update_idem] at joined
  exact joined

end Inverse
