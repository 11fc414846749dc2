import Mathlib

set_option autoImplicit false

/- A table of slots, some of them holes, as the finite set of what it holds. -/
namespace Slots

variable {α : Type} [DecidableEq α] (hole : α)

/-- What the slots that are not holes hold, in order. -/
def occupied (slots : List α) : List α := slots.filter (· ≠ hole)

def members (slots : List α) : Finset α := (occupied hole slots).toFinset

/-- The first slot that holds `entry`. A hole is never found. -/
def find (slots : List α) (entry : α) : Option Nat :=
  slots.findIdx? fun slot => slot = entry ∧ slot ≠ hole

def firstHole (slots : List α) : Option Nat := slots.findIdx? fun slot => slot = hole

variable {hole} {slots : List α} {entry : α} {index : Nat}

theorem mem_occupied : entry ∈ occupied hole slots ↔ entry ∈ slots ∧ entry ≠ hole := by
  simp only [occupied, List.mem_filter, decide_eq_true_eq]

theorem mem_members : entry ∈ members hole slots ↔ entry ∈ slots ∧ entry ≠ hole := by
  rw [members, List.mem_toFinset, mem_occupied]

theorem members_card (distinct : (occupied hole slots).Nodup) :
    (members hole slots).card = (occupied hole slots).length :=
  List.toFinset_card_of_nodup distinct

theorem card_le_length (slots : List α) : (members hole slots).card ≤ slots.length :=
  (List.toFinset_card_le _).trans (List.length_filter_le _ _)

theorem find_eq_none : find hole slots entry = none ↔ entry ∉ members hole slots := by
  rw [find, List.findIdx?_eq_none_iff, mem_members]
  constructor
  · intro absent ⟨inside, filled⟩
    exact of_decide_eq_false (absent entry inside) ⟨rfl, filled⟩
  · intro outside slot inside
    apply decide_eq_false
    intro ⟨same, filled⟩
    rw [same] at inside filled
    exact outside ⟨inside, filled⟩

theorem find_eq_some (found : find hole slots entry = some index) :
    slots[index]? = some entry ∧ entry ≠ hole := by
  obtain ⟨inside, holds, _⟩ := List.findIdx?_eq_some_iff_getElem.mp found
  have ⟨same, filled⟩ := of_decide_eq_true holds
  rw [same] at filled
  exact ⟨by rw [List.getElem?_eq_getElem inside, same], filled⟩

theorem firstHole_eq_some (found : firstHole hole slots = some index) : slots[index]? = some hole := by
  obtain ⟨inside, holds, _⟩ := List.findIdx?_eq_some_iff_getElem.mp found
  rw [List.getElem?_eq_getElem inside, of_decide_eq_true holds]

/-- There is no hole exactly when the table is full. -/
theorem firstHole_eq_none (distinct : (occupied hole slots).Nodup) :
    firstHole hole slots = none ↔ (members hole slots).card = slots.length := by
  rw [firstHole, List.findIdx?_eq_none_iff, members_card distinct, occupied,
    List.length_filter_eq_length_iff]
  refine forall_congr' fun slot => forall_congr' fun _ => ?_
  rw [decide_eq_false_iff_not, decide_eq_true_eq]

/-- Filling a hole adds one entry. -/
theorem occupied_set (empty : slots[index]? = some hole) (filled : entry ≠ hole) :
    (occupied hole (slots.set index entry)).Perm (entry :: occupied hole slots) := by
  induction slots generalizing index with
  | nil => exact nomatch empty
  | cons head rest ih =>
      cases index with
      | zero =>
          have same : head = hole := Option.some.inj empty
          simp only [List.set_cons_zero, occupied, same, ne_eq, filled, not_false_eq_true,
            decide_true, List.filter_cons_of_pos, not_true_eq_false, decide_false,
            Bool.false_eq_true, List.filter_cons_of_neg]
          exact List.Perm.refl _
      | succ index =>
          have later := ih empty
          rw [List.set_cons_succ]
          by_cases same : head = hole
          · simp only [occupied, same, ne_eq, not_true_eq_false, decide_false, Bool.false_eq_true,
              not_false_eq_true, List.filter_cons_of_neg]
            exact later
          · simp only [occupied, ne_eq, same, not_false_eq_true, decide_true,
              List.filter_cons_of_pos]
            exact (later.cons head).trans (List.Perm.swap entry head _)

/-- Emptying a slot takes one entry away. -/
theorem occupied_clear (holds : slots[index]? = some entry) (filled : entry ≠ hole) :
    (occupied hole slots).Perm (entry :: occupied hole (slots.set index hole)) := by
  have ⟨inside, found⟩ := List.getElem?_eq_some_iff.mp holds
  have cleared : (slots.set index hole)[index]? = some hole := by
    rw [List.getElem?_set_self inside]
  have refilled : (slots.set index hole).set index entry = slots := by
    rw [List.set_set, ← found]
    exact List.set_getElem_self inside
  have perm := occupied_set cleared filled
  rw [refilled] at perm
  exact perm

theorem insert_spec (distinct : (occupied hole slots).Nodup) (empty : slots[index]? = some hole)
    (filled : entry ≠ hole) (fresh : entry ∉ members hole slots) :
    (occupied hole (slots.set index entry)).Nodup ∧
      members hole (slots.set index entry) = insert entry (members hole slots) := by
  have perm := occupied_set empty filled
  have outside : entry ∉ occupied hole slots := by
    rw [← List.mem_toFinset]
    exact fresh
  refine ⟨perm.nodup_iff.mpr (List.nodup_cons.mpr ⟨outside, distinct⟩), ?_⟩
  rw [members, List.toFinset_eq_of_perm _ _ perm, List.toFinset_cons]
  rfl

theorem erase_spec (distinct : (occupied hole slots).Nodup) (holds : slots[index]? = some entry)
    (filled : entry ≠ hole) :
    (occupied hole (slots.set index hole)).Nodup ∧
      members hole (slots.set index hole) = (members hole slots).erase entry := by
  have perm := occupied_clear holds filled
  have ⟨outside, rest⟩ := List.nodup_cons.mp (perm.nodup_iff.mp distinct)
  refine ⟨rest, ?_⟩
  have outside' : entry ∉ (occupied hole (slots.set index hole)).toFinset := by
    rw [List.mem_toFinset]
    exact outside
  rw [members, members, List.toFinset_eq_of_perm _ _ perm, List.toFinset_cons,
    Finset.erase_insert outside']

end Slots
