import Mathlib

set_option autoImplicit false

/- Checked and saturating operations on machine integers, each specified by its
exact value over the naturals or the integers. -/
namespace Checked

/-- Unsigned addition, absent exactly when the sum does not fit. -/
def addU64 (left right : UInt64) : Option UInt64 :=
  if left.toNat + right.toNat < 2 ^ 64 then some (left + right) else none

/-- Unsigned subtraction, absent exactly when it would go below zero. -/
def subU64 (left right : UInt64) : Option UInt64 :=
  if right ≤ left then some (left - right) else none

/-- Unsigned subtraction clamped at zero. -/
def saturatingSubU64 (left right : UInt64) : UInt64 :=
  if right ≤ left then left - right else 0

/-- Signed subtraction, absent exactly when the difference does not fit. -/
def subI64 (left right : Int64) : Option Int64 :=
  if -2 ^ 63 ≤ left.toInt - right.toInt ∧ left.toInt - right.toInt < 2 ^ 63 then
    some (left - right)
  else none

theorem addU64_eq_some (left right total : UInt64) :
    addU64 left right = some total ↔ total.toNat = left.toNat + right.toNat := by
  unfold addU64
  split
  · rename_i fits
    have sum : (left + right).toNat = left.toNat + right.toNat := by
      rw [UInt64.toNat_add, Nat.mod_eq_of_lt fits]
    rw [Option.some.injEq, ← UInt64.toNat_inj, sum]
    exact eq_comm
  · rename_i overflow
    have bound := total.toNat_lt
    simp only [reduceCtorEq, false_iff]
    omega

theorem addU64_eq_none (left right : UInt64) :
    addU64 left right = none ↔ 2 ^ 64 ≤ left.toNat + right.toNat := by
  simp only [addU64, ite_eq_right_iff, reduceCtorEq, imp_false, not_lt]

theorem addU64_of_fits (left right : UInt64) (fits : left.toNat + right.toNat < 2 ^ 64) :
    ∃ total, addU64 left right = some total ∧ total.toNat = left.toNat + right.toNat := by
  have defined : addU64 left right = some (left + right) := by
    simp only [addU64, fits, ↓reduceIte]
  exact ⟨left + right, defined, (addU64_eq_some _ _ _).mp defined⟩

theorem subU64_eq_some (left right difference : UInt64) :
    subU64 left right = some difference ↔ difference.toNat + right.toNat = left.toNat := by
  unfold subU64
  split
  · rename_i ordered
    have exact_sub := UInt64.toNat_sub_of_le left right ordered
    have below := UInt64.le_iff_toNat_le.mp ordered
    rw [Option.some.injEq, ← UInt64.toNat_inj, exact_sub]
    omega
  · rename_i unordered
    have above := UInt64.le_iff_toNat_le.not.mp unordered
    simp only [reduceCtorEq, false_iff]
    omega

theorem subU64_of_le (left right : UInt64) (ordered : right.toNat ≤ left.toNat) :
    ∃ difference, subU64 left right = some difference ∧
      difference.toNat + right.toNat = left.toNat := by
  have defined : subU64 left right = some (left - right) := by
    simp only [subU64, UInt64.le_iff_toNat_le.mpr ordered, ↓reduceIte]
  exact ⟨left - right, defined, (subU64_eq_some _ _ _).mp defined⟩

theorem saturatingSubU64_toNat (left right : UInt64) :
    (saturatingSubU64 left right).toNat = left.toNat - right.toNat := by
  unfold saturatingSubU64
  split
  · rename_i ordered
    exact UInt64.toNat_sub_of_le left right ordered
  · rename_i unordered
    have above := UInt64.le_iff_toNat_le.not.mp unordered
    simp only [UInt64.toNat_zero]
    omega

theorem subI64_eq_some (left right difference : Int64) :
    subI64 left right = some difference ↔ difference.toInt = left.toInt - right.toInt := by
  unfold subI64
  split
  · rename_i fits
    have value : (left - right).toInt = left.toInt - right.toInt := by
      rw [Int64.toInt_sub]
      exact Int.bmod_eq_of_le (by omega) (by omega)
    rw [Option.some.injEq, ← Int64.toInt_inj, value]
    exact eq_comm
  · rename_i outside
    have low := difference.le_toInt
    have high := difference.toInt_lt
    simp only [reduceCtorEq, false_iff]
    omega

theorem subI64_of_fits (left right : Int64) (low : -2 ^ 63 ≤ left.toInt - right.toInt)
    (high : left.toInt - right.toInt < 2 ^ 63) :
    ∃ difference, subI64 left right = some difference ∧
      difference.toInt = left.toInt - right.toInt := by
  have defined : subI64 left right = some (left - right) := by
    simp only [subI64, low, high, and_self, ↓reduceIte]
  exact ⟨left - right, defined, (subI64_eq_some _ _ _).mp defined⟩

end Checked
