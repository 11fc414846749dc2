import Mathlib

set_option autoImplicit false

/- Amounts spread over holders, bounded by the total that was issued. -/
namespace Holdings

variable {κ : Type}

/-- No finite set of holders has more than was issued. -/
def Bounded (amount : κ → Nat) (issued : Nat) : Prop :=
  ∀ holders : Finset κ, ∑ holder ∈ holders, amount holder ≤ issued

theorem Bounded.one {amount : κ → Nat} {issued : Nat} (bounded : Bounded amount issued) (holder : κ) :
    amount holder ≤ issued := by
  have alone := bounded {holder}
  rw [Finset.sum_singleton] at alone
  exact alone

theorem Bounded.mono {before after : κ → Nat} {issued issued' : Nat}
    (bounded : Bounded before issued) (less : ∀ holder, after holder ≤ before holder)
    (more : issued ≤ issued') : Bounded after issued' := by
  intro holders
  calc ∑ holder ∈ holders, after holder
      ≤ ∑ holder ∈ holders, before holder := Finset.sum_le_sum fun holder _ => less holder
    _ ≤ issued := bounded holders
    _ ≤ issued' := more

theorem Bounded.nothing (issued : Nat) : Bounded (fun _ : κ => 0) issued := by
  intro holders
  simp

variable [DecidableEq κ]

theorem Bounded.two {amount : κ → Nat} {issued : Nat} (bounded : Bounded amount issued)
    {first second : κ} (apart : first ≠ second) : amount first + amount second ≤ issued := by
  have both := bounded {first, second}
  rw [Finset.sum_pair apart] at both
  exact both

theorem sum_update_of_mem (amount : κ → Nat) {holders : Finset κ} {holder : κ} (value : Nat)
    (member : holder ∈ holders) :
    ∑ other ∈ holders, Function.update amount holder value other + amount holder =
      ∑ other ∈ holders, amount other + value := by
  rw [Finset.sum_update_of_mem member, Finset.sdiff_singleton_eq_erase,
    ← Finset.add_sum_erase holders amount member]
  omega

/-- Issuing to a holder. -/
theorem Bounded.issue {amount : κ → Nat} {issued : Nat} (bounded : Bounded amount issued)
    (holder : κ) (more : Nat) :
    Bounded (Function.update amount holder (amount holder + more)) (issued + more) := by
  intro holders
  have total := bounded holders
  by_cases member : holder ∈ holders
  · have changed := sum_update_of_mem amount (amount holder + more) member
    omega
  · rw [Finset.sum_update_of_notMem member]
    omega

/-- Retiring what a holder has. -/
theorem Bounded.retire {amount : κ → Nat} {issued : Nat} (bounded : Bounded amount issued)
    (holder : κ) {less : Nat} (funds : less ≤ amount holder) :
    Bounded (Function.update amount holder (amount holder - less)) (issued - less) := by
  intro holders
  by_cases member : holder ∈ holders
  · have total := bounded holders
    have changed := sum_update_of_mem amount (amount holder - less) member
    omega
  · have total := bounded (insert holder holders)
    rw [Finset.sum_insert member] at total
    rw [Finset.sum_update_of_notMem member]
    omega

/-- Moving an amount from one holder to another, who may get less of it. -/
theorem Bounded.move {amount : κ → Nat} {issued : Nat} (bounded : Bounded amount issued)
    {source target : κ} (apart : source ≠ target) {debit credit : Nat}
    (funds : debit ≤ amount source) (withheld : credit ≤ debit) :
    Bounded (Function.update (Function.update amount source (amount source - debit)) target
      (amount target + credit)) issued := by
  have retired := bounded.retire source funds
  have moved := retired.issue target credit
  rw [Function.update_of_ne apart.symm] at moved
  have issued_enough := bounded.one source
  exact moved.mono (fun _ => Nat.le_refl _) (by omega)

/-- What the holders have after one has passed some of it to another. -/
def move (amount : κ → Nat) (source target : κ) (passed : Nat) : κ → Nat :=
  let debited := Function.update amount source (amount source - passed)
  Function.update debited target (debited target + passed)

section Move

variable {amount : κ → Nat} {source target holder : κ} {passed : Nat}

theorem move_of_ne (not_source : holder ≠ source) (not_target : holder ≠ target) :
    move amount source target passed holder = amount holder := by
  rw [move, Function.update_of_ne not_target, Function.update_of_ne not_source]

theorem move_target (apart : target ≠ source) :
    move amount source target passed target = amount target + passed := by
  rw [move, Function.update_self, Function.update_of_ne apart]

theorem move_source (apart : source ≠ target) :
    move amount source target passed source = amount source - passed := by
  rw [move, Function.update_of_ne apart, Function.update_self]

/-- Only the source loses. -/
theorem le_move (not_source : holder ≠ source) :
    amount holder ≤ move amount source target passed holder := by
  by_cases here : holder = target
  · rw [here] at not_source ⊢
    rw [move_target not_source]
    omega
  · rw [move_of_ne not_source here]

/-- Passing on what one has changes no total over a group with both holders. -/
theorem sum_move {holders : Finset κ} (giver : source ∈ holders) (taker : target ∈ holders)
    (funds : passed ≤ amount source) :
    ∑ holder ∈ holders, move amount source target passed holder =
      ∑ holder ∈ holders, amount holder := by
  let debited := Function.update amount source (amount source - passed)
  have out := sum_update_of_mem amount (amount source - passed) giver
  have back := sum_update_of_mem debited (debited target + passed) taker
  have same : ∑ holder ∈ holders, move amount source target passed holder =
      ∑ holder ∈ holders, Function.update debited target (debited target + passed) holder := rfl
  have left : ∑ holder ∈ holders, debited holder =
      ∑ holder ∈ holders, Function.update amount source (amount source - passed) holder := rfl
  omega

end Move

end Holdings
