import Mathlib
import Stede.Lib.Custody
import Stede.Lib.Run

set_option autoImplicit false

/- A custodian who keeps such books for the public, and whom an admin can stop. -/
namespace Custody

/-- Why a custodian refuses. -/
inductive Denial
  | absent
  | established
  | paused
  | nothing
  | short
  /-- The books cannot hold that much. -/
  | full
  | stranger
  | unfunded
deriving DecidableEq

structure Custodian (κ : Type) where
  admin : κ
  paused : Bool
  books : Books

inductive Action (κ : Type)
  | establish (admin : κ)
  | enter (entry : Entry)
  | setPaused (signer : κ) (paused : Bool)

namespace Custodian

variable {κ : Type}

/-- Deposits and redemptions are asked for, and can be refused. Gifts and forfeits happen. -/
def allow (capacity : Nat) (custodian : Custodian κ) : Entry → Except Denial Unit
  | .deposit amount _ =>
      if custodian.paused then .error .paused
      else if amount = 0 then .error .nothing
      else if capacity ≤ custodian.books.locked + amount then .error .full
      else .ok ()
  | .redeem amount =>
      if custodian.paused then .error .paused
      else if amount = 0 then .error .nothing
      else if custodian.books.locked < amount then .error .short
      else .ok ()
  | _ => .ok ()

/-- The entry itself, which the funds have to allow. -/
def enter (custodian : Custodian κ) (entry : Entry) : Except Denial (Custodian κ) :=
  match custodian.books.post entry with
  | some books => .ok { custodian with books := books }
  | none => .error .unfunded

theorem enter_eq_ok (custodian next : Custodian κ) (entry : Entry) :
    custodian.enter entry = .ok next ↔
      ∃ books, custodian.books.post entry = some books ∧ { custodian with books := books } = next := by
  unfold enter
  cases posted : custodian.books.post entry with
  | some books => simp only [Except.ok.injEq, Option.some.injEq, exists_eq_left']
  | none => simp only [reduceCtorEq, false_and, exists_false]

/-- A paused custodian allows neither deposits nor redemptions. -/
theorem allow_of_paused {capacity : Nat} {custodian : Custodian κ} {entry : Entry}
    (paused : custodian.paused = true) (allowed : custodian.allow capacity entry = .ok ()) :
    entry.deposited = 0 ∧ entry.redeemed = 0 ∧ entry.fee = 0 := by
  cases entry with
  | deposit amount fee =>
      simp only [allow, paused, ↓reduceIte, reduceCtorEq] at allowed
  | redeem amount =>
      simp only [allow, paused, ↓reduceIte, reduceCtorEq] at allowed
  | _ => exact ⟨rfl, rfl, rfl⟩

/-- What a pause guarantees: nothing leaves, nothing is issued. -/
structure Frozen (before after : Custodian κ) : Prop where
  admin : after.admin = before.admin
  paused : after.paused = true
  balance : before.books.balance ≤ after.books.balance
  locked : after.books.locked = before.books.locked
  supply : after.books.supply ≤ before.books.supply

theorem Frozen.refl {custodian : Custodian κ} (paused : custodian.paused = true) :
    Frozen custodian custodian :=
  ⟨rfl, paused, Nat.le_refl _, rfl, Nat.le_refl _⟩

theorem Frozen.trans {first second third : Custodian κ} (left : Frozen first second)
    (right : Frozen second third) : Frozen first third where
  admin := right.admin.trans left.admin
  paused := right.paused
  balance := left.balance.trans right.balance
  locked := right.locked.trans left.locked
  supply := right.supply.trans left.supply

variable [DecidableEq κ]

def serve (capacity : Nat) (custodian : Custodian κ) : Action κ → Except Denial (Custodian κ)
  | .establish _ => .error .established
  | .enter entry => do
      custodian.allow capacity entry
      custodian.enter entry
  | .setPaused signer paused =>
      if signer = custodian.admin then .ok { custodian with paused := paused }
      else .error .stranger

/-- From before there is a custodian. -/
def step (capacity : Nat) : Option (Custodian κ) → Action κ → Except Denial (Option (Custodian κ))
  | none, .establish admin => .ok (some ⟨admin, false, .empty⟩)
  | none, _ => .error .absent
  | some custodian, action => (custodian.serve capacity action).map some

theorem serve_enter_eq_ok (capacity : Nat) (custodian next : Custodian κ) (entry : Entry) :
    custodian.serve capacity (.enter entry) = .ok next ↔
      custodian.allow capacity entry = .ok () ∧ custodian.enter entry = .ok next := by
  show (custodian.allow capacity entry >>= fun _ => custodian.enter entry) = .ok next ↔ _
  cases allowed : custodian.allow capacity entry with
  | ok done =>
      show custodian.enter entry = .ok next ↔ _
      simp only [true_and]
  | error denial =>
      show (.error denial : Except Denial (Custodian κ)) = .ok next ↔ _
      simp only [reduceCtorEq, false_and]

/-- Only the admin ends a pause. -/
theorem serve_frozen {capacity : Nat} {custodian next : Custodian κ} {action : Action κ}
    (paused : custodian.paused = true) (held : action ≠ .setPaused custodian.admin false)
    (success : custodian.serve capacity action = .ok next) : Frozen custodian next := by
  cases action with
  | establish admin => cases success
  | enter entry =>
      obtain ⟨allowed, entered⟩ := (serve_enter_eq_ok _ _ _ _).mp success
      obtain ⟨books, posted, same⟩ := (enter_eq_ok _ _ _).mp entered
      obtain ⟨no_deposit, no_redemption, no_fee⟩ := allow_of_paused paused allowed
      obtain ⟨balance, locked, supply⟩ := Books.post_effect posted
      rw [← same]
      refine ⟨rfl, paused, ?_, ?_, ?_⟩
      · show custodian.books.balance ≤ books.balance
        omega
      · show books.locked = custodian.books.locked
        omega
      · show books.supply ≤ custodian.books.supply
        omega
  | setPaused signer flag =>
      simp only [serve] at success
      by_cases own : signer = custodian.admin
      · rw [if_pos own, Except.ok.injEq] at success
        rw [← success]
        refine ⟨rfl, ?_, Nat.le_refl _, rfl, Nat.le_refl _⟩
        show flag = true
        cases flag with
        | true => rfl
        | false => exact absurd (by rw [own]) held
      · rw [if_neg own] at success
        cases success

/-- Paused since, with the books that a pause guarantees. -/
def Since (custodian : Custodian κ) (current : Option (Custodian κ)) : Prop :=
  ∃ after, current = some after ∧ Frozen custodian after

/-- A pause lasts over any run in which the admin does not end it. -/
theorem run_frozen (capacity : Nat) {custodian : Custodian κ} {actions : List (Action κ)}
    (paused : custodian.paused = true)
    (held : ∀ action ∈ actions, action ≠ .setPaused custodian.admin false) :
    Since custodian (Run.run (step capacity) (some custodian) actions) := by
  have start : Since custodian (some custodian) := ⟨custodian, rfl, .refl paused⟩
  apply Run.run_invariant start
  rintro current action next member ⟨middle, rfl, frozen⟩ success
  have kept : action ≠ .setPaused middle.admin false := by
    rw [frozen.admin]
    exact held action member
  simp only [step] at success
  cases served : middle.serve capacity action with
  | ok after =>
      rw [served] at success
      cases success
      exact ⟨after, rfl, frozen.trans (serve_frozen frozen.paused kept served)⟩
  | error denial =>
      rw [served] at success
      cases success

end Custodian

end Custody
