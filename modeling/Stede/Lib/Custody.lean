import Mathlib

set_option autoImplicit false

/- The books of a custodian who issues claims one to one against deposits. -/
namespace Custody

/-- What lies in the vault, what the books say is locked, and the claims outstanding. -/
structure Books where
  balance : Nat
  locked : Nat
  supply : Nat
deriving DecidableEq

/-- What can be entered: a deposit of which `fee` never arrives, a redemption, a
gift to the vault, and the destruction of claims that nobody redeems. -/
inductive Entry
  | deposit (amount fee : Nat)
  | redeem (amount : Nat)
  | donate (amount : Nat)
  | forfeit (amount : Nat)
  | idle
deriving DecidableEq

namespace Entry

def deposited : Entry → Nat
  | .deposit amount _ => amount
  | _ => 0

def fee : Entry → Nat
  | .deposit _ fee => fee
  | _ => 0

def redeemed : Entry → Nat
  | .redeem amount => amount
  | _ => 0

def donated : Entry → Nat
  | .donate amount => amount
  | _ => 0

def forfeited : Entry → Nat
  | .forfeit amount => amount
  | _ => 0

/-- A line with a fee is a deposit, so it donates nothing. -/
theorem donated_of_fee {entry : Entry} (charged : entry.fee ≠ 0) : entry.donated = 0 := by
  cases entry with
  | deposit amount fee => rfl
  | _ => exact absurd rfl charged

end Entry

namespace Books

def empty : Books := ⟨0, 0, 0⟩

/-- Entering a line, which fails where a number would go below zero. -/
def post (books : Books) : Entry → Option Books
  | .deposit amount fee =>
      if fee ≤ amount then
        some ⟨books.balance + (amount - fee), books.locked + amount, books.supply + amount⟩
      else none
  | .redeem amount =>
      if amount ≤ books.balance ∧ amount ≤ books.locked ∧ amount ≤ books.supply then
        some ⟨books.balance - amount, books.locked - amount, books.supply - amount⟩
      else none
  | .donate amount => some { books with balance := books.balance + amount }
  | .forfeit amount =>
      if amount ≤ books.supply then some { books with supply := books.supply - amount } else none
  | .idle => some books

/-- Every claim is backed by what is locked, and all that is locked is there. -/
def Solvent (books : Books) : Prop := books.supply ≤ books.locked ∧ books.locked ≤ books.balance

instance (books : Books) : Decidable books.Solvent :=
  inferInstanceAs (Decidable (_ ∧ _))

/-- What lies in the vault beyond what is locked. -/
def surplus (books : Books) : Nat := books.balance - books.locked

theorem empty_solvent : empty.Solvent := ⟨Nat.le_refl 0, Nat.le_refl 0⟩

section Posting

variable {books after : Books} {entry : Entry} (posted : books.post entry = some after)
include posted

/-- Every line moves the three numbers by what it says. -/
theorem post_effect :
    after.balance + entry.redeemed + entry.fee = books.balance + entry.deposited + entry.donated ∧
    after.locked + entry.redeemed = books.locked + entry.deposited ∧
    after.supply + entry.redeemed + entry.forfeited = books.supply + entry.deposited := by
  cases entry with
  | deposit amount fee =>
      simp only [post, Option.ite_none_right_eq_some, Option.some.injEq] at posted
      have ⟨less, same⟩ := posted
      subst same
      simp only [Entry.deposited, Entry.fee, Entry.redeemed, Entry.donated, Entry.forfeited]
      omega
  | redeem amount =>
      simp only [post, Option.ite_none_right_eq_some, Option.some.injEq] at posted
      have ⟨funds, same⟩ := posted
      subst same
      simp only [Entry.deposited, Entry.fee, Entry.redeemed, Entry.donated, Entry.forfeited]
      omega
  | donate amount =>
      simp only [post, Option.some.injEq] at posted
      subst posted
      simp only [Entry.deposited, Entry.fee, Entry.redeemed, Entry.donated, Entry.forfeited, and_true]
      omega
  | forfeit amount =>
      simp only [post, Option.ite_none_right_eq_some, Option.some.injEq] at posted
      have ⟨funds, same⟩ := posted
      subst same
      simp only [Entry.deposited, Entry.fee, Entry.redeemed, Entry.donated, Entry.forfeited, true_and]
      omega
  | idle =>
      simp only [post, Option.some.injEq] at posted
      subst posted
      exact ⟨rfl, rfl, rfl⟩

/-- A line keeps the books solvent exactly when the surplus covers its fee. -/
theorem post_solvent_iff (solvent : books.Solvent) : after.Solvent ↔ entry.fee ≤ books.surplus := by
  have ⟨balance, locked, supply⟩ := post_effect posted
  have ⟨backed, held⟩ := solvent
  unfold Solvent surplus
  by_cases charged : entry.fee = 0
  · omega
  · have none_donated := Entry.donated_of_fee charged
    omega

/-- Only gifts and fees move the balance against what is locked. -/
theorem post_surplus : (after.balance : Int) - after.locked =
    books.balance - books.locked + (entry.donated - entry.fee) := by
  have ⟨balance, locked, _⟩ := post_effect posted
  omega

/-- Only forfeits move what is locked against the claims. -/
theorem post_forfeited : (after.locked : Int) - after.supply =
    books.locked - books.supply + entry.forfeited := by
  have ⟨_, locked, supply⟩ := post_effect posted
  omega

end Posting

end Books

end Custody
