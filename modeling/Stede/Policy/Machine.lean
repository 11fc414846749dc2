import Mathlib
import Stede.Hook.Conjunction
import Stede.Lib.Circular
import Stede.Lib.Window

set_option autoImplicit false

/- What the six rules are for: the policy that one sender keeps for one mint, over
sets, naturals and integers, with neither accounts nor machine words. -/
namespace Stede

/-- Why a policy refuses. -/
inductive Refusal
  /-- An argument is out of its range. -/
  | invalid
  /-- There is nothing to change. -/
  | unset
  | alreadyBlocked
  | listFull
  | notBlocked
  | alreadyRegistered
  | overBudget
  | recipientBlocked
  | coolingOff
  | notRegistered
  | waiting
  | night
  | uncosigned
  /-- Two times are too far apart for a 64-bit difference. -/
  | clock
deriving DecidableEq

/-- What the rules are shown of a transfer. -/
structure Payment where
  slot : Nat
  now : Int
  amount : Nat
  recipient : Pubkey
  cosigners : Finset Pubkey
deriving DecidableEq

structure Budget where
  cap : Nat
  meter : Window.Meter
deriving DecidableEq

/-- A pause after every transfer at or above the threshold. -/
structure Pause where
  threshold : Nat
  duration : Int
  last : Int
deriving DecidableEq

/-- Hours of the day. -/
structure Night where
  opens : Nat
  closes : Nat
deriving DecidableEq

structure Gate where
  threshold : Nat
  friend : Pubkey
deriving DecidableEq

/-- A rule that was never set, or was disabled, is `none`. -/
@[ext] structure Policy where
  budget : Option Budget
  blocked : Option (Finset Pubkey)
  pause : Option Pause
  delay : Option Int
  contacts : Pubkey → Option Int
  night : Option Night
  gate : Option Gate

namespace Policy

def empty : Policy := ⟨none, none, none, none, fun _ => none, none, none⟩

def slotsPerDay : Nat := 216000

def permit (condition : Prop) [Decidable condition] (refusal : Refusal) : Except Refusal Unit :=
  if condition then .ok () else .error refusal

/-- The time that has passed since, where a 64-bit difference can tell. -/
def elapsed (now since : Int) : Except Refusal Int :=
  if -2 ^ 63 ≤ now - since ∧ now - since < 2 ^ 63 then .ok (now - since) else .error .clock

section Rules

variable (payment : Payment)

/-- The budget is renewed by the first charge a day after its last renewal. -/
def charge (budget : Budget) : Except Refusal Budget :=
  match Window.charge Payment.slot Payment.amount slotsPerDay budget.cap budget.meter payment with
  | .ok meter => .ok { budget with meter := meter }
  | .error _ => .error .overBudget

def rest (pause : Pause) : Except Refusal Pause :=
  if payment.amount < pause.threshold then .ok pause
  else do
    let waited ← elapsed payment.now pause.last
    permit (pause.duration ≤ waited) .coolingOff
    return { pause with last := payment.now }

/-- The recipient has been known for as long as the delay asks. -/
def meet (contacts : Pubkey → Option Int) (delay : Int) : Except Refusal Unit :=
  match contacts payment.recipient with
  | none => .error .notRegistered
  | some first => do
      let waited ← elapsed payment.now first
      permit (delay ≤ waited) .waiting

/-- The hours go round the day, so a night may run past midnight. -/
def awake (night : Night) : Except Refusal Unit :=
  permit (¬ (payment.now - 3600 * night.opens) % 86400 <
    (3600 * night.closes - 3600 * night.opens : Int) % 86400) .night

def cosigned (gate : Gate) : Except Refusal Unit :=
  permit (payment.amount < gate.threshold ∨ gate.friend ∈ payment.cosigners) .uncosigned

/-- A rule that is not set has nothing to say. -/
def under {β : Type} (content : Option β) (policy : Policy) (verdict : β → Except Refusal Policy) :
    Except Refusal Policy :=
  match content with
  | none => .ok policy
  | some content => verdict content

/-- What one rule says to a payment, and what it remembers of it. -/
def obey (policy : Policy) : Hook.Rule → Except Refusal Policy
  | .dailyLimit => under policy.budget policy fun budget =>
      (charge payment budget).map fun budget => { policy with budget := some budget }
  | .blockHandle => under policy.blocked policy fun blocked =>
      (permit (payment.recipient ∉ blocked) .recipientBlocked).map fun _ => policy
  | .cooloff => under policy.pause policy fun pause =>
      (rest payment pause).map fun pause => { policy with pause := some pause }
  | .newRecipientDelay => under policy.delay policy fun delay =>
      (meet payment policy.contacts delay).map fun _ => policy
  | .timeWindow => under policy.night policy fun night => (awake payment night).map fun _ => policy
  | .friendGate => under policy.gate policy fun gate => (cosigned payment gate).map fun _ => policy

/-- Several rules in turn, the first refusal ending it. -/
def check (policy : Policy) : List Hook.Rule → Except Refusal Policy
  | [] => .ok policy
  | rule :: rest => do
      let policy ← obey payment policy rule
      check policy rest

end Rules

theorem check_singleton (payment : Payment) (policy : Policy) (rule : Hook.Rule) :
    check payment policy [rule] = obey payment policy rule := by
  rw [check]
  cases obey payment policy rule with
  | ok changed => rfl
  | error refusal => rfl

theorem check_append (payment : Payment) (policy : Policy) (first second : List Hook.Rule) :
    check payment policy (first ++ second) =
      check payment policy first >>= fun policy => check payment policy second := by
  induction first generalizing policy with
  | nil => rfl
  | cons rule rest ih =>
      simp only [List.cons_append, check]
      cases obey payment policy rule with
      | ok changed => exact ih changed
      | error refusal => rfl

inductive Action
  | setLimit (slot limit : Nat)
  | addBlocked (wallet : Pubkey)
  | removeBlocked (wallet : Pubkey)
  | setCooloff (threshold : Nat) (duration : Int)
  | disableCooloff
  | setSlowSend (delay : Int)
  | disableSlowSend
  | registerRecipient (now : Int) (recipient : Pubkey)
  | setTimeWindow (opens closes : Nat)
  | disableTimeWindow
  | setFriendGate (threshold : Nat) (friend : Pubkey)
  | disableFriendGate
  | check (rules : List Hook.Rule) (payment : Payment)

section Settings

/-- A new limit keeps what was spent. -/
def newBudget (slot limit : Nat) (budget : Option Budget) : Except Refusal Budget := do
  permit (0 < limit) .invalid
  return match budget with
    | none => ⟨limit, ⟨0, slot⟩⟩
    | some budget => { budget with cap := limit }

def block (wallet : Pubkey) (blocked : Option (Finset Pubkey)) : Except Refusal (Finset Pubkey) := do
  permit (wallet ≠ .default) .invalid
  permit (wallet ∉ blocked.getD ∅) .alreadyBlocked
  permit ((blocked.getD ∅).card < MAX_BLOCKED) .listFull
  return insert wallet (blocked.getD ∅)

def unblock (wallet : Pubkey) (blocked : Finset Pubkey) : Except Refusal (Finset Pubkey) := do
  permit (wallet ∈ blocked) .notBlocked
  return blocked.erase wallet

/-- A new pause keeps the time of the last large transfer. -/
def newPause (threshold : Nat) (duration : Int) (pause : Option Pause) : Except Refusal Pause := do
  permit (0 < threshold) .invalid
  permit (1 ≤ duration ∧ duration ≤ 86400) .invalid
  return ⟨threshold, duration, (pause.map Pause.last).getD 0⟩

def newDelay (delay : Int) : Except Refusal Int := do
  permit (1 ≤ delay ∧ delay ≤ 604800) .invalid
  return delay

def newNight (opens closes : Nat) : Except Refusal Night := do
  permit (opens < 24 ∧ closes < 24) .invalid
  return ⟨opens, closes⟩

def newGate (owner : Pubkey) (threshold : Nat) (friend : Pubkey) : Except Refusal Gate := do
  permit (0 < threshold) .invalid
  permit (friend ≠ .default) .invalid
  permit (friend ≠ owner) .invalid
  return ⟨threshold, friend⟩

end Settings

/-- The machine of one sender's policy. -/
def step (owner : Pubkey) (policy : Policy) : Action → Except Refusal Policy
  | .setLimit slot limit =>
      (newBudget slot limit policy.budget).map fun budget => { policy with budget := some budget }
  | .addBlocked wallet =>
      (block wallet policy.blocked).map fun blocked => { policy with blocked := some blocked }
  | .removeBlocked wallet =>
      match policy.blocked with
      | none => .error .unset
      | some blocked =>
          (unblock wallet blocked).map fun blocked => { policy with blocked := some blocked }
  | .setCooloff threshold duration =>
      (newPause threshold duration policy.pause).map fun pause => { policy with pause := some pause }
  | .disableCooloff => (permit policy.pause.isSome .unset).map fun _ => { policy with pause := none }
  | .setSlowSend delay =>
      (newDelay delay).map fun delay => { policy with delay := some delay }
  | .disableSlowSend => (permit policy.delay.isSome .unset).map fun _ => { policy with delay := none }
  | .registerRecipient now recipient =>
      (permit (policy.contacts recipient = none) .alreadyRegistered).map fun _ =>
        { policy with contacts := Function.update policy.contacts recipient (some now) }
  | .setTimeWindow opens closes =>
      (newNight opens closes).map fun night => { policy with night := some night }
  | .disableTimeWindow => (permit policy.night.isSome .unset).map fun _ => { policy with night := none }
  | .setFriendGate threshold friend =>
      (newGate owner threshold friend).map fun gate => { policy with gate := some gate }
  | .disableFriendGate => (permit policy.gate.isSome .unset).map fun _ => { policy with gate := none }
  | .check rules payment => check payment policy rules

end Policy

end Stede
