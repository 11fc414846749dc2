import Mathlib

set_option autoImplicit false

namespace Stede

/-- `stede_rule_daily_limit/src/errors.rs`. -/
inductive DailyLimitError
  | dailyLimitExceeded
  | zeroLimit
  | overflow
  | invalidConfigAccount
deriving DecidableEq

/-- `stede_rule_block_handle/src/errors.rs`. -/
inductive BlockHandleError
  | recipientBlocked
  | blockListFull
  | alreadyBlocked
  | notBlocked
  | zeroAddress
  | invalidConfigAccount
deriving DecidableEq

/-- `stede_rule_cooloff/src/errors.rs`. -/
inductive CooloffError
  | cooloffActive
  | zeroThreshold
  | invalidDuration
  | overflow
  | invalidConfigAccount
deriving DecidableEq

/-- `stede_rule_new_recipient_delay/src/errors.rs`. -/
inductive SlowSendError
  | recipientNotRegistered
  | waitingPeriodActive
  | invalidDelay
  | overflow
  | invalidDestination
deriving DecidableEq

/-- `stede_rule_time_window/src/errors.rs`. -/
inductive TimeWindowError
  | withinBlockedWindow
  | invalidHour
deriving DecidableEq

/-- `stede_rule_friend_gate/src/errors.rs`. -/
inductive FriendGateError
  | friendSignatureRequired
  | zeroThreshold
  | zeroFriend
  | friendIsSelf
  | sysvarReadFailed
deriving DecidableEq

/-- `stede_vault/src/errors.rs`. -/
inductive VaultError
  | paused
  | zeroAmount
  | insufficientLocked
  | overflow
  | unauthorized
  | mintMismatch
deriving DecidableEq

/-- `stede_handle_registry/src/errors.rs`. -/
inductive HandleError
  | tooShort
  | tooLong
  | invalidCharacters
  | startsWithDigit
  | reserved
  | notOwner
deriving DecidableEq

/-- The framework errors that account validation can raise. -/
inductive AnchorError
  | accountDiscriminatorNotFound
  | accountDiscriminatorMismatch
  | accountDidNotDeserialize
  | accountDidNotSerialize
  | accountNotInitialized
  | accountOwnedByWrongProgram
  | accountNotEnoughKeys
  | accountNotSigner
  | constraintSigner
  | constraintMut
  | constraintHasOne
  | constraintSeeds
  | constraintSpace
  | constraintOwner
  | constraintRentExempt
  | constraintTokenMint
  | constraintTokenOwner
  | constraintTokenTokenProgram
  | invalidProgramId
deriving DecidableEq

/-- Errors of the runtime and of the programs called. -/
inductive ProgramError
  | invalidArgument
  | invalidAccountData
  | invalidInstructionData
  | accountAlreadyInUse
  | insufficientFunds
  | ownerMismatch
  | mintMismatch
  | mintDecimalsMismatch
  | incorrectProgramId
  | transferRefused
  | maxSeedLengthExceeded
  | seedConfigsTooLarge
  | accountNotFound
  | accountDataTooSmall
  | arithmeticOverflow
  | privilegeEscalation
  | panicked
deriving DecidableEq

inductive Error
  | dailyLimit (error : DailyLimitError)
  | blockHandle (error : BlockHandleError)
  | cooloff (error : CooloffError)
  | slowSend (error : SlowSendError)
  | timeWindow (error : TimeWindowError)
  | friendGate (error : FriendGateError)
  | vault (error : VaultError)
  | handle (error : HandleError)
  | anchor (error : AnchorError)
  | program (error : ProgramError)
deriving DecidableEq

/-- `require!(condition, error)`. -/
def require (condition : Prop) [Decidable condition] (error : Error) : Except Error Unit :=
  if condition then .ok () else .error error

/-- `option.ok_or(error)?`. -/
def okOr {α : Type} (option : Option α) (error : Error) : Except Error α :=
  match option with
  | some value => .ok value
  | none => .error error

theorem ok_bind {α β : Type} (value : α) (next : α → Except Error β) :
    ((.ok value : Except Error α) >>= next) = next value := rfl

theorem map_eq_bind {α β : Type} (first : Except Error α) (next : α → β) :
    first.map next = (first >>= fun value => pure (next value)) := by
  cases first <;> rfl

theorem bind_eq_ok {α β : Type} (first : Except Error α) (next : α → Except Error β) (value : β) :
    (first >>= next) = .ok value ↔ ∃ middle, first = .ok middle ∧ next middle = .ok value := by
  cases first with
  | error reason => simp [bind, Except.bind]
  | ok middle => simp [bind, Except.bind]

@[simp] theorem require_eq_ok (condition : Prop) [Decidable condition] (error : Error) (result : Unit) :
    require condition error = .ok result ↔ condition := by
  unfold require
  split <;> simp_all

theorem require_of_true {condition : Prop} [Decidable condition] (holds : condition) (error : Error) :
    require condition error = .ok () := (require_eq_ok condition error ()).mpr holds

@[simp] theorem okOr_eq_ok {α : Type} (option : Option α) (error : Error) (value : α) :
    okOr option error = .ok value ↔ option = some value := by
  unfold okOr
  split <;> simp

theorem bind_eq_error {α β : Type} (first : Except Error α) (next : α → Except Error β)
    (reason : Error) :
    (first >>= next) = .error reason ↔
      first = .error reason ∨ ∃ middle, first = .ok middle ∧ next middle = .error reason := by
  cases first with
  | error other => simp [bind, Except.bind]
  | ok middle => simp [bind, Except.bind]

@[simp] theorem require_eq_error (condition : Prop) [Decidable condition] (error reason : Error) :
    require condition error = .error reason ↔ ¬ condition ∧ error = reason := by
  unfold require
  split <;> simp_all

@[simp] theorem okOr_eq_error {α : Type} (option : Option α) (error reason : Error) :
    okOr option error = .error reason ↔ option = none ∧ error = reason := by
  unfold okOr
  split <;> simp

theorem isOk_iff_exists {ε α : Type} {outcome : Except ε α} :
    outcome.isOk = true ↔ ∃ value, outcome = .ok value := by
  cases outcome with
  | ok value => exact ⟨fun _ => ⟨value, rfl⟩, fun _ => rfl⟩
  | error reason => exact ⟨nofun, nofun⟩

/-- Two outcomes with the same successes agree up to the error. -/
theorem toOption_congr {α : Type} {left right : Except Error α}
    (same : ∀ value, left = .ok value ↔ right = .ok value) : left.toOption = right.toOption := by
  cases left with
  | ok value => rw [(same value).mp rfl]
  | error reason =>
      cases right with
      | ok value => exact absurd ((same value).mpr rfl) (by simp)
      | error other => rfl

end Stede
