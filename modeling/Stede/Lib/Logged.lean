import Mathlib

set_option autoImplicit false

/- Computations that write messages and may fail. What was written before a failure
stays, and leaving out the messages gives the plain computation. -/

structure Logged (ι ε α : Type) where
  messages : List ι
  result : Except ε α

namespace Logged

variable {ι ε α β : Type}

def msg (message : ι) : Logged ι ε Unit := ⟨[message], .ok ()⟩

/-- A computation that writes nothing. -/
def silent (result : Except ε α) : Logged ι ε α := ⟨[], result⟩

def andThen (first : Logged ι ε α) (next : α → Logged ι ε β) : Logged ι ε β :=
  match first.result with
  | .ok value => ⟨first.messages ++ (next value).messages, (next value).result⟩
  | .error reason => ⟨first.messages, .error reason⟩

instance : Monad (Logged ι ε) where
  pure value := silent (.ok value)
  bind := andThen

instance : MonadLift (Except ε) (Logged ι ε) := ⟨silent⟩

@[simp] theorem result_bind (first : Logged ι ε α) (next : α → Logged ι ε β) :
    (first >>= next).result = first.result >>= fun value => (next value).result := by
  show (first.andThen next).result = _
  unfold andThen
  cases first.result with
  | ok value => rfl
  | error reason => rfl

@[simp] theorem result_pure (value : α) : (pure value : Logged ι ε α).result = .ok value := rfl

@[simp] theorem result_msg (message : ι) : (msg message : Logged ι ε Unit).result = .ok () := rfl

@[simp] theorem result_silent (result : Except ε α) :
    (liftM result : Logged ι ε α).result = result := rfl

@[simp] theorem result_ite (condition : Prop) [Decidable condition] (yes no : Logged ι ε α) :
    (if condition then yes else no).result = if condition then yes.result else no.result :=
  apply_ite Logged.result condition yes no

end Logged
