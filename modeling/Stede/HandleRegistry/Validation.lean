import Mathlib
import Stede.Errors

set_option autoImplicit false

/- The program `stede_handle_registry`: `validation.rs`. -/
namespace Stede.HandleRegistry

/-- Reserved handle names that no one can claim. -/
def RESERVED : List String := ["stede", "admin", "team", "support", "null", "system"]

def MIN_LEN : Nat := 3
def MAX_LEN : Nat := 20

/-- `name.as_bytes()`: the UTF-8 form of a string. -/
def asBytes (name : String) : List UInt8 := name.toList.flatMap String.utf8EncodeChar

def isAsciiDigit (byte : UInt8) : Bool := 48 ≤ byte ∧ byte ≤ 57
def isAsciiLowercase (byte : UInt8) : Bool := 97 ≤ byte ∧ byte ≤ 122

/-- The loop over the bytes, in which the first invalid one ends the validation. -/
def validateBytes : List UInt8 → Except Error Unit
  | [] => .ok ()
  | byte :: rest => do
      let valid := isAsciiLowercase byte || isAsciiDigit byte || byte == 95
      require (valid) (.handle .invalidCharacters)
      validateBytes rest

/-- `validate_handle`; the lengths count bytes. -/
def validateHandle (name : String) : Except Error Unit := do
  let bytes := asBytes name
  require (MIN_LEN ≤ bytes.length) (.handle .tooShort)
  require (bytes.length ≤ MAX_LEN) (.handle .tooLong)
  let first ← okOr bytes[0]? (.program .panicked)
  require (isAsciiDigit first = false) (.handle .startsWithDigit)
  validateBytes bytes
  require (name ∉ RESERVED) (.handle .reserved)

theorem asBytes_injective : Function.Injective asBytes := by
  intro first second same
  apply String.toList_inj.mp
  have encoded : first.toList.utf8Encode = second.toList.utf8Encode := by
    simp only [List.utf8Encode, asBytes] at same ⊢
    rw [same]
  have decoded := congrArg ByteArray.utf8Decode? encoded
  rw [List.utf8Decode?_utf8Encode, List.utf8Decode?_utf8Encode] at decoded
  simpa using decoded

example : validateHandle "kay_1" = .ok () := by decide +kernel

end Stede.HandleRegistry
