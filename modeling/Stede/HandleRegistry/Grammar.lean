import Stede.HandleRegistry.Registry
import Stede.Solana.ExtraAccounts

set_option autoImplicit false

/- The names that `validate_handle` accepts, as characters. -/
namespace Stede.HandleRegistry

def IsDigit (character : Char) : Prop := '0' ≤ character ∧ character ≤ '9'

/-- Lowercase letters, digits and the underscore. -/
def InAlphabet (character : Char) : Prop :=
  ('a' ≤ character ∧ character ≤ 'z') ∨ IsDigit character ∨ character = '_'

/-- What a handle is: 3 to 20 characters of the alphabet, the first of them no digit,
and no reserved word. -/
structure IsHandle (name : String) : Prop where
  length : 3 ≤ name.length ∧ name.length ≤ 20
  alphabet : ∀ character ∈ name.toList, InAlphabet character
  first : ∀ character ∈ name.toList.head?, ¬ IsDigit character
  free : name ∉ RESERVED

/-- The test that the loop makes of a byte. -/
def validByte (byte : UInt8) : Bool := isAsciiLowercase byte || isAsciiDigit byte || byte == 95

section Characters

variable {character : Char}

/-- The alphabet by code points. -/
theorem inAlphabet_iff : InAlphabet character ↔
    (97 ≤ character.toNat ∧ character.toNat ≤ 122) ∨
      (48 ≤ character.toNat ∧ character.toNat ≤ 57) ∨ character.toNat = 95 := by
  have underscore : character = '_' ↔ character.toNat = 95 := by
    constructor
    · intro same
      rw [same]
      rfl
    · intro same
      exact Char.toNat_inj.mp same
  simp only [InAlphabet, IsDigit, Char.le_def, UInt32.le_iff_toNat_le, underscore]
  rfl

theorem isDigit_iff : IsDigit character ↔ 48 ≤ character.toNat ∧ character.toNat ≤ 57 := by
  simp only [IsDigit, Char.le_def, UInt32.le_iff_toNat_le]
  rfl

theorem encode_ascii (low : character.toNat ≤ 127) :
    String.utf8EncodeChar character = [UInt8.ofNat character.toNat] := by
  have small : character.val.toNat ≤ 127 := low
  simp only [String.utf8EncodeChar, small, ↓reduceIte]
  rfl

/-- A character of several bytes starts with one that is not ASCII. -/
theorem encode_wide (high : 127 < character.toNat) :
    ∃ byte ∈ String.utf8EncodeChar character, 128 ≤ byte.toNat := by
  have wide : ¬ character.val.toNat ≤ 127 := Nat.not_le_of_lt high
  simp only [String.utf8EncodeChar, wide, ↓reduceIte]
  split
  · refine ⟨_, List.mem_cons_self, ?_⟩
    rw [UInt8.toNat_ofNat']
    omega
  · split
    · refine ⟨_, List.mem_cons_self, ?_⟩
      rw [UInt8.toNat_ofNat']
      omega
    · refine ⟨_, List.mem_cons_self, ?_⟩
      rw [UInt8.toNat_ofNat']
      omega

theorem isAsciiDigit_iff (byte : UInt8) :
    isAsciiDigit byte = true ↔ 48 ≤ byte.toNat ∧ byte.toNat ≤ 57 := by
  simp only [isAsciiDigit, decide_eq_true_eq, UInt8.le_iff_toNat_le]
  rfl

theorem validByte_iff (byte : UInt8) : validByte byte = true ↔
    (97 ≤ byte.toNat ∧ byte.toNat ≤ 122) ∨ (48 ≤ byte.toNat ∧ byte.toNat ≤ 57) ∨
      byte.toNat = 95 := by
  have underscore : byte = 95 ↔ byte.toNat = 95 := UInt8.toNat_inj.symm
  simp only [validByte, isAsciiLowercase, Bool.or_eq_true, decide_eq_true_eq, isAsciiDigit_iff,
    beq_iff_eq, underscore, UInt8.le_iff_toNat_le, or_assoc]
  rfl

/-- A character passes the loop exactly if it is in the alphabet. -/
theorem bytes_valid_iff :
    (∀ byte ∈ String.utf8EncodeChar character, validByte byte = true) ↔ InAlphabet character := by
  rw [inAlphabet_iff]
  by_cases low : character.toNat ≤ 127
  · have value : (UInt8.ofNat character.toNat).toNat = character.toNat := by
      rw [UInt8.toNat_ofNat']
      omega
    rw [encode_ascii low]
    simp only [List.mem_singleton, forall_eq, validByte_iff, value]
  · have ⟨byte, member, high⟩ := encode_wide (Nat.lt_of_not_le low)
    constructor
    · intro valid
      have tested := (validByte_iff byte).mp (valid byte member)
      omega
    · intro inside
      omega

end Characters

section Names

variable {name : String}

theorem validateBytes_eq_ok (bytes : List UInt8) (done : Unit) :
    validateBytes bytes = .ok done ↔ ∀ byte ∈ bytes, validByte byte = true := by
  induction bytes with
  | nil => simp [validateBytes]
  | cons byte rest ih =>
      simp only [validateBytes, bind_eq_ok, require_eq_ok, exists_const, ih, List.forall_mem_cons]
      rfl

theorem bytes_alphabet_iff : (∀ byte ∈ asBytes name, validByte byte = true) ↔
    ∀ character ∈ name.toList, InAlphabet character := by
  simp only [asBytes, List.mem_flatMap, forall_exists_index, and_imp]
  constructor
  · intro valid character member
    exact bytes_valid_iff.mp fun byte inside => valid byte character member inside
  · intro alphabet byte character member inside
    exact bytes_valid_iff.mpr (alphabet character member) byte inside

/-- Over the alphabet a byte is a character. -/
theorem asBytes_of_alphabet (alphabet : ∀ character ∈ name.toList, InAlphabet character) :
    asBytes name = name.toList.map fun character => UInt8.ofNat character.toNat := by
  have each : ∀ character ∈ name.toList,
      String.utf8EncodeChar character = [UInt8.ofNat character.toNat] := by
    intro character member
    have inside := inAlphabet_iff.mp (alphabet character member)
    exact encode_ascii (by omega)
  rw [asBytes, List.flatMap_congr each, ← List.map_eq_flatMap]

theorem validateHandle_eq_ok (done : Unit) :
    validateHandle name = .ok done ↔ 3 ≤ (asBytes name).length ∧ (asBytes name).length ≤ 20 ∧
      (∃ first, (asBytes name)[0]? = some first ∧ isAsciiDigit first = false ∧
        (∀ byte ∈ asBytes name, validByte byte = true) ∧ name ∉ RESERVED) := by
  simp only [validateHandle, bind_eq_ok, require_eq_ok, exists_const, okOr_eq_ok, validateBytes_eq_ok]
  rfl

/-- The first byte over the alphabet is the first character. -/
theorem first_byte (alphabet : ∀ character ∈ name.toList, InAlphabet character) :
    (∃ first, (asBytes name)[0]? = some first ∧ isAsciiDigit first = false) ↔
      name.toList ≠ [] ∧ ∀ character ∈ name.toList.head?, ¬ IsDigit character := by
  rw [asBytes_of_alphabet alphabet]
  cases letters : name.toList with
  | nil => simp
  | cons character rest =>
      have inside : InAlphabet character := alphabet character (by simp [letters])
      have value : (UInt8.ofNat character.toNat).toNat = character.toNat := by
        have bounds := inAlphabet_iff.mp inside
        rw [UInt8.toNat_ofNat']
        omega
      have digit : isAsciiDigit (UInt8.ofNat character.toNat) = true ↔ IsDigit character := by
        rw [isAsciiDigit_iff, isDigit_iff, value]
      simp [← digit]

/-- `validate_handle` accepts the handles. -/
theorem validateHandle_iff (done : Unit) : validateHandle name = .ok done ↔ IsHandle name := by
  have letters : name.toList.length = name.length := String.length_toList
  rw [validateHandle_eq_ok]
  constructor
  · intro ⟨long, short, first, indexed, not_digit, valid, free⟩
    have alphabet := bytes_alphabet_iff.mp valid
    have size := congrArg List.length (asBytes_of_alphabet alphabet)
    rw [List.length_map, letters] at size
    have starts := (first_byte alphabet).mp ⟨first, indexed, not_digit⟩
    exact ⟨⟨by omega, by omega⟩, alphabet, starts.2, free⟩
  · intro handle
    have size := congrArg List.length (asBytes_of_alphabet handle.alphabet)
    rw [List.length_map, letters] at size
    have ⟨long, short⟩ := handle.length
    have nonempty : name.toList ≠ [] := by
      intro empty
      rw [empty] at letters
      simp at letters
      omega
    have ⟨first, indexed, not_digit⟩ := (first_byte handle.alphabet).mpr ⟨nonempty, handle.first⟩
    exact ⟨by omega, by omega, first, indexed, not_digit, bytes_alphabet_iff.mpr handle.alphabet,
      handle.free⟩

theorem validateBytes_error {bytes : List UInt8} {reason : Error}
    (failure : validateBytes bytes = .error reason) : reason = .handle .invalidCharacters := by
  induction bytes with
  | nil => cases failure
  | cons byte rest ih =>
      simp only [validateBytes, bind_eq_error, require_eq_error, require_eq_ok, exists_const] at failure
      rcases failure with ⟨_, same⟩ | ⟨_, later⟩
      · exact same.symm
      · exact ih later

/-- A refusal is one of the named ones: the index of the first byte is in range. -/
theorem validateHandle_error {reason : Error} (failure : validateHandle name = .error reason) :
    ∃ refusal, reason = .handle refusal := by
  simp only [validateHandle, bind_eq_error, require_eq_error, require_eq_ok, exists_const,
    okOr_eq_error, okOr_eq_ok] at failure
  rcases failure with ⟨_, same⟩ | ⟨long, ⟨_, same⟩ | ⟨_, ⟨missing, _⟩ | ⟨first, _, ⟨_, same⟩ |
    ⟨_, invalid | ⟨_, _, _, same⟩⟩⟩⟩⟩
  · exact ⟨_, same.symm⟩
  · exact ⟨_, same.symm⟩
  · have long : 3 ≤ (asBytes name).length := long
    rw [List.getElem?_eq_none_iff] at missing
    omega
  · exact ⟨_, same.symm⟩
  · exact ⟨_, validateBytes_error invalid⟩
  · exact ⟨_, same.symm⟩

theorem asBytes_length (handle : IsHandle name) : (asBytes name).length = name.length := by
  rw [asBytes_of_alphabet handle.alphabet, List.length_map, String.length_toList]

end Names

/-- A string as Borsh writes it: the number of its bytes, then the bytes. -/
def borshString (text : String) : List UInt8 := bytesLE 4 (asBytes text).length ++ asBytes text

/-- What the accounts hold, with their discriminators. -/
def Handle.image (handle : Handle) : List UInt8 :=
  [150, 96, 143, 54, 64, 147, 63, 63] ++ handle.owner.bytes ++ borshString handle.name ++
    Codec.int64.encode handle.claimedAt ++ [handle.bump]

def Reverse.image (reverse : Reverse) : List UInt8 :=
  [17, 41, 33, 92, 153, 209, 58, 89] ++ borshString reverse.handle ++ [reverse.bump]

/-- An account has room for its fields exactly if its name has at most 20 bytes. -/
theorem Handle.image_fits (handle : Handle) :
    handle.image.length ≤ Handle.space ↔ (asBytes handle.name).length ≤ 20 := by
  have size := handle.owner.size
  have time : (Codec.int64.encode handle.claimedAt).length = 8 := Codec.int64.encode_length _
  simp only [Handle.image, Handle.space, borshString, List.length_append, List.length_cons,
    List.length_nil, bytesLE_length, size, time]
  omega

theorem Reverse.image_fits (reverse : Reverse) :
    reverse.image.length ≤ Reverse.space ↔ (asBytes reverse.handle).length ≤ 20 := by
  simp only [Reverse.image, Reverse.space, borshString, List.length_append, List.length_cons,
    List.length_nil, bytesLE_length]
  omega

/-- The byte tests of `validate_handle` accept the handles, no string with a character
of several bytes, and never index past the end; what is accepted fits its accounts
and is a seed. -/
theorem handle_grammar (name : String) :
    (validateHandle name = .ok () ↔ IsHandle name) ∧
    ((∃ character ∈ name.toList, 1 < (String.utf8EncodeChar character).length) →
      ∃ refusal, validateHandle name = .error (.handle refusal)) ∧
    validateHandle name ≠ .error (.program .panicked) ∧
    (validateHandle name = .ok () →
      (asBytes name).length ≤ 20 ∧ (asBytes name).length ≤ MAX_SEED_LEN ∧
      (∀ owner claimedAt bump,
        (Handle.image ⟨owner, name, claimedAt, bump⟩).length ≤ Handle.space) ∧
      ∀ bump, (Reverse.image ⟨name, bump⟩).length ≤ Reverse.space) := by
  refine ⟨validateHandle_iff (), ?_, ?_, ?_⟩
  · intro ⟨character, member, several⟩
    cases outcome : validateHandle name with
    | error reason =>
        have ⟨refusal, same⟩ := validateHandle_error outcome
        exact ⟨refusal, by rw [same]⟩
    | ok done =>
        have handle := (validateHandle_iff done).mp outcome
        have inside := inAlphabet_iff.mp (handle.alphabet character member)
        rw [encode_ascii (by omega)] at several
        simp at several
  · intro panicked
    have ⟨refusal, same⟩ := validateHandle_error panicked
    cases same
  · intro accepted
    have handle := (validateHandle_iff ()).mp accepted
    have size := asBytes_length handle
    have short := handle.length.2
    have fits : (asBytes name).length ≤ 20 := by omega
    refine ⟨fits, ?_, ?_, ?_⟩
    · show (asBytes name).length ≤ 32
      omega
    · intro owner claimedAt bump
      exact (Handle.image_fits _).mpr fits
    · intro bump
      exact (Reverse.image_fits _).mpr fits

example : validateHandle "käy" = .error (.handle .invalidCharacters) := by decide +kernel

end Stede.HandleRegistry
