import Stede.Lib.Codec

set_option autoImplicit false

/- Byte buffers: what a store at an offset changes, and how a machine word stands
for an integer. -/

/-- `data[offset..offset + bytes.len()].copy_from_slice(bytes)`. -/
def splice (data : List UInt8) (offset : Nat) (bytes : List UInt8) : List UInt8 :=
  data.take offset ++ (bytes ++ data.drop (offset + bytes.length))

section Splice

variable {data bytes : List UInt8} {offset : Nat}

theorem splice_take {count : Nat} (before : count ≤ offset) (inside : offset ≤ data.length) :
    (splice data offset bytes).take count = data.take count := by
  have whole : (data.take offset).length = offset := by
    rw [List.length_take]
    omega
  rw [splice, List.take_append_of_le_length (by omega), List.take_take, Nat.min_eq_left before]

theorem splice_field {width : Nat} (size : bytes.length = width) (inside : offset ≤ data.length) :
    ((splice data offset bytes).drop offset).take width = bytes := by
  have whole : (data.take offset).length = offset := by
    rw [List.length_take]
    omega
  rw [splice, List.drop_append_of_le_length (by omega), List.drop_of_length_le (by omega),
    List.nil_append, ← size, List.take_left]

theorem splice_length (inside : offset + bytes.length ≤ data.length) :
    (splice data offset bytes).length = data.length := by
  simp only [splice, List.length_append, List.length_take, List.length_drop]
  omega

/-- A store changes nothing outside its field. -/
theorem splice_frame (inside : offset + bytes.length ≤ data.length) {index : Nat}
    (outside : index < offset ∨ offset + bytes.length ≤ index) :
    (splice data offset bytes)[index]? = data[index]? := by
  have whole : (data.take offset).length = offset := by
    rw [List.length_take]
    omega
  rcases outside with before | behind
  · rw [splice, List.getElem?_append_left (by omega), List.getElem?_take_of_lt before]
  · rw [splice, List.getElem?_append_right (by omega), List.getElem?_append_right (by omega),
      List.getElem?_drop]
    congr 1
    omega

/-- Storing a byte and then those behind it. -/
theorem splice_cons {byte : UInt8} (inside : offset < data.length) :
    splice (data.set offset byte) (offset + 1) bytes = splice data offset (byte :: bytes) := by
  have whole : (data.take offset).length = offset := by
    rw [List.length_take]
    omega
  have front : (data.set offset byte).take (offset + 1) = data.take offset ++ [byte] := by
    rw [List.take_add_one, List.take_set_of_le (Nat.le_refl offset), List.getElem?_set_self inside]
    rfl
  have back : (data.set offset byte).drop (offset + 1 + bytes.length) =
      data.drop (offset + (byte :: bytes).length) := by
    rw [List.drop_set_of_lt (by omega), List.length_cons]
    congr 1
    omega
  rw [splice, front, back, splice, List.append_assoc]
  rfl

end Splice

theorem natLE_concat (bytes : List UInt8) (byte : UInt8) :
    natLE (bytes ++ [byte]) = natLE bytes + 256 ^ bytes.length * byte.toNat := by
  induction bytes with
  | nil => simp [natLE]
  | cons first bytes ih =>
      simp only [List.cons_append, natLE, ih, List.length_cons, Nat.pow_succ, Nat.mul_add]
      rw [Nat.mul_comm (256 ^ bytes.length) 256, Nat.mul_assoc, Nat.add_assoc]

section Remainders

/-- The remainder by a product, low part first. -/
theorem emod_mul_split (number : Int) {low high : Int} (low_pos : 0 < low) (high_pos : 0 < high) :
    number % (low * high) = number % low + low * (number / low % high) := by
  have parts := Int.emod_add_mul_ediv number low
  have more := Int.emod_add_mul_ediv (number / low) high
  have small := Int.emod_nonneg number (Int.ne_of_gt low_pos)
  have smaller := Int.emod_lt_of_pos number low_pos
  have digit := Int.emod_nonneg (number / low) (Int.ne_of_gt high_pos)
  have digit_lt := Int.emod_lt_of_pos (number / low) high_pos
  have bound : number % low + low * (number / low % high) < low * high := by
    have step := Int.mul_le_mul_of_nonneg_left (Int.add_one_le_of_lt digit_lt) (Int.le_of_lt low_pos)
    rw [Int.mul_add, Int.mul_one] at step
    omega
  have nonneg := Int.mul_nonneg (Int.le_of_lt low_pos) digit
  have whole : number = number % low + low * (number / low % high) +
      low * high * (number / low / high) := by
    calc number = number % low + low * (number / low) := parts.symm
      _ = number % low + low * (number / low % high + high * (number / low / high)) := by rw [more]
      _ = _ := by rw [Int.mul_add, Int.mul_assoc, Int.add_assoc]
  calc number % (low * high)
      = (number % low + low * (number / low % high) +
          low * high * (number / low / high)) % (low * high) := by rw [← whole]
    _ = _ := by rw [Int.add_mul_emod_self_left, Int.emod_eq_of_lt (by omega) bound]

/-- A mask of low bits is a remainder, for negative numbers too. -/
theorem land_mask (number : Int) (count : Nat) :
    Int.land number (2 ^ count - 1) = number % 2 ^ count := by
  induction count generalizing number with
  | zero =>
      have nothing : Int.land number 0 = 0 := by
        cases number <;> simp [Int.land, Nat.ldiff]
      simp [nothing]
  | succ count ih =>
      have ones : (2 : Int) ^ (count + 1) - 1 = Int.bit true (2 ^ count - 1) := by
        rw [Int.bit_val, Int.pow_succ]
        simp only [cond_true]
        omega
      have positive : (0 : Int) < 2 ^ count := Int.pow_pos (by decide)
      have high : number / 2 = number.div2 := (Int.div2_val number).symm
      have low : number % 2 = cond number.bodd 1 0 := by
        have parts := Int.bodd_add_div2 number
        omega
      calc Int.land number (2 ^ (count + 1) - 1)
          = Int.land (Int.bit number.bodd number.div2) (Int.bit true (2 ^ count - 1)) := by
            rw [Int.bit_decomp, ones]
        _ = number % 2 + 2 * (number / 2 % 2 ^ count) := by
            rw [Int.land_bit, ih, Bool.and_true, Int.bit_val, low, high, Int.add_comm]
        _ = number % 2 ^ (count + 1) := by
            rw [← emod_mul_split number (by decide) positive, Int.pow_succ, Int.mul_comm]

end Remainders

/-- The low 64 bits of an integer, in two's complement. -/
def word (value : Int) : List UInt8 := bytesLE 8 (value % 2 ^ 64).toNat

@[simp] theorem word_length (value : Int) : (word value).length = 8 := bytesLE_length 8 _

theorem natLE_word (value : Int) : (natLE (word value) : Int) = value % 2 ^ 64 := by
  rw [word, natLE_bytesLE]
  omega

/-- Which integers eight bytes stand for. -/
structure WordFormat where
  denote : List UInt8 → Int
  low : Int
  high : Int
  range : ∀ bytes, bytes.length = 8 → low ≤ denote bytes ∧ denote bytes < high
  denote_word : ∀ value, low ≤ value → value < high → denote (word value) = value

def unsigned64 : WordFormat where
  denote bytes := natLE bytes
  low := 0
  high := 2 ^ 64
  range := by
    intro bytes size
    have bound := natLE_lt bytes
    rw [size] at bound
    omega
  denote_word := by
    intro value nonneg small
    rw [natLE_word]
    exact Int.emod_eq_of_lt nonneg small

/-- Two's complement. -/
def signed64 : WordFormat where
  denote bytes := Int.bmod (natLE bytes) (2 ^ 64)
  low := -2 ^ 63
  high := 2 ^ 63
  range := by
    intro bytes _
    have lower := @Int.le_bmod (natLE bytes) (2 ^ 64) (by decide)
    have upper := @Int.bmod_lt (natLE bytes) (2 ^ 64) (by decide)
    omega
  denote_word := by
    intro value lower upper
    rw [natLE_word]
    exact (Int.emod_bmod value (2 ^ 64)).trans (Int.bmod_eq_of_le (by omega) (by omega))

namespace WordFormat

variable (format : WordFormat)

def Represents (value : Int) : Prop := format.low ≤ value ∧ value < format.high

theorem denote_word_iff (value : Int) :
    format.denote (word value) = value ↔ format.Represents value := by
  constructor
  · intro same
    rw [Represents, ← same]
    exact format.range _ (word_length value)
  · intro ⟨lower, upper⟩
    exact format.denote_word value lower upper

/-- `after` holds `value` at `offset` and is otherwise `before`. -/
structure Stored (value : Int) (offset : Nat) (before after : List UInt8) : Prop where
  value : format.denote ((after.drop offset).take 8) = value
  length : after.length = before.length
  frame : ∀ index, index < offset ∨ offset + 8 ≤ index → after[index]? = before[index]?

/-- The low bits of an integer are its word exactly if it has one. -/
theorem splice_stored_iff {value : Int} {offset : Nat} {before : List UInt8}
    (inside : offset + 8 ≤ before.length) :
    format.Stored value offset before (splice before offset (word value)) ↔
      format.Represents value := by
  have field : ((splice before offset (word value)).drop offset).take 8 = word value :=
    splice_field (word_length value) (by omega)
  have room : offset + (word value).length ≤ before.length := by rw [word_length]; exact inside
  rw [← denote_word_iff]
  constructor
  · intro stored
    have same := stored.value
    rw [field] at same
    exact same
  · intro same
    refine ⟨by rw [field, same], splice_length room, ?_⟩
    intro index outside
    exact splice_frame room (by rw [word_length]; exact outside)

end WordFormat
