import Mathlib

set_option autoImplicit false

/-- The `count` low bytes of a number, least significant first. -/
def bytesLE : Nat → Nat → List UInt8
  | 0, _ => []
  | count + 1, number => UInt8.ofNat number :: bytesLE count (number / 256)

/-- The number a little-endian byte string denotes. -/
def natLE : List UInt8 → Nat
  | [] => 0
  | byte :: bytes => byte.toNat + 256 * natLE bytes

@[simp] theorem bytesLE_length (count number : Nat) : (bytesLE count number).length = count := by
  induction count generalizing number with
  | zero => rfl
  | succ count ih => simp only [bytesLE, List.length_cons, ih]

theorem natLE_lt (bytes : List UInt8) : natLE bytes < 256 ^ bytes.length := by
  induction bytes with
  | nil => simp only [natLE, List.length_nil, Nat.pow_zero, Nat.zero_lt_one]
  | cons byte bytes ih =>
      have low := byte.toNat_lt
      simp only [natLE, List.length_cons, Nat.pow_succ]
      omega

theorem bytesLE_natLE (bytes : List UInt8) : bytesLE bytes.length (natLE bytes) = bytes := by
  induction bytes with
  | nil => rfl
  | cons byte bytes ih =>
      have low := byte.toNat_lt
      have quotient : (byte.toNat + 256 * natLE bytes) / 256 = natLE bytes := by omega
      have head : UInt8.ofNat (byte.toNat + 256 * natLE bytes) = byte := by
        apply UInt8.toNat_inj.mp
        rw [UInt8.toNat_ofNat']
        omega
      simp only [natLE, List.length_cons, bytesLE, quotient, head, ih]

theorem natLE_bytesLE (count number : Nat) :
    natLE (bytesLE count number) = number % 256 ^ count := by
  induction count generalizing number with
  | zero => simp only [bytesLE, natLE, Nat.pow_zero, Nat.mod_one]
  | succ count ih =>
      have low : (UInt8.ofNat number).toNat = number % 256 := UInt8.toNat_ofNat'
      rw [bytesLE, natLE, ih, low, Nat.pow_succ, Nat.mul_comm, Nat.mul_comm (256 ^ count) 256,
        Nat.mod_mul, Nat.mul_comm]

/-- A canonical fixed-width codec. `decode` reads one value off the front of a
byte string and returns the rest; it accepts exactly what `encode` writes. -/
structure Codec (α : Type) where
  width : Nat
  encode : α → List UInt8
  decode : List UInt8 → Option (α × List UInt8)
  encode_length : ∀ value, (encode value).length = width
  decode_encode : ∀ value rest, decode (encode value ++ rest) = some (value, rest)
  decode_sound : ∀ bytes value rest, decode bytes = some (value, rest) →
    bytes = encode value ++ rest

namespace Codec

variable {α β : Type}

attribute [simp] encode_length decode_encode

/-- A fixed number of uninterpreted bytes. -/
def raw (width : Nat) : Codec { bytes : List UInt8 // bytes.length = width } where
  width := width
  encode value := value.val
  decode bytes :=
    if long : width ≤ bytes.length then
      some (⟨bytes.take width, List.length_take_of_le long⟩, bytes.drop width)
    else none
  encode_length value := value.property
  decode_encode := by
    rintro ⟨bytes, rfl⟩ rest
    simp
  decode_sound := by
    intro bytes value rest decoded
    split at decoded
    · obtain ⟨rfl, rfl⟩ := Prod.mk.inj (Option.some.inj decoded)
      exact (List.take_append_drop width bytes).symm
    · cases decoded

/-- Change of representation along a bijection. -/
def imap (codec : Codec α) (equiv : α ≃ β) : Codec β where
  width := codec.width
  encode value := codec.encode (equiv.symm value)
  decode bytes := (codec.decode bytes).map fun read => (equiv read.1, read.2)
  encode_length value := codec.encode_length _
  decode_encode := by
    intro value rest
    simp
  decode_sound := by
    intro bytes value rest decoded
    obtain ⟨read, accepted, same⟩ := Option.map_eq_some_iff.mp decoded
    obtain ⟨rfl, rfl⟩ := Prod.mk.inj same
    simpa using codec.decode_sound bytes read.1 read.2 accepted

/-- Two fields, the left one first. -/
def prod (first : Codec α) (second : Codec β) : Codec (α × β) where
  width := first.width + second.width
  encode value := first.encode value.1 ++ second.encode value.2
  decode bytes := do
    let (left, rest) ← first.decode bytes
    let (right, rest) ← second.decode rest
    return ((left, right), rest)
  encode_length value := by simp
  decode_encode := by
    intro value rest
    simp [List.append_assoc]
  decode_sound := by
    intro bytes value rest decoded
    simp only [Option.pure_def, Option.bind_eq_bind, Option.bind_eq_some_iff, Option.some.injEq,
      Prod.mk.injEq] at decoded
    obtain ⟨⟨left, middle⟩, readLeft, ⟨right, last⟩, readRight, rfl, rfl⟩ := decoded
    have front := first.decode_sound _ _ _ readLeft
    have back : middle = second.encode right ++ last := second.decode_sound _ _ _ readRight
    rw [front, back, List.append_assoc]

/-- Reading `count` values in a row. -/
def decodeMany (codec : Codec α) : Nat → List UInt8 → Option (List α × List UInt8)
  | 0, bytes => some ([], bytes)
  | count + 1, bytes => do
      let (value, rest) ← codec.decode bytes
      let (values, rest) ← decodeMany codec count rest
      return (value :: values, rest)

theorem decodeMany_encode (codec : Codec α) (values : List α) (rest : List UInt8) :
    codec.decodeMany values.length (values.flatMap codec.encode ++ rest) = some (values, rest) := by
  induction values with
  | nil => rfl
  | cons value values ih =>
      simp [decodeMany, List.append_assoc, ih]

theorem decodeMany_sound (codec : Codec α) (count : Nat) (bytes : List UInt8) (values : List α)
    (rest : List UInt8) (decoded : codec.decodeMany count bytes = some (values, rest)) :
    values.length = count ∧ bytes = values.flatMap codec.encode ++ rest := by
  induction count generalizing bytes values with
  | zero =>
      obtain ⟨rfl, rfl⟩ := Prod.mk.inj (Option.some.inj decoded)
      exact ⟨rfl, rfl⟩
  | succ count ih =>
      simp only [decodeMany, Option.pure_def, Option.bind_eq_bind, Option.bind_eq_some_iff,
        Option.some.injEq, Prod.mk.injEq] at decoded
      obtain ⟨⟨value, middle⟩, first, ⟨others, last⟩, more, rfl, rfl⟩ := decoded
      obtain ⟨size, same⟩ := ih middle others more
      refine ⟨by simp only [List.length_cons, size], ?_⟩
      rw [codec.decode_sound _ _ _ first, List.flatMap_cons, List.append_assoc]
      exact congrArg _ same

/-- A fixed-length array of values. -/
def array (count : Nat) (codec : Codec α) : Codec { values : List α // values.length = count } where
  width := count * codec.width
  encode values := values.val.flatMap codec.encode
  decode bytes :=
    match read : codec.decodeMany count bytes with
    | none => none
    | some (values, rest) =>
        some (⟨values, (codec.decodeMany_sound count bytes values rest read).1⟩, rest)
  encode_length := by
    rintro ⟨values, rfl⟩
    induction values with
    | nil => simp
    | cons value values ih =>
        simp only [List.flatMap_cons, List.length_append, encode_length, List.length_cons] at ih ⊢
        rw [ih, Nat.succ_mul, Nat.add_comm]
  decode_encode := by
    rintro ⟨values, rfl⟩ rest
    have read := codec.decodeMany_encode values rest
    split
    · rename_i missing
      rw [read] at missing
      cases missing
    · rename_i others last found
      rw [read] at found
      obtain ⟨rfl, rfl⟩ := Prod.mk.inj (Option.some.inj found)
      rfl
  decode_sound := by
    intro bytes values rest decoded
    split at decoded
    · cases decoded
    · rename_i others last found
      obtain ⟨rfl, rfl⟩ := Prod.mk.inj (Option.some.inj decoded)
      exact (codec.decodeMany_sound count bytes others last found).2

end Codec

/-- A byte is a byte string of length one. -/
def byteEquiv : { bytes : List UInt8 // bytes.length = 1 } ≃ UInt8 where
  toFun bytes := bytes.val.head (by
    have size := bytes.property
    intro empty
    simp [empty] at size)
  invFun byte := ⟨[byte], rfl⟩
  left_inv := by
    rintro ⟨bytes, size⟩
    obtain ⟨byte, rfl⟩ := List.length_eq_one_iff.mp size
    rfl
  right_inv byte := rfl

/-- A little-endian unsigned word. -/
def uint64Equiv : { bytes : List UInt8 // bytes.length = 8 } ≃ UInt64 where
  toFun bytes := UInt64.ofNat (natLE bytes.val)
  invFun word := ⟨bytesLE 8 word.toNat, bytesLE_length 8 _⟩
  left_inv := by
    rintro ⟨bytes, size⟩
    have bound := natLE_lt bytes
    rw [size] at bound
    apply Subtype.ext
    simp only [UInt64.toNat_ofNat', Nat.mod_eq_of_lt (show natLE bytes < 2 ^ 64 by omega)]
    rw [← size]
    exact bytesLE_natLE bytes
  right_inv := by
    intro word
    have bound := word.toNat_lt
    apply UInt64.toNat_inj.mp
    simp only [natLE_bytesLE, UInt64.toNat_ofNat']
    omega

/-- A signed word is the unsigned word with the same bits. -/
def int64Equiv : UInt64 ≃ Int64 where
  toFun word := word.toInt64
  invFun word := word.toUInt64
  left_inv _ := rfl
  right_inv _ := rfl

namespace Codec

def byte : Codec UInt8 := (raw 1).imap byteEquiv
def uint64 : Codec UInt64 := (raw 8).imap uint64Equiv
def int64 : Codec Int64 := uint64.imap int64Equiv

end Codec
