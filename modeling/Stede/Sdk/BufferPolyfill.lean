import Stede.Lib.Buffer

set_option autoImplicit false

/- The methods that `client.ts` adds to a `Buffer` that lacks them. -/
namespace Stede.Sdk

inductive Thrown
  | typeError
  | outOfRange
  deriving DecidableEq

/-- A method that writes into the buffer it is called on: the index behind what it
wrote, and what the buffer holds then. -/
abbrev WriteMethod := Int → Nat → List UInt8 → Except Thrown (Nat × List UInt8)
abbrev ReadMethod := Nat → List UInt8 → Except Thrown Int

/-- `Buffer.prototype`: the methods a build has. -/
structure Proto where
  writeBigUInt64LE : Option WriteMethod
  readBigUInt64LE : Option ReadMethod
  writeBigInt64LE : Option WriteMethod

namespace Polyfill

/-- `count` more rounds of `this[index] = Number(v & 0xffn); v >>= 8n`. A store behind
the end of the buffer is ignored. -/
def writeRounds : Nat → Nat → Int → List UInt8 → List UInt8
  | 0, _, _, this => this
  | count + 1, index, v, this =>
      writeRounds count (index + 1) (v >>> (8 : Nat)) (this.set index (UInt8.ofInt (Int.land v 0xff)))

def writeBigUInt64LE : WriteMethod :=
  fun value offset this => .ok (offset + 8, writeRounds 8 offset value this)

/-- The rounds `r = (r << 8n) | BigInt(this[offset + i] & 0xff)` for `i` down to 0. Behind
the end of the buffer is `undefined`, and `undefined & 0xff` is 0. -/
def readRounds (offset : Nat) (this : List UInt8) : Nat → Int → Int
  | 0, r => r
  | i + 1, r =>
      readRounds offset this i (Int.lor (r <<< (8 : Nat)) (this[offset + i]?.getD 0 &&& 0xff).toNat)

def readBigUInt64LE : ReadMethod := fun offset this => .ok (readRounds offset this 8 0)

/-- `BigInt.asUintN`. -/
def asUintN (bits : Nat) (value : Int) : Int := value % 2 ^ bits

/-- `writeBigInt64LE` by the `writeBigUInt64LE` of the prototype. -/
def writeBigInt64LE (unsigned : WriteMethod) : WriteMethod :=
  fun value offset this => unsigned (asUintN 64 value) offset this

end Polyfill

/-- `_patchBuf` on a prototype. -/
def Proto.patch (proto : Proto) : Proto :=
  let unsigned := proto.writeBigUInt64LE.getD Polyfill.writeBigUInt64LE
  { writeBigUInt64LE := some unsigned
    readBigUInt64LE := some (proto.readBigUInt64LE.getD Polyfill.readBigUInt64LE)
    writeBigInt64LE := some (proto.writeBigInt64LE.getD (Polyfill.writeBigInt64LE unsigned)) }

/-- `_patchBuf`: where there is no prototype there is nothing to do. -/
def patchBuf (proto : Option Proto) : Option Proto := proto.map Proto.patch

/-- The amount that the token program reads where the instruction for a transfer of
`amount` base units has it: `BigInt(amount.toString())` written by `writeBigUInt64LE`. -/
def encodedAmount (proto : Proto) (amount : Int) (offset : Nat) (data : List UInt8) :
    Except Thrown Int :=
  match proto.writeBigUInt64LE with
  | none => .error .typeError
  | some write => do
      let (_, data) ← write amount offset data
      return natLE ((data.drop offset).take 8)

/-- The methods of a build that has them: a value without a word in the format is out of range. -/
def nativeWrite (format : WordFormat) : WriteMethod := fun value offset this =>
  if format.low ≤ value ∧ value < format.high ∧ offset + 8 ≤ this.length then
    .ok (offset + 8, splice this offset (word value))
  else .error .outOfRange

def nativeRead : ReadMethod := fun offset this =>
  if offset + 8 ≤ this.length then .ok (natLE ((this.drop offset).take 8))
  else .error .outOfRange

/-- The methods a prototype has are the native ones. -/
structure Proto.Native (proto : Proto) : Prop where
  writeBigUInt64LE : ∀ method ∈ proto.writeBigUInt64LE, method = nativeWrite unsigned64
  readBigUInt64LE : ∀ method ∈ proto.readBigUInt64LE, method = nativeRead
  writeBigInt64LE : ∀ method ∈ proto.writeBigInt64LE, method = nativeWrite signed64

/-- The value is stored as it is, or it has no word and the method throws. -/
def Faithful (format : WordFormat) (value : Int) (offset : Nat) (this : List UInt8) :
    Except Thrown (Nat × List UInt8) → Prop
  | .ok (next, after) => next = offset + 8 ∧ format.Stored value offset this after
  | .error _ => ¬ format.Represents value

/-- What the polyfill stored it reads back. -/
def ReadsBack (value : Int) (offset : Nat) : Except Thrown (Nat × List UInt8) → Prop
  | .ok (_, after) => Polyfill.readBigUInt64LE offset after = .ok value
  | .error _ => True

namespace Polyfill

theorem mask_byte (v : Int) : Int.land v 0xff = v % 256 := land_mask v 8

/-- The rounds of the write store the low bytes of the value. -/
theorem writeRounds_eq (count index : Nat) (v : Int) (this : List UInt8)
    (inside : index + count ≤ this.length) :
    writeRounds count index v this = splice this index (bytesLE count (v % 256 ^ count).toNat) := by
  induction count generalizing index v this with
  | zero => simp [writeRounds, bytesLE, splice]
  | succ count ih =>
      have room : index + 1 + count ≤ (this.set index (UInt8.ofInt (v % 256))).length := by
        rw [List.length_set]
        omega
      have base : (0 : Int) < 256 ^ count := Int.pow_pos (by decide)
      have shifted : v >>> (8 : Nat) = v / 256 := Int.shiftRight_eq_div_pow v 8
      have digits : v % 256 ^ (count + 1) = v % 256 + 256 * (v / 256 % 256 ^ count) := by
        rw [Int.pow_succ, Int.mul_comm]
        exact emod_mul_split v (by decide) base
      have high := Int.emod_nonneg (v / 256) (Int.ne_of_gt base)
      have first : UInt8.ofNat (v % 256 ^ (count + 1)).toNat = UInt8.ofInt (v % 256) := by
        apply UInt8.toNat_inj.mp
        rw [digits, UInt8.ofInt, UInt8.toNat_ofNat', UInt8.toNat_ofNat']
        omega
      have rest : (v % 256 ^ (count + 1)).toNat / 256 = (v / 256 % 256 ^ count).toNat := by
        rw [digits]
        omega
      rw [writeRounds, mask_byte, ih _ _ _ room, splice_cons (by omega), shifted, bytesLE, first, rest]

theorem byte_mask (byte : UInt8) : (byte &&& 0xff).toNat = byte.toNat := by
  rw [UInt8.toNat_and]
  exact Nat.and_two_pow_sub_one_of_lt_two_pow byte.toNat_lt

/-- A byte below a number. -/
theorem shift_or (r : Nat) (byte : UInt8) :
    Int.lor ((r : Int) <<< (8 : Nat)) (byte.toNat : Int) = ((r * 256 + byte.toNat : Nat) : Int) := by
  have sum : r <<< 8 ||| byte.toNat = r * 256 + byte.toNat := by
    rw [← Nat.shiftLeft_add_eq_or_of_lt byte.toNat_lt, Nat.shiftLeft_eq]
  rw [← sum]
  rfl

/-- The rounds of the read put the bytes together from the top. -/
theorem readRounds_eq (offset : Nat) (this : List UInt8) (count r : Nat)
    (inside : offset + count ≤ this.length) :
    readRounds offset this count r =
      ((r * 256 ^ count + natLE ((this.drop offset).take count) : Nat) : Int) := by
  induction count generalizing r with
  | zero => simp [readRounds, natLE]
  | succ i ih =>
      have below : i < (this.drop offset).length := by
        rw [List.length_drop]
        omega
      have here : this[offset + i]?.getD 0 = (this.drop offset)[i] := by
        rw [List.getElem_drop, List.getElem?_eq_getElem (by omega)]
        rfl
      have size : ((this.drop offset).take i).length = i := by
        rw [List.length_take]
        omega
      rw [readRounds, byte_mask, shift_or, ih _ (by omega), ← List.take_append_getElem below,
        natLE_concat, size, here]
      congr 1
      ring

theorem word_asUintN (value : Int) : word (asUintN 64 value) = word value := by
  rw [word, asUintN, Int.emod_emod_of_dvd value (Int.dvd_refl _)]
  rfl

theorem asUintN_represented (value : Int) : unsigned64.Represents (asUintN 64 value) := by
  have modulus : (0 : Int) < 2 ^ 64 := by decide
  exact ⟨Int.emod_nonneg value (Int.ne_of_gt modulus), Int.emod_lt_of_pos value modulus⟩

section Buffers

variable {this : List UInt8} {offset : Nat} (inside : offset + 8 ≤ this.length)
include inside

/-- Whatever the value, the polyfill stores its low 64 bits. -/
theorem writeBigUInt64LE_eq (value : Int) :
    writeBigUInt64LE value offset this = .ok (offset + 8, splice this offset (word value)) := by
  rw [writeBigUInt64LE, writeRounds_eq 8 offset value this inside]
  rfl

theorem readBigUInt64LE_eq :
    readBigUInt64LE offset this = .ok (natLE ((this.drop offset).take 8)) := by
  have read := readRounds_eq offset this 8 0 inside
  rw [Nat.zero_mul, Nat.zero_add] at read
  rw [readBigUInt64LE, ← read]
  rfl

theorem nativeWrite_eq (format : WordFormat) {value : Int} (represented : format.Represents value) :
    nativeWrite format value offset this = .ok (offset + 8, splice this offset (word value)) := by
  rw [nativeWrite, if_pos ⟨represented.1, represented.2, inside⟩]

/-- A method that stores the low bits is faithful on the values that have a word. -/
theorem word_faithful_iff (format : WordFormat) (value : Int) :
    Faithful format value offset this (.ok (offset + 8, splice this offset (word value))) ↔
      format.Represents value := by
  simp only [Faithful, true_and]
  exact format.splice_stored_iff inside

theorem word_readsBack {value : Int} (represented : unsigned64.Represents value) :
    ReadsBack value offset (.ok (offset + 8, splice this offset (word value))) := by
  have room : offset + 8 ≤ (splice this offset (word value)).length := by
    rw [splice_length (by rw [word_length]; exact inside)]
    exact inside
  have stored := (unsigned64.splice_stored_iff inside).mpr represented
  have denoted : (natLE (((splice this offset (word value)).drop offset).take 8) : Int) = value :=
    stored.value
  rw [ReadsBack, readBigUInt64LE_eq room, denoted]

/-- With either method for unsigned words the polyfill stores the low 64 bits. -/
theorem writeBigInt64LE_eq {unsigned : WriteMethod} (value : Int)
    (either : unsigned = writeBigUInt64LE ∨ unsigned = nativeWrite unsigned64) :
    writeBigInt64LE unsigned value offset this =
      .ok (offset + 8, splice this offset (word value)) := by
  rw [writeBigInt64LE, ← word_asUintN value]
  rcases either with polyfill | native
  · rw [polyfill]
    exact writeBigUInt64LE_eq inside _
  · rw [native]
    exact nativeWrite_eq inside unsigned64 (asUintN_represented value)

end Buffers

end Polyfill

namespace Proto

variable {proto : Proto}

theorem patch_unsigned (lacks : proto.writeBigUInt64LE = none) :
    proto.patch.writeBigUInt64LE = some Polyfill.writeBigUInt64LE := by
  simp only [patch, lacks, Option.getD_none]

/-- Whatever the build has, the patched prototype has one of the two methods. -/
theorem patch_signed (native : proto.Native) (lacks : proto.writeBigInt64LE = none) :
    ∃ unsigned, (unsigned = Polyfill.writeBigUInt64LE ∨ unsigned = nativeWrite unsigned64) ∧
      proto.patch.writeBigInt64LE = some (Polyfill.writeBigInt64LE unsigned) := by
  refine ⟨proto.writeBigUInt64LE.getD Polyfill.writeBigUInt64LE, ?_, ?_⟩
  · cases has : proto.writeBigUInt64LE with
    | none => exact Or.inl rfl
    | some method => exact Or.inr (native.writeBigUInt64LE method has)
  · simp only [patch, lacks, Option.getD_none]

end Proto

/-- The methods that the patch adds are faithful for the values that have a word in
their format and for no others, and so a requested amount is encoded as another one
exactly if it has none. -/
theorem polyfill_faithful_iff (proto : Proto) (native : proto.Native) (this : List UInt8)
    (offset : Nat) (inside : offset + 8 ≤ this.length) (value : Int) :
    (proto.writeBigUInt64LE = none → ∃ write, proto.patch.writeBigUInt64LE = some write ∧
      (Faithful unsigned64 value offset this (write value offset this) ∧
        ReadsBack value offset (write value offset this) ↔ 0 ≤ value ∧ value < 2 ^ 64)) ∧
    (proto.writeBigInt64LE = none → ∃ write, proto.patch.writeBigInt64LE = some write ∧
      (Faithful signed64 value offset this (write value offset this) ↔
        -2 ^ 63 ≤ value ∧ value < 2 ^ 63)) ∧
    (proto.writeBigUInt64LE = none →
      ((∀ encoded, encodedAmount proto.patch value offset this = .ok encoded → encoded = value) ↔
        0 ≤ value ∧ value < 2 ^ 64)) := by
  refine ⟨?_, ?_, ?_⟩
  · intro lacks
    refine ⟨_, Proto.patch_unsigned lacks, ?_⟩
    rw [Polyfill.writeBigUInt64LE_eq inside]
    constructor
    · intro ⟨faithful, _⟩
      exact (Polyfill.word_faithful_iff inside unsigned64 value).mp faithful
    · intro represented
      exact ⟨(Polyfill.word_faithful_iff inside unsigned64 value).mpr represented,
        Polyfill.word_readsBack inside represented⟩
  · intro lacks
    have ⟨unsigned, either, patched⟩ := Proto.patch_signed native lacks
    refine ⟨_, patched, ?_⟩
    rw [Polyfill.writeBigInt64LE_eq inside value either]
    exact Polyfill.word_faithful_iff inside signed64 value
  · intro lacks
    have encoded : encodedAmount proto.patch value offset this = .ok (unsigned64.denote (word value)) := by
      simp only [encodedAmount, Proto.patch_unsigned lacks, Polyfill.writeBigUInt64LE_eq inside]
      show Except.ok _ = _
      rw [splice_field (word_length value) (by omega)]
      rfl
    rw [encoded]
    simp only [Except.ok.injEq, forall_eq']
    exact unsigned64.denote_word_iff value

/-- The prototype of a build without the methods. -/
def Proto.bare : Proto := ⟨none, none, none⟩

theorem Proto.bare_native : Proto.bare.Native where
  writeBigUInt64LE := nofun
  readBigUInt64LE := nofun
  writeBigInt64LE := nofun

theorem polyfill_faithful_iff_sample :
    (∃ write, Proto.bare.patch.writeBigUInt64LE = some write ∧
      Faithful unsigned64 7 1 (List.replicate 10 0) (write 7 1 (List.replicate 10 0)) ∧
      ReadsBack 7 1 (write 7 1 (List.replicate 10 0))) ∧
    (∃ write, Proto.bare.patch.writeBigInt64LE = some write ∧
      Faithful signed64 7 1 (List.replicate 10 0) (write 7 1 (List.replicate 10 0))) ∧
    ∀ encoded, encodedAmount Proto.bare.patch 7 1 (List.replicate 10 0) = .ok encoded →
      encoded = 7 := by
  have ⟨unsigned, signed, amount⟩ :=
    polyfill_faithful_iff Proto.bare Proto.bare_native (List.replicate 10 0) 1 (by decide) 7
  refine ⟨?_, ?_, (amount rfl).mpr (by decide)⟩
  · have ⟨write, patched, faithful⟩ := unsigned rfl
    exact ⟨write, patched, faithful.mpr (by decide)⟩
  · have ⟨write, patched, faithful⟩ := signed rfl
    exact ⟨write, patched, faithful.mpr (by decide)⟩

/-- `2^64` is stored as 0, -1 as `2^64 - 1` and, signed, `2^63` as `-2^63`; a transfer of
`2^64 + 5` is encoded as one of 5. -/
theorem polyfill_wraps :
    (Polyfill.writeBigUInt64LE (2 ^ 64) 0 (List.replicate 8 0) = .ok (8, List.replicate 8 0) ∧
      ¬ Faithful unsigned64 (2 ^ 64) 0 (List.replicate 8 0)
        (Polyfill.writeBigUInt64LE (2 ^ 64) 0 (List.replicate 8 0))) ∧
    (Polyfill.writeBigUInt64LE (-1) 0 (List.replicate 8 0) = .ok (8, List.replicate 8 255) ∧
      ¬ Faithful unsigned64 (-1) 0 (List.replicate 8 0)
        (Polyfill.writeBigUInt64LE (-1) 0 (List.replicate 8 0))) ∧
    (Polyfill.writeBigInt64LE Polyfill.writeBigUInt64LE (2 ^ 63) 0 (List.replicate 8 0) =
        .ok (8, [0, 0, 0, 0, 0, 0, 0, 128]) ∧
      ¬ Faithful signed64 (2 ^ 63) 0 (List.replicate 8 0)
        (Polyfill.writeBigInt64LE Polyfill.writeBigUInt64LE (2 ^ 63) 0 (List.replicate 8 0))) ∧
    encodedAmount Proto.bare.patch (2 ^ 64 + 5) 1 (List.replicate 10 0) = .ok 5 := by
  have inside : 0 + 8 ≤ (List.replicate 8 (0 : UInt8)).length := by decide
  refine ⟨⟨by decide +kernel, ?_⟩, ⟨by decide +kernel, ?_⟩, ⟨by decide +kernel, ?_⟩,
    by decide +kernel⟩
  · rw [Polyfill.writeBigUInt64LE_eq inside, Polyfill.word_faithful_iff inside]
    exact fun represented => absurd represented.2 (by decide)
  · rw [Polyfill.writeBigUInt64LE_eq inside, Polyfill.word_faithful_iff inside]
    exact fun represented => absurd represented.1 (by decide)
  · rw [Polyfill.writeBigInt64LE_eq inside _ (Or.inl rfl), Polyfill.word_faithful_iff inside]
    exact fun represented => absurd represented.2 (by decide)

end Stede.Sdk
