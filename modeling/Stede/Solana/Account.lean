import Mathlib
import Stede.Errors
import Stede.Solana.Pubkey

set_option autoImplicit false

namespace Stede

/-- The state of one address. An address nobody ever used is `Account.absent`. -/
structure Account where
  lamports : Nat
  data : List UInt8
  owner : Pubkey
deriving DecidableEq

def Account.absent : Account := ⟨0, [], Programs.system⟩

/-- `data_is_empty() || lamports() == 0`: how every rule asks whether it is configured. -/
def Account.unconfigured (account : Account) : Bool :=
  account.data.isEmpty || account.lamports == 0

abbrev Ledger := Pubkey → Account

/-- An account reference of an instruction, with the privileges it carries. -/
structure AccountMeta where
  pubkey : Pubkey
  isSigner : Bool
  isWritable : Bool
deriving DecidableEq

/-- `Signer<'info>`: the runtime sets the flag for a key whose signature it has
verified, which only a key that can sign gets. -/
def AccountMeta.signed (rt : Runtime) (account : AccountMeta) : Bool :=
  account.isSigner && rt.canSign account.pubkey

/-- `#[account(mut)]` on such a signer, which pays or is refunded. -/
def AccountMeta.pays (rt : Runtime) (account : AccountMeta) : Bool :=
  account.signed rt && account.isWritable

/-- Lamports leave an account only where the instruction passes it writable. -/
def AccountMeta.charged (payer : AccountMeta) (amount : Nat) : Except Error Unit :=
  require (amount = 0 ∨ payer.isWritable) (.program .privilegeEscalation)

/-- The fields of the clock sysvar that the programs read. -/
structure Clock where
  slot : UInt64
  unixTimestamp : Int64

/-- A call of a rule's `check_transfer`, at its time. -/
structure Check where
  clock : Clock
  amount : UInt64

/-- What an instruction sees of its transaction: the clock and, through the
instructions sysvar, the account metas of every top-level instruction and the
index of the one being executed. -/
structure Env where
  clock : Clock
  instructions : List (List AccountMeta)
  currentIndex : Nat

theorem AccountMeta.pays_iff (rt : Runtime) (account : AccountMeta) :
    account.pays rt = true ↔ account.signed rt = true ∧ account.isWritable = true :=
  Bool.and_eq_true_iff

theorem AccountMeta.signed_of_pays {rt : Runtime} {account : AccountMeta}
    (pays : account.pays rt = true) : account.signed rt = true :=
  ((account.pays_iff rt).mp pays).1

theorem AccountMeta.writable_of_pays {rt : Runtime} {account : AccountMeta}
    (pays : account.pays rt = true) : account.isWritable = true :=
  ((account.pays_iff rt).mp pays).2

theorem AccountMeta.pays_of_canSign {rt : Runtime} {key : Pubkey} (signs : rt.canSign key = true) :
    AccountMeta.pays rt ⟨key, true, true⟩ = true := by
  simp only [AccountMeta.pays, AccountMeta.signed, signs, Bool.and_self]

theorem AccountMeta.charged_eq_ok (payer : AccountMeta) (amount : Nat) (result : Unit) :
    payer.charged amount = .ok result ↔ amount = 0 ∨ payer.isWritable = true :=
  require_eq_ok _ _ _

/-- Replacing one account. -/
abbrev Ledger.write (ledger : Ledger) (key : Pubkey) (account : Account) : Ledger :=
  Function.update ledger key account

@[simp] theorem Ledger.write_self (ledger : Ledger) (key : Pubkey) (account : Account) :
    ledger.write key account key = account := Function.update_self ..

theorem Ledger.write_of_ne {ledger : Ledger} {key other : Pubkey} {account : Account}
    (apart : other ≠ key) : ledger.write key account other = ledger other :=
  Function.update_of_ne apart ..

/-- `&data[low..high]`, which panics when it is out of range. -/
def slice (data : List UInt8) (low high : Nat) : Except Error (List UInt8) :=
  if high ≤ data.length then .ok ((data.drop low).take (high - low))
  else .error (.program .panicked)

/-- `Pubkey::try_from(&data[low..low + 32]).map_err(..)?`. -/
def readPubkey (data : List UInt8) (low : Nat) (error : Error) : Except Error Pubkey := do
  let bytes ← slice data low (low + 32)
  okOr (Pubkey.tryFrom bytes) error

/-- `u64::from_le_bytes(data[low..low + 8].try_into()..)`. -/
def readU64 (data : List UInt8) (low : Nat) : Except Error UInt64 := do
  let bytes ← slice data low (low + 8)
  return UInt64.ofNat (natLE bytes)

/-- `i64::from_le_bytes(data[low..low + 8].try_into()..)`. -/
def readI64 (data : List UInt8) (low : Nat) : Except Error Int64 := do
  let word ← readU64 data low
  return word.toInt64

/-- `data[index]`, which panics when it is out of range. -/
def readByte (data : List UInt8) (index : Nat) : Except Error UInt8 :=
  okOr data[index]? (.program .panicked)

theorem slice_of_le {data : List UInt8} {low high : Nat} (inside : high ≤ data.length) :
    slice data low high = .ok ((data.drop low).take (high - low)) := by
  simp only [slice, inside, ↓reduceIte]

/-- Enough bytes are all that reading a key takes. -/
theorem readPubkey_eq_ok (data : List UInt8) (low : Nat) (error : Error) (key : Pubkey) :
    readPubkey data low error = .ok key ↔
      low + 32 ≤ data.length ∧ key.bytes = (data.drop low).take 32 := by
  by_cases inside : low + 32 ≤ data.length
  · have size : ((data.drop low).take 32).length = 32 := by
      simp only [List.length_take, List.length_drop]
      omega
    have width : low + 32 - low = 32 := by omega
    simp only [readPubkey, slice_of_le inside, width, ok_bind, Pubkey.tryFrom, size, ↓reduceDIte,
      okOr, Except.ok.injEq, inside, true_and]
    constructor
    · intro same
      rw [← same]
    · intro same
      exact Pubkey.bytes_injective same.symm
  · simp [readPubkey, bind_eq_ok, slice, inside]

@[simp] theorem slice_eq_error (data : List UInt8) (low high : Nat) (reason : Error) :
    slice data low high = .error reason ↔ data.length < high ∧ .program .panicked = reason := by
  unfold slice
  split
  · rename_i inside
    simp [Nat.not_lt_of_le inside]
  · rename_i outside
    simp [Nat.lt_of_not_le outside]

@[simp] theorem readI64_eq_error (data : List UInt8) (low : Nat) (reason : Error) :
    readI64 data low = .error reason ↔
      data.length < low + 8 ∧ .program .panicked = reason := by
  simp [readI64, readU64, bind_eq_error, pure, Except.pure]

@[simp] theorem readByte_eq_error (data : List UInt8) (index : Nat) (reason : Error) :
    readByte data index = .error reason ↔ data.length ≤ index ∧ .program .panicked = reason := by
  simp [readByte]

/- Reading a field that stands right behind `front`. -/
section Fields

variable {front : List UInt8} {low : Nat} (start : front.length = low) (back : List UInt8)
include start

theorem slice_field {high : Nat} (field : List UInt8) (stop : low + field.length = high) :
    slice (front ++ (field ++ back)) low high = .ok field := by
  have inside : high ≤ (front ++ (field ++ back)).length := by
    simp only [List.length_append]
    omega
  have width : high - low = field.length := by omega
  rw [slice_of_le inside, width, ← start, List.drop_left, List.take_left]

theorem readPubkey_field (key : Pubkey) (error : Error) :
    readPubkey (front ++ (key.bytes ++ back)) low error = .ok key := by
  have stop : low + key.bytes.length = low + 32 := by rw [key.size]
  simp only [readPubkey, slice_field start back key.bytes stop, bind, Except.bind,
    Pubkey.tryFrom_bytes, okOr]

theorem readU64_field (word : UInt64) :
    readU64 (front ++ (Codec.uint64.encode word ++ back)) low = .ok word := by
  have stop : low + (Codec.uint64.encode word).length = low + 8 := by
    rw [Codec.encode_length]
    exact congrArg (low + ·) rfl
  have same : UInt64.ofNat (natLE (Codec.uint64.encode word)) = word :=
    uint64Equiv.apply_symm_apply word
  simp only [readU64, slice_field start back _ stop, bind, Except.bind, pure, Except.pure, same]

theorem readI64_field (word : Int64) :
    readI64 (front ++ (Codec.int64.encode word ++ back)) low = .ok word := by
  have read := readU64_field start back word.toUInt64
  have same : Codec.int64.encode word = Codec.uint64.encode word.toUInt64 := rfl
  simp only [readI64, same, read, bind, Except.bind, pure, Except.pure]
  rfl

theorem readByte_field (byte : UInt8) :
    readByte (front ++ (Codec.byte.encode byte ++ back)) low = .ok byte := by
  have same : Codec.byte.encode byte = [byte] := rfl
  have found : (front ++ ([byte] ++ back))[low]? = some byte := by
    rw [List.getElem?_append_right (by omega), start, Nat.sub_self]
    rfl
  simp only [readByte, same, found, okOr]

end Fields

end Stede
