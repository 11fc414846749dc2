import Mathlib
import Stede.Solana.Anchor

set_option autoImplicit false

/- The program `stede_rule_friend_gate`. -/
namespace Stede

structure FriendGate where
  sender : Pubkey
  stedeMint : Pubkey
  threshold : UInt64
  friendWallet : Pubkey
  bump : UInt8
deriving DecidableEq

namespace FriendGate

def fields : Pubkey × Pubkey × UInt64 × Pubkey × UInt8 ≃ FriendGate where
  toFun := fun (sender, stedeMint, threshold, friendWallet, bump) =>
    ⟨sender, stedeMint, threshold, friendWallet, bump⟩
  invFun value := (value.sender, value.stedeMint, value.threshold, value.friendWallet, value.bump)
  left_inv _ := rfl
  right_inv _ := rfl

def kind : ConfigKind FriendGate where
  program := Programs.stedeRuleFriendGate
  discriminator := [97, 209, 185, 159, 244, 105, 156, 201]
  codec := (Pubkey.codec.prod (Pubkey.codec.prod (Codec.uint64.prod (Pubkey.codec.prod
    Codec.byte)))).imap fields
  zero := ⟨.default, .default, 0, .default, 0⟩
  discriminator_length := rfl
  encode_zero := by decide
  seedPrefix := byteString "rule_friend_gate"
  sender := FriendGate.sender
  stedeMint := FriendGate.stedeMint
  bump := FriendGate.bump
  foreign := by decide +kernel

/-- The body of `set_friend_gate_handler`. -/
def setFriendGateHandler (sender stedeMint : Pubkey) (bump : UInt8) (threshold : UInt64)
    (friendWallet : Pubkey) (friendGate : FriendGate) : Except Error FriendGate := do
  require (0 < threshold) (.friendGate .zeroThreshold)
  require (friendWallet ≠ .default) (.friendGate .zeroFriend)
  require (friendWallet ≠ sender) (.friendGate .friendIsSelf)
  let friendGate :=
    if friendGate.sender = .default then
      { friendGate with sender := sender, stedeMint := stedeMint, bump := bump }
    else friendGate
  return { friendGate with threshold := threshold, friendWallet := friendWallet }

def setFriendGate (rt : Runtime) (ledger : Ledger) (accounts : SetConfig) (threshold : UInt64)
    (friendWallet : Pubkey) : Except Error Ledger :=
  kind.set rt ledger accounts fun bump =>
    setFriendGateHandler accounts.sender.pubkey accounts.stedeMint bump threshold friendWallet

def disableFriendGate (rt : Runtime) (ledger : Ledger) (accounts : DisableConfig) :
    Except Error Ledger :=
  kind.disable rt ledger accounts

/-- `load_instruction_at_checked` succeeds exactly on an index of the list. -/
def loadInstructionAt (env : Env) (index : Nat) : Option (List AccountMeta) :=
  env.instructions[index]?

/-- The scan over instructions `0..=current_index`, skipping those that fail to load. -/
def friendSigned (env : Env) (friendWallet : Pubkey) : Bool :=
  (List.range (env.currentIndex + 1)).any fun index =>
    match loadInstructionAt env index with
    | some accounts => accounts.any fun acc => acc.isSigner && acc.pubkey == friendWallet
    | none => false

/-- `check_transfer_handler`; the config is read at fixed offsets, without its
discriminator. -/
def checkTransferHandler (rt : Runtime) (env : Env) (key : Pubkey) (config : Account)
    (instructionsSysvar : Pubkey) (amount : UInt64) : Except Error Unit :=
  if config.unconfigured then .ok ()
  else do
    require (8 + kind.codec.width ≤ config.data.length) (.friendGate .sysvarReadFailed)
    let configSender ← readPubkey config.data 8 (.friendGate .sysvarReadFailed)
    let configStedeMint ← readPubkey config.data 40 (.friendGate .sysvarReadFailed)
    let threshold ← readU64 config.data 72
    let friendWallet ← readPubkey config.data 80 (.friendGate .sysvarReadFailed)
    require (key = (kind.pda rt configSender configStedeMint).1) (.friendGate .sysvarReadFailed)
    if amount < threshold then .ok ()
    else do
      require (instructionsSysvar = Programs.instructionsSysvar) (.friendGate .sysvarReadFailed)
      require (friendSigned env friendWallet) (.friendGate .friendSignatureRequired)

def checkTransfer (rt : Runtime) (env : Env) (ledger : Ledger)
    (friendGate instructionsSysvar : AccountMeta) (amount : UInt64) : Except Error Unit :=
  checkTransferHandler rt env friendGate.pubkey (ledger friendGate.pubkey)
    instructionsSysvar.pubkey amount

theorem setFriendGateHandler_eq_ok (sender stedeMint : Pubkey) (bump : UInt8) (threshold : UInt64)
    (friendWallet : Pubkey) (friendGate next : FriendGate) :
    setFriendGateHandler sender stedeMint bump threshold friendWallet friendGate = .ok next ↔
      0 < threshold ∧ friendWallet ≠ .default ∧ friendWallet ≠ sender ∧
      next = if friendGate.sender = .default then
          ⟨sender, stedeMint, threshold, friendWallet, bump⟩
        else { friendGate with threshold := threshold, friendWallet := friendWallet } := by
  simp only [setFriendGateHandler, bind_eq_ok, require_eq_ok, exists_const, pure, Except.pure,
    Except.ok.injEq]
  refine and_congr_right fun _ => and_congr_right fun _ => and_congr_right fun _ => ?_
  split <;> exact eq_comm

/-- Where the fields of a config lie in its account. -/
theorem config_image (friendGate : FriendGate) (rest : List UInt8) :
    kind.image friendGate ++ rest = kind.discriminator ++
      (friendGate.sender.bytes ++ (friendGate.stedeMint.bytes ++
        (Codec.uint64.encode friendGate.threshold ++
          (friendGate.friendWallet.bytes ++ (Codec.byte.encode friendGate.bump ++ rest))))) := by
  show kind.discriminator ++ (friendGate.sender.bytes ++ (friendGate.stedeMint.bytes ++
    (Codec.uint64.encode friendGate.threshold ++ (friendGate.friendWallet.bytes ++
      Codec.byte.encode friendGate.bump)))) ++ rest = _
  simp only [List.append_assoc]

/-- What the fixed offsets of the check read from a config account. -/
theorem config_fields (friendGate : FriendGate) (rest : List UInt8) (error : Error) :
    readPubkey (kind.image friendGate ++ rest) 8 error = .ok friendGate.sender ∧
      readPubkey (kind.image friendGate ++ rest) 40 error = .ok friendGate.stedeMint ∧
      readU64 (kind.image friendGate ++ rest) 72 = .ok friendGate.threshold ∧
      readPubkey (kind.image friendGate ++ rest) 80 error = .ok friendGate.friendWallet := by
  have first := friendGate.sender.size
  have second := friendGate.stedeMint.size
  have head : kind.discriminator.length = 8 := rfl
  have third : (Codec.uint64.encode friendGate.threshold).length = 8 := Codec.encode_length _ _
  rw [config_image]
  refine ⟨readPubkey_field head _ _ _, ?_, ?_, ?_⟩
  · rw [← List.append_assoc]
    exact readPubkey_field (by simp only [List.length_append]; omega) _ _ _
  · rw [← List.append_assoc, ← List.append_assoc]
    exact readU64_field (by simp only [List.length_append]; omega) _ _
  · rw [← List.append_assoc, ← List.append_assoc, ← List.append_assoc]
    exact readPubkey_field (by simp only [List.length_append]; omega) _ _ _

/-- Given the real instructions sysvar, the address error is raised exactly away
from the address of the stored pair. -/
theorem checkTransferHandler_misplaced (rt : Runtime) (env : Env) (key : Pubkey)
    (friendGate : FriendGate) (amount : UInt64) :
    checkTransferHandler rt env key (kind.created rt friendGate) Programs.instructionsSysvar amount =
        .error (.friendGate .sysvarReadFailed) ↔
      key ≠ (kind.pda rt friendGate.sender friendGate.stedeMint).1 := by
  have configured := kind.created_configured rt friendGate
  have data : (kind.created rt friendGate).data = kind.image friendGate ++ [] :=
    (List.append_nil _).symm
  have size : 8 + kind.codec.width ≤ (kind.created rt friendGate).data.length := by
    rw [data, List.append_nil, AccountType.image_length, AccountType.space]
  obtain ⟨sender, stedeMint, threshold, friendWallet⟩ :=
    config_fields friendGate [] (.friendGate .sysvarReadFailed)
  rw [← data] at sender stedeMint threshold friendWallet
  by_cases derived : key = (kind.pda rt friendGate.sender friendGate.stedeMint).1
  · by_cases small : amount < friendGate.threshold <;>
      simp [checkTransferHandler, configured, bind_eq_error, size, sender, stedeMint, threshold,
        friendWallet, derived, small]
  · simp [checkTransferHandler, configured, bind_eq_error, size, sender, stedeMint, threshold,
      friendWallet, derived]

end FriendGate

end Stede
