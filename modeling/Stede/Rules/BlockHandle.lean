import Mathlib
import Stede.Solana.Anchor

set_option autoImplicit false

/- The program `stede_rule_block_handle`. -/
namespace Stede

/-- Maximum number of blocked recipients per sender and mint. -/
def MAX_BLOCKED : Nat := 32

/-- `blocked` has a fixed size; `Pubkey::default()` marks an empty slot. -/
structure BlockList where
  sender : Pubkey
  stedeMint : Pubkey
  blocked : { slots : List Pubkey // slots.length = MAX_BLOCKED }
  count : UInt8
  bump : UInt8
deriving DecidableEq

namespace BlockList

def fields : Pubkey × Pubkey × { slots : List Pubkey // slots.length = MAX_BLOCKED } × UInt8 × UInt8
    ≃ BlockList where
  toFun := fun (sender, stedeMint, blocked, count, bump) =>
    ⟨sender, stedeMint, blocked, count, bump⟩
  invFun value := (value.sender, value.stedeMint, value.blocked, value.count, value.bump)
  left_inv _ := rfl
  right_inv _ := rfl

def kind : ConfigKind BlockList where
  program := Programs.stedeRuleBlockHandle
  discriminator := [22, 89, 214, 247, 1, 150, 200, 178]
  codec := (Pubkey.codec.prod (Pubkey.codec.prod ((Codec.array MAX_BLOCKED Pubkey.codec).prod
    (Codec.byte.prod Codec.byte)))).imap fields
  zero := ⟨.default, .default, ⟨List.replicate MAX_BLOCKED .default, by simp⟩, 0, 0⟩
  discriminator_length := rfl
  encode_zero := by decide +kernel
  seedPrefix := byteString "rule_block_handle"
  sender := BlockList.sender
  stedeMint := BlockList.stedeMint
  bump := BlockList.bump
  foreign := by decide +kernel

/-- The slot a wallet is blocked in. -/
def find (blockList : BlockList) (wallet : Pubkey) : Option Nat :=
  blockList.blocked.val.findIdx? fun slot => slot = wallet ∧ slot ≠ .default

/-- The first empty slot, none if the list is full. -/
def firstEmpty (blockList : BlockList) : Option Nat :=
  blockList.blocked.val.findIdx? fun slot => slot = .default

/-- `block_list.blocked[slot] = wallet`. -/
def setSlot (blockList : BlockList) (slot : Nat) (wallet : Pubkey) : BlockList :=
  { blockList with
    blocked := ⟨blockList.blocked.val.set slot wallet, by simp [blockList.blocked.property]⟩ }

/-- The body of `add_blocked_handler`. -/
def addBlockedHandler (sender stedeMint : Pubkey) (bump : UInt8) (blockedWallet : Pubkey)
    (blockList : BlockList) : Except Error BlockList := do
  require (blockedWallet ≠ .default) (.blockHandle .zeroAddress)
  let blockList :=
    if blockList.sender = .default then
      { blockList with sender := sender, stedeMint := stedeMint, count := 0, bump := bump }
    else blockList
  require (blockList.find blockedWallet = none) (.blockHandle .alreadyBlocked)
  let slot ← okOr blockList.firstEmpty (.blockHandle .blockListFull)
  let blockList := blockList.setSlot slot blockedWallet
  -- `saturating_add(1)`
  return { blockList with count := if blockList.count = 255 then 255 else blockList.count + 1 }

def addBlocked (rt : Runtime) (ledger : Ledger) (accounts : SetConfig) (blockedWallet : Pubkey) :
    Except Error Ledger :=
  kind.set rt ledger accounts fun bump =>
    addBlockedHandler accounts.sender.pubkey accounts.stedeMint bump blockedWallet

/-- The body of `remove_blocked_handler`. -/
def removeBlockedHandler (blockedWallet : Pubkey) (blockList : BlockList) :
    Except Error BlockList := do
  let slot ← okOr (blockList.find blockedWallet) (.blockHandle .notBlocked)
  let blockList := blockList.setSlot slot .default
  -- `saturating_sub(1)`
  return { blockList with count := if blockList.count = 0 then 0 else blockList.count - 1 }

/-- `RemoveBlocked`: the list must exist and belong to the signer and the mint. -/
def removeBlocked (rt : Runtime) (ledger : Ledger) (accounts : SetConfig) (blockedWallet : Pubkey) :
    Except Error Ledger := do
  require (accounts.sender.signed rt) (.anchor .accountNotSigner)
  let blockList ← kind.load (ledger accounts.config)
  require ((accounts.config, blockList.bump) =
    kind.pda rt accounts.sender.pubkey accounts.stedeMint) (.anchor .constraintSeeds)
  require (blockList.sender = accounts.sender.pubkey) (.anchor .constraintHasOne)
  require (blockList.stedeMint = accounts.stedeMint) (.anchor .constraintHasOne)
  let blockList ← removeBlockedHandler blockedWallet blockList
  let account ← kind.store blockList (ledger accounts.config)
  return ledger.write accounts.config account

def checkTransferHandler (rt : Runtime) (key : Pubkey) (account : Account)
    (recipientWallet : Pubkey) : Except Error Unit :=
  kind.checked rt (.blockHandle .invalidConfigAccount) key account () fun blockList =>
    require (blockList.find recipientWallet = none) (.blockHandle .recipientBlocked)

def checkTransfer (rt : Runtime) (ledger : Ledger) (blockList : AccountMeta)
    (recipientWallet : Pubkey) : Except Error Unit :=
  checkTransferHandler rt blockList.pubkey (ledger blockList.pubkey) recipientWallet

/-- The list as `add_blocked` finds it, claimed for the signer if it is new. -/
def claimed (sender stedeMint : Pubkey) (bump : UInt8) (blockList : BlockList) : BlockList :=
  if blockList.sender = .default then
    { blockList with sender := sender, stedeMint := stedeMint, count := 0, bump := bump }
  else blockList

theorem addBlockedHandler_eq_ok (sender stedeMint : Pubkey) (bump : UInt8) (blockedWallet : Pubkey)
    (blockList next : BlockList) :
    addBlockedHandler sender stedeMint bump blockedWallet blockList = .ok next ↔
      blockedWallet ≠ .default ∧ (blockList.claimed sender stedeMint bump).find blockedWallet = none ∧
      ∃ slot count, (blockList.claimed sender stedeMint bump).firstEmpty = some slot ∧
        count = (if (blockList.claimed sender stedeMint bump).count = 255 then 255
          else (blockList.claimed sender stedeMint bump).count + 1) ∧
        next = { (blockList.claimed sender stedeMint bump).setSlot slot blockedWallet with
          count := count } := by
  have same : (if blockList.sender = .default then
      { blockList with sender := sender, stedeMint := stedeMint, count := 0, bump := bump }
    else blockList) = blockList.claimed sender stedeMint bump := rfl
  simp only [addBlockedHandler, same, bind_eq_ok, require_eq_ok, okOr_eq_ok, exists_const, pure,
    Except.pure, Except.ok.injEq]
  refine and_congr_right fun _ => and_congr_right fun _ => exists_congr fun slot => ?_
  constructor
  · rintro ⟨empty, written⟩
    exact ⟨_, empty, rfl, written.symm⟩
  · rintro ⟨count, empty, counted, written⟩
    rw [written, counted]
    exact ⟨empty, rfl⟩

theorem find_empty (blockList : BlockList) (wallet : Pubkey)
    (empty : blockList.blocked.val = List.replicate MAX_BLOCKED .default) :
    blockList.find wallet = none := by
  rw [find, empty, List.findIdx?_eq_none_iff]
  intro slot member
  rw [(List.mem_replicate.mp member).2]
  simp

theorem firstEmpty_empty (blockList : BlockList)
    (empty : blockList.blocked.val = List.replicate MAX_BLOCKED .default) :
    blockList.firstEmpty = some 0 := by
  have size : MAX_BLOCKED = 31 + 1 := rfl
  rw [firstEmpty, empty, size, List.replicate_succ, List.findIdx?_cons]
  simp

theorem checkTransferHandler_misplaced (rt : Runtime) (key recipientWallet : Pubkey)
    (blockList : BlockList) :
    checkTransferHandler rt key (kind.created rt blockList) recipientWallet =
        .error (.blockHandle .invalidConfigAccount) ↔
      key ≠ (kind.pda rt blockList.sender blockList.stedeMint).1 := by
  apply kind.checked_misplaced
  simp

theorem removeBlocked_eq_ok (rt : Runtime) (ledger next : Ledger) (accounts : SetConfig)
    (blockedWallet : Pubkey) :
    removeBlocked rt ledger accounts blockedWallet = .ok next ↔
      accounts.sender.signed rt = true ∧ ∃ old value stored,
        kind.load (ledger accounts.config) = .ok old ∧
        (accounts.config, old.bump) = kind.pda rt accounts.sender.pubkey accounts.stedeMint ∧
        old.sender = accounts.sender.pubkey ∧ old.stedeMint = accounts.stedeMint ∧
        removeBlockedHandler blockedWallet old = .ok value ∧
        kind.store value (ledger accounts.config) = .ok stored ∧
        next = ledger.write accounts.config stored := by
  simp only [removeBlocked, bind_eq_ok, require_eq_ok, exists_const, pure, Except.pure,
    Except.ok.injEq]
  refine and_congr_right fun _ => ?_
  constructor
  · rintro ⟨old, loaded, derived, owned, mint, value, removed, stored, written, rfl⟩
    exact ⟨old, value, stored, loaded, derived, owned, mint, removed, written, rfl⟩
  · rintro ⟨old, value, stored, loaded, derived, owned, mint, removed, written, rfl⟩
    exact ⟨old, loaded, derived, owned, mint, value, removed, stored, written, rfl⟩

end BlockList

end Stede
