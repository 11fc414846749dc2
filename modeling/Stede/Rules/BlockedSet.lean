import Stede.Lib.Run
import Stede.Lib.Slots
import Stede.Rules.BlockHandle
import Stede.Solana.Lifecycle

set_option autoImplicit false

/- The block list as the finite set it stands for. -/
namespace Stede.BlockList

/-- The wallets in the slots that are not empty. -/
def entries (blockList : BlockList) : Finset Pubkey :=
  Slots.members .default blockList.blocked.val

/-- No wallet is listed twice, and the counter counts them. -/
structure Sound (blockList : BlockList) : Prop where
  distinct : (Slots.occupied .default blockList.blocked.val).Nodup
  counted : blockList.count.toNat = blockList.entries.card

theorem find_eq (blockList : BlockList) (wallet : Pubkey) :
    blockList.find wallet = Slots.find .default blockList.blocked.val wallet := rfl

theorem firstEmpty_eq (blockList : BlockList) :
    blockList.firstEmpty = Slots.firstHole .default blockList.blocked.val := rfl

theorem entries_card_le (blockList : BlockList) : blockList.entries.card ≤ MAX_BLOCKED :=
  (Slots.card_le_length _).trans_eq blockList.blocked.property

theorem default_not_entry (blockList : BlockList) : Pubkey.default ∉ blockList.entries := by
  intro member
  exact (Slots.mem_members.mp member).2 rfl

theorem claimed_of_claimed {blockList : BlockList} (claimed : blockList.sender ≠ .default)
    (sender stedeMint : Pubkey) (bump : UInt8) :
    blockList.claimed sender stedeMint bump = blockList := by
  simp only [BlockList.claimed, claimed, ↓reduceIte]

theorem addBlockedHandler_claims (sender stedeMint blockedWallet : Pubkey) :
    kind.Claims sender stedeMint fun bump =>
      addBlockedHandler sender stedeMint bump blockedWallet := by
  intro bump old new handled
  have ⟨_, _, slot, count, _, _, made⟩ := (addBlockedHandler_eq_ok _ _ _ _ _ _).mp handled
  rw [made]
  by_cases fresh : old.sender = .default
  · simp only [claimed, fresh, ↓reduceIte]
    exact Or.inr ⟨rfl, rfl, rfl⟩
  · rw [claimed_of_claimed fresh]
    exact Or.inl ⟨fresh, rfl, rfl, rfl⟩

section Handlers

variable {sender stedeMint : Pubkey} {bump : UInt8} {blockedWallet : Pubkey}
  {blockList next : BlockList}

/-- There is room for a wallet exactly while the set is smaller than the list. -/
theorem addBlockedHandler_iff (sound : (blockList.claimed sender stedeMint bump).Sound) :
    (∃ next, addBlockedHandler sender stedeMint bump blockedWallet blockList = .ok next) ↔
      blockedWallet ≠ .default ∧
      blockedWallet ∉ (blockList.claimed sender stedeMint bump).entries ∧
      (blockList.claimed sender stedeMint bump).entries.card < MAX_BLOCKED := by
  have full := Slots.firstHole_eq_none sound.distinct
  rw [(blockList.claimed sender stedeMint bump).blocked.property] at full
  have room : (∃ slot, (blockList.claimed sender stedeMint bump).firstEmpty = some slot) ↔
      (blockList.claimed sender stedeMint bump).entries.card < MAX_BLOCKED := by
    have bound := entries_card_le (blockList.claimed sender stedeMint bump)
    rw [firstEmpty_eq, ← Option.isSome_iff_exists, ← Option.ne_none_iff_isSome, ne_eq, full]
    exact ⟨fun less => Nat.lt_of_le_of_ne bound less, Nat.ne_of_lt⟩
  simp only [addBlockedHandler_eq_ok, find_eq, Slots.find_eq_none, ← room]
  constructor
  · intro ⟨_, filled, fresh, slot, _, empty, _⟩
    exact ⟨filled, fresh, slot, empty⟩
  · intro ⟨filled, fresh, slot, empty⟩
    exact ⟨_, filled, fresh, slot, _, empty, rfl, rfl⟩

/-- Blocking a wallet adds it to the set. -/
theorem addBlockedHandler_adds (sound : (blockList.claimed sender stedeMint bump).Sound)
    (success : addBlockedHandler sender stedeMint bump blockedWallet blockList = .ok next) :
    next.Sound ∧
      next.entries = insert blockedWallet (blockList.claimed sender stedeMint bump).entries := by
  have ⟨filled, absent, slot, count, empty, counted, made⟩ :=
    (addBlockedHandler_eq_ok _ _ _ _ _ _).mp success
  have fresh := Slots.find_eq_none.mp absent
  have ⟨distinct, added⟩ :=
    Slots.insert_spec sound.distinct (Slots.firstHole_eq_some empty) filled fresh
  have bound := entries_card_le (blockList.claimed sender stedeMint bump)
  have small : MAX_BLOCKED = 32 := rfl
  have before := sound.counted
  have not_full : (blockList.claimed sender stedeMint bump).count ≠ 255 := by
    intro top
    rw [top] at before
    have value : (255 : UInt8).toNat = 255 := rfl
    omega
  simp only [not_full, ↓reduceIte] at counted
  have entries_same : next.entries = insert blockedWallet
      (blockList.claimed sender stedeMint bump).entries := by
    rw [made]
    exact added
  refine ⟨⟨?_, ?_⟩, entries_same⟩
  · rw [made]
    exact distinct
  · have outside : blockedWallet ∉ (blockList.claimed sender stedeMint bump).entries := fresh
    have grown : next.count.toNat =
        (blockList.claimed sender stedeMint bump).count.toNat + 1 := by
      rw [made]
      show count.toNat = _
      rw [counted, UInt8.toNat_add]
      exact Nat.mod_eq_of_lt (by show _ + 1 < 256; omega)
    rw [entries_same, Finset.card_insert_of_notMem outside, grown, before]

theorem removeBlockedHandler_iff :
    (∃ next, removeBlockedHandler blockedWallet blockList = .ok next) ↔
      blockedWallet ∈ blockList.entries := by
  simp only [removeBlockedHandler, bind_eq_ok, okOr_eq_ok, pure, Except.pure, Except.ok.injEq]
  constructor
  · rintro ⟨_, slot, found, _⟩
    obtain ⟨inside, filled⟩ := Slots.find_eq_some found
    exact Slots.mem_members.mpr ⟨List.mem_of_getElem? inside, filled⟩
  · intro member
    cases found : blockList.find blockedWallet with
    | none => exact absurd member (Slots.find_eq_none.mp found)
    | some slot => exact ⟨_, slot, rfl, rfl⟩

/-- Unblocking a wallet takes it out of the set. -/
theorem removeBlockedHandler_removes (sound : blockList.Sound)
    (success : removeBlockedHandler blockedWallet blockList = .ok next) :
    next.Sound ∧ next.entries = blockList.entries.erase blockedWallet ∧
      next.sender = blockList.sender ∧ next.stedeMint = blockList.stedeMint ∧
      next.bump = blockList.bump := by
  simp only [removeBlockedHandler, bind_eq_ok, okOr_eq_ok, pure, Except.pure,
    Except.ok.injEq] at success
  obtain ⟨slot, found, made⟩ := success
  obtain ⟨inside, filled⟩ := Slots.find_eq_some found
  obtain ⟨distinct, taken⟩ := Slots.erase_spec sound.distinct inside filled
  have member : blockedWallet ∈ blockList.entries :=
    Slots.mem_members.mpr ⟨List.mem_of_getElem? inside, filled⟩
  have entries_same : next.entries = blockList.entries.erase blockedWallet := by
    rw [← made]
    exact taken
  have before := sound.counted
  have positive := Finset.card_pos.mpr ⟨_, member⟩
  have not_zero : (blockList.setSlot slot .default).count ≠ 0 := by
    intro zero
    have zero' : blockList.count = 0 := zero
    rw [zero', UInt8.toNat_zero] at before
    omega
  refine ⟨⟨?_, ?_⟩, entries_same, ?_, ?_, ?_⟩
  · rw [← made]
    exact distinct
  · have shrunk : next.count.toNat = blockList.count.toNat - 1 := by
      rw [← made]
      simp only [not_zero, ↓reduceIte]
      exact UInt8.toNat_sub_of_le _ _ (by
        show (1 : UInt8).toNat ≤ blockList.count.toNat
        have value : (1 : UInt8).toNat = 1 := rfl
        omega)
    rw [entries_same, Finset.card_erase_of_mem member, shrunk, before]
  · rw [← made]
    rfl
  · rw [← made]
    rfl
  · rw [← made]
    rfl

end Handlers

/-- The instructions that change the list of one sender and mint. -/
inductive Instruction
  | addBlocked (blockedWallet : Pubkey)
  | removeBlocked (blockedWallet : Pubkey)

def step (rt : Runtime) (accounts : SetConfig) (ledger : Ledger) : Instruction → Except Error Ledger
  | .addBlocked blockedWallet => BlockList.addBlocked rt ledger accounts blockedWallet
  | .removeBlocked blockedWallet => BlockList.removeBlocked rt ledger accounts blockedWallet

/-- The BlockList account at `key`, when it exists. -/
def accountAt (key : Pubkey) (ledger : Ledger) : Option BlockList := (kind.load (ledger key)).toOption

/-- The set that the account represents; without the account nobody is blocked. -/
def blockedAt (key : Pubkey) (ledger : Ledger) : Finset Pubkey :=
  ((accountAt key ledger).map entries).getD ∅

/-- The list is the one of the sender and the mint. -/
def Owned (accounts : SetConfig) (blockList : BlockList) : Prop :=
  blockList.sender = accounts.sender.pubkey ∧ blockList.stedeMint = accounts.stedeMint

/-- Nothing at the address yet, or a live and sound list of the pair. -/
def InOrder (rt : Runtime) (accounts : SetConfig) (ledger : Ledger) : Prop :=
  (ledger accounts.config).Unused ∨ ∃ blockList,
    kind.Live rt accounts.config blockList (ledger accounts.config) ∧ blockList.Sound ∧
      blockList.Owned accounts

section Steps

variable {rt : Runtime} {accounts : SetConfig} {key : Pubkey} {ledger next : Ledger}
  {blockList : BlockList}

theorem accountAt_of_live (live : kind.Live rt key blockList (ledger key)) :
    accountAt key ledger = some blockList := by
  rw [accountAt, live.load]
  rfl

theorem blockedAt_of_live (live : kind.Live rt key blockList (ledger key)) :
    blockedAt key ledger = blockList.entries := by
  rw [blockedAt, accountAt_of_live live]
  rfl

theorem accountAt_of_unused (unused : (ledger key).Unused) : accountAt key ledger = none := by
  cases loaded : kind.load (ledger key) with
  | ok blockList => exact absurd ⟨blockList, loaded⟩ (ConfigKind.load_of_unused unused)
  | error reason => simp only [accountAt, loaded, Except.toOption]

theorem blockedAt_of_unused (unused : (ledger key).Unused) : blockedAt key ledger = ∅ := by
  rw [blockedAt, accountAt_of_unused unused]
  rfl

/-- A list that `add_blocked` has just made for its signer is empty. -/
theorem claimed_zero (sender stedeMint : Pubkey) (bump : UInt8) :
    (kind.zero.claimed sender stedeMint bump).Sound ∧
      (kind.zero.claimed sender stedeMint bump).entries = ∅ := by
  have slots : (kind.zero.claimed sender stedeMint bump).blocked.val =
      List.replicate MAX_BLOCKED .default := rfl
  have nothing : Slots.occupied Pubkey.default (List.replicate MAX_BLOCKED Pubkey.default) = [] := by
    rw [Slots.occupied, List.filter_eq_nil_iff]
    intro slot member
    rw [List.eq_of_mem_replicate member]
    simp
  have empty : (kind.zero.claimed sender stedeMint bump).entries = ∅ := by
    rw [entries, slots, Slots.members, nothing]
    rfl
  refine ⟨⟨?_, ?_⟩, empty⟩
  · rw [slots, nothing]
    exact List.nodup_nil
  · rw [empty]
    rfl

theorem addBlocked_spec (order : InOrder rt accounts ledger) {blockedWallet : Pubkey}
    (success : step rt accounts ledger (.addBlocked blockedWallet) = .ok next) :
    InOrder rt accounts next ∧
      blockedAt accounts.config next = insert blockedWallet (blockedAt accounts.config ledger) := by
  have claims := addBlockedHandler_claims accounts.sender.pubkey accounts.stedeMint blockedWallet
  rcases order with unused | ⟨blockList, live, sound, owned⟩
  · have ⟨new, handled, made⟩ := ConfigKind.set_live_of_unused accounts claims rfl unused success
    have ⟨fresh, empty⟩ := claimed_zero accounts.sender.pubkey accounts.stedeMint
      (kind.pda rt accounts.sender.pubkey accounts.stedeMint).2
    have ⟨sound, added⟩ := addBlockedHandler_adds fresh handled
    have pair : new.Owned accounts := by
      rcases claims _ _ _ handled with ⟨claimed, _⟩ | ⟨sender, stedeMint, _⟩
      · exact absurd rfl claimed
      · exact ⟨sender, stedeMint⟩
    refine ⟨Or.inr ⟨new, made, sound, pair⟩, ?_⟩
    rw [blockedAt_of_live made, blockedAt_of_unused unused, added, empty]
  · have ⟨new, handled, rewritten⟩ := live.set_live accounts claims success
    have same := claimed_of_claimed live.claimed accounts.sender.pubkey accounts.stedeMint
      (kind.pda rt accounts.sender.pubkey accounts.stedeMint).2
    have sound' : (blockList.claimed accounts.sender.pubkey accounts.stedeMint
        (kind.pda rt accounts.sender.pubkey accounts.stedeMint).2).Sound := by
      rw [same]
      exact sound
    have ⟨kept, added⟩ := addBlockedHandler_adds sound' handled
    have pair : new.Owned accounts := by
      rcases claims _ _ _ handled with ⟨_, sender, stedeMint, _⟩ | ⟨sender, stedeMint, _⟩
      · exact ⟨sender.trans owned.1, stedeMint.trans owned.2⟩
      · exact ⟨sender, stedeMint⟩
    refine ⟨Or.inr ⟨new, rewritten, kept, pair⟩, ?_⟩
    rw [blockedAt_of_live rewritten, blockedAt_of_live live, added, same]

theorem removeBlocked_spec (order : InOrder rt accounts ledger) {blockedWallet : Pubkey}
    (success : step rt accounts ledger (.removeBlocked blockedWallet) = .ok next) :
    InOrder rt accounts next ∧
      blockedAt accounts.config next = (blockedAt accounts.config ledger).erase blockedWallet := by
  have ⟨_, old, new, stored, loaded, _, _, _, handled, written, same⟩ :=
    (removeBlocked_eq_ok _ _ _ _ _).mp success
  rcases order with unused | ⟨blockList, live, sound, owned⟩
  · exact absurd ⟨old, loaded⟩ (ConfigKind.load_of_unused unused)
  · rw [live.load, Except.ok.injEq] at loaded
    rw [← loaded] at handled
    have ⟨kept, removed, sender, stedeMint, bump⟩ := removeBlockedHandler_removes sound handled
    have rewritten : kind.Live rt accounts.config new (next accounts.config) := by
      rw [live.store, Except.ok.injEq] at written
      rw [same, Ledger.write_self, ← written]
      apply live.rewrite
      · show (accounts.config, new.bump) = kind.pda rt new.sender new.stedeMint
        rw [sender, stedeMint, bump]
        exact live.derived
      · show new.sender ≠ .default
        rw [sender]
        exact live.claimed
    refine ⟨Or.inr ⟨new, rewritten, kept, sender.trans owned.1, stedeMint.trans owned.2⟩, ?_⟩
    rw [blockedAt_of_live rewritten, blockedAt_of_live live, removed]

/-- What the account holds, in every state it can get into. -/
theorem InOrder.represents (order : InOrder rt accounts ledger) :
    Pubkey.default ∉ blockedAt accounts.config ledger ∧ (blockedAt accounts.config ledger).card ≤ MAX_BLOCKED ∧
      ∀ blockList, accountAt accounts.config ledger = some blockList →
        (blockList.blocked.val.filter (· ≠ .default)).Nodup ∧
        (∀ wallet, wallet ∈ blockedAt accounts.config ledger ↔
          wallet ∈ blockList.blocked.val ∧ wallet ≠ .default) ∧
        blockList.count.toNat = (blockedAt accounts.config ledger).card := by
  rcases order with unused | ⟨blockList, live, sound, owned⟩
  · rw [blockedAt_of_unused unused, accountAt_of_unused unused]
    exact ⟨Finset.notMem_empty _, Nat.zero_le _, fun _ found => nomatch found⟩
  · rw [blockedAt_of_live live, accountAt_of_live live]
    refine ⟨default_not_entry blockList, entries_card_le blockList, ?_⟩
    intro found same
    rw [← Option.some.inj same]
    exact ⟨sound.distinct, fun _ => Slots.mem_members, sound.counted⟩

/-- A check refuses exactly the wallets of the set. -/
theorem InOrder.checkTransfer (order : InOrder rt accounts ledger) (isSigner isWritable : Bool)
    (recipient : Pubkey) :
    BlockList.checkTransfer rt ledger ⟨accounts.config, isSigner, isWritable⟩ recipient =
      if recipient ∈ blockedAt accounts.config ledger then .error (.blockHandle .recipientBlocked) else .ok () := by
  have unfolded : BlockList.checkTransfer rt ledger ⟨accounts.config, isSigner, isWritable⟩ recipient =
      kind.checked rt (.blockHandle .invalidConfigAccount) accounts.config
          (ledger accounts.config) () fun blockList =>
        require (blockList.find recipient = none) (.blockHandle .recipientBlocked) := rfl
  rw [unfolded]
  rcases order with unused | ⟨blockList, live, sound, owned⟩
  · rw [ConfigKind.checked_of_unused unused, blockedAt_of_unused unused]
    rfl
  · rw [live.checked, blockedAt_of_live live, find_eq, require]
    simp only [Slots.find_eq_none]
    by_cases member : recipient ∈ blockList.entries
    · have member' : recipient ∈ Slots.members .default blockList.blocked.val := member
      simp only [member, member', not_true_eq_false, ↓reduceIte]
    · have outside : recipient ∉ Slots.members .default blockList.blocked.val := member
      simp only [member, outside, not_false_eq_true, ↓reduceIte]

section Signed

variable (signed : accounts.sender.signed rt = true)
  (derived : accounts.config = (kind.pda rt accounts.sender.pubkey accounts.stedeMint).1)
include signed derived

theorem addBlocked_iff (order : InOrder rt accounts ledger) (blockedWallet : Pubkey) :
    (∃ next, step rt accounts ledger (.addBlocked blockedWallet) = .ok next) ↔
      accounts.sender.isWritable = true ∧ blockedWallet ≠ .default ∧ blockedWallet ∉ blockedAt accounts.config ledger ∧
        (blockedAt accounts.config ledger).card < MAX_BLOCKED := by
  have called (next : Ledger) : step rt accounts ledger (.addBlocked blockedWallet) = .ok next ↔
      kind.set rt ledger accounts (fun bump => addBlockedHandler accounts.sender.pubkey
        accounts.stedeMint bump blockedWallet) = .ok next := Iff.rfl
  simp only [called]
  rcases order with unused | ⟨blockList, live, sound, owned⟩
  · have ⟨fresh, empty⟩ := claimed_zero accounts.sender.pubkey accounts.stedeMint
      (kind.pda rt accounts.sender.pubkey accounts.stedeMint).2
    have handler : (∃ new, addBlockedHandler accounts.sender.pubkey accounts.stedeMint _
        blockedWallet kind.zero = .ok new) ↔ _ := addBlockedHandler_iff fresh
    rw [empty] at handler
    rw [blockedAt_of_unused unused, ← handler]
    simp only [kind.set_of_unused rt ledger _ accounts _ unused.1, AccountMeta.pays_iff, signed,
      ← derived, unused.2, true_and]
    constructor
    · rintro ⟨_, writable, new, handled, _⟩
      exact ⟨writable, new, handled⟩
    · rintro ⟨writable, new, handled⟩
      exact ⟨_, writable, new, handled, rfl⟩
  · have same := claimed_of_claimed live.claimed accounts.sender.pubkey accounts.stedeMint
      (kind.pda rt accounts.sender.pubkey accounts.stedeMint).2
    have sound' : (blockList.claimed accounts.sender.pubkey accounts.stedeMint
        (kind.pda rt accounts.sender.pubkey accounts.stedeMint).2).Sound := by
      rw [same]
      exact sound
    have handler : (∃ new, addBlockedHandler accounts.sender.pubkey accounts.stedeMint _
        blockedWallet blockList = .ok new) ↔ _ := addBlockedHandler_iff sound'
    rw [same] at handler
    rw [blockedAt_of_live live, ← handler]
    simp only [live.set accounts, AccountMeta.pays_iff, signed, ← derived, true_and]
    constructor
    · rintro ⟨_, writable, new, handled, _⟩
      exact ⟨writable, new, handled⟩
    · rintro ⟨writable, new, handled⟩
      exact ⟨_, writable, new, handled, rfl⟩

omit derived in
theorem removeBlocked_iff (order : InOrder rt accounts ledger) (blockedWallet : Pubkey) :
    (∃ next, step rt accounts ledger (.removeBlocked blockedWallet) = .ok next) ↔
      blockedWallet ∈ blockedAt accounts.config ledger := by
  have called (next : Ledger) : step rt accounts ledger (.removeBlocked blockedWallet) = .ok next ↔
      removeBlocked rt ledger accounts blockedWallet = .ok next := Iff.rfl
  simp only [called, removeBlocked_eq_ok, signed, true_and]
  rcases order with unused | ⟨blockList, live, sound, owned⟩
  · rw [blockedAt_of_unused unused]
    constructor
    · intro ⟨_, old, _, _, loaded, _⟩
      exact absurd ⟨old, loaded⟩ (ConfigKind.load_of_unused unused)
    · intro member
      exact absurd member (Finset.notMem_empty _)
  · rw [blockedAt_of_live live, ← removeBlockedHandler_iff]
    constructor
    · intro ⟨_, old, new, _, loaded, _, _, _, handled, _⟩
      rw [live.load, Except.ok.injEq] at loaded
      rw [← loaded] at handled
      exact ⟨new, handled⟩
    · intro ⟨new, handled⟩
      have address : (accounts.config, blockList.bump) =
          kind.pda rt accounts.sender.pubkey accounts.stedeMint := by
        rw [← owned.1, ← owned.2]
        exact live.derived
      exact ⟨_, blockList, new, _, live.load, address, owned.1, owned.2, handled, live.store new, rfl⟩

end Signed

end Steps

/-- Whatever was blocked and unblocked in whatever order, the account stands for a
set: the instructions insert into it and erase from it, and a check looks it up. -/
theorem block_list_is_set (rt : Runtime) (ledger : Ledger) (accounts : SetConfig)
    (signed : accounts.sender.signed rt = true)
    (derived : accounts.config = (kind.pda rt accounts.sender.pubkey accounts.stedeMint).1)
    (unused : (ledger accounts.config).Unused) (instructions : List Instruction) (reached : Ledger)
    (prefix_of : Run.Reached (step rt accounts) ledger instructions reached) :
    (Pubkey.default ∉ blockedAt accounts.config reached ∧
      (blockedAt accounts.config reached).card ≤ MAX_BLOCKED ∧
      ∀ blockList, accountAt accounts.config reached = some blockList →
        (blockList.blocked.val.filter (· ≠ .default)).Nodup ∧
        (∀ wallet, wallet ∈ blockedAt accounts.config reached ↔
          wallet ∈ blockList.blocked.val ∧ wallet ≠ .default) ∧
        blockList.count.toNat = (blockedAt accounts.config reached).card) ∧
    (∀ blockedWallet, (∃ next, step rt accounts reached (.addBlocked blockedWallet) = .ok next) ↔
      accounts.sender.isWritable = true ∧ blockedWallet ≠ .default ∧ blockedWallet ∉ blockedAt accounts.config reached ∧
        (blockedAt accounts.config reached).card < MAX_BLOCKED) ∧
    (∀ blockedWallet next, step rt accounts reached (.addBlocked blockedWallet) = .ok next →
      blockedAt accounts.config next = insert blockedWallet (blockedAt accounts.config reached)) ∧
    (∀ blockedWallet, (∃ next, step rt accounts reached (.removeBlocked blockedWallet) = .ok next) ↔
      blockedWallet ∈ blockedAt accounts.config reached) ∧
    (∀ blockedWallet next, step rt accounts reached (.removeBlocked blockedWallet) = .ok next →
      blockedAt accounts.config next = (blockedAt accounts.config reached).erase blockedWallet ∧
      BlockList.checkTransfer rt next ⟨accounts.config, false, false⟩ blockedWallet = .ok ()) ∧
    ∀ recipient, BlockList.checkTransfer rt reached ⟨accounts.config, false, false⟩ recipient =
      if recipient ∈ blockedAt accounts.config reached then .error (.blockHandle .recipientBlocked)
      else .ok () := by
  have start : InOrder rt accounts ledger := Or.inl unused
  have order : InOrder rt accounts reached := by
    apply Run.reached_invariant start _ prefix_of
    intro current instruction next _ here success
    cases instruction with
    | addBlocked blockedWallet => exact (addBlocked_spec here success).1
    | removeBlocked blockedWallet => exact (removeBlocked_spec here success).1
  refine ⟨order.represents, addBlocked_iff signed derived order, ?_, removeBlocked_iff signed order,
    ?_, order.checkTransfer false false⟩
  · intro blockedWallet next success
    exact (addBlocked_spec order success).2
  · intro blockedWallet next success
    have ⟨after, erased⟩ := removeBlocked_spec order success
    refine ⟨erased, ?_⟩
    have free : blockedWallet ∉ blockedAt accounts.config next := by
      rw [erased]
      exact Finset.notMem_erase _ _
    rw [after.checkTransfer]
    simp only [free, ↓reduceIte]

/- Two wallets blocked, the first one let go, a third one in its place. -/
section Sample

open Stede.Runtime (sampleKey)

def sampleSet : SetConfig :=
  ⟨⟨sampleKey 1, true, true⟩, sampleKey 2, (kind.pda .sample (sampleKey 1) (sampleKey 2)).1⟩

def sampleRun : List Instruction :=
  [.addBlocked (sampleKey 5), .addBlocked (sampleKey 6), .removeBlocked (sampleKey 5),
    .addBlocked (sampleKey 7)]

theorem block_list_is_set_sample :
    BlockList.checkTransfer .sample (Run.run (step .sample sampleSet) (fun _ => .absent) sampleRun)
        ⟨sampleSet.config, false, false⟩ (sampleKey 5) =
      if sampleKey 5 ∈ blockedAt sampleSet.config
          (Run.run (step .sample sampleSet) (fun _ => .absent) sampleRun) then
        .error (.blockHandle .recipientBlocked)
      else .ok () :=
  (block_list_is_set .sample (fun _ => .absent) sampleSet (by decide +kernel) rfl ⟨rfl, rfl⟩ sampleRun
    _ ⟨sampleRun, [], (List.append_nil _).symm, rfl⟩).2.2.2.2.2 (sampleKey 5)

example : (Run.trace (step .sample sampleSet) (fun _ => .absent) sampleRun).map (·.2) =
    [.ok (), .ok (), .ok (), .ok ()] := by
  decide +kernel

end Sample

end Stede.BlockList
