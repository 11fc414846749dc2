import Mathlib
import Stede.Hook.Resolution

set_option autoImplicit false

/- Each slot of the hook call against the rule that owns it and the client. -/
namespace Stede.Hook

open ExtraAccountMeta

/-- `calls ledger config next`: some call over the address `config` takes `ledger`
to `next`. Such calls create an account of the program at `address`, and at no
other unused address. -/
def CreatesAt (program : Pubkey) (calls : Ledger → Pubkey → Ledger → Prop) (address : Pubkey) :
    Prop :=
  ∀ config, (∃ ledger next, ledger config = .absent ∧ calls ledger config next ∧
    (next config).owner = program) ↔ config = address

/-- A slot of the hook call agrees with its rule: the rule's own instruction
creates the account there, the rule's check refuses what was created under any
other key and under no other, and the client derives the same address. -/
structure SlotAgrees (program : Pubkey) (calls : Ledger → Pubkey → Ledger → Prop)
    (misplaced : Account → Pubkey → Prop) (slot client : Pubkey) : Prop where
  creates : CreatesAt program calls slot
  recomputes : ∀ ledger config next, ledger config = .absent → calls ledger config next →
    ∀ key, misplaced (next config) key ↔ key ≠ slot
  derives : client = slot

/-- A slot agrees as soon as the calls on an unused address are understood. -/
theorem SlotAgrees.of_created {α : Type} (kind : AccountType α) (rt : Runtime)
    {calls : Ledger → Pubkey → Ledger → Prop} {misplaced : Account → Pubkey → Prop}
    {slot client : Pubkey} (values : α → Prop) (inhabited : ∃ value, values value)
    (creation : ∀ ledger config next, ledger config = .absent →
      (calls ledger config next ↔ config = slot ∧ ∃ value, values value ∧
        next = ledger.write config (kind.created rt value)))
    (elsewhere : ∀ value, values value → ∀ key,
      misplaced (kind.created rt value) key ↔ key ≠ slot)
    (derives : client = slot) : SlotAgrees kind.program calls misplaced slot client where
  creates := by
    intro config
    constructor
    · intro ⟨ledger, next, unused, called, _⟩
      exact ((creation ledger config next unused).mp called).1
    · intro here
      obtain ⟨value, allowed⟩ := inhabited
      refine ⟨fun _ => .absent, _, rfl, (creation _ config _ rfl).mpr ⟨here, value, allowed, rfl⟩, ?_⟩
      simp only [Ledger.write_self, AccountType.created, AccountType.held]
  recomputes := by
    intro ledger config next unused called key
    obtain ⟨_, value, allowed, same⟩ := (creation ledger config next unused).mp called
    rw [same, Ledger.write, Function.update_self]
    exact elsewhere value allowed key
  derives := derives

/-- The slot of a config that a `set_*` instruction creates; `handler` is the
instruction's body, one for each choice of its arguments. -/
theorem SlotAgrees.of_set {α ι : Type} (kind : ConfigKind α) (rt : Runtime)
    {authority stedeMint client : Pubkey} {misplaced : Account → Pubkey → Prop}
    (signs : rt.canSign authority = true) (handler : ι → UInt8 → α → Except Error α)
    (accepts : ∃ input value, handler input (kind.pda rt authority stedeMint).2 kind.zero = .ok value)
    (stores : ∀ input bump value, handler input bump kind.zero = .ok value →
      kind.sender value = authority ∧ kind.stedeMint value = stedeMint)
    (elsewhere : ∀ value, kind.sender value = authority → kind.stedeMint value = stedeMint →
      ∀ key, misplaced (kind.created rt value) key ↔
        key ≠ (kind.pda rt (kind.sender value) (kind.stedeMint value)).1)
    (derives : client = (kind.pda rt authority stedeMint).1) :
    SlotAgrees kind.program
      (fun ledger config next => ∃ input,
        kind.set rt ledger ⟨⟨authority, true, true⟩, stedeMint, config⟩ (handler input) = .ok next)
      misplaced (kind.pda rt authority stedeMint).1 client := by
  have pays : AccountMeta.pays rt ⟨authority, true, true⟩ = true := AccountMeta.pays_of_canSign signs
  apply SlotAgrees.of_created kind.toAccountType rt (fun value => ∃ input,
    handler input (kind.pda rt authority stedeMint).2 kind.zero = .ok value)
  · obtain ⟨input, value, accepted⟩ := accepts
    exact ⟨value, input, accepted⟩
  · intro ledger config next unused
    have on_unused (input : ι) := kind.set_of_absent rt ledger next
      ⟨⟨authority, true, true⟩, stedeMint, config⟩ (handler input) unused
    simp only [on_unused, pays, true_and]
    constructor
    · intro ⟨input, here, value, accepted, same⟩
      exact ⟨here, value, ⟨input, accepted⟩, same⟩
    · intro ⟨here, value, ⟨input, accepted⟩, same⟩
      exact ⟨input, here, value, accepted, same⟩
  · intro value ⟨input, accepted⟩ key
    have ⟨sender, mint⟩ := stores input _ value accepted
    rw [elsewhere value sender mint, sender, mint]
  · exact derives

section Slots

variable (rt : Runtime) (authority stedeMint : Pubkey)

/-- The accounts of a `set_*` instruction signed by the authority for the mint. -/
def setAccounts (config : Pubkey) : SetConfig := ⟨⟨authority, true, true⟩, stedeMint, config⟩

def DailyLimitSlot (slot : Pubkey) : Prop := ∀ clock amount,
  SlotAgrees Programs.stedeRuleDailyLimit
    (fun ledger config next => ∃ input : Clock × UInt64, DailyLimit.setLimit rt input.1 ledger
      (setAccounts authority stedeMint config) input.2 = .ok next)
    (fun account key => DailyLimit.checkTransferHandler rt clock key account amount =
      .error (.dailyLimit .invalidConfigAccount))
    slot (Sdk.deriveDailyLimitPda rt authority stedeMint)

def BlockListSlot (slot : Pubkey) : Prop := ∀ recipientWallet,
  SlotAgrees Programs.stedeRuleBlockHandle
    (fun ledger config next => ∃ blockedWallet, BlockList.addBlocked rt ledger
      (setAccounts authority stedeMint config) blockedWallet = .ok next)
    (fun account key => BlockList.checkTransferHandler rt key account recipientWallet =
      .error (.blockHandle .invalidConfigAccount))
    slot (Sdk.deriveBlockListPda rt authority stedeMint)

def CooloffSlot (slot : Pubkey) : Prop := ∀ clock amount,
  SlotAgrees Programs.stedeRuleCooloff
    (fun ledger config next => ∃ input : UInt64 × Int64, Cooloff.setCooloff rt ledger
      (setAccounts authority stedeMint config) input.1 input.2 = .ok next)
    (fun account key => Cooloff.checkTransferHandler rt clock key account amount =
      .error (.cooloff .invalidConfigAccount))
    slot (Sdk.deriveCooloffPda rt authority stedeMint)

def SlowSendConfigSlot (contactSlot : Pubkey) (destinationToken : Account) (slot : Pubkey) : Prop :=
  ∀ clock contact, SlotAgrees Programs.stedeRuleNewRecipientDelay
    (fun ledger config next => ∃ delaySeconds, SlowSend.setSlowSend rt ledger
      (setAccounts authority stedeMint config) delaySeconds = .ok next)
    (fun account key => SlowSend.checkTransferHandler rt clock key account contactSlot contact
      destinationToken = .error (.slowSend .invalidDestination))
    slot (Sdk.deriveSlowSendConfigPda rt authority stedeMint)

/-- The contact is checked against the config, so against any config of the pair. -/
def SlowSendContactSlot (recipient configSlot : Pubkey) (destinationToken : Account)
    (slot : Pubkey) : Prop :=
  ∀ clock config, config.sender = authority → config.stedeMint = stedeMint →
    SlotAgrees Programs.stedeRuleNewRecipientDelay
      (fun ledger contact next => ∃ clock, SlowSend.registerRecipient rt clock ledger
        ⟨⟨authority, true, true⟩, stedeMint, contact⟩ recipient = .ok next)
      (fun account key => SlowSend.checkTransferHandler rt clock configSlot
        (SlowSendConfig.kind.created rt config) key account destinationToken =
          .error (.slowSend .invalidDestination))
      slot (Sdk.deriveSlowSendContactPda rt authority recipient stedeMint)

/-- This rule derives the address from the accounts of the call. -/
def TimeWindowSlot (owner mint : AccountMeta) (slot : Pubkey) : Prop :=
  ∀ clock ledger amount, SlotAgrees Programs.stedeRuleTimeWindow
    (fun ledger config next => ∃ input : UInt8 × UInt8, TimeWindowConfig.setTimeWindow rt ledger
      (setAccounts authority stedeMint config) input.1 input.2 = .ok next)
    (fun account key => TimeWindowConfig.checkTransfer rt clock (Ledger.write ledger key account)
      ⟨key, false, false⟩ owner mint amount = .error (.anchor .constraintSeeds))
    slot (Sdk.deriveTimeWindowPda rt authority stedeMint)

def FriendGateSlot (instructionsSysvar slot : Pubkey) : Prop := ∀ env amount,
  SlotAgrees Programs.stedeRuleFriendGate
    (fun ledger config next => ∃ input : UInt64 × Pubkey, FriendGate.setFriendGate rt ledger
      (setAccounts authority stedeMint config) input.1 input.2 = .ok next)
    (fun account key => FriendGate.checkTransferHandler rt env key account instructionsSysvar
      amount = .error (.friendGate .sysvarReadFailed))
    slot (Sdk.deriveFriendGatePda rt authority stedeMint)

/-- Every rule slot of a call agrees with its rule, and whatever the rules write
is marked writable. -/
structure RulesAgree (recipient : Pubkey) (destinationToken : Account) (accounts : Execute) :
    Prop where
  dailyLimit : DailyLimitSlot rt authority stedeMint accounts.dailyLimitPda.pubkey
  blockList : BlockListSlot rt authority stedeMint accounts.blockListPda.pubkey
  cooloff : CooloffSlot rt authority stedeMint accounts.cooloffPda.pubkey
  slowSendConfig : SlowSendConfigSlot rt authority stedeMint accounts.slowSendContactPda.pubkey
    destinationToken accounts.slowSendConfigPda.pubkey
  slowSendContact : SlowSendContactSlot rt authority stedeMint recipient
    accounts.slowSendConfigPda.pubkey destinationToken accounts.slowSendContactPda.pubkey
  timeWindow : TimeWindowSlot rt authority stedeMint accounts.owner accounts.stedeMint
    accounts.timeWindowConfigPda.pubkey
  friendGate : FriendGateSlot rt authority stedeMint accounts.instructionsSysvar.pubkey
    accounts.friendGateConfigPda.pubkey
  written : ∀ env ledger amount next, executeHandler rt env ledger accounts amount = .ok next →
    ∀ key, next key ≠ ledger key →
      ∃ account ∈ accounts.toList, account.pubkey = key ∧ account.isWritable = true

end Slots

section Agreement

variable {rt : Runtime} {authority : Pubkey} (signs : rt.canSign authority = true) (stedeMint : Pubkey)
include signs

theorem dailyLimit_agrees : DailyLimitSlot rt authority stedeMint
    (DailyLimit.kind.pda rt authority stedeMint).1 := by
  intro clock amount
  apply SlotAgrees.of_set DailyLimit.kind rt signs fun (input : Clock × UInt64) bump =>
    DailyLimit.setLimitHandler input.1 authority stedeMint bump input.2
  · exact ⟨(clock, 1), _, (DailyLimit.setLimitHandler_eq_ok _ _ _ _ _ _ _).mpr
      ⟨show (0 : UInt64) < 1 by decide, rfl⟩⟩
  · intro input bump value accepted
    rw [((DailyLimit.setLimitHandler_eq_ok _ _ _ _ _ _ _).mp accepted).2]
    exact ⟨rfl, rfl⟩
  · intro value _ _ key
    exact DailyLimit.checkTransferHandler_misplaced rt clock key value amount
  · rfl

theorem blockList_agrees : BlockListSlot rt authority stedeMint
    (BlockList.kind.pda rt authority stedeMint).1 := by
  intro recipientWallet
  apply SlotAgrees.of_set BlockList.kind rt signs fun blockedWallet bump =>
    BlockList.addBlockedHandler authority stedeMint bump blockedWallet
  · have unused : ((BlockList.kind.zero).claimed authority stedeMint
        (BlockList.kind.pda rt authority stedeMint).2).blocked.val =
          List.replicate MAX_BLOCKED .default := rfl
    exact ⟨Programs.token, _, (BlockList.addBlockedHandler_eq_ok _ _ _ _ _ _).mpr
      ⟨by decide +kernel, BlockList.find_empty _ _ unused, 0, _,
        BlockList.firstEmpty_empty _ unused, rfl, rfl⟩⟩
  · intro input bump value accepted
    have ⟨_, _, _, _, _, _, written⟩ :=
      (BlockList.addBlockedHandler_eq_ok _ _ _ _ _ _).mp accepted
    rw [written]
    exact ⟨rfl, rfl⟩
  · intro value _ _ key
    exact BlockList.checkTransferHandler_misplaced rt key recipientWallet value
  · rfl

theorem cooloff_agrees : CooloffSlot rt authority stedeMint
    (Cooloff.kind.pda rt authority stedeMint).1 := by
  intro clock amount
  apply SlotAgrees.of_set Cooloff.kind rt signs fun (input : UInt64 × Int64) bump =>
    Cooloff.setCooloffHandler authority stedeMint bump input.1 input.2
  · exact ⟨(1, 1), _, (Cooloff.setCooloffHandler_eq_ok _ _ _ _ _ _ _).mpr
      ⟨show (0 : UInt64) < 1 by decide, by decide, rfl⟩⟩
  · intro input bump value accepted
    rw [((Cooloff.setCooloffHandler_eq_ok _ _ _ _ _ _ _).mp accepted).2.2]
    exact ⟨rfl, rfl⟩
  · intro value _ _ key
    exact Cooloff.checkTransferHandler_misplaced rt clock key value amount
  · rfl

theorem slowSendConfig_agrees (recipient : Pubkey) (destinationToken : Account)
    (owned : readPubkey destinationToken.data 32 (.program .invalidAccountData) = .ok recipient) :
    SlowSendConfigSlot rt authority stedeMint
      (SlowSendContact.pda rt authority recipient stedeMint).1 destinationToken
      (SlowSendConfig.kind.pda rt authority stedeMint).1 := by
  intro clock contact
  apply SlotAgrees.of_set SlowSendConfig.kind rt signs fun delaySeconds bump =>
    SlowSend.setSlowSendHandler authority stedeMint bump delaySeconds
  · exact ⟨1, _, rfl⟩
  · intro input bump value accepted
    rw [(SlowSend.setSlowSendHandler_eq_ok _ _ _ _ _ _).mp accepted |>.2]
    exact ⟨rfl, rfl⟩
  · intro value sender mint key
    show SlowSend.checkTransferHandler _ _ _ _ _ _ _ = _ ↔ _
    have here : (SlowSendContact.pda rt authority recipient stedeMint).1 =
        (SlowSendContact.pda rt value.sender recipient value.stedeMint).1 := by
      rw [show value.sender = authority from sender, show value.stedeMint = stedeMint from mint]
    rw [SlowSend.checkTransferHandler_misplaced rt clock key _ value contact destinationToken
      recipient owned]
    simp only [here, ne_eq, not_true_eq_false, or_false]
    exact Iff.rfl
  · rfl

theorem slowSendContact_agrees (recipient : Pubkey) (destinationToken : Account)
    (owned : readPubkey destinationToken.data 32 (.program .invalidAccountData) = .ok recipient) :
    SlowSendContactSlot rt authority stedeMint recipient
      (SlowSendConfig.kind.pda rt authority stedeMint).1 destinationToken
      (SlowSendContact.pda rt authority recipient stedeMint).1 := by
  intro clock config sender mint
  have pays : AccountMeta.pays rt ⟨authority, true, true⟩ = true := AccountMeta.pays_of_canSign signs
  apply SlotAgrees.of_created SlowSendContact.kind rt fun value =>
    value.bump = (SlowSendContact.pda rt authority recipient stedeMint).2
  · exact ⟨⟨0, _⟩, rfl⟩
  · intro ledger contact next unused
    have on_unused (now : Clock) := SlowSend.registerRecipient_of_absent rt now ledger next
      ⟨⟨authority, true, true⟩, stedeMint, contact⟩ recipient unused
    simp only [on_unused, pays, true_and]
    constructor
    · intro ⟨now, here, same⟩
      exact ⟨here, _, rfl, same⟩
    · intro ⟨here, value, bump, same⟩
      refine ⟨⟨0, value.firstContactAt⟩, here, ?_⟩
      rw [same, ← bump]
  · intro value _ key
    rw [SlowSend.checkTransferHandler_misplaced rt clock _ key config _ destinationToken recipient
      owned, sender, mint]
    simp only [ne_eq, not_true_eq_false, false_or]
  · rfl

theorem timeWindow_agrees : TimeWindowSlot rt authority stedeMint ⟨authority, false, false⟩
    ⟨stedeMint, false, false⟩ (TimeWindowConfig.kind.pda rt authority stedeMint).1 := by
  intro clock ledger amount
  apply SlotAgrees.of_set TimeWindowConfig.kind rt signs fun (input : UInt8 × UInt8) bump =>
    TimeWindowConfig.setTimeWindowHandler authority stedeMint bump input.1 input.2
  · exact ⟨(0, 0), _, rfl⟩
  · intro input bump value accepted
    rw [(TimeWindowConfig.setTimeWindowHandler_eq_ok _ _ _ _ _ _ _).mp accepted |>.2]
    exact ⟨rfl, rfl⟩
  · intro value sender mint key
    rw [sender, mint]
    exact TimeWindowConfig.checkTransfer_misplaced _ _ _ _ _ _ _
  · rfl

theorem friendGate_agrees : FriendGateSlot rt authority stedeMint Programs.instructionsSysvar
    (FriendGate.kind.pda rt authority stedeMint).1 := by
  intro env amount
  apply SlotAgrees.of_set FriendGate.kind rt signs fun (input : UInt64 × Pubkey) bump =>
    FriendGate.setFriendGateHandler authority stedeMint bump input.1 input.2
  · -- any third wallet will do as the friend
    by_cases taken : authority = Programs.token
    · refine ⟨(1, Programs.token2022), _, (FriendGate.setFriendGateHandler_eq_ok _ _ _ _ _ _ _).mpr
        ⟨show (0 : UInt64) < 1 by decide, by decide +kernel, ?_, rfl⟩⟩
      rw [taken]
      decide +kernel
    · exact ⟨(1, Programs.token), _, (FriendGate.setFriendGateHandler_eq_ok _ _ _ _ _ _ _).mpr
        ⟨show (0 : UInt64) < 1 by decide, by decide +kernel, fun same => taken same.symm, rfl⟩⟩
  · intro input bump value accepted
    rw [(FriendGate.setFriendGateHandler_eq_ok _ _ _ _ _ _ _).mp accepted |>.2.2.2]
    exact ⟨rfl, rfl⟩
  · intro value _ _ key
    exact FriendGate.checkTransferHandler_misplaced rt env key value amount
  · rfl

end Agreement

/-- The hook writes at most the two accounts whose rules record something. -/
theorem executeHandler_frame {rt : Runtime} {env : Env} {ledger next : Ledger} {accounts : Execute}
    {amount : UInt64} (success : executeHandler rt env ledger accounts amount = .ok next)
    (key : Pubkey) (changed : next key ≠ ledger key) :
    key = accounts.dailyLimitPda.pubkey ∨ key = accounts.cooloffPda.pubkey := by
  simp only [executeHandler, bind_eq_ok, DailyLimit.checkTransfer_eq_ok, Cooloff.checkTransfer_eq_ok,
    pure, Except.pure, Except.ok.injEq] at success
  obtain ⟨spent, ⟨_, _, _, first⟩, _, _, _, _, cooled, ⟨_, _, _, second⟩, _, _, _, _, _, _, last⟩ :=
    success
  by_contra neither
  rw [not_or] at neither
  apply changed
  rw [← last, second, first, Ledger.write, Function.update_of_ne neither.2, Ledger.write,
    Function.update_of_ne neither.1]

/-- Extra-account resolution agrees with the rule programs and with the client:
the list written for a mint resolves, over any transfer of that mint, to what
`Execute` names, and every slot is where its rule keeps the account. -/
theorem resolution_agrees (rt : Runtime) (before : Ledger) (lists : MetaLists)
    (init : InitializeExtraAccountMetaList) (written : Ledger × MetaLists)
    (initialized : initializeExtraAccountMetaList rt before lists init = .ok written)
    (ledger : Ledger) (mint : loadMint rt (ledger init.stedeMint) = .ok ())
    (source destination authority recipient : Pubkey)
    (owned : readPubkey (ledger destination).data 32 (.program .invalidAccountData) = .ok recipient)
    (signs : rt.canSign authority = true) :
    ∃ extras accounts, written.2 (extraAccountMetaListPda rt init.stedeMint).1 = some extras ∧
      resolveAll rt ledger (baseAccounts rt source init.stedeMint destination authority) extras =
        .ok accounts.toList ∧
      Execute.tryAccounts rt ledger accounts.toList = .ok accounts ∧
      accounts.toList.take 5 = baseAccounts rt source init.stedeMint destination authority ∧
      RulesAgree rt authority init.stedeMint recipient (ledger destination) accounts := by
  have ⟨_, here, _, _, extras, packed, wrote⟩ :=
    (initializeExtraAccountMetaList_eq_ok _ _ _ _ _).mp initialized
  have ⟨long, bytes⟩ := (readPubkey_eq_ok _ _ _ _).mp owned
  have resolved := extraAccounts_resolve rt ledger source init.stedeMint destination authority
    recipient long bytes
  rw [packed, ok_bind] at resolved
  refine ⟨extras, resolvedAccounts rt source init.stedeMint destination authority recipient, ?_,
    resolved, tryAccounts_resolved rt ledger _ _ _ _ _ mint, rfl, ?_⟩
  · simp only [wrote, here, Function.update_self]
  · exact {
      dailyLimit := dailyLimit_agrees signs _
      blockList := blockList_agrees signs _
      cooloff := cooloff_agrees signs _
      slowSendConfig := slowSendConfig_agrees signs _ recipient _ owned
      slowSendContact := slowSendContact_agrees signs _ recipient _ owned
      timeWindow := timeWindow_agrees signs _
      friendGate := friendGate_agrees signs _
      written := by
        intro env _ amount next success key changed
        rcases executeHandler_frame success key changed with daily | cooled
        · exact ⟨_, by simp [Execute.toList], daily.symm, rfl⟩
        · exact ⟨_, by simp [Execute.toList], cooled.symm, rfl⟩ }

theorem resolution_agrees_sample : ∃ accounts, RulesAgree Runtime.sample (Runtime.sampleKey 3)
    (Runtime.sampleKey 2) (Runtime.sampleKey 5) (sampleLedger (Runtime.sampleKey 4)) accounts := by
  have mint : loadMint Runtime.sample (sampleLedger (Runtime.sampleKey 2)) = .ok () := by
    decide +kernel
  have ⟨_, accounts, _, _, _, _, agree⟩ := resolution_agrees Runtime.sample sampleLedger
    (fun _ => none) ⟨⟨Runtime.sampleKey 1, true, true⟩,
      (extraAccountMetaListPda Runtime.sample (Runtime.sampleKey 2)).1, Runtime.sampleKey 2⟩ _
    ((initializeExtraAccountMetaList_eq_ok _ _ _ _ _).mpr
      ⟨by decide, rfl, mint, by decide +kernel, _, extraAccounts_eq_ok, rfl⟩)
    sampleLedger mint (Runtime.sampleKey 6) (Runtime.sampleKey 4) (Runtime.sampleKey 3)
    (Runtime.sampleKey 5) (by decide +kernel) (by decide)
  exact ⟨accounts, agree⟩

end Stede.Hook
