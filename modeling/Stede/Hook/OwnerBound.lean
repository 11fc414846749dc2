import Stede.Hook.Transfer

set_option autoImplicit false

/- Whose rules a transfer has to pass: those of the wallet whose money it is, or those
of whoever signs. -/
namespace Stede.Hook

/-- No account turns into one of Token-2022. -/
def NoNewTokens (before after : Ledger) : Prop :=
  ∀ key, (before key).owner ≠ Programs.token2022 → (after key).owner ≠ Programs.token2022

section Programs

variable {rt : Runtime} {ledger middle next : Ledger}

theorem NoNewTokens.refl (ledger : Ledger) : NoNewTokens ledger ledger := fun _ foreign => foreign

theorem NoNewTokens.trans (first : NoNewTokens ledger middle) (second : NoNewTokens middle next) :
    NoNewTokens ledger next := fun key foreign => second key (first key foreign)

theorem NoNewTokens.write {key : Pubkey} {account : Account}
    (foreign : account.owner ≠ Programs.token2022 ∨ account.owner = (ledger key).owner) :
    NoNewTokens ledger (ledger.write key account) := by
  intro other before
  by_cases here : other = key
  · rw [here] at before ⊢
    rw [Ledger.write_self]
    rcases foreign with own | kept
    · exact own
    · rw [kept]
      exact before
  · rw [Ledger.write_of_ne here]
    exact before

/-- The programs whose accounts the rules are kept in. -/
theorem rule_programs_listed (slot : RuleSlot) : slot.program ∈ Programs.workspace := by
  cases slot <;> simp [RuleSlot.program, Programs.workspace, DailyLimit.kind, BlockList.kind,
    Cooloff.kind, SlowSendConfig.kind, SlowSendContact.kind, TimeWindowConfig.kind, FriendGate.kind]

theorem rule_programs_foreign (slot : RuleSlot) : slot.program ≠ Programs.token2022 :=
  (Programs.workspace_foreign (rule_programs_listed slot)).2

theorem rule_address_silent (rt : Runtime) (key : RuleKey) : rt.canSign (key.address rt) = false :=
  rt.pda_cannot_sign _ (rule_programs_listed key.slot) _

section Kinds

variable {α : Type} {kind : ConfigKind α}

theorem store_owner {value : α} {account stored : Account}
    (success : kind.store value account = .ok stored) : stored.owner = account.owner := by
  rw [((kind.store_eq_ok _ _ _).mp success).2]

theorem set_foreign (foreign : kind.program ≠ Programs.token2022) {accounts : SetConfig}
    {handler : UInt8 → α → Except Error α}
    (success : kind.set rt ledger accounts handler = .ok next) : NoNewTokens ledger next := by
  have ⟨_, _, old, account, value, stored, loaded, _, written, same⟩ :=
    (kind.set_eq_ok _ _ _ _ _).mp success
  rw [same]
  apply NoNewTokens.write
  left
  rw [store_owner written]
  rcases (kind.initIfNeeded_eq_ok _ _ _ _ _ kind.foreign).mp loaded with
    ⟨_, _, _, created⟩ | ⟨owned, _, _, kept⟩
  · rw [created]
    exact foreign
  · rw [kept, owned]
    exact foreign

theorem disable_foreign {accounts : DisableConfig}
    (success : kind.disable rt ledger accounts = .ok next) : NoNewTokens ledger next := by
  have ⟨_, _, _, _, _, same⟩ := (kind.disable_eq_ok _ _ _ _).mp success
  rw [same]
  apply NoNewTokens.write
  exact Or.inl Programs.token2022_foreign.symm

/-- A check that writes its account back keeps the account's program. -/
theorem checked_owner {invalid : Error} {key : Pubkey} {account after : Account}
    {body : α → Except Error Account}
    (kept : ∀ value, body value = .ok after → after.owner = account.owner)
    (accepted : kind.checked rt invalid key account account body = .ok after) :
    after.owner = account.owner := by
  rcases (kind.checked_eq_ok _ _ _ _ _ _ _).mp accepted with ⟨_, same⟩ | ⟨_, _, value, _, _, done⟩
  · rw [same]
  · exact kept value done

end Kinds

theorem checkDailyLimit_foreign {clock : Clock} {dailyLimit : AccountMeta} {amount : UInt64}
    (success : DailyLimit.checkTransfer rt clock ledger dailyLimit amount = .ok next) :
    NoNewTokens ledger next := by
  have ⟨_, account, handled, same⟩ := (DailyLimit.checkTransfer_eq_ok _ _ _ _ _ _).mp success
  rw [same]
  apply NoNewTokens.write
  right
  apply checked_owner _ handled
  intro value done
  have ⟨charged, _, written⟩ := (bind_eq_ok _ _ _).mp done
  exact store_owner written

theorem checkCooloff_foreign {clock : Clock} {cooloff : AccountMeta} {amount : UInt64}
    (success : Cooloff.checkTransfer rt clock ledger cooloff amount = .ok next) :
    NoNewTokens ledger next := by
  obtain ⟨_, account, handled, same⟩ := (Cooloff.checkTransfer_eq_ok _ _ _ _ _ _).mp success
  rw [same]
  apply NoNewTokens.write
  right
  apply checked_owner _ handled
  intro value done
  by_cases small : amount < value.threshold
  · rw [if_pos small] at done
    rw [← Except.ok.inj done]
  · rw [if_neg small] at done
    simp only [bind_eq_ok] at done
    obtain ⟨_, _, _, _, written⟩ := done
    exact store_owner written

theorem execute_foreign {env : Env} {accounts : List AccountMeta} {amount : UInt64}
    (success : execute rt env ledger accounts amount = .ok next) : NoNewTokens ledger next := by
  have ⟨given, _, handled⟩ := (bind_eq_ok _ _ _).mp success
  simp only [executeHandler, bind_eq_ok] at handled
  have ⟨spent, first, _, _, _, _, cooled, second, _, _, _, _, _, _, last⟩ := handled
  rw [← Except.ok.inj last]
  exact (checkDailyLimit_foreign first).trans (checkCooloff_foreign second)

theorem removeBlocked_foreign {accounts : SetConfig} {blockedWallet : Pubkey}
    (success : BlockList.removeBlocked rt ledger accounts blockedWallet = .ok next) :
    NoNewTokens ledger next := by
  have ⟨_, _, _, stored, _, _, _, _, _, written, same⟩ :=
    (BlockList.removeBlocked_eq_ok _ _ _ _ _).mp success
  rw [same]
  apply NoNewTokens.write
  right
  exact store_owner written

theorem registerRecipient_foreign {clock : Clock} {accounts : RegisterRecipient} {recipient : Pubkey}
    (success : SlowSend.registerRecipient rt clock ledger accounts recipient = .ok next) :
    NoNewTokens ledger next := by
  have ⟨_, _, created, stored, fresh, written, same⟩ :=
    (SlowSend.registerRecipient_eq_ok _ _ _ _ _ _).mp success
  rw [same]
  apply NoNewTokens.write
  left
  rw [((SlowSendContact.kind.store_eq_ok _ _ _).mp written).2,
    ((AccountType.create_eq_ok _ _ _ _ _).mp fresh).2.2]
  exact rule_programs_foreign (.slowSendContact .default)

/-- A check without effect. -/
theorem readOnly_foreign {first : Except Error Unit}
    (success : (first >>= fun _ => pure ledger) = .ok next) : NoNewTokens ledger next := by
  have ⟨_, _, same⟩ := (bind_eq_ok _ _ _).mp success
  rw [← Except.ok.inj same]
  exact .refl ledger

/-- No instruction of a rule or of the hook makes a token account. -/
theorem process_foreign {env : Env} {instruction : Instruction}
    (success : instruction.process rt env ledger = .ok next) : NoNewTokens ledger next := by
  cases instruction with
  | setLimit =>
      simp only [Instruction.process, DailyLimit.setLimit] at success
      exact set_foreign (rule_programs_foreign .dailyLimit) success
  | addBlocked =>
      simp only [Instruction.process, BlockList.addBlocked] at success
      exact set_foreign (rule_programs_foreign .blockList) success
  | setCooloff =>
      simp only [Instruction.process, Cooloff.setCooloff] at success
      exact set_foreign (rule_programs_foreign .cooloff) success
  | setSlowSend =>
      simp only [Instruction.process, SlowSend.setSlowSend] at success
      exact set_foreign (rule_programs_foreign .slowSendConfig) success
  | setTimeWindow =>
      simp only [Instruction.process, TimeWindowConfig.setTimeWindow] at success
      exact set_foreign (rule_programs_foreign .timeWindow) success
  | setFriendGate =>
      simp only [Instruction.process, FriendGate.setFriendGate] at success
      exact set_foreign (rule_programs_foreign .friendGate) success
  | removeBlocked => exact removeBlocked_foreign success
  | registerRecipient => exact registerRecipient_foreign success
  | disableCooloff | disableSlowSend | disableTimeWindow | disableFriendGate =>
      exact disable_foreign success
  | checkDailyLimit => exact checkDailyLimit_foreign success
  | checkCooloff => exact checkCooloff_foreign success
  | checkBlockList | checkSlowSend | checkTimeWindow | checkFriendGate =>
      exact readOnly_foreign success
  | execute => exact execute_foreign success
  | fallback =>
      simp only [Instruction.process, fallback, bind_eq_ok] at success
      obtain ⟨_, _, _, _, executed⟩ := success
      exact execute_foreign executed

theorem initializeExtraAccountMetaList_foreign {lists : MetaLists}
    {accounts : InitializeExtraAccountMetaList} {written : Ledger × MetaLists}
    (success : initializeExtraAccountMetaList rt ledger lists accounts = .ok written) :
    NoNewTokens ledger written.1 := by
  have ⟨_, _, _, _, _, _, same⟩ := (initializeExtraAccountMetaList_eq_ok _ _ _ _ _).mp success
  have hook : Programs.stedeHook ≠ Programs.token2022 :=
    (Programs.workspace_foreign (by simp [Programs.workspace])).2
  rw [congrArg Prod.fst same]
  exact NoNewTokens.write (Or.inl hook)

theorem transferChecked_foreign {token : Token2022 rt} {env : Env} {lists : MetaLists}
    {transfer : Transfer} (success : transferChecked token env ledger lists transfer = .ok next) :
    NoNewTokens ledger next := by
  have ⟨moved, paid, rest⟩ := transferChecked_eq_ok.mp success
  have first : NoNewTokens ledger moved := by
    intro key foreign
    rw [(token.move_keeps _ _ _ paid).program]
    exact foreign
  rcases rest with ⟨_, same⟩ | ⟨_, called, invoked, same⟩
  · rw [same]
    exact first
  · have ⟨_, _, _, _, executed⟩ := invokeExecute_eq_ok.mp invoked
    have second := execute_foreign executed
    intro key foreign
    rw [same, (token.settle_keeps called transfer).program]
    exact second key (first key foreign)

end Programs

/-- The rule accounts that a transfer can have to do with, if both the owner of the
money and the authority are asked. -/
def transferKeys (owner authority recipient stedeMint : Pubkey) : Set RuleKey :=
  {key | (key.pair.sender = owner ∨ key.pair.sender = authority) ∧ key.pair.stedeMint = stedeMint ∧
    ∀ other, key.slot = .slowSendContact other → other = recipient}

/-- Every rule configured by `owner` accepts the transfer, and `after` holds what the
rule leaves in its account. -/
def Binds (rt : Runtime) (env : Env) (transfer : Transfer) (owner recipient : Pubkey)
    (before after : Ledger) : Prop :=
  ∀ rule : Rule, rule.verdict rt env (callFor rt transfer owner recipient) transfer.amount before =
    .ok (after (RuleKey.address rt ⟨⟨owner, transfer.stedeMint⟩, rule.slot⟩))

/-- Every rule configured by `owner` accepts the transfer and has nothing to record. -/
def Idle (rt : Runtime) (env : Env) (transfer : Transfer) (owner recipient : Pubkey)
    (before : Ledger) : Prop :=
  Binds rt env transfer owner recipient before before

section Settling

variable {rt : Runtime} {token : Token2022 rt} {env : Env} {ledger next : Ledger} {lists : MetaLists}
  {transfer : Transfer} {owner recipient : Pubkey}

theorem config_mem (rule : Rule) {wallet authority stedeMint : Pubkey}
    (party : wallet = owner ∨ wallet = authority) :
    (⟨⟨wallet, stedeMint⟩, rule.slot⟩ : RuleKey) ∈ transferKeys owner authority recipient stedeMint := by
  refine ⟨party, rfl, fun other contact => ?_⟩
  cases rule <;> cases contact

theorem contact_mem {wallet authority stedeMint : Pubkey}
    (party : wallet = owner ∨ wallet = authority) :
    (⟨⟨wallet, stedeMint⟩, .slowSendContact recipient⟩ : RuleKey) ∈
      transferKeys owner authority recipient stedeMint := by
  refine ⟨party, rfl, fun other contact => ?_⟩
  exact (RuleSlot.slowSendContact.inj contact).symm

theorem ruleKeys_subset (authority stedeMint : Pubkey) :
    {key | key ∈ ruleKeys authority stedeMint recipient} ⊆
      RuleKey.derivation '' transferKeys owner authority recipient stedeMint := by
  have bare (slot : RuleSlot) (apart : ∀ other, slot = .slowSendContact other → other = recipient) :
      RuleKey.derivation ⟨⟨authority, stedeMint⟩, slot⟩ ∈
        RuleKey.derivation '' transferKeys owner authority recipient stedeMint :=
    ⟨_, ⟨Or.inr rfl, rfl, apart⟩, rfl⟩
  intro key member
  simp only [ruleKeys, Set.mem_ofPred_eq, List.mem_cons, List.not_mem_nil, or_false] at member
  rcases member with same | same | same | same | same | same | same
  · rw [same]
    exact bare .dailyLimit fun _ same => by cases same
  · rw [same]
    exact bare .blockList fun _ same => by cases same
  · rw [same]
    exact bare .cooloff fun _ same => by cases same
  · rw [same]
    exact bare .slowSendConfig fun _ same => by cases same
  · rw [same]
    refine bare (.slowSendContact recipient) fun other contact => ?_
    exact (RuleSlot.slowSendContact.inj contact).symm
  · rw [same]
    exact bare .timeWindow fun _ same => by cases same
  · rw [same]
    exact bare .friendGate fun _ same => by cases same

/-- A transfer leaves alone what is not an account of Token-2022. -/
theorem move_foreign {moved : Ledger} (paid : token.move ledger transfer = .ok moved) {key : Pubkey}
    (foreign : (ledger key).owner ≠ Programs.token2022) :
    key ≠ transfer.source ∧ key ≠ transfer.destination ∧ moved key = ledger key := by
  have ⟨valid, _⟩ := token.move_valid _ _ _ paid
  have not_source : key ≠ transfer.source := by
    intro same
    rw [same] at foreign
    exact foreign valid.source.1
  have not_destination : key ≠ transfer.destination := by
    intro same
    rw [same] at foreign
    exact foreign valid.destination.1
  exact ⟨not_source, not_destination,
    (token.move_keeps _ _ _ paid).elsewhere key not_source not_destination⟩

section Settled

variable (written : ListsWritten lists)
  (free : rt.CollisionFree (RuleKey.derivation ''
    transferKeys owner transfer.authority.pubkey recipient transfer.stedeMint))
  (foreign : ∀ key ∈ transferKeys owner transfer.authority.pubkey recipient transfer.stedeMint,
    (ledger (key.address rt)).owner ≠ Programs.token2022)
  (owned : (ledger transfer.destination).tokenOwner = some recipient)
  (success : transferChecked token env ledger lists transfer = .ok next)
include written free foreign owned success

/-- What a settled transfer that called the hook leaves in the rule accounts, in
terms of the state before it. -/
theorem hook_asked (apart : transfer.source ≠ transfer.destination) :
    Binds rt env transfer transfer.authority.pubkey recipient ledger next ∧
      ∀ key ∈ transferKeys owner transfer.authority.pubkey recipient transfer.stedeMint,
        key.pair.sender ≠ transfer.authority.pubkey →
          next (key.address rt) = ledger (key.address rt) := by
  have ⟨moved, paid, rest⟩ := transferChecked_eq_ok.mp success
  rcases rest with ⟨self, _⟩ | ⟨_, called, invoked, same⟩
  · exact absurd self apart
  · have destination := (token.move_keeps _ _ _ paid).parties transfer.destination
    have held : (moved transfer.destination).owner = Programs.token2022 :=
      ((token.move_keeps _ _ _ paid).program _).trans (token.move_valid _ _ _ paid).1.destination.1
    have ⟨accepts, frame⟩ := invokeExecute_verdicts written (free.mono (ruleKeys_subset _ _)) held
      ((Account.tokenOwner_congr destination).trans owned) invoked
    have kept {key : RuleKey} (member : key ∈
        transferKeys owner transfer.authority.pubkey recipient transfer.stedeMint) :
        moved (key.address rt) = ledger (key.address rt) :=
      (move_foreign paid (foreign key member)).2.2
    have settled {key : RuleKey} (member : key ∈
        transferKeys owner transfer.authority.pubkey recipient transfer.stedeMint) :
        next (key.address rt) = called (key.address rt) := by
      have ⟨not_source, not_destination, _⟩ := move_foreign paid (foreign key member)
      rw [same]
      exact (token.settle_keeps called transfer).elsewhere _ not_source not_destination
    constructor
    · intro rule
      rw [settled (config_mem rule (Or.inr rfl)), ← accepts rule]
      apply Rule.verdict_recipient
      · rw [callFor, Rule.config_resolved]
        exact (kept (config_mem rule (Or.inr rfl))).symm
      · exact destination.symm
      · rw [callFor, Rule.contact_resolved]
        exact (kept (contact_mem (Or.inr rfl))).symm
    · intro key member other
      rw [settled member, frame _ _, kept member]
      intro rule collides
      have keys := RuleKey.address_injOn free member (config_mem rule (Or.inr rfl)) collides
      exact other (congrArg (·.pair.sender) keys)

/-- One settled transfer: the rules of the owner have been asked exactly if the owner
was the authority of a transfer that called the hook, and else nobody asked them. -/
theorem binds_iff : Binds rt env transfer owner recipient ledger next ↔
    (transfer.authority.pubkey = owner ∧ transfer.source ≠ transfer.destination) ∨
      Idle rt env transfer owner recipient ledger := by
  have untouched (apart : ∀ rule : Rule,
      next (RuleKey.address rt ⟨⟨owner, transfer.stedeMint⟩, rule.slot⟩) =
        ledger (RuleKey.address rt ⟨⟨owner, transfer.stedeMint⟩, rule.slot⟩)) :
      Binds rt env transfer owner recipient ledger next ↔
        Idle rt env transfer owner recipient ledger := by
    simp only [Idle, Binds, apart]
  by_cases self : transfer.source = transfer.destination
  · have not_hooked : ¬ (transfer.authority.pubkey = owner ∧
        transfer.source ≠ transfer.destination) := fun hooked => hooked.2 self
    rw [or_iff_right not_hooked]
    have ⟨moved, paid, rest⟩ := transferChecked_eq_ok.mp success
    rcases rest with ⟨_, same⟩ | ⟨apart, _⟩
    · apply untouched
      intro rule
      rw [same]
      exact (move_foreign paid (foreign _ (config_mem rule (Or.inl rfl)))).2.2
    · exact absurd self apart
  · have ⟨asked, others⟩ := hook_asked written free foreign owned success self
    by_cases signs : transfer.authority.pubkey = owner
    · rw [signs] at asked
      exact iff_of_true asked (Or.inl ⟨signs, self⟩)
    · have not_hooked : ¬ (transfer.authority.pubkey = owner ∧
          transfer.source ≠ transfer.destination) := fun hooked => signs hooked.1
      rw [or_iff_right not_hooked]
      apply untouched
      intro rule
      exact others _ (config_mem rule (Or.inl rfl)) fun same => signs same.symm

end Settled

end Settling

/-- What happens on the chain: transfers of Stede mints, the instructions of the rules
and the hook, a list of extra accounts being written, and other programs' writes. -/
inductive Event
  | transfer (env : Env) (transfer : Transfer)
  | process (env : Env) (instruction : Instruction)
  | initializeExtraAccountMetaList (accounts : InitializeExtraAccountMetaList)
  | elsewhere (key : Pubkey) (account : Account)

/-- The accounts, and the lists of extra accounts. -/
abbrev Chain := Ledger × MetaLists

def happen {rt : Runtime} (token : Token2022 rt) (chain : Chain) (event : Event) :
    Except Error Chain :=
  match event with
  | .transfer env transfer => do
      let ledger ← transferChecked token env chain.1 chain.2 transfer
      return (ledger, chain.2)
  | .process env instruction => do
      let ledger ← instruction.process rt env chain.1
      return (ledger, chain.2)
  | .initializeExtraAccountMetaList accounts =>
      initializeExtraAccountMetaList rt chain.1 chain.2 accounts
  | .elsewhere key account => .ok (chain.1.write key account, chain.2)

/-- The lists are the hook's, and no token account lies at the address of a rule account. -/
structure InOrder (rt : Runtime) (keys : Set RuleKey) (chain : Chain) : Prop where
  written : ListsWritten chain.2
  foreign : ∀ key ∈ keys, (chain.1 (key.address rt)).owner ≠ Programs.token2022

/-- Other programs put no token account at the address of a rule account. -/
def OutsideInOrder (rt : Runtime) (keys : Set RuleKey) (event : Event) : Prop :=
  ∀ key ∈ keys, ∀ account, event = .elsewhere (key.address rt) account →
    account.owner ≠ Programs.token2022

theorem InOrder.happen {rt : Runtime} {token : Token2022 rt} {keys : Set RuleKey}
    {chain next : Chain} {event : Event} (order : InOrder rt keys chain)
    (outside : OutsideInOrder rt keys event) (success : Hook.happen token chain event = .ok next) :
    InOrder rt keys next := by
  have kept (lists : next.2 = chain.2) (accounts : NoNewTokens chain.1 next.1) :
      InOrder rt keys next := by
    constructor
    · rw [lists]
      exact order.written
    · intro key member
      exact accounts _ (order.foreign key member)
  cases event with
  | transfer env transfer =>
      have ⟨ledger, transferred, same⟩ := (bind_eq_ok _ _ _).mp success
      rw [← Except.ok.inj same] at kept ⊢
      exact kept rfl (transferChecked_foreign transferred)
  | process env instruction =>
      have ⟨ledger, processed, same⟩ := (bind_eq_ok _ _ _).mp success
      rw [← Except.ok.inj same] at kept ⊢
      exact kept rfl (process_foreign processed)
  | initializeExtraAccountMetaList accounts =>
      constructor
      · exact order.written.initialize success
      · intro key member
        exact initializeExtraAccountMetaList_foreign success _ (order.foreign key member)
  | elsewhere place account =>
      rw [← Except.ok.inj success]
      constructor
      · exact order.written
      · intro key member
        show ((chain.1.write place account) (key.address rt)).owner ≠ _
        by_cases here : key.address rt = place
        · rw [here, Ledger.write_self]
          apply outside key member
          rw [here]
        · rw [Ledger.write_of_ne here]
          exact order.foreign key member

section Runs

variable {rt : Runtime} (token : Token2022 rt) (start : Chain) (events : List Event)

/-- A transfer of the run that settles, between accounts of `owner` and `recipient`. -/
structure Settled (before : Chain) (env : Env) (transfer : Transfer) (after : Chain)
    (owner recipient : Pubkey) : Prop where
  taken : Run.Taken (happen token) start events before (.transfer env transfer)
  success : happen token before (.transfer env transfer) = .ok after
  owner : (before.1 transfer.source).tokenOwner = some owner
  recipient : (before.1 transfer.destination).tokenOwner = some recipient

/-- The rule accounts of the owners and the authorities of the transfers that settle. -/
def inPlay : Set RuleKey :=
  {key | ∃ before env transfer after owner recipient,
    Settled token start events before env transfer after owner recipient ∧
      key ∈ transferKeys owner transfer.authority.pubkey recipient transfer.stedeMint}

end Runs

/-- In every run the rules of the wallet whose money moves are bound to be asked by a
transfer that settles exactly if that wallet is also the authority of the transfer, and
the transfer is not one to its own source. Otherwise nobody asks them, and all is well
only if they had nothing to refuse or to record. -/
theorem owner_bound_iff (rt : Runtime) (token : Token2022 rt) (start : Chain) (events : List Event)
    (order : InOrder rt (inPlay token start events) start)
    (outside : ∀ event ∈ events, OutsideInOrder rt (inPlay token start events) event)
    (free : rt.CollisionFree (RuleKey.derivation '' inPlay token start events)) :
    ∀ before env transfer after owner recipient,
      Settled token start events before env transfer after owner recipient →
        (Binds rt env transfer owner recipient before.1 after.1 ↔
          (transfer.authority.pubkey = owner ∧ transfer.source ≠ transfer.destination) ∨
            Idle rt env transfer owner recipient before.1) := by
  intro before env transfer after owner recipient settled
  have before_order : InOrder rt (inPlay token start events) before := by
    apply Run.reached_invariant order _ settled.taken.reached
    intro current event next member current_order success
    exact current_order.happen (outside event member) success
  have included : transferKeys owner transfer.authority.pubkey recipient transfer.stedeMint ⊆
      inPlay token start events :=
    fun key member => ⟨before, env, transfer, after, owner, recipient, settled, member⟩
  have ⟨ledger, transferred, same⟩ := (bind_eq_ok _ _ _).mp settled.success
  rw [← Except.ok.inj same]
  exact binds_iff before_order.written (free.mono (Set.image_mono included))
    (fun key member => before_order.foreign key (included member)) settled.recipient transferred

/- Wallet 1 limits itself to 100 a day, and its delegate, wallet 3, who has no rules,
moves 500. -/
section Sample

open Stede.Runtime (sampleKey)

/-- A token account of mint 2 with 1000 in it, of which a delegate may move 900. -/
def sampleTokens (owner delegate : Pubkey) : Account :=
  ⟨1, (sampleKey 2).bytes ++ owner.bytes ++ bytesLE 8 1000 ++ [1, 0, 0, 0] ++ delegate.bytes ++ [1] ++
    List.replicate 12 0 ++ bytesLE 8 900 ++ List.replicate 36 0, Programs.token2022⟩

def sampleLimit : DailyLimit :=
  ⟨sampleKey 1, sampleKey 2, 100, 0, 500, (DailyLimit.kind.pda .sample (sampleKey 1) (sampleKey 2)).2⟩

def sampleMoney : Ledger :=
  ((sampleLedger.write (sampleKey 6) (sampleTokens (sampleKey 1) (sampleKey 3))).write (sampleKey 4)
      (sampleTokens (sampleKey 5) (sampleKey 3))).write
    (DailyLimit.kind.pda .sample (sampleKey 1) (sampleKey 2)).1 (DailyLimit.kind.created .sample sampleLimit)

def sampleChain : Chain := (sampleMoney, fun _ => extraAccounts.toOption)

def sampleTransfer (authority : Pubkey) (amount : UInt64) : Transfer :=
  ⟨sampleKey 6, sampleKey 2, sampleKey 4, ⟨authority, true, false⟩, amount, 0,
    (resolvedAccounts .sample (sampleKey 6) (sampleKey 2) (sampleKey 4) authority
      (sampleKey 5)).toList.drop 5 ++
        [⟨Programs.stedeHook, false, false⟩,
          ⟨(extraAccountMetaListPda .sample (sampleKey 2)).1, false, false⟩]⟩

def sampleEvent (authority : Pubkey) (amount : UInt64) : Event :=
  .transfer sampleEnv (sampleTransfer authority amount)

def sampleAfter (authority : Pubkey) (amount : UInt64) : Chain :=
  Run.commit (happen (.plain .sample)) sampleChain (sampleEvent authority amount)

theorem sample_parties : (sampleMoney (sampleKey 6)).tokenOwner = some (sampleKey 1) ∧
    (sampleMoney (sampleKey 4)).tokenOwner = some (sampleKey 5) := by
  decide +kernel

theorem sample_settled {authority : Pubkey} {amount : UInt64}
    (settles : (happen (.plain .sample) sampleChain (sampleEvent authority amount)).isOk = true) :
    Settled (.plain .sample) sampleChain [sampleEvent authority amount] sampleChain sampleEnv
      (sampleTransfer authority amount) (sampleAfter authority amount) (sampleKey 1) (sampleKey 5) := by
  refine ⟨⟨[], [], rfl, rfl⟩, ?_, sample_parties.1, sample_parties.2⟩
  rcases Run.commit_cases (happen (.plain .sample)) sampleChain (sampleEvent authority amount) with
    success | ⟨⟨reason, failed⟩, _⟩
  · exact success
  · rw [failed] at settles
    cases settles

theorem sample_inPlay {authority : Pubkey} {amount : UInt64} :
    inPlay (.plain .sample) sampleChain [sampleEvent authority amount] ⊆
      transferKeys (sampleKey 1) authority (sampleKey 5) (sampleKey 2) := by
  intro key ⟨before, env, transfer, after, owner, recipient, settled, member⟩
  rcases (Run.taken_cons _ _ _ _ _).mp settled.taken with ⟨here, event⟩ | later
  · have same : transfer = sampleTransfer authority amount := (Event.transfer.inj event).2
    have owned := settled.owner
    have credited := settled.recipient
    rw [here, same] at owned credited
    have first : sampleKey 1 = owner := Option.some.inj (sample_parties.1.symm.trans owned)
    have second : sampleKey 5 = recipient := Option.some.inj (sample_parties.2.symm.trans credited)
    rw [same, ← first, ← second] at member
    exact member
  · exact absurd later (Run.not_taken_nil _ _ _)

theorem sample_foreign (key : RuleKey) :
    (sampleChain.1 (key.address .sample)).owner ≠ Programs.token2022 := by
  have silent := rule_address_silent .sample key
  have apart {wallet : Pubkey} (signs : Runtime.sample.canSign wallet = true) :
      key.address .sample ≠ wallet := by
    intro same
    rw [← same] at signs
    exact absurd (silent.symm.trans signs) (by decide)
  have source := apart (show Runtime.sample.canSign (sampleKey 6) = true by decide +kernel)
  have destination := apart (show Runtime.sample.canSign (sampleKey 4) = true by decide +kernel)
  have stedeMint := apart (show Runtime.sample.canSign (sampleKey 2) = true by decide +kernel)
  show (sampleMoney (key.address .sample)).owner ≠ _
  by_cases limit : key.address .sample = (DailyLimit.kind.pda .sample (sampleKey 1) (sampleKey 2)).1
  · rw [limit, sampleMoney, Ledger.write_self]
    exact rule_programs_foreign .dailyLimit
  · rw [sampleMoney, Ledger.write_of_ne limit, Ledger.write_of_ne destination,
      Ledger.write_of_ne source, sampleLedger, if_neg stedeMint, if_neg destination]
    decide +kernel

/-- The seven rule accounts of each of two wallets. -/
def partyKeys (owner authority : Pubkey) : List RuleKey :=
  [owner, authority].flatMap fun wallet => ([.dailyLimit, .blockList, .cooloff, .slowSendConfig,
    .slowSendContact (sampleKey 5), .timeWindow, .friendGate] : List RuleSlot).map fun slot =>
      ⟨⟨wallet, sampleKey 2⟩, slot⟩

theorem transferKeys_listed {owner authority : Pubkey} {key : RuleKey}
    (member : key ∈ transferKeys owner authority (sampleKey 5) (sampleKey 2)) :
    key ∈ partyKeys owner authority := by
  obtain ⟨⟨sender, stedeMint⟩, slot⟩ := key
  have ⟨party, mint, contact⟩ := member
  simp only at party mint
  rw [mint]
  cases slot with
  | slowSendContact recipient =>
      rw [contact recipient rfl]
      rcases party with same | same <;> simp [partyKeys, same]
  | _ => rcases party with same | same <;> simp [partyKeys, same]

theorem sample_free : Runtime.CollisionFree .sample (RuleKey.derivation ''
    transferKeys (sampleKey 1) (sampleKey 3) (sampleKey 5) (sampleKey 2)) := by
  have free : Runtime.CollisionFree .sample (RuleKey.derivation ''
      {key | key ∈ partyKeys (sampleKey 1) (sampleKey 3)}) :=
    RuleKey.free_of_nodup (by decide +kernel)
  exact free.mono (Set.image_mono fun _ => transferKeys_listed)

theorem sample_written : ListsWritten sampleChain.2 := by
  intro list extras found
  cases packed : extraAccounts with
  | ok extras' =>
      have same : extraAccounts.toOption = some extras := found
      rw [packed] at same
      rw [Option.some.inj same]
  | error reason =>
      rw [extraAccounts_eq_ok] at packed
      cases packed

theorem owner_bound_iff_sample :
    Binds .sample sampleEnv (sampleTransfer (sampleKey 3) 50) (sampleKey 1) (sampleKey 5) sampleChain.1
        (sampleAfter (sampleKey 3) 50).1 ↔
      (sampleKey 3 = sampleKey 1 ∧ sampleKey 6 ≠ sampleKey 4) ∨
        Idle .sample sampleEnv (sampleTransfer (sampleKey 3) 50) (sampleKey 1) (sampleKey 5)
          sampleChain.1 := by
  refine owner_bound_iff .sample (.plain .sample) sampleChain [sampleEvent (sampleKey 3) 50]
    ⟨sample_written, fun key _ => sample_foreign key⟩ ?_
    (sample_free.mono (Set.image_mono sample_inPlay)) _ _ _ _ _ _ (sample_settled (by decide +kernel))
  intro event member key _ account elsewhere
  rw [List.mem_singleton.mp member] at elsewhere
  cases elsewhere

/-- The transfer that the daily limit refuses when its owner signs it settles when
the delegate does. -/
theorem owner_bypassed_by_delegate :
    Settled (.plain .sample) sampleChain [sampleEvent (sampleKey 3) 500] sampleChain sampleEnv
        (sampleTransfer (sampleKey 3) 500) (sampleAfter (sampleKey 3) 500) (sampleKey 1) (sampleKey 5) ∧
      ¬ Binds .sample sampleEnv (sampleTransfer (sampleKey 3) 500) (sampleKey 1) (sampleKey 5)
        sampleChain.1 (sampleAfter (sampleKey 3) 500).1 ∧
      (happen (.plain .sample) sampleChain (sampleEvent (sampleKey 1) 500)).map (fun _ => ()) =
        .error (.dailyLimit .dailyLimitExceeded) := by
  refine ⟨sample_settled (by decide +kernel), ?_, by decide +kernel⟩
  intro binds
  have refused : (Rule.dailyLimit.verdict .sample sampleEnv (callFor .sample
      (sampleTransfer (sampleKey 3) 500) (sampleKey 1) (sampleKey 5)) 500 sampleChain.1).isOk =
        false := by decide +kernel
  have accepted := binds .dailyLimit
  rw [show (sampleTransfer (sampleKey 3) 500).amount = 500 from rfl] at accepted
  rw [accepted] at refused
  cases refused

end Sample

end Stede.Hook
