import Stede.Policy.Represents
import Stede.Rules.CooloffHistory
import Stede.Rules.DailyHistory

set_option autoImplicit false

/- The instructions that set, change and disable a rule, as actions on the policy. -/
namespace Stede.Policy

/-- A slot of which a pair has one account, and not one for each recipient. -/
structure Bare (slot : RuleSlot) : Prop where
  distinct : ∀ recipient, slot ≠ .slowSendContact recipient

/-- One setting of a policy: the slot and the type of its account, how the value that
is held there is read, and where it stands in the policy. -/
structure Setting (α β : Type) where
  kind : ConfigKind α
  slot : RuleSlot
  good : α → Prop
  view : α → β
  get : Policy → Option β
  put : Policy → Option β → Policy
  bare : Bare slot := by exact ⟨nofun⟩
  address : ∀ rt pair,
    RuleKey.address rt ⟨pair, slot⟩ = (kind.pda rt pair.sender pair.stedeMint).1 := by intros; rfl
  shows : ∀ rt pair policy account, Shows rt pair policy account slot =
    kind.Shows rt pair good view account (get policy) := by intros; rfl
  get_put : ∀ policy content, get (put policy content) = content := by intros; rfl
  elsewhere : ∀ policy content, Elsewhere policy (put policy content) slot := by
    intro _ _ other apart _ _ _ seen
    cases other <;> first | exact absurd rfl apart | exact seen
  tagged : tag slot = (kind.program, kind.discriminator) := by rfl
  fresh : kind.sender kind.zero = .default := by rfl

def budgetSetting : Setting DailyLimit Budget where
  kind := DailyLimit.kind
  slot := .dailyLimit
  good _ := True
  view := DailyLimit.budget
  get := Policy.budget
  put policy content := { policy with budget := content }

def blockedSetting : Setting BlockList (Finset Pubkey) where
  kind := BlockList.kind
  slot := .blockList
  good := BlockList.Sound
  view := BlockList.entries
  get := Policy.blocked
  put policy content := { policy with blocked := content }

def pauseSetting : Setting Cooloff Pause where
  kind := Cooloff.kind
  slot := .cooloff
  good _ := True
  view := Cooloff.pause
  get := Policy.pause
  put policy content := { policy with pause := content }

def delaySetting : Setting SlowSendConfig Int where
  kind := SlowSendConfig.kind
  slot := .slowSendConfig
  good _ := True
  view := SlowSendConfig.delay
  get := Policy.delay
  put policy content := { policy with delay := content }

def nightSetting : Setting TimeWindowConfig Night where
  kind := TimeWindowConfig.kind
  slot := .timeWindow
  good := TimeWindowConfig.Valid
  view := TimeWindowConfig.night
  get := Policy.night
  put policy content := { policy with night := content }

def gateSetting : Setting FriendGate Gate where
  kind := FriendGate.kind
  slot := .friendGate
  good _ := True
  view := FriendGate.gate
  get := Policy.gate
  put policy content := { policy with gate := content }

/-- A handler does to a new value, and to one that somebody has claimed, what the
policy asks for. -/
def Setting.Follows {α β : Type} (setting : Setting α β) (handler : UInt8 → α → Except Error α)
    (spec : Option β → Except Refusal β) : Prop :=
  ∀ bump value content, (value = setting.kind.zero ∧ content = none) ∨
    (setting.good value ∧ setting.kind.sender value ≠ .default ∧
      content = some (setting.view value)) →
    Agrees (fun new content' => setting.good new ∧ setting.view new = content')
      (handler bump value) (spec content)

section Handlers

variable (sender stedeMint : Pubkey)

theorem setLimit_follows (clock : Clock) (limit : UInt64) :
    budgetSetting.Follows
      (fun bump => DailyLimit.setLimitHandler clock sender stedeMint bump limit)
      (newBudget clock.slot.toNat limit.toNat) := by
  intro bump value content known
  refine (agrees_require UInt64.lt_iff_toNat_lt rfl).bind fun _ _ _ _ => .ok ⟨trivial, ?_⟩
  rcases known with ⟨rfl, rfl⟩ | ⟨_, claimed, rfl⟩
  · rfl
  · have kept : value.sender ≠ .default := claimed
    simp only [kept, ↓reduceIte]
    rfl

theorem firstEmpty_isSome {blockList : BlockList} (sound : blockList.Sound) :
    blockList.firstEmpty.isSome ↔ blockList.entries.card < MAX_BLOCKED := by
  have full := Slots.firstHole_eq_none sound.distinct
  have bound := BlockList.entries_card_le blockList
  rw [blockList.blocked.property] at full
  rw [BlockList.firstEmpty_eq, ← Option.ne_none_iff_isSome, ne_eq, full]
  exact ⟨fun less => Nat.lt_of_le_of_ne bound less, Nat.ne_of_lt⟩

theorem addBlocked_follows (blockedWallet : Pubkey) :
    blockedSetting.Follows
      (fun bump => BlockList.addBlockedHandler sender stedeMint bump blockedWallet)
      (block blockedWallet) := by
  intro bump value content known
  have ⟨sound, entries⟩ : (value.claimed sender stedeMint bump).Sound ∧
      (value.claimed sender stedeMint bump).entries = content.getD ∅ := by
    rcases known with ⟨rfl, rfl⟩ | ⟨sound, claimed, rfl⟩
    · exact BlockList.claimed_zero sender stedeMint bump
    · rw [BlockList.claimed_of_claimed claimed]
      exact ⟨sound, rfl⟩
  have fresh : (value.claimed sender stedeMint bump).find blockedWallet = none ↔
      blockedWallet ∉ content.getD ∅ := by
    rw [← entries]
    exact Slots.find_eq_none
  have room : (value.claimed sender stedeMint bump).firstEmpty.isSome ↔
      (content.getD ∅).card < MAX_BLOCKED := by
    rw [← entries]
    exact firstEmpty_isSome sound
  refine (agrees_require Iff.rfl rfl).bind fun _ _ filled _ => ?_
  refine (agrees_require fresh rfl).bind fun _ _ absent _ => ?_
  refine (agrees_okOr room rfl).bind fun slot _ _ empty => .ok ?_
  have filled := (require_eq_ok _ _ _).mp filled
  have absent := (require_eq_ok _ _ _).mp absent
  have success := (BlockList.addBlockedHandler_eq_ok sender stedeMint bump blockedWallet value _).mpr
    ⟨filled, absent, slot, _, empty, rfl, rfl⟩
  obtain ⟨sound', added⟩ := BlockList.addBlockedHandler_adds sound success
  rw [← entries]
  exact ⟨sound', added⟩

theorem removeBlocked_follows {value : BlockList} (sound : value.Sound) (blockedWallet : Pubkey) :
    Agrees (fun new content => new.Sound ∧ new.entries = content ∧ new.sender = value.sender ∧
        new.stedeMint = value.stedeMint ∧ new.bump = value.bump)
      (BlockList.removeBlockedHandler blockedWallet value) (unblock blockedWallet value.entries) := by
  have listed : (value.find blockedWallet).isSome ↔ blockedWallet ∈ value.entries := by
    rw [← Option.ne_none_iff_isSome, ne_eq, BlockList.find_eq, Slots.find_eq_none]
    exact not_not
  refine (agrees_okOr listed rfl).bind fun slot _ found _ => .ok ?_
  apply BlockList.removeBlockedHandler_removes sound
  rw [BlockList.removeBlockedHandler, found]
  rfl

theorem removeBlocked_of_live {rt : Runtime} {ledger : Ledger} {accounts : SetConfig} {key : Pubkey}
    {value : BlockList} {blockedWallet : Pubkey} (signed : accounts.sender.signed rt = true)
    (live : BlockList.kind.Live rt key value (ledger accounts.config))
    (place : (accounts.config, BlockList.kind.bump value) =
      BlockList.kind.pda rt accounts.sender.pubkey accounts.stedeMint)
    (mine : value.sender = accounts.sender.pubkey) (mint : value.stedeMint = accounts.stedeMint) :
    BlockList.removeBlocked rt ledger accounts blockedWallet =
      (BlockList.removeBlockedHandler blockedWallet value).map fun new =>
        ledger.write accounts.config (BlockList.kind.held (ledger accounts.config).lamports new) := by
  have stores := live.store
  have place : (accounts.config, value.bump) =
      BlockList.kind.pda rt accounts.sender.pubkey accounts.stedeMint := place
  simp only [BlockList.removeBlocked, require_of_true signed, ok_bind, live.load,
    require_of_true place, require_of_true mine, require_of_true mint]
  cases handled : BlockList.removeBlockedHandler blockedWallet value with
  | error reason => rfl
  | ok new => simp only [ok_bind, stores, Except.map, pure, Except.pure]

theorem setCooloff_follows (threshold : UInt64) (durationSeconds : Int64) :
    pauseSetting.Follows
      (fun bump => Cooloff.setCooloffHandler sender stedeMint bump threshold durationSeconds)
      (newPause threshold.toNat durationSeconds.toInt) := by
  intro bump value content known
  refine (agrees_require UInt64.lt_iff_toNat_lt rfl).bind fun _ _ _ _ => ?_
  refine (agrees_require (and_congr Int64.le_iff_toInt_le Int64.le_iff_toInt_le) rfl).bind
    fun _ _ _ _ => .ok ⟨trivial, ?_⟩
  rcases known with ⟨rfl, rfl⟩ | ⟨_, claimed, rfl⟩
  · rfl
  · have kept : value.sender ≠ .default := claimed
    simp only [kept, ↓reduceIte]
    rfl

theorem setSlowSend_follows (delaySeconds : Int64) :
    delaySetting.Follows
      (fun bump => SlowSend.setSlowSendHandler sender stedeMint bump delaySeconds)
      (fun _ => newDelay delaySeconds.toInt) := by
  intro bump value content _
  refine (agrees_require (and_congr Int64.le_iff_toInt_le Int64.le_iff_toInt_le) rfl).bind
    fun _ _ _ _ => .ok ⟨trivial, ?_⟩
  split <;> rfl

theorem setTimeWindow_follows (startHour endHour : UInt8) :
    nightSetting.Follows
      (fun bump => TimeWindowConfig.setTimeWindowHandler sender stedeMint bump startHour endHour)
      (fun _ => newNight startHour.toNat endHour.toNat) := by
  intro bump value content _
  refine (agrees_require (and_congr UInt8.lt_iff_toNat_lt UInt8.lt_iff_toNat_lt) rfl).bind
    fun _ _ valid _ => .ok ⟨?_, rfl⟩
  have hours := (require_eq_ok (startHour < 24 ∧ endHour < 24) _ _).mp valid
  exact hours

theorem setFriendGate_follows {owner : Pubkey} (mine : sender = owner) (threshold : UInt64)
    (friendWallet : Pubkey) :
    gateSetting.Follows
      (fun bump => FriendGate.setFriendGateHandler sender stedeMint bump threshold friendWallet)
      (fun _ => newGate owner threshold.toNat friendWallet) := by
  intro bump value content _
  rw [← mine]
  refine (agrees_require UInt64.lt_iff_toNat_lt rfl).bind fun _ _ _ _ => ?_
  refine (agrees_require Iff.rfl rfl).bind fun _ _ _ _ => ?_
  refine (agrees_require Iff.rfl rfl).bind fun _ _ _ _ => .ok ⟨trivial, ?_⟩
  split <;> rfl

end Handlers

/-- The accounts that a setting instruction of the pair takes, signed by the sender,
who pays for what it creates. -/
def Owned (rt : Runtime) (pair : SenderMint) (slot : RuleSlot) (accounts : SetConfig) : Prop :=
  accounts.sender.pays rt = true ∧ accounts.sender.pubkey = pair.sender ∧
    accounts.stedeMint = pair.stedeMint ∧ accounts.config = RuleKey.address rt ⟨pair, slot⟩

/-- The same of `remove_blocked`, where the sender need not be writable. -/
def OwnedForRemove (rt : Runtime) (pair : SenderMint) (accounts : SetConfig) : Prop :=
  accounts.sender.signed rt = true ∧ accounts.sender.pubkey = pair.sender ∧
    accounts.stedeMint = pair.stedeMint ∧ accounts.config = RuleKey.address rt ⟨pair, .blockList⟩

/-- The same of the instructions that disable a rule. -/
def OwnedForDisable (rt : Runtime) (pair : SenderMint) (slot : RuleSlot) (accounts : DisableConfig) :
    Prop :=
  accounts.sender.pays rt = true ∧ accounts.sender.pubkey = pair.sender ∧
    accounts.config = RuleKey.address rt ⟨pair, slot⟩

/-- The same of the registration of a recipient. -/
def OwnedForRegister (rt : Runtime) (pair : SenderMint) (recipient : Pubkey)
    (accounts : RegisterRecipient) : Prop :=
  accounts.sender.pays rt = true ∧ accounts.sender.pubkey = pair.sender ∧
    accounts.stedeMint = pair.stedeMint ∧
    accounts.contact = RuleKey.address rt ⟨pair, .slowSendContact recipient⟩

instance (rt : Runtime) (pair : SenderMint) (slot : RuleSlot) (accounts : SetConfig) :
    Decidable (Owned rt pair slot accounts) := inferInstanceAs (Decidable (_ ∧ _ ∧ _ ∧ _))

instance (rt : Runtime) (pair : SenderMint) (accounts : SetConfig) :
    Decidable (OwnedForRemove rt pair accounts) := inferInstanceAs (Decidable (_ ∧ _ ∧ _ ∧ _))

instance (rt : Runtime) (pair : SenderMint) (slot : RuleSlot) (accounts : DisableConfig) :
    Decidable (OwnedForDisable rt pair slot accounts) := inferInstanceAs (Decidable (_ ∧ _ ∧ _))

instance (rt : Runtime) (pair : SenderMint) (recipient : Pubkey) (accounts : RegisterRecipient) :
    Decidable (OwnedForRegister rt pair recipient accounts) :=
  inferInstanceAs (Decidable (_ ∧ _ ∧ _ ∧ _))

theorem elsewhere_contact (policy : Policy) (recipient : Pubkey) (first : Option Int) :
    Elsewhere policy { policy with contacts := Function.update policy.contacts recipient first }
      (.slowSendContact recipient) := by
  intro slot apart rt pair account seen
  cases slot with
  | slowSendContact other =>
      have different : other ≠ recipient := fun same => apart (congrArg _ same)
      have kept : Function.update policy.contacts recipient first other = policy.contacts other :=
        Function.update_of_ne different _ _
      show SlowSendContact.Shows rt account (Function.update policy.contacts recipient first other)
      rw [kept]
      exact seen
  | dailyLimit | blockList | cooloff | slowSendConfig | timeWindow | friendGate => exact seen

section Instructions

variable {rt : Runtime} {pair : SenderMint} {recipients : Finset Pubkey} {inPlay : Set RuleKey}
  {ledger next : Ledger} {policy : Policy} {α β : Type} (setting : Setting α β)
  (free : rt.CollisionFree (RuleKey.derivation '' inPlay))
  (own : ∀ slot ∈ slots recipients, ⟨pair, slot⟩ ∈ inPlay)
  (represents : Represents rt pair recipients ledger policy)
include represents

theorem Setting.shown : setting.kind.Shows rt pair setting.good setting.view
    (ledger (RuleKey.address rt ⟨pair, setting.slot⟩)) (setting.get policy) := by
  rw [← setting.shows]
  exact represents setting.slot (mem_slots setting.bare.distinct)

/-- In the accounts of the pair a value of the type is found in its own slot alone. -/
theorem Setting.found {slot : RuleSlot} (member : slot ∈ slots recipients) {value : α}
    (loaded : setting.kind.load (ledger (RuleKey.address rt ⟨pair, slot⟩)) = .ok value) :
    slot = setting.slot := by
  obtain ⟨owner, rest, data⟩ := (setting.kind.load_eq_ok _ _ setting.kind.foreign).mp loaded
  have tagged : ((ledger (RuleKey.address rt ⟨pair, slot⟩)).owner,
      (ledger (RuleKey.address rt ⟨pair, slot⟩)).data.take 8) = tag setting.slot := by
    rw [setting.tagged, owner, data, AccountType.image, List.append_assoc,
      ← setting.kind.discriminator_length, List.take_left]
  rcases (represents slot member).tagged with unused | seen
  · exact absurd ⟨value, loaded⟩ (ConfigKind.load_of_unused unused)
  · rcases RuleSlot.eq_or_contacts (tag_injective (seen.symm.trans tagged)) with same | contacts
    · exact same
    · obtain ⟨_, recipient, _, same⟩ := contacts
      exact absurd same (setting.bare.distinct recipient)

/-- A `disable_*` instruction of anybody else does not touch the pair. -/
theorem Setting.disable_foreign {accounts : DisableConfig}
    (foreign : ¬ OwnedForDisable rt pair setting.slot accounts)
    (success : setting.kind.disable rt ledger accounts = .ok next) :
    Represents rt pair recipients next policy := by
  obtain ⟨pays, value, loaded, _, mine, written⟩ :=
    (setting.kind.disable_eq_ok _ _ _ _).mp success
  rw [written]
  apply represents.congr
  intro slot member
  apply Ledger.write_of_ne
  intro here
  rw [← here] at loaded
  have same := setting.found represents member loaded
  rw [same] at here loaded
  rcases setting.shown represents with ⟨unused, _⟩ | ⟨held, live, ⟨sender, _⟩, _⟩
  · exact ConfigKind.load_of_unused unused ⟨value, loaded⟩
  · have value_same := Except.ok.inj (loaded.symm.trans live.load)
    rw [value_same, sender] at mine
    exact foreign ⟨pays, mine.symm, here.symm⟩

include free own

/-- What is written in the account of a setting. -/
theorem Setting.written {account : Account} {content : Option β}
    (seen : setting.kind.Shows rt pair setting.good setting.view account content) :
    Represents rt pair recipients (ledger.write (RuleKey.address rt ⟨pair, setting.slot⟩) account)
      (setting.put policy content) := by
  apply represents.write free own (mem_slots setting.bare.distinct) _ (setting.elsewhere policy content)
  rw [setting.shows, setting.get_put]
  exact seen

/-- A `set_*` instruction of the sender is the action of its handler. -/
theorem Setting.set {accounts : SetConfig} (owned : Owned rt pair setting.slot accounts)
    {handler : UInt8 → α → Except Error α} {spec : Option β → Except Refusal β}
    (claims : setting.kind.Claims accounts.sender.pubkey accounts.stedeMint handler)
    (follows : setting.Follows handler spec) :
    Agrees (Represents rt pair recipients) (setting.kind.set rt ledger accounts handler)
      ((spec (setting.get policy)).map fun content => setting.put policy (some content)) := by
  obtain ⟨pays, sender, stedeMint, config⟩ := owned
  have here : (⟨accounts.sender.pubkey, accounts.stedeMint⟩ : SenderMint) = pair :=
    SenderMint.ext sender stedeMint
  have seen := setting.shown represents
  rw [← config, ← here] at seen
  have derived : accounts.config =
      (setting.kind.pda rt accounts.sender.pubkey accounts.stedeMint).1 := by
    rw [config, setting.address, sender, stedeMint]
  have agree := seen.set pays derived claims setting.fresh spec fun bump value known =>
    follows bump value _ known
  refine agree.map_right fun after content _ ⟨account, written, shown⟩ => ?_
  rw [written, config]
  rw [here] at shown
  exact setting.written free own represents shown

/-- A `disable_*` instruction of the sender takes away what there is. -/
theorem Setting.disable {accounts : DisableConfig}
    (owned : OwnedForDisable rt pair setting.slot accounts) :
    Agrees (Represents rt pair recipients) (setting.kind.disable rt ledger accounts)
      ((permit (setting.get policy).isSome .unset).map fun _ => setting.put policy none) := by
  obtain ⟨pays, sender, config⟩ := owned
  have seen := setting.shown represents
  rw [← config] at seen
  have agree := seen.disable pays sender (config.trans (setting.address rt pair))
  refine agree.map_right fun after _ _ written => ?_
  rw [written, config]
  exact setting.written free own represents (Or.inl ⟨Account.absent_unused, rfl⟩)

/-- A `set_*` instruction of anybody else does not touch the pair. -/
theorem Setting.set_foreign {accounts : SetConfig} {handler : UInt8 → α → Except Error α}
    (member : ⟨⟨accounts.sender.pubkey, accounts.stedeMint⟩, setting.slot⟩ ∈ inPlay)
    (foreign : ¬ Owned rt pair setting.slot accounts)
    (success : setting.kind.set rt ledger accounts handler = .ok next) :
    Represents rt pair recipients next policy := by
  obtain ⟨pays, derived, _, _, _, account, _, _, _, written⟩ :=
    (setting.kind.set_eq_ok _ _ _ _ _).mp success
  have here : accounts.config =
      RuleKey.address rt ⟨⟨accounts.sender.pubkey, accounts.stedeMint⟩, setting.slot⟩ := by
    rw [setting.address]
    exact derived
  rw [written, here]
  apply represents.write_foreign free own member
  intro same
  have sender : accounts.sender.pubkey = pair.sender := congrArg SenderMint.sender same
  have stedeMint : accounts.stedeMint = pair.stedeMint := congrArg SenderMint.stedeMint same
  rw [sender, stedeMint] at here
  exact foreign ⟨pays, sender, stedeMint, here⟩

/-- Unblocking a wallet of one's own list. -/
theorem removeBlocked_agrees {accounts : SetConfig} (owned : OwnedForRemove rt pair accounts)
    (blockedWallet : Pubkey) :
    Agrees (Represents rt pair recipients) (BlockList.removeBlocked rt ledger accounts blockedWallet)
      (step pair.sender policy (.removeBlocked blockedWallet)) := by
  obtain ⟨signed, sender, stedeMint, config⟩ := owned
  have seen : BlockList.kind.Shows rt pair BlockList.Sound BlockList.entries (ledger accounts.config)
      policy.blocked := by
    rw [config]
    exact blockedSetting.shown represents
  rcases seen with ⟨unused, absent⟩ | ⟨value, live, ⟨mine, mint⟩, sound, same⟩
  · obtain ⟨reason, failed, read⟩ := BlockList.kind.load_unused unused
    simp only [BlockList.removeBlocked, require_of_true signed, ok_bind, failed, step, absent]
    exact .error read
  · have place : (accounts.config, BlockList.kind.bump value) =
        BlockList.kind.pda rt accounts.sender.pubkey accounts.stedeMint := by
      have derived := live.derived
      rw [mine, mint] at derived
      rw [config, sender, stedeMint]
      exact derived
    rw [removeBlocked_of_live signed live place (mine.trans sender.symm) (mint.trans stedeMint.symm)]
    simp only [step, same]
    refine (removeBlocked_follows sound blockedWallet).map fun new blocked _ _ written => ?_
    obtain ⟨fine, entries, kept⟩ := written
    rw [config, ← entries]
    rw [config] at live
    exact blockedSetting.written free own represents (live.rewritten ⟨mine, mint⟩ kept fine)

/-- Unblocking a wallet of another list does not touch the pair. -/
theorem removeBlocked_foreign {accounts : SetConfig} {blockedWallet : Pubkey}
    (member : ⟨⟨accounts.sender.pubkey, accounts.stedeMint⟩, .blockList⟩ ∈ inPlay)
    (foreign : ¬ OwnedForRemove rt pair accounts)
    (success : BlockList.removeBlocked rt ledger accounts blockedWallet = .ok next) :
    Represents rt pair recipients next policy := by
  obtain ⟨signed, old, _, account, _, derived, _, _, _, _, written⟩ :=
    (BlockList.removeBlocked_eq_ok _ _ _ _ _).mp success
  have here : accounts.config =
      RuleKey.address rt ⟨⟨accounts.sender.pubkey, accounts.stedeMint⟩, .blockList⟩ :=
    congrArg Prod.fst derived
  rw [written, here]
  apply represents.write_foreign free own member
  intro same
  have sender : accounts.sender.pubkey = pair.sender := congrArg SenderMint.sender same
  have stedeMint : accounts.stedeMint = pair.stedeMint := congrArg SenderMint.stedeMint same
  rw [sender, stedeMint] at here
  exact foreign ⟨signed, sender, stedeMint, here⟩

/-- Registering a recipient of one's own. -/
theorem registerRecipient_agrees {accounts : RegisterRecipient} {recipient : Pubkey}
    (owned : OwnedForRegister rt pair recipient accounts) (known : recipient ∈ recipients)
    (clock : Clock) :
    Agrees (Represents rt pair recipients)
      (SlowSend.registerRecipient rt clock ledger accounts recipient)
      (step pair.sender policy (.registerRecipient clock.unixTimestamp.toInt recipient)) := by
  obtain ⟨pays, sender, stedeMint, contact⟩ := owned
  have ⟨signed, writable⟩ := (accounts.sender.pays_iff rt).mp pays
  have member := contact_mem_slots known
  have derived : accounts.contact =
      (SlowSendContact.pda rt accounts.sender.pubkey recipient accounts.stedeMint).1 := by
    rw [contact, sender, stedeMint]
    rfl
  have seen : SlowSendContact.Shows rt (ledger accounts.contact) (policy.contacts recipient) := by
    rw [contact]
    exact represents _ member
  simp only [SlowSend.registerRecipient, require_of_true signed, require_of_true derived, ok_bind, step]
  rcases seen with ⟨unused, absent⟩ | ⟨value, live, same⟩
  · have created := (SlowSendContact.kind.create_eq_ok rt accounts.sender (ledger accounts.contact)
      _).mpr ⟨Or.inr writable, unused, rfl⟩
    simp only [created, ok_bind, AccountType.loadUnchecked_created, require_of_true writable,
      AccountType.store_zeroed, permit, absent, ↓reduceIte]
    refine .ok ?_
    rw [contact]
    apply represents.write free own member
    · exact Or.inr ⟨_, ⟨rfl, Nat.le_max_right _ _⟩, Function.update_self ..⟩
    · exact elsewhere_contact policy recipient _
  · have used : ¬ ((ledger accounts.contact).owner = Programs.system ∧
        (ledger accounts.contact).data = []) := by
      intro unused
      have owner : (ledger accounts.contact).owner = SlowSendContact.kind.program :=
        congrArg Account.owner live.holds
      exact SlowSendConfig.kind.foreign (owner.symm.trans unused.1)
    have refused : SlowSendContact.kind.create rt accounts.sender (ledger accounts.contact) =
        .error (.program .accountAlreadyInUse) := by
      simp only [AccountType.create, AccountMeta.charged, require, writable, or_true, used, ↓reduceIte]
      rfl
    rw [refused, same]
    exact .error rfl

/-- Registering somebody for another pair, or a recipient nobody asks about. -/
theorem registerRecipient_foreign {accounts : RegisterRecipient} {recipient : Pubkey} {clock : Clock}
    (member : ⟨⟨accounts.sender.pubkey, accounts.stedeMint⟩, .slowSendContact recipient⟩ ∈ inPlay)
    (foreign : ¬ (OwnedForRegister rt pair recipient accounts ∧ recipient ∈ recipients))
    (success : SlowSend.registerRecipient rt clock ledger accounts recipient = .ok next) :
    Represents rt pair recipients next policy := by
  obtain ⟨pays, derived, _, account, _, _, written⟩ :=
    (SlowSend.registerRecipient_eq_ok _ _ _ _ _ _).mp success
  have here : accounts.contact = RuleKey.address rt
      ⟨⟨accounts.sender.pubkey, accounts.stedeMint⟩, .slowSendContact recipient⟩ := derived
  rw [written]
  apply represents.congr
  intro slot inside
  apply Ledger.write_of_ne
  intro equal
  have keys := RuleKey.address_injOn free (own slot inside) member (equal.trans here)
  have same : pair = ⟨accounts.sender.pubkey, accounts.stedeMint⟩ := congrArg RuleKey.pair keys
  have asked : slot = .slowSendContact recipient := congrArg RuleKey.slot keys
  apply foreign
  refine ⟨⟨pays, ?_, ?_, ?_⟩, inside recipient asked⟩
  · rw [same]
  · rw [same]
  · rw [← equal, asked]

end Instructions

end Stede.Policy
