import Stede.Lib.Run
import Stede.Rules.Layouts
import Stede.Rules.RuleKey

set_option autoImplicit false

/- What the fixed-offset decoders find at the addresses the hook resolves, in
every state that the instructions of their rules lead to. -/
namespace Stede.Decoders

/-- The instructions that write the accounts of the three rules, and a gift of
lamports, which anyone can make to any address. -/
inductive Instruction
  | setSlowSend (accounts : SetConfig) (delaySeconds : Int64)
  | disableSlowSend (accounts : DisableConfig)
  | registerRecipient (clock : Clock) (accounts : RegisterRecipient) (recipient : Pubkey)
  | setTimeWindow (accounts : SetConfig) (startHour endHour : UInt8)
  | disableTimeWindow (accounts : DisableConfig)
  | setFriendGate (accounts : SetConfig) (threshold : UInt64) (friendWallet : Pubkey)
  | disableFriendGate (accounts : DisableConfig)
  | fund (key : Pubkey) (lamports : Nat)

def step (rt : Runtime) (ledger : Ledger) : Instruction → Except Error Ledger
  | .setSlowSend accounts delaySeconds => SlowSend.setSlowSend rt ledger accounts delaySeconds
  | .disableSlowSend accounts => SlowSend.disableSlowSend rt ledger accounts
  | .registerRecipient clock accounts recipient =>
      SlowSend.registerRecipient rt clock ledger accounts recipient
  | .setTimeWindow accounts startHour endHour =>
      TimeWindowConfig.setTimeWindow rt ledger accounts startHour endHour
  | .disableTimeWindow accounts => TimeWindowConfig.disableTimeWindow rt ledger accounts
  | .setFriendGate accounts threshold friendWallet =>
      FriendGate.setFriendGate rt ledger accounts threshold friendWallet
  | .disableFriendGate accounts => FriendGate.disableFriendGate rt ledger accounts
  | .fund key lamports =>
      .ok (ledger.write key { ledger key with lamports := (ledger key).lamports + lamports })

/-- The account an instruction creates, when it does not exist. -/
def Instruction.creates : Instruction → Option RuleKey
  | setSlowSend accounts _ => some ⟨⟨accounts.sender.pubkey, accounts.stedeMint⟩, .slowSendConfig⟩
  | registerRecipient _ accounts recipient =>
      some ⟨⟨accounts.sender.pubkey, accounts.stedeMint⟩, .slowSendContact recipient⟩
  | setTimeWindow accounts _ _ => some ⟨⟨accounts.sender.pubkey, accounts.stedeMint⟩, .timeWindow⟩
  | setFriendGate accounts _ _ => some ⟨⟨accounts.sender.pubkey, accounts.stedeMint⟩, .friendGate⟩
  | disableSlowSend _ | disableTimeWindow _ | disableFriendGate _ | fund _ _ => none

/-- A struct that the framework serializes for one of the rules. -/
inductive Stored
  | slowSendConfig (config : SlowSendConfig)
  | slowSendContact (contact : SlowSendContact)
  | timeWindow (config : TimeWindowConfig)
  | friendGate (friendGate : FriendGate)
deriving DecidableEq

/-- What an instruction that succeeds serializes in the account of its key. -/
def Instruction.serializes (rt : Runtime) : Instruction → Option Stored
  | setSlowSend accounts delaySeconds =>
      some (.slowSendConfig ⟨accounts.sender.pubkey, accounts.stedeMint, delaySeconds,
        (SlowSendConfig.kind.pda rt accounts.sender.pubkey accounts.stedeMint).2⟩)
  | registerRecipient clock accounts recipient =>
      some (.slowSendContact ⟨clock.unixTimestamp,
        (SlowSendContact.pda rt accounts.sender.pubkey recipient accounts.stedeMint).2⟩)
  | setTimeWindow accounts startHour endHour =>
      some (.timeWindow ⟨accounts.sender.pubkey, accounts.stedeMint, startHour, endHour,
        (TimeWindowConfig.kind.pda rt accounts.sender.pubkey accounts.stedeMint).2⟩)
  | setFriendGate accounts threshold friendWallet =>
      some (.friendGate ⟨accounts.sender.pubkey, accounts.stedeMint, threshold, friendWallet,
        (FriendGate.kind.pda rt accounts.sender.pubkey accounts.stedeMint).2⟩)
  | disableSlowSend _ | disableTimeWindow _ | disableFriendGate _ | fund _ _ => none

/-- The address of an account that is closed. -/
def Instruction.closes : Instruction → Option Pubkey
  | disableSlowSend accounts | disableTimeWindow accounts | disableFriendGate accounts =>
      some accounts.config
  | _ => none

/-- What an instruction that succeeds makes of the struct last serialized for a key. -/
def record (rt : Runtime) (key : RuleKey) (last : Option Stored) (instruction : Instruction) :
    Option Stored :=
  if instruction.creates = some key then instruction.serializes rt
  else if instruction.closes = some (key.address rt) then none
  else last

/-- The struct last serialized for a key, unless its account is closed again, after
the instructions of a history, which have all succeeded. -/
def lastSerialized (rt : Runtime) (key : RuleKey) (history : List Instruction) : Option Stored :=
  history.foldl (record rt key) none

theorem lastSerialized_snoc (rt : Runtime) (key : RuleKey) (history : List Instruction)
    (instruction : Instruction) :
    lastSerialized rt key (history ++ [instruction]) =
      record rt key (lastSerialized rt key history) instruction := by
  simp only [lastSerialized, List.foldl_append, List.foldl_cons, List.foldl_nil]

theorem Instruction.closes_of_creates {instruction : Instruction} {key : RuleKey}
    (creates : instruction.creates = some key) : instruction.closes = none := by
  cases instruction with
  | setSlowSend | registerRecipient | setTimeWindow | setFriendGate => rfl
  | disableSlowSend | disableTimeWindow | disableFriendGate | fund => cases creates

/-- An account of the pair that holds `value`. -/
structure HeldFor {α : Type} (kind : ConfigKind α) (rt : Runtime) (pair : SenderMint) (value : α)
    (account : Account) : Prop where
  live : kind.Live rt (kind.pda rt pair.sender pair.stedeMint).1 value account
  sender : kind.sender value = pair.sender
  stedeMint : kind.stedeMint value = pair.stedeMint

/-- A rule account after the struct last serialized in it: unused if there is none. -/
def Holds (rt : Runtime) (key : RuleKey) (account : Account) (last : Option Stored) : Prop :=
  (last = none ∧ account.Unused) ∨
  match key.slot with
  | .slowSendConfig => ∃ config, last = some (.slowSendConfig config) ∧
      HeldFor SlowSendConfig.kind rt key.pair config account
  | .slowSendContact _ => ∃ contact, last = some (.slowSendContact contact) ∧
      SlowSendContact.Live rt contact account
  | .timeWindow => ∃ config, last = some (.timeWindow config) ∧
      HeldFor TimeWindowConfig.kind rt key.pair config account
  | .friendGate => ∃ friendGate, last = some (.friendGate friendGate) ∧
      HeldFor FriendGate.kind rt key.pair friendGate account
  | .dailyLimit | .blockList | .cooloff => False

theorem HeldFor.gift {α : Type} {kind : ConfigKind α} {rt : Runtime} {pair : SenderMint} {value : α}
    {account : Account} (held : HeldFor kind rt pair value account) (lamports : Nat) :
    HeldFor kind rt pair value { account with lamports := account.lamports + lamports } :=
  ⟨held.live.gift lamports, held.sender, held.stedeMint⟩

theorem Holds.gift {rt : Runtime} {key : RuleKey} {account : Account} {last : Option Stored}
    (holds : Holds rt key account last) (lamports : Nat) :
    Holds rt key { account with lamports := account.lamports + lamports } last := by
  obtain ⟨pair, slot⟩ := key
  rcases holds with unused | held
  · exact Or.inl unused
  · cases slot with
    | slowSendConfig | timeWindow | friendGate =>
        obtain ⟨value, same, held⟩ := held
        exact Or.inr ⟨value, same, held.gift lamports⟩
    | slowSendContact recipient =>
        obtain ⟨contact, same, live⟩ := held
        exact Or.inr ⟨contact, same, live.gift lamports⟩
    | dailyLimit | blockList | cooloff => exact held.elim

/-- Every account in play holds what was last serialized in it. -/
def Faithful (rt : Runtime) (inPlay : Set RuleKey) (ledger : Ledger) (history : List Instruction) :
    Prop :=
  ∀ key ∈ inPlay, Holds rt key (ledger (key.address rt)) (lastSerialized rt key history)

section Steps

variable {rt : Runtime} {inPlay : Set RuleKey} {ledger next : Ledger} {history : List Instruction}
  {instruction : Instruction}

/-- A write at the address of one key in play concerns no other. -/
theorem Faithful.write (free : rt.CollisionFree (RuleKey.derivation '' inPlay))
    (faithful : Faithful rt inPlay ledger history) {own : RuleKey} (member : own ∈ inPlay)
    (creates : instruction.creates = some own)
    (rest : ∀ address, address ≠ own.address rt → next address = ledger address)
    (here : Holds rt own (next (own.address rt)) (instruction.serializes rt)) :
    Faithful rt inPlay next (history ++ [instruction]) := by
  intro key inside
  rw [lastSerialized_snoc, record, creates, Instruction.closes_of_creates creates]
  by_cases same : key = own
  · rw [same, if_pos rfl]
    exact here
  · have apart : key.address rt ≠ own.address rt := fun equal =>
      same (RuleKey.address_injOn free inside member equal)
    have other : some own ≠ some key := fun equal => same (Option.some.inj equal).symm
    rw [rest _ apart, if_neg other, if_neg (Option.some_ne_none _).symm]
    exact faithful key inside

/-- Whatever lay at an address, closing it leaves it unused. -/
theorem Faithful.disable (faithful : Faithful rt inPlay ledger history) {α : Type}
    {kind : ConfigKind α} {accounts : DisableConfig} (creates : instruction.creates = none)
    (closes : instruction.closes = some accounts.config)
    (success : kind.disable rt ledger accounts = .ok next) :
    Faithful rt inPlay next (history ++ [instruction]) := by
  obtain ⟨_, _, _, _, _, written⟩ := (kind.disable_eq_ok _ _ _ _).mp success
  intro key inside
  rw [lastSerialized_snoc, record, creates, closes, if_neg (Option.some_ne_none _).symm]
  by_cases here : accounts.config = key.address rt
  · rw [if_pos (congrArg some here), ← here]
    exact Or.inl ⟨rfl, ConfigKind.disable_unused success⟩
  · rw [if_neg fun same => here (Option.some.inj same), written, Ledger.write_of_ne (Ne.symm here)]
    exact faithful key inside

theorem Faithful.fund (faithful : Faithful rt inPlay ledger history) (key : Pubkey) (lamports : Nat) :
    Faithful rt inPlay
      (ledger.write key { ledger key with lamports := (ledger key).lamports + lamports })
      (history ++ [.fund key lamports]) := by
  intro own inside
  rw [lastSerialized_snoc]
  show Holds rt own _ (lastSerialized rt own history)
  by_cases here : own.address rt = key
  · rw [here, Ledger.write_self, ← here]
    exact (faithful own inside).gift lamports
  · rw [Ledger.write_of_ne here]
    exact faithful own inside

/-- One lemma for the three `set_*` instructions. -/
theorem Faithful.set (free : rt.CollisionFree (RuleKey.derivation '' inPlay))
    (faithful : Faithful rt inPlay ledger history) {α : Type} {kind : ConfigKind α} {slot : RuleSlot}
    {accounts : SetConfig} {handler : UInt8 → α → Except Error α} {stored : α → Stored}
    {value : UInt8 → α}
    (creates : instruction.creates = some ⟨⟨accounts.sender.pubkey, accounts.stedeMint⟩, slot⟩)
    (serializes : instruction.serializes rt =
      some (stored (value (kind.pda rt accounts.sender.pubkey accounts.stedeMint).2)))
    (address : RuleKey.address rt ⟨⟨accounts.sender.pubkey, accounts.stedeMint⟩, slot⟩ =
      (kind.pda rt accounts.sender.pubkey accounts.stedeMint).1)
    (meaning : ∀ account last,
      Holds rt ⟨⟨accounts.sender.pubkey, accounts.stedeMint⟩, slot⟩ account last ↔
        (last = none ∧ account.Unused) ∨ ∃ value, last = some (stored value) ∧
          HeldFor kind rt ⟨accounts.sender.pubkey, accounts.stedeMint⟩ value account)
    (member : ⟨⟨accounts.sender.pubkey, accounts.stedeMint⟩, slot⟩ ∈ inPlay)
    (claims : kind.Claims accounts.sender.pubkey accounts.stedeMint handler)
    (writes : kind.Writes accounts.sender.pubkey accounts.stedeMint handler value)
    (fresh : kind.sender kind.zero = .default)
    (success : kind.set rt ledger accounts handler = .ok next) :
    Faithful rt inPlay next (history ++ [instruction]) := by
  obtain ⟨_, derived, _, _, _, _, _, _, _, written⟩ := (kind.set_eq_ok _ _ _ _ _).mp success
  have here : RuleKey.address rt ⟨⟨accounts.sender.pubkey, accounts.stedeMint⟩, slot⟩ =
      accounts.config := address.trans derived.symm
  apply faithful.write free member creates
  · intro other apart
    rw [here] at apart
    rw [written, Ledger.write_of_ne apart]
  · rw [here, serializes]
    refine (meaning _ _).mpr (Or.inr ⟨_, rfl, ?_⟩)
    have before := (meaning _ _).mp (faithful _ member)
    rw [here] at before
    obtain ⟨old, new, handled, live, known⟩ : ∃ old new,
        handler (kind.pda rt accounts.sender.pubkey accounts.stedeMint).2 old = .ok new ∧
        kind.Live rt accounts.config new (next accounts.config) ∧
        (kind.sender old = .default ∨ kind.sender old = accounts.sender.pubkey ∧
          kind.stedeMint old = accounts.stedeMint ∧
          kind.bump old = (kind.pda rt accounts.sender.pubkey accounts.stedeMint).2) := by
      rcases before with ⟨_, unused⟩ | ⟨old, _, live, sender, stedeMint⟩
      · obtain ⟨new, handled, live⟩ :=
          ConfigKind.set_live_of_unused accounts claims fresh unused success
        exact ⟨_, new, handled, live, Or.inl fresh⟩
      · have bump := congrArg Prod.snd live.derived
        rw [sender, stedeMint] at bump
        rw [← derived] at live
        obtain ⟨new, handled, live⟩ := live.set_live accounts claims success
        exact ⟨old, new, handled, live, Or.inr ⟨sender, stedeMint, bump⟩⟩
    rw [writes.written _ _ _ handled known, derived] at live
    rw [derived]
    obtain ⟨sender, stedeMint⟩ := writes.named
      (kind.pda rt accounts.sender.pubkey accounts.stedeMint).2
    exact ⟨live, sender, stedeMint⟩

theorem Faithful.registerRecipient (free : rt.CollisionFree (RuleKey.derivation '' inPlay))
    (faithful : Faithful rt inPlay ledger history) {clock : Clock} {accounts : RegisterRecipient}
    {recipient : Pubkey}
    (member : ⟨⟨accounts.sender.pubkey, accounts.stedeMint⟩, .slowSendContact recipient⟩ ∈ inPlay)
    (success : SlowSend.registerRecipient rt clock ledger accounts recipient = .ok next) :
    Faithful rt inPlay next (history ++ [.registerRecipient clock accounts recipient]) := by
  obtain ⟨_, derived, _⟩ := (SlowSend.registerRecipient_eq_ok _ _ _ _ _ _).mp success
  obtain ⟨_, live, _, written⟩ := SlowSend.registerRecipient_live success
  have here : RuleKey.address rt
      ⟨⟨accounts.sender.pubkey, accounts.stedeMint⟩, .slowSendContact recipient⟩ = accounts.contact :=
    derived.symm
  apply faithful.write free member rfl
  · intro other apart
    rw [here] at apart
    rw [written, Ledger.write_of_ne apart]
  · rw [here]
    exact Or.inr ⟨_, rfl, live⟩

theorem Faithful.step (free : rt.CollisionFree (RuleKey.derivation '' inPlay))
    (faithful : Faithful rt inPlay ledger history)
    (given : ∀ key, instruction.creates = some key → key ∈ inPlay)
    (success : Decoders.step rt ledger instruction = .ok next) :
    Faithful rt inPlay next (history ++ [instruction]) := by
  cases instruction with
  | setSlowSend accounts delaySeconds =>
      exact faithful.set free rfl rfl rfl (fun _ _ => Iff.rfl) (given _ rfl)
        (SlowSend.setSlowSendHandler_claims _ _ delaySeconds)
        (SlowSend.setSlowSendHandler_writes _ _ delaySeconds) rfl success
  | setTimeWindow accounts startHour endHour =>
      exact faithful.set free rfl rfl rfl (fun _ _ => Iff.rfl) (given _ rfl)
        (TimeWindowConfig.setTimeWindowHandler_claims _ _ startHour endHour)
        (TimeWindowConfig.setTimeWindowHandler_writes _ _ startHour endHour) rfl success
  | setFriendGate accounts threshold friendWallet =>
      exact faithful.set free rfl rfl rfl (fun _ _ => Iff.rfl) (given _ rfl)
        (FriendGate.setFriendGateHandler_claims _ _ threshold friendWallet)
        (FriendGate.setFriendGateHandler_writes _ _ threshold friendWallet) rfl success
  | registerRecipient clock accounts recipient =>
      exact faithful.registerRecipient free (given _ rfl) success
  | disableSlowSend accounts => exact faithful.disable rfl rfl success
  | disableTimeWindow accounts => exact faithful.disable rfl rfl success
  | disableFriendGate accounts => exact faithful.disable rfl rfl success
  | fund key lamports =>
      rw [← Except.ok.inj success]
      exact faithful.fund key lamports

end Steps

/-- The slow send decoders on the accounts of a pair and a recipient: each account
is unused, and taken as absent, or holds exactly the struct last serialized in it,
whose fields the offsets read and the check decides on; and no layout or address
error comes of them. -/
structure SlowSendAgrees (rt : Runtime) (pair : SenderMint) (recipient : Pubkey) (ledger : Ledger)
    (history : List Instruction) : Prop where
  config : (lastSerialized rt ⟨pair, .slowSendConfig⟩ history = none ∧
      (ledger (RuleKey.address rt ⟨pair, .slowSendConfig⟩)).Unused ∧
      ∀ clock contactKey contact destinationToken,
        SlowSend.checkTransferHandler rt clock (RuleKey.address rt ⟨pair, .slowSendConfig⟩)
          (ledger (RuleKey.address rt ⟨pair, .slowSendConfig⟩)) contactKey contact destinationToken =
            .ok ()) ∨
    ∃ config : SlowSendConfig, ∃ data,
      lastSerialized rt ⟨pair, .slowSendConfig⟩ history = some (.slowSendConfig config) ∧
      (ledger (RuleKey.address rt ⟨pair, .slowSendConfig⟩)).data = data ∧
      data = SlowSendConfig.kind.image config ∧
      readPubkey data 8 (.slowSend .invalidDestination) = .ok config.sender ∧
      readPubkey data 40 (.slowSend .invalidDestination) = .ok config.stedeMint ∧
      readI64 data 72 = .ok config.delaySeconds ∧ readByte data 80 = .ok config.bump
  contact : (lastSerialized rt ⟨pair, .slowSendContact recipient⟩ history = none ∧
      (ledger (RuleKey.address rt ⟨pair, .slowSendContact recipient⟩)).Unused ∧
      ∀ config clock destinationToken,
        lastSerialized rt ⟨pair, .slowSendConfig⟩ history = some (.slowSendConfig config) →
        readPubkey destinationToken.data 32 (.program .invalidAccountData) = .ok recipient →
        SlowSend.checkTransferHandler rt clock (RuleKey.address rt ⟨pair, .slowSendConfig⟩)
          (ledger (RuleKey.address rt ⟨pair, .slowSendConfig⟩))
          (RuleKey.address rt ⟨pair, .slowSendContact recipient⟩)
          (ledger (RuleKey.address rt ⟨pair, .slowSendContact recipient⟩)) destinationToken =
            .error (.slowSend .recipientNotRegistered)) ∨
    ∃ contact : SlowSendContact, ∃ data,
      lastSerialized rt ⟨pair, .slowSendContact recipient⟩ history = some (.slowSendContact contact) ∧
      (ledger (RuleKey.address rt ⟨pair, .slowSendContact recipient⟩)).data = data ∧
      data = SlowSendContact.kind.image contact ∧ readI64 data 8 = .ok contact.firstContactAt ∧
      ∀ config clock destinationToken,
        lastSerialized rt ⟨pair, .slowSendConfig⟩ history = some (.slowSendConfig config) →
        readPubkey destinationToken.data 32 (.program .invalidAccountData) = .ok recipient →
        SlowSend.checkTransferHandler rt clock (RuleKey.address rt ⟨pair, .slowSendConfig⟩)
          (ledger (RuleKey.address rt ⟨pair, .slowSendConfig⟩))
          (RuleKey.address rt ⟨pair, .slowSendContact recipient⟩)
          (ledger (RuleKey.address rt ⟨pair, .slowSendContact recipient⟩)) destinationToken = (do
            let elapsed ← okOr (Checked.subI64 clock.unixTimestamp contact.firstContactAt)
              (.slowSend .overflow)
            require (config.delaySeconds ≤ elapsed) (.slowSend .waitingPeriodActive))
  no_layout_error : ∀ clock destinationToken reason,
    readPubkey destinationToken.data 32 (.program .invalidAccountData) = .ok recipient →
    SlowSend.checkTransferHandler rt clock (RuleKey.address rt ⟨pair, .slowSendConfig⟩)
      (ledger (RuleKey.address rt ⟨pair, .slowSendConfig⟩))
      (RuleKey.address rt ⟨pair, .slowSendContact recipient⟩)
      (ledger (RuleKey.address rt ⟨pair, .slowSendContact recipient⟩)) destinationToken =
        .error reason →
    reason ≠ .slowSend .invalidDestination ∧ reason ≠ .program .panicked

/-- The same of the time window. -/
structure TimeWindowAgrees (rt : Runtime) (pair : SenderMint) (ledger : Ledger)
    (history : List Instruction) : Prop where
  config : (lastSerialized rt ⟨pair, .timeWindow⟩ history = none ∧
      (ledger (RuleKey.address rt ⟨pair, .timeWindow⟩)).Unused ∧
      ∀ clock amount, TimeWindowConfig.checkTransferHandler clock
        (ledger (RuleKey.address rt ⟨pair, .timeWindow⟩)) amount = .ok ()) ∨
    ∃ config : TimeWindowConfig, ∃ data,
      lastSerialized rt ⟨pair, .timeWindow⟩ history = some (.timeWindow config) ∧
      (ledger (RuleKey.address rt ⟨pair, .timeWindow⟩)).data = data ∧
      data = TimeWindowConfig.kind.image config ∧
      readByte data 72 = .ok config.startHour ∧ readByte data 73 = .ok config.endHour ∧
      ∀ clock amount, TimeWindowConfig.checkTransferHandler clock
        (ledger (RuleKey.address rt ⟨pair, .timeWindow⟩)) amount =
          require (TimeWindowConfig.blocks config.startHour config.endHour
            (TimeWindowConfig.hourOf clock.unixTimestamp) = false) (.timeWindow .withinBlockedWindow)
  no_layout_error : ∀ clock amount reason,
    TimeWindowConfig.checkTransferHandler clock (ledger (RuleKey.address rt ⟨pair, .timeWindow⟩))
      amount = .error reason → reason ≠ .program .panicked

/-- The same of the friend gate. -/
structure FriendGateAgrees (rt : Runtime) (pair : SenderMint) (ledger : Ledger)
    (history : List Instruction) : Prop where
  config : (lastSerialized rt ⟨pair, .friendGate⟩ history = none ∧
      (ledger (RuleKey.address rt ⟨pair, .friendGate⟩)).Unused ∧
      ∀ env instructionsSysvar amount,
        FriendGate.checkTransferHandler rt env (RuleKey.address rt ⟨pair, .friendGate⟩)
          (ledger (RuleKey.address rt ⟨pair, .friendGate⟩)) instructionsSysvar amount = .ok ()) ∨
    ∃ friendGate : FriendGate, ∃ data,
      lastSerialized rt ⟨pair, .friendGate⟩ history = some (.friendGate friendGate) ∧
      (ledger (RuleKey.address rt ⟨pair, .friendGate⟩)).data = data ∧
      data = FriendGate.kind.image friendGate ∧
      readPubkey data 8 (.friendGate .sysvarReadFailed) = .ok friendGate.sender ∧
      readPubkey data 40 (.friendGate .sysvarReadFailed) = .ok friendGate.stedeMint ∧
      readU64 data 72 = .ok friendGate.threshold ∧
      readPubkey data 80 (.friendGate .sysvarReadFailed) = .ok friendGate.friendWallet ∧
      ∀ env amount,
        FriendGate.checkTransferHandler rt env (RuleKey.address rt ⟨pair, .friendGate⟩)
          (ledger (RuleKey.address rt ⟨pair, .friendGate⟩)) Programs.instructionsSysvar amount =
            if amount < friendGate.threshold then .ok ()
            else require (FriendGate.friendSigned env friendGate.friendWallet)
              (.friendGate .friendSignatureRequired)
  no_layout_error : ∀ env amount reason,
    FriendGate.checkTransferHandler rt env (RuleKey.address rt ⟨pair, .friendGate⟩)
      (ledger (RuleKey.address rt ⟨pair, .friendGate⟩)) Programs.instructionsSysvar amount =
        .error reason →
    reason ≠ .friendGate .sysvarReadFailed ∧ reason ≠ .program .panicked

section Agreement

variable {rt : Runtime} {pair : SenderMint} {recipient : Pubkey} {ledger : Ledger}
  {history : List Instruction}

section Contacts

variable {config : SlowSendConfig}
  (held : HeldFor SlowSendConfig.kind rt pair config
    (ledger (RuleKey.address rt ⟨pair, .slowSendConfig⟩)))
  {destinationToken : Account}
  (owned : readPubkey destinationToken.data 32 (.program .invalidAccountData) = .ok recipient)
include held

/-- The contact of the config is the one in play. -/
theorem contact_address : RuleKey.address rt ⟨pair, .slowSendContact recipient⟩ =
    (SlowSendContact.pda rt config.sender recipient config.stedeMint).1 := by
  have sender : config.sender = pair.sender := held.sender
  have stedeMint : config.stedeMint = pair.stedeMint := held.stedeMint
  rw [sender, stedeMint]
  rfl

include owned

theorem slowSend_contactless
    (unused : (ledger (RuleKey.address rt ⟨pair, .slowSendContact recipient⟩)).Unused)
    (clock : Clock) :
    SlowSend.checkTransferHandler rt clock (RuleKey.address rt ⟨pair, .slowSendConfig⟩)
      (ledger (RuleKey.address rt ⟨pair, .slowSendConfig⟩))
      (RuleKey.address rt ⟨pair, .slowSendContact recipient⟩)
      (ledger (RuleKey.address rt ⟨pair, .slowSendContact recipient⟩)) destinationToken =
        .error (.slowSend .recipientNotRegistered) :=
  SlowSend.checkTransferHandler_unregistered held.live clock owned (contact_address held) unused

theorem slowSend_contacted {contact : SlowSendContact}
    (registered : SlowSendContact.Live rt contact
      (ledger (RuleKey.address rt ⟨pair, .slowSendContact recipient⟩))) (clock : Clock) :
    SlowSend.checkTransferHandler rt clock (RuleKey.address rt ⟨pair, .slowSendConfig⟩)
      (ledger (RuleKey.address rt ⟨pair, .slowSendConfig⟩))
      (RuleKey.address rt ⟨pair, .slowSendContact recipient⟩)
      (ledger (RuleKey.address rt ⟨pair, .slowSendContact recipient⟩)) destinationToken = (do
        let elapsed ← okOr (Checked.subI64 clock.unixTimestamp contact.firstContactAt)
          (.slowSend .overflow)
        require (config.delaySeconds ≤ elapsed) (.slowSend .waitingPeriodActive)) :=
  SlowSend.checkTransferHandler_registered held.live clock owned (contact_address held) registered

end Contacts

theorem slowSend_agrees
    (config_holds : Holds rt ⟨pair, .slowSendConfig⟩
      (ledger (RuleKey.address rt ⟨pair, .slowSendConfig⟩))
      (lastSerialized rt ⟨pair, .slowSendConfig⟩ history))
    (contact_holds : Holds rt ⟨pair, .slowSendContact recipient⟩
      (ledger (RuleKey.address rt ⟨pair, .slowSendContact recipient⟩))
      (lastSerialized rt ⟨pair, .slowSendContact recipient⟩ history)) :
    SlowSendAgrees rt pair recipient ledger history := by
  -- the config that the history speaks of is the one in the account
  have known (config : SlowSendConfig)
      (last : lastSerialized rt ⟨pair, .slowSendConfig⟩ history = some (.slowSendConfig config)) :
      HeldFor SlowSendConfig.kind rt pair config
        (ledger (RuleKey.address rt ⟨pair, .slowSendConfig⟩)) := by
    rcases config_holds with ⟨none_last, _⟩ | ⟨config', last', held⟩
    · cases none_last.symm.trans last
    · rw [last', Option.some.injEq, Stored.slowSendConfig.injEq] at last
      rw [← last]
      exact held
  refine ⟨?_, ?_, ?_⟩
  · rcases config_holds with ⟨none_last, unused⟩ | ⟨config, last, held⟩
    · exact Or.inl ⟨none_last, unused, fun clock _ _ _ =>
        SlowSend.checkTransferHandler_unused unused clock⟩
    · have reads := SlowSend.config_fields config [] (.slowSend .invalidDestination)
      rw [List.append_nil] at reads
      have data := held.live.data
      rw [List.append_nil] at data
      exact Or.inr ⟨config, _, last, data, rfl, reads⟩
  · rcases contact_holds with ⟨none_last, unused⟩ | ⟨contact, last, registered⟩
    · exact Or.inl ⟨none_last, unused, fun config clock _ configured owned =>
        slowSend_contactless (known config configured) owned unused clock⟩
    · have read := SlowSendContact.contact_fields contact []
      rw [List.append_nil] at read
      have data := registered.data
      rw [List.append_nil] at data
      exact Or.inr ⟨contact, _, last, data, rfl, read, fun config clock _ configured owned =>
        slowSend_contacted (known config configured) owned registered clock⟩
  · intro clock destinationToken reason owned failed
    rcases config_holds with ⟨_, unused⟩ | ⟨config, _, held⟩
    · rw [SlowSend.checkTransferHandler_unused unused] at failed
      cases failed
    · rcases contact_holds with ⟨_, unused⟩ | ⟨contact, _, registered⟩
      · have refused := slowSend_contactless held owned unused clock
        rw [← Except.error.inj (refused.symm.trans failed)]
        exact ⟨by decide, by decide⟩
      · have verdict := slowSend_contacted held owned registered clock
        have failed := verdict.symm.trans failed
        simp only [bind_eq_error, okOr_eq_error, require_eq_error] at failed
        rcases failed with ⟨_, overflow⟩ | ⟨_, _, _, waiting⟩
        · rw [← overflow]
          exact ⟨by decide, by decide⟩
        · rw [← waiting]
          exact ⟨by decide, by decide⟩

theorem timeWindow_agrees
    (holds : Holds rt ⟨pair, .timeWindow⟩ (ledger (RuleKey.address rt ⟨pair, .timeWindow⟩))
      (lastSerialized rt ⟨pair, .timeWindow⟩ history)) :
    TimeWindowAgrees rt pair ledger history := by
  constructor
  · rcases holds with ⟨none_last, unused⟩ | ⟨config, last, held⟩
    · exact Or.inl ⟨none_last, unused, TimeWindowConfig.checkTransferHandler_unused unused⟩
    · obtain ⟨startHour, endHour⟩ := TimeWindowConfig.config_fields config []
      rw [List.append_nil] at startHour endHour
      have data := held.live.data
      rw [List.append_nil] at data
      exact Or.inr ⟨config, _, last, data, rfl, startHour, endHour,
        TimeWindowConfig.checkTransferHandler_live held.live⟩
  · intro clock amount reason failed
    rcases holds with ⟨_, unused⟩ | ⟨config, _, held⟩
    · rw [TimeWindowConfig.checkTransferHandler_unused unused] at failed
      cases failed
    · rw [TimeWindowConfig.checkTransferHandler_live held.live, require_eq_error] at failed
      rw [← failed.2]
      decide

theorem friendGate_agrees
    (holds : Holds rt ⟨pair, .friendGate⟩ (ledger (RuleKey.address rt ⟨pair, .friendGate⟩))
      (lastSerialized rt ⟨pair, .friendGate⟩ history)) :
    FriendGateAgrees rt pair ledger history := by
  have verdict (friendGate : FriendGate) (held : HeldFor FriendGate.kind rt pair friendGate
      (ledger (RuleKey.address rt ⟨pair, .friendGate⟩))) (env : Env) (amount : UInt64) :
      FriendGate.checkTransferHandler rt env (RuleKey.address rt ⟨pair, .friendGate⟩)
        (ledger (RuleKey.address rt ⟨pair, .friendGate⟩)) Programs.instructionsSysvar amount =
          if amount < friendGate.threshold then .ok ()
          else require (FriendGate.friendSigned env friendGate.friendWallet)
            (.friendGate .friendSignatureRequired) := by
    refine (FriendGate.checkTransferHandler_live held.live env _ amount).trans ?_
    rw [require_of_true rfl, ok_bind]
  constructor
  · rcases holds with ⟨none_last, unused⟩ | ⟨friendGate, last, held⟩
    · exact Or.inl ⟨none_last, unused, FriendGate.checkTransferHandler_unused unused⟩
    · obtain ⟨sender, stedeMint, threshold, friendWallet⟩ :=
        FriendGate.config_fields friendGate [] (.friendGate .sysvarReadFailed)
      rw [List.append_nil] at sender stedeMint threshold friendWallet
      have data := held.live.data
      rw [List.append_nil] at data
      exact Or.inr ⟨friendGate, _, last, data, rfl, sender, stedeMint, threshold, friendWallet,
        verdict friendGate held⟩
  · intro env amount reason failed
    rcases holds with ⟨_, unused⟩ | ⟨friendGate, _, held⟩
    · rw [FriendGate.checkTransferHandler_unused unused] at failed
      cases failed
    · rw [verdict friendGate held] at failed
      by_cases small : amount < friendGate.threshold
      · rw [if_pos small] at failed
        cases failed
      · rw [if_neg small, require_eq_error] at failed
        rw [← failed.2]
        exact ⟨by decide, by decide⟩

end Agreement

/-- The hand-written decoders agree with the structs last serialized, after every run
of the instructions of the three rules and gifts of lamports. -/
theorem decoders_agree (rt : Runtime) (inPlay : Set RuleKey)
    (free : rt.CollisionFree (RuleKey.derivation '' inPlay)) (start : Ledger)
    (unused : ∀ key ∈ inPlay, (start (key.address rt)).Unused) (instructions : List Instruction)
    (given : ∀ instruction ∈ instructions, ∀ key, instruction.creates = some key → key ∈ inPlay)
    (before after : List Instruction) (split : instructions = before ++ after) (pair : SenderMint) :
    (∀ recipient, ⟨pair, .slowSendConfig⟩ ∈ inPlay → ⟨pair, .slowSendContact recipient⟩ ∈ inPlay →
      SlowSendAgrees rt pair recipient (Run.run (step rt) start before)
        (Run.accepted (step rt) start before)) ∧
    (⟨pair, .timeWindow⟩ ∈ inPlay → TimeWindowAgrees rt pair (Run.run (step rt) start before)
      (Run.accepted (step rt) start before)) ∧
    (⟨pair, .friendGate⟩ ∈ inPlay → FriendGateAgrees rt pair (Run.run (step rt) start before)
      (Run.accepted (step rt) start before)) := by
  have begun : Faithful rt inPlay start [] := fun key member => Or.inl ⟨rfl, unused key member⟩
  have faithful : Faithful rt inPlay (Run.run (step rt) start before)
      (Run.accepted (step rt) start before) := by
    apply Run.history_invariant begun _ before after split
    intro earlier instruction later next split faithful success
    refine faithful.step free (given instruction ?_) success
    rw [split]
    exact List.mem_append_right _ List.mem_cons_self
  refine ⟨?_, ?_, ?_⟩
  · intro recipient config contact
    exact slowSend_agrees (faithful _ config) (faithful _ contact)
  · intro member
    exact timeWindow_agrees (faithful _ member)
  · intro member
    exact friendGate_agrees (faithful _ member)

/- A gate closed and made again, a contact of a waiting period, and an address that was
only funded. -/
section Sample

open Stede.Runtime (sampleKey)

def samplePair : SenderMint := ⟨sampleKey 1, sampleKey 2⟩

def sampleKeys : List RuleKey :=
  [⟨samplePair, .slowSendConfig⟩, ⟨samplePair, .slowSendContact (sampleKey 5)⟩,
    ⟨samplePair, .timeWindow⟩, ⟨samplePair, .friendGate⟩]

def sampleSender : AccountMeta := ⟨sampleKey 1, true, true⟩

def sampleAddress (slot : RuleSlot) : Pubkey := RuleKey.address .sample ⟨samplePair, slot⟩

def sampleInstructions : List Instruction :=
  [.fund (sampleAddress .timeWindow) 5,
    .registerRecipient ⟨0, 1000⟩
      ⟨sampleSender, sampleKey 2, sampleAddress (.slowSendContact (sampleKey 5))⟩ (sampleKey 5),
    .setSlowSend ⟨sampleSender, sampleKey 2, sampleAddress .slowSendConfig⟩ 60,
    .setFriendGate ⟨sampleSender, sampleKey 2, sampleAddress .friendGate⟩ 100 (sampleKey 9),
    .disableFriendGate ⟨sampleSender, sampleAddress .friendGate⟩,
    .setFriendGate ⟨sampleSender, sampleKey 2, sampleAddress .friendGate⟩ 50 (sampleKey 8)]

/-- The state they lead to; all of them succeed. -/
def sampleLedger : Ledger := Run.run (step .sample) (fun _ => .absent) sampleInstructions

def sampleHistory : List Instruction :=
  Run.accepted (step .sample) (fun _ => .absent) sampleInstructions

theorem decoders_agree_sample :
    SlowSendAgrees .sample samplePair (sampleKey 5) sampleLedger sampleHistory ∧
      TimeWindowAgrees .sample samplePair sampleLedger sampleHistory ∧
      FriendGateAgrees .sample samplePair sampleLedger sampleHistory := by
  have given : ∀ instruction ∈ sampleInstructions, ∀ key, instruction.creates = some key →
      key ∈ sampleKeys := by
    intro instruction member key creates
    simp only [sampleInstructions, List.mem_cons, List.not_mem_nil, or_false] at member
    rcases member with rfl | rfl | rfl | rfl | rfl | rfl <;> cases creates <;> decide
  have ⟨slowSend, timeWindow, friendGate⟩ := decoders_agree .sample {key | key ∈ sampleKeys}
    (RuleKey.free_of_nodup (by decide +kernel)) (fun _ => .absent) (fun _ _ => ⟨rfl, rfl⟩)
    sampleInstructions given sampleInstructions [] (List.append_nil _).symm samplePair
  exact ⟨slowSend (sampleKey 5) (List.mem_cons_self ..) (by decide), timeWindow (by decide),
    friendGate (by decide)⟩

/-- The second gate is the one last serialized, and the time window never was. -/
example : lastSerialized .sample ⟨samplePair, .friendGate⟩ sampleHistory =
      some (.friendGate ⟨sampleKey 1, sampleKey 2, 50, sampleKey 8,
        (FriendGate.kind.pda .sample (sampleKey 1) (sampleKey 2)).2⟩) ∧
    lastSerialized .sample ⟨samplePair, .timeWindow⟩ sampleHistory = none := by
  decide +kernel

end Sample

end Stede.Decoders
