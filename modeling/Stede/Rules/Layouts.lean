import Stede.Rules.FriendGate
import Stede.Rules.NewRecipientDelay
import Stede.Rules.TimeWindow
import Stede.Solana.Lifecycle

set_option autoImplicit false

/- The decoders that three of the rules write by hand, on the accounts that the
framework serializes. -/
namespace Stede

variable {rt : Runtime} {key : Pubkey} {account : Account}

/-- The data of a live account is the image of its value. -/
theorem ConfigKind.Live.data {α : Type} {kind : ConfigKind α} {value : α}
    (live : kind.Live rt key value account) : account.data = kind.image value ++ [] := by
  rw [List.append_nil, live.holds]
  rfl

theorem ConfigKind.Live.length {α : Type} {kind : ConfigKind α} {value : α}
    (live : kind.Live rt key value account) : account.data.length = 8 + kind.codec.width := by
  rw [live.data, List.append_nil, AccountType.image_length, AccountType.space]

/-- What a `set_*` handler makes of a new value, and of one that has the pair and the
bump of the instruction: the struct that the instruction asks for. -/
structure ConfigKind.Writes {α : Type} (kind : ConfigKind α) (sender stedeMint : Pubkey)
    (handler : UInt8 → α → Except Error α) (value : UInt8 → α) : Prop where
  named : ∀ bump, kind.sender (value bump) = sender ∧ kind.stedeMint (value bump) = stedeMint
  written : ∀ bump old new, handler bump old = .ok new →
    (kind.sender old = .default ∨
      kind.sender old = sender ∧ kind.stedeMint old = stedeMint ∧ kind.bump old = bump) →
    new = value bump

namespace FriendGate

/-- A check of a live gate is the comparison and the scan on its fields. -/
theorem checkTransferHandler_live {friendGate : FriendGate} (live : kind.Live rt key friendGate account)
    (env : Env) (instructionsSysvar : Pubkey) (amount : UInt64) :
    checkTransferHandler rt env key account instructionsSysvar amount =
      (if amount < friendGate.threshold then .ok ()
      else do
        require (instructionsSysvar = Programs.instructionsSysvar) (.friendGate .sysvarReadFailed)
        require (friendSigned env friendGate.friendWallet) (.friendGate .friendSignatureRequired)) := by
  obtain ⟨sender, stedeMint, threshold, friendWallet⟩ :=
    config_fields friendGate [] (.friendGate .sysvarReadFailed)
  rw [← live.data] at sender stedeMint threshold friendWallet
  have long : 8 + kind.codec.width ≤ account.data.length := live.length.ge
  have address : key = (kind.pda rt friendGate.sender friendGate.stedeMint).1 := live.address
  simp only [checkTransferHandler, live.configured, Bool.false_eq_true, ↓reduceIte, long,
    require_of_true, ok_bind, sender, stedeMint, threshold, friendWallet, ← address]

theorem checkTransferHandler_unused (unused : account.Unused) (env : Env)
    (instructionsSysvar : Pubkey) (amount : UInt64) :
    checkTransferHandler rt env key account instructionsSysvar amount = .ok () := by
  simp only [checkTransferHandler, unused.unconfigured, ↓reduceIte]

theorem setFriendGateHandler_claims (sender stedeMint : Pubkey) (threshold : UInt64)
    (friendWallet : Pubkey) :
    kind.Claims sender stedeMint fun bump =>
      setFriendGateHandler sender stedeMint bump threshold friendWallet := by
  intro bump old new handled
  have ⟨_, _, _, made⟩ := (setFriendGateHandler_eq_ok _ _ _ _ _ _ _).mp handled
  by_cases fresh : old.sender = .default
  · simp only [fresh, ↓reduceIte] at made
    rw [made]
    exact Or.inr ⟨rfl, rfl, rfl⟩
  · simp only [fresh, ↓reduceIte] at made
    rw [made]
    exact Or.inl ⟨fresh, rfl, rfl, rfl⟩

theorem setFriendGateHandler_writes (sender stedeMint : Pubkey) (threshold : UInt64)
    (friendWallet : Pubkey) :
    kind.Writes sender stedeMint
      (fun bump => setFriendGateHandler sender stedeMint bump threshold friendWallet)
      (fun bump => ⟨sender, stedeMint, threshold, friendWallet, bump⟩) := by
  refine ⟨fun _ => ⟨rfl, rfl⟩, ?_⟩
  intro bump old new handled known
  obtain ⟨_, _, _, made⟩ := (setFriendGateHandler_eq_ok _ _ _ _ _ _ _).mp handled
  rw [made]
  rcases known with fresh | ⟨rfl, rfl, rfl⟩
  · exact if_pos fresh
  · exact ite_self _

end FriendGate

namespace TimeWindowConfig

/-- Where the fields of a config lie in its account. -/
theorem config_image (config : TimeWindowConfig) (rest : List UInt8) :
    kind.image config ++ rest = kind.discriminator ++ (config.sender.bytes ++
      (config.stedeMint.bytes ++ (Codec.byte.encode config.startHour ++
        (Codec.byte.encode config.endHour ++ (Codec.byte.encode config.bump ++ rest))))) := by
  show kind.discriminator ++ (config.sender.bytes ++ (config.stedeMint.bytes ++
    (Codec.byte.encode config.startHour ++ (Codec.byte.encode config.endHour ++
      Codec.byte.encode config.bump)))) ++ rest = _
  simp only [List.append_assoc]

/-- What the fixed offsets of the check read from a config account. -/
theorem config_fields (config : TimeWindowConfig) (rest : List UInt8) :
    readByte (kind.image config ++ rest) 72 = .ok config.startHour ∧
      readByte (kind.image config ++ rest) 73 = .ok config.endHour := by
  have first := config.sender.size
  have second := config.stedeMint.size
  have head : kind.discriminator.length = 8 := rfl
  have third : (Codec.byte.encode config.startHour).length = 1 := Codec.encode_length _ _
  rw [config_image]
  constructor
  · rw [← List.append_assoc, ← List.append_assoc]
    exact readByte_field (by simp only [List.length_append]; omega) _ _
  · rw [← List.append_assoc, ← List.append_assoc, ← List.append_assoc]
    exact readByte_field (by simp only [List.length_append]; omega) _ _

theorem checkTransferHandler_live {config : TimeWindowConfig} (live : kind.Live rt key config account)
    (clock : Clock) (amount : UInt64) :
    checkTransferHandler clock account amount =
      require (blocks config.startHour config.endHour (hourOf clock.unixTimestamp) = false)
        (.timeWindow .withinBlockedWindow) := by
  obtain ⟨startHour, endHour⟩ := config_fields config []
  rw [← live.data] at startHour endHour
  simp only [checkTransferHandler, live.configured, Bool.false_eq_true, ↓reduceIte, startHour,
    endHour, ok_bind]

theorem checkTransferHandler_unused (unused : account.Unused) (clock : Clock) (amount : UInt64) :
    checkTransferHandler clock account amount = .ok () := by
  simp only [checkTransferHandler, unused.unconfigured, ↓reduceIte]

theorem setTimeWindowHandler_claims (sender stedeMint : Pubkey) (startHour endHour : UInt8) :
    kind.Claims sender stedeMint fun bump =>
      setTimeWindowHandler sender stedeMint bump startHour endHour := by
  intro bump old new handled
  have ⟨_, made⟩ := (setTimeWindowHandler_eq_ok _ _ _ _ _ _ _).mp handled
  rw [made]
  exact Or.inr ⟨rfl, rfl, rfl⟩

theorem setTimeWindowHandler_writes (sender stedeMint : Pubkey) (startHour endHour : UInt8) :
    kind.Writes sender stedeMint
      (fun bump => setTimeWindowHandler sender stedeMint bump startHour endHour)
      (fun bump => ⟨sender, stedeMint, startHour, endHour, bump⟩) :=
  ⟨fun _ => ⟨rfl, rfl⟩, fun _ _ _ handled _ =>
    ((setTimeWindowHandler_eq_ok _ _ _ _ _ _ _).mp handled).2⟩

end TimeWindowConfig

namespace SlowSendContact

/-- A rent-exempt account that holds a contact and nothing else. -/
structure Live (rt : Runtime) (contact : SlowSendContact) (account : Account) : Prop where
  holds : account = kind.held account.lamports contact
  exempt : rt.minimumBalance kind.space ≤ account.lamports

/-- Where the time of the first contact lies. -/
theorem contact_image (contact : SlowSendContact) (rest : List UInt8) :
    kind.image contact ++ rest = kind.discriminator ++ (Codec.int64.encode contact.firstContactAt ++
      (Codec.byte.encode contact.bump ++ rest)) := by
  show kind.discriminator ++ (Codec.int64.encode contact.firstContactAt ++
    Codec.byte.encode contact.bump) ++ rest = _
  simp only [List.append_assoc]

theorem contact_fields (contact : SlowSendContact) (rest : List UInt8) :
    readI64 (kind.image contact ++ rest) 8 = .ok contact.firstContactAt := by
  have head : kind.discriminator.length = 8 := rfl
  rw [contact_image]
  exact readI64_field head _ _

theorem Live.data {contact : SlowSendContact} (live : Live rt contact account) :
    account.data = kind.image contact ++ [] := by
  rw [List.append_nil, live.holds]
  rfl

theorem Live.length {contact : SlowSendContact} (live : Live rt contact account) :
    account.data.length = 17 := by
  rw [live.data, List.append_nil, AccountType.image_length]
  rfl

theorem Live.configured {contact : SlowSendContact} (live : Live rt contact account) :
    account.unconfigured = false := by
  rw [live.holds]
  exact kind.held_configured ((rt.minimumBalance_pos kind.space).trans_le live.exempt) contact

theorem Live.load {contact : SlowSendContact} (live : Live rt contact account) :
    kind.load account = .ok contact := by
  have foreign : kind.program ≠ Programs.system := SlowSendConfig.kind.foreign
  rw [live.holds]
  exact (kind.load_eq_ok _ _ foreign).mpr ⟨rfl, [], (List.append_nil _).symm⟩

theorem Live.gift {contact : SlowSendContact} (live : Live rt contact account) (lamports : Nat) :
    Live rt contact { account with lamports := account.lamports + lamports } := by
  refine ⟨?_, live.exempt.trans (Nat.le_add_right _ _)⟩
  rw [live.holds]
  rfl

end SlowSendContact

namespace SlowSend

variable {config : SlowSendConfig} {recipient : Pubkey} {contactKey : Pubkey}
  {contactAccount destinationToken : Account}

/-- A check of a live config, given the contact that goes with the recipient. -/
theorem checkTransferHandler_live (live : SlowSendConfig.kind.Live rt key config account)
    (clock : Clock) (owned : readPubkey destinationToken.data 32 (.program .invalidAccountData) =
      .ok recipient) (derived : contactKey =
        (SlowSendContact.pda rt config.sender recipient config.stedeMint).1) :
    checkTransferHandler rt clock key account contactKey contactAccount destinationToken = (do
      require (contactAccount.unconfigured = false) (.slowSend .recipientNotRegistered)
      require (16 ≤ contactAccount.data.length) (.slowSend .recipientNotRegistered)
      let firstContactAt ← readI64 contactAccount.data 8
      let elapsed ← okOr (Checked.subI64 clock.unixTimestamp firstContactAt) (.slowSend .overflow)
      require (config.delaySeconds ≤ elapsed) (.slowSend .waitingPeriodActive)) := by
  have long := ((readPubkey_eq_ok _ _ _ _).mp owned).1
  have owned := (readPubkey_eq_ok _ _ (.slowSend .invalidDestination) _).mpr
    ((readPubkey_eq_ok _ _ _ _).mp owned)
  obtain ⟨sender, stedeMint, delay, bump⟩ := config_fields config [] (.slowSend .invalidDestination)
  rw [← live.data] at sender stedeMint delay bump
  have size : 8 + SlowSendConfig.kind.codec.width ≤ account.data.length := live.length.ge
  have address : key = (SlowSendConfig.kind.pda rt config.sender config.stedeMint).1 := live.address
  have long' : 64 ≤ destinationToken.data.length := long
  simp only [checkTransferHandler, live.configured, Bool.false_eq_true, ↓reduceIte, size,
    require_of_true, ok_bind, sender, stedeMint, delay, bump, ← address, long', owned, derived]

theorem checkTransferHandler_unused (unused : account.Unused) (clock : Clock) :
    checkTransferHandler rt clock key account contactKey contactAccount destinationToken = .ok () := by
  simp only [checkTransferHandler, unused.unconfigured, ↓reduceIte]

section Contacts

variable (live : SlowSendConfig.kind.Live rt key config account) (clock : Clock)
  (owned : readPubkey destinationToken.data 32 (.program .invalidAccountData) = .ok recipient)
  (derived : contactKey = (SlowSendContact.pda rt config.sender recipient config.stedeMint).1)
include live owned derived

theorem checkTransferHandler_unregistered (unused : contactAccount.Unused) :
    checkTransferHandler rt clock key account contactKey contactAccount destinationToken =
      .error (.slowSend .recipientNotRegistered) := by
  rw [checkTransferHandler_live live clock owned derived, unused.unconfigured]
  rfl

/-- A registered recipient is refused until the delay has passed. -/
theorem checkTransferHandler_registered {contact : SlowSendContact}
    (registered : SlowSendContact.Live rt contact contactAccount) :
    checkTransferHandler rt clock key account contactKey contactAccount destinationToken = (do
      let elapsed ← okOr (Checked.subI64 clock.unixTimestamp contact.firstContactAt)
        (.slowSend .overflow)
      require (config.delaySeconds ≤ elapsed) (.slowSend .waitingPeriodActive)) := by
  have read := SlowSendContact.contact_fields contact []
  rw [← registered.data] at read
  have long : 16 ≤ contactAccount.data.length := by
    rw [registered.length]
    decide
  rw [checkTransferHandler_live live clock owned derived, require_of_true registered.configured,
    ok_bind, require_of_true long, ok_bind, read, ok_bind]

end Contacts

theorem setSlowSendHandler_claims (sender stedeMint : Pubkey) (delaySeconds : Int64) :
    SlowSendConfig.kind.Claims sender stedeMint fun bump =>
      setSlowSendHandler sender stedeMint bump delaySeconds := by
  intro bump old new handled
  have ⟨_, made⟩ := (setSlowSendHandler_eq_ok _ _ _ _ _ _).mp handled
  by_cases fresh : old.sender = .default
  · simp only [fresh, ↓reduceIte] at made
    rw [made]
    exact Or.inr ⟨rfl, rfl, rfl⟩
  · simp only [fresh, ↓reduceIte] at made
    rw [made]
    exact Or.inl ⟨fresh, rfl, rfl, rfl⟩

theorem setSlowSendHandler_writes (sender stedeMint : Pubkey) (delaySeconds : Int64) :
    SlowSendConfig.kind.Writes sender stedeMint
      (fun bump => setSlowSendHandler sender stedeMint bump delaySeconds)
      (fun bump => ⟨sender, stedeMint, delaySeconds, bump⟩) := by
  refine ⟨fun _ => ⟨rfl, rfl⟩, ?_⟩
  intro bump old new handled known
  obtain ⟨_, made⟩ := (setSlowSendHandler_eq_ok _ _ _ _ _ _).mp handled
  rw [made]
  rcases known with fresh | ⟨rfl, rfl, rfl⟩
  · exact if_pos fresh
  · exact ite_self _

/-- Registering makes a live contact of an unused address, first seen now. -/
theorem registerRecipient_live {ledger next : Ledger} {clock : Clock} {accounts : RegisterRecipient}
    (success : registerRecipient rt clock ledger accounts recipient = .ok next) :
    (ledger accounts.contact).Unused ∧
      SlowSendContact.Live rt ⟨clock.unixTimestamp,
        (SlowSendContact.pda rt accounts.sender.pubkey recipient accounts.stedeMint).2⟩
          (next accounts.contact) ∧
      ∃ account, next = ledger.write accounts.contact account := by
  have ⟨_, _, created, stored, fresh, written, same⟩ :=
    (registerRecipient_eq_ok _ _ _ _ _ _).mp success
  have ⟨_, unused, made⟩ := (AccountType.create_eq_ok _ _ _ _ _).mp fresh
  rw [made, AccountType.store_zeroed, Except.ok.injEq] at written
  refine ⟨unused, ?_, stored, same⟩
  rw [same, Ledger.write_self, ← written]
  exact ⟨rfl, Nat.le_max_right _ _⟩

end SlowSend

end Stede
