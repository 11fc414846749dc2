import Mathlib
import Stede.Lib.Checked
import Stede.Solana.Anchor

set_option autoImplicit false

/- The program `stede_rule_new_recipient_delay` (slow send). -/
namespace Stede

structure SlowSendConfig where
  sender : Pubkey
  stedeMint : Pubkey
  delaySeconds : Int64
  bump : UInt8
deriving DecidableEq

structure SlowSendContact where
  firstContactAt : Int64
  bump : UInt8
deriving DecidableEq

/-- The accounts of `RegisterRecipient`. -/
structure RegisterRecipient where
  sender : AccountMeta
  stedeMint : Pubkey
  contact : Pubkey

namespace SlowSendConfig

def MIN_DELAY_SECONDS : Int64 := 1
def MAX_DELAY_SECONDS : Int64 := 604800

def fields : Pubkey × Pubkey × Int64 × UInt8 ≃ SlowSendConfig where
  toFun := fun (sender, stedeMint, delaySeconds, bump) => ⟨sender, stedeMint, delaySeconds, bump⟩
  invFun value := (value.sender, value.stedeMint, value.delaySeconds, value.bump)
  left_inv _ := rfl
  right_inv _ := rfl

def kind : ConfigKind SlowSendConfig where
  program := Programs.stedeRuleNewRecipientDelay
  discriminator := [168, 162, 185, 32, 189, 247, 28, 41]
  codec := (Pubkey.codec.prod (Pubkey.codec.prod (Codec.int64.prod Codec.byte))).imap fields
  zero := ⟨.default, .default, 0, 0⟩
  discriminator_length := rfl
  encode_zero := by decide
  seedPrefix := byteString "slow_send_config"
  sender := SlowSendConfig.sender
  stedeMint := SlowSendConfig.stedeMint
  bump := SlowSendConfig.bump
  foreign := by decide +kernel

end SlowSendConfig

namespace SlowSendContact

def fields : Int64 × UInt8 ≃ SlowSendContact where
  toFun := fun (firstContactAt, bump) => ⟨firstContactAt, bump⟩
  invFun value := (value.firstContactAt, value.bump)
  left_inv _ := rfl
  right_inv _ := rfl

def kind : AccountType SlowSendContact where
  program := Programs.stedeRuleNewRecipientDelay
  discriminator := [71, 157, 193, 209, 143, 113, 144, 226]
  codec := (Codec.int64.prod Codec.byte).imap fields
  zero := ⟨0, 0⟩
  discriminator_length := rfl
  encode_zero := by decide

def seedPrefix : List UInt8 := byteString "slow_send_contact"

/-- `SlowSendContact::pda(sender, recipient, stede_mint, program_id)`. -/
def pda (rt : Runtime) (sender recipient stedeMint : Pubkey) : Pubkey × UInt8 :=
  rt.pda [seedPrefix, sender.bytes, recipient.bytes, stedeMint.bytes] kind.program

end SlowSendContact

namespace SlowSend

/-- The body of `set_slow_send_handler`. -/
def setSlowSendHandler (sender stedeMint : Pubkey) (bump : UInt8) (delaySeconds : Int64)
    (config : SlowSendConfig) : Except Error SlowSendConfig := do
  require (SlowSendConfig.MIN_DELAY_SECONDS ≤ delaySeconds ∧
    delaySeconds ≤ SlowSendConfig.MAX_DELAY_SECONDS) (.slowSend .invalidDelay)
  let config :=
    if config.sender = .default then
      { config with sender := sender, stedeMint := stedeMint, bump := bump }
    else config
  return { config with delaySeconds := delaySeconds }

def setSlowSend (rt : Runtime) (ledger : Ledger) (accounts : SetConfig) (delaySeconds : Int64) :
    Except Error Ledger :=
  SlowSendConfig.kind.set rt ledger accounts fun bump =>
    setSlowSendHandler accounts.sender.pubkey accounts.stedeMint bump delaySeconds

def disableSlowSend (rt : Runtime) (ledger : Ledger) (accounts : DisableConfig) :
    Except Error Ledger :=
  SlowSendConfig.kind.disable rt ledger accounts

/-- `register_recipient`: `init`, so registering a registered recipient fails. -/
def registerRecipient (rt : Runtime) (clock : Clock) (ledger : Ledger)
    (accounts : RegisterRecipient) (recipient : Pubkey) : Except Error Ledger := do
  require (accounts.sender.signed rt) (.anchor .accountNotSigner)
  let derived := SlowSendContact.pda rt accounts.sender.pubkey recipient accounts.stedeMint
  require (accounts.contact = derived.1) (.anchor .constraintSeeds)
  let account ← SlowSendContact.kind.create rt accounts.sender (ledger accounts.contact)
  let contact ← SlowSendContact.kind.loadUnchecked account
  require (accounts.sender.isWritable) (.anchor .constraintMut)
  let contact := { contact with firstContactAt := clock.unixTimestamp, bump := derived.2 }
  let account ← SlowSendContact.kind.store contact account
  return ledger.write accounts.contact account

/-- `check_transfer_handler` over the three accounts it is given. The config and
the contact are read at fixed offsets, without their discriminators. -/
def checkTransferHandler (rt : Runtime) (clock : Clock) (configKey : Pubkey) (config : Account)
    (contactKey : Pubkey) (contact : Account) (destinationToken : Account) : Except Error Unit :=
  if config.unconfigured then .ok ()
  else do
    require (8 + SlowSendConfig.kind.codec.width ≤ config.data.length) (.slowSend .invalidDestination)
    let configSender ← readPubkey config.data 8 (.slowSend .invalidDestination)
    let configStedeMint ← readPubkey config.data 40 (.slowSend .invalidDestination)
    let delaySeconds ← readI64 config.data 72
    let _configBump ← readByte config.data 80
    require (configKey = (SlowSendConfig.kind.pda rt configSender configStedeMint).1)
      (.slowSend .invalidDestination)
    require (64 ≤ destinationToken.data.length) (.slowSend .invalidDestination)
    let recipient ← readPubkey destinationToken.data 32 (.slowSend .invalidDestination)
    require (contactKey = (SlowSendContact.pda rt configSender recipient configStedeMint).1)
      (.slowSend .invalidDestination)
    require (contact.unconfigured = false) (.slowSend .recipientNotRegistered)
    require (16 ≤ contact.data.length) (.slowSend .recipientNotRegistered)
    let firstContactAt ← readI64 contact.data 8
    let elapsed ← okOr (Checked.subI64 clock.unixTimestamp firstContactAt) (.slowSend .overflow)
    require (delaySeconds ≤ elapsed) (.slowSend .waitingPeriodActive)

def checkTransfer (rt : Runtime) (clock : Clock) (ledger : Ledger)
    (config contact destinationToken : AccountMeta) : Except Error Unit :=
  checkTransferHandler rt clock config.pubkey (ledger config.pubkey) contact.pubkey
    (ledger contact.pubkey) (ledger destinationToken.pubkey)

theorem setSlowSendHandler_eq_ok (sender stedeMint : Pubkey) (bump : UInt8) (delaySeconds : Int64)
    (config next : SlowSendConfig) :
    setSlowSendHandler sender stedeMint bump delaySeconds config = .ok next ↔
      (SlowSendConfig.MIN_DELAY_SECONDS ≤ delaySeconds ∧
        delaySeconds ≤ SlowSendConfig.MAX_DELAY_SECONDS) ∧
      next = if config.sender = .default then ⟨sender, stedeMint, delaySeconds, bump⟩
        else { config with delaySeconds := delaySeconds } := by
  simp only [setSlowSendHandler, bind_eq_ok, require_eq_ok, exists_const, pure, Except.pure,
    Except.ok.injEq]
  refine and_congr_right fun _ => ?_
  split <;> exact eq_comm

/-- Where the fields of a config lie in its account. -/
theorem config_image (config : SlowSendConfig) (rest : List UInt8) :
    SlowSendConfig.kind.image config ++ rest = SlowSendConfig.kind.discriminator ++
      (config.sender.bytes ++ (config.stedeMint.bytes ++
        (Codec.int64.encode config.delaySeconds ++ (Codec.byte.encode config.bump ++ rest)))) := by
  show SlowSendConfig.kind.discriminator ++ (config.sender.bytes ++ (config.stedeMint.bytes ++
    (Codec.int64.encode config.delaySeconds ++ Codec.byte.encode config.bump))) ++ rest = _
  simp only [List.append_assoc]

/-- What the fixed offsets of the check read from a config account. -/
theorem config_fields (config : SlowSendConfig) (rest : List UInt8) (error : Error) :
    readPubkey (SlowSendConfig.kind.image config ++ rest) 8 error = .ok config.sender ∧
      readPubkey (SlowSendConfig.kind.image config ++ rest) 40 error = .ok config.stedeMint ∧
      readI64 (SlowSendConfig.kind.image config ++ rest) 72 = .ok config.delaySeconds ∧
      readByte (SlowSendConfig.kind.image config ++ rest) 80 = .ok config.bump := by
  have first := config.sender.size
  have second := config.stedeMint.size
  have head : SlowSendConfig.kind.discriminator.length = 8 := rfl
  have third : (Codec.int64.encode config.delaySeconds).length = 8 := Codec.encode_length _ _
  rw [config_image]
  refine ⟨readPubkey_field head _ _ _, ?_, ?_, ?_⟩
  · rw [← List.append_assoc]
    exact readPubkey_field (by simp only [List.length_append]; omega) _ _ _
  · rw [← List.append_assoc, ← List.append_assoc]
    exact readI64_field (by simp only [List.length_append]; omega) _ _
  · rw [← List.append_assoc, ← List.append_assoc, ← List.append_assoc]
    exact readByte_field (by simp only [List.length_append]; omega) _ _

/-- The address error is raised exactly when the config or the contact is not at
the address of the stored pair and the recipient of the destination. -/
theorem checkTransferHandler_misplaced (rt : Runtime) (clock : Clock) (configKey contactKey : Pubkey)
    (config : SlowSendConfig) (contact destinationToken : Account) (recipient : Pubkey)
    (owned : readPubkey destinationToken.data 32 (.program .invalidAccountData) = .ok recipient) :
    checkTransferHandler rt clock configKey (SlowSendConfig.kind.created rt config) contactKey
        contact destinationToken = .error (.slowSend .invalidDestination) ↔
      configKey ≠ (SlowSendConfig.kind.pda rt config.sender config.stedeMint).1 ∨
        contactKey ≠ (SlowSendContact.pda rt config.sender recipient config.stedeMint).1 := by
  have long := ((readPubkey_eq_ok _ _ _ _).mp owned).1
  have owned := (readPubkey_eq_ok _ _ (.slowSend .invalidDestination) _).mpr
    ((readPubkey_eq_ok _ _ _ _).mp owned)
  have configured := SlowSendConfig.kind.created_configured rt config
  have data : (SlowSendConfig.kind.created rt config).data = SlowSendConfig.kind.image config ++ [] :=
    (List.append_nil _).symm
  have size : 8 + SlowSendConfig.kind.codec.width ≤
      (SlowSendConfig.kind.created rt config).data.length := by
    rw [data, List.append_nil, AccountType.image_length, AccountType.space]
  obtain ⟨sender, stedeMint, delay, bump⟩ := config_fields config [] (.slowSend .invalidDestination)
  rw [← data] at sender stedeMint delay bump
  by_cases derived : configKey = (SlowSendConfig.kind.pda rt config.sender config.stedeMint).1
  · simp [checkTransferHandler, configured, bind_eq_error, size, sender, stedeMint, delay, bump, long,
      owned, derived]
  · simp [checkTransferHandler, configured, bind_eq_error, size, sender, stedeMint, delay, bump,
      derived]

theorem registerRecipient_eq_ok (rt : Runtime) (clock : Clock) (ledger next : Ledger)
    (accounts : RegisterRecipient) (recipient : Pubkey) :
    registerRecipient rt clock ledger accounts recipient = .ok next ↔
      accounts.sender.pays rt = true ∧
      accounts.contact =
        (SlowSendContact.pda rt accounts.sender.pubkey recipient accounts.stedeMint).1 ∧
      ∃ created stored,
        SlowSendContact.kind.create rt accounts.sender (ledger accounts.contact) = .ok created ∧
        SlowSendContact.kind.store ⟨clock.unixTimestamp,
          (SlowSendContact.pda rt accounts.sender.pubkey recipient accounts.stedeMint).2⟩ created =
            .ok stored ∧
        next = ledger.write accounts.contact stored := by
  simp only [registerRecipient, bind_eq_ok, require_eq_ok, exists_const, pure, Except.pure,
    Except.ok.injEq, AccountMeta.pays_iff]
  constructor
  · rintro ⟨signed, derived, created, fresh, value, _, writable, stored, written, rfl⟩
    exact ⟨⟨signed, writable⟩, derived, created, stored, fresh, written, rfl⟩
  · rintro ⟨⟨signed, writable⟩, derived, created, stored, fresh, written, rfl⟩
    obtain ⟨_, _, rfl⟩ := (AccountType.create_eq_ok _ _ _ _ _).mp fresh
    exact ⟨signed, derived, _, fresh, _, AccountType.loadUnchecked_created _ _ _, writable, stored,
      written, rfl⟩

/-- On an address nobody used, registering creates the contact, first seen now. -/
theorem registerRecipient_of_absent (rt : Runtime) (clock : Clock) (ledger next : Ledger)
    (accounts : RegisterRecipient) (recipient : Pubkey) (unused : ledger accounts.contact = .absent) :
    registerRecipient rt clock ledger accounts recipient = .ok next ↔
      accounts.sender.pays rt = true ∧
      accounts.contact =
        (SlowSendContact.pda rt accounts.sender.pubkey recipient accounts.stedeMint).1 ∧
      next = ledger.write accounts.contact (SlowSendContact.kind.created rt ⟨clock.unixTimestamp,
        (SlowSendContact.pda rt accounts.sender.pubkey recipient accounts.stedeMint).2⟩) := by
  rw [registerRecipient_eq_ok, unused]
  refine and_congr_right fun pays => and_congr_right fun _ => ?_
  constructor
  · intro ⟨created, stored, fresh, written, same⟩
    rw [((AccountType.create_eq_ok _ _ _ _ _).mp fresh).2.2, Account.absent,
      AccountType.store_zeroed, Nat.zero_max] at written
    rw [same, ← Except.ok.inj written]
    rfl
  · intro same
    have stored := SlowSendContact.kind.store_zeroed (max 0 (rt.minimumBalance SlowSendContact.kind.space))
      ⟨clock.unixTimestamp, (SlowSendContact.pda rt accounts.sender.pubkey recipient accounts.stedeMint).2⟩
    rw [Nat.zero_max] at stored
    have writable := AccountMeta.writable_of_pays pays
    exact ⟨_, _, (AccountType.create_eq_ok _ _ _ _ _).mpr ⟨Or.inr writable, ⟨rfl, rfl⟩, rfl⟩, stored,
      same⟩

end SlowSend

end Stede
