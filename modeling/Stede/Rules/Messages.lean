import Stede.Lib.Logged
import Stede.Lib.Words
import Stede.Rules.BlockHandle
import Stede.Rules.Cooloff
import Stede.Rules.DailyLimit
import Stede.Rules.FriendGate
import Stede.Rules.NewRecipientDelay
import Stede.Rules.TimeWindow

set_option autoImplicit false

/- What the hook and the rules write to the transaction log with `msg!`. -/
namespace Stede

/-- A key as `Display` writes it: a `1` for each leading zero byte, then the number. -/
def Pubkey.toBase58 (key : Pubkey) : List Char :=
  let zeros := (key.bytes.takeWhile fun byte => byte = 0).length
  List.replicate zeros '1' ++
    (Nat.digits 58 (natLE key.bytes.reverse)).reverse.map fun digit => base58Alphabet.getD digit '1'

example : Programs.stedeHook.toBase58 = "Cr1nytaygTvi4h73JhGacAJMbJsYxMvf7syQWpr6CYYv".toList := by
  decide +kernel

/-- A stretch of a message: the text between two arguments, or an argument. -/
inductive Piece
  | text (literal : String)
  | key (address : Pubkey)
  | number (value : Int)

namespace Piece

def chars : Piece → List Char
  | text literal => literal.toList
  | key address => address.toBase58
  | number value =>
      (if value < 0 then ['-'] else []) ++ Nat.toDigits 10 value.natAbs

def key? : Piece → Option Pubkey
  | key address => some address
  | _ => none

def literal? : Piece → Option String
  | text literal => some literal
  | _ => none

end Piece

/-- The `msg!` calls that a transfer can come to. -/
inductive Message
  | executeInvoked
  | dailyLimitRulePassed
  | blockListRulePassed
  | cooloffRulePassed
  | slowSendRulePassed
  | timeWindowRulePassed
  | friendGateRulePassed
  | dailyLimitNotConfigured
  | dailyWindowReset (sender : Pubkey)
  | dailyLimitCheckPassed (spentToday amount limit : UInt64)
  | blockListNotConfigured
  | blockListCheckPassed (recipient sender : Pubkey)
  | cooloffNotConfigured
  | cooloffBelowThreshold (amount threshold : UInt64)
  | cooloffLargeApproved (amount : UInt64) (durationSeconds : Int64)
  | slowSendNotConfigured
  | slowSendCheckPassed (recipient : Pubkey) (elapsed delaySeconds : Int64)
  | friendGateNotConfigured
  | friendGateBelowThreshold (amount threshold : UInt64)
  | friendGateCoSigned (amount threshold : UInt64) (friendWallet : Pubkey)

namespace Message

def pieces : Message → List Piece
  | executeInvoked => [.text "stede_hook execute() invoked. CPIing into rules."]
  | dailyLimitRulePassed => [.text "Daily limit rule passed."]
  | blockListRulePassed => [.text "Block list rule passed."]
  | cooloffRulePassed => [.text "Cool-off rule passed."]
  | slowSendRulePassed => [.text "Slow Send rule passed."]
  | timeWindowRulePassed => [.text "Time window rule passed."]
  | friendGateRulePassed => [.text "Friend Gate rule passed."]
  | dailyLimitNotConfigured => [.text "Daily limit not configured for this sender. Auto-pass."]
  | dailyWindowReset sender => [.text "Daily window reset for ", .key sender]
  | dailyLimitCheckPassed spentToday amount limit =>
      [.text "Daily limit check passed: ", .number spentToday.toNat, .text " spent_today after ",
        .number amount.toNat, .text " transfer, limit ", .number limit.toNat]
  | blockListNotConfigured => [.text "Block list not configured for this sender. Auto-pass."]
  | blockListCheckPassed recipient sender =>
      [.text "Block list check passed: recipient ", .key recipient, .text " not on sender ",
        .key sender, .text "'s list"]
  | cooloffNotConfigured => [.text "Cool-off not configured for this sender. Auto-pass."]
  | cooloffBelowThreshold amount threshold =>
      [.text "Cooloff check passed: amount ", .number amount.toNat, .text " below threshold ",
        .number threshold.toNat]
  | cooloffLargeApproved amount durationSeconds =>
      [.text "Cooloff check passed: large transfer of ", .number amount.toNat,
        .text " approved. Next large transfer blocked for ", .number durationSeconds.toInt, .text "s."]
  | slowSendNotConfigured => [.text "Slow Send not configured for this sender. Auto-pass."]
  | slowSendCheckPassed recipient elapsed delaySeconds =>
      [.text "Slow Send check passed: recipient ", .key recipient, .text " registered ",
        .number elapsed.toInt, .text "s ago (delay ", .number delaySeconds.toInt, .text "s)."]
  | friendGateNotConfigured => [.text "Friend Gate not configured. Auto-pass."]
  | friendGateBelowThreshold amount threshold =>
      [.text "Friend Gate: amount ", .number amount.toNat, .text " below threshold ",
        .number threshold.toNat, .text ". Pass."]
  | friendGateCoSigned amount threshold friendWallet =>
      [.text "Friend Gate: amount ", .number amount.toNat, .text " >= threshold ",
        .number threshold.toNat, .text ", friend ", .key friendWallet, .text " co-signed. Pass."]

def chars (message : Message) : List Char := (message.pieces.map Piece.chars).flatten

/-- The addresses that a message spells out. -/
def keys (message : Message) : List Pubkey := message.pieces.filterMap Piece.key?

def literals (message : Message) : List String := message.pieces.filterMap Piece.literal?

end Message

/-- Everything but a letter separates words. -/
def separates (character : Char) : Bool := !character.isAlpha

theorem separates_of_isDigit {character : Char} (digit : character.isDigit = true) :
    separates character = true := by
  simp only [Char.isDigit, Bool.and_eq_true, decide_eq_true_eq] at digit
  have low : 48 ≤ character.val.toNat := UInt32.le_iff_toNat_le.mp digit.1
  have high : character.val.toNat ≤ 57 := UInt32.le_iff_toNat_le.mp digit.2
  have not_upper : ¬ (65 : UInt32) ≤ character.val := by
    rw [UInt32.le_iff_toNat_le]
    show ¬ 65 ≤ _
    omega
  have not_lower : ¬ (97 : UInt32) ≤ character.val := by
    rw [UInt32.le_iff_toNat_le]
    show ¬ 97 ≤ _
    omega
  simp [separates, Char.isAlpha, Char.isUpper, Char.isLower, not_upper, not_lower]

namespace Piece

/-- A number is all separators. -/
theorem number_separates (value : Int) : ∀ character ∈ (number value).chars,
    separates character = true := by
  intro character member
  rcases List.mem_append.mp member with sign | digit
  · split at sign
    · rw [List.mem_singleton.mp sign]
      rfl
    · cases sign
  · exact separates_of_isDigit (Nat.isDigit_of_mem_toDigits (by omega) (by omega) digit)

theorem number_filled (value : Int) : (number value).chars ≠ [] := by
  simp [chars, Nat.toDigits_ne_nil]

/-- Whether a piece begins with a separator, whatever the arguments are. -/
def opens : Piece → Bool
  | text literal => literal.toList.head?.any separates
  | key _ => false
  | number _ => true

/-- Whether it ends with one. -/
def closes : Piece → Bool
  | text literal => literal.toList.getLast?.any separates
  | key _ => false
  | number _ => true

theorem meet_of_closes_or_opens {left right : Piece}
    (separated : (left.closes || right.opens) = true) :
    Words.Meet separates left.chars right.chars := by
  rcases (Bool.or_eq_true _ _).mp separated with ends | starts
  · left
    cases left with
    | text literal => exact (Option.any_eq_true separates _).mp ends
    | key address => cases ends
    | number value =>
        have last_of := List.getLast?_eq_getLast_of_ne_nil (number_filled value)
        exact ⟨_, last_of, number_separates value _ (List.getLast_mem _)⟩
  · right
    cases right with
    | text literal => exact (Option.any_eq_true separates _).mp starts
    | key address => cases starts
    | number value =>
        have first_of := List.head?_eq_some_head (number_filled value)
        exact ⟨_, first_of, number_separates value _ (List.head_mem _)⟩

end Piece

namespace Message

theorem pieces_meet (message : Message) :
    message.pieces.IsChain fun left right => (left.closes || right.opens) = true := by
  cases message <;> simp only [pieces, List.isChain_cons_cons, List.isChain_singleton, Piece.closes,
    Piece.opens] <;> decide +kernel

/-- A word stands in a message if it stands in its wording or in an address. -/
theorem infix_chars_iff {word : List Char} (whole : Words.Word separates word) (message : Message) :
    word <:+: message.chars ↔
      (∃ literal ∈ message.literals, word <:+: literal.toList) ∨
        ∃ key ∈ message.keys, word <:+: key.toBase58 := by
  have meet : (message.pieces.map Piece.chars).IsChain (Words.Meet separates) :=
    (List.isChain_map Piece.chars).mpr
      (message.pieces_meet.imp fun _ _ => Piece.meet_of_closes_or_opens)
  rw [chars, whole.infix_flatten_iff meet]
  constructor
  · intro ⟨chunk, member, found⟩
    have ⟨piece, piece_mem, same⟩ := List.mem_map.mp member
    rw [← same] at found
    cases piece with
    | text literal => exact Or.inl ⟨literal, List.mem_filterMap.mpr ⟨_, piece_mem, rfl⟩, found⟩
    | key address => exact Or.inr ⟨address, List.mem_filterMap.mpr ⟨_, piece_mem, rfl⟩, found⟩
    | number value =>
        exact absurd found (whole.not_infix_of_separators (Piece.number_separates value))
  · rintro (⟨literal, member, found⟩ | ⟨address, member, found⟩)
    · have ⟨piece, piece_mem, same⟩ := List.mem_filterMap.mp member
      cases piece with
      | text other =>
          rw [← Option.some.inj same] at found
          exact ⟨_, List.mem_map_of_mem piece_mem, found⟩
      | key _ | number _ => cases same
    · have ⟨piece, piece_mem, same⟩ := List.mem_filterMap.mp member
      cases piece with
      | key other =>
          rw [← Option.some.inj same] at found
          exact ⟨_, List.mem_map_of_mem piece_mem, found⟩
      | text _ | number _ => cases same

end Message

/-- A computation of a program that may write to the log. -/
abbrev Logging (α : Type) : Type := Logged Message Error α

/- The calls of the rules once more, with what they write. -/

def ConfigKind.loggedChecked {α β : Type} (kind : ConfigKind α) (rt : Runtime) (invalid : Error)
    (notConfigured : Message) (key : Pubkey) (account : Account) (pass : β) (body : α → Logging β) :
    Logging β :=
  if account.unconfigured then do
    Logged.msg notConfigured
    return pass
  else do
    require (account.owner = kind.program) invalid
    let value ← kind.tryDeserialize account.data
    require (key = (kind.pda rt (kind.sender value) (kind.stedeMint value)).1) invalid
    body value

theorem ConfigKind.loggedChecked_result {α β : Type} (kind : ConfigKind α) (rt : Runtime)
    (invalid : Error) (notConfigured : Message) (key : Pubkey) (account : Account) (pass : β)
    (body : α → Logging β) :
    (kind.loggedChecked rt invalid notConfigured key account pass body).result =
      kind.checked rt invalid key account pass fun value => (body value).result := by
  unfold loggedChecked checked
  split <;> simp [ok_bind]

namespace DailyLimit

def loggedRolled (slot : UInt64) (dailyLimit : DailyLimit) : Logging DailyLimit :=
  if SLOTS_PER_DAY ≤ Checked.saturatingSubU64 slot dailyLimit.windowStartSlot then do
    let dailyLimit := { dailyLimit with spentToday := 0, windowStartSlot := slot }
    Logged.msg (.dailyWindowReset dailyLimit.sender)
    return dailyLimit
  else return dailyLimit

def loggedCheckTransferHandler (rt : Runtime) (clock : Clock) (key : Pubkey) (account : Account)
    (amount : UInt64) : Logging Account :=
  kind.loggedChecked rt (.dailyLimit .invalidConfigAccount) .dailyLimitNotConfigured key account
    account fun dailyLimit => do
      let dailyLimit ← loggedRolled clock.slot dailyLimit
      let newTotal ← okOr (Checked.addU64 dailyLimit.spentToday amount) (.dailyLimit .overflow)
      require (newTotal ≤ dailyLimit.limit) (.dailyLimit .dailyLimitExceeded)
      let dailyLimit := { dailyLimit with spentToday := newTotal }
      Logged.msg (.dailyLimitCheckPassed dailyLimit.spentToday amount dailyLimit.limit)
      kind.store dailyLimit account

def loggedCheckTransfer (rt : Runtime) (clock : Clock) (ledger : Ledger) (dailyLimit : AccountMeta)
    (amount : UInt64) : Logging Ledger := do
  require (dailyLimit.isWritable) (.anchor .constraintMut)
  let account ←
    loggedCheckTransferHandler rt clock dailyLimit.pubkey (ledger dailyLimit.pubkey) amount
  return ledger.write dailyLimit.pubkey account

theorem loggedRolled_result (slot : UInt64) (dailyLimit : DailyLimit) :
    (loggedRolled slot dailyLimit).result = .ok (dailyLimit.rolled slot) := by
  unfold loggedRolled rolled
  split <;> simp [ok_bind]

theorem loggedCheckTransfer_result (rt : Runtime) (clock : Clock) (ledger : Ledger)
    (dailyLimit : AccountMeta) (amount : UInt64) :
    (loggedCheckTransfer rt clock ledger dailyLimit amount).result =
      checkTransfer rt clock ledger dailyLimit amount := by
  simp only [loggedCheckTransfer, loggedCheckTransferHandler, Logged.result_bind,
    Logged.result_silent, Logged.result_pure, Logged.result_msg, ConfigKind.loggedChecked_result,
    loggedRolled_result, ok_bind, checkTransfer, checkTransferHandler, spend, bind_assoc]
  rfl

end DailyLimit

namespace BlockList

def loggedCheckTransfer (rt : Runtime) (ledger : Ledger) (blockList : AccountMeta)
    (recipientWallet : Pubkey) : Logging Unit :=
  kind.loggedChecked rt (.blockHandle .invalidConfigAccount) .blockListNotConfigured
    blockList.pubkey (ledger blockList.pubkey) () fun blockList => do
      require (blockList.find recipientWallet = none) (.blockHandle .recipientBlocked)
      Logged.msg (.blockListCheckPassed recipientWallet blockList.sender)

theorem loggedCheckTransfer_result (rt : Runtime) (ledger : Ledger) (blockList : AccountMeta)
    (recipientWallet : Pubkey) :
    (loggedCheckTransfer rt ledger blockList recipientWallet).result =
      checkTransfer rt ledger blockList recipientWallet := by
  simp only [loggedCheckTransfer, ConfigKind.loggedChecked_result, Logged.result_bind,
    Logged.result_silent, Logged.result_msg, checkTransfer, checkTransferHandler]
  exact congrArg _ (funext fun blockList => bind_pure _)

end BlockList

namespace Cooloff

def loggedCheckTransferHandler (rt : Runtime) (clock : Clock) (key : Pubkey) (account : Account)
    (amount : UInt64) : Logging Account :=
  kind.loggedChecked rt (.cooloff .invalidConfigAccount) .cooloffNotConfigured key account account
    fun cooloff =>
      if amount < cooloff.threshold then do
        Logged.msg (.cooloffBelowThreshold amount cooloff.threshold)
        return account
      else do
        let now := clock.unixTimestamp
        let elapsed ← okOr (Checked.subI64 now cooloff.lastLargeTransferAt) (.cooloff .overflow)
        require (cooloff.durationSeconds ≤ elapsed) (.cooloff .cooloffActive)
        Logged.msg (.cooloffLargeApproved amount cooloff.durationSeconds)
        kind.store { cooloff with lastLargeTransferAt := now } account

def loggedCheckTransfer (rt : Runtime) (clock : Clock) (ledger : Ledger) (cooloff : AccountMeta)
    (amount : UInt64) : Logging Ledger := do
  require (cooloff.isWritable) (.anchor .constraintMut)
  let account ← loggedCheckTransferHandler rt clock cooloff.pubkey (ledger cooloff.pubkey) amount
  return ledger.write cooloff.pubkey account

theorem loggedCheckTransfer_result (rt : Runtime) (clock : Clock) (ledger : Ledger)
    (cooloff : AccountMeta) (amount : UInt64) :
    (loggedCheckTransfer rt clock ledger cooloff amount).result =
      checkTransfer rt clock ledger cooloff amount := by
  simp only [loggedCheckTransfer, loggedCheckTransferHandler, Logged.result_bind, Logged.result_ite,
    Logged.result_silent, Logged.result_pure, Logged.result_msg, ConfigKind.loggedChecked_result,
    ok_bind, checkTransfer, checkTransferHandler]
  rfl

end Cooloff

namespace SlowSend

def loggedCheckTransferHandler (rt : Runtime) (clock : Clock) (configKey : Pubkey) (config : Account)
    (contactKey : Pubkey) (contact : Account) (destinationToken : Account) : Logging Unit :=
  if config.unconfigured then Logged.msg .slowSendNotConfigured
  else do
    require (8 + SlowSendConfig.kind.codec.width ≤ config.data.length) (.slowSend .invalidDestination)
    let configSender ← readPubkey config.data 8 (.slowSend .invalidDestination)
    let configStedeMint ← readPubkey config.data 40 (.slowSend .invalidDestination)
    let delaySeconds ← readI64 config.data 72
    let _configBump ← readByte config.data 80
    require (configKey = (SlowSendConfig.kind.pda rt configSender configStedeMint).1)
      (.slowSend .invalidDestination)
    require (64 ≤ destinationToken.data.length) (.slowSend .invalidDestination)
    let recipient ← readPubkey destinationToken.data 32 (.slowSend .invalidDestination)
    require (contactKey = (SlowSendContact.pda rt configSender recipient configStedeMint).1)
      (.slowSend .invalidDestination)
    require (contact.unconfigured = false) (.slowSend .recipientNotRegistered)
    require (16 ≤ contact.data.length) (.slowSend .recipientNotRegistered)
    let firstContactAt ← readI64 contact.data 8
    let elapsed ← okOr (Checked.subI64 clock.unixTimestamp firstContactAt) (.slowSend .overflow)
    require (delaySeconds ≤ elapsed) (.slowSend .waitingPeriodActive)
    Logged.msg (.slowSendCheckPassed recipient elapsed delaySeconds)

def loggedCheckTransfer (rt : Runtime) (clock : Clock) (ledger : Ledger)
    (config contact destinationToken : AccountMeta) : Logging Unit :=
  loggedCheckTransferHandler rt clock config.pubkey (ledger config.pubkey) contact.pubkey
    (ledger contact.pubkey) (ledger destinationToken.pubkey)

theorem loggedCheckTransfer_result (rt : Runtime) (clock : Clock) (ledger : Ledger)
    (config contact destinationToken : AccountMeta) :
    (loggedCheckTransfer rt clock ledger config contact destinationToken).result =
      checkTransfer rt clock ledger config contact destinationToken := by
  have last (first : Except Error Unit) : (first >>= fun _ => .ok ()) = first := bind_pure first
  simp only [loggedCheckTransfer, loggedCheckTransferHandler, Logged.result_bind, Logged.result_ite,
    Logged.result_silent, Logged.result_msg, last, checkTransfer, checkTransferHandler]

end SlowSend

namespace FriendGate

def loggedCheckTransferHandler (rt : Runtime) (env : Env) (key : Pubkey) (config : Account)
    (instructionsSysvar : Pubkey) (amount : UInt64) : Logging Unit :=
  if config.unconfigured then Logged.msg .friendGateNotConfigured
  else do
    require (8 + kind.codec.width ≤ config.data.length) (.friendGate .sysvarReadFailed)
    let configSender ← readPubkey config.data 8 (.friendGate .sysvarReadFailed)
    let configStedeMint ← readPubkey config.data 40 (.friendGate .sysvarReadFailed)
    let threshold ← readU64 config.data 72
    let friendWallet ← readPubkey config.data 80 (.friendGate .sysvarReadFailed)
    require (key = (kind.pda rt configSender configStedeMint).1) (.friendGate .sysvarReadFailed)
    if amount < threshold then Logged.msg (.friendGateBelowThreshold amount threshold)
    else do
      require (instructionsSysvar = Programs.instructionsSysvar) (.friendGate .sysvarReadFailed)
      require (friendSigned env friendWallet) (.friendGate .friendSignatureRequired)
      Logged.msg (.friendGateCoSigned amount threshold friendWallet)

def loggedCheckTransfer (rt : Runtime) (env : Env) (ledger : Ledger)
    (friendGate instructionsSysvar : AccountMeta) (amount : UInt64) : Logging Unit :=
  loggedCheckTransferHandler rt env friendGate.pubkey (ledger friendGate.pubkey)
    instructionsSysvar.pubkey amount

theorem loggedCheckTransfer_result (rt : Runtime) (env : Env) (ledger : Ledger)
    (friendGate instructionsSysvar : AccountMeta) (amount : UInt64) :
    (loggedCheckTransfer rt env ledger friendGate instructionsSysvar amount).result =
      checkTransfer rt env ledger friendGate instructionsSysvar amount := by
  have last (first : Except Error Unit) : (first >>= fun _ => .ok ()) = first := bind_pure first
  simp only [loggedCheckTransfer, loggedCheckTransferHandler, Logged.result_bind, Logged.result_ite,
    Logged.result_silent, Logged.result_msg, last, checkTransfer, checkTransferHandler]

end FriendGate

end Stede
