import Stede.Hook.Simulation
import Stede.Sdk.Transfer

set_option autoImplicit false

namespace Stede

/-- The name under which an Anchor program logs an error. Errors of the runtime and
of programs written without Anchor have none. -/
def Error.anchorName : Error → Option String
  | dailyLimit .dailyLimitExceeded => some "DailyLimitExceeded"
  | dailyLimit .zeroLimit => some "ZeroLimit"
  | dailyLimit .overflow => some "Overflow"
  | dailyLimit .invalidConfigAccount => some "InvalidConfigAccount"
  | blockHandle .recipientBlocked => some "RecipientBlocked"
  | blockHandle .blockListFull => some "BlockListFull"
  | blockHandle .alreadyBlocked => some "AlreadyBlocked"
  | blockHandle .notBlocked => some "NotBlocked"
  | blockHandle .zeroAddress => some "ZeroAddress"
  | blockHandle .invalidConfigAccount => some "InvalidConfigAccount"
  | cooloff .cooloffActive => some "CooloffActive"
  | cooloff .zeroThreshold => some "ZeroThreshold"
  | cooloff .invalidDuration => some "InvalidDuration"
  | cooloff .overflow => some "Overflow"
  | cooloff .invalidConfigAccount => some "InvalidConfigAccount"
  | slowSend .recipientNotRegistered => some "RecipientNotRegistered"
  | slowSend .waitingPeriodActive => some "WaitingPeriodActive"
  | slowSend .invalidDelay => some "InvalidDelay"
  | slowSend .overflow => some "Overflow"
  | slowSend .invalidDestination => some "InvalidDestination"
  | timeWindow .withinBlockedWindow => some "WithinBlockedWindow"
  | timeWindow .invalidHour => some "InvalidHour"
  | friendGate .friendSignatureRequired => some "FriendSignatureRequired"
  | friendGate .zeroThreshold => some "ZeroThreshold"
  | friendGate .zeroFriend => some "ZeroFriend"
  | friendGate .friendIsSelf => some "FriendIsSelf"
  | friendGate .sysvarReadFailed => some "SysvarReadFailed"
  | vault .paused => some "Paused"
  | vault .zeroAmount => some "ZeroAmount"
  | vault .insufficientLocked => some "InsufficientLocked"
  | vault .overflow => some "Overflow"
  | vault .unauthorized => some "Unauthorized"
  | vault .mintMismatch => some "MintMismatch"
  | handle .tooShort => some "TooShort"
  | handle .tooLong => some "TooLong"
  | handle .invalidCharacters => some "InvalidCharacters"
  | handle .startsWithDigit => some "StartsWithDigit"
  | handle .reserved => some "Reserved"
  | handle .notOwner => some "NotOwner"
  | anchor .accountDiscriminatorNotFound => some "AccountDiscriminatorNotFound"
  | anchor .accountDiscriminatorMismatch => some "AccountDiscriminatorMismatch"
  | anchor .accountDidNotDeserialize => some "AccountDidNotDeserialize"
  | anchor .accountDidNotSerialize => some "AccountDidNotSerialize"
  | anchor .accountNotInitialized => some "AccountNotInitialized"
  | anchor .accountOwnedByWrongProgram => some "AccountOwnedByWrongProgram"
  | anchor .accountNotEnoughKeys => some "AccountNotEnoughKeys"
  | anchor .accountNotSigner => some "AccountNotSigner"
  | anchor .constraintSigner => some "ConstraintSigner"
  | anchor .constraintMut => some "ConstraintMut"
  | anchor .constraintHasOne => some "ConstraintHasOne"
  | anchor .constraintSeeds => some "ConstraintSeeds"
  | anchor .constraintSpace => some "ConstraintSpace"
  | anchor .constraintOwner => some "ConstraintOwner"
  | anchor .constraintRentExempt => some "ConstraintRentExempt"
  | anchor .constraintTokenMint => some "ConstraintTokenMint"
  | anchor .constraintTokenOwner => some "ConstraintTokenOwner"
  | anchor .constraintTokenTokenProgram => some "ConstraintTokenTokenProgram"
  | anchor .invalidProgramId => some "InvalidProgramId"
  | program _ => none

/-- The name by which the client calls a rule. -/
def Hook.Rule.name : Hook.Rule → String
  | dailyLimit => "daily_limit"
  | blockHandle => "block_list"
  | cooloff => "cooloff"
  | newRecipientDelay => "slow_send"
  | timeWindow => "night_mode"
  | friendGate => "friend_gate"

/-- The errors with which a rule refuses a transfer, as opposed to those of its
bookkeeping. -/
def Hook.Rule.refusals : Hook.Rule → List Error
  | dailyLimit => [.dailyLimit .dailyLimitExceeded]
  | blockHandle => [.blockHandle .recipientBlocked]
  | cooloff => [.cooloff .cooloffActive]
  | newRecipientDelay => [.slowSend .recipientNotRegistered, .slowSend .waitingPeriodActive]
  | timeWindow => [.timeWindow .withinBlockedWindow]
  | friendGate => [.friendGate .friendSignatureRequired]

end Stede

/- `StedeClient.previewTransfer` and how it reads the logs of a simulation. -/
namespace Stede.Sdk

open Hook (Rejects)

/-- `error` is left out of a preview when it is false. -/
structure TransferPreview where
  approved : Bool
  refusedBy : Option String
  message : String
  error : Bool
deriving DecidableEq

/-- `logs.includes(name)`. -/
def includes (logs : List Char) (name : String) : Bool := decide (name.toList <:+: logs)

def classifyRefusal (logs : List Char) : Option String :=
  if includes logs "DailyLimitExceeded" then some "daily_limit"
  else if includes logs "RecipientBlocked" then some "block_list"
  else if includes logs "CooloffActive" then some "cooloff"
  else if includes logs "RecipientNotRegistered" || includes logs "WaitingPeriodActive" then
    some "slow_send"
  else if includes logs "WithinBlockedWindow" then some "night_mode"
  else if includes logs "FriendSignatureRequired" then some "friend_gate"
  else none

def refusalMessage (refusedBy : String) : String :=
  match refusedBy with
  | "daily_limit" => "This transfer would exceed your daily limit."
  | "block_list" => "This recipient is on your block list."
  | "cooloff" => "You're in a cool-off period after a recent large transfer."
  | "slow_send" =>
      "This is a new recipient. Register them and wait out the delay before sending."
  | "night_mode" => "Transfers are blocked during your night mode hours."
  | "friend_gate" => "This transfer needs your friend to co-sign."
  | _ => "A rule blocked this transfer."

def unexpectedErrorMessage (logs : List Char) : String :=
  if includes logs "AccountNotInitialized" || includes logs "could not find account" then
    "Couldn't simulate this transfer — an account it needs isn't set up yet. Try again."
  else if includes logs "insufficient" || includes logs "Insufficient" then
    "Insufficient balance to cover this transfer."
  else "Couldn't simulate this transfer right now. Please try again."

/-- What a preview makes of the logs of a failure. -/
def failedPreview (logs : List Char) : TransferPreview :=
  match classifyRefusal logs with
  | some refusedBy => ⟨false, some refusedBy, refusalMessage refusedBy, false⟩
  | none => ⟨false, none, unexpectedErrorMessage logs, true⟩

/-- The logs of a simulation: the messages, then the name of the error it ended with. -/
def simulationLogs (simulation : Logging Ledger) : List (List Char) :=
  simulation.messages.map Message.chars ++
    match simulation.result with
    | .ok _ => []
    | .error reason => (reason.anchorName.map String.toList).toList

def simulatedPreview (simulation : Logging Ledger) : TransferPreview :=
  match simulation.result with
  | .ok _ => ⟨true, none, "Transfer would succeed.", false⟩
  | .error _ => failedPreview (['\n'].intercalate (simulationLogs simulation))

section Client

variable {rt : Runtime} (spl : SplToken rt)

/-- `simulateTransaction` on the transfer alone. -/
def simulateTransaction (world : World) (transferIx : Transfer) : Logging Ledger :=
  Hook.loggedTransferChecked spl.token ⟨world.clock, [transferIx.metas], 0⟩ world.ledger world.lists
    transferIx

/-- `StedeClient.previewTransfer` by the wallet `sender`; `describe` is the text of an
exception that building the instruction ends with. -/
def previewTransfer (describe : Error → String) (world : World) (sender : Pubkey)
    (toHandle : String) (stedeMint : Pubkey) (amount : UInt64) (decimals : UInt8) :
    Except Error TransferPreview :=
  match resolveHandle rt world.handles toHandle with
  | none => .ok ⟨false, none, "Handle @" ++ toHandle ++ " is not claimed.", false⟩
  | some recipientRecord => do
      let sourceAta ← getStedeAta spl sender stedeMint
      let destAta ← getStedeAta spl recipientRecord.owner stedeMint
      match createTransferChecked rt world sourceAta stedeMint destAta sender amount decimals with
      | .ok transferIx => return simulatedPreview (simulateTransaction spl world transferIx)
      | .error reason => return failedPreview (describe reason).toList

/-- A preview comes to simulating this instruction. -/
def Simulates (world : World) (sender : Pubkey) (toHandle : String) (stedeMint : Pubkey)
    (amount : UInt64) (decimals : UInt8) (transferIx : Transfer) : Prop :=
  ∃ recipient, (resolveHandle rt world.handles toHandle).map HandleRegistry.Handle.owner =
      some recipient ∧
    spl.isOnCurve sender = true ∧ spl.isOnCurve recipient = true ∧
    createTransferChecked rt world (stedeAta rt sender stedeMint) stedeMint
      (stedeAta rt recipient stedeMint) sender amount decimals = .ok transferIx

/-- What the transfer would come to. -/
def outcome (world : World) (transferIx : Transfer) : Except Error Ledger :=
  Hook.transferChecked spl.token ⟨world.clock, [transferIx.metas], 0⟩ world.ledger world.lists
    transferIx

/-- The rule is the first to reject the transfer. -/
def RejectedBy (world : World) (transferIx : Transfer) (rule : Hook.Rule) (reason : Error) : Prop :=
  Rejects spl.token ⟨world.clock, [transferIx.metas], 0⟩ world.ledger world.lists transferIx rule
    reason

/-- The preview says what the transfer would come to, where a rule is named for the
errors that `counts` admits. -/
structure Reports (counts : Hook.Rule → Error → Prop) (world : World) (transferIx : Transfer)
    (preview : TransferPreview) : Prop where
  approved : ∀ after, outcome spl world transferIx = .ok after → preview.approved = true
  refused : ∀ rule reason, RejectedBy spl world transferIx rule reason → counts rule reason →
    preview.approved = false ∧ preview.refusedBy = some rule.name
  failed : ∀ reason, outcome spl world transferIx = .error reason →
    (∀ rule, RejectedBy spl world transferIx rule reason → ¬ counts rule reason) →
      preview.approved = false ∧ preview.refusedBy = none ∧ preview.error = true

end Client

/-- The names that `classifyRefusal` looks for, in its order. -/
def refusalNames : List (String × Hook.Rule) :=
  [("DailyLimitExceeded", .dailyLimit), ("RecipientBlocked", .blockHandle),
    ("CooloffActive", .cooloff), ("RecipientNotRegistered", .newRecipientDelay),
    ("WaitingPeriodActive", .newRecipientDelay), ("WithinBlockedWindow", .timeWindow),
    ("FriendSignatureRequired", .friendGate)]

theorem classifyRefusal_eq (logs : List Char) :
    classifyRefusal logs =
      (refusalNames.find? fun entry => includes logs entry.1).map fun entry => entry.2.name := by
  simp only [classifyRefusal, refusalNames, List.find?_cons, List.find?_nil]
  cases includes logs "DailyLimitExceeded" <;> [skip; rfl]
  cases includes logs "RecipientBlocked" <;> [skip; rfl]
  cases includes logs "CooloffActive" <;> [skip; rfl]
  cases includes logs "RecipientNotRegistered" <;> [skip; rfl]
  cases includes logs "WaitingPeriodActive" <;> [skip; rfl]
  cases includes logs "WithinBlockedWindow" <;> [skip; rfl]
  cases includes logs "FriendSignatureRequired" <;> rfl

theorem classifyRefusal_eq_none {logs : List Char} :
    classifyRefusal logs = none ↔ ∀ entry ∈ refusalNames, ¬ entry.1.toList <:+: logs := by
  simp [classifyRefusal_eq, includes]

theorem refusalNames_whole : ∀ entry ∈ refusalNames, Words.Word separates entry.1.toList := by
  have filled : ∀ entry ∈ refusalNames, entry.1.toList ≠ [] := by decide +kernel
  have letters : ∀ entry ∈ refusalNames,
      (entry.1.toList.all fun character => !separates character) = true := by decide +kernel
  intro entry member
  refine ⟨filled entry member, fun character inside => ?_⟩
  have letter := List.all_eq_true.mp (letters entry member) character inside
  rwa [Bool.not_eq_true'] at letter

/-- The wording of no message contains the name of a refusal. -/
theorem literals_silent (message : Message) : ∀ literal ∈ message.literals,
    ∀ entry ∈ refusalNames, ¬ entry.1.toList <:+: literal.toList := by
  cases message <;> simp only [Message.literals, Message.pieces, List.filterMap_cons, Piece.literal?,
    List.filterMap_nil] <;> decide +kernel

/-- A message whose addresses do not read as a refusal does not either. -/
theorem message_silent {message : Message}
    (silent : ∀ key ∈ message.keys, classifyRefusal key.toBase58 = none) :
    classifyRefusal message.chars = none := by
  rw [classifyRefusal_eq_none]
  intro entry member found
  rcases (message.infix_chars_iff (refusalNames_whole entry member)).mp found with
    ⟨literal, literal_mem, inside⟩ | ⟨key, key_mem, inside⟩
  · exact literals_silent message literal literal_mem entry member inside
  · exact classifyRefusal_eq_none.mp (silent key key_mem) entry member inside

/-- Silent lines in front of the last do not count. -/
theorem classifyRefusal_join {lines : List (List Char)} {last : List (List Char)}
    (silent : ∀ line ∈ lines, classifyRefusal line = none) :
    classifyRefusal (['\n'].intercalate (lines ++ last)) =
      classifyRefusal (['\n'].intercalate last) := by
  have same : ∀ entry ∈ refusalNames, includes (['\n'].intercalate (lines ++ last)) entry.1 =
      includes (['\n'].intercalate last) entry.1 := by
    intro entry member
    have whole := refusalNames_whole entry member
    rw [includes, includes, decide_eq_decide, whole.infix_intercalate_iff rfl,
      whole.infix_intercalate_iff rfl]
    constructor
    · intro ⟨line, line_mem, found⟩
      rcases List.mem_append.mp line_mem with before | there
      · exact absurd found (classifyRefusal_eq_none.mp (silent line before) entry member)
      · exact ⟨line, there, found⟩
    · intro ⟨line, there, found⟩
      exact ⟨line, List.mem_append_right _ there, found⟩
  rw [classifyRefusal_eq, classifyRefusal_eq, List.find?_congr same]

/-- The name of an error reads as the refusal of a rule exactly if the error is one. -/
theorem classifyRefusal_anchorName (reason : Error) :
    (∀ rule, reason ∉ Hook.Rule.refusals rule) ∧
        (reason.anchorName.bind fun name => classifyRefusal name.toList) = none ∨
      ∃ rule, reason ∈ Hook.Rule.refusals rule ∧
        (reason.anchorName.bind fun name => classifyRefusal name.toList) = some rule.name := by
  have each : ((∀ rule ∈ Hook.Rule.all, reason ∉ Hook.Rule.refusals rule) ∧
        (reason.anchorName.bind fun name => classifyRefusal name.toList) = none) ∨
      ∃ rule ∈ Hook.Rule.all, reason ∈ Hook.Rule.refusals rule ∧
        (reason.anchorName.bind fun name => classifyRefusal name.toList) = some rule.name := by
    cases reason with
    | _ error => cases error <;> decide +kernel
  cases each with
  | inl other => exact Or.inl ⟨fun rule => other.1 rule rule.mem_all, other.2⟩
  | inr refusal =>
      have ⟨rule, _, member, name⟩ := refusal
      exact Or.inr ⟨rule, member, name⟩

theorem refusals_own {rule : Hook.Rule} {reason : Error} (member : reason ∈ rule.refusals) :
    reason.rule? = some rule := by
  have own : ∀ reason ∈ rule.refusals, reason.rule? = some rule := by cases rule <;> decide
  exact own reason member

/-- With silent messages the preview goes by the error alone. -/
theorem classifyRefusal_logs {simulation : Logging Ledger} {reason : Error}
    (silent : ∀ message ∈ simulation.messages, ∀ key ∈ message.keys,
      classifyRefusal key.toBase58 = none)
    (failed : simulation.result = .error reason) :
    classifyRefusal (['\n'].intercalate (simulationLogs simulation)) =
      reason.anchorName.bind fun name => classifyRefusal name.toList := by
  have lines : ∀ line ∈ simulation.messages.map Message.chars, classifyRefusal line = none := by
    intro line member
    have ⟨message, message_mem, same⟩ := List.mem_map.mp member
    rw [← same]
    exact message_silent (silent message message_mem)
  rw [simulationLogs, failed, classifyRefusal_join lines]
  cases named : reason.anchorName with
  | none =>
      simp only [named, Option.map_none, Option.toList_none]
      decide +kernel
  | some name => simp [named, List.intercalate]

section Preview

variable {rt : Runtime} {spl : SplToken rt}

theorem previewTransfer_of_simulates {describe : Error → String} {world : World} {sender : Pubkey}
    {toHandle : String} {stedeMint : Pubkey} {amount : UInt64} {decimals : UInt8}
    {transferIx : Transfer}
    (simulates : Simulates spl world sender toHandle stedeMint amount decimals transferIx) :
    previewTransfer spl describe world sender toHandle stedeMint amount decimals =
      .ok (simulatedPreview (simulateTransaction spl world transferIx)) := by
  have ⟨recipient, resolved, signer, owner, built⟩ := simulates
  have ⟨handle, found, same⟩ := Option.map_eq_some_iff.mp resolved
  simp only [previewTransfer, found, getStedeAta, same]
  rw [require_of_true signer, ok_bind, pure_bind, require_of_true owner, ok_bind, pure_bind, built]
  rfl

/-- As long as no address that the programs log reads as the name of a refusal, a
preview names the rule that refuses, and only that. -/
theorem preview_reports (rt : Runtime) (spl : SplToken rt) (describe : Error → String)
    (world : World) (sender : Pubkey) (toHandle : String) (stedeMint : Pubkey) (amount : UInt64)
    (decimals : UInt8) (transferIx : Transfer)
    (simulates : Simulates spl world sender toHandle stedeMint amount decimals transferIx)
    (foreign : ∀ ledger transfer, Fails Hook.Foreign (spl.token.move ledger transfer))
    (silent : ∀ message ∈ (simulateTransaction spl world transferIx).messages,
      ∀ key ∈ message.keys, classifyRefusal key.toBase58 = none) :
    ∃ preview, previewTransfer spl describe world sender toHandle stedeMint amount decimals =
        .ok preview ∧
      Reports spl (fun rule reason => reason ∈ rule.refusals) world transferIx preview := by
  have simulated : (simulateTransaction spl world transferIx).result = outcome spl world transferIx :=
    Hook.loggedTransferChecked_result _ _ _ _ _
  have preview_failed {reason : Error} (failed : outcome spl world transferIx = .error reason) :
      simulatedPreview (simulateTransaction spl world transferIx) = failedPreview
        (['\n'].intercalate (simulationLogs (simulateTransaction spl world transferIx))) := by
    rw [simulatedPreview, simulated, failed]
  refine ⟨_, previewTransfer_of_simulates simulates, ?_, ?_, ?_⟩
  · intro after settled
    rw [simulatedPreview, simulated, settled]
  · intro rule reason rejected refusal
    have failed : outcome spl world transferIx = .error reason := rejected.failed
    have named : classifyRefusal (['\n'].intercalate (simulationLogs
        (simulateTransaction spl world transferIx))) = some rule.name := by
      rw [classifyRefusal_logs silent (simulated.trans failed)]
      rcases classifyRefusal_anchorName reason with ⟨other, _⟩ | ⟨rule', refusal', name⟩
      · exact absurd refusal (other rule)
      · have same : rule' = rule :=
          Option.some.inj ((refusals_own refusal').symm.trans (refusals_own refusal))
        rw [name, same]
    rw [preview_failed failed, failedPreview, named]
    exact ⟨rfl, rfl⟩
  · intro reason failed unrefused
    have unnamed : classifyRefusal (['\n'].intercalate (simulationLogs
        (simulateTransaction spl world transferIx))) = none := by
      rw [classifyRefusal_logs silent (simulated.trans failed)]
      rcases classifyRefusal_anchorName reason with ⟨_, name⟩ | ⟨rule, refusal, _⟩
      · exact name
      · have rejected : RejectedBy spl world transferIx rule reason :=
          Hook.rejects_of_failed (foreign _ _) (refusals_own refusal) failed
        exact absurd refusal (unrefused rule rejected)
    rw [preview_failed failed, failedPreview, unnamed]
    exact ⟨rfl, rfl, rfl⟩

end Preview

/- Wallet 1 previews transfers to the handle "kay" on two chains. -/
section Sample

open Stede.Runtime (sampleKey)

/-- Wallet 1 holds all the tokens there can be, and the handle is the recipient's. -/
def sampleWorld (recipient : Pubkey) (configure : Ledger → Ledger) : World where
  handles := ⟨fun _ => 0, fun key =>
    if key = deriveHandlePda .sample "kay" then some (.handle ⟨recipient, "kay", 0, 0⟩) else none⟩
  ledger := configure ((Hook.sampleLedger.write (stedeAta .sample (sampleKey 1) (sampleKey 2))
    (Token2022.setAmount (plainOpened (sampleKey 2) (sampleKey 1)) (2 ^ 64 - 1))).write
      (stedeAta .sample recipient (sampleKey 2)) (plainOpened (sampleKey 2) recipient))
  lists := sampleMissing.lists
  clock := sampleMissing.clock

/-- One unit of a daily limit that no transfer exceeds is spent. -/
def sampleSpent : World :=
  sampleWorld (sampleKey 5) fun ledger =>
    ledger.write (DailyLimit.kind.pda .sample (sampleKey 1) (sampleKey 2)).1
      (DailyLimit.kind.created .sample ⟨sampleKey 1, sampleKey 2, 2 ^ 64 - 1, 1, 500, 0⟩)

/-- Wallet 7 is blocked, and has to sign for what reaches 10. -/
def sampleGated (recipient : Pubkey) : World :=
  sampleWorld recipient fun ledger =>
    (ledger.write (BlockList.kind.pda .sample (sampleKey 1) (sampleKey 2)).1
        (BlockList.kind.created .sample ⟨sampleKey 1, sampleKey 2,
          ⟨sampleKey 7 :: List.replicate 31 .default, rfl⟩, 1, 0⟩)).write
      (FriendGate.kind.pda .sample (sampleKey 1) (sampleKey 2)).1
      (FriendGate.kind.created .sample ⟨sampleKey 1, sampleKey 2, 10, sampleKey 7, 0⟩)

/-- An address that reads as the name of an error. -/
def spelling : Pubkey := .ofBase58 "KayRecipientNotRegistered111111111111111111"

def sampleIx (recipient : Pubkey) (amount : UInt64) (world : World) : Transfer :=
  (⟨sampleKey 1, recipient, sampleKey 2, amount, 0⟩ : Request).instruction .sample world

theorem plain_foreign (rt : Runtime) (ledger : Ledger) (transfer : Transfer) :
    Fails Hook.Foreign ((Token2022.plain rt).move ledger transfer) := by
  simp only [Token2022.plain, fails_bind, fails_require, fails_pure]
  exact ⟨fun _ => rfl, fun _ _ => ⟨fun _ => rfl, fun _ _ => trivial⟩⟩

def gatedIx (recipient : Pubkey) : Transfer := sampleIx recipient 50 (sampleGated recipient)

theorem gated_evaluates :
    ((resolveHandle .sample (sampleGated (sampleKey 5)).handles "kay").map
        HandleRegistry.Handle.owner = some (sampleKey 5) ∧
      plainSpl.isOnCurve (sampleKey 1) = true ∧ plainSpl.isOnCurve (sampleKey 5) = true ∧
      createTransferChecked .sample (sampleGated (sampleKey 5)) (stedeAta .sample (sampleKey 1)
        (sampleKey 2)) (sampleKey 2) (stedeAta .sample (sampleKey 5) (sampleKey 2)) (sampleKey 1) 50
          0 = .ok (gatedIx (sampleKey 5))) ∧
      ∀ message ∈ (simulateTransaction plainSpl (sampleGated (sampleKey 5))
        (gatedIx (sampleKey 5))).messages,
          ∀ key ∈ message.keys, classifyRefusal key.toBase58 = none := by
  decide +kernel

theorem preview_reports_sample :
    ∃ preview, previewTransfer plainSpl (fun _ => "") (sampleGated (sampleKey 5)) (sampleKey 1) "kay"
        (sampleKey 2) 50 0 = .ok preview ∧
      Reports plainSpl (fun rule reason => reason ∈ rule.refusals) (sampleGated (sampleKey 5))
        (gatedIx (sampleKey 5)) preview :=
  preview_reports .sample plainSpl _ _ _ _ _ _ _ _ ⟨sampleKey 5, gated_evaluates.1⟩
    (plain_foreign .sample) gated_evaluates.2

/-- A rule rejects with an error that counts, and the preview does not name the rule. -/
theorem sample_misreports {world : World} {amount : UInt64} {transferIx : Transfer}
    {rule : Hook.Rule} {reason : Error} {counts : Hook.Rule → Error → Prop} {named : Option String}
    (simulates : Simulates plainSpl world (sampleKey 1) "kay" (sampleKey 2) amount 0 transferIx)
    (belongs : reason.rule? = some rule) (counted : counts rule reason)
    (failed : (outcome plainSpl world transferIx).map (fun _ => ()) = .error reason)
    (shown : (simulatedPreview (simulateTransaction plainSpl world transferIx)).refusedBy = named)
    (other : named ≠ some rule.name) :
    ∃ preview, previewTransfer plainSpl (fun _ => "") world (sampleKey 1) "kay" (sampleKey 2) amount 0 =
        .ok preview ∧ preview.refusedBy = named ∧ ¬ Reports plainSpl counts world transferIx preview := by
  refine ⟨_, previewTransfer_of_simulates simulates, shown, fun reports => ?_⟩
  cases came : outcome plainSpl world transferIx with
  | ok after =>
      rw [came] at failed
      cases failed
  | error actual =>
      rw [came] at failed
      have same : actual = reason := Except.error.inj failed
      rw [same] at came
      have rejected : RejectedBy plainSpl world transferIx rule reason :=
        Hook.rejects_of_failed (plain_foreign .sample _ _) belongs came
      have ⟨_, naming⟩ := reports.refused rule reason rejected counted
      exact other (shown.symm.trans naming)

def spentIx : Transfer := sampleIx (sampleKey 5) (2 ^ 64 - 1) sampleSpent

theorem spent_evaluates :
    ((resolveHandle .sample sampleSpent.handles "kay").map HandleRegistry.Handle.owner =
        some (sampleKey 5) ∧
      plainSpl.isOnCurve (sampleKey 1) = true ∧ plainSpl.isOnCurve (sampleKey 5) = true ∧
      createTransferChecked .sample sampleSpent (stedeAta .sample (sampleKey 1) (sampleKey 2))
        (sampleKey 2) (stedeAta .sample (sampleKey 5) (sampleKey 2)) (sampleKey 1) (2 ^ 64 - 1) 0 =
          .ok spentIx) ∧
      (outcome plainSpl sampleSpent spentIx).map (fun _ => ()) = .error (.dailyLimit .overflow) ∧
      (simulatedPreview (simulateTransaction plainSpl sampleSpent spentIx)).refusedBy = none := by
  decide +kernel

theorem spelling_evaluates :
    ((resolveHandle .sample (sampleGated spelling).handles "kay").map HandleRegistry.Handle.owner =
        some spelling ∧
      plainSpl.isOnCurve (sampleKey 1) = true ∧ plainSpl.isOnCurve spelling = true ∧
      createTransferChecked .sample (sampleGated spelling) (stedeAta .sample (sampleKey 1)
        (sampleKey 2)) (sampleKey 2) (stedeAta .sample spelling (sampleKey 2)) (sampleKey 1) 50 0 =
          .ok (gatedIx spelling)) ∧
      (outcome plainSpl (sampleGated spelling) (gatedIx spelling)).map (fun _ => ()) =
        .error (.friendGate .friendSignatureRequired) ∧
      (simulatedPreview (simulateTransaction plainSpl (sampleGated spelling)
        (gatedIx spelling))).refusedBy = some "slow_send" := by
  decide +kernel

/-- A rule that rejects with an error other than its refusal is not named, and where
an address reads as the name of a refusal even the refusal of another rule is not. -/
theorem preview_misses_overflow_and_spelling :
    (∃ preview, previewTransfer plainSpl (fun _ => "") sampleSpent (sampleKey 1) "kay" (sampleKey 2)
          (2 ^ 64 - 1) 0 = .ok preview ∧ preview.refusedBy = none ∧
        ¬ Reports plainSpl (fun rule reason => reason.rule? = some rule) sampleSpent spentIx preview) ∧
      ∃ preview, previewTransfer plainSpl (fun _ => "") (sampleGated spelling) (sampleKey 1) "kay"
          (sampleKey 2) 50 0 = .ok preview ∧ preview.refusedBy = some "slow_send" ∧
        ¬ Reports plainSpl (fun rule reason => reason ∈ rule.refusals) (sampleGated spelling)
          (gatedIx spelling) preview := by
  constructor
  · have ⟨simulates, overflows, shown⟩ := spent_evaluates
    have belongs : Error.rule? (.dailyLimit .overflow) = some .dailyLimit := rfl
    exact sample_misreports ⟨_, simulates⟩ belongs belongs overflows shown (by decide)
  · have ⟨simulates, refused, shown⟩ := spelling_evaluates
    have belongs : Error.rule? (.friendGate .friendSignatureRequired) = some .friendGate := rfl
    have refusal : .friendGate .friendSignatureRequired ∈ Hook.Rule.refusals .friendGate := by decide
    exact sample_misreports ⟨_, simulates⟩ belongs refusal refused shown (by decide)

end Sample

end Stede.Sdk
