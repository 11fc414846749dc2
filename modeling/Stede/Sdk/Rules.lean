import Stede.Policy.Refines
import Stede.Sdk.Transfer

set_option autoImplicit false

/- `StedeClient` on the rules of a sender: what it shows of them, and its methods that
set and disable them. -/
namespace Stede.Sdk

open Policy (Represents paymentOf HeldBy slots mem_slots Event step)
open Hook (Instruction Rule resolvedAccounts)

/-- `fetch`: there has to be an account, and it has to decode. Nobody checks its owner. -/
def fetch {α : Type} (kind : AccountType α) (ledger : Ledger) (key : Pubkey) : Option α := do
  let account ← getAccountInfo ledger key
  (kind.tryDeserialize account.data).toOption

structure DailyLimitRecord where
  limit : UInt64
  spentToday : UInt64
  windowStartSlot : UInt64

structure BlockListRecord where
  blocked : List Pubkey
  count : UInt8

structure CooloffRecord where
  threshold : UInt64
  durationSeconds : Int64
  lastLargeTransferAt : Int64

structure SlowSendRecord where
  delaySeconds : Int64

structure NightModeRecord where
  startHour : UInt8
  endHour : UInt8

structure FriendGateRecord where
  threshold : UInt64
  friendWallet : Pubkey

/-- What is `null` is `none`. -/
structure SenderRules where
  dailyLimit : Option DailyLimitRecord
  blockList : Option BlockListRecord
  cooloff : Option CooloffRecord
  slowSend : Option SlowSendRecord
  nightMode : Option NightModeRecord
  friendGate : Option FriendGateRecord

def getRulesForSender (rt : Runtime) (ledger : Ledger) (sender stedeMint : Pubkey) : SenderRules where
  dailyLimit :=
    (fetch DailyLimit.kind.toAccountType ledger (deriveDailyLimitPda rt sender stedeMint)).map
      fun d => ⟨d.limit, d.spentToday, d.windowStartSlot⟩
  blockList :=
    (fetch BlockList.kind.toAccountType ledger (deriveBlockListPda rt sender stedeMint)).map
      fun d => ⟨d.blocked.val.filter (· ≠ .default), d.count⟩
  cooloff :=
    (fetch Cooloff.kind.toAccountType ledger (deriveCooloffPda rt sender stedeMint)).map
      fun d => ⟨d.threshold, d.durationSeconds, d.lastLargeTransferAt⟩
  slowSend :=
    (fetch SlowSendConfig.kind.toAccountType ledger (deriveSlowSendConfigPda rt sender stedeMint)).map
      fun d => ⟨d.delaySeconds⟩
  nightMode :=
    (fetch TimeWindowConfig.kind.toAccountType ledger (deriveTimeWindowPda rt sender stedeMint)).map
      fun d => ⟨d.startHour, d.endHour⟩
  friendGate :=
    (fetch FriendGate.kind.toAccountType ledger (deriveFriendGatePda rt sender stedeMint)).map
      fun d => ⟨d.threshold, d.friendWallet⟩

/-- The calls of the client that change the rules of its wallet for a mint. -/
inductive RuleMethod
  | setDailyLimit (limit : UInt64)
  | addBlockedWallet (blockedWallet : Pubkey)
  | removeBlockedWallet (blockedWallet : Pubkey)
  | setCooloff (threshold : UInt64) (durationSeconds : Int64)
  | disableCooloff
  | setSlowSend (delaySeconds : Int64)
  | disableSlowSend
  | registerRecipient (recipient : Pubkey)
  | setNightMode (startHour endHour : UInt8)
  | disableNightMode
  | setFriendGate (threshold : UInt64) (friendWallet : Pubkey)
  | disableFriendGate

namespace RuleMethod

/-- The instruction that is sent. The wallet pays and signs. -/
def instruction (rt : Runtime) (sender stedeMint : Pubkey) : RuleMethod → Instruction
  | setDailyLimit limit =>
      .setLimit ⟨⟨sender, true, true⟩, stedeMint, deriveDailyLimitPda rt sender stedeMint⟩ limit
  | addBlockedWallet blockedWallet =>
      .addBlocked ⟨⟨sender, true, true⟩, stedeMint, deriveBlockListPda rt sender stedeMint⟩
        blockedWallet
  | removeBlockedWallet blockedWallet =>
      .removeBlocked ⟨⟨sender, true, true⟩, stedeMint, deriveBlockListPda rt sender stedeMint⟩
        blockedWallet
  | setCooloff threshold durationSeconds =>
      .setCooloff ⟨⟨sender, true, true⟩, stedeMint, deriveCooloffPda rt sender stedeMint⟩ threshold
        durationSeconds
  | disableCooloff => .disableCooloff ⟨⟨sender, true, true⟩, deriveCooloffPda rt sender stedeMint⟩
  | setSlowSend delaySeconds =>
      .setSlowSend ⟨⟨sender, true, true⟩, stedeMint, deriveSlowSendConfigPda rt sender stedeMint⟩
        delaySeconds
  | disableSlowSend =>
      .disableSlowSend ⟨⟨sender, true, true⟩, deriveSlowSendConfigPda rt sender stedeMint⟩
  | registerRecipient recipient =>
      .registerRecipient ⟨⟨sender, true, true⟩, stedeMint,
        deriveSlowSendContactPda rt sender recipient stedeMint⟩ recipient
  | setNightMode startHour endHour =>
      .setTimeWindow ⟨⟨sender, true, true⟩, stedeMint, deriveTimeWindowPda rt sender stedeMint⟩
        startHour endHour
  | disableNightMode =>
      .disableTimeWindow ⟨⟨sender, true, true⟩, deriveTimeWindowPda rt sender stedeMint⟩
  | setFriendGate threshold friendWallet =>
      .setFriendGate ⟨⟨sender, true, true⟩, stedeMint, deriveFriendGatePda rt sender stedeMint⟩
        threshold friendWallet
  | disableFriendGate =>
      .disableFriendGate ⟨⟨sender, true, true⟩, deriveFriendGatePda rt sender stedeMint⟩

/-- What the method is for. -/
def action (clock : Clock) : RuleMethod → Policy.Action
  | setDailyLimit limit => .setLimit clock.slot.toNat limit.toNat
  | addBlockedWallet blockedWallet => .addBlocked blockedWallet
  | removeBlockedWallet blockedWallet => .removeBlocked blockedWallet
  | setCooloff threshold durationSeconds => .setCooloff threshold.toNat durationSeconds.toInt
  | disableCooloff => .disableCooloff
  | setSlowSend delaySeconds => .setSlowSend delaySeconds.toInt
  | disableSlowSend => .disableSlowSend
  | registerRecipient recipient => .registerRecipient clock.unixTimestamp.toInt recipient
  | setNightMode startHour endHour => .setTimeWindow startHour.toNat endHour.toNat
  | disableNightMode => .disableTimeWindow
  | setFriendGate threshold friendWallet => .setFriendGate threshold.toNat friendWallet
  | disableFriendGate => .disableFriendGate

/-- The recipients that the method is about. -/
def registers : RuleMethod → Set Pubkey
  | registerRecipient recipient => {recipient}
  | _ => ∅

end RuleMethod

/-- What a sender is shown, as a policy. The registered recipients are not shown. -/
def SenderRules.policy (rules : SenderRules) (contacts : Pubkey → Option Int) : Policy where
  budget := rules.dailyLimit.map fun d =>
    ⟨d.limit.toNat, ⟨d.spentToday.toNat, d.windowStartSlot.toNat⟩⟩
  blocked := rules.blockList.map fun d => d.blocked.toFinset
  pause := rules.cooloff.map fun d =>
    ⟨d.threshold.toNat, d.durationSeconds.toInt, d.lastLargeTransferAt.toInt⟩
  delay := rules.slowSend.map fun d => d.delaySeconds.toInt
  contacts := contacts
  night := rules.nightMode.map fun d => ⟨d.startHour.toNat, d.endHour.toNat⟩
  gate := rules.friendGate.map fun d => ⟨d.threshold.toNat, d.friendWallet⟩

/-- A block list as one would keep it by hand. -/
structure BlockListRecord.Tidy (record : BlockListRecord) : Prop where
  distinct : record.blocked.Nodup
  filled : Pubkey.default ∉ record.blocked
  counted : record.count.toNat = record.blocked.length

section Reading

variable {α β : Type} {kind : ConfigKind α} {rt : Runtime} {pair : SenderMint} {good : α → Prop}
  {view : α → β} {content : Option β} {ledger : Ledger} {key : Pubkey}

theorem fetch_unused (kind : AccountType α) (unused : (ledger key).Unused) :
    fetch kind ledger key = none := by
  unfold fetch getAccountInfo
  split
  · rfl
  · have short : kind.tryDeserialize (ledger key).data =
        .error (.anchor .accountDiscriminatorNotFound) := by
      rw [unused.2]
      rfl
    simp only [Option.bind_eq_bind, Option.bind_some, short]
    rfl

theorem fetch_live {value : α} (live : kind.Live rt key value (ledger key)) :
    fetch kind.toAccountType ledger key = some value := by
  have there : (ledger key).lamports ≠ 0 := live.funded.ne'
  have decodes : kind.tryDeserialize (ledger key).data = .ok value := by
    rw [live.holds]
    exact kind.tryDeserialize_held _ value
  unfold fetch getAccountInfo
  simp only [there, ↓reduceIte, Option.bind_eq_bind, Option.bind_some, decodes]
  rfl

/-- A client reads what the account shows. -/
theorem fetch_shows (seen : kind.Shows rt pair good view (ledger key) content)
    (here : key = (kind.pda rt pair.sender pair.stedeMint).1) :
    (fetch kind.toAccountType ledger key).map view = content ∧
      ∀ value, fetch kind.toAccountType ledger key = some value → good value := by
  rcases seen with ⟨unused, absent⟩ | ⟨value, live, _, fine, same⟩
  · rw [fetch_unused _ unused, absent]
    exact ⟨rfl, nofun⟩
  · rw [← here] at live
    rw [fetch_live live, same]
    refine ⟨rfl, ?_⟩
    intro other found
    rw [← Option.some.inj found]
    exact fine

end Reading

section Shown

variable {rt : Runtime} {pair : SenderMint} {recipients : Finset Pubkey} {ledger : Ledger}
  {policy : Policy} (represents : Represents rt pair recipients ledger policy)
include represents

theorem getRulesForSender_policy :
    (getRulesForSender rt ledger pair.sender pair.stedeMint).policy policy.contacts = policy := by
  have budget := (fetch_shows (represents .dailyLimit (mem_slots (by simp))) rfl).1
  have blocked := (fetch_shows (represents .blockList (mem_slots (by simp))) rfl).1
  have pause := (fetch_shows (represents .cooloff (mem_slots (by simp))) rfl).1
  have delay := (fetch_shows (represents .slowSendConfig (mem_slots (by simp))) rfl).1
  have night := (fetch_shows (represents .timeWindow (mem_slots (by simp))) rfl).1
  have gate := (fetch_shows (represents .friendGate (mem_slots (by simp))) rfl).1
  apply Policy.ext
  · rw [← budget]
    exact Option.map_map ..
  · rw [← blocked]
    exact Option.map_map ..
  · rw [← pause]
    exact Option.map_map ..
  · rw [← delay]
    exact Option.map_map ..
  · rfl
  · rw [← night]
    exact Option.map_map ..
  · rw [← gate]
    exact Option.map_map ..

theorem getRulesForSender_tidy {record : BlockListRecord}
    (listed : (getRulesForSender rt ledger pair.sender pair.stedeMint).blockList = some record) :
    record.Tidy := by
  obtain ⟨value, found, same⟩ := Option.map_eq_some_iff.mp listed
  have sound := (fetch_shows (represents .blockList (mem_slots (by simp))) rfl).2 value found
  rw [← same]
  refine ⟨sound.distinct, ?_, ?_⟩
  · simp
  · rw [sound.counted]
    exact List.toFinset_card_of_nodup sound.distinct

variable {inPlay : Set RuleKey} (free : rt.CollisionFree (RuleKey.derivation '' inPlay))
  (own : ∀ slot ∈ slots recipients, ⟨pair, slot⟩ ∈ inPlay) (signs : rt.canSign pair.sender = true)
include free own signs

/-- A method is the action of its name. -/
theorem method_agrees {method : RuleMethod} (env : Env) (known : method.registers ⊆ recipients) :
    Agrees (Represents rt pair recipients)
      ((method.instruction rt pair.sender pair.stedeMint).process rt env ledger)
      (step pair.sender policy (method.action env.clock)) := by
  have pays : AccountMeta.pays rt ⟨pair.sender, true, true⟩ = true := AccountMeta.pays_of_canSign signs
  have within : (Event.instruction env (method.instruction rt pair.sender pair.stedeMint)).Within rt
      pair recipients inPlay := by
    constructor
    · intro key derives
      cases method with
      | disableCooloff | disableSlowSend | disableNightMode | disableFriendGate => cases derives
      | registerRecipient recipient =>
          cases derives
          exact own _ (Policy.contact_mem_slots (known rfl))
      | _ =>
          cases derives
          exact own _ (mem_slots (by simp))
    · intro key account same
      cases same
  have mirrors := Policy.happen_mirrors free own represents within
  have observed : (Event.instruction env (method.instruction rt pair.sender pair.stedeMint)).observe
      rt pair recipients ledger = some (method.action env.clock) := by
    cases method <;> apply if_pos
    case registerRecipient recipient => exact ⟨⟨pays, rfl, rfl, rfl⟩, known rfl⟩
    case removeBlockedWallet blockedWallet => exact ⟨AccountMeta.signed_of_pays pays, rfl, rfl, rfl⟩
    all_goals first | exact ⟨pays, rfl, rfl, rfl⟩ | exact ⟨pays, rfl, rfl⟩
  rw [observed] at mirrors
  exact mirrors

end Shown

section Runs

variable (rt : Runtime) (pair : SenderMint) (recipients : Finset Pubkey) (start : Ledger)
  (events : List Event)

/-- The policy that the observed actions of a run make of the empty one. -/
def history : Policy :=
  Run.run (step pair.sender) Policy.empty (Refinement.observed (Event.happen rt)
    (fun ledger event => event.observe rt pair recipients ledger) start events)

/-- What the client shows of it at the end. -/
def shown : Policy :=
  (getRulesForSender rt (Run.run (Event.happen rt) start events) pair.sender pair.stedeMint).policy
    (history rt pair recipients start events).contacts

variable {rt pair recipients start events} {inPlay : Set RuleKey}
  (free : rt.CollisionFree (RuleKey.derivation '' inPlay))
  (own : ∀ slot ∈ slots recipients, ⟨pair, slot⟩ ∈ inPlay)
  (unused : ∀ slot ∈ slots recipients, (start (RuleKey.address rt ⟨pair, slot⟩)).Unused)
  (within : ∀ event ∈ events, event.Within rt pair recipients inPlay)
include free own unused within

theorem history_represented :
    Represents rt pair recipients (Run.run (Event.happen rt) start events)
      (history rt pair recipients start events) :=
  ((Policy.happen_simulates free own within).run (Policy.represents_empty unused)).1

end Runs

/-- After any run the client shows the policy that the history has made, with a tidy
block list, and with the contacts of the history this decides every transfer of the
sender: the hook's verdict is the policy's, and the client shows what is left of it. -/
theorem rules_shown (rt : Runtime) (pair : SenderMint) (recipients : Finset Pubkey)
    (inPlay : Set RuleKey) (free : rt.CollisionFree (RuleKey.derivation '' inPlay))
    (own : ∀ slot ∈ slots recipients, ⟨pair, slot⟩ ∈ inPlay) (start : Ledger)
    (unused : ∀ slot ∈ slots recipients, (start (RuleKey.address rt ⟨pair, slot⟩)).Unused)
    (events : List Event) (within : ∀ event ∈ events, event.Within rt pair recipients inPlay) :
    shown rt pair recipients start events = history rt pair recipients start events ∧
    (∀ record, (getRulesForSender rt (Run.run (Event.happen rt) start events) pair.sender
      pair.stedeMint).blockList = some record → record.Tidy) ∧
    ∀ (env : Env) (source destination recipient : Pubkey) (amount : UInt64), recipient ∈ recipients →
      Hook.loadMint rt (Run.run (Event.happen rt) start events pair.stedeMint) = .ok () →
      HeldBy (Run.run (Event.happen rt) start events) destination recipient →
      Agrees (fun next policy =>
          (getRulesForSender rt next pair.sender pair.stedeMint).policy policy.contacts = policy)
        (Hook.execute rt env (Run.run (Event.happen rt) start events)
          (resolvedAccounts rt source pair.stedeMint destination pair.sender recipient).toList amount)
        (Policy.check (paymentOf env amount recipient) (shown rt pair recipients start events)
          Rule.all) := by
  have represents := history_represented free own unused within
  have same : shown rt pair recipients start events = history rt pair recipients start events :=
    getRulesForSender_policy represents
  refine ⟨same, fun record => getRulesForSender_tidy represents, ?_⟩
  intro env source destination recipient amount known mint held
  rw [same]
  refine (Policy.execute_agrees free own known represents mint held).mono ?_
  exact fun next policy _ _ after => getRulesForSender_policy after

section Sample

open Policy (samplePair sampleKeys sampleEvents)
open Stede.Runtime (sampleKey)

theorem rules_shown_sample :
    shown .sample samplePair {sampleKey 5} Hook.sampleLedger sampleEvents =
      history .sample samplePair {sampleKey 5} Hook.sampleLedger sampleEvents :=
  (rules_shown .sample samplePair {sampleKey 5} {key | key ∈ sampleKeys} Policy.sample_free
    Policy.sample_own Hook.sampleLedger (fun slot member => Policy.sample_unused _ (Policy.sample_own slot member))
    sampleEvents Policy.sample_within).1

/-- The client shows what is left of a budget of a hundred. -/
example : ((getRulesForSender .sample (Run.run (Event.happen .sample) Hook.sampleLedger sampleEvents)
      (sampleKey 1) (sampleKey 2)).dailyLimit.map fun record => (record.limit, record.spentToday)) =
    some (100, 60) := by
  decide +kernel

end Sample

/-- After any run each method of the client succeeds, or is refused for the reason,
that the policy it shows says, and afterwards it shows the policy that was asked for. -/
theorem methods_obeyed (rt : Runtime) (pair : SenderMint) (recipients : Finset Pubkey)
    (inPlay : Set RuleKey) (free : rt.CollisionFree (RuleKey.derivation '' inPlay))
    (own : ∀ slot ∈ slots recipients, ⟨pair, slot⟩ ∈ inPlay) (start : Ledger)
    (unused : ∀ slot ∈ slots recipients, (start (RuleKey.address rt ⟨pair, slot⟩)).Unused)
    (events : List Event) (within : ∀ event ∈ events, event.Within rt pair recipients inPlay)
    (signs : rt.canSign pair.sender = true) (env : Env) (method : RuleMethod)
    (known : method.registers ⊆ recipients) :
    Agrees (fun next policy =>
        (getRulesForSender rt next pair.sender pair.stedeMint).policy policy.contacts = policy)
      ((method.instruction rt pair.sender pair.stedeMint).process rt env
        (Run.run (Event.happen rt) start events))
      (step pair.sender (shown rt pair recipients start events) (method.action env.clock)) := by
  have represents := history_represented free own unused within
  have same : shown rt pair recipients start events = history rt pair recipients start events :=
    getRulesForSender_policy represents
  rw [same]
  have agree := method_agrees represents free own signs env known
  exact agree.mono fun next policy _ _ after => getRulesForSender_policy after

section Sample

open Policy (samplePair sampleKeys sampleEvents)
open Stede.Runtime (sampleKey)

theorem methods_obeyed_sample :
    Agrees (fun next policy =>
        (getRulesForSender .sample next samplePair.sender samplePair.stedeMint).policy policy.contacts =
          policy)
      ((RuleMethod.setSlowSend 90).instruction .sample samplePair.sender samplePair.stedeMint |>.process
        .sample Hook.sampleEnv (Run.run (Event.happen .sample) Hook.sampleLedger sampleEvents))
      (step samplePair.sender
        (shown .sample samplePair {sampleKey 5} Hook.sampleLedger sampleEvents)
        ((RuleMethod.setSlowSend 90).action Hook.sampleEnv.clock)) :=
  methods_obeyed .sample samplePair {sampleKey 5} {key | key ∈ sampleKeys} Policy.sample_free
    Policy.sample_own Hook.sampleLedger (fun slot member => Policy.sample_unused _ (Policy.sample_own slot member))
    sampleEvents Policy.sample_within (by decide) Hook.sampleEnv (.setSlowSend 90)
    (Set.empty_subset _)

end Sample

end Stede.Sdk
