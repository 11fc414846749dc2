import Stede.Lib.Run
import Stede.Rules.Layouts
import Stede.Rules.RuleKey

set_option autoImplicit false

/- The waiting period of slow send against the history of its instructions. -/
namespace Stede.SlowSend

/-- The instructions of the rule for one sender and mint. -/
inductive Instruction
  | setSlowSend (signs : Bool) (delaySeconds : Int64)
  | disableSlowSend (signs : Bool)
  | registerRecipient (signs : Bool) (recipient : Pubkey)
  | checkTransfer (recipient destinationToken : Pubkey)

/-- An instruction, at its time. -/
structure Call where
  clock : Clock
  instruction : Instruction

def Call.time (call : Call) : Int := call.clock.unixTimestamp.toInt

/-- The recipient whose contact account the call is given. -/
def Call.recipient (call : Call) : Option Pubkey :=
  match call.instruction with
  | .registerRecipient _ recipient | .checkTransfer recipient _ => some recipient
  | _ => none

def Call.registers (recipient : Pubkey) (call : Call) : Bool :=
  match call.instruction with
  | .registerRecipient _ registered => registered == recipient
  | _ => false

def configKey (rt : Runtime) (pair : SenderMint) : Pubkey :=
  RuleKey.address rt ⟨pair, .slowSendConfig⟩

def contactKey (rt : Runtime) (pair : SenderMint) (recipient : Pubkey) : Pubkey :=
  RuleKey.address rt ⟨pair, .slowSendContact recipient⟩

/-- Each instruction gets the accounts of its sender, mint and recipient. -/
def step (rt : Runtime) (pair : SenderMint) (ledger : Ledger) (call : Call) : Except Error Ledger :=
  match call.instruction with
  | .setSlowSend signs delaySeconds =>
      setSlowSend rt ledger ⟨⟨pair.sender, signs, true⟩, pair.stedeMint, configKey rt pair⟩
        delaySeconds
  | .disableSlowSend signs =>
      disableSlowSend rt ledger ⟨⟨pair.sender, signs, true⟩, configKey rt pair⟩
  | .registerRecipient signs recipient =>
      registerRecipient rt call.clock ledger
        ⟨⟨pair.sender, signs, true⟩, pair.stedeMint, contactKey rt pair recipient⟩ recipient
  | .checkTransfer recipient destinationToken => do
      checkTransfer rt call.clock ledger ⟨configKey rt pair, false, false⟩
        ⟨contactKey rt pair recipient, false, false⟩ ⟨destinationToken, false, false⟩
      return ledger

/-- The accounts that the calls of a run are about. -/
def inPlay (pair : SenderMint) (calls : List Call) : Set RuleKey :=
  {key | key = ⟨pair, .slowSendConfig⟩ ∨ ∃ call ∈ calls, ∃ recipient,
    call.recipient = some recipient ∧ key = ⟨pair, .slowSendContact recipient⟩}

/-- The registrations of a recipient in a history. -/
def registrations (recipient : Pubkey) (history : List Call) : List Call :=
  history.filter (Call.registers recipient)

/-- A contact account tells of the registration of its recipient, if there was any. -/
def Tells (rt : Runtime) (pair : SenderMint) (recipient : Pubkey) (ledger : Ledger)
    (history : List Call) : Prop :=
  (registrations recipient history = [] ∧ (ledger (contactKey rt pair recipient)).Unused) ∨
    ∃ call contact, registrations recipient history = [call] ∧
      contact.firstContactAt = call.clock.unixTimestamp ∧
      SlowSendContact.Live rt contact (ledger (contactKey rt pair recipient))

/-- The accounts stand for the history: the config, when there is one, is the
pair's, and every contact tells of its registration. -/
structure Faithful (rt : Runtime) (pair : SenderMint) (recipients : Set Pubkey) (ledger : Ledger)
    (history : List Call) : Prop where
  config : SlowSendConfig.kind.PlacedFor rt pair.sender pair.stedeMint (ledger (configKey rt pair))
  contacts : ∀ recipient ∈ recipients, Tells rt pair recipient ledger history

theorem registrations_snoc_of_not {recipient : Pubkey} {call : Call} (history : List Call)
    (other : call.registers recipient = false) :
    registrations recipient (history ++ [call]) = registrations recipient history := by
  rw [registrations, List.filter_append, List.filter_singleton, other]
  exact List.append_nil _

section Steps

variable {rt : Runtime} {pair : SenderMint} {recipients : Set Pubkey} {ledger next : Ledger}
  {history : List Call} {call : Call}

/-- What leaves an account alone and registers nobody leaves what it tells alone. -/
theorem Tells.keep {recipient : Pubkey} (tells : Tells rt pair recipient ledger history)
    (kept : next (contactKey rt pair recipient) = ledger (contactKey rt pair recipient))
    (other : call.registers recipient = false) :
    Tells rt pair recipient next (history ++ [call]) := by
  rw [Tells, kept, registrations_snoc_of_not history other]
  exact tells

variable (config_apart : ∀ recipient ∈ recipients, contactKey rt pair recipient ≠ configKey rt pair)
  (contacts_apart : ∀ first ∈ recipients, ∀ second ∈ recipients, first ≠ second →
    contactKey rt pair first ≠ contactKey rt pair second)

include config_apart in
theorem Faithful.setSlowSend (faithful : Faithful rt pair recipients ledger history) {signs : Bool}
    {delaySeconds : Int64} (asked : call.instruction = .setSlowSend signs delaySeconds)
    (success : step rt pair ledger call = .ok next) :
    Faithful rt pair recipients next (history ++ [call]) := by
  rw [step, asked] at success
  have claims := setSlowSendHandler_claims pair.sender pair.stedeMint delaySeconds
  have ⟨_, _, _, _, _, _, _, _, _, written⟩ := (SlowSendConfig.kind.set_eq_ok _ _ _ _ _).mp success
  constructor
  · exact ConfigKind.PlacedFor.set
      ⟨⟨pair.sender, signs, true⟩, pair.stedeMint, configKey rt pair⟩ claims rfl faithful.config success
  · intro recipient member
    apply (faithful.contacts recipient member).keep
    · rw [written, Ledger.write_of_ne (config_apart recipient member)]
    · rw [Call.registers, asked]

include config_apart in
theorem Faithful.disableSlowSend (faithful : Faithful rt pair recipients ledger history) {signs : Bool}
    (asked : call.instruction = .disableSlowSend signs)
    (success : step rt pair ledger call = .ok next) :
    Faithful rt pair recipients next (history ++ [call]) := by
  rw [step, asked] at success
  have ⟨_, _, _, _, _, written⟩ := (SlowSendConfig.kind.disable_eq_ok _ _ _ _).mp success
  constructor
  · exact Or.inl (ConfigKind.disable_unused success)
  · intro recipient member
    apply (faithful.contacts recipient member).keep
    · rw [written, Ledger.write_of_ne (config_apart recipient member)]
    · rw [Call.registers, asked]

include config_apart contacts_apart in
/-- A registration finds its contact unused, so it is the first of its recipient. -/
theorem Faithful.registerRecipient (faithful : Faithful rt pair recipients ledger history)
    {signs : Bool} {recipient : Pubkey} (member : recipient ∈ recipients)
    (asked : call.instruction = .registerRecipient signs recipient)
    (success : step rt pair ledger call = .ok next) :
    Faithful rt pair recipients next (history ++ [call]) := by
  rw [step, asked] at success
  have ⟨unused, made, _, written⟩ := registerRecipient_live success
  constructor
  · rw [written, Ledger.write_of_ne (config_apart recipient member).symm]
    exact faithful.config
  · intro other listed
    by_cases same : other = recipient
    · rw [same]
      rcases faithful.contacts recipient member with ⟨none_yet, _⟩ | ⟨_, contact, _, _, live⟩
      · refine Or.inr ⟨call, _, ?_, rfl, made⟩
        have itself : call.registers recipient = true := by
          rw [Call.registers, asked]
          exact beq_self_eq_true recipient
        rw [registrations, List.filter_append, List.filter_singleton, itself]
        rw [registrations] at none_yet
        rw [none_yet]
        rfl
      · have configured := live.configured
        rw [Account.Unused.unconfigured unused] at configured
        cases configured
    · apply (faithful.contacts other listed).keep
      · rw [written, Ledger.write_of_ne (contacts_apart other listed recipient member same)]
      · rw [Call.registers, asked]
        exact beq_false_of_ne (Ne.symm same)

theorem Faithful.checkTransfer (faithful : Faithful rt pair recipients ledger history)
    {recipient destinationToken : Pubkey}
    (asked : call.instruction = .checkTransfer recipient destinationToken)
    (success : step rt pair ledger call = .ok next) :
    next = ledger ∧ Faithful rt pair recipients next (history ++ [call]) := by
  rw [step, asked] at success
  have ⟨_, _, same⟩ := (bind_eq_ok _ _ _).mp success
  have same : ledger = next := Except.ok.inj same
  rw [← same]
  refine ⟨rfl, faithful.config, ?_⟩
  intro other listed
  apply (faithful.contacts other listed).keep rfl
  rw [Call.registers, asked]

/-- With a config, a check of a recipient passes exactly when it was registered at
least the delay ago. -/
theorem Faithful.accepts (faithful : Faithful rt pair recipients ledger history)
    {recipient destinationToken : Pubkey} (member : recipient ∈ recipients)
    (asked : call.instruction = .checkTransfer recipient destinationToken) {config : SlowSendConfig}
    (present : SlowSendConfig.kind.load (ledger (configKey rt pair)) = .ok config)
    (owned : readPubkey (ledger destinationToken).data 32 (.program .invalidAccountData) = .ok recipient)
    (now : 0 ≤ call.time) (earlier_nonneg : ∀ earlier ∈ history, 0 ≤ earlier.time) :
    (∃ next, step rt pair ledger call = .ok next) ↔
      ∃ earlier ∈ history, earlier.registers recipient = true ∧
        config.delaySeconds.toInt ≤ call.time - earlier.time := by
  rcases faithful.config with absent | ⟨config', live, sender, stedeMint⟩
  · exact absurd ⟨config, present⟩ (ConfigKind.load_of_unused absent)
  · have same : config' = config := Except.ok.inj (live.load.symm.trans present)
    rw [same] at live sender stedeMint
    have live : SlowSendConfig.kind.Live rt (configKey rt pair) config (ledger (configKey rt pair)) :=
      live
    have sender : config.sender = pair.sender := sender
    have stedeMint : config.stedeMint = pair.stedeMint := stedeMint
    have derived : contactKey rt pair recipient =
        (SlowSendContact.pda rt config.sender recipient config.stedeMint).1 := by
      rw [sender, stedeMint]
      rfl
    have listed (earlier : Call) : earlier ∈ registrations recipient history ↔
        earlier ∈ history ∧ earlier.registers recipient = true := List.mem_filter
    have passes : (∃ next, step rt pair ledger call = .ok next) ↔
        checkTransferHandler rt call.clock (configKey rt pair) (ledger (configKey rt pair))
          (contactKey rt pair recipient) (ledger (contactKey rt pair recipient))
          (ledger destinationToken) = .ok () := by
      simp only [step, asked, SlowSend.checkTransfer, bind_eq_ok, pure, Except.pure, Except.ok.injEq]
      constructor
      · intro ⟨_, _, passed, _⟩
        exact passed
      · intro passed
        exact ⟨ledger, (), passed, rfl⟩
    rw [passes]
    rcases faithful.contacts recipient member with ⟨none_yet, unused⟩ | ⟨first, contact, only, at_time, made⟩
    · rw [checkTransferHandler_unregistered live call.clock owned derived unused]
      constructor
      · intro passed
        cases passed
      · intro ⟨earlier, recorded, registered, _⟩
        have found := (listed earlier).mpr ⟨recorded, registered⟩
        rw [none_yet] at found
        cases found
    · have recorded : first ∈ history ∧ first.registers recipient = true := by
        rw [← listed, only]
        exact List.mem_singleton_self first
      have first_nonneg := earlier_nonneg first recorded.1
      have first_time : contact.firstContactAt.toInt = first.time := by rw [at_time, Call.time]
      have now_bound : call.time < 2 ^ 63 := call.clock.unixTimestamp.toInt_lt
      have first_bound : first.time < 2 ^ 63 := first.clock.unixTimestamp.toInt_lt
      have ⟨elapsed, difference, value⟩ := Checked.subI64_of_fits call.clock.unixTimestamp
        contact.firstContactAt (by rw [first_time, ← Call.time]; omega)
        (by rw [first_time, ← Call.time]; omega)
      rw [checkTransferHandler_registered live call.clock owned derived made, difference]
      simp only [okOr, ok_bind, require_eq_ok, Int64.le_iff_toInt_le, value, first_time]
      constructor
      · intro late
        exact ⟨first, recorded.1, recorded.2, late⟩
      · intro ⟨earlier, known, registered, late⟩
        have found := (listed earlier).mpr ⟨known, registered⟩
        rw [only, List.mem_singleton] at found
        rw [← found]
        exact late

theorem Faithful.passes (faithful : Faithful rt pair recipients ledger history)
    {recipient destinationToken : Pubkey}
    (asked : call.instruction = .checkTransfer recipient destinationToken)
    (missing : ∀ config, SlowSendConfig.kind.load (ledger (configKey rt pair)) ≠ .ok config) :
    step rt pair ledger call = .ok ledger := by
  rcases faithful.config with unused | ⟨config, live, _⟩
  · simp only [step, asked, SlowSend.checkTransfer, checkTransferHandler_unused unused, ok_bind]
    rfl
  · exact absurd live.load (missing config)

end Steps

section Runs

variable {rt : Runtime} {pair : SenderMint} {start : Ledger} {calls before after : List Call}

/-- The recipients that a run is about. -/
def recipientsOf (pair : SenderMint) (calls : List Call) : Set Pubkey :=
  {recipient | ⟨pair, .slowSendContact recipient⟩ ∈ inPlay pair calls}

theorem mem_recipientsOf {call : Call} {recipient : Pubkey} (member : call ∈ calls)
    (about : call.recipient = some recipient) : recipient ∈ recipientsOf pair calls :=
  Or.inr ⟨call, member, recipient, about, rfl⟩

theorem faithful_at (free : rt.CollisionFree (RuleKey.derivation '' inPlay pair calls))
    (unused : ∀ key ∈ inPlay pair calls, (start (key.address rt)).Unused)
    (split : calls = before ++ after) :
    Faithful rt pair (recipientsOf pair calls) (Run.run (step rt pair) start before)
      (Run.accepted (step rt pair) start before) := by
  have config_mem : ⟨pair, .slowSendConfig⟩ ∈ inPlay pair calls := Or.inl rfl
  have injective := RuleKey.address_injOn free
  have config_apart : ∀ recipient ∈ recipientsOf pair calls,
      contactKey rt pair recipient ≠ configKey rt pair := by
    intro recipient member same
    have keys := injective member config_mem same
    cases keys
  have contacts_apart : ∀ first ∈ recipientsOf pair calls, ∀ second ∈ recipientsOf pair calls,
      first ≠ second → contactKey rt pair first ≠ contactKey rt pair second := by
    intro first member second member' different same
    have keys := injective member member' same
    cases keys
    exact different rfl
  have begun : Faithful rt pair (recipientsOf pair calls) start [] :=
    ⟨Or.inl (unused _ config_mem), fun recipient member => Or.inl ⟨rfl, unused _ member⟩⟩
  apply Run.history_invariant begun _ before after split
  intro before call after next split faithful success
  have member : call ∈ calls := by
    rw [split]
    exact List.mem_append_right _ List.mem_cons_self
  cases asked : call.instruction with
  | setSlowSend signs delaySeconds => exact faithful.setSlowSend config_apart asked success
  | disableSlowSend signs => exact faithful.disableSlowSend config_apart asked success
  | registerRecipient signs recipient =>
      have about : call.recipient = some recipient := by rw [Call.recipient, asked]
      exact faithful.registerRecipient config_apart contacts_apart (mem_recipientsOf member about)
        asked success
  | checkTransfer recipient destinationToken => exact (faithful.checkTransfer asked success).2

/-- A recipient of a registration is one the run is about. -/
theorem recipient_of_registers {call : Call} {recipient : Pubkey}
    (registers : call.registers recipient = true) : call.recipient = some recipient := by
  unfold Call.registers at registers
  unfold Call.recipient
  cases asked : call.instruction with
  | registerRecipient signs registered =>
      rw [asked] at registers
      exact congrArg some (beq_iff_eq.mp registers)
  | setSlowSend | disableSlowSend | checkTransfer =>
      rw [asked] at registers
      cases registers

end Runs

/-- Slow send enforces the waiting period over whole runs: with a config a check
passes exactly when its recipient was registered at least the delay in force ago;
each recipient is registered once, at a time that nothing changes any more; and
without a config every check passes. -/
theorem waiting_period_enforced (rt : Runtime) (pair : SenderMint) (start : Ledger) (calls : List Call)
    (free : rt.CollisionFree (RuleKey.derivation '' inPlay pair calls))
    (unused : ∀ key ∈ inPlay pair calls, (start (key.address rt)).Unused)
    (nonneg : ∀ call ∈ calls, 0 ≤ call.time) :
    (∀ before call after recipient destinationToken, calls = before ++ call :: after →
      call.instruction = .checkTransfer recipient destinationToken →
      (∀ config,
        SlowSendConfig.kind.load (Run.run (step rt pair) start before (configKey rt pair)) =
          .ok config →
        readPubkey (Run.run (step rt pair) start before destinationToken).data 32
          (.program .invalidAccountData) = .ok recipient →
        ((∃ next, step rt pair (Run.run (step rt pair) start before) call = .ok next) ↔
          ∃ earlier ∈ Run.accepted (step rt pair) start before,
            earlier.registers recipient = true ∧
              config.delaySeconds.toInt ≤ call.time - earlier.time)) ∧
      ((∀ config,
        SlowSendConfig.kind.load (Run.run (step rt pair) start before (configKey rt pair)) ≠
          .ok config) →
        ∃ next, step rt pair (Run.run (step rt pair) start before) call = .ok next)) ∧
    (∀ recipient, (registrations recipient (Run.accepted (step rt pair) start calls)).length ≤ 1) ∧
    ∀ before call middle after recipient, calls = before ++ call :: (middle ++ after) →
      call.registers recipient = true →
      (∃ next, step rt pair (Run.run (step rt pair) start before) call = .ok next) →
      ∃ contact, SlowSendContact.kind.load
          (Run.run (step rt pair) start (before ++ call :: middle) (contactKey rt pair recipient)) =
            .ok contact ∧
        contact.firstContactAt = call.clock.unixTimestamp := by
  refine ⟨?_, ?_, ?_⟩
  · intro before call after recipient destinationToken split asked
    have faithful := faithful_at free unused split
    have member : call ∈ calls := by
      rw [split]
      exact List.mem_append_right _ List.mem_cons_self
    have about : call.recipient = some recipient := by rw [Call.recipient, asked]
    constructor
    · intro config present owned
      apply faithful.accepts (mem_recipientsOf member about) asked present owned (nonneg call member)
      intro earlier known
      apply nonneg
      rw [split]
      exact List.mem_append_left _ ((Run.accepted_sublist _ _).subset known)
    · intro missing
      exact ⟨_, faithful.passes asked missing⟩
  · intro recipient
    have faithful := faithful_at free unused (List.append_nil calls).symm
    by_cases listed : recipient ∈ recipientsOf pair calls
    · rcases faithful.contacts recipient listed with ⟨none_yet, _⟩ | ⟨_, _, only, _⟩
      · rw [none_yet]
        exact Nat.zero_le 1
      · rw [only]
        exact le_refl 1
    · have none_ever : registrations recipient (Run.accepted (step rt pair) start calls) = [] := by
        apply List.filter_eq_nil_iff.mpr
        intro call accepted registers
        have member := (Run.accepted_sublist _ _).subset accepted
        exact listed (mem_recipientsOf member (recipient_of_registers registers))
      rw [none_ever]
      exact Nat.zero_le 1
  · intro before call middle after recipient split registers ⟨next, success⟩
    have split' : calls = (before ++ call :: middle) ++ after := by
      rw [split, List.append_assoc]
      rfl
    have member : call ∈ calls := by
      rw [split]
      exact List.mem_append_right _ List.mem_cons_self
    have listed : recipient ∈ recipientsOf pair calls :=
      mem_recipientsOf member (recipient_of_registers registers)
    have known : call ∈ registrations recipient
        (Run.accepted (step rt pair) start (before ++ call :: middle)) := by
      apply List.mem_filter.mpr
      refine ⟨?_, registers⟩
      rw [Run.accepted_append, Run.accepted_of_ok middle success]
      exact List.mem_append_right _ List.mem_cons_self
    rcases (faithful_at free unused split').contacts recipient listed with
      ⟨none_yet, _⟩ | ⟨first, contact, only, at_time, made⟩
    · rw [none_yet] at known
      cases known
    · rw [only, List.mem_singleton] at known
      refine ⟨contact, made.load, ?_⟩
      rw [at_time, known]

/- A recipient registered before the rule was enabled. -/
section Sample

open Stede.Runtime (sampleKey)

def samplePair : SenderMint := ⟨sampleKey 1, sampleKey 2⟩

/-- A token account of the recipient. -/
def sampleStart : Ledger :=
  Ledger.write (fun _ => .absent) (sampleKey 4)
    ⟨2039280, (sampleKey 2).bytes ++ (sampleKey 5).bytes ++ List.replicate 101 0, Programs.token2022⟩

def sampleCalls : List Call :=
  [⟨⟨0, 1000⟩, .registerRecipient true (sampleKey 5)⟩, ⟨⟨0, 1010⟩, .setSlowSend true 60⟩,
    ⟨⟨0, 1059⟩, .checkTransfer (sampleKey 5) (sampleKey 4)⟩,
    ⟨⟨0, 1060⟩, .registerRecipient true (sampleKey 5)⟩,
    ⟨⟨0, 1060⟩, .checkTransfer (sampleKey 5) (sampleKey 4)⟩]

def sampleKeys : List RuleKey :=
  [⟨samplePair, .slowSendConfig⟩, ⟨samplePair, .slowSendContact (sampleKey 5)⟩]

theorem mem_sampleKeys {key : RuleKey} (member : key ∈ inPlay samplePair sampleCalls) :
    key ∈ sampleKeys := by
  rcases member with config | ⟨call, listed, recipient, about, contact⟩
  · rw [config]
    exact List.mem_cons_self
  · have same : recipient = sampleKey 5 := by
      simp only [sampleCalls, List.mem_cons, List.not_mem_nil, or_false] at listed
      rcases listed with rfl | rfl | rfl | rfl | rfl <;> cases about <;> rfl
    rw [contact, same]
    exact List.mem_cons_of_mem _ List.mem_cons_self

/-- The check a full minute after the registration passes. -/
theorem waiting_period_enforced_sample :
    (∃ next, step .sample samplePair
        (Run.run (step .sample samplePair) sampleStart (sampleCalls.take 4))
        ⟨⟨0, 1060⟩, .checkTransfer (sampleKey 5) (sampleKey 4)⟩ = .ok next) ↔
      ∃ earlier ∈ Run.accepted (step .sample samplePair) sampleStart (sampleCalls.take 4),
        earlier.registers (sampleKey 5) = true ∧ (60 : Int64).toInt ≤ 1060 - earlier.time := by
  have free : Runtime.CollisionFree .sample (RuleKey.derivation '' {key | key ∈ sampleKeys}) :=
    RuleKey.free_of_nodup (by decide +kernel)
  have included : RuleKey.derivation '' inPlay samplePair sampleCalls ⊆
      RuleKey.derivation '' {key | key ∈ sampleKeys} := Set.image_mono fun _ => mem_sampleKeys
  have unused : ∀ key ∈ inPlay samplePair sampleCalls, (sampleStart (key.address .sample)).Unused := by
    intro key member
    have listed := mem_sampleKeys member
    simp only [sampleKeys, List.mem_cons, List.not_mem_nil, or_false] at listed
    rcases listed with rfl | rfl <;> constructor <;> decide +kernel
  exact ((waiting_period_enforced .sample samplePair sampleStart sampleCalls (free.mono included)
    unused (by decide)).1 (sampleCalls.take 4) _ [] _ _ rfl rfl).1
    ⟨sampleKey 1, sampleKey 2, 60, (SlowSendConfig.kind.pda .sample (sampleKey 1) (sampleKey 2)).2⟩
    (by decide +kernel) (by decide +kernel)

example : (Run.trace (step .sample samplePair) sampleStart sampleCalls).map (·.2) =
    [.ok (), .ok (), .error (.slowSend .waitingPeriodActive), .error (.program .accountAlreadyInUse),
      .ok ()] := by
  decide +kernel

end Sample

end Stede.SlowSend
