import Stede.Policy.Checks

set_option autoImplicit false

/- The rule programs and the hook carry out the policies: whatever is sent to them by
whomever, what becomes of the accounts of a pair is what the policy machine says. -/
namespace Stede.Policy

open Hook (Execute Rule Instruction resolvedAccounts)

/-- The rule accounts of a hook call are those of the pair and the recipient. -/
structure OwnAccounts (rt : Runtime) (pair : SenderMint) (recipient : Pubkey) (accounts : Execute) :
    Prop where
  owner : accounts.owner.pubkey = pair.sender
  stedeMint : accounts.stedeMint.pubkey = pair.stedeMint
  writable : accounts.dailyLimitPda.isWritable = true ∧ accounts.cooloffPda.isWritable = true
  dailyLimit : accounts.dailyLimitPda.pubkey = RuleKey.address rt ⟨pair, .dailyLimit⟩
  blockList : accounts.blockListPda.pubkey = RuleKey.address rt ⟨pair, .blockList⟩
  cooloff : accounts.cooloffPda.pubkey = RuleKey.address rt ⟨pair, .cooloff⟩
  slowSendConfig : accounts.slowSendConfigPda.pubkey = RuleKey.address rt ⟨pair, .slowSendConfig⟩
  slowSendContact :
    accounts.slowSendContactPda.pubkey = RuleKey.address rt ⟨pair, .slowSendContact recipient⟩
  timeWindow : accounts.timeWindowConfigPda.pubkey = RuleKey.address rt ⟨pair, .timeWindow⟩
  friendGate : accounts.friendGateConfigPda.pubkey = RuleKey.address rt ⟨pair, .friendGate⟩
  sysvar : accounts.instructionsSysvar.pubkey = Programs.instructionsSysvar

theorem ownAccounts_resolved (rt : Runtime) (pair : SenderMint) (source destination recipient : Pubkey) :
    OwnAccounts rt pair recipient
      (resolvedAccounts rt source pair.stedeMint destination pair.sender recipient) :=
  ⟨rfl, rfl, ⟨rfl, rfl⟩, rfl, rfl, rfl, rfl, rfl, rfl, rfl, rfl⟩

/-- The destination of a transfer is a token account of the recipient. -/
def HeldBy (ledger : Ledger) (destination recipient : Pubkey) : Prop :=
  (ledger destination).owner = Programs.token2022 ∧
    readPubkey (ledger destination).data 32 (.program .invalidAccountData) = .ok recipient

theorem HeldBy.congr {ledger next : Ledger} {destination recipient : Pubkey}
    (held : HeldBy ledger destination recipient) (same : next destination = ledger destination) :
    HeldBy next destination recipient := by
  rw [HeldBy, same]
  exact held

section Execute

variable {rt : Runtime} {pair : SenderMint} {recipients : Finset Pubkey} {inPlay : Set RuleKey}
  {ledger next : Ledger} {policy : Policy} {env : Env} {amount : UInt64} {recipient : Pubkey}

/-- A token account lies at no address of the pair. -/
theorem Represents.apart (represents : Represents rt pair recipients ledger policy) {slot : RuleSlot}
    (member : slot ∈ slots recipients) {destination : Pubkey}
    (held : (ledger destination).owner = Programs.token2022) :
    destination ≠ RuleKey.address rt ⟨pair, slot⟩ := by
  intro same
  rw [same] at held
  rcases (represents slot member).tagged with unused | tagged
  · exact Programs.token2022_foreign (held.symm.trans unused.1)
  · have program : (tag slot).1 = Programs.token2022 := by
      rw [← tagged]
      exact held
    have listed : (tag slot).1 ∈ Programs.workspace := by
      cases slot <;> simp [tag, Programs.workspace, DailyLimit.kind, BlockList.kind, Cooloff.kind,
        SlowSendConfig.kind, SlowSendContact.kind, TimeWindowConfig.kind, FriendGate.kind]
    exact (Programs.workspace_foreign listed).2 program

variable (free : rt.CollisionFree (RuleKey.derivation '' inPlay))
  (own : ∀ slot ∈ slots recipients, ⟨pair, slot⟩ ∈ inPlay)
include free own

/-- The call of one rule. -/
theorem rule_agrees {accounts : Execute} (mine : OwnAccounts rt pair recipient accounts) (rule : Rule)
    (known : rule = .newRecipientDelay → recipient ∈ recipients)
    (represents : Represents rt pair recipients ledger policy)
    (held : HeldBy ledger accounts.destinationToken.pubkey recipient) :
    Agrees (fun next changed => Represents rt pair recipients next changed ∧
        HeldBy next accounts.destinationToken.pubkey recipient)
      (rule.check rt env accounts amount ledger) (obey (paymentOf env amount recipient) policy rule) := by
  have answers {check : Except Error Ledger} {outcome : Except Refusal Policy}
      (agree : Agrees (fun next changed => next = ledger ∧ changed = policy) check outcome) :
      Agrees (fun next changed => Represents rt pair recipients next changed ∧
        HeldBy next accounts.destinationToken.pubkey recipient) check outcome := by
    refine agree.mono fun next changed _ _ ⟨same, same'⟩ => ?_
    rw [same, same']
    exact ⟨represents, held⟩
  cases rule with
  | dailyLimit =>
      refine (dailyLimit_agrees free own represents mine.writable.1 mine.dailyLimit).mono ?_
      intro next changed success _ after
      obtain ⟨_, account, _, written⟩ := (DailyLimit.checkTransfer_eq_ok _ _ _ _ _ _).mp success
      refine ⟨after, held.congr ?_⟩
      rw [written, mine.dailyLimit]
      exact Ledger.write_of_ne (represents.apart (mem_slots budgetSetting.bare.distinct) held.1)
  | blockHandle =>
      apply answers
      rw [Rule.check, held.2, ok_bind]
      exact blockList_agrees represents mine.blockList
  | cooloff =>
      refine (cooloff_agrees free own represents mine.writable.2 mine.cooloff).mono ?_
      intro next changed success _ after
      obtain ⟨_, account, _, written⟩ := (Cooloff.checkTransfer_eq_ok _ _ _ _ _ _).mp success
      refine ⟨after, held.congr ?_⟩
      rw [written, mine.cooloff]
      exact Ledger.write_of_ne (represents.apart (mem_slots pauseSetting.bare.distinct) held.1)
  | newRecipientDelay =>
      exact answers
        (slowSend_agrees represents (known rfl) mine.slowSendConfig mine.slowSendContact held.2)
  | timeWindow => exact answers (timeWindow_agrees represents mine.timeWindow mine.owner mine.stedeMint)
  | friendGate => exact answers (friendGate_agrees represents mine.friendGate mine.sysvar)

/-- The calls of several rules in turn. -/
theorem rules_agree {accounts : Execute} (known : recipient ∈ recipients)
    (mine : OwnAccounts rt pair recipient accounts) (rules : List Rule)
    (represents : Represents rt pair recipients ledger policy)
    (held : HeldBy ledger accounts.destinationToken.pubkey recipient) :
    Agrees (Represents rt pair recipients) (Rule.checkAll rt env accounts amount rules ledger)
      (check (paymentOf env amount recipient) policy rules) := by
  induction rules generalizing ledger policy with
  | nil => exact .ok represents
  | cons rule rest ih =>
      exact (rule_agrees free own mine rule (fun _ => known) represents held).bind
        fun next changed _ after => ih after.1 after.2

/-- The hook on the accounts that a transfer of the sender to the recipient resolves. -/
theorem execute_agrees {source destination : Pubkey} (known : recipient ∈ recipients)
    (represents : Represents rt pair recipients ledger policy)
    (mint : Hook.loadMint rt (ledger pair.stedeMint) = .ok ())
    (held : HeldBy ledger destination recipient) :
    Agrees (Represents rt pair recipients)
      (Hook.execute rt env ledger
        (resolvedAccounts rt source pair.stedeMint destination pair.sender recipient).toList amount)
      (check (paymentOf env amount recipient) policy Rule.all) := by
  rw [Hook.execute, Hook.tryAccounts_resolved _ _ _ _ _ _ _ mint, ok_bind,
    Hook.executeHandler_eq_checkAll]
  exact rules_agree free own known (ownAccounts_resolved rt pair source destination recipient) _
    represents held

end Execute

/-- An instruction of the rule programs or the hook, an account that another program
writes, or a gift of lamports. -/
inductive Event
  | instruction (env : Env) (call : Instruction)
  | elsewhere (key : Pubkey) (account : Account)
  | gift (key : Pubkey) (lamports : Nat)

namespace Event

def happen (rt : Runtime) (ledger : Ledger) : Event → Except Error Ledger
  | instruction env call => call.process rt env ledger
  | elsewhere key account => .ok (ledger.write key account)
  | gift key lamports =>
      .ok (ledger.write key { ledger key with lamports := (ledger key).lamports + lamports })

/-- The account that the instruction derives from its signer, to create or change it. -/
def derives : Event → Option RuleKey
  | instruction _ (.setLimit accounts _) =>
      some ⟨⟨accounts.sender.pubkey, accounts.stedeMint⟩, .dailyLimit⟩
  | instruction _ (.addBlocked accounts _) | instruction _ (.removeBlocked accounts _) =>
      some ⟨⟨accounts.sender.pubkey, accounts.stedeMint⟩, .blockList⟩
  | instruction _ (.setCooloff accounts _ _) =>
      some ⟨⟨accounts.sender.pubkey, accounts.stedeMint⟩, .cooloff⟩
  | instruction _ (.setSlowSend accounts _) =>
      some ⟨⟨accounts.sender.pubkey, accounts.stedeMint⟩, .slowSendConfig⟩
  | instruction _ (.registerRecipient accounts recipient) =>
      some ⟨⟨accounts.sender.pubkey, accounts.stedeMint⟩, .slowSendContact recipient⟩
  | instruction _ (.setTimeWindow accounts _ _) =>
      some ⟨⟨accounts.sender.pubkey, accounts.stedeMint⟩, .timeWindow⟩
  | instruction _ (.setFriendGate accounts _ _) =>
      some ⟨⟨accounts.sender.pubkey, accounts.stedeMint⟩, .friendGate⟩
  | _ => none

section Observe

variable (rt : Runtime) (pair : SenderMint) (recipients : Finset Pubkey) (ledger : Ledger)

/-- The recipient of a call that has the accounts which a transfer of the sender
resolves, if it is one of those asked about. -/
def recipientOf (accounts : List AccountMeta) : Option Pubkey := do
  let source ← accounts[0]?
  let destination ← accounts[2]?
  let recipient ← (readPubkey (ledger destination.pubkey).data 32
    (.program .invalidAccountData)).toOption
  if accounts = (resolvedAccounts rt source.pubkey pair.stedeMint destination.pubkey pair.sender
      recipient).toList ∧ (ledger destination.pubkey).owner = Programs.token2022 ∧
      recipient ∈ recipients ∧ (Hook.loadMint rt (ledger pair.stedeMint)).toOption.isSome then
    some recipient
  else none

/-- The recording rules whose accounts of the pair a call of the hook is given. -/
def touched (accounts : List AccountMeta) : List Rule :=
  (if accounts[6]?.map AccountMeta.pubkey = some (RuleKey.address rt ⟨pair, .dailyLimit⟩) then
    [.dailyLimit] else []) ++
  (if accounts[10]?.map AccountMeta.pubkey = some (RuleKey.address rt ⟨pair, .cooloff⟩) then
    [.cooloff] else [])

/-- A hook call with the accounts of a transfer is a check of all the rules. Of a call
with any others only the success shows, in what it records. -/
def observeExecute (env : Env) (accounts : List AccountMeta) (amount : UInt64) : Option Action :=
  match recipientOf rt pair recipients ledger accounts with
  | some recipient => some (.check Rule.all (paymentOf env amount recipient))
  | none =>
      match Hook.execute rt env ledger accounts amount with
      | .ok _ => some (.check (touched rt pair accounts) (paymentOf env amount .default))
      | .error _ => none

def observe : Event → Option Action
  | instruction env (.setLimit accounts limit) =>
      if Owned rt pair .dailyLimit accounts then
        some (.setLimit env.clock.slot.toNat limit.toNat)
      else none
  | instruction _ (.addBlocked accounts blockedWallet) =>
      if Owned rt pair .blockList accounts then some (.addBlocked blockedWallet) else none
  | instruction _ (.removeBlocked accounts blockedWallet) =>
      if OwnedForRemove rt pair accounts then some (.removeBlocked blockedWallet) else none
  | instruction _ (.setCooloff accounts threshold durationSeconds) =>
      if Owned rt pair .cooloff accounts then
        some (.setCooloff threshold.toNat durationSeconds.toInt)
      else none
  | instruction _ (.disableCooloff accounts) =>
      if OwnedForDisable rt pair .cooloff accounts then some .disableCooloff else none
  | instruction _ (.setSlowSend accounts delaySeconds) =>
      if Owned rt pair .slowSendConfig accounts then some (.setSlowSend delaySeconds.toInt) else none
  | instruction _ (.disableSlowSend accounts) =>
      if OwnedForDisable rt pair .slowSendConfig accounts then some .disableSlowSend else none
  | instruction env (.registerRecipient accounts recipient) =>
      if OwnedForRegister rt pair recipient accounts ∧ recipient ∈ recipients then
        some (.registerRecipient env.clock.unixTimestamp.toInt recipient)
      else none
  | instruction _ (.setTimeWindow accounts startHour endHour) =>
      if Owned rt pair .timeWindow accounts then
        some (.setTimeWindow startHour.toNat endHour.toNat)
      else none
  | instruction _ (.disableTimeWindow accounts) =>
      if OwnedForDisable rt pair .timeWindow accounts then some .disableTimeWindow else none
  | instruction _ (.setFriendGate accounts threshold friendWallet) =>
      if Owned rt pair .friendGate accounts then
        some (.setFriendGate threshold.toNat friendWallet)
      else none
  | instruction _ (.disableFriendGate accounts) =>
      if OwnedForDisable rt pair .friendGate accounts then some .disableFriendGate else none
  | instruction env (.checkDailyLimit account amount) =>
      if account.isWritable ∧ account.pubkey = RuleKey.address rt ⟨pair, .dailyLimit⟩ then
        some (.check [.dailyLimit] (paymentOf env amount .default))
      else none
  | instruction env (.checkBlockList account recipient) =>
      if account.pubkey = RuleKey.address rt ⟨pair, .blockList⟩ then
        some (.check [.blockHandle] (paymentOf env 0 recipient))
      else none
  | instruction env (.checkCooloff account amount) =>
      if account.isWritable ∧ account.pubkey = RuleKey.address rt ⟨pair, .cooloff⟩ then
        some (.check [.cooloff] (paymentOf env amount .default))
      else none
  | instruction env (.checkSlowSend config contact destinationToken) =>
      match readPubkey (ledger destinationToken.pubkey).data 32 (.program .invalidAccountData) with
      | .ok recipient =>
          if config.pubkey = RuleKey.address rt ⟨pair, .slowSendConfig⟩ ∧
              contact.pubkey = RuleKey.address rt ⟨pair, .slowSendContact recipient⟩ ∧
              recipient ∈ recipients then
            some (.check [.newRecipientDelay] (paymentOf env 0 recipient))
          else none
      | .error _ => none
  | instruction env (.checkTimeWindow config sender stedeMint amount) =>
      if config.pubkey = RuleKey.address rt ⟨pair, .timeWindow⟩ ∧ sender.pubkey = pair.sender ∧
          stedeMint.pubkey = pair.stedeMint then
        some (.check [.timeWindow] (paymentOf env amount .default))
      else none
  | instruction env (.checkFriendGate config instructionsSysvar amount) =>
      if config.pubkey = RuleKey.address rt ⟨pair, .friendGate⟩ ∧
          instructionsSysvar.pubkey = Programs.instructionsSysvar then
        some (.check [.friendGate] (paymentOf env amount .default))
      else none
  | instruction env (.execute accounts amount) =>
      observeExecute rt pair recipients ledger env accounts amount
  | instruction env (.fallback accounts data) =>
      if data.take 8 = Hook.EXECUTE_DISCRIMINATOR ∧ 16 ≤ data.length then
        match readU64 data 8 with
        | .ok amount => observeExecute rt pair recipients ledger env accounts amount
        | .error _ => none
      else none
  | elsewhere _ _ | gift _ _ => none

end Observe

/-- What an event may touch: the accounts it derives are in play, and other programs
do not write at the addresses of the pair. -/
structure Within (rt : Runtime) (pair : SenderMint) (recipients : Finset Pubkey)
    (inPlay : Set RuleKey) (event : Event) : Prop where
  derived : ∀ key, event.derives = some key → key ∈ inPlay
  outside : ∀ key account, event = .elsewhere key account → ∀ slot ∈ slots recipients,
    key ≠ RuleKey.address rt ⟨pair, slot⟩

end Event

section Mirrors

variable {rt : Runtime} {pair : SenderMint} {recipients : Finset Pubkey} {inPlay : Set RuleKey}
  {ledger next : Ledger} {policy : Policy} {env : Env} {amount : UInt64}

/-- What is observed has the verdict of the policy, and what is not leaves it alone. -/
def Mirrors (rt : Runtime) (pair : SenderMint) (recipients : Finset Pubkey) (policy : Policy)
    (outcome : Except Error Ledger) : Option Action → Prop
  | some action => Agrees (Represents rt pair recipients) outcome (step pair.sender policy action)
  | none => ∀ next, outcome = .ok next → Represents rt pair recipients next policy

theorem mirrors_ite {condition : Prop} [Decidable condition] {outcome : Except Error Ledger}
    {action : Action}
    (seen : condition → Agrees (Represents rt pair recipients) outcome (step pair.sender policy action))
    (unseen : ¬ condition → ∀ next, outcome = .ok next → Represents rt pair recipients next policy) :
    Mirrors rt pair recipients policy outcome (if condition then some action else none) := by
  split
  · rename_i holds
    exact seen holds
  · rename_i fails
    exact unseen fails

theorem agrees_of_answer (represents : Represents rt pair recipients ledger policy)
    {outcome : Except Error Ledger} {verdict : Except Refusal Policy}
    (agree : Agrees (fun next changed => next = ledger ∧ changed = policy) outcome verdict) :
    Agrees (Represents rt pair recipients) outcome verdict := by
  refine agree.mono fun next changed _ _ ⟨same, same'⟩ => ?_
  rw [same, same']
  exact represents

/-- An instruction that only answers touches nothing. -/
theorem represents_of_answer (represents : Represents rt pair recipients ledger policy)
    {check : Except Error Unit} (success : (check >>= fun _ => pure ledger) = .ok next) :
    Represents rt pair recipients next policy := by
  obtain ⟨_, _, same⟩ := (bind_eq_ok _ _ _).mp success
  rw [← Except.ok.inj same]
  exact represents

/-- The accounts of the other slots are not those of a recording rule. -/
theorem Represents.spared (represents : Represents rt pair recipients ledger policy) {slot : RuleSlot}
    (member : slot ∈ slots recipients) {program : Pubkey} (other : slot.program ≠ program) :
    (ledger (RuleKey.address rt ⟨pair, slot⟩)).Spared program := by
  rcases (represents slot member).tagged with unused | tagged
  · exact Or.inl unused.unconfigured
  · right
    have owner : (ledger (RuleKey.address rt ⟨pair, slot⟩)).owner = (tag slot).1 :=
      congrArg Prod.fst tagged
    have same : (tag slot).1 = slot.program := by cases slot <;> rfl
    rw [owner, same]
    exact other

theorem recording_programs (slot : RuleSlot) :
    (slot ≠ .dailyLimit → slot.program ≠ DailyLimit.kind.program) ∧
      (slot ≠ .cooloff → slot.program ≠ Cooloff.kind.program) := by
  have distinct : ∀ bare ∈ RuleSlot.bareSlots,
      (bare ≠ .dailyLimit → bare.program ≠ DailyLimit.kind.program) ∧
        (bare ≠ .cooloff → bare.program ≠ Cooloff.kind.program) := by
    decide +kernel
  cases slot with
  | slowSendContact recipient =>
      obtain ⟨daily, cool⟩ := distinct (.slowSendContact .default) (by decide)
      exact ⟨fun _ => daily (by decide), fun _ => cool (by decide)⟩
  | dailyLimit | blockList | cooloff | slowSendConfig | timeWindow | friendGate =>
      exact distinct _ (by decide)

theorem checkDailyLimit_foreign (represents : Represents rt pair recipients ledger policy)
    {account : AccountMeta} (foreign : account.pubkey ≠ RuleKey.address rt ⟨pair, .dailyLimit⟩)
    (success : DailyLimit.checkTransfer rt env.clock ledger account amount = .ok next) :
    Represents rt pair recipients next policy := by
  apply represents.congr
  intro slot member
  apply DailyLimit.checkTransfer_spares success
  intro here
  have other : slot ≠ .dailyLimit := by
    intro same
    rw [same] at here
    exact foreign here.symm
  exact represents.spared member ((recording_programs slot).1 other)

theorem checkCooloff_foreign (represents : Represents rt pair recipients ledger policy)
    {account : AccountMeta} (foreign : account.pubkey ≠ RuleKey.address rt ⟨pair, .cooloff⟩)
    (success : Cooloff.checkTransfer rt env.clock ledger account amount = .ok next) :
    Represents rt pair recipients next policy := by
  apply represents.congr
  intro slot member
  apply Cooloff.checkTransfer_spares success
  intro here
  have other : slot ≠ .cooloff := by
    intro same
    rw [same] at here
    exact foreign here.symm
  exact represents.spared member ((recording_programs slot).2 other)

/-- The call of a transfer of the pair, in the terms of the observer. -/
theorem recipientOf_eq_some {accounts : List AccountMeta} {recipient : Pubkey}
    (found : Event.recipientOf rt pair recipients ledger accounts = some recipient) :
    ∃ source destination, accounts = (resolvedAccounts rt source pair.stedeMint destination pair.sender
        recipient).toList ∧
      recipient ∈ recipients ∧ Hook.loadMint rt (ledger pair.stedeMint) = .ok () ∧
      HeldBy ledger destination recipient := by
  simp only [Event.recipientOf, Option.bind_eq_bind, Option.bind_eq_some_iff] at found
  obtain ⟨source, _, destination, _, holder, read, found⟩ := found
  split at found
  · rename_i proper
    obtain ⟨same, owned, known, mint⟩ := proper
    rw [Option.some.injEq] at found
    rw [found] at same read known
    refine ⟨source.pubkey, destination.pubkey, same, known, ?_, owned, ?_⟩
    · cases loaded : Hook.loadMint rt (ledger pair.stedeMint) with
      | ok value => rfl
      | error reason =>
          rw [loaded] at mint
          cases mint
    · cases loaded : readPubkey (ledger destination.pubkey).data 32
          (.program .invalidAccountData) with
      | ok value =>
          rw [loaded] at read
          exact congrArg Except.ok (Option.some.inj read)
      | error reason =>
          rw [loaded] at read
          cases read
  · cases found

variable (free : rt.CollisionFree (RuleKey.derivation '' inPlay))
  (own : ∀ slot ∈ slots recipients, ⟨pair, slot⟩ ∈ inPlay)
include free own

/-- A call of a recording rule charges the pair where it is given its account. -/
theorem checkDailyLimit_records (represents : Represents rt pair recipients ledger policy)
    {account : AccountMeta} (recipient : Pubkey)
    (success : DailyLimit.checkTransfer rt env.clock ledger account amount = .ok next) :
    ∃ changed, check (paymentOf env amount recipient) policy
        (if some account.pubkey = some (RuleKey.address rt ⟨pair, .dailyLimit⟩) then [.dailyLimit]
          else []) = .ok changed ∧
      Represents rt pair recipients next changed := by
  by_cases here : account.pubkey = RuleKey.address rt ⟨pair, .dailyLimit⟩
  · have writable := ((DailyLimit.checkTransfer_eq_ok _ _ _ _ _ _).mp success).1
    have agree : Agrees (Represents rt pair recipients) _
        (obey (paymentOf env amount recipient) policy .dailyLimit) :=
      dailyLimit_agrees free own represents writable here
    simp only [here, ↓reduceIte, check_singleton]
    exact agree.ok_of_ok success
  · simp only [Option.some.injEq, here, ↓reduceIte]
    exact ⟨policy, rfl, checkDailyLimit_foreign represents here success⟩

theorem checkCooloff_records (represents : Represents rt pair recipients ledger policy)
    {account : AccountMeta} (recipient : Pubkey)
    (success : Cooloff.checkTransfer rt env.clock ledger account amount = .ok next) :
    ∃ changed, check (paymentOf env amount recipient) policy
        (if some account.pubkey = some (RuleKey.address rt ⟨pair, .cooloff⟩) then [.cooloff]
          else []) = .ok changed ∧
      Represents rt pair recipients next changed := by
  by_cases here : account.pubkey = RuleKey.address rt ⟨pair, .cooloff⟩
  · have writable := ((Cooloff.checkTransfer_eq_ok _ _ _ _ _ _).mp success).1
    have agree : Agrees (Represents rt pair recipients) _
        (obey (paymentOf env amount recipient) policy .cooloff) :=
      cooloff_agrees free own represents writable here
    simp only [here, ↓reduceIte, check_singleton]
    exact agree.ok_of_ok success
  · simp only [Option.some.injEq, here, ↓reduceIte]
    exact ⟨policy, rfl, checkCooloff_foreign represents here success⟩

/-- A hook call with whatever accounts does the same for both rules. -/
theorem execute_records (represents : Represents rt pair recipients ledger policy)
    {accounts : List AccountMeta} (recipient : Pubkey)
    (success : Hook.execute rt env ledger accounts amount = .ok next) :
    ∃ changed, check (paymentOf env amount recipient) policy (Event.touched rt pair accounts) =
        .ok changed ∧
      Represents rt pair recipients next changed := by
  obtain ⟨parsed, tried, handled⟩ := (bind_eq_ok _ _ _).mp success
  rcases Hook.toList_or_short rt accounts with ⟨execute, tail, rfl⟩ | short
  · rw [Hook.tryAccounts_toList rt tried] at handled
    simp only [Hook.executeHandler, bind_eq_ok, pure, Except.pure, Except.ok.injEq] at handled
    obtain ⟨spent, charged, _, _, _, _, rested, paused, _, _, _, _, _, _, same⟩ := handled
    obtain ⟨first, recorded, represents⟩ :=
      checkDailyLimit_records free own represents recipient charged
    obtain ⟨second, noted, represents⟩ := checkCooloff_records free own represents recipient paused
    refine ⟨second, ?_, same ▸ represents⟩
    have places : Event.touched rt pair (execute.toList ++ tail) =
        (if some execute.dailyLimitPda.pubkey = some (RuleKey.address rt ⟨pair, .dailyLimit⟩) then
          [.dailyLimit] else []) ++
        (if some execute.cooloffPda.pubkey = some (RuleKey.address rt ⟨pair, .cooloff⟩) then
          [.cooloff] else []) := rfl
    rw [places, check_append, recorded]
    exact noted
  · rw [short] at tried
    cases tried

theorem execute_mirrors (represents : Represents rt pair recipients ledger policy)
    (accounts : List AccountMeta) :
    Mirrors rt pair recipients policy (Hook.execute rt env ledger accounts amount)
      (Event.observeExecute rt pair recipients ledger env accounts amount) := by
  unfold Event.observeExecute
  cases found : Event.recipientOf rt pair recipients ledger accounts with
  | some recipient =>
      obtain ⟨source, destination, same, known, mint, held⟩ := recipientOf_eq_some found
      rw [same]
      exact execute_agrees free own known represents mint held
  | none =>
      cases outcome : Hook.execute rt env ledger accounts amount with
      | ok next =>
          obtain ⟨changed, recorded, after⟩ := execute_records free own represents .default outcome
          show Agrees _ _ (check _ _ _)
          rw [recorded]
          exact .ok after
      | error reason => exact fun next success => nomatch success

theorem Setting.set_mirrors {α β : Type} (setting : Setting α β)
    (represents : Represents rt pair recipients ledger policy) {accounts : SetConfig}
    {handler : UInt8 → α → Except Error α} {spec : Option β → Except Refusal β} {action : Action}
    (member : ⟨⟨accounts.sender.pubkey, accounts.stedeMint⟩, setting.slot⟩ ∈ inPlay)
    (claims : setting.kind.Claims accounts.sender.pubkey accounts.stedeMint handler)
    (follows : accounts.sender.pubkey = pair.sender → setting.Follows handler spec)
    (acts : step pair.sender policy action =
      (spec (setting.get policy)).map fun content => setting.put policy (some content)) :
    Mirrors rt pair recipients policy (setting.kind.set rt ledger accounts handler)
      (if Owned rt pair setting.slot accounts then some action else none) := by
  refine mirrors_ite (fun owned => ?_) fun foreign next success =>
    setting.set_foreign free own represents member foreign success
  rw [acts]
  exact setting.set free own represents owned claims (follows owned.2.1)

theorem Setting.disable_mirrors {α β : Type} (setting : Setting α β)
    (represents : Represents rt pair recipients ledger policy) {accounts : DisableConfig}
    {action : Action}
    (acts : step pair.sender policy action =
      (permit (setting.get policy).isSome .unset).map fun _ => setting.put policy none) :
    Mirrors rt pair recipients policy (setting.kind.disable rt ledger accounts)
      (if OwnedForDisable rt pair setting.slot accounts then some action else none) := by
  refine mirrors_ite (fun owned => ?_) fun foreign next success =>
    setting.disable_foreign represents foreign success
  rw [acts]
  exact setting.disable free own represents owned

/-- Every event is an action of the policy, with its verdict, or leaves it alone. -/
theorem happen_mirrors (represents : Represents rt pair recipients ledger policy) {event : Event}
    (within : event.Within rt pair recipients inPlay) :
    Mirrors rt pair recipients policy (event.happen rt ledger)
      (event.observe rt pair recipients ledger) := by
  have derived := within.derived
  cases event with
  | elsewhere key account =>
      intro next success
      rw [← Except.ok.inj success]
      apply represents.congr
      intro slot member
      exact Ledger.write_of_ne (within.outside key account rfl slot member).symm
  | gift key lamports =>
      intro next success slot member
      rw [← Except.ok.inj success]
      by_cases here : RuleKey.address rt ⟨pair, slot⟩ = key
      · rw [← here, Ledger.write_self]
        exact (represents slot member).gift lamports
      · rw [Ledger.write_of_ne here]
        exact represents slot member
  | instruction env call =>
      cases call with
      | setLimit accounts limit =>
          unfold Event.happen Instruction.process DailyLimit.setLimit
          exact budgetSetting.set_mirrors free own represents (derived _ rfl)
            (DailyLimit.setLimitHandler_claims _ _ _ _) (fun _ => setLimit_follows _ _ _ _) rfl
      | addBlocked accounts blockedWallet =>
          unfold Event.happen Instruction.process BlockList.addBlocked
          exact blockedSetting.set_mirrors free own represents (derived _ rfl)
            (BlockList.addBlockedHandler_claims _ _ _) (fun _ => addBlocked_follows _ _ _) rfl
      | removeBlocked accounts blockedWallet =>
          unfold Event.observe
          exact mirrors_ite (fun owned => removeBlocked_agrees free own represents owned blockedWallet)
            fun foreign next success =>
              removeBlocked_foreign free own represents (derived _ rfl) foreign success
      | setCooloff accounts threshold durationSeconds =>
          unfold Event.happen Instruction.process Cooloff.setCooloff
          exact pauseSetting.set_mirrors free own represents (derived _ rfl)
            (Cooloff.setCooloffHandler_claims _ _ _ _) (fun _ => setCooloff_follows _ _ _ _) rfl
      | disableCooloff accounts =>
          exact pauseSetting.disable_mirrors free own represents rfl
      | setSlowSend accounts delaySeconds =>
          unfold Event.happen Instruction.process SlowSend.setSlowSend
          exact delaySetting.set_mirrors free own represents (derived _ rfl)
            (SlowSend.setSlowSendHandler_claims _ _ _) (fun _ => setSlowSend_follows _ _ _) rfl
      | disableSlowSend accounts =>
          exact delaySetting.disable_mirrors free own represents rfl
      | registerRecipient accounts recipient =>
          exact mirrors_ite
            (fun owned => registerRecipient_agrees free own represents owned.1 owned.2 env.clock)
            fun foreign next success =>
              registerRecipient_foreign free own represents (derived _ rfl) foreign success
      | setTimeWindow accounts startHour endHour =>
          unfold Event.happen Instruction.process TimeWindowConfig.setTimeWindow
          exact nightSetting.set_mirrors free own represents (derived _ rfl)
            (TimeWindowConfig.setTimeWindowHandler_claims _ _ _ _) (fun _ => setTimeWindow_follows _ _ _ _) rfl
      | disableTimeWindow accounts =>
          exact nightSetting.disable_mirrors free own represents rfl
      | setFriendGate accounts threshold friendWallet =>
          unfold Event.happen Instruction.process FriendGate.setFriendGate
          exact gateSetting.set_mirrors free own represents (derived _ rfl)
            (FriendGate.setFriendGateHandler_claims _ _ _ _) (fun mine => setFriendGate_follows _ _ mine _ _) rfl
      | disableFriendGate accounts =>
          exact gateSetting.disable_mirrors free own represents rfl
      | checkDailyLimit account amount =>
          refine mirrors_ite (fun given => ?_) fun foreign next success => ?_
          · rw [step, check_singleton]
            exact dailyLimit_agrees free own represents given.1 given.2
          · have writable := ((DailyLimit.checkTransfer_eq_ok _ _ _ _ _ _).mp success).1
            exact checkDailyLimit_foreign represents (fun here => foreign ⟨writable, here⟩) success
      | checkCooloff account amount =>
          refine mirrors_ite (fun given => ?_) fun foreign next success => ?_
          · rw [step, check_singleton]
            exact cooloff_agrees free own represents given.1 given.2
          · have writable := ((Cooloff.checkTransfer_eq_ok _ _ _ _ _ _).mp success).1
            exact checkCooloff_foreign represents (fun here => foreign ⟨writable, here⟩) success
      | checkBlockList account recipient =>
          refine mirrors_ite (fun given => ?_) fun _ next success =>
            represents_of_answer represents success
          rw [step, check_singleton]
          exact agrees_of_answer represents (blockList_agrees represents given)
      | checkSlowSend config contact destinationToken =>
          unfold Event.observe
          cases read : readPubkey (ledger destinationToken.pubkey).data 32
              (.program .invalidAccountData) with
          | error reason =>
              simp only [read]
              exact fun next success => represents_of_answer represents success
          | ok recipient =>
              simp only [read]
              refine mirrors_ite (fun given => ?_) fun _ next success =>
                represents_of_answer represents success
              rw [step, check_singleton]
              exact agrees_of_answer represents
                (slowSend_agrees represents given.2.2 given.1 given.2.1 read)
      | checkTimeWindow config sender stedeMint amount =>
          refine mirrors_ite (fun given => ?_) fun _ next success =>
            represents_of_answer represents success
          rw [step, check_singleton]
          exact agrees_of_answer represents (timeWindow_agrees represents given.1 given.2.1 given.2.2)
      | checkFriendGate config instructionsSysvar amount =>
          refine mirrors_ite (fun given => ?_) fun _ next success =>
            represents_of_answer represents success
          rw [step, check_singleton]
          exact agrees_of_answer represents (friendGate_agrees represents given.1 given.2)
      | execute accounts amount => exact execute_mirrors free own represents accounts
      | fallback accounts data =>
          show Mirrors _ _ _ _ (Hook.fallback rt env ledger accounts data) _
          by_cases served : data.take 8 = Hook.EXECUTE_DISCRIMINATOR ∧ 16 ≤ data.length
          · simp only [Hook.fallback, Event.observe, served, and_self, ↓reduceIte]
            cases read : readU64 data 8 with
            | ok amount => exact execute_mirrors free own represents accounts
            | error reason =>
                intro next success
                cases success
          · have refused : Hook.fallback rt env ledger accounts data =
                .error (.program .invalidInstructionData) := by
              simp only [Hook.fallback, require, served, ↓reduceIte]
              rfl
            simp only [refused, Event.observe, served, ↓reduceIte]
            intro next success
            cases success

theorem happen_simulates {events : List Event}
    (within : ∀ event ∈ events, event.Within rt pair recipients inPlay) :
    Refinement.Simulates (Event.happen rt) (step pair.sender)
      (fun ledger event => event.observe rt pair recipients ledger) Error.refusal
      (Represents rt pair recipients) events where
  seen ledger policy event action member represents observed := by
    have mirrors := happen_mirrors free own represents (within event member)
    rw [observed] at mirrors
    exact mirrors
  unseen ledger policy event next member represents hidden := by
    have mirrors := happen_mirrors free own represents (within event member)
    rw [hidden] at mirrors
    exact mirrors next

end Mirrors

/-- Over any run of anybody's instructions, gifts and writes elsewhere, the accounts of
a pair hold the policy that the observed actions make of the empty one, and each of
these succeeds, or is refused for the reason, that the policy says. -/
theorem policy_refined (rt : Runtime) (pair : SenderMint) (recipients : Finset Pubkey)
    (inPlay : Set RuleKey) (free : rt.CollisionFree (RuleKey.derivation '' inPlay))
    (own : ∀ slot ∈ slots recipients, ⟨pair, slot⟩ ∈ inPlay) (start : Ledger)
    (unused : ∀ slot ∈ slots recipients, (start (RuleKey.address rt ⟨pair, slot⟩)).Unused)
    (events : List Event) (within : ∀ event ∈ events, event.Within rt pair recipients inPlay) :
    Represents rt pair recipients (Run.run (Event.happen rt) start events)
      (Run.run (step pair.sender) empty (Refinement.observed (Event.happen rt)
        (fun ledger event => event.observe rt pair recipients ledger) start events)) ∧
    Refinement.verdicts (Event.happen rt)
        (fun ledger event => event.observe rt pair recipients ledger) Error.refusal start events =
      (Run.trace (step pair.sender) empty (Refinement.observed (Event.happen rt)
        (fun ledger event => event.observe rt pair recipients ledger) start events)).map
          fun entry => entry.2.mapError some :=
  (happen_simulates free own within).run (represents_empty unused)

/- A budget, a waiting period and three transfers, on a chain with one mint, wallet 2,
and one token account of it, wallet 4, which belongs to wallet 5. -/
section Sample

open Stede.Runtime (sampleKey)

def samplePair : SenderMint := ⟨sampleKey 1, sampleKey 2⟩

def sampleKeys : List RuleKey :=
  [.dailyLimit, .blockList, .cooloff, .slowSendConfig, .slowSendContact (sampleKey 5), .timeWindow,
    .friendGate].map fun slot => ⟨samplePair, slot⟩

/-- What wallet 1 signs for one of its accounts. -/
def sampleSet (slot : RuleSlot) : SetConfig :=
  ⟨⟨sampleKey 1, true, true⟩, sampleKey 2, RuleKey.address .sample ⟨samplePair, slot⟩⟩

def sampleTransfer (now : Int64) (amount : UInt64) : Event :=
  .instruction ⟨⟨500, now⟩, [[]], 0⟩ (.execute (resolvedAccounts .sample (sampleKey 6) (sampleKey 2)
    (sampleKey 4) (sampleKey 1) (sampleKey 5)).toList amount)

def sampleEvents : List Event :=
  [.gift (RuleKey.address .sample ⟨samplePair, .dailyLimit⟩) 5,
    .instruction Hook.sampleEnv (.setLimit (sampleSet .dailyLimit) 100),
    .instruction Hook.sampleEnv (.setSlowSend (sampleSet .slowSendConfig) 60),
    .instruction ⟨⟨500, 1000⟩, [[]], 0⟩ (.registerRecipient ⟨⟨sampleKey 1, true, true⟩, sampleKey 2,
      RuleKey.address .sample ⟨samplePair, .slowSendContact (sampleKey 5)⟩⟩ (sampleKey 5)),
    sampleTransfer 1059 60, sampleTransfer 1060 60, sampleTransfer 1061 60]

theorem sample_free : Runtime.CollisionFree .sample (RuleKey.derivation '' {key | key ∈ sampleKeys}) :=
  RuleKey.free_of_nodup (by decide +kernel)

theorem sample_own : ∀ slot ∈ slots {sampleKey 5}, ⟨samplePair, slot⟩ ∈ {key | key ∈ sampleKeys} := by
  intro slot member
  cases slot with
  | slowSendContact recipient =>
      rw [Finset.mem_singleton.mp (member recipient rfl)]
      decide
  | _ => decide

theorem sample_unused : ∀ key ∈ sampleKeys, (Hook.sampleLedger (key.address .sample)).Unused := by
  have unused : ∀ key ∈ sampleKeys, (Hook.sampleLedger (key.address .sample)).owner = Programs.system ∧
      (Hook.sampleLedger (key.address .sample)).data = [] := by
    decide +kernel
  exact unused

theorem sample_within : ∀ event ∈ sampleEvents, event.Within .sample samplePair {sampleKey 5}
    {key | key ∈ sampleKeys} := by
  intro event member
  simp only [sampleEvents, List.mem_cons, List.not_mem_nil, or_false] at member
  constructor
  · intro key derives
    rcases member with rfl | rfl | rfl | rfl | rfl | rfl | rfl <;> cases derives <;> decide
  · intro key account same
    rcases member with rfl | rfl | rfl | rfl | rfl | rfl | rfl <;> cases same

theorem policy_refined_sample :
    Represents .sample samplePair {sampleKey 5}
        (Run.run (Event.happen .sample) Hook.sampleLedger sampleEvents)
        (Run.run (step samplePair.sender) empty (Refinement.observed (Event.happen .sample)
          (fun ledger event => event.observe .sample samplePair {sampleKey 5} ledger)
          Hook.sampleLedger sampleEvents)) :=
  (policy_refined .sample samplePair {sampleKey 5} {key | key ∈ sampleKeys} sample_free sample_own
    Hook.sampleLedger (fun slot member => sample_unused _ (sample_own slot member)) sampleEvents
    sample_within).1

/-- The first transfer comes a second too early, and the third exceeds the budget. -/
example : Refinement.verdicts (Event.happen .sample)
      (fun ledger event => event.observe .sample samplePair {sampleKey 5} ledger) Error.refusal
      Hook.sampleLedger sampleEvents =
    [.ok (), .ok (), .ok (), .error (some .waiting), .ok (), .error (some .overBudget)] := by
  decide +kernel

end Sample

end Stede.Policy
