import Stede.Hook.CoSignature
import Stede.Policy.Settings
import Stede.Rules.NightMode

set_option autoImplicit false

/- The check of each rule on the accounts of the pair, as what the policy says. -/
namespace Stede.Policy

/-- The signers that the friend gate looks at: those of the instructions up to the
current one. -/
def cosigners (env : Env) : Finset Pubkey :=
  ((env.instructions.take (env.currentIndex + 1)).flatMap FriendGate.signersOf).toFinset

def paymentOf (env : Env) (amount : UInt64) (recipient : Pubkey) : Payment :=
  ⟨env.clock.slot.toNat, env.clock.unixTimestamp.toInt, amount.toNat, recipient, cosigners env⟩

theorem mem_cosigners {env : Env} {friend : Pubkey} :
    friend ∈ cosigners env ↔ FriendGate.friendSigned env friend = true := by
  rw [FriendGate.friendSigned_iff, cosigners, List.mem_toFinset, List.mem_flatMap]
  constructor
  · rintro ⟨accounts, member, signed⟩
    obtain ⟨index, before, loaded⟩ := List.mem_take_iff_getElem.mp member
    refine ⟨index, accounts, by omega, ?_, signed⟩
    rw [List.getElem?_eq_some_iff]
    exact ⟨by omega, loaded⟩
  · rintro ⟨index, accounts, before, loaded, signed⟩
    obtain ⟨inside, same⟩ := List.getElem?_eq_some_iff.mp loaded
    refine ⟨accounts, ?_, signed⟩
    exact List.mem_take_iff_getElem.mpr ⟨index, by omega, same⟩

section Values

variable (env : Env) (amount : UInt64) (recipient : Pubkey)

/-- Checked subtraction is the difference, or the refusal of the clock. -/
theorem agrees_elapsed (now since : Int64) {error : Error} (reads : error.refusal = some .clock) :
    Agrees (fun difference waited => difference.toInt = waited)
      (okOr (Checked.subI64 now since) error) (elapsed now.toInt since.toInt) := by
  unfold elapsed
  split
  · rename_i fits
    obtain ⟨difference, defined, value⟩ := Checked.subI64_of_fits now since fits.1 fits.2
    rw [defined]
    exact .ok value
  · rename_i outside
    have absent : Checked.subI64 now since = none := by
      simp only [Checked.subI64, outside, ↓reduceIte]
    rw [absent]
    exact .error reads

theorem charge_eq (payment : Payment) (budget : Budget) :
    charge payment budget =
      (permit ((budget.meter.rolled slotsPerDay payment.slot).spent + payment.amount ≤ budget.cap)
        .overBudget).map fun _ => ⟨budget.cap,
          (budget.meter.rolled slotsPerDay payment.slot).spent + payment.amount,
          (budget.meter.rolled slotsPerDay payment.slot).start⟩ := by
  unfold charge Window.charge permit
  by_cases room : (budget.meter.rolled slotsPerDay payment.slot).spent + payment.amount ≤ budget.cap
  · simp only [room, ↓reduceIte]
    rfl
  · simp only [room, ↓reduceIte]
    rfl

theorem rolled_kept (slot : UInt64) (value : DailyLimit) :
    (value.rolled slot).sender = value.sender ∧ (value.rolled slot).stedeMint = value.stedeMint ∧
      (value.rolled slot).bump = value.bump ∧ (value.rolled slot).limit = value.limit := by
  unfold DailyLimit.rolled
  split <;> exact ⟨rfl, rfl, rfl, rfl⟩

theorem spend_agrees (value : DailyLimit) :
    Agrees (fun charged budget => charged.budget = budget ∧ charged.sender = value.sender ∧
        charged.stedeMint = value.stedeMint ∧ charged.bump = value.bump)
      (value.spend env.clock.slot amount) (charge (paymentOf env amount recipient) value.budget) := by
  obtain ⟨sender, stedeMint, bump, limit⟩ := rolled_kept env.clock.slot value
  have rolled : (value.rolled env.clock.slot).meter =
      value.meter.rolled slotsPerDay env.clock.slot.toNat := DailyLimit.rolled_meter env.clock.slot value
  rw [charge_eq]
  show Agrees _ _ ((permit ((value.meter.rolled slotsPerDay env.clock.slot.toNat).spent +
    amount.toNat ≤ value.limit.toNat) .overBudget).map fun _ => (⟨value.limit.toNat,
      (value.meter.rolled slotsPerDay env.clock.slot.toNat).spent + amount.toNat,
      (value.meter.rolled slotsPerDay env.clock.slot.toNat).start⟩ : Budget))
  rw [← rolled]
  have bound := value.limit.toNat_lt
  cases sum : Checked.addU64 (value.rolled env.clock.slot).spentToday amount with
  | none =>
      -- a sum that does not fit is over any limit
      have large := (Checked.addU64_eq_none _ _).mp sum
      have beyond : ¬ (value.rolled env.clock.slot).meter.spent + amount.toNat ≤ value.limit.toNat := by
        show ¬ (value.rolled env.clock.slot).spentToday.toNat + amount.toNat ≤ _
        omega
      simp only [DailyLimit.spend, sum, okOr, permit, beyond, ↓reduceIte]
      exact .error rfl
  | some total =>
      have value_total := (Checked.addU64_eq_some _ _ _).mp sum
      have same : total ≤ (value.rolled env.clock.slot).limit ↔
          (value.rolled env.clock.slot).meter.spent + amount.toNat ≤ value.limit.toNat := by
        rw [limit, UInt64.le_iff_toNat_le, value_total]
        exact Iff.rfl
      simp only [DailyLimit.spend, sum, okOr, ok_bind]
      by_cases room : (value.rolled env.clock.slot).meter.spent + amount.toNat ≤ value.limit.toNat
      · simp only [require_of_true (same.mpr room), ok_bind, permit, room, ↓reduceIte]
        refine .ok ⟨?_, sender, stedeMint, bump⟩
        show (⟨_, ⟨total.toNat, _⟩⟩ : Budget) = _
        rw [value_total, limit]
        rfl
      · simp only [require, same.not.mpr room, permit, room, ↓reduceIte]
        exact .error rfl

/-- A transfer below the threshold leaves the pause alone, a larger one restarts it. -/
theorem rest_agrees (value : Cooloff) {account : Account} {held : Cooloff → Account}
    (same : account = held value)
    (stores : ∀ next, Cooloff.kind.store next account = .ok (held next)) :
    Agrees (fun after pause => ∃ next : Cooloff, after = held next ∧ next.pause = pause ∧
        next.sender = value.sender ∧ next.stedeMint = value.stedeMint ∧ next.bump = value.bump)
      (if amount < value.threshold then .ok account
      else do
        let elapsed ← okOr (Checked.subI64 env.clock.unixTimestamp value.lastLargeTransferAt)
          (.cooloff .overflow)
        require (value.durationSeconds ≤ elapsed) (.cooloff .cooloffActive)
        Cooloff.kind.store { value with lastLargeTransferAt := env.clock.unixTimestamp } account)
      (rest (paymentOf env amount recipient) value.pause) := by
  unfold rest
  by_cases small : amount < value.threshold
  · have below : (paymentOf env amount recipient).amount < value.pause.threshold :=
      UInt64.lt_iff_toNat_lt.mp small
    simp only [small, below, ↓reduceIte]
    exact .ok ⟨value, same, rfl, rfl, rfl, rfl⟩
  · have above : ¬ (paymentOf env amount recipient).amount < value.pause.threshold :=
      UInt64.lt_iff_toNat_lt.not.mp small
    simp only [small, above, ↓reduceIte]
    refine (agrees_elapsed _ _ rfl).bind fun difference waited _ passed => ?_
    have late : value.durationSeconds ≤ difference ↔ value.pause.duration ≤ waited := by
      rw [Int64.le_iff_toInt_le, passed]
      exact Iff.rfl
    refine (agrees_require late rfl).bind fun _ _ _ _ => ?_
    rw [stores]
    exact .ok ⟨_, rfl, rfl, rfl, rfl, rfl⟩

theorem meet_agrees (value : SlowSendConfig) (contact : SlowSendContact)
    {contacts : Pubkey → Option Int} (known : contacts recipient = some contact.firstContactAt.toInt) :
    Agrees (fun _ _ => True)
      (do
        let elapsed ← okOr (Checked.subI64 env.clock.unixTimestamp contact.firstContactAt)
          (.slowSend .overflow)
        require (value.delaySeconds ≤ elapsed) (.slowSend .waitingPeriodActive))
      (meet (paymentOf env amount recipient) contacts value.delay) := by
  have found : contacts (paymentOf env amount recipient).recipient =
      some contact.firstContactAt.toInt := known
  simp only [meet, found]
  refine (agrees_elapsed _ _ rfl).bind fun difference waited _ passed => ?_
  apply agrees_require _ rfl
  rw [Int64.le_iff_toInt_le, passed]
  exact Iff.rfl

theorem awake_agrees {value : TimeWindowConfig} (valid : value.Valid) :
    Agrees (fun _ _ => True)
      (require (TimeWindowConfig.blocks value.startHour value.endHour
        (TimeWindowConfig.hourOf env.clock.unixTimestamp) = false) (.timeWindow .withinBlockedWindow))
      (awake (paymentOf env amount recipient) value.night) := by
  apply agrees_require _ rfl
  rw [← Bool.not_eq_true, TimeWindowConfig.blocks_iff valid.1 valid.2, TimeWindowConfig.InWindow]
  have turn := Int.emod_sub_emod env.clock.unixTimestamp.toInt 86400 (3600 * value.startHour.toNat)
  show ¬ (env.clock.unixTimestamp.toInt % 86400 - 3600 * (value.startHour.toNat : Int)) % 86400 < _ ↔ _
  rw [turn]
  exact Iff.rfl

theorem cosigned_agrees (value : FriendGate) {instructionsSysvar : Pubkey}
    (real : instructionsSysvar = Programs.instructionsSysvar) :
    Agrees (fun _ _ => True)
      (if amount < value.threshold then .ok ()
      else do
        require (instructionsSysvar = Programs.instructionsSysvar) (.friendGate .sysvarReadFailed)
        require (FriendGate.friendSigned env value.friendWallet) (.friendGate .friendSignatureRequired))
      (cosigned (paymentOf env amount recipient) value.gate) := by
  by_cases small : amount < value.threshold
  · have passes : (paymentOf env amount recipient).amount < value.gate.threshold ∨
        value.gate.friend ∈ (paymentOf env amount recipient).cosigners :=
      Or.inl (UInt64.lt_iff_toNat_lt.mp small)
    simp only [small, ↓reduceIte, cosigned, permit, passes]
    exact .ok trivial
  · simp only [small, ↓reduceIte, require_of_true real, ok_bind]
    apply agrees_require _ rfl
    have above : ¬ (paymentOf env amount recipient).amount < value.gate.threshold :=
      UInt64.lt_iff_toNat_lt.not.mp small
    rw [or_iff_right above]
    exact mem_cosigners.symm

end Values

section Accounts

variable {rt : Runtime} {pair : SenderMint} {recipients : Finset Pubkey} {inPlay : Set RuleKey}
  {ledger : Ledger} {policy : Policy} {α β : Type} (setting : Setting α β)

/-- A check that only answers, by what it says of a value. -/
theorem Setting.answered (represents : Represents rt pair recipients ledger policy)
    {check : Except Error Unit} (spec : β → Except Refusal Unit)
    (unused : (ledger (RuleKey.address rt ⟨pair, setting.slot⟩)).Unused → check = .ok ())
    (agrees : ∀ value, setting.good value →
      setting.kind.Live rt (RuleKey.address rt ⟨pair, setting.slot⟩) value
        (ledger (RuleKey.address rt ⟨pair, setting.slot⟩)) →
      setting.kind.sender value = pair.sender ∧ setting.kind.stedeMint value = pair.stedeMint →
      Agrees (fun _ _ => True) check (spec (setting.view value))) :
    Agrees (fun next changed => next = ledger ∧ changed = policy) (check >>= fun _ => pure ledger)
      (under (setting.get policy) policy fun content => (spec content).map fun _ => policy) := by
  rw [← map_eq_bind]
  rcases setting.shown represents with ⟨vacant, nothing⟩ | ⟨value, live, theirs, fine, same⟩
  · rw [unused vacant, nothing]
    exact .ok ⟨rfl, rfl⟩
  · rw [← setting.address] at live
    rw [same]
    exact (agrees value fine live theirs).map fun _ _ _ _ _ => ⟨rfl, rfl⟩

variable (free : rt.CollisionFree (RuleKey.derivation '' inPlay))
  (own : ∀ slot ∈ slots recipients, ⟨pair, slot⟩ ∈ inPlay)
  (represents : Represents rt pair recipients ledger policy)
include free own represents

/-- A check that writes its account, by what it makes of a value. -/
theorem Setting.recorded {invalid : Error} {body : α → Except Error Account}
    (spec : β → Except Refusal β) {key : Pubkey}
    (here : key = RuleKey.address rt ⟨pair, setting.slot⟩)
    (agrees : ∀ value, setting.kind.Live rt key value (ledger key) →
      Agrees (fun after content => ∃ next, after = setting.kind.held (ledger key).lamports next ∧
          setting.good next ∧ setting.view next = content ∧
          setting.kind.sender next = setting.kind.sender value ∧
          setting.kind.stedeMint next = setting.kind.stedeMint value ∧
          setting.kind.bump next = setting.kind.bump value)
        (body value) (spec (setting.view value))) :
    Agrees (Represents rt pair recipients)
      (setting.kind.checked rt invalid key (ledger key) (ledger key) body >>= fun account =>
        pure (ledger.write key account))
      (under (setting.get policy) policy fun content =>
        (spec content).map fun content => setting.put policy (some content)) := by
  rw [← map_eq_bind]
  rcases setting.shown represents with ⟨unused, nothing⟩ | ⟨value, live, theirs, _, same⟩
  · rw [← here] at unused
    rw [ConfigKind.checked_of_unused unused, nothing]
    refine .ok ?_
    have kept : ledger.write key (ledger key) = ledger := Function.update_eq_self ..
    rw [kept]
    exact represents
  · rw [← setting.address, ← here] at live
    rw [live.checked, same]
    refine (agrees value live).map fun after content _ _ ⟨next, written, fine, shown, kept⟩ => ?_
    rw [written, ← shown, here]
    rw [here] at live
    apply setting.written free own represents
    rw [setting.address] at live ⊢
    exact live.rewritten theirs kept fine

end Accounts

section Rules

variable {rt : Runtime} {pair : SenderMint} {recipients : Finset Pubkey} {inPlay : Set RuleKey}
  {ledger : Ledger} {policy : Policy} {env : Env} {amount : UInt64} {recipient : Pubkey}
  (free : rt.CollisionFree (RuleKey.derivation '' inPlay))
  (own : ∀ slot ∈ slots recipients, ⟨pair, slot⟩ ∈ inPlay)
  (represents : Represents rt pair recipients ledger policy)

section Recording

include free own represents

theorem dailyLimit_agrees {account : AccountMeta} (writable : account.isWritable = true)
    (here : account.pubkey = RuleKey.address rt ⟨pair, .dailyLimit⟩) :
    Agrees (Represents rt pair recipients)
      (DailyLimit.checkTransfer rt env.clock ledger account amount)
      (obey (paymentOf env amount recipient) policy .dailyLimit) := by
  rw [DailyLimit.checkTransfer, require_of_true writable, ok_bind]
  refine budgetSetting.recorded free own represents (charge (paymentOf env amount recipient)) here ?_
  · intro value live
    have stores : (fun next => DailyLimit.kind.store next (ledger account.pubkey)) = fun next =>
        pure (DailyLimit.kind.held (ledger account.pubkey).lamports next) := funext live.store
    show Agrees _ (value.spend env.clock.slot amount >>= fun next =>
      DailyLimit.kind.store next (ledger account.pubkey)) _
    rw [stores, ← map_eq_bind]
    exact (spend_agrees env amount recipient value).map_left fun charged budget _ kept =>
      ⟨charged, rfl, trivial, kept⟩

theorem cooloff_agrees {account : AccountMeta} (writable : account.isWritable = true)
    (here : account.pubkey = RuleKey.address rt ⟨pair, .cooloff⟩) :
    Agrees (Represents rt pair recipients)
      (Cooloff.checkTransfer rt env.clock ledger account amount)
      (obey (paymentOf env amount recipient) policy .cooloff) := by
  rw [Cooloff.checkTransfer, require_of_true writable, ok_bind]
  refine pauseSetting.recorded free own represents (rest (paymentOf env amount recipient)) here ?_
  · intro value live
    refine (rest_agrees env amount recipient value live.holds live.store).mono ?_
    rintro after pause _ _ ⟨next, written, shown, kept⟩
    exact ⟨next, written, trivial, shown, kept⟩

end Recording

section Answering

include represents

theorem blockList_agrees {account : AccountMeta}
    (here : account.pubkey = RuleKey.address rt ⟨pair, .blockList⟩) :
    Agrees (fun next changed => next = ledger ∧ changed = policy)
      (BlockList.checkTransfer rt ledger account recipient >>= fun _ => pure ledger)
      (obey (paymentOf env amount recipient) policy .blockHandle) := by
  refine blockedSetting.answered represents
    (fun blocked => permit (recipient ∉ blocked) .recipientBlocked) ?_ ?_
  · intro unused
    rw [BlockList.checkTransfer, here]
    exact ConfigKind.checked_of_unused unused _ _ _
  · intro value sound live _
    rw [BlockList.checkTransfer, here]
    refine (congrArg (Agrees _ · _) (live.checked _ _ _)).mpr ?_
    apply agrees_require _ rfl
    rw [BlockList.find_eq, Slots.find_eq_none]
    exact Iff.rfl

theorem slowSend_agrees {config contact destinationToken : AccountMeta}
    (known : recipient ∈ recipients)
    (here : config.pubkey = RuleKey.address rt ⟨pair, .slowSendConfig⟩)
    (there : contact.pubkey = RuleKey.address rt ⟨pair, .slowSendContact recipient⟩)
    (owned : readPubkey (ledger destinationToken.pubkey).data 32 (.program .invalidAccountData) =
      .ok recipient) :
    Agrees (fun next changed => next = ledger ∧ changed = policy)
      (SlowSend.checkTransfer rt env.clock ledger config contact destinationToken >>= fun _ =>
        pure ledger)
      (obey (paymentOf env amount recipient) policy .newRecipientDelay) := by
  refine delaySetting.answered represents
    (fun delay => meet (paymentOf env amount recipient) policy.contacts delay) ?_ ?_
  · intro unused
    rw [SlowSend.checkTransfer, here]
    exact SlowSend.checkTransferHandler_unused unused _
  · rintro value _ live ⟨sender, stedeMint⟩
    have sender : value.sender = pair.sender := sender
    have stedeMint : value.stedeMint = pair.stedeMint := stedeMint
    have derived : contact.pubkey =
        (SlowSendContact.pda rt value.sender recipient value.stedeMint).1 := by
      rw [there, sender, stedeMint]
      rfl
    rw [SlowSend.checkTransfer, here]
    rcases represents _ (contact_mem_slots known) with ⟨unused, nobody⟩ | ⟨value', registered, somebody⟩
    · rw [← there] at unused
      have refused := SlowSend.checkTransferHandler_unregistered live env.clock owned derived unused
      have unknown : policy.contacts (paymentOf env amount recipient).recipient = none := nobody
      refine (congrArg (Agrees _ · _) refused).mpr ?_
      simp only [meet, unknown]
      exact .error rfl
    · rw [← there] at registered
      have verdict := SlowSend.checkTransferHandler_registered live env.clock owned derived registered
      refine (congrArg (Agrees _ · _) verdict).mpr ?_
      exact meet_agrees env amount recipient value value' somebody

theorem timeWindow_agrees {config sender stedeMint : AccountMeta}
    (here : config.pubkey = RuleKey.address rt ⟨pair, .timeWindow⟩)
    (owner : sender.pubkey = pair.sender) (mint : stedeMint.pubkey = pair.stedeMint) :
    Agrees (fun next changed => next = ledger ∧ changed = policy)
      (TimeWindowConfig.checkTransfer rt env.clock ledger config sender stedeMint amount >>= fun _ =>
        pure ledger)
      (obey (paymentOf env amount recipient) policy .timeWindow) := by
  have derived : config.pubkey =
      (TimeWindowConfig.kind.pda rt sender.pubkey stedeMint.pubkey).1 := by
    rw [here, owner, mint]
    rfl
  rw [TimeWindowConfig.checkTransfer, require_of_true derived, ok_bind, here]
  refine nightSetting.answered represents
    (awake (paymentOf env amount recipient)) ?_ ?_
  · intro unused
    exact TimeWindowConfig.checkTransferHandler_unused unused _ _
  · intro value valid live _
    refine (congrArg (Agrees _ · _) (TimeWindowConfig.checkTransferHandler_live live _ _)).mpr ?_
    exact awake_agrees env amount recipient valid

theorem friendGate_agrees {config instructionsSysvar : AccountMeta}
    (here : config.pubkey = RuleKey.address rt ⟨pair, .friendGate⟩)
    (real : instructionsSysvar.pubkey = Programs.instructionsSysvar) :
    Agrees (fun next changed => next = ledger ∧ changed = policy)
      (FriendGate.checkTransfer rt env ledger config instructionsSysvar amount >>= fun _ =>
        pure ledger)
      (obey (paymentOf env amount recipient) policy .friendGate) := by
  rw [FriendGate.checkTransfer, here]
  refine gateSetting.answered represents
    (cosigned (paymentOf env amount recipient)) ?_ ?_
  · intro unused
    exact FriendGate.checkTransferHandler_unused unused _ _ _
  · intro value _ live _
    refine (congrArg (Agrees _ · _) (FriendGate.checkTransferHandler_live live _ _ _)).mpr ?_
    exact cosigned_agrees env amount recipient value real

end Answering

end Rules

end Stede.Policy
