import Stede.Lib.Refinement
import Stede.Policy.Machine
import Stede.Rules.BlockedSet
import Stede.Rules.DailyWindow
import Stede.Rules.Layouts
import Stede.Rules.RuleKey

set_option autoImplicit false

/- How the accounts of a sender and a mint hold a policy. -/
namespace Stede

/-- The refusal that an error of the six programs stands for. -/
def Error.refusal : Error → Option Refusal
  | .dailyLimit .zeroLimit | .blockHandle .zeroAddress | .cooloff .zeroThreshold
  | .cooloff .invalidDuration | .slowSend .invalidDelay | .timeWindow .invalidHour
  | .friendGate .zeroThreshold | .friendGate .zeroFriend | .friendGate .friendIsSelf => some .invalid
  | .anchor .accountNotInitialized | .anchor .accountOwnedByWrongProgram => some .unset
  | .blockHandle .alreadyBlocked => some .alreadyBlocked
  | .blockHandle .blockListFull => some .listFull
  | .blockHandle .notBlocked => some .notBlocked
  | .program .accountAlreadyInUse => some .alreadyRegistered
  | .dailyLimit .dailyLimitExceeded | .dailyLimit .overflow => some .overBudget
  | .blockHandle .recipientBlocked => some .recipientBlocked
  | .cooloff .cooloffActive => some .coolingOff
  | .slowSend .recipientNotRegistered => some .notRegistered
  | .slowSend .waitingPeriodActive => some .waiting
  | .timeWindow .withinBlockedWindow => some .night
  | .friendGate .friendSignatureRequired => some .uncosigned
  | .cooloff .overflow | .slowSend .overflow => some .clock
  | _ => none

/-- A computation of the programs and one of the policy have the same verdict. -/
abbrev Agrees {α β : Type} (rel : α → β → Prop) : Except Error α → Except Refusal β → Prop :=
  Refinement.Agree rel Error.refusal

theorem agrees_require {condition asked : Prop} [Decidable condition] [Decidable asked]
    (same : condition ↔ asked) {error : Error} {refusal : Refusal}
    (reads : error.refusal = some refusal) :
    Agrees (fun _ _ => True) (require condition error) (Policy.permit asked refusal) := by
  by_cases holds : condition
  · simp only [require, holds, ↓reduceIte, Policy.permit, same.mp holds]
    exact .ok trivial
  · have fails : ¬ asked := fun asked => holds (same.mpr asked)
    simp only [require, holds, ↓reduceIte, Policy.permit, fails]
    exact .error reads

theorem agrees_okOr {α : Type} {option : Option α} {asked : Prop} [Decidable asked]
    (same : option.isSome ↔ asked) {error : Error} {refusal : Refusal}
    (reads : error.refusal = some refusal) :
    Agrees (fun value _ => option = some value) (okOr option error) (Policy.permit asked refusal) := by
  cases option with
  | none =>
      have fails : ¬ asked := fun asked => nomatch same.mpr asked
      simp only [okOr, Policy.permit, fails, ↓reduceIte]
      exact .error reads
  | some value =>
      simp only [okOr, Policy.permit, same.mp rfl, ↓reduceIte]
      exact .ok rfl

namespace ConfigKind

variable {α β : Type} (kind : ConfigKind α)

/-- What is seen through `view` of the account of a pair: nothing while it is unused,
else a value of theirs that is `good`. -/
def Shows (rt : Runtime) (pair : SenderMint) (good : α → Prop) (view : α → β) (account : Account)
    (content : Option β) : Prop :=
  (account.Unused ∧ content = none) ∨
    ∃ value, kind.Live rt (kind.pda rt pair.sender pair.stedeMint).1 value account ∧
      (kind.sender value = pair.sender ∧ kind.stedeMint value = pair.stedeMint) ∧ good value ∧
      content = some (view value)

variable {kind} {rt : Runtime} {pair : SenderMint} {good : α → Prop} {view : α → β} {content : Option β}

theorem Shows.gift {account : Account} (seen : kind.Shows rt pair good view account content)
    (lamports : Nat) :
    kind.Shows rt pair good view { account with lamports := account.lamports + lamports } content := by
  rcases seen with ⟨unused, absent⟩ | ⟨value, live, theirs, fine, same⟩
  · exact Or.inl ⟨unused, absent⟩
  · exact Or.inr ⟨value, live.gift lamports, theirs, fine, same⟩

/-- What is loaded from the account is what it shows. -/
theorem Shows.of_load {account : Account} {value : α}
    (seen : kind.Shows rt pair good view account content) (loaded : kind.load account = .ok value) :
    content = some (view value) := by
  rcases seen with ⟨unused, _⟩ | ⟨held, live, _, _, shown⟩
  · exact absurd ⟨value, loaded⟩ (load_of_unused unused)
  · rw [live.load] at loaded
    rw [shown, Except.ok.inj loaded]

/-- A value of theirs in place of another is seen. -/
theorem Live.rewritten {account : Account} {value new : α}
    (live : kind.Live rt (kind.pda rt pair.sender pair.stedeMint).1 value account)
    (theirs : kind.sender value = pair.sender ∧ kind.stedeMint value = pair.stedeMint)
    (same : kind.sender new = kind.sender value ∧ kind.stedeMint new = kind.stedeMint value ∧
      kind.bump new = kind.bump value) (fine : good new) :
    kind.Shows rt pair good view (kind.held account.lamports new) (some (view new)) := by
  obtain ⟨sender, stedeMint, bump⟩ := same
  refine Or.inr ⟨new, ?_, ⟨sender.trans theirs.1, stedeMint.trans theirs.2⟩, fine, rfl⟩
  apply live.rewrite
  · rw [sender, stedeMint, bump]
    exact live.derived
  · rw [sender]
    exact live.claimed

/-- Nothing is loaded from an unused address, funded or not. -/
theorem load_unused (kind : ConfigKind α) {account : Account} (unused : account.Unused) :
    ∃ reason, kind.load account = .error reason ∧ reason.refusal = some .unset := by
  by_cases empty : account.lamports = 0
  · refine ⟨.anchor .accountNotInitialized, ?_, rfl⟩
    have vacant : ¬ ¬ (account.owner = Programs.system ∧ account.lamports = 0) :=
      not_not.mpr ⟨unused.1, empty⟩
    simp only [AccountType.load, require, vacant, ↓reduceIte]
    rfl
  · refine ⟨.anchor .accountOwnedByWrongProgram, ?_, rfl⟩
    have funded : ¬ (account.owner = Programs.system ∧ account.lamports = 0) := fun both => empty both.2
    have foreign : ¬ account.owner = kind.program := by
      rw [unused.1]
      exact Ne.symm kind.foreign
    rw [AccountType.load, require_of_true funded, ok_bind]
    simp only [require, foreign, ↓reduceIte]
    rfl

section Instructions

variable {ledger : Ledger} {accounts : SetConfig}
  {handler : UInt8 → α → Except Error α}

/-- On a live account a `set_*` instruction is its handler. -/
theorem Live.set_eq {value : α} (live : kind.Live rt accounts.config value (ledger accounts.config))
    (pays : accounts.sender.pays rt = true)
    (derived : accounts.config = (kind.pda rt accounts.sender.pubkey accounts.stedeMint).1) :
    kind.set rt ledger accounts handler =
      (handler (kind.pda rt accounts.sender.pubkey accounts.stedeMint).2 value).map fun new =>
        ledger.write accounts.config (kind.held (ledger accounts.config).lamports new) := by
  have ⟨signed, writable⟩ := (accounts.sender.pays_iff rt).mp pays
  have loads := kind.initIfNeeded_held rt accounts.sender kind.foreign live.exempt value
  rw [← live.holds] at loads
  have stores := live.store
  simp only [ConfigKind.set, require_of_true signed, require_of_true derived,
    require_of_true writable, ok_bind, loads]
  cases handled : handler (kind.pda rt accounts.sender.pubkey accounts.stedeMint).2 value with
  | error reason => rfl
  | ok new => simp only [ok_bind, stores, Except.map, pure, Except.pure]

theorem set_eq_of_unused (unused : (ledger accounts.config).Unused)
    (pays : accounts.sender.pays rt = true)
    (derived : accounts.config = (kind.pda rt accounts.sender.pubkey accounts.stedeMint).1) :
    kind.set rt ledger accounts handler =
      (handler (kind.pda rt accounts.sender.pubkey accounts.stedeMint).2 kind.zero).map fun new =>
        ledger.write accounts.config
          (kind.held (max (ledger accounts.config).lamports (rt.minimumBalance kind.space)) new) := by
  have ⟨signed, writable⟩ := (accounts.sender.pays_iff rt).mp pays
  have loads := (kind.initIfNeeded_eq_ok rt accounts.sender (ledger accounts.config) _ _
    kind.foreign).mpr (Or.inl ⟨Or.inr writable, unused, rfl, rfl⟩)
  simp only [ConfigKind.set, require_of_true signed, require_of_true derived,
    require_of_true writable, ok_bind, loads]
  cases handled : handler (kind.pda rt accounts.sender.pubkey accounts.stedeMint).2 kind.zero with
  | error reason => rfl
  | ok new => simp only [ok_bind, AccountType.store_zeroed, Except.map, pure, Except.pure]

/-- A `set_*` instruction whose handler agrees with the policy, on a new value and on
one of the signer's, leaves an account that shows what the policy asks for. -/
theorem Shows.set (seen : kind.Shows rt ⟨accounts.sender.pubkey, accounts.stedeMint⟩ good view
      (ledger accounts.config) content)
    (pays : accounts.sender.pays rt = true)
    (derived : accounts.config = (kind.pda rt accounts.sender.pubkey accounts.stedeMint).1)
    (claims : kind.Claims accounts.sender.pubkey accounts.stedeMint handler)
    (fresh : kind.sender kind.zero = .default) (spec : Option β → Except Refusal β)
    (agrees : ∀ bump value, (value = kind.zero ∧ content = none) ∨
      (good value ∧ kind.sender value ≠ .default ∧ content = some (view value)) →
      Agrees (fun new content' => good new ∧ view new = content') (handler bump value)
        (spec content)) :
    Agrees (fun next content' => ∃ account, next = ledger.write accounts.config account ∧
        kind.Shows rt ⟨accounts.sender.pubkey, accounts.stedeMint⟩ good view account (some content'))
      (kind.set rt ledger accounts handler) (spec content) := by
  -- whose account it is, is left to the two cases of the claim
  have theirs {bump : UInt8} {value new : α} (mine : value = kind.zero ∨
      (kind.sender value = accounts.sender.pubkey ∧ kind.stedeMint value = accounts.stedeMint ∧
        (accounts.config, kind.bump value) = kind.pda rt accounts.sender.pubkey accounts.stedeMint))
      (handled : handler bump value = .ok new)
      (bumped : bump = (kind.pda rt accounts.sender.pubkey accounts.stedeMint).2) :
      kind.sender new = accounts.sender.pubkey ∧ kind.stedeMint new = accounts.stedeMint ∧
        (accounts.config, kind.bump new) =
          kind.pda rt accounts.sender.pubkey accounts.stedeMint := by
    rcases claims _ _ _ handled with ⟨claimed, sender, stedeMint, bump⟩ | ⟨sender, stedeMint, bump⟩
    · rcases mine with zero | ⟨mine, mint, here⟩
      · rw [zero] at claimed
        exact absurd fresh claimed
      · rw [sender, stedeMint, bump]
        exact ⟨mine, mint, here⟩
    · rw [sender, stedeMint, bump, bumped]
      exact ⟨rfl, rfl, Prod.ext derived rfl⟩
  have live {new : α} {lamports : Nat} (exempt : rt.minimumBalance kind.space ≤ lamports)
      (owned : kind.sender new = accounts.sender.pubkey ∧ kind.stedeMint new = accounts.stedeMint ∧
        (accounts.config, kind.bump new) =
          kind.pda rt accounts.sender.pubkey accounts.stedeMint) :
      kind.Live rt (kind.pda rt accounts.sender.pubkey accounts.stedeMint).1 new
        (kind.held lamports new) := by
    refine ⟨rfl, exempt, ?_, ?_⟩
    · rw [← derived, owned.1, owned.2.1]
      exact owned.2.2
    · rw [owned.1]
      exact signer_ne_default pays
  rcases seen with ⟨unused, absent⟩ | ⟨value, here, ⟨mine, mint⟩, fine, same⟩
  · rw [set_eq_of_unused unused pays derived]
    have agree := agrees (kind.pda rt accounts.sender.pubkey accounts.stedeMint).2 kind.zero
      (Or.inl ⟨rfl, absent⟩)
    refine agree.map_left fun new content' handled ⟨fine, shown⟩ => ?_
    have owned := theirs (Or.inl rfl) handled rfl
    refine ⟨_, rfl, Or.inr ⟨new, live (Nat.le_max_right _ _) owned,
      ⟨owned.1, owned.2.1⟩, fine, ?_⟩⟩
    rw [shown]
  · have place := here.derived
    have exempt := here.exempt
    have claimed := here.claimed
    rw [mine, mint, ← derived] at place
    rw [← derived] at here
    rw [here.set_eq pays derived]
    have agree := agrees (kind.pda rt accounts.sender.pubkey accounts.stedeMint).2 value
      (Or.inr ⟨fine, claimed, same⟩)
    refine agree.map_left fun new content' handled ⟨fine, shown⟩ => ?_
    have owned := theirs (Or.inr ⟨mine, mint, place⟩) handled rfl
    refine ⟨_, rfl, Or.inr ⟨new, live exempt owned, ⟨owned.1, owned.2.1⟩, fine, ?_⟩⟩
    rw [shown]

/-- A `disable_*` instruction of the sender succeeds exactly where there is something. -/
theorem Shows.disable {accounts : DisableConfig}
    (seen : kind.Shows rt pair good view (ledger accounts.config) content)
    (pays : accounts.sender.pays rt = true) (mine : accounts.sender.pubkey = pair.sender)
    (derived : accounts.config = (kind.pda rt pair.sender pair.stedeMint).1) :
    Agrees (fun next _ => next = ledger.write accounts.config .absent)
      (kind.disable rt ledger accounts) (Policy.permit content.isSome .unset) := by
  rcases seen with ⟨unused, absent⟩ | ⟨value, live, ⟨sender, _⟩, _, same⟩
  · obtain ⟨reason, failed, read⟩ := kind.load_unused unused
    have signed := AccountMeta.signed_of_pays pays
    simp only [ConfigKind.disable, require_of_true signed, ok_bind, failed]
    rw [absent]
    exact .error read
  · rw [← derived] at live
    have success : kind.disable rt ledger accounts = .ok (ledger.write accounts.config .absent) :=
      live.disable.mpr ⟨pays, sender.trans mine.symm, rfl⟩
    rw [success, same]
    exact .ok rfl

end Instructions

end ConfigKind

/- What each account of a policy stands for. -/

def DailyLimit.budget (dailyLimit : DailyLimit) : Budget := ⟨dailyLimit.limit.toNat, dailyLimit.meter⟩

def Cooloff.pause (cooloff : Cooloff) : Pause :=
  ⟨cooloff.threshold.toNat, cooloff.durationSeconds.toInt, cooloff.lastLargeTransferAt.toInt⟩

def SlowSendConfig.delay (config : SlowSendConfig) : Int := config.delaySeconds.toInt

def TimeWindowConfig.night (config : TimeWindowConfig) : Night :=
  ⟨config.startHour.toNat, config.endHour.toNat⟩

def TimeWindowConfig.Valid (config : TimeWindowConfig) : Prop :=
  config.startHour < 24 ∧ config.endHour < 24

def FriendGate.gate (friendGate : FriendGate) : Gate :=
  ⟨friendGate.threshold.toNat, friendGate.friendWallet⟩

def SlowSendContact.Shows (rt : Runtime) (account : Account) (content : Option Int) : Prop :=
  (account.Unused ∧ content = none) ∨
    ∃ contact, Live rt contact account ∧ content = some contact.firstContactAt.toInt

theorem SlowSendContact.Shows.gift {rt : Runtime} {account : Account} {content : Option Int}
    (seen : Shows rt account content) (lamports : Nat) :
    Shows rt { account with lamports := account.lamports + lamports } content := by
  rcases seen with ⟨unused, absent⟩ | ⟨contact, live, same⟩
  · exact Or.inl ⟨unused, absent⟩
  · exact Or.inr ⟨contact, live.gift lamports, same⟩

namespace Policy

/-- The account in a slot of the pair shows what the policy says there. -/
def Shows (rt : Runtime) (pair : SenderMint) (policy : Policy) (account : Account) : RuleSlot → Prop
  | .dailyLimit => DailyLimit.kind.Shows rt pair (fun _ => True) DailyLimit.budget account policy.budget
  | .blockList => BlockList.kind.Shows rt pair BlockList.Sound BlockList.entries account policy.blocked
  | .cooloff => Cooloff.kind.Shows rt pair (fun _ => True) Cooloff.pause account policy.pause
  | .slowSendConfig =>
      SlowSendConfig.kind.Shows rt pair (fun _ => True) SlowSendConfig.delay account policy.delay
  | .slowSendContact recipient => SlowSendContact.Shows rt account (policy.contacts recipient)
  | .timeWindow =>
      TimeWindowConfig.kind.Shows rt pair TimeWindowConfig.Valid TimeWindowConfig.night account
        policy.night
  | .friendGate => FriendGate.kind.Shows rt pair (fun _ => True) FriendGate.gate account policy.gate

/-- The slots of a policy, with the contacts of the recipients in question. -/
def slots (recipients : Finset Pubkey) : Set RuleSlot :=
  {slot | ∀ recipient, slot = .slowSendContact recipient → recipient ∈ recipients}

/-- The accounts of the pair hold the policy. -/
def Represents (rt : Runtime) (pair : SenderMint) (recipients : Finset Pubkey) (ledger : Ledger)
    (policy : Policy) : Prop :=
  ∀ slot ∈ slots recipients, Shows rt pair policy (ledger (RuleKey.address rt ⟨pair, slot⟩)) slot

variable {rt : Runtime} {pair : SenderMint} {recipients : Finset Pubkey} {ledger next : Ledger}
  {policy changed : Policy}

theorem mem_slots {slot : RuleSlot} (other : ∀ recipient, slot ≠ .slowSendContact recipient) :
    slot ∈ slots recipients := fun recipient same => absurd same (other recipient)

theorem contact_mem_slots {recipient : Pubkey} (known : recipient ∈ recipients) :
    .slowSendContact recipient ∈ slots recipients := by
  intro other same
  rw [← RuleSlot.slowSendContact.inj same]
  exact known

theorem Shows.gift {account : Account} {slot : RuleSlot} (seen : Shows rt pair policy account slot)
    (lamports : Nat) :
    Shows rt pair policy { account with lamports := account.lamports + lamports } slot := by
  cases slot with
  | dailyLimit | blockList | cooloff | slowSendConfig | timeWindow | friendGate =>
      exact ConfigKind.Shows.gift seen lamports
  | slowSendContact recipient => exact SlowSendContact.Shows.gift seen lamports

theorem shows_empty {account : Account} (unused : account.Unused) (slot : RuleSlot) :
    Shows rt pair empty account slot := by
  cases slot <;> exact Or.inl ⟨unused, rfl⟩

theorem represents_empty
    (unused : ∀ slot ∈ slots recipients, (ledger (RuleKey.address rt ⟨pair, slot⟩)).Unused) :
    Represents rt pair recipients ledger empty := fun slot member => shows_empty (unused slot member) slot

/-- The program and the first eight bytes of the accounts of a slot. -/
def tag : RuleSlot → Pubkey × List UInt8
  | .dailyLimit => (DailyLimit.kind.program, DailyLimit.kind.discriminator)
  | .blockList => (BlockList.kind.program, BlockList.kind.discriminator)
  | .cooloff => (Cooloff.kind.program, Cooloff.kind.discriminator)
  | .slowSendConfig => (SlowSendConfig.kind.program, SlowSendConfig.kind.discriminator)
  | .slowSendContact _ => (SlowSendContact.kind.program, SlowSendContact.kind.discriminator)
  | .timeWindow => (TimeWindowConfig.kind.program, TimeWindowConfig.kind.discriminator)
  | .friendGate => (FriendGate.kind.program, FriendGate.kind.discriminator)

theorem tag_injective {slot other : RuleSlot} (same : tag slot = tag other) :
    slot.bare = other.bare := by
  have distinct : (RuleSlot.bareSlots.map tag).Nodup := by decide +kernel
  have bare (slot : RuleSlot) : tag slot.bare = tag slot := by cases slot <;> rfl
  apply List.inj_on_of_nodup_map distinct (RuleSlot.bare_mem slot) (RuleSlot.bare_mem other)
  rw [bare, bare, same]

theorem tag_held {α : Type} (kind : AccountType α) (lamports : Nat) (value : α) :
    ((kind.held lamports value).owner, (kind.held lamports value).data.take 8) =
      (kind.program, kind.discriminator) := by
  have front : (kind.image value).take 8 = kind.discriminator := by
    rw [AccountType.image, ← kind.discriminator_length, List.take_left]
  exact congrArg (Prod.mk kind.program) front

/-- An account that is in use bears the tag of its slot. -/
theorem Shows.tagged {account : Account} {slot : RuleSlot} (seen : Shows rt pair policy account slot) :
    account.Unused ∨ (account.owner, account.data.take 8) = tag slot := by
  cases slot with
  | dailyLimit | blockList | cooloff | slowSendConfig | timeWindow | friendGate =>
      rcases seen with ⟨unused, _⟩ | ⟨value, live, _⟩
      · exact Or.inl unused
      · rw [live.holds]
        exact Or.inr (tag_held _ _ value)
  | slowSendContact recipient =>
      rcases seen with ⟨unused, _⟩ | ⟨contact, live, _⟩
      · exact Or.inl unused
      · rw [live.holds]
        exact Or.inr (tag_held _ _ contact)

/-- What two policies have in common outside of one slot. -/
def Elsewhere (policy changed : Policy) (slot : RuleSlot) : Prop :=
  ∀ other, other ≠ slot → ∀ rt pair account, Shows rt pair policy account other →
    Shows rt pair changed account other

theorem Represents.congr (represents : Represents rt pair recipients ledger policy)
    (same : ∀ slot ∈ slots recipients,
      next (RuleKey.address rt ⟨pair, slot⟩) = ledger (RuleKey.address rt ⟨pair, slot⟩)) :
    Represents rt pair recipients next policy := by
  intro slot member
  rw [same slot member]
  exact represents slot member

/-- A write in one slot, where the rest of the policy stays. -/
theorem Represents.write {inPlay : Set RuleKey} (free : rt.CollisionFree (RuleKey.derivation '' inPlay))
    (own : ∀ slot ∈ slots recipients, ⟨pair, slot⟩ ∈ inPlay)
    (represents : Represents rt pair recipients ledger policy) {slot : RuleSlot}
    (member : slot ∈ slots recipients) {account : Account}
    (here : Shows rt pair changed account slot) (rest : Elsewhere policy changed slot) :
    Represents rt pair recipients (ledger.write (RuleKey.address rt ⟨pair, slot⟩) account) changed := by
  intro other inside
  by_cases same : other = slot
  · rw [same, Ledger.write_self]
    exact here
  · have apart : RuleKey.address rt ⟨pair, other⟩ ≠ RuleKey.address rt ⟨pair, slot⟩ := by
      intro equal
      have keys := RuleKey.address_injOn free (own other inside) (own slot member) equal
      exact same (congrArg RuleKey.slot keys)
    rw [Ledger.write_of_ne apart]
    exact rest other same _ _ _ (represents other inside)

/-- A write at the address of a key in play of another pair. -/
theorem Represents.write_foreign {inPlay : Set RuleKey}
    (free : rt.CollisionFree (RuleKey.derivation '' inPlay))
    (own : ∀ slot ∈ slots recipients, ⟨pair, slot⟩ ∈ inPlay)
    (represents : Represents rt pair recipients ledger policy) {key : RuleKey} (member : key ∈ inPlay)
    (other : key.pair ≠ pair) (account : Account) :
    Represents rt pair recipients (ledger.write (key.address rt) account) policy := by
  apply represents.congr
  intro slot inside
  apply Ledger.write_of_ne
  intro equal
  have keys := RuleKey.address_injOn free (own slot inside) member equal
  rw [← keys] at other
  exact other rfl

end Policy

end Stede
