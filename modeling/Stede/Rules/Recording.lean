import Stede.Rules.CooloffSpacing
import Stede.Rules.DailyHistory

set_option autoImplicit false

/- What the two checks that record something write, whatever account they are given. -/
namespace Stede

variable {rt : Runtime} {clock : Clock} {ledger next : Ledger} {amount : UInt64} {key : Pubkey}

/-- The account is not one that a check of the kind would accept and write. -/
def Account.Spared (program : Pubkey) (account : Account) : Prop :=
  account.unconfigured = true ∨ account.owner ≠ program

theorem ConfigKind.Live.spared {α : Type} {kind : ConfigKind α} {value : α} {account : Account}
    (live : kind.Live rt key value account) {program : Pubkey} (other : kind.program ≠ program) :
    account.Spared program := by
  right
  have owner : account.owner = kind.program := congrArg Account.owner live.holds
  rw [owner]
  exact other

theorem ConfigKind.PlacedFor.spared {α : Type} {kind : ConfigKind α} {sender stedeMint : Pubkey}
    {account : Account} (placed : kind.PlacedFor rt sender stedeMint account) {program : Pubkey}
    (other : kind.program ≠ program) : account.Spared program := by
  rcases placed with unused | ⟨value, live, _⟩
  · exact Or.inl unused.unconfigured
  · exact live.spared other

/-- A check that keeps an unconfigured account and refuses a foreign one spares it. -/
theorem ConfigKind.checked_spared {α : Type} {kind : ConfigKind α} {account after : Account}
    (spared : account.Spared kind.program) {invalid : Error} {body : α → Except Error Account}
    (accepted : kind.checked rt invalid key account account body = .ok after) : after = account := by
  rcases (kind.checked_eq_ok _ _ _ _ _ _ _).mp accepted with ⟨_, same⟩ | ⟨configured, owned, _⟩
  · exact same
  · rcases spared with absent | foreign
    · rw [configured] at absent
      cases absent
    · exact absurd owned foreign

namespace DailyLimit

theorem checkTransfer_spares {dailyLimit : AccountMeta}
    (success : checkTransfer rt clock ledger dailyLimit amount = .ok next)
    (spared : key = dailyLimit.pubkey → (ledger key).Spared kind.program) : next key = ledger key := by
  have ⟨_, account, handled, written⟩ := (checkTransfer_eq_ok _ _ _ _ _ _).mp success
  by_cases here : key = dailyLimit.pubkey
  · rw [written, ← here, Ledger.write_self]
    rw [← here] at handled
    exact ConfigKind.checked_spared (spared here) handled
  · rw [written, Ledger.write_of_ne here]

/-- A check at `clock` of this amount would leave a trace in the account. -/
def Records (clock : Clock) (amount : UInt64) (dailyLimit : DailyLimit) : Prop :=
  amount ≠ 0 ∨ SLOTS_PER_DAY.toNat ≤ clock.slot.toNat - dailyLimit.windowStartSlot.toNat

/-- An accepted spend changes the account exactly when it leaves a trace. -/
theorem spend_changes {dailyLimit charged : DailyLimit}
    (spent : dailyLimit.spend clock.slot amount = .ok charged) :
    charged = dailyLimit ↔ ¬ Records clock amount dailyLimit := by
  have ⟨same, total, _⟩ := (spend_eq_ok _ _ _ _).mp spent
  have elapsed := Checked.saturatingSubU64_toNat clock.slot dailyLimit.windowStartSlot
  by_cases renewed : SLOTS_PER_DAY ≤ Checked.saturatingSubU64 clock.slot dailyLimit.windowStartSlot
  · have late := UInt64.le_iff_toNat_le.mp renewed
    rw [elapsed] at late
    have records : Records clock amount dailyLimit := Or.inr late
    have moved : charged.windowStartSlot = clock.slot := by
      rw [same, rolled, if_pos renewed]
    refine iff_of_false ?_ (not_not.mpr records)
    intro unchanged
    have positive : 0 < SLOTS_PER_DAY.toNat := by decide
    rw [unchanged] at moved
    rw [moved] at late
    omega
  · have kept : dailyLimit.rolled clock.slot = dailyLimit := by rw [rolled, if_neg renewed]
    have early := UInt64.le_iff_toNat_le.not.mp renewed
    rw [elapsed] at early
    rw [kept] at same total
    have trace : Records clock amount dailyLimit ↔ amount ≠ 0 := or_iff_left early
    rw [trace, not_not]
    constructor
    · intro unchanged
      rw [unchanged] at total
      apply UInt64.toNat_inj.mp
      rw [UInt64.toNat_zero]
      omega
    · intro nothing
      rw [nothing, UInt64.toNat_zero, Nat.add_zero] at total
      rw [same, UInt64.toNat_inj.mp total]

/-- What an accepted check does to a live account it is given. -/
theorem checkTransfer_changes {dailyLimit : DailyLimit} (live : kind.Live rt key dailyLimit (ledger key))
    {given : AccountMeta} (here : given.pubkey = key)
    (success : checkTransfer rt clock ledger given amount = .ok next) :
    (∃ charged, kind.Live rt key charged (next key) ∧ charged.sender = dailyLimit.sender ∧
      charged.stedeMint = dailyLimit.stedeMint) ∧
    (next key = ledger key ↔ ¬ Records clock amount dailyLimit) := by
  have ⟨_, account, handled, written⟩ := (checkTransfer_eq_ok _ _ _ _ _ _).mp success
  rw [here] at handled written
  have checked : step rt key ledger (.checkTransfer ⟨clock, amount⟩) = .ok next :=
    (checkTransfer_eq_ok _ _ _ _ _ _).mpr ⟨rfl, account, handled, written⟩
  have ⟨charged, spent, live', _⟩ := checkTransfer_next live checked
  have ⟨sender, stedeMint, _⟩ := spend_keeps spent
  refine ⟨⟨charged, live', sender, stedeMint⟩, ?_⟩
  rw [← spend_changes spent]
  have ⟨_, spent', written'⟩ := (checkTransfer_live live ⟨clock, amount⟩).mp checked
  have same_charge := Except.ok.inj (spent'.symm.trans spent)
  constructor
  · intro unchanged
    rw [unchanged] at live'
    exact live'.unique live
  · intro unchanged
    rw [written', same_charge, unchanged, Ledger.write_self]
    exact live.holds.symm

end DailyLimit

namespace Cooloff

theorem checkTransfer_spares {cooloff : AccountMeta}
    (success : checkTransfer rt clock ledger cooloff amount = .ok next)
    (spared : key = cooloff.pubkey → (ledger key).Spared kind.program) : next key = ledger key := by
  have ⟨_, account, handled, written⟩ := (checkTransfer_eq_ok _ _ _ _ _ _).mp success
  by_cases here : key = cooloff.pubkey
  · rw [written, ← here, Ledger.write_self]
    rw [← here] at handled
    exact ConfigKind.checked_spared (spared here) handled
  · rw [written, Ledger.write_of_ne here]

/-- A check at `clock` of this amount would leave a trace in the account. -/
def Records (clock : Clock) (amount : UInt64) (cooloff : Cooloff) : Prop :=
  cooloff.threshold ≤ amount ∧ cooloff.lastLargeTransferAt ≠ clock.unixTimestamp

/-- What an accepted check does to a live account it is given. -/
theorem checkTransfer_changes {cooloff : Cooloff} (live : kind.Live rt key cooloff (ledger key))
    {given : AccountMeta} (here : given.pubkey = key)
    (success : checkTransfer rt clock ledger given amount = .ok next) :
    (∃ moved, kind.Live rt key moved (next key) ∧ moved.sender = cooloff.sender ∧
      moved.stedeMint = cooloff.stedeMint) ∧
    (next key = ledger key ↔ ¬ Records clock amount cooloff) := by
  have ⟨_, account, handled, written⟩ := (checkTransfer_eq_ok _ _ _ _ _ _).mp success
  rw [here] at handled written
  have checked : step rt ⟨given, given.pubkey, key⟩ ledger (.checkTransfer ⟨clock, amount⟩) =
      .ok next := (checkTransfer_eq_ok _ _ _ _ _ _).mpr ⟨rfl, account, handled, written⟩
  rcases (checkTransfer_held live.funded live.holds live.address ⟨clock, amount⟩).mp checked with
    ⟨small, unchanged⟩ | ⟨large, _, moved⟩
  · have quiet : ¬ Records clock amount cooloff := fun records => UInt64.not_lt.mpr records.1 small
    rw [unchanged]
    exact ⟨⟨cooloff, live, rfl, rfl⟩, iff_of_true rfl quiet⟩
  · have live' : kind.Live rt key { cooloff with lastLargeTransferAt := clock.unixTimestamp }
        (next key) := by
      rw [moved, Ledger.write_self]
      exact live.rewrite live.derived live.claimed
    refine ⟨⟨_, live', rfl, rfl⟩, ?_⟩
    constructor
    · intro same ⟨_, other⟩
      rw [same] at live'
      have equal := live.unique live'
      exact other (congrArg Cooloff.lastLargeTransferAt equal)
    · intro quiet
      have already : cooloff.lastLargeTransferAt = clock.unixTimestamp := by
        by_contra other
        exact quiet ⟨large, other⟩
      rw [moved, Ledger.write_self, ← already]
      exact live.holds.symm

end Cooloff

end Stede
