import Stede.Lib.Circular
import Stede.Rules.Layouts

set_option autoImplicit false

/- The hours that a time window blocks, as an interval of the circle of the UTC day. -/
namespace Stede.TimeWindowConfig

def SECONDS_PER_DAY : Int := 86400
def SECONDS_PER_HOUR : Int := 3600

/-- No step of `hourOf` overflows, and its cast truncates nothing: each step has
the value of the operation on the integers, which divides towards zero. -/
structure ExactSteps (now : Int64) : Prop where
  remainder : (now % 86400).toInt = now.toInt.tmod 86400
  shifted : (now % 86400 + 86400).toInt = (now % 86400).toInt + 86400
  second : ((now % 86400 + 86400) % 86400).toInt = (now % 86400 + 86400).toInt.tmod 86400
  hour : ((now % 86400 + 86400) % 86400 / 3600).toInt =
    ((now % 86400 + 86400) % 86400).toInt.tdiv 3600
  cast : ((hourOf now).toNat : Int) = ((now % 86400 + 86400) % 86400 / 3600).toInt

theorem day_toInt : (86400 : Int64).toInt = 86400 := rfl

theorem remainder_toInt (now : Int64) : (now % 86400).toInt = now.toInt.tmod 86400 := by
  rw [Int64.toInt_mod, day_toInt]

theorem shifted_toInt (now : Int64) :
    (now % 86400 + 86400).toInt = (now % 86400).toInt + 86400 := by
  have low := Int.lt_tmod_of_pos now.toInt (show (0 : Int) < 86400 by decide)
  have high := Int.tmod_lt_of_pos now.toInt (show (0 : Int) < 86400 by decide)
  rw [Int64.toInt_add, day_toInt, remainder_toInt]
  exact Int.bmod_eq_of_le (by omega) (by omega)

/-- The correction step makes the truncated remainder the mathematical one. -/
theorem second_toInt (now : Int64) :
    ((now % 86400 + 86400) % 86400).toInt = now.toInt % 86400 := by
  have low := Int.lt_tmod_of_pos now.toInt (show (0 : Int) < 86400 by decide)
  have nonneg : 0 ≤ now.toInt.tmod 86400 + 86400 := by omega
  rw [Int64.toInt_mod, day_toInt, shifted_toInt, remainder_toInt, Int.tmod_eq_emod_of_nonneg nonneg,
    Int.add_emod_right, Int.tmod_eq_emod]
  split <;> omega

theorem hour_toInt (now : Int64) :
    ((now % 86400 + 86400) % 86400 / 3600).toInt = now.toInt % 86400 / 3600 := by
  have low := Int.emod_nonneg now.toInt (show (86400 : Int) ≠ 0 by decide)
  rw [Int64.toInt_div_of_ne_right _ _ (by decide), second_toInt]
  exact Int.tdiv_eq_ediv_of_nonneg low

theorem hourOf_toNat (now : Int64) : ((hourOf now).toNat : Int) = now.toInt % 86400 / 3600 := by
  have value := hour_toInt now
  have nonneg : 0 ≤ (now % 86400 + 86400) % 86400 / 3600 := by
    rw [Int64.le_iff_toInt_le, value]
    show (0 : Int) ≤ _
    omega
  have natural := Int64.toNat_toUInt64_of_le nonneg
  have clamped : ((((now % 86400 + 86400) % 86400 / 3600).toNatClampNeg : Nat) : Int) =
      now.toInt % 86400 / 3600 := by
    rw [← Int64.toNat_toInt, value]
    omega
  rw [hourOf, UInt64.toNat_toUInt8, natural]
  omega

theorem exactSteps (now : Int64) : ExactSteps now where
  remainder := remainder_toInt now
  shifted := shifted_toInt now
  second := by rw [Int64.toInt_mod, day_toInt]
  hour := Int64.toInt_div_of_ne_right _ _ (by decide)
  cast := by rw [hourOf_toNat, hour_toInt]

/-- The seconds of the day from the full hour `startHour` on and before `endHour`,
as a condition on the seconds since the epoch. -/
def InWindow (startHour endHour : UInt8) (time : Int) : Prop :=
  (time % SECONDS_PER_DAY - SECONDS_PER_HOUR * startHour.toNat) % SECONDS_PER_DAY <
    (SECONDS_PER_HOUR * endHour.toNat - SECONDS_PER_HOUR * startHour.toNat) % SECONDS_PER_DAY

section Hours

variable {startHour endHour : UInt8}

/-- The window is an arc of the day, whatever day it is. -/
theorem inWindow_iff_second (time : Int) : InWindow startHour endHour time ↔
    time ∈ Circular.arc SECONDS_PER_DAY (SECONDS_PER_HOUR * startHour.toNat)
      (SECONDS_PER_HOUR * endHour.toNat) := by
  have reduced : time % SECONDS_PER_DAY % SECONDS_PER_DAY = time % SECONDS_PER_DAY :=
    Int.emod_emod_of_dvd time dvd_rfl
  rw [← Circular.mem_arc_congr reduced, Circular.mem_arc, InWindow]

/-- Its bounds are full hours, so the hour of the day decides. -/
theorem inWindow_iff_hour (time : Int) : InWindow startHour endHour time ↔
    time / SECONDS_PER_HOUR ∈ Circular.arc 24 startHour.toNat endHour.toNat := by
  rw [inWindow_iff_second]
  exact Circular.mem_arc_scaled (show 0 < SECONDS_PER_HOUR by decide) (show (0 : Int) < 24 by decide)

variable (start_valid : startHour < 24) (end_valid : endHour < 24)
include start_valid end_valid

/-- The two-branch comparison decides membership in the window. -/
theorem blocks_iff (now : Int64) :
    blocks startHour endHour (hourOf now) = true ↔ InWindow startHour endHour now.toInt := by
  have start_high : startHour.toNat < 24 := UInt8.lt_iff_toNat_lt.mp start_valid
  have end_high : endHour.toNat < 24 := UInt8.lt_iff_toNat_lt.mp end_valid
  have hour := hourOf_toNat now
  have turned : now.toInt / SECONDS_PER_HOUR % 24 = now.toInt % 86400 / 3600 := by
    show now.toInt / 3600 % 24 = _
    omega
  rw [inWindow_iff_hour, Circular.mem_arc_iff (show (0 : Int) < 24 by decide) (by omega) (by omega)
    (by omega) (by omega), turned, ← hour]
  unfold blocks
  by_cases same_day : startHour ≤ endHour
  · have ordered : startHour.toNat ≤ endHour.toNat := UInt8.le_iff_toNat_le.mp same_day
    have ordered' : (startHour.toNat : Int) ≤ endHour.toNat := by omega
    rw [if_pos same_day, if_pos ordered', decide_eq_true_iff, UInt8.le_iff_toNat_le,
      UInt8.lt_iff_toNat_lt]
    omega
  · have unordered := UInt8.le_iff_toNat_le.not.mp same_day
    have unordered' : ¬ (startHour.toNat : Int) ≤ endHour.toNat := by omega
    rw [if_neg same_day, if_neg unordered', decide_eq_true_iff, UInt8.le_iff_toNat_le,
      UInt8.lt_iff_toNat_lt]
    omega

/-- Swapping the hours blocks the rest of the day. -/
theorem inWindow_swap (distinct : startHour ≠ endHour) (time : Int) :
    InWindow startHour endHour time ↔ ¬ InWindow endHour startHour time := by
  have start_high : startHour.toNat < 24 := UInt8.lt_iff_toNat_lt.mp start_valid
  have end_high : endHour.toNat < 24 := UInt8.lt_iff_toNat_lt.mp end_valid
  have apart : endHour.toNat ≠ startHour.toNat := fun same => distinct (UInt8.toNat_inj.mp same.symm)
  rw [inWindow_iff_hour, inWindow_iff_hour, ← Set.mem_compl_iff,
    Circular.arc_compl (show (0 : Int) < 24 by decide) (by omega) (by omega) (by omega) (by omega) (by omega)]

end Hours

theorem inWindow_periodic {startHour endHour : UInt8} {time time' : Int}
    (same : time % SECONDS_PER_DAY = time' % SECONDS_PER_DAY) :
    InWindow startHour endHour time ↔ InWindow startHour endHour time' := by
  rw [InWindow, InWindow, same]

/-- Whatever was there, `set_time_window` leaves a live config of its arguments. -/
theorem setTimeWindow_live {rt : Runtime} {ledger after : Ledger} {accounts : SetConfig}
    {startHour endHour : UInt8}
    (set : setTimeWindow rt ledger accounts startHour endHour = .ok after) :
    (startHour < 24 ∧ endHour < 24) ∧
      kind.Live rt accounts.config ⟨accounts.sender.pubkey, accounts.stedeMint, startHour, endHour,
        (kind.pda rt accounts.sender.pubkey accounts.stedeMint).2⟩ (after accounts.config) := by
  have ⟨pays, address, old, account, config, stored, loaded, handled, kept, written⟩ :=
    (kind.set_eq_ok _ _ _ _ _).mp set
  have ⟨valid, made⟩ := (setTimeWindowHandler_eq_ok _ _ _ _ _ _ _).mp handled
  refine ⟨valid, ?_⟩
  have claimed := ConfigKind.signer_ne_default pays
  rw [written, Ledger.write_self]
  rcases (kind.initIfNeeded_eq_ok rt _ _ _ _ kind.foreign).mp loaded with
    ⟨_, _, _, fresh⟩ | ⟨owned, holds, exempt, same⟩
  · rw [fresh, AccountType.store_zeroed, Except.ok.injEq] at kept
    rw [← kept, made]
    exact ⟨rfl, Nat.le_max_right _ _, Prod.ext address rfl, claimed⟩
  · have held : account = kind.held account.lamports old := by
      rw [same, AccountType.held, ← holds, ← owned]
    rw [held, AccountType.store_held, Except.ok.injEq] at kept
    rw [← kept, made]
    refine ⟨rfl, ?_, Prod.ext address rfl, claimed⟩
    show rt.minimumBalance kind.space ≤ account.lamports
    rw [same]
    exact exempt

/-- A check is made on a config that stands as a `set_time_window` of these hours
left it, with the sender and the mint it was made for. -/
def InForce (rt : Runtime) (startHour endHour : UInt8) (ledger : Ledger)
    (config sender stedeMint : AccountMeta) : Prop :=
  ∃ before accounts after, setTimeWindow rt before accounts startHour endHour = .ok after ∧
    config.pubkey = accounts.config ∧ sender.pubkey = accounts.sender.pubkey ∧
    stedeMint.pubkey = accounts.stedeMint ∧ ledger config.pubkey = after accounts.config

theorem InForce.valid {rt : Runtime} {startHour endHour : UInt8} {ledger : Ledger}
    {config sender stedeMint : AccountMeta}
    (inForce : InForce rt startHour endHour ledger config sender stedeMint) :
    startHour < 24 ∧ endHour < 24 := by
  have ⟨_, _, _, set, _⟩ := inForce
  exact (setTimeWindow_live set).1

theorem InForce.checkTransfer {rt : Runtime} {startHour endHour : UInt8} {ledger : Ledger}
    {config sender stedeMint : AccountMeta}
    (inForce : InForce rt startHour endHour ledger config sender stedeMint) (clock : Clock)
    (amount : UInt64) :
    TimeWindowConfig.checkTransfer rt clock ledger config sender stedeMint amount =
      require (blocks startHour endHour (hourOf clock.unixTimestamp) = false)
        (.timeWindow .withinBlockedWindow) := by
  have ⟨_, accounts, after, set, address, owner, mint, kept⟩ := inForce
  have ⟨_, live⟩ := setTimeWindow_live set
  rw [← kept, ← address] at live
  have derived : config.pubkey = (kind.pda rt sender.pubkey stedeMint.pubkey).1 := by
    rw [owner, mint]
    exact live.address
  rw [TimeWindowConfig.checkTransfer, require_of_true derived, ok_bind, checkTransferHandler_live live]

/-- The timestamps at which the check rejects. -/
def rejectedTimes (rt : Runtime) (ledger : Ledger) (config sender stedeMint : AccountMeta)
    (slot amount : UInt64) : Set Int64 :=
  {now | TimeWindowConfig.checkTransfer rt ⟨slot, now⟩ ledger config sender stedeMint amount =
    .error (.timeWindow .withinBlockedWindow)}

theorem InForce.mem_rejectedTimes {rt : Runtime} {startHour endHour : UInt8} {ledger : Ledger}
    {config sender stedeMint : AccountMeta}
    (inForce : InForce rt startHour endHour ledger config sender stedeMint) (slot amount : UInt64)
    (now : Int64) :
    now ∈ rejectedTimes rt ledger config sender stedeMint slot amount ↔
      InWindow startHour endHour now.toInt := by
  show TimeWindowConfig.checkTransfer _ _ _ _ _ _ _ = _ ↔ _
  rw [inForce.checkTransfer, require_eq_error, ← blocks_iff inForce.valid.1 inForce.valid.2]
  simp only [Bool.not_eq_false, and_true]

/-- Night mode is a circular interval of the day: for every timestamp the check
rejects inside of it and passes outside, no step of its arithmetic overflows, the
window with the hours swapped rejects the other times, and all repeats every day. -/
theorem night_mode_circular (rt : Runtime) (startHour endHour : UInt8) (ledger : Ledger)
    (config sender stedeMint : AccountMeta)
    (inForce : InForce rt startHour endHour ledger config sender stedeMint) (slot amount : UInt64) :
    (∀ now : Int64, ExactSteps now ∧
      (now ∈ rejectedTimes rt ledger config sender stedeMint slot amount ↔
        (now.toInt % 86400 - 3600 * startHour.toNat) % 86400 <
          (3600 * endHour.toNat - 3600 * startHour.toNat : Int) % 86400) ∧
      (now ∉ rejectedTimes rt ledger config sender stedeMint slot amount ↔
        TimeWindowConfig.checkTransfer rt ⟨slot, now⟩ ledger config sender stedeMint amount = .ok ())) ∧
    (startHour ≠ endHour → ∀ ledger' config' sender' stedeMint' slot' amount',
      InForce rt endHour startHour ledger' config' sender' stedeMint' →
      rejectedTimes rt ledger' config' sender' stedeMint' slot' amount' =
        (rejectedTimes rt ledger config sender stedeMint slot amount)ᶜ) ∧
    ∀ now later : Int64, later.toInt % 86400 = now.toInt % 86400 →
      (later ∈ rejectedTimes rt ledger config sender stedeMint slot amount ↔
        now ∈ rejectedTimes rt ledger config sender stedeMint slot amount) := by
  have member := inForce.mem_rejectedTimes slot amount
  refine ⟨?_, ?_, ?_⟩
  · intro now
    refine ⟨exactSteps now, member now, ?_⟩
    rw [member, ← blocks_iff inForce.valid.1 inForce.valid.2, inForce.checkTransfer, require_eq_ok,
      Bool.not_eq_true]
  · intro distinct ledger' config' sender' stedeMint' slot' amount' swapped
    ext now
    rw [Set.mem_compl_iff, member, swapped.mem_rejectedTimes]
    exact inWindow_swap inForce.valid.2 inForce.valid.1 distinct.symm now.toInt
  · intro now later same
    rw [member, member]
    exact inWindow_periodic same

/- A window from ten at night to six in the morning. -/
section Sample

def sampleSet : SetConfig where
  sender := ⟨Runtime.sampleKey 1, true, true⟩
  stedeMint := Runtime.sampleKey 2
  config := (kind.pda .sample (Runtime.sampleKey 1) (Runtime.sampleKey 2)).1

def sampleNight : Ledger :=
  Ledger.write (fun _ => .absent) sampleSet.config (kind.created .sample
    ⟨Runtime.sampleKey 1, Runtime.sampleKey 2, 22, 6,
      (kind.pda .sample (Runtime.sampleKey 1) (Runtime.sampleKey 2)).2⟩)

theorem sampleNight_inForce : InForce .sample 22 6 sampleNight ⟨sampleSet.config, false, false⟩
    ⟨Runtime.sampleKey 1, false, false⟩ ⟨Runtime.sampleKey 2, false, false⟩ :=
  ⟨fun _ => .absent, sampleSet, sampleNight,
    (kind.set_of_absent _ _ _ _ _ rfl).mpr ⟨by decide +kernel, rfl, _, rfl, rfl⟩, rfl, rfl, rfl, rfl⟩

/-- The last second before the epoch lies in the night. -/
theorem night_mode_circular_sample :
    ExactSteps (-1) ∧
      (-1 : Int64) ∈ rejectedTimes .sample sampleNight ⟨sampleSet.config, false, false⟩
        ⟨Runtime.sampleKey 1, false, false⟩ ⟨Runtime.sampleKey 2, false, false⟩ 0 500 := by
  have ⟨exact_steps, inside, _⟩ := (night_mode_circular .sample 22 6 sampleNight _ _ _
    sampleNight_inForce 0 500).1 (-1)
  exact ⟨exact_steps, inside.mpr (by decide)⟩

end Sample

end Stede.TimeWindowConfig
