import Mathlib
import Stede.Lib.Window
import Stede.Rules.DailyLimit

set_option autoImplicit false

/- What a daily limit bounds over a run of checks. -/
namespace Stede

def Check.slot (check : Check) : Nat := check.clock.slot.toNat

namespace DailyLimit

open Window

/-- A check of the account at `key`, passed writable. -/
def check (rt : Runtime) (key : Pubkey) (ledger : Ledger) (input : Check) : Except Error Ledger :=
  checkTransfer rt input.clock ledger ⟨key, false, true⟩ input.amount

/-- The amounts of the accepted checks at slots in `[low, low + SLOTS_PER_DAY)`. -/
def acceptedFrom (rt : Runtime) (key : Pubkey) (ledger : Ledger) (checks : List Check) (low : Nat) :
    Nat :=
  (((Run.accepted (check rt key) ledger checks).filter fun input =>
    low ≤ input.slot ∧ input.slot < low + SLOTS_PER_DAY.toNat).map fun input =>
      input.amount.toNat).sum

/-- The account holds a daily limit of this amount, not overspent, at the address
that goes with it. -/
def InForce (rt : Runtime) (key : Pubkey) (limit : UInt64) (ledger : Ledger) : Prop :=
  ∃ lamports dailyLimit, 0 < lamports ∧ ledger key = kind.held lamports dailyLimit ∧
    key = (kind.pda rt dailyLimit.sender dailyLimit.stedeMint).1 ∧ dailyLimit.limit = limit ∧
    dailyLimit.spentToday.toNat ≤ limit.toNat

/-- The two counters of the account. -/
def meter (dailyLimit : DailyLimit) : Meter :=
  ⟨dailyLimit.spentToday.toNat, dailyLimit.windowStartSlot.toNat⟩

def meterAt (key : Pubkey) (ledger : Ledger) : Meter :=
  match kind.tryDeserialize (ledger key).data with
  | .ok dailyLimit => dailyLimit.meter
  | .error _ => ⟨0, 0⟩

theorem meterAt_of_held {key : Pubkey} {ledger : Ledger} {lamports : Nat} {dailyLimit : DailyLimit}
    (holds : ledger key = kind.held lamports dailyLimit) : meterAt key ledger = dailyLimit.meter := by
  simp only [meterAt, holds, AccountType.tryDeserialize_held]

theorem rolled_meter (slot : UInt64) (dailyLimit : DailyLimit) :
    (dailyLimit.rolled slot).meter = dailyLimit.meter.rolled SLOTS_PER_DAY.toNat slot.toNat := by
  have elapsed := Checked.saturatingSubU64_toNat slot dailyLimit.windowStartSlot
  unfold rolled Meter.rolled
  by_cases renewed : SLOTS_PER_DAY.toNat ≤ slot.toNat - dailyLimit.windowStartSlot.toNat
  · have renewed' : SLOTS_PER_DAY ≤ Checked.saturatingSubU64 slot dailyLimit.windowStartSlot := by
      rw [UInt64.le_iff_toNat_le, elapsed]
      exact renewed
    simp only [renewed', ↓reduceIte, meter, renewed]
    rfl
  · have renewed' : ¬ SLOTS_PER_DAY ≤ Checked.saturatingSubU64 slot dailyLimit.windowStartSlot := by
      rw [UInt64.le_iff_toNat_le, elapsed]
      exact renewed
    simp only [renewed', ↓reduceIte, meter, renewed]

/-- Spending is charging the meter. -/
theorem spend_charges (input : Check) (dailyLimit : DailyLimit) :
    (dailyLimit.spend input.clock.slot input.amount).toOption.map meter =
      (charge Check.slot (fun check => check.amount.toNat) SLOTS_PER_DAY.toNat
        dailyLimit.limit.toNat dailyLimit.meter input).toOption := by
  have rolled := rolled_meter input.clock.slot dailyLimit
  have spent := congrArg Meter.spent rolled
  have start := congrArg Meter.start rolled
  unfold charge
  by_cases fits : (dailyLimit.rolled input.clock.slot).spentToday.toNat + input.amount.toNat ≤
      dailyLimit.limit.toNat
  · have bound := dailyLimit.limit.toNat_lt
    obtain ⟨total, _, sum⟩ := Checked.addU64_of_fits (dailyLimit.rolled input.clock.slot).spentToday
      input.amount (by omega)
    have below : total.toNat ≤ dailyLimit.limit.toNat := by omega
    have success : dailyLimit.spend input.clock.slot input.amount =
        .ok { dailyLimit.rolled input.clock.slot with spentToday := total } :=
      (spend_eq_ok _ _ _ _).mpr ⟨rfl, sum, below⟩
    have fits' : (dailyLimit.meter.rolled SLOTS_PER_DAY.toNat input.slot).spent +
        input.amount.toNat ≤ dailyLimit.limit.toNat := by
      rw [Check.slot, ← spent]
      exact fits
    simp only [success, fits', ↓reduceIte, Except.toOption, Option.map_some, Option.some.injEq]
    rw [Check.slot, ← rolled]
    simp only [meter, sum]
  · have refused : ∃ reason, dailyLimit.spend input.clock.slot input.amount = .error reason := by
      cases outcome : dailyLimit.spend input.clock.slot input.amount with
      | error reason => exact ⟨reason, rfl⟩
      | ok next =>
          obtain ⟨_, sum, below⟩ := (spend_eq_ok _ _ _ _).mp outcome
          omega
    obtain ⟨reason, failed⟩ := refused
    have fits' : ¬ (dailyLimit.meter.rolled SLOTS_PER_DAY.toNat input.slot).spent +
        input.amount.toNat ≤ dailyLimit.limit.toNat := by
      rw [Check.slot, ← spent]
      exact fits
    simp only [failed, fits', ↓reduceIte, Except.toOption, Option.map_none]

/-- The fields a spend leaves alone. -/
theorem spend_keeps {slot amount : UInt64} {dailyLimit next : DailyLimit}
    (success : dailyLimit.spend slot amount = .ok next) :
    next.sender = dailyLimit.sender ∧ next.stedeMint = dailyLimit.stedeMint ∧
      next.limit = dailyLimit.limit := by
  have ⟨same, _, _⟩ := (spend_eq_ok _ _ _ _).mp success
  rw [same]
  unfold rolled
  split <;> exact ⟨rfl, rfl, rfl⟩

section Checks

variable {rt : Runtime} {key : Pubkey} {limit : UInt64} {ledger : Ledger}

/-- On an account that is in force a check is a spend. -/
theorem check_of_held {lamports : Nat} {dailyLimit : DailyLimit} (funded : 0 < lamports)
    (holds : ledger key = kind.held lamports dailyLimit)
    (derived : key = (kind.pda rt dailyLimit.sender dailyLimit.stedeMint).1) (input : Check) :
    check rt key ledger input = (dailyLimit.spend input.clock.slot input.amount).map fun next =>
      ledger.write key (kind.held lamports next) := by
  have body : checkTransferHandler rt input.clock key (ledger key) input.amount =
      (dailyLimit.spend input.clock.slot input.amount).map (kind.held lamports) := by
    rw [checkTransferHandler, holds, kind.checked_held rt _ funded derived]
    cases dailyLimit.spend input.clock.slot input.amount with
    | error reason => rfl
    | ok next => exact kind.store_held lamports dailyLimit next
  rw [check, checkTransfer, require_of_true rfl, ok_bind]
  dsimp only
  rw [body]
  cases dailyLimit.spend input.clock.slot input.amount <;> rfl

theorem InForce.check {next : Ledger} {input : Check} (inForce : InForce rt key limit ledger)
    (success : check rt key ledger input = .ok next) : InForce rt key limit next := by
  have ⟨lamports, dailyLimit, funded, holds, derived, cap, _⟩ := inForce
  rw [check_of_held funded holds derived] at success
  cases outcome : dailyLimit.spend input.clock.slot input.amount with
  | error reason =>
      rw [outcome] at success
      cases success
  | ok spent =>
      have ⟨sender, stedeMint, kept⟩ := spend_keeps outcome
      rw [outcome] at success
      have same : ledger.write key (kind.held lamports spent) = next := Except.ok.inj success
      have ⟨_, _, below⟩ := (spend_eq_ok _ _ _ _).mp outcome
      rw [cap] at below
      refine ⟨lamports, spent, funded, ?_, ?_, kept.trans cap, below⟩
      · rw [← same, Ledger.write_self]
      · rw [sender, stedeMint]
        exact derived

/-- A check charges the meter of the account. -/
theorem InForce.charges (inForce : InForce rt key limit ledger) (input : Check) :
    (DailyLimit.check rt key ledger input).toOption.map (meterAt key) =
      (charge Check.slot (fun check => check.amount.toNat) SLOTS_PER_DAY.toNat limit.toNat
        (meterAt key ledger) input).toOption := by
  have ⟨lamports, dailyLimit, funded, holds, derived, cap, _⟩ := inForce
  rw [check_of_held funded holds derived, meterAt_of_held holds, ← cap, ← spend_charges]
  cases dailyLimit.spend input.clock.slot input.amount with
  | error reason => rfl
  | ok next =>
      have written : (ledger.write key (kind.held lamports next)) key = kind.held lamports next :=
        Ledger.write_self ..
      simp only [Except.map, Except.toOption, Option.map_some, meterAt_of_held written]

/-- A limit in force stays in force. -/
theorem InForce.run (inForce : InForce rt key limit ledger) (checks : List Check) :
    InForce rt key limit (Run.run (DailyLimit.check rt key) ledger checks) := by
  apply Run.run_invariant inForce
  intro current input next _ here success
  exact here.check success

/-- What the account accepts is what its meter accepts. -/
theorem InForce.acceptedFrom_eq (inForce : InForce rt key limit ledger) (checks : List Check)
    (low : Nat) :
    acceptedFrom rt key ledger checks low =
      spentIn Check.slot (fun check => check.amount.toNat) SLOTS_PER_DAY.toNat limit.toNat low
        (meterAt key ledger) checks := by
  have same : Run.accepted (DailyLimit.check rt key) ledger checks =
      Run.accepted (charge Check.slot (fun check => check.amount.toNat) SLOTS_PER_DAY.toNat
        limit.toNat) (meterAt key ledger) checks :=
    (Run.run_simulates inForce (fun _ _ _ _ here success => here.check success)
      (fun _ input _ here => here.charges input)).2
  rw [acceptedFrom, same]
  rfl

end Checks

/-- `set_limit` on an unused address puts its limit in force, with nothing spent. -/
theorem setLimit_inForce {rt : Runtime} {clock : Clock} {ledger start : Ledger}
    {accounts : SetConfig} {limit : UInt64}
    (unused : (ledger accounts.config).owner = Programs.system)
    (set : setLimit rt clock ledger accounts limit = .ok start) :
    InForce rt accounts.config limit start ∧
      meterAt accounts.config start = ⟨0, clock.slot.toNat⟩ := by
  have ⟨_, derived, _, value, handled, same⟩ := (kind.set_of_unused _ _ _ _ _ unused).mp set
  have ⟨_, made⟩ := (setLimitHandler_eq_ok _ _ _ _ _ _ _).mp handled
  have fresh : kind.zero.sender = Pubkey.default := rfl
  simp only [fresh, ↓reduceIte] at made
  have holds : start accounts.config =
      kind.held (max (ledger accounts.config).lamports (rt.minimumBalance kind.space)) value := by
    rw [same, Ledger.write_self]
  have funded : 0 < max (ledger accounts.config).lamports (rt.minimumBalance kind.space) :=
    (rt.minimumBalance_pos _).trans_le (Nat.le_max_right _ _)
  refine ⟨⟨_, value, funded, holds, ?_, ?_, ?_⟩, ?_⟩
  · rw [made]
    exact derived
  · rw [made]
  · rw [made]
    exact Nat.zero_le _
  · rw [meterAt_of_held holds, made]
    rfl

/-- A limit set once bounds every day's worth of slots by twice its amount, and the
day that the account itself records by its amount. -/
theorem daily_window_cap (rt : Runtime) (clock : Clock) (ledger start : Ledger)
    (accounts : SetConfig) (limit : UInt64)
    (unused : (ledger accounts.config).owner = Programs.system)
    (set : setLimit rt clock ledger accounts limit = .ok start) (checks : List Check)
    (ordered : checks.Pairwise fun first second => first.slot ≤ second.slot) :
    (∀ low, acceptedFrom rt accounts.config start checks low ≤ 2 * limit.toNat) ∧
    ∀ before after, checks = before ++ after → ∃ lamports dailyLimit,
      Run.run (check rt accounts.config) start before accounts.config =
        kind.held lamports dailyLimit ∧
      dailyLimit.spentToday.toNat +
        acceptedFrom rt accounts.config (Run.run (check rt accounts.config) start before) after
          dailyLimit.windowStartSlot.toNat ≤ limit.toNat := by
  have ⟨inForce, fresh⟩ := setLimit_inForce unused set
  have positive : 0 < SLOTS_PER_DAY.toNat := by decide
  constructor
  · intro low
    rw [inForce.acceptedFrom_eq, fresh]
    exact spentIn_le positive (Nat.zero_le _) ordered
  · intro before after split
    have still := inForce.run before
    have ⟨lamports, dailyLimit, _, holds, _, _, spent⟩ := still
    have counters := meterAt_of_held holds
    rw [split] at ordered
    have later := (List.pairwise_append.mp ordered).2.1
    refine ⟨lamports, dailyLimit, holds, ?_⟩
    rw [still.acceptedFrom_eq, counters]
    have within : dailyLimit.meter.spent ≤ limit.toNat := spent
    exact spentIn_window positive within (Nat.le_refl _) later

/- A limit of 100 set at slot 0, spent in the last slot of its window and again in
the first slot of the next. -/
section Sample

open Stede.Runtime (sampleKey)

def sampleSet : SetConfig :=
  ⟨⟨sampleKey 1, true, true⟩, sampleKey 2, (kind.pda .sample (sampleKey 1) (sampleKey 2)).1⟩

def sampleStart : Ledger :=
  Ledger.write (fun _ => .absent) sampleSet.config (kind.created .sample
    ⟨sampleKey 1, sampleKey 2, 100, 0, 0, (kind.pda .sample (sampleKey 1) (sampleKey 2)).2⟩)

theorem sampleStart_set :
    setLimit .sample ⟨0, 0⟩ (fun _ => .absent) sampleSet 100 = .ok sampleStart :=
  (kind.set_of_absent _ _ _ _ _ rfl).mpr ⟨by decide +kernel, rfl, _, rfl, rfl⟩

def sampleChecks : List Check := [⟨⟨215999, 0⟩, 100⟩, ⟨⟨216000, 0⟩, 100⟩]

theorem daily_window_cap_sample :
    (∀ low, acceptedFrom .sample sampleSet.config sampleStart sampleChecks low ≤
      2 * (100 : UInt64).toNat) ∧
    ∀ before after, sampleChecks = before ++ after → ∃ lamports dailyLimit,
      Run.run (check .sample sampleSet.config) sampleStart before sampleSet.config =
        kind.held lamports dailyLimit ∧
      dailyLimit.spentToday.toNat +
        acceptedFrom .sample sampleSet.config
          (Run.run (check .sample sampleSet.config) sampleStart before) after
          dailyLimit.windowStartSlot.toNat ≤ (100 : UInt64).toNat :=
  daily_window_cap .sample ⟨0, 0⟩ (fun _ => .absent) sampleStart sampleSet 100 rfl sampleStart_set
    sampleChecks (by decide)

/-- Two hundred pass within two slots. -/
theorem window_straddled :
    setLimit .sample ⟨0, 0⟩ (fun _ => .absent) sampleSet 100 = .ok sampleStart ∧
    ¬ ∀ low, acceptedFrom .sample sampleSet.config sampleStart sampleChecks low ≤
      (100 : UInt64).toNat := by
  refine ⟨sampleStart_set, ?_⟩
  intro capped
  have both : acceptedFrom .sample sampleSet.config sampleStart sampleChecks 215999 = 200 := by
    decide +kernel
  have bound := capped 215999
  rw [both] at bound
  exact absurd bound (by decide)

end Sample

end DailyLimit

end Stede
