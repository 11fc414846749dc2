import Mathlib
import Stede.Lib.Run

set_option autoImplicit false

/- A budget that is renewed by the first charge a full period after the last
renewal, and what it bounds over arbitrary intervals. -/
namespace Window

/-- What was charged since `start`, the last renewal. -/
structure Meter where
  spent : Nat
  start : Nat
deriving DecidableEq

variable {ι : Type} (time amount : ι → Nat) (period cap : Nat)

def Meter.rolled (meter : Meter) (now : Nat) : Meter :=
  if period ≤ now - meter.start then ⟨0, now⟩ else meter

/-- A charge is refused when it would exceed the cap. -/
def charge (meter : Meter) (input : ι) : Except Unit Meter :=
  let meter := meter.rolled period (time input)
  if meter.spent + amount input ≤ cap then .ok { meter with spent := meter.spent + amount input }
  else .error ()

/-- The sum of the inputs at times in `[low, low + period)`. -/
def sumIn (low : Nat) (inputs : List ι) : Nat :=
  ((inputs.filter fun input => low ≤ time input ∧ time input < low + period).map amount).sum

/-- What is accepted in `[low, low + period)` over a run from `meter`. -/
def spentIn (low : Nat) (meter : Meter) (inputs : List ι) : Nat :=
  sumIn time amount period low (Run.accepted (charge time amount period cap) meter inputs)

theorem sumIn_cons_le (low : Nat) (input : ι) (rest : List ι) :
    sumIn time amount period low (input :: rest) ≤
      amount input + sumIn time amount period low rest := by
  unfold sumIn
  by_cases inside : low ≤ time input ∧ time input < low + period
  · rw [List.filter_cons_of_pos (by simpa using inside), List.map_cons, List.sum_cons]
  · rw [List.filter_cons_of_neg (by simpa using inside)]
    omega

variable {time amount period cap}

theorem sumIn_cons_outside {low : Nat} {input : ι} (rest : List ι)
    (outside : ¬ (low ≤ time input ∧ time input < low + period)) :
    sumIn time amount period low (input :: rest) = sumIn time amount period low rest := by
  unfold sumIn
  rw [List.filter_cons_of_neg (by simpa using outside)]

theorem sumIn_map {κ : Type} (view : κ → ι) (low : Nat) (inputs : List κ) :
    sumIn time amount period low (inputs.map view) =
      sumIn (time ∘ view) (amount ∘ view) period low inputs := by
  unfold sumIn
  rw [List.filter_map, List.map_map]
  rfl

theorem sumIn_sublist {low : Nat} {kept inputs : List ι} (sub : kept.Sublist inputs) :
    sumIn time amount period low kept ≤ sumIn time amount period low inputs :=
  ((sub.filter _).map amount).sum_le_sum fun _ _ => Nat.zero_le _

/-- Nothing counts once the interval is over. -/
theorem sumIn_after {low : Nat} {inputs : List ι} (late : ∀ input ∈ inputs, low + period ≤ time input) :
    sumIn time amount period low inputs = 0 := by
  induction inputs with
  | nil => rfl
  | cons input rest ih =>
      have here := late input List.mem_cons_self
      rw [sumIn_cons_outside rest (by omega)]
      exact ih fun later member => late later (List.mem_cons_of_mem _ member)

theorem charge_eq_ok (meter next : Meter) (input : ι) :
    charge time amount period cap meter input = .ok next ↔
      (meter.rolled period (time input)).spent + amount input ≤ cap ∧
      next = ⟨(meter.rolled period (time input)).spent + amount input,
        (meter.rolled period (time input)).start⟩ := by
  unfold charge
  by_cases fits : (meter.rolled period (time input)).spent + amount input ≤ cap
  · simp only [fits, ↓reduceIte, Except.ok.injEq, true_and]
    exact eq_comm
  · simp only [fits, ↓reduceIte, reduceCtorEq, false_and]

theorem charge_within {meter next : Meter} {input : ι}
    (success : charge time amount period cap meter input = .ok next) : next.spent ≤ cap := by
  have ⟨fits, same⟩ := (charge_eq_ok _ _ _).mp success
  rw [same]
  exact fits

/-- The budget within its own window: what is spent already and what is accepted
until a period after the renewal stay under the cap. -/
theorem spentIn_window (positive : 0 < period) {low : Nat} {meter : Meter} {inputs : List ι}
    (within : meter.spent ≤ cap)
    (early : low ≤ meter.start) (ordered : inputs.Pairwise fun first second => time first ≤ time second) :
    meter.spent + spentIn time amount period cap low meter inputs ≤ cap := by
  induction inputs generalizing meter with
  | nil => exact within
  | cons input rest ih =>
      have ⟨later, rest_ordered⟩ := List.pairwise_cons.mp ordered
      by_cases ended : low + period ≤ time input
      · -- the interval has ended, so no later input counts
        have nothing : spentIn time amount period cap low meter (input :: rest) = 0 := by
          apply sumIn_after
          intro counted member
          have listed := (Run.accepted_sublist meter (input :: rest)).subset member
          rcases List.mem_cons.mp listed with same | behind
          · rw [same]
            exact ended
          · exact ended.trans (later counted behind)
        omega
      · have same_window : meter.rolled period (time input) = meter := by
          have short : ¬ period ≤ time input - meter.start := by omega
          simp only [Meter.rolled, short, ↓reduceIte]
        cases outcome : charge time amount period cap meter input with
        | ok next =>
            have ⟨fits, after⟩ := (charge_eq_ok _ _ _).mp outcome
            rw [same_window] at fits after
            have next_within : next.spent ≤ cap := charge_within outcome
            have next_early : low ≤ next.start := by
              rw [after]
              exact early
            have rest_bound := ih next_within next_early rest_ordered
            have counted := sumIn_cons_le time amount period low input
              (Run.accepted (charge time amount period cap) next rest)
            have spent : next.spent = meter.spent + amount input := by rw [after]
            unfold spentIn at rest_bound ⊢
            rw [Run.accepted_of_ok rest outcome]
            omega
        | error reason =>
            unfold spentIn
            rw [Run.accepted_of_error rest outcome]
            exact ih within early rest_ordered

/-- From within the interval at most one renewal can come. -/
theorem spentIn_inside (positive : 0 < period) {low : Nat} {meter : Meter} {inputs : List ι}
    (within : meter.spent ≤ cap)
    (inside : ∀ input ∈ inputs, low ≤ time input)
    (ordered : inputs.Pairwise fun first second => time first ≤ time second) :
    meter.spent + spentIn time amount period cap low meter inputs ≤ 2 * cap := by
  induction inputs generalizing meter with
  | nil =>
      have nothing : spentIn time amount period cap low meter ([] : List ι) = 0 := rfl
      omega
  | cons input rest ih =>
      have ⟨_, rest_ordered⟩ := List.pairwise_cons.mp ordered
      have rest_inside : ∀ later ∈ rest, low ≤ time later :=
        fun later member => inside later (List.mem_cons_of_mem _ member)
      cases outcome : charge time amount period cap meter input with
      | ok next =>
          have ⟨fits, after⟩ := (charge_eq_ok _ _ _).mp outcome
          have next_within : next.spent ≤ cap := charge_within outcome
          have counted := sumIn_cons_le time amount period low input
            (Run.accepted (charge time amount period cap) next rest)
          by_cases renewed : period ≤ time input - meter.start
          · have rolled : meter.rolled period (time input) = ⟨0, time input⟩ := by
              simp only [Meter.rolled, renewed, ↓reduceIte]
            rw [rolled] at after
            have next_early : low ≤ next.start := by
              rw [after]
              exact inside input List.mem_cons_self
            have rest_bound : next.spent + spentIn time amount period cap low next rest ≤ cap :=
              spentIn_window positive next_within next_early rest_ordered
            have spent : next.spent = amount input := by
              rw [after]
              exact Nat.zero_add _
            unfold spentIn at rest_bound ⊢
            rw [Run.accepted_of_ok rest outcome]
            omega
          · have kept : meter.rolled period (time input) = meter := by
              simp only [Meter.rolled, renewed, ↓reduceIte]
            rw [kept] at after
            have rest_bound := ih next_within rest_inside rest_ordered
            have spent : next.spent = meter.spent + amount input := by rw [after]
            unfold spentIn at rest_bound ⊢
            rw [Run.accepted_of_ok rest outcome]
            omega
      | error reason =>
          unfold spentIn
          rw [Run.accepted_of_error rest outcome]
          exact ih within rest_inside rest_ordered

/-- Over any interval one period long, at most twice the cap. -/
theorem spentIn_le (positive : 0 < period) {low : Nat} {meter : Meter} {inputs : List ι}
    (within : meter.spent ≤ cap)
    (ordered : inputs.Pairwise fun first second => time first ≤ time second) :
    spentIn time amount period cap low meter inputs ≤ 2 * cap := by
  induction inputs generalizing meter with
  | nil => exact Nat.zero_le _
  | cons input rest ih =>
      have ⟨later, rest_ordered⟩ := List.pairwise_cons.mp ordered
      by_cases begun : low ≤ time input
      · have all_inside : ∀ each ∈ input :: rest, low ≤ time each := by
          intro each member
          rcases List.mem_cons.mp member with same | behind
          · rw [same]
            exact begun
          · exact begun.trans (later each behind)
        have bound : meter.spent + spentIn time amount period cap low meter (input :: rest) ≤ 2 * cap :=
          spentIn_inside positive within all_inside ordered
        omega
      · cases outcome : charge time amount period cap meter input with
        | ok next =>
            have rest_bound := ih (charge_within outcome) rest_ordered
            unfold spentIn at rest_bound ⊢
            rw [Run.accepted_of_ok rest outcome, sumIn_cons_outside _ (by omega)]
            exact rest_bound
        | error reason =>
            unfold spentIn
            rw [Run.accepted_of_error rest outcome]
            exact ih within rest_ordered

/-- Under a higher cap the same charges go through. -/
theorem charge_mono {higher : Nat} (raised : cap ≤ higher) {meter next : Meter} {input : ι}
    (success : charge time amount period cap meter input = .ok next) :
    charge time amount period higher meter input = .ok next := by
  have ⟨fits, same⟩ := (charge_eq_ok _ _ _).mp success
  exact (charge_eq_ok _ _ _).mpr ⟨fits.trans raised, same⟩

/-- A charge that comes a period later finds the meter renewed. -/
theorem charge_renewed (positive : 0 < period) {meter : Meter} {input : ι}
    (renewed : period ≤ time input - meter.start) :
    charge time amount period cap meter input =
      charge time amount period cap ⟨0, time input⟩ input := by
  have early : ¬ period ≤ time input - time input := by omega
  simp only [charge, Meter.rolled, renewed, ↓reduceIte, early]

/-- Over any interval one period long at most twice the cap, from whatever was spent
before, which may be more than a cap that was lowered since. -/
theorem spentIn_le_of_any (positive : 0 < period) {low : Nat} {meter : Meter} {inputs : List ι}
    (ordered : inputs.Pairwise fun first second => time first ≤ time second) :
    spentIn time amount period cap low meter inputs ≤ 2 * cap := by
  induction inputs with
  | nil => exact Nat.zero_le _
  | cons input rest ih =>
      have ⟨_, rest_ordered⟩ := List.pairwise_cons.mp ordered
      by_cases within : meter.spent ≤ cap
      · exact spentIn_le positive within ordered
      · by_cases renewed : period ≤ time input - meter.start
        · have charged := @charge_renewed _ time amount period cap positive meter input renewed
          cases outcome : charge time amount period cap ⟨0, time input⟩ input with
          | ok next =>
              have fresh : spentIn time amount period cap low ⟨0, time input⟩ (input :: rest) ≤ 2 * cap :=
                spentIn_le positive (Nat.zero_le _) ordered
              unfold spentIn at fresh ⊢
              rw [Run.accepted_of_ok rest outcome] at fresh
              rw [Run.accepted_of_ok rest (charged.trans outcome)]
              exact fresh
          | error reason =>
              unfold spentIn
              rw [Run.accepted_of_error rest (charged.trans outcome)]
              exact ih rest_ordered
        · -- what was spent already is too much for any charge before the renewal
          have refused : charge time amount period cap meter input = .error () := by
            have kept : meter.rolled period (time input) = meter := if_neg renewed
            simp only [charge, kept]
            exact if_neg (by omega)
          unfold spentIn
          rw [Run.accepted_of_error rest refused]
          exact ih rest_ordered

section History

variable (time amount)

/-- The sum of the inputs from `low` on. -/
def sumSince (low : Nat) (inputs : List ι) : Nat :=
  ((inputs.filter fun input => low ≤ time input).map amount).sum

/-- What counts against a charge at `now`: nothing once a period has passed, and
otherwise all that was accepted since the last renewal. -/
def Meter.base (meter : Meter) (period : Nat) (history : List ι) (now : Nat) : Nat :=
  if period ≤ now - meter.start then 0 else sumSince time amount meter.start history

/-- The meter records the history of accepted inputs exactly. -/
structure Meter.Records (meter : Meter) (period : Nat) (history : List ι) : Prop where
  spent : meter.spent = sumSince time amount meter.start history
  within : ∀ input ∈ history, time input < meter.start + period

variable {time amount}

theorem sumSince_append (low : Nat) (first second : List ι) :
    sumSince time amount low (first ++ second) =
      sumSince time amount low first + sumSince time amount low second := by
  simp only [sumSince, List.filter_append, List.map_append, List.sum_append]

theorem sumSince_singleton {low : Nat} {input : ι} (counts : low ≤ time input) :
    sumSince time amount low [input] = amount input := by
  simp [sumSince, counts]

theorem sumSince_of_before {low : Nat} {inputs : List ι} (before : ∀ input ∈ inputs, time input < low) :
    sumSince time amount low inputs = 0 := by
  have none : inputs.filter (fun input => low ≤ time input) = [] := by
    rw [List.filter_eq_nil_iff]
    intro input member
    have early := before input member
    rw [decide_eq_true_eq]
    omega
  rw [sumSince, none]
  rfl

theorem Meter.records_nil (start : Nat) : (Meter.mk 0 start).Records time amount period [] :=
  ⟨rfl, fun _ member => nomatch member⟩

theorem Meter.Records.rolled_spent {meter : Meter} {history : List ι}
    (records : meter.Records time amount period history) (now : Nat) :
    (meter.rolled period now).spent = meter.base time amount period history now := by
  unfold Meter.rolled Meter.base
  by_cases renewed : period ≤ now - meter.start
  · simp only [renewed, ↓reduceIte]
  · simp only [renewed, ↓reduceIte, records.spent]

/-- A renewal comes a full period after the last one. -/
theorem Meter.rolled_start (meter : Meter) (period now : Nat) :
    (meter.rolled period now).start = if period ≤ now - meter.start then now else meter.start := by
  unfold Meter.rolled
  split <;> rfl

/-- An accepted charge is recorded. -/
theorem Meter.Records.charge (positive : 0 < period) {meter next : Meter} {history : List ι}
    {input : ι} (records : meter.Records time amount period history)
    (later : meter.start ≤ time input)
    (success : charge time amount period cap meter input = .ok next) :
    next.Records time amount period (history ++ [input]) ∧ next.start ≤ time input := by
  have ⟨_, same⟩ := (charge_eq_ok _ _ _).mp success
  by_cases renewed : period ≤ time input - meter.start
  · -- no input of the history reaches into the new window
    have rolled : meter.rolled period (time input) = ⟨0, time input⟩ := by
      simp only [Meter.rolled, renewed, ↓reduceIte]
    have before : ∀ old ∈ history, time old < time input := by
      intro old member
      have early := records.within old member
      omega
    rw [rolled] at same
    subst same
    refine ⟨⟨?_, ?_⟩, le_refl _⟩
    · rw [sumSince_append, sumSince_of_before before, sumSince_singleton (le_refl (time input))]
    · intro old member
      show time old < time input + period
      rcases List.mem_append.mp member with inside | here
      · have early := before old inside
        omega
      · rw [List.mem_singleton.mp here]
        omega
  · have rolled : meter.rolled period (time input) = meter := by
      simp only [Meter.rolled, renewed, ↓reduceIte]
    rw [rolled] at same
    subst same
    refine ⟨⟨?_, ?_⟩, later⟩
    · show meter.spent + amount input = _
      rw [sumSince_append, sumSince_singleton later, records.spent]
    · intro old member
      rcases List.mem_append.mp member with inside | here
      · exact records.within old inside
      · rw [List.mem_singleton.mp here]
        show time input < meter.start + period
        omega

end History

end Window
