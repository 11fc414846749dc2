import Mathlib

set_option autoImplicit false

/- Intervals of a circle of `period` points, run through over and over by the integers. -/
namespace Circular

/-- The points from `start` on and before `stop`, going round the circle. -/
def arc (period start stop : Int) : Set Int :=
  {point | (point - start) % period < (stop - start) % period}

variable {period : Int} {start stop point point' : Int}

theorem mem_arc : point ∈ arc period start stop ↔
    (point - start) % period < (stop - start) % period := Iff.rfl

/-- How far a point lies behind another of the same turn. -/
theorem distance_eq (point_low : 0 ≤ point) (point_high : point < period) (start_low : 0 ≤ start)
    (start_high : start < period) :
    (point - start) % period = if start ≤ point then point - start else point - start + period := by
  split
  · exact Int.emod_eq_of_lt (by omega) (by omega)
  · rw [← Int.add_emod_right]
    exact Int.emod_eq_of_lt (by omega) (by omega)

/-- Only the place on the circle counts. -/
theorem mem_arc_congr (same : point % period = point' % period) :
    point ∈ arc period start stop ↔ point' ∈ arc period start stop := by
  have distance : (point - start) % period = (point' - start) % period := by
    rw [Int.sub_emod, same, ← Int.sub_emod]
  rw [mem_arc, mem_arc, distance]

/-- Within one turn an arc is an interval, or what lies outside of one. -/
theorem mem_arc_iff (positive : 0 < period) (start_low : 0 ≤ start) (start_high : start < period)
    (stop_low : 0 ≤ stop) (stop_high : stop < period) :
    point ∈ arc period start stop ↔
      if start ≤ stop then start ≤ point % period ∧ point % period < stop
      else start ≤ point % period ∨ point % period < stop := by
  have low := Int.emod_nonneg point positive.ne'
  have high := Int.emod_lt_of_pos point positive
  have reduced : point % period = point % period % period := (Int.emod_emod_of_dvd point dvd_rfl).symm
  rw [mem_arc_congr reduced, mem_arc, distance_eq low high start_low start_high,
    distance_eq stop_low stop_high start_low start_high]
  split <;> split <;> omega

/-- Turning an arc round gives its complement. -/
theorem arc_compl (positive : 0 < period) (start_low : 0 ≤ start) (start_high : start < period)
    (stop_low : 0 ≤ stop) (stop_high : stop < period) (distinct : start ≠ stop) :
    (arc period start stop)ᶜ = arc period stop start := by
  ext point
  rw [Set.mem_compl_iff, mem_arc_iff positive start_low start_high stop_low stop_high,
    mem_arc_iff positive stop_low stop_high start_low start_high]
  split <;> split <;> omega

/-- An arc between two multiples of a unit can be measured in whole units. -/
theorem mem_arc_scaled {unit : Int} (positive : 0 < unit) (periodic : 0 < period) :
    point ∈ arc (unit * period) (unit * start) (unit * stop) ↔
      point / unit ∈ arc period start stop := by
  have remainder_low := Int.emod_nonneg point positive.ne'
  have remainder_high := Int.emod_lt_of_pos point positive
  have low := Int.emod_nonneg (point / unit - start) periodic.ne'
  have high := Int.emod_lt_of_pos (point / unit - start) periodic
  have span : (unit * stop - unit * start) % (unit * period) =
      unit * ((stop - start) % period) := by
    rw [← Int.mul_sub, Int.mul_emod_mul_of_pos _ _ positive]
  have whole : point - unit * start = point % unit + unit * (point / unit - start) := by
    have parts := Int.emod_add_mul_ediv point unit
    rw [Int.mul_sub]
    omega
  have distance : (point - unit * start) % (unit * period) =
      point % unit + unit * ((point / unit - start) % period) := by
    have turns := Int.emod_add_mul_ediv (point / unit - start) period
    have parts : point - unit * start = point % unit + unit * ((point / unit - start) % period) +
        unit * period * ((point / unit - start) / period) := by
      rw [whole, Int.add_assoc, Int.mul_assoc, ← Int.mul_add, turns]
    have scaled_low := mul_nonneg positive.le low
    have scaled_high := mul_le_mul_of_nonneg_left (Int.add_one_le_of_lt high) positive.le
    rw [Int.mul_add, Int.mul_one] at scaled_high
    rw [parts, Int.add_mul_emod_self_left]
    exact Int.emod_eq_of_lt (by omega) (by omega)
  rw [mem_arc, mem_arc, span, distance]
  constructor
  · intro below
    by_contra above
    have scaled := mul_le_mul_of_nonneg_left (not_lt.mp above) positive.le
    omega
  · intro below
    have scaled := mul_le_mul_of_nonneg_left (Int.add_one_le_of_lt below) positive.le
    rw [Int.mul_add, Int.mul_one] at scaled
    omega

end Circular
