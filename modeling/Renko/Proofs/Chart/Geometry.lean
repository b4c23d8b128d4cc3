import Mathlib
import Renko.Proofs.Chart.History
import Renko.Proofs.Scalar

/-! # The geometry of bricks

Over rational numbers every completed brick spans exactly one brick size, every brick covers its
body, and after a tick the current brick has moved less than one size from its open
(`Renko.Chart.measured_after_feedings`). The bound holds because the steps counted by rounding down
are the steps taken by adding sizes one after the other.
-/

namespace Renko

namespace Direction

/-- Steps one after the other lead as far as they measure together. -/
theorem iterate_step (direction : Direction) (size anchor : Rat) (count : Nat) :
    (direction.step size)^[count] anchor = direction.step (count * size) anchor := by
  induction count generalizing anchor with
  | zero => cases direction <;> simp [step]
  | succ count inductionHypothesis =>
      rw [Function.iterate_succ_apply, inductionHypothesis]
      cases direction <;> simp only [step] <;> push_cast <;> ring

/-- Distances in one direction add up along the way. -/
theorem distance_add_distance (direction : Direction) (first second third : Rat) :
    direction.distance first second + direction.distance second third =
      direction.distance first third := by
  cases direction <;> simp only [distance] <;> ring

/-- A step in a direction leaves so much less to go. -/
theorem distance_step (direction : Direction) (length anchor price : Rat) :
    direction.distance (direction.step length anchor) price =
      direction.distance anchor price - length := by
  cases direction <;> simp only [distance, step] <;> ring

/-- To a price that lies ahead the distance is that in the direction. -/
theorem abs_sub_of_ahead {direction : Direction} {anchor price : Rat}
    (ahead : 0 ≤ direction.distance anchor price) :
    |price - anchor| = direction.distance anchor price := by
  cases direction with
  | up => exact abs_of_nonneg ahead
  | down =>
      rw [abs_sub_comm]
      exact abs_of_nonneg ahead

/-- The direction of a price that lies ahead is the one it lies in. -/
theorem toward_of_ahead {direction : Direction} {anchor price : Rat}
    (ahead : 0 < direction.distance anchor price) : toward anchor price = direction := by
  cases direction with
  | up => exact if_pos (sub_pos.mp ahead)
  | down => exact if_neg (sub_pos.mp ahead).not_gt

/-- In its own direction a price lies ahead, by its distance. -/
theorem distance_toward (anchor price : Rat) :
    (toward anchor price).distance anchor price = |price - anchor| := by
  unfold toward
  split
  · rename_i above
    exact (abs_of_pos (sub_pos.mpr above)).symm
  · rename_i below
    rw [abs_of_nonpos (sub_nonpos.mpr (not_lt.mp below)), neg_sub]
    rfl

/-- A step toward a price that does not pass it shortens the distance by its length. -/
theorem abs_sub_step_toward {anchor price length : Rat} (within : length ≤ |price - anchor|) :
    |price - (toward anchor price).step length anchor| = |price - anchor| - length := by
  unfold toward
  split
  · rename_i above
    change |price - (anchor + length)| = _
    rw [abs_of_pos (sub_pos.mpr above)] at within ⊢
    rw [abs_of_nonneg (by linarith)]
    ring
  · rename_i below
    change |price - (anchor - length)| = _
    rw [abs_of_nonpos (sub_nonpos.mpr (not_lt.mp below))] at within ⊢
    rw [abs_of_nonpos (by linarith)]
    ring

/-- The whole steps toward a price do not pass it, and one more would. -/
theorem steps_bounds {size : Rat} (positive : 0 < size) (anchor price : Rat) :
    let count := Scalar.wholeSteps ((toward anchor price).distance anchor price) size
    count * size ≤ |price - anchor| ∧ |price - anchor| < count * size + size := by
  rw [distance_toward]
  exact Scalar.wholeSteps_bounds positive (abs_nonneg (price - anchor))

/-- The whole steps toward a price shorten its distance by as many sizes. -/
theorem abs_sub_iterate_step {size : Rat} (positive : 0 < size) (anchor price : Rat) :
    let count := Scalar.wholeSteps ((toward anchor price).distance anchor price) size
    |price - ((toward anchor price).step size)^[count] anchor| =
      |price - anchor| - count * size := by
  intro count
  rw [iterate_step, abs_sub_step_toward (steps_bounds positive anchor price).1]

end Direction

namespace Brick

/-- A completed brick closes one size away from its open, on the side of its kind. -/
def Spans (brick : Brick Rat) (size : Rat) : Prop :=
  brick.kind = .up ∧ brick.closePrice = brick.openPrice + size ∨
    brick.kind = .down ∧ brick.closePrice = brick.openPrice - size

/-- The extremes of a brick lie outside its body. -/
def Covers (brick : Brick Rat) : Prop :=
  brick.low ≤ min brick.openPrice brick.closePrice ∧
    max brick.openPrice brick.closePrice ≤ brick.high

/-- Every brick that a tick completes spans one size. -/
theorem spans_of_mem_staircase {brick : Brick Rat} {time : Instant} {direction : Direction}
    {size : Rat} {further : Nat} {step : Brick Rat}
    (member : step ∈ brick.staircase time direction size further) : step.Spans size := by
  rcases List.mem_cons.mp member with rfl | later
  · cases direction with
    | up => exact .inl ⟨rfl, rfl⟩
    | down => exact .inr ⟨rfl, rfl⟩
  · obtain ⟨below, rfl⟩ := exists_synthetic_of_mem_ladder later
    cases direction with
    | up => exact .inl ⟨rfl, rfl⟩
    | down => exact .inr ⟨rfl, rfl⟩

private theorem covers_provisional (tick : Tick Rat) : (provisional tick).Covers :=
  ⟨(min_self tick.price).ge, (max_self tick.price).le⟩

/-- An absorbed tick leaves the body between the extremes, wherever they were. -/
theorem covers_absorb (brick : Brick Rat) (tick : Tick Rat) : (brick.absorb tick).Covers := by
  simp only [Covers, absorb, Scalar.larger_eq_max, Scalar.smaller_eq_min]
  constructor
  · exact min_le_min_right _ ((min_le_left _ _).trans (min_le_left _ _))
  · exact max_le_max_right _ ((le_max_left _ _).trans (le_max_left _ _))

/-- A tick absorbed by a brick that covers its body moves the extremes it lies outside of. -/
theorem absorb_of_covers {brick : Brick Rat} (covers : brick.Covers) (tick : Tick Rat) :
    brick.absorb tick =
      { brick with
        high := max brick.high tick.price
        low := min brick.low tick.price
        closePrice := tick.price
        ticks := brick.ticks + 1
        volume := brick.volume + tick.volume } := by
  obtain ⟨lower, upper⟩ := covers
  have low : brick.low ≤ brick.openPrice := lower.trans (min_le_left _ _)
  have high : brick.openPrice ≤ brick.high := (le_max_left _ _).trans upper
  have above : brick.openPrice ≤ max brick.high tick.price := high.trans (le_max_left _ _)
  simp only [absorb, Scalar.larger_eq_max, Scalar.smaller_eq_min, max_eq_right high,
    max_eq_left (low.trans high), min_eq_left above, min_eq_right low]

/-- A brick that covers its body does so when it is completed. -/
theorem covers_complete {brick : Brick Rat} (covers : brick.Covers) {size : Rat}
    (positive : 0 < size) (direction : Direction) : (brick.complete direction size).Covers := by
  -- the extreme that does not move must have covered the open before
  obtain ⟨lower, upper⟩ := covers
  have low : brick.low ≤ brick.openPrice := lower.trans (min_le_left _ _)
  have high : brick.openPrice ≤ brick.high := (le_max_left _ _).trans upper
  cases direction with
  | up =>
      have rises : brick.openPrice ≤ brick.openPrice + size := by linarith
      exact ⟨le_min low (low.trans rises), max_le rises le_rfl⟩
  | down =>
      have falls : brick.openPrice - size ≤ brick.openPrice := by linarith
      exact ⟨le_min falls le_rfl, max_le high (falls.trans high)⟩

private theorem covers_synthetic (time : Instant) (direction : Direction) (size anchor : Rat) :
    (synthetic time direction size anchor).Covers := by
  simp only [Covers, synthetic, Scalar.larger_eq_max, Scalar.smaller_eq_min]
  exact ⟨le_rfl, le_rfl⟩

private theorem covers_following (tick : Tick Rat) (anchor : Rat) :
    (following tick anchor).Covers := by
  simp only [Covers, following, Scalar.larger_eq_max, Scalar.smaller_eq_min]
  exact ⟨(min_comm _ _).le, (max_comm _ _).le⟩

/-- Every brick that a tick completes covers its body. -/
theorem covers_of_mem_staircase {brick : Brick Rat} (covers : brick.Covers) {time : Instant}
    {direction : Direction} {size : Rat} (positive : 0 < size) {further : Nat} {step : Brick Rat}
    (member : step ∈ brick.staircase time direction size further) : step.Covers := by
  rcases List.mem_cons.mp member with rfl | later
  · exact covers_complete covers positive direction
  · obtain ⟨below, rfl⟩ := exists_synthetic_of_mem_ladder later
    exact covers_synthetic time direction size below

/-- A price at the open itself is no step away. -/
theorem stepsTo_openPrice (brick : Brick Rat) (size : Rat) :
    brick.stepsTo size brick.openPrice = 0 := by
  unfold stepsTo
  rw [Direction.distance_toward, sub_self, abs_zero]
  change ⌊0 / size⌋.toNat = 0
  rw [zero_div, Int.floor_zero, Int.toNat_zero]

/-- The steps to a price fall short of it by less than one size. -/
theorem stepsTo_bounds (brick : Brick Rat) {size : Rat} (positive : 0 < size) (price : Rat) :
    brick.stepsTo size price * size ≤ |price - brick.openPrice| ∧
      |price - brick.openPrice| < brick.stepsTo size price * size + size :=
  Direction.steps_bounds positive brick.openPrice price

/-- What is left of a distance after its steps is the distance without them. -/
theorem abs_sub_steps (brick : Brick Rat) {size : Rat} (positive : 0 < size) (price : Rat) :
    |price - ((Direction.toward brick.openPrice price).step size)^[brick.stepsTo size price]
      brick.openPrice| = |price - brick.openPrice| - brick.stepsTo size price * size :=
  Direction.abs_sub_iterate_step positive brick.openPrice price

/-- Past the steps that a price moved, less than one size remains. -/
theorem abs_sub_steps_lt (brick : Brick Rat) {size : Rat} (positive : 0 < size) (price : Rat) :
    |price - ((Direction.toward brick.openPrice price).step size)^[brick.stepsTo size price]
      brick.openPrice| < size := by
  have bounds := brick.stepsTo_bounds positive price
  rw [abs_sub_steps brick positive]
  linarith

end Brick

namespace Chart

/-- What holds of a chart and its history when prices are rational: the completed bricks span, in
order, the sizes in force when they were completed; every brick covers its body; and each tick left
the current brick at its price, less than one size from its open. -/
structure Measured (chart : Chart Rat) (past : List (Taken Rat)) : Prop where
  spans : List.Forall₂ Brick.Spans chart.completed.toList
    (past.flatMap fun taken => List.replicate taken.count taken.chart.size)
  covers : ∀ brick ∈ chart.bricks, brick.Covers
  near : ∀ taken ∈ past, ∃ brick, taken.chart.current = some brick ∧
    brick.closePrice = taken.tick.price ∧
    |brick.closePrice - brick.openPrice| < taken.chart.size

/-- The bricks that a step adds span the size it leaves in force. -/
theorem Step.spans {chart next : Chart Rat} {tick : Tick Rat} {count : Nat}
    (step : Step chart tick count next) :
    ∃ added : List (Brick Rat), next.completed = chart.completed ++ added.toArray ∧
      List.Forall₂ Brick.Spans added (List.replicate count next.size) := by
  cases step with
  | opened valid => exact ⟨[], Array.append_empty.symm, .nil⟩
  | absorbed valid near => exact ⟨[], Array.append_empty.symm, .nil⟩
  | @completed old size completed brick tick direction further valid toward far =>
      refine ⟨_, rfl, ?_⟩
      have length := Brick.length_staircase brick tick.time direction size further
      refine List.forall₂_iff_zip.mpr ⟨by rw [length, List.length_replicate], ?_⟩
      intro step spanned member
      obtain ⟨inside, repeated⟩ := List.of_mem_zip member
      rw [List.eq_of_mem_replicate repeated]
      exact Brick.spans_of_mem_staircase inside

/-- A step keeps all bricks covering their bodies. -/
theorem Step.covers {chart next : Chart Rat} {tick : Tick Rat} {count : Nat}
    (covers : ∀ brick ∈ chart.bricks, brick.Covers) (step : Step chart tick count next) :
    ∀ brick ∈ next.bricks, brick.Covers := by
  have earlier : ∀ brick ∈ chart.completed.toList, brick.Covers :=
    fun brick member => covers brick (List.mem_append_left _ member)
  cases step with
  | @opened old size completed tick valid =>
      exact List.forall_mem_append.mpr
        ⟨earlier, List.forall_mem_singleton.mpr (Brick.covers_provisional tick)⟩
  | @absorbed old size completed brick tick valid near =>
      exact List.forall_mem_append.mpr
        ⟨earlier, List.forall_mem_singleton.mpr (Brick.covers_absorb brick tick)⟩
  | @completed old size completed brick tick direction further valid toward far =>
      have current : brick.Covers := covers brick (List.mem_append_right _ (.head _))
      rw [bricks, Array.toList_append]
      refine List.forall_mem_append.mpr ⟨List.forall_mem_append.mpr ⟨earlier, ?_⟩,
        List.forall_mem_singleton.mpr (Brick.covers_following tick _)⟩
      exact fun step member =>
        Brick.covers_of_mem_staircase current (positive_of_validBrickSize valid) member

/-- A tick leaves the current brick less than one size from its open. -/
theorem Step.near {chart next : Chart Rat} {tick : Tick Rat} {count : Nat}
    (step : Step chart tick count next) :
    ∃ brick, next.current = some brick ∧ brick.closePrice = tick.price ∧
      |brick.closePrice - brick.openPrice| < next.size := by
  cases step with
  | @opened old size completed tick valid =>
      refine ⟨_, rfl, rfl, ?_⟩
      change |tick.price - tick.price| < size
      rw [sub_self, abs_zero]
      exact positive_of_validBrickSize valid
  | @absorbed old size completed brick tick valid near =>
      refine ⟨_, rfl, rfl, ?_⟩
      have remains := brick.abs_sub_steps_lt (positive_of_validBrickSize valid) tick.price
      rw [near] at remains
      exact remains
  | @completed old size completed brick tick direction further valid toward far =>
      refine ⟨_, rfl, rfl, ?_⟩
      have remains := brick.abs_sub_steps_lt (positive_of_validBrickSize valid) tick.price
      rw [far, ← toward] at remains
      exact remains

/-- The current brick of a chart has moved less than one size from its open. -/
theorem Grown.near {chart : Chart Rat} {past : List (Taken Rat)} (grown : Grown chart past) :
    ∀ brick ∈ chart.current, |brick.closePrice - brick.openPrice| < chart.size := by
  intro brick current
  cases grown with
  | empty valid => cases current
  | step before step =>
      obtain ⟨other, same, -, near⟩ := step.near
      obtain rfl := Option.some.inj (same.symm.trans current)
      exact near

/-- **A chart is measured by its sizes**, however it has grown. -/
theorem Grown.measured {chart : Chart Rat} {past : List (Taken Rat)} (grown : Grown chart past) :
    Measured chart past := by
  induction grown with
  | empty valid =>
      exact ⟨.nil, fun brick absent => (nomatch absent), fun taken absent => (nomatch absent)⟩
  | step before step inductionHypothesis =>
      obtain ⟨added, completed, spans⟩ := step.spans
      refine ⟨?_, step.covers inductionHypothesis.covers, ?_⟩
      · rw [completed, Array.toList_append, List.flatMap_append, List.flatMap_singleton]
        exact List.rel_append inductionHypothesis.spans spans
      · exact List.forall_mem_append.mpr
          ⟨inductionHypothesis.near, List.forall_mem_singleton.mpr step.near⟩

/-- **Bricks are measured exactly.** Whatever rational prices and sizes a chart is fed, its
completed bricks span the sizes in force when they were completed, its bricks cover their bodies,
and every tick leaves the current brick at its price, less than one size from its open. -/
theorem measured_after_feedings {size : Rat} {first : Chart Rat}
    (started : start size = .ok first) (feedings : List (Feeding Rat)) :
    (first.after feedings).Measured (first.history feedings) :=
  (grown_after started feedings).measured

/-- A provisional brick is completed at a size that shrank below its body, and the size grows
again while the next one is provisional. -/
theorem measured_after_shrinking_size :
    let first : Chart Rat := ⟨3, #[], none⟩
    let feeding (ms : Int) (price : Rat) (resize : Option Rat) : Feeding Rat :=
      ⟨⟨.ofMillis ms, price, 1⟩, resize⟩
    let feedings := [feeding 0 100 none, feeding 1 102 none, feeding 2 (203 / 2) (some (2 / 3)),
      feeding 3 100 (some 5), feeding 4 (711 / 7) (some (-1)), feeding 5 90 none]
    start 3 = .ok first ∧
      (first.history feedings).map (·.count) = [0, 0, 2, 0, 2] ∧
      (first.after feedings).Measured (first.history feedings) :=
  ⟨start_eq_ok.mpr ⟨by decide +kernel, rfl⟩, by decide +kernel,
    measured_after_feedings (start_eq_ok.mpr ⟨by decide +kernel, rfl⟩) _⟩

end Chart

end Renko
