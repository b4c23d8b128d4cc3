import Mathlib
import Renko.Proofs.Chart.Geometry

/-! # How far a chart travels

Over rational numbers the bodies of the bricks of a chart measure the way its prices went. Together
they are never longer than that way, and they are as long when the prices never turn
(`Renko.Chart.travelled_after_feedings`). A tick changes their length by as much as it changes the
distance of the price from the open of the current brick (`Renko.Chart.Step.travelled_of_some`),
however many bricks it completes and at whatever size; the rest is the triangle inequality.
-/

namespace Renko

/-- How far a path of prices leads, up and down together. -/
def variation : List Rat → Rat
  | earlier :: later :: rest => |later - earlier| + variation (later :: rest)
  | _ => 0

/-- The variation of prices grows by the move to the next one. -/
theorem variation_concat {prices : List Rat} {last : Rat} (final : prices.getLast? = some last)
    (next : Rat) : variation (prices ++ [next]) = variation prices + |next - last| := by
  induction prices with
  | nil => cases final
  | cons first rest inductionHypothesis =>
      cases rest with
      | nil =>
          have same : first = last := Option.some.inj final
          simp only [List.singleton_append, variation, zero_add, add_zero, same]
      | cons second rest =>
          rw [List.getLast?_cons_cons] at final
          have later := inductionHypothesis final
          simp only [List.cons_append, variation] at later ⊢
          rw [later, add_assoc]

namespace Direction

variable {direction : Direction}

/-- Prices that never turn against a direction. -/
def Along : Direction → List Rat → Prop
  | up, prices => prices.IsChain (· ≤ ·)
  | down, prices => prices.IsChain (· ≥ ·)

/-- Prices go along a direction if each lies ahead of the one before it. -/
theorem along_iff {prices : List Rat} :
    direction.Along prices ↔
      prices.IsChain fun earlier later => 0 ≤ direction.distance earlier later := by
  cases direction with
  | up => exact ⟨List.IsChain.imp fun _ _ => sub_nonneg.mpr,
      List.IsChain.imp fun _ _ => sub_nonneg.mp⟩
  | down => exact ⟨List.IsChain.imp fun _ _ => sub_nonneg.mpr,
      List.IsChain.imp fun _ _ => sub_nonneg.mp⟩

/-- Prices that never turn lead as far as the last of them lies from the first. -/
theorem variation_of_along {prices : List Rat} (along : direction.Along prices) {first last : Rat}
    (head : prices.head? = some first) (final : prices.getLast? = some last) :
    variation prices = |last - first| := by
  rw [along_iff] at along
  suffices variation prices = direction.distance first last ∧ 0 ≤ direction.distance first last by
    rw [this.1, abs_sub_of_ahead this.2]
  induction prices generalizing first with
  | nil => cases head
  | cons price rest inductionHypothesis =>
      obtain rfl := Option.some.inj head
      cases rest with
      | nil =>
          obtain rfl := Option.some.inj final
          cases direction <;> simp [variation, distance]
      | cons second rest =>
          obtain ⟨ahead, alongLater⟩ := List.isChain_cons_cons.mp along
          rw [List.getLast?_cons_cons] at final
          obtain ⟨length, further⟩ := inductionHypothesis alongLater rfl final
          have whole := direction.distance_add_distance price second last
          rw [variation, length, abs_sub_of_ahead ahead, ← whole]
          exact ⟨rfl, add_nonneg ahead further⟩

end Direction

namespace Brick

/-- The length of a brick's body. -/
def reach (brick : Brick Rat) : Rat := |brick.closePrice - brick.openPrice|

/-- A brick that spans a size reaches as far. -/
theorem Spans.reach {brick : Brick Rat} {size : Rat} (spans : brick.Spans size)
    (positive : 0 < size) : brick.reach = size := by
  unfold Brick.reach
  rcases spans with ⟨-, close⟩ | ⟨-, close⟩
  · rw [close, add_sub_cancel_left, abs_of_pos positive]
  · rw [close, sub_sub_cancel_left, abs_neg, abs_of_pos positive]

private theorem sum_reach_of_spans {bricks : List (Brick Rat)} {size : Rat} (positive : 0 < size)
    (spans : ∀ brick ∈ bricks, brick.Spans size) :
    (bricks.map reach).sum = bricks.length * size := by
  have each : ∀ length ∈ bricks.map reach, length = size := by
    intro length member
    obtain ⟨brick, among, rfl⟩ := List.mem_map.mp member
    exact (spans brick among).reach positive
  rw [List.sum_eq_card_nsmul _ size each, List.length_map, nsmul_eq_mul]

end Brick

namespace Chart

/-- How far the bricks of a chart lead, one body after the other. -/
def travelled (chart : Chart Rat) : Rat := (chart.bricks.map Brick.reach).sum

private theorem travelled_some (size : Rat) (completed : Array (Brick Rat)) (brick : Brick Rat) :
    travelled ⟨size, completed, some brick⟩ =
      (completed.toList.map Brick.reach).sum + brick.reach := by
  simp only [travelled, bricks, Option.toList_some, List.map_append, List.sum_append,
    List.map_singleton, List.sum_singleton]

variable {chart next : Chart Rat} {past : List (Taken Rat)} {tick : Tick Rat} {count : Nat}

/-- The first tick leads nowhere. -/
theorem Step.travelled_of_none (step : Step chart tick count next)
    (nothing : chart.current = none) : next.travelled = chart.travelled := by
  cases step with
  | @opened old size completed tick valid =>
      rw [travelled_some, Brick.reach]
      change _ + |tick.price - tick.price| = _
      rw [sub_self, abs_zero, add_zero, travelled, bricks, Option.toList_none, List.append_nil]
  | absorbed valid near => cases nothing
  | completed valid toward far => cases nothing

/-- A tick moves the end of the line from the close of the current brick to its price, both measured
from the open of the brick. -/
theorem Step.travelled_of_some (step : Step chart tick count next) {brick : Brick Rat}
    (current : chart.current = some brick) :
    next.travelled + brick.reach = chart.travelled + |tick.price - brick.openPrice| := by
  cases step with
  | opened valid => cases current
  | @absorbed old size completed brick tick valid near =>
      obtain rfl := Option.some.inj current
      have moved : (brick.absorb tick).reach = |tick.price - brick.openPrice| := rfl
      rw [travelled_some, travelled_some, moved]
      ring
  | @completed old size completed brick tick direction further valid toward far =>
      obtain rfl := Option.some.inj current
      have positive := positive_of_validBrickSize valid
      have stairs := Brick.sum_reach_of_spans positive fun step
        (member : step ∈ brick.staircase tick.time direction size further) =>
          Brick.spans_of_mem_staircase member
      have rest := brick.abs_sub_steps positive tick.price
      rw [Brick.length_staircase] at stairs
      rw [far, ← toward] at rest
      rw [travelled_some, travelled_some, Array.toList_append, List.map_append, List.sum_append,
        stairs]
      change _ + |tick.price - (direction.step size)^[further + 1] brick.openPrice| + _ = _
      rw [rest]
      ring

/-- The bodies of the bricks are together no longer than the way of the prices. -/
theorem Grown.travelled_le (grown : Grown chart past) :
    chart.travelled ≤ variation (past.map (·.tick.price)) := by
  induction grown with
  | empty valid => exact le_rfl
  | @step chart next past tick count before step inductionHypothesis =>
      rw [List.map_append, List.map_singleton]
      cases current : chart.current with
      | none =>
          obtain rfl := before.past_eq_nil current
          rw [step.travelled_of_none current]
          exact inductionHypothesis
      | some brick =>
          have moved := step.travelled_of_some current
          have triangle := abs_sub_le tick.price brick.closePrice brick.openPrice
          rw [variation_concat (before.getLast?_map_price current)]
          unfold Brick.reach at moved
          linarith

/-- A line that only ever went in one direction. -/
structure Heads (chart : Chart Rat) (direction : Direction) : Prop where
  kinds : ∀ brick ∈ chart.completed.toList, brick.kind = direction.kind
  ahead : ∀ brick ∈ chart.current, 0 ≤ direction.distance brick.openPrice brick.closePrice

/-- A tick that does not lie behind the open of the current brick leaves the line its direction. -/
theorem Step.heads {direction : Direction} (heads : chart.Heads direction)
    (step : Step chart tick count next)
    (ahead : ∀ brick ∈ chart.current, 0 ≤ direction.distance brick.openPrice tick.price) :
    next.Heads direction := by
  cases step with
  | @opened old size completed tick valid =>
      refine ⟨heads.kinds, ?_⟩
      intro brick current
      obtain rfl := Option.some.inj current
      cases direction <;> exact (sub_self tick.price).ge
  | @absorbed old size completed brick tick valid near =>
      refine ⟨heads.kinds, ?_⟩
      intro absorbed current
      obtain rfl := Option.some.inj current
      exact ahead brick rfl
  | @completed old size completed brick tick toward further valid is_toward far =>
      have positive := positive_of_validBrickSize valid
      have before := ahead brick rfl
      obtain ⟨reached, -⟩ := brick.stepsTo_bounds positive tick.price
      rw [far, Direction.abs_sub_of_ahead before] at reached
      have moved : 0 < ((further + 1 : Nat) : Rat) * size :=
        mul_pos (Nat.cast_pos.mpr (Nat.succ_pos further)) positive
      rw [Direction.toward_of_ahead (moved.trans_le reached)] at is_toward
      subst is_toward
      constructor
      · intro step member
        rw [Array.toList_append, List.mem_append] at member
        rcases member with earlier | added
        · exact heads.kinds step earlier
        · exact Brick.kind_of_mem_staircase added
      · intro following current
        obtain rfl := Option.some.inj current
        change 0 ≤ toward.distance ((toward.step size)^[further + 1] brick.openPrice) tick.price
        rw [Direction.iterate_step, Direction.distance_step]
        linarith

/-- When the prices never turn, neither does the line, and it is as long as their way. -/
theorem Grown.travelled_of_along (grown : Grown chart past) {direction : Direction}
    (along : direction.Along (past.map (·.tick.price))) :
    chart.Heads direction ∧ chart.travelled = variation (past.map (·.tick.price)) := by
  induction grown with
  | empty valid =>
      exact ⟨⟨fun brick absent => (nomatch absent), fun brick absent => (nomatch absent)⟩, rfl⟩
  | @step chart next past tick count before step inductionHypothesis =>
      rw [List.map_append, List.map_singleton, Direction.along_iff] at along
      obtain ⟨alongBefore, -, joined⟩ := List.isChain_append.mp along
      obtain ⟨heads, length⟩ := inductionHypothesis (Direction.along_iff.mpr alongBefore)
      rw [List.map_append, List.map_singleton]
      cases current : chart.current with
      | none =>
          obtain rfl := before.past_eq_nil current
          refine ⟨step.heads heads fun brick absent => ?_, ?_⟩
          · rw [current] at absent
            cases absent
          · rw [step.travelled_of_none current]
            exact length
      | some brick =>
          have final := before.getLast?_map_price current
          have onward := joined _ final tick.price rfl
          have behind := heads.ahead brick current
          have whole := direction.distance_add_distance brick.openPrice brick.closePrice tick.price
          have ahead : 0 ≤ direction.distance brick.openPrice tick.price := by linarith
          refine ⟨step.heads heads fun other among => ?_, ?_⟩
          · obtain rfl := Option.some.inj (current.symm.trans among)
            exact ahead
          · have moved := step.travelled_of_some current
            unfold Brick.reach at moved
            rw [Direction.abs_sub_of_ahead ahead, Direction.abs_sub_of_ahead behind] at moved
            rw [variation_concat final, Direction.abs_sub_of_ahead onward]
            linarith

/-- With one size in force every completed brick spans it. -/
theorem Grown.spans_of_size (grown : Grown chart past) {size : Rat}
    (fixed : ∀ taken ∈ past, taken.chart.size = size) :
    ∀ brick ∈ chart.completed.toList, brick.Spans size := by
  have sizes : ∀ other ∈ past.flatMap fun taken => List.replicate taken.count taken.chart.size,
      other = size := by
    intro other member
    obtain ⟨taken, among, repeated⟩ := List.mem_flatMap.mp member
    rw [List.eq_of_mem_replicate repeated]
    exact fixed taken among
  obtain ⟨same, each⟩ := List.forall₂_iff_get.mp grown.measured.spans
  intro brick member
  obtain ⟨place, inside, rfl⟩ := List.getElem_of_mem member
  have spans := each place inside (same ▸ inside)
  rw [sizes _ (List.get_mem _ _)] at spans
  exact spans

/-- At one size the line is as many sizes long as there are completed bricks, and less than one
more. -/
theorem Grown.travelled_bounds (grown : Grown chart past) {size : Rat} (positive : 0 < size)
    (fixed : ∀ taken ∈ past, taken.chart.size = size) :
    chart.completed.size * size ≤ chart.travelled ∧
      chart.travelled < chart.completed.size * size + size := by
  have length : chart.travelled =
      chart.completed.size * size + (chart.current.toList.map Brick.reach).sum := by
    rw [travelled, bricks, List.map_append, List.sum_append,
      Brick.sum_reach_of_spans positive (grown.spans_of_size fixed), Array.length_toList]
  have rest : 0 ≤ (chart.current.toList.map Brick.reach).sum ∧
      (chart.current.toList.map Brick.reach).sum < size := by
    cases current : chart.current with
    | none => exact ⟨le_rfl, positive⟩
    | some brick =>
        obtain ⟨final, last, same, -⟩ := grown.exists_final current
        have inForce := fixed final (List.mem_of_getLast? last)
        rw [Option.toList_some, List.map_singleton, List.sum_singleton, ← inForce, same]
        exact ⟨abs_nonneg _, grown.near brick current⟩
  rw [length]
  exact ⟨le_add_of_nonneg_right rest.1, add_lt_add_right rest.2 _⟩

/-- The law of distances. The bodies of all bricks, the current one included, are together no longer
than the way of the prices, and as long when the prices never turn. The completed bricks then go
where the prices go. At one size, which they all span, this counts them. -/
structure Travels (chart : Chart Rat) (size : Rat) (feedings : List (Feeding Rat))
    (prices : List Rat) : Prop where
  bounded : chart.travelled ≤ variation prices
  straight : ∀ direction : Direction, direction.Along prices →
    chart.travelled = variation prices ∧
      ∀ brick ∈ chart.completed.toList, brick.kind = direction.kind
  countBounded : (∀ feeding ∈ feedings, ∀ asked ∈ feeding.resize, asked = size) →
    (chart.completed.size : Int) ≤ ⌊variation prices / size⌋
  countStraight : (∀ feeding ∈ feedings, ∀ asked ∈ feeding.resize, asked = size) →
    ∀ direction : Direction, direction.Along prices →
      ∀ start ∈ prices.head?, ∀ final ∈ prices.getLast?,
        (chart.completed.size : Int) = ⌊|final - start| / size⌋

/-- **Bricks measure the way of the prices.** Whatever rational prices a chart is fed, at whatever
valid sizes, its bricks lead no further than the prices went, and exactly as far on a path that
never turns. -/
theorem travelled_after_feedings {size : Rat} {first : Chart Rat}
    (started : start size = .ok first) (feedings : List (Feeding Rat))
    (permitted : ∀ feeding ∈ feedings, ∀ asked ∈ feeding.resize, validBrickSize asked = true) :
    (first.after feedings).Travels size feedings (feedings.map (·.tick.price)) := by
  have grown := grown_after started feedings
  obtain ⟨valid, rfl⟩ := start_eq_ok.mp started
  have positive := positive_of_validBrickSize valid
  have fed : ((⟨size, #[], none⟩ : Chart Rat).history feedings).map (·.tick.price) =
      feedings.map (·.tick.price) := by
    have ticks := congrArg (List.map Tick.price) (map_tick_history ⟨size, #[], none⟩ permitted)
    simpa only [List.map_map, Function.comp_def] using ticks
  rw [← fed]
  have bounded := grown.travelled_le
  refine ⟨bounded, ?_, ?_, ?_⟩
  · intro direction along
    obtain ⟨heads, length⟩ := grown.travelled_of_along along
    exact ⟨length, heads.kinds⟩
  · intro fixed
    obtain ⟨lower, -⟩ := grown.travelled_bounds positive (size_of_mem_history _ fixed)
    exact Int.le_floor.mpr ((le_div_iff₀ positive).mpr (lower.trans bounded))
  · intro fixed direction along start head final last
    obtain ⟨lower, upper⟩ := grown.travelled_bounds positive (size_of_mem_history _ fixed)
    obtain ⟨-, length⟩ := grown.travelled_of_along along
    rw [length, Direction.variation_of_along along head last] at lower upper
    apply Eq.symm
    apply Int.floor_eq_iff.mpr
    constructor
    · exact (le_div_iff₀ positive).mpr lower
    · rw [div_lt_iff₀ positive, add_mul, one_mul]
      exact upper

/-- A rise, a fall at a third of the size, and a rise at five times that. -/
theorem travelled_after_turns :
    let first : Chart Rat := ⟨1, #[], none⟩
    let feeding (ms : Int) (price : Rat) (resize : Option Rat) : Feeding Rat :=
      ⟨⟨.ofMillis ms, price, 1⟩, resize⟩
    let feedings := [feeding 0 100 none, feeding 1 (205 / 2) none, feeding 2 101 (some (1 / 3)),
      feeding 3 (607 / 6) none, feeding 4 105 (some (5 / 3))]
    start 1 = .ok first ∧
      (∀ feeding ∈ feedings, ∀ asked ∈ feeding.resize, validBrickSize asked = true) ∧
      (first.history feedings).map (·.count) = [0, 2, 3, 0, 2] ∧
      (first.after feedings).Travels 1 feedings (feedings.map (·.tick.price)) :=
  ⟨start_eq_ok.mpr ⟨by decide +kernel, rfl⟩, by decide +kernel, by decide +kernel,
    travelled_after_feedings (start_eq_ok.mpr ⟨by decide +kernel, rfl⟩) _ (by decide +kernel)⟩

end Chart

end Renko
