import Mathlib
import Renko.Proofs.Chart.Attribution
import Renko.Proofs.Chart.Geometry
import Renko.Proofs.Chart.Shape
import Renko.Proofs.Scalar.Order

/-! # The extremes of bricks

While a brick absorbs ticks its extremes are those of its open and of the prices that it counts. The
tick that completes it moves one of them to its close and leaves the other
(`Renko.Chart.bounded_after_feedings`). As long as brick sizes do not shrink, every price a brick
counts lies between its extremes.
-/

namespace Renko

open Scalar (Defined Ordered)

variable {α : Type} [Scalar α] [LE α]

namespace Brick

omit [Scalar α] [LE α] in
/-- The open of a brick and the prices of the ticks it counts. -/
def reached (brick : Brick α) (block : List (Taken α)) : Set α :=
  {price | price ∈ brick.openPrice :: block.map (·.tick.price)}

omit [LE α] in
/-- A brick says of a block when its first tick came, how many ticks it has, and their volume. -/
def Counts (brick : Brick α) (block : List (Taken α)) : Prop :=
  ∃ sum ∈ Chart.counted block,
    brick.time = sum.time ∧ brick.ticks = .ofNat sum.ticks ∧ brick.volume = sum.volume

/-- The extremes of a brick that counts a block. A completed one has an extreme at its close. -/
def Bounds (brick : Brick α) (block : List (Taken α)) : Prop :=
  match brick.kind with
  | .last => IsGreatest (brick.reached block) brick.high ∧ IsLeast (brick.reached block) brick.low
  | .up => brick.high = brick.closePrice ∧ IsLeast (brick.reached block) brick.low
  | .down => brick.low = brick.closePrice ∧ IsGreatest (brick.reached block) brick.high

/-- A brick stands for a block that it counts, or for a further step, which counts nothing and has
its extremes at its ends. -/
def StandsFor (brick : Brick α) : Origin α → Prop
  | .block block => brick.Counts block ∧ brick.Bounds block
  | .further taken =>
    brick.kind ≠ .last ∧ brick.time = taken.tick.time ∧ brick.ticks = 0 ∧ brick.volume = 0 ∧
      IsGreatest {brick.openPrice, brick.closePrice} brick.high ∧
      IsLeast {brick.openPrice, brick.closePrice} brick.low

variable {brick : Brick α} {block : List (Taken α)}

omit [Scalar α] [LE α] in
private theorem reached_concat (brick : Brick α) (block : List (Taken α)) (taken : Taken α) :
    brick.reached (block ++ [taken]) = brick.reached block ∪ {taken.tick.price} := by
  ext price
  change price ∈ brick.openPrice :: (block ++ [taken]).map (·.tick.price) ↔
    price ∈ brick.openPrice :: block.map (·.tick.price) ∨ price = taken.tick.price
  rw [List.map_append, ← List.cons_append, List.mem_append, List.map_singleton,
    List.mem_singleton]

omit [Scalar α] [LE α] in
private theorem reached_singleton (brick : Brick α) (taken : Taken α) :
    brick.reached [taken] = {brick.openPrice} ∪ {taken.tick.price} := by
  have nothing : brick.reached [] = {brick.openPrice} :=
    Set.ext fun price => List.mem_singleton
  rw [← nothing, ← reached_concat, List.nil_append]

omit [LE α] in
private theorem counts_absorb (counts : brick.Counts block) (taken : Taken α) :
    (brick.absorb taken.tick).Counts (block ++ [taken]) := by
  obtain ⟨sum, counted, time, ticks, volume⟩ := counts
  refine ⟨_, Chart.counted_concat counted taken, time, ?_, ?_⟩
  · change brick.ticks + 1 = _
    rw [ticks, UInt32.ofNat_add]
    rfl
  · change brick.volume + taken.tick.volume = _
    rw [volume]

variable [Ordered α] {taken : Taken α}

private theorem bounds_provisional (defined : Defined taken.tick.price) :
    (provisional taken.tick).Bounds [taken] := by
  rw [Bounds, reached_singleton]
  change IsGreatest ({taken.tick.price} ∪ {taken.tick.price}) taken.tick.price ∧
    IsLeast ({taken.tick.price} ∪ {taken.tick.price}) taken.tick.price
  rw [Set.union_self]
  exact ⟨Scalar.isGreatest_singleton defined, Scalar.isLeast_singleton defined⟩

private theorem bounds_following (defined : Defined taken.tick.price) {anchor : α}
    (anchored : Defined anchor) : (following taken.tick anchor).Bounds [taken] := by
  rw [Bounds, reached_singleton, Set.union_comm]
  exact ⟨Scalar.isGreatest_larger (Scalar.isGreatest_singleton defined)
      (Scalar.isGreatest_singleton anchored),
    Scalar.isLeast_smaller (Scalar.isLeast_singleton defined) (Scalar.isLeast_singleton anchored)⟩

/-- Both extremes of a provisional brick are prices it reached, so measuring a new price against all
of them is measuring it against the farthest. -/
theorem bounds_absorb (provisional : brick.kind = .last) (bounds : brick.Bounds block)
    (defined : Defined taken.tick.price) :
    (brick.absorb taken.tick).Bounds (block ++ [taken]) := by
  rw [Bounds, provisional] at bounds
  obtain ⟨greatest, least⟩ := bounds
  have opened : brick.openPrice ∈ brick.reached block := List.mem_cons_self
  have highest : IsGreatest (brick.reached (block ++ [taken])) (brick.absorb taken.tick).high := by
    rw [reached_concat]
    exact Scalar.isGreatest_larger (Scalar.isGreatest_larger_of_mem
      (Scalar.isGreatest_larger_of_mem greatest opened).2 least.1).1
      (Scalar.isGreatest_singleton defined)
  have lowest : IsLeast (brick.reached (block ++ [taken])) (brick.absorb taken.tick).low := by
    -- the low is measured against the new high as well, which is a price reached by now
    have ends : {brick.openPrice} ∪ {(brick.absorb taken.tick).high} ⊆
        brick.reached (block ++ [taken]) :=
      Set.union_subset (Set.singleton_subset_iff.mpr List.mem_cons_self)
        (Set.singleton_subset_iff.mpr highest.1)
    rw [← Set.union_eq_right.mpr ends, reached_concat, ← Set.union_assoc]
    exact Scalar.isLeast_smaller (Scalar.isLeast_smaller (Scalar.isLeast_smaller
      (Scalar.isLeast_singleton (Ordered.defined_of_le (greatest.2 opened)).1)
      (Scalar.isLeast_singleton (Ordered.defined_of_le (highest.2 highest.1)).1)) least)
      (Scalar.isLeast_singleton defined)
  rw [Bounds, absorb_kind, provisional]
  exact ⟨highest, lowest⟩

omit [Ordered α] in
/-- The extreme that does not move on completion stays that of the prices reached. -/
theorem bounds_complete (provisional : brick.kind = .last) (bounds : brick.Bounds block)
    (direction : Direction) (size : α) : (brick.complete direction size).Bounds block := by
  rw [Bounds, provisional] at bounds
  cases direction with
  | up => exact ⟨rfl, bounds.2⟩
  | down => exact ⟨rfl, bounds.1⟩

private theorem defined_openPrice (provisional : brick.kind = .last) (bounds : brick.Bounds block) :
    Defined brick.openPrice := by
  rw [Bounds, provisional] at bounds
  exact (Ordered.defined_of_le (bounds.1.2 List.mem_cons_self)).1

/-- Steps of a valid size pass defined prices only. -/
theorem defined_iterate_step {size anchor : α} (valid : validBrickSize size = true)
    (anchored : Defined anchor) (direction : Direction) (count : Nat) :
    Defined ((direction.step size)^[count] anchor) := by
  induction count with
  | zero => exact anchored
  | succ count inductionHypothesis =>
      rw [Function.iterate_succ_apply']
      exact Ordered.defined_step valid inductionHypothesis direction

private theorem standsFor_of_mem_ladder {direction : Direction} {anchor : α} {count : Nat}
    {step : Brick α} (valid : validBrickSize taken.chart.size = true) (anchored : Defined anchor)
    (member : step ∈ ladder taken.tick.time direction taken.chart.size count anchor) :
    step.StandsFor (.further taken) := by
  induction count generalizing anchor with
  | zero => cases member
  | succ count inductionHypothesis =>
      have stepped := Ordered.defined_step valid anchored direction
      rcases List.mem_cons.mp member with rfl | later
      · refine ⟨direction.kind_ne_last, rfl, rfl, rfl, ?_, ?_⟩
        · exact Scalar.isGreatest_larger (Scalar.isGreatest_singleton anchored)
            (Scalar.isGreatest_singleton stepped)
        · exact Scalar.isLeast_smaller (Scalar.isLeast_singleton anchored)
            (Scalar.isLeast_singleton stepped)
      · exact inductionHypothesis stepped later

/-- Every brick that a tick leaves stands for what it counts, or for one of its further steps. -/
theorem keeps_standsFor :
    Chart.Keeps StandsFor (fun taken : Taken α => Defined taken.tick.price) fun _ _ => True where
  opened defined _ := ⟨⟨_, rfl, rfl, rfl, rfl⟩, bounds_provisional defined⟩
  absorbed defined _ provisional stands _ :=
    ⟨counts_absorb stands.1 _, bounds_absorb provisional stands.2 defined⟩
  completed := by
    intro brick block taken direction further defined _ valid provisional stands toward far
    obtain ⟨⟨sum, counted, same⟩, bounds⟩ := stands
    have opened := defined_openPrice provisional bounds
    refine ⟨⟨⟨sum, counted, ?_⟩, bounds_complete provisional bounds _ _⟩, ?_,
      ⟨_, rfl, rfl, rfl, rfl⟩, bounds_following defined (defined_iterate_step valid opened _ _)⟩
    · cases direction <;> exact same
    · exact fun step member =>
        standsFor_of_mem_ladder valid (Ordered.defined_step valid opened direction) member

/-! ### Containment -/

section Rational

variable {brick : Brick Rat} {block : List (Taken Rat)} {taken : Taken Rat}

/-- Every price that a brick counts lies between its extremes. -/
def Contains (brick : Brick Rat) : Origin Rat → Prop
  | .further _ => True
  | .block block =>
    ∀ taken ∈ block, brick.low ≤ taken.tick.price ∧ taken.tick.price ≤ brick.high

/-- Every price that a brick counts was less than one size from its open. -/
def Near (brick : Brick Rat) : Origin Rat → Prop
  | .further _ => True
  | .block block =>
    ∀ taken ∈ block, |taken.tick.price - brick.openPrice| < taken.chart.size

private theorem reached_of_mem (brick : Brick Rat) (member : taken ∈ block) :
    taken.tick.price ∈ brick.reached block :=
  List.mem_cons_of_mem _ (List.mem_map_of_mem member)

/-- The extremes of a provisional brick leave out none of its prices. -/
theorem contains_of_bounds (provisional : brick.kind = .last) (bounds : brick.Bounds block) :
    brick.Contains (.block block) := by
  rw [Bounds, provisional] at bounds
  exact fun taken member =>
    ⟨bounds.2.2 (brick.reached_of_mem member), bounds.1.2 (brick.reached_of_mem member)⟩

/-- A brick that grew to no less than the sizes at which it absorbed its prices contains them. -/
theorem contains_complete (provisional : brick.kind = .last) (bounds : brick.Bounds block)
    (near : brick.Near (.block block)) {size : Rat}
    (larger : ∀ taken ∈ block, taken.chart.size ≤ size) (direction : Direction) :
    (brick.complete direction size).Contains (.block block) := by
  intro taken member
  have contained := contains_of_bounds provisional bounds taken member
  have within := abs_lt.mp ((near taken member).trans_le (larger taken member))
  cases direction with
  | up =>
      refine ⟨contained.1, ?_⟩
      change taken.tick.price ≤ brick.openPrice + size
      linarith
  | down =>
      refine ⟨?_, contained.2⟩
      change brick.openPrice - size ≤ taken.tick.price
      linarith

/-- What holds of rational bricks and of what they stand for, as long as sizes do not shrink. -/
def Holds (brick : Brick Rat) (origin : Origin Rat) : Prop :=
  brick.StandsFor origin ∧ brick.Contains origin ∧ (brick.kind = .last → brick.Near origin)

/-- Every way to come by a brick keeps what holds of it, as long as sizes do not shrink. -/
theorem keeps_holds :
    Chart.Keeps Holds (fun taken : Taken Rat => Defined taken.tick.price)
      fun earlier later => earlier.chart.size ≤ later.chart.size where
  opened := by
    intro taken defined valid
    have stands := keeps_standsFor.opened defined valid
    refine ⟨stands, contains_of_bounds rfl stands.2, fun _ => List.forall_mem_singleton.mpr ?_⟩
    change |taken.tick.price - taken.tick.price| < taken.chart.size
    rw [sub_self, abs_zero]
    exact positive_of_validBrickSize valid
  absorbed := by
    intro brick block taken defined valid provisional holds near
    have stands := keeps_standsFor.absorbed defined valid provisional holds.1 near
    refine ⟨stands, contains_of_bounds provisional stands.2, fun _ => ?_⟩
    refine List.forall_mem_append.mpr ⟨holds.2.2 provisional, List.forall_mem_singleton.mpr ?_⟩
    have remains := brick.abs_sub_steps_lt (positive_of_validBrickSize valid) taken.tick.price
    rw [near] at remains
    exact remains
  completed := by
    intro brick block taken direction further defined larger valid provisional holds toward far
    obtain ⟨first, steps, next⟩ := keeps_standsFor.completed defined (fun _ _ => trivial) valid
      provisional holds.1 toward far
    refine ⟨⟨first, ?_, ?_⟩, fun step member => ⟨steps step member, trivial, fun _ => trivial⟩,
      next, contains_of_bounds rfl next.2, fun _ => List.forall_mem_singleton.mpr ?_⟩
    · exact contains_complete provisional holds.1.2 (holds.2.2 provisional) larger direction
    · intro last
      rw [complete_kind] at last
      exact absurd last direction.kind_ne_last
    · have remains := brick.abs_sub_steps_lt (positive_of_validBrickSize valid) taken.tick.price
      rw [far, ← toward] at remains
      exact remains

end Rational

end Brick

namespace Chart

/-- The bricks of a chart stand, in order, for the ticks that its history says they count. The
completed ones went up or down, the current one is provisional. -/
structure Bounded (chart : Chart α) (past : List (Taken α)) : Prop where
  stand : List.Forall₂ Brick.StandsFor chart.bricks (origins past)
  directed : ∀ brick ∈ chart.completed.toList, brick.kind = .up ∨ brick.kind = .down
  provisional : ∀ brick ∈ chart.current, brick.kind = .last

/-- A chart that has grown by defined prices is bounded by them. -/
theorem Grown.bounded [Ordered α] {chart : Chart α} {past : List (Taken α)}
    (grown : Grown chart past) (defined : ∀ taken ∈ past, Defined taken.tick.price) :
    chart.Bounded past :=
  ⟨grown.forall₂_origins Brick.keeps_standsFor defined (List.pairwise_of_forall fun _ _ => trivial),
    grown.shaped.directed, grown.provisional⟩

omit [LE α] in
/-- What holds of the ticks of all feedings holds of those that were not refused. -/
theorem forall_history (allowed : Tick α → Prop) {chart : Chart α} {feedings : List (Feeding α)}
    (all : ∀ feeding ∈ feedings, allowed feeding.tick) :
    ∀ taken ∈ chart.history feedings, allowed taken.tick := by
  induction feedings generalizing chart with
  | nil => exact fun taken absent => nomatch absent
  | cons feeding later inductionHypothesis =>
      obtain ⟨now, allLater⟩ := List.forall_mem_cons.mp all
      rw [history]
      refine List.forall_mem_append.mpr ⟨fun taken member => ?_, inductionHypothesis allLater⟩
      rw [(taken?_eq_some.mp (Option.mem_toList.mp member)).2]
      exact now

/-- **Extremes are reached.** At finite prices every brick counts its block of ticks, and while it
is provisional its extremes are those of its open and their prices; completed, it has one of them
at its close and keeps the other. The further steps of a tick reach from their open to their close.
Of rational prices and sizes that never shrink, every one lies within the brick that counts it. -/
theorem bounded_after_feedings :
    (∀ {size : Float} {first : Chart Float}, start size = .ok first →
      ∀ feedings : List (Feeding Float),
        (∀ feeding ∈ feedings, feeding.tick.price.isFinite = true) →
          (first.after feedings).Bounded (first.history feedings)) ∧
      ∀ {size : Rat} {first : Chart Rat}, start size = .ok first →
        ∀ feedings : List (Feeding Rat),
          ((first.history feedings).Pairwise fun earlier later =>
            earlier.chart.size ≤ later.chart.size) →
          (first.after feedings).Bounded (first.history feedings) ∧
            List.Forall₂ Brick.Contains (first.after feedings).bricks
              (origins (first.history feedings)) := by
  refine ⟨?_, ?_⟩
  · intro size first started feedings finite
    have defined : ∀ taken ∈ first.history feedings, Defined taken.tick.price :=
      forall_history (fun tick => Defined tick.price) fun feeding member =>
        Scalar.defined_of_isFinite (finite feeding member)
    exact (grown_after started feedings).bounded defined
  · intro size first started feedings growing
    have grown := grown_after started feedings
    have defined : ∀ taken ∈ first.history feedings, Defined taken.tick.price :=
      fun _ _ => beq_self_eq_true _
    refine ⟨grown.bounded defined, ?_⟩
    exact (grown.forall₂_origins Brick.keeps_holds defined growing).imp fun _ _ holds => holds.2.1

/-- A jump of two steps and a fall at half the size, in binary64; a jump of two steps, a refused
size and a fall at twice the size, in rational numbers. -/
theorem bounded_after_jump_and_fall :
    let first : Chart Float := ⟨1, #[], none⟩
    let feeding (ms : Int) (price : Float) (resize : Option Float) : Feeding Float :=
      ⟨⟨.ofMillis ms, price, 3⟩, resize⟩
    let feedings := [feeding 0 100 none, feeding 1 99.5 none, feeding 2 102.25 none,
      feeding 3 102.75 none, feeding 4 100.75 (some 0.5)]
    let exact : Chart Rat := ⟨1, #[], none⟩
    let exactly (ms : Int) (price : Rat) (resize : Option Rat) : Feeding Rat :=
      ⟨⟨.ofMillis ms, price, 3⟩, resize⟩
    let exacts := [exactly 0 100 none, exactly 1 (199 / 2) none, exactly 2 (409 / 4) none,
      exactly 3 90 (some (-1)), exactly 4 (199 / 2) (some 2)]
    start 1 = .ok first ∧ (first.history feedings).map (·.count) = [0, 0, 2, 0, 2] ∧
      (∀ feeding ∈ feedings, feeding.tick.price.isFinite = true) ∧
      (first.after feedings).Bounded (first.history feedings) ∧
      start 1 = .ok exact ∧ (exact.history exacts).map (·.count) = [0, 0, 2, 1] ∧
      ((exact.history exacts).Pairwise fun earlier later =>
        earlier.chart.size ≤ later.chart.size) ∧
      (exact.after exacts).Bounded (exact.history exacts) ∧
        List.Forall₂ Brick.Contains (exact.after exacts).bricks
          (origins (exact.history exacts)) :=
  ⟨start_eq_ok.mpr ⟨by decide +kernel, rfl⟩, by decide +kernel, by decide +kernel,
    bounded_after_feedings.1 (start_eq_ok.mpr ⟨by decide +kernel, rfl⟩) _ (by decide +kernel),
    start_eq_ok.mpr ⟨by decide +kernel, rfl⟩, by decide +kernel, by decide +kernel,
    bounded_after_feedings.2 (start_eq_ok.mpr ⟨by decide +kernel, rfl⟩) _ (by decide +kernel)⟩

end Chart

end Renko
