import Mathlib
import Renko.Proofs.Chart.Geometry
import Renko.Proofs.Chart.History

/-! # Charts by their prices

What of a chart is decided by prices and sizes alone, and that prices on the way change none of it.
-/

/-! ## The outline of a chart

Where the bricks of a chart lie is decided by the prices and the sizes in force alone. Times,
volumes and extremes follow, and so does the close of the current brick: the next tick is measured
against its open. A chart without them is an outline, and outlines take prices as charts take ticks
(`Renko.Chart.Grown.outline_eq`).
-/

namespace Renko

variable {α : Type}

/-- Where a completed brick lies. -/
structure Segment (α : Type) where
  kind : BrickKind
  openPrice : α
  closePrice : α
  deriving DecidableEq

def Brick.segment (brick : Brick α) : Segment α :=
  ⟨brick.kind, brick.openPrice, brick.closePrice⟩

/-- Where the completed bricks of a chart lie, and where the current one opens and closes. -/
structure Outline (α : Type) where
  completed : List (Segment α)
  current : Option (α × α)
  deriving DecidableEq

def Chart.outline (chart : Chart α) : Outline α where
  completed := chart.completed.toList.map Brick.segment
  current := chart.current.map fun brick => (brick.openPrice, brick.closePrice)

variable [Scalar α]

namespace Segment

/-- Segments in a row from an anchor on. -/
def row (direction : Direction) (size : α) : Nat → α → List (Segment α)
  | 0, _ => []
  | count + 1, anchor =>
    ⟨direction.kind, anchor, direction.step size anchor⟩ ::
      row direction size count (direction.step size anchor)

private theorem row_add (direction : Direction) (size : α) (first second : Nat) (anchor : α) :
    row direction size (first + second) anchor =
      row direction size first anchor ++
        row direction size second ((direction.step size)^[first] anchor) := by
  induction first generalizing anchor with
  | zero => rw [Nat.zero_add, row, List.nil_append, Function.iterate_zero, id_eq]
  | succ first inductionHypothesis =>
      rw [Nat.succ_add, row, inductionHypothesis, row, Function.iterate_succ_apply,
        List.cons_append]

end Segment

namespace Brick

private theorem map_segment_ladder (time : Instant) (direction : Direction) (size : α) (count : Nat)
    (anchor : α) :
    (ladder time direction size count anchor).map segment =
      Segment.row direction size count anchor := by
  induction count generalizing anchor with
  | zero => rfl
  | succ count inductionHypothesis =>
      rw [ladder, List.map_cons, inductionHypothesis]
      rfl

/-- A staircase lies on a row of segments. -/
theorem map_segment_staircase (brick : Brick α) (time : Instant) (direction : Direction)
    (size : α) (further : Nat) :
    (brick.staircase time direction size further).map segment =
      Segment.row direction size (further + 1) brick.openPrice := by
  rw [staircase, List.map_cons, map_segment_ladder, Segment.row, segment, complete_kind,
    complete_openPrice, complete_closePrice]

end Brick

namespace Outline

/-- One price measured against the open of the current brick. -/
def take (outline : Outline α) (size price : α) : Outline α :=
  match outline.current with
  | none => ⟨outline.completed, some (price, price)⟩
  | some (anchor, _) =>
    let direction := Direction.toward anchor price
    let count := Scalar.wholeSteps (direction.distance anchor price) size
    ⟨outline.completed ++ Segment.row direction size count anchor,
      some ((direction.step size)^[count] anchor, price)⟩

/-- The outline of a price series at one size. -/
def ofPrices (size : α) (prices : List α) : Outline α :=
  prices.foldl (fun outline price => outline.take size price) ⟨[], none⟩

end Outline

namespace Chart

/-- A tick changes the outline by its price and the size in force. -/
theorem Step.outline_eq {chart next : Chart α} {tick : Tick α} {count : Nat}
    (step : Step chart tick count next) :
    next.outline = chart.outline.take next.size tick.price := by
  cases step with
  | opened valid => rfl
  | @absorbed old size completed brick tick valid near =>
      unfold Brick.stepsTo at near
      simp only [outline, Outline.take, Option.map_some, near, Segment.row, List.append_nil,
        Function.iterate_zero, id_eq, Brick.absorb_openPrice]
      rfl
  | @completed old size completed brick tick direction further valid toward far =>
      subst toward
      unfold Brick.stepsTo at far
      simp only [outline, Outline.take, Option.map_some, far, Array.toList_append, List.map_append,
        Brick.map_segment_staircase]
      rfl

/-- **The outline of a chart is that of its prices** at the sizes they were taken at. -/
theorem Grown.outline_eq {chart : Chart α} {past : List (Taken α)} (grown : Grown chart past) :
    chart.outline = past.foldl
      (fun outline taken => outline.take taken.chart.size taken.tick.price) ⟨[], none⟩ := by
  induction grown with
  | empty valid => rfl
  | step before step inductionHypothesis =>
      rw [step.outline_eq, inductionHypothesis, List.foldl_concat]

/-- A series at one size is fed without asking for another. -/
theorem ofTicks_eq_after {size : α} {first : Chart α} (started : start size = .ok first)
    (ticks : List (Tick α)) :
    ofTicks size ticks = .ok (first.after (ticks.map fun tick => ⟨tick, none⟩)) := by
  rw [ofTicks, started]
  change ticks.foldlM _ first = _
  clear started
  induction ticks generalizing first with
  | nil => rfl
  | cons tick ticks inductionHypothesis => exact inductionHypothesis

variable [Scalar.Directed α]

/-- The outline of a series is that of its prices. -/
theorem exists_ofTicks {size : α} (valid : validBrickSize size = true) (ticks : List (Tick α)) :
    ∃ chart, ofTicks size ticks = .ok chart ∧
      chart.outline = Outline.ofPrices size (ticks.map (·.price)) := by
  have started : start size = .ok ⟨size, #[], none⟩ := start_eq_ok.mpr ⟨valid, rfl⟩
  refine ⟨_, ofTicks_eq_after started ticks, ?_⟩
  have plain : ∀ feeding ∈ ticks.map fun tick => (⟨tick, none⟩ : Feeding α),
      feeding.resize = none := by
    intro feeding member
    obtain ⟨tick, -, rfl⟩ := List.mem_map.mp member
    rfl
  have fixed := size_of_mem_history ⟨size, #[], none⟩ fun feeding member asked inForce =>
    nomatch (plain feeding member).symm.trans inForce
  have fed := map_tick_history ⟨size, #[], none⟩ fun feeding member asked inForce =>
    nomatch (plain feeding member).symm.trans inForce
  rw [List.map_map, show (Feeding.tick ∘ fun tick => (⟨tick, none⟩ : Feeding α)) = id from rfl,
    List.map_id] at fed
  rw [(grown_after started _).outline_eq, Outline.ofPrices]
  conv_rhs => rw [← fed, List.map_map, List.foldl_map]
  apply List.foldl_ext
  intro outline taken member
  rw [fixed taken member]
  rfl

end Chart

end Renko

/-! ## Prices on the way

Over rational numbers and at one size, a price on the way from one tick to the next changes no brick
(`Renko.Chart.ofTicks_between`). If it completes bricks, it lies past the current brick, and so does
the next price, farther on the same side; the steps to the next price are then those to the price on
the way, followed by those from where it leaves the current brick
(`Renko.Outline.take_take_of_between`).
-/

namespace Renko

namespace Direction

variable (direction : Direction) {anchor close between price : Rat}

private theorem distance_le_abs (anchor price : Rat) :
    direction.distance anchor price ≤ |price - anchor| := by
  cases direction with
  | up => exact le_abs_self _
  | down =>
      rw [abs_sub_comm]
      exact le_abs_self _

/-- What lies between two prices, and ahead of one of them, does not lie ahead of both. -/
theorem distance_le_of_between (way : between ∈ Set.uIcc close price)
    (ahead : direction.distance anchor close < direction.distance anchor between) :
    direction.distance anchor between ≤ direction.distance anchor price := by
  rcases Set.mem_uIcc.mp way with ⟨lower, upper⟩ | ⟨lower, upper⟩
  all_goals cases direction <;> simp only [distance] at ahead ⊢ <;> linarith

end Direction

namespace Outline

variable {size anchor close between price : Rat} {completed : List (Segment Rat)}

/-- A price less than one size away only moves the close. -/
theorem take_of_near (near : |price - anchor| < size) :
    take ⟨completed, some (anchor, close)⟩ size price = ⟨completed, some (anchor, price)⟩ := by
  have none :
      Scalar.wholeSteps ((Direction.toward anchor price).distance anchor price) size = 0 := by
    rw [Direction.distance_toward]
    exact Scalar.wholeSteps_of_lt (abs_nonneg _) near
  simp only [take, none, Segment.row, List.append_nil, Function.iterate_zero, id_eq]

/-- In whatever direction a price is ahead, the steps to it go in that direction. -/
theorem take_of_ahead {direction : Direction} (positive : 0 < size)
    (ahead : 0 ≤ direction.distance anchor price) :
    take ⟨completed, some (anchor, close)⟩ size price =
      let count := Scalar.wholeSteps (direction.distance anchor price) size
      ⟨completed ++ Segment.row direction size count anchor,
        some ((direction.step size)^[count] anchor, price)⟩ := by
  rcases ahead.eq_or_lt with level | further
  · -- at the open itself no step is taken, in no direction
    have none : Scalar.wholeSteps (direction.distance anchor price) size = 0 :=
      Scalar.wholeSteps_of_lt ahead (level ▸ positive)
    have near : |price - anchor| < size := by
      rw [Direction.abs_sub_of_ahead ahead, ← level]
      exact positive
    simp only [take_of_near near, none, Segment.row, List.append_nil, Function.iterate_zero, id_eq]
  · simp only [take, Direction.toward_of_ahead further]

/-- The steps to a price farther ahead are the steps to the nearer one and those from where they
lead. -/
theorem take_take_of_ahead {direction : Direction} (positive : 0 < size)
    (ahead : 0 ≤ direction.distance anchor between)
    (farther : direction.distance anchor between ≤ direction.distance anchor price) :
    (take ⟨completed, some (anchor, close)⟩ size between).take size price =
      take ⟨completed, some (anchor, close)⟩ size price := by
  obtain ⟨reached, -⟩ := Scalar.wholeSteps_bounds positive ahead
  rw [take_of_ahead positive ahead, take_of_ahead positive (ahead.trans farther)]
  generalize Scalar.wholeSteps (direction.distance anchor between) size = count at reached
  have landing : direction.distance ((direction.step size)^[count] anchor) price =
      direction.distance anchor price - count * size := by
    rw [Direction.iterate_step, Direction.distance_step]
  have onward : 0 ≤ direction.distance anchor price - count * size := by linarith
  have steps : Scalar.wholeSteps (direction.distance anchor price) size =
      count + Scalar.wholeSteps (direction.distance anchor price - count * size) size := by
    rw [add_comm, ← Scalar.wholeSteps_add_mul positive onward, sub_add_cancel]
  dsimp only
  rw [take_of_ahead positive (landing ▸ onward)]
  simp only [landing]
  rw [steps, Segment.row_add, ← List.append_assoc, add_comm count, Function.iterate_add_apply]

/-- **A price on the way changes nothing.** Whether the current brick absorbs it or it completes
bricks, the next price leaves the same outline. -/
theorem take_take_of_between (positive : 0 < size) (near : |close - anchor| < size)
    (way : between ∈ Set.uIcc close price) :
    (take ⟨completed, some (anchor, close)⟩ size between).take size price =
      take ⟨completed, some (anchor, close)⟩ size price := by
  by_cases absorbed : |between - anchor| < size
  · rw [take_of_near absorbed]
    rfl
  -- the price on the way lies past the brick, so the close does not lie as far ahead
  · obtain ⟨direction, ahead⟩ :
        ∃ direction : Direction, direction.distance anchor between = |between - anchor| :=
      ⟨_, Direction.distance_toward anchor between⟩
    have past : size ≤ direction.distance anchor between := ahead ▸ not_lt.mp absorbed
    have behind : direction.distance anchor close < direction.distance anchor between :=
      ((direction.distance_le_abs anchor close).trans_lt near).trans_le past
    exact take_take_of_ahead positive (positive.le.trans past)
      (direction.distance_le_of_between way behind)

/-- After a price the current brick closes at it, less than one size from its open. -/
theorem exists_take (positive : 0 < size) (outline : Outline Rat) (price : Rat) :
    ∃ completed anchor, outline.take size price = ⟨completed, some (anchor, price)⟩ ∧
      |price - anchor| < size := by
  obtain ⟨completed, current⟩ := outline
  cases current with
  | none =>
      refine ⟨completed, price, rfl, ?_⟩
      rw [sub_self, abs_zero]
      exact positive
  | some ends =>
      obtain ⟨anchor, close⟩ := ends
      refine ⟨_, _, rfl, ?_⟩
      rw [Direction.abs_sub_iterate_step positive]
      linarith [(Direction.steps_bounds positive anchor price).2]

private theorem ofPrices_append (size : Rat) (earlier later : List Rat) :
    ofPrices size (earlier ++ later) =
      later.foldl (fun outline price => outline.take size price) (ofPrices size earlier) :=
  List.foldl_append

/-- A price on the way between two neighbours of a series changes nothing. -/
theorem ofPrices_between (positive : 0 < size) {earlier : List Rat} (later : List Rat)
    {last next : Rat} (final : earlier.getLast? = some last) (way : between ∈ Set.uIcc last next) :
    ofPrices size (earlier ++ between :: next :: later) =
      ofPrices size (earlier ++ next :: later) := by
  obtain ⟨before, rfl⟩ := List.getLast?_eq_some_iff.mp final
  obtain ⟨completed, anchor, ends, near⟩ := exists_take positive (ofPrices size before) last
  have closes : ofPrices size (before ++ [last]) = ⟨completed, some (anchor, last)⟩ := by
    rw [ofPrices_append]
    exact ends
  rw [ofPrices_append size (before ++ [last]), ofPrices_append size (before ++ [last]), closes,
    List.foldl_cons, List.foldl_cons, take_take_of_between positive near way, List.foldl_cons]

end Outline

namespace Chart

/-- A series that is not empty ends in a current brick, which closes at the price of its last
tick. -/
theorem exists_current_of_outline {size : Rat} (positive : 0 < size) {chart : Chart Rat}
    {earlier : List Rat} {last : Rat}
    (outline : chart.outline = Outline.ofPrices size (earlier ++ [last])) :
    ∃ brick, chart.current = some brick ∧ brick.closePrice = last := by
  obtain ⟨completed, anchor, ends, -⟩ :=
    Outline.exists_take positive (Outline.ofPrices size earlier) last
  rw [Outline.ofPrices_append, List.foldl_cons, List.foldl_nil, ends] at outline
  obtain ⟨brick, current, place⟩ := Option.map_eq_some_iff.mp (congrArg Outline.current outline)
  exact ⟨brick, current, congrArg Prod.snd place⟩

/-- **Ticks on the way change no brick.** A tick is inserted between two ticks of a series, at a
price between theirs. At one size the chart of the longer series has its completed bricks where the
shorter one has them, of the same kinds. Both charts have a current brick, which opens at the same
price in both of them, and closes at the price of the last tick. -/
theorem ofTicks_between {size : Rat} (valid : validBrickSize size = true)
    (earlier later : List (Tick Rat)) (between : Tick Rat) {last next : Tick Rat}
    (final : earlier.getLast? = some last) (head : later.head? = some next)
    (lower : min last.price next.price ≤ between.price)
    (upper : between.price ≤ max last.price next.price) :
    ∃ dense sparse current other, ofTicks size (earlier ++ [between] ++ later) = .ok dense ∧
      ofTicks size (earlier ++ later) = .ok sparse ∧
      sparse.outline = Outline.ofPrices size ((earlier ++ later).map (·.price)) ∧
      dense.completed.toList.map Brick.segment = sparse.completed.toList.map Brick.segment ∧
      dense.current = some current ∧ sparse.current = some other ∧
      current.openPrice = other.openPrice ∧ current.closePrice = other.closePrice ∧
      later.getLast?.map (·.price) = some other.closePrice := by
  have positive := positive_of_validBrickSize valid
  obtain ⟨dense, denseFed, denseOutline⟩ := exists_ofTicks valid (earlier ++ [between] ++ later)
  obtain ⟨sparse, sparseFed, sparseOutline⟩ := exists_ofTicks valid (earlier ++ later)
  have same : dense.outline = sparse.outline := by
    obtain ⟨rest, rfl⟩ := List.head?_eq_some_iff.mp head
    have ends : (earlier.map (·.price)).getLast? = some last.price := by
      rw [List.getLast?_map, final, Option.map_some]
    rw [denseOutline, sparseOutline, List.append_assoc]
    simp only [List.map_append]
    exact Outline.ofPrices_between positive (rest.map (·.price)) ends ⟨lower, upper⟩
  -- a current brick is there because a tick comes last
  have nonempty : later ≠ [] := fun nothing => by
    rw [nothing] at head
    cases head
  obtain ⟨before, tick, rfl⟩ := (List.eq_nil_or_concat' later).resolve_left nonempty
  have prices : (earlier ++ (before ++ [tick])).map (·.price) =
      (earlier ++ before).map (·.price) ++ [tick.price] := by
    rw [← List.append_assoc, List.map_append, List.map_singleton]
  obtain ⟨other, otherCurrent, closes⟩ :=
    exists_current_of_outline positive (prices ▸ sparseOutline)
  have place := congrArg Outline.current same
  obtain ⟨current, denseCurrent, matching⟩ : ∃ current, dense.current = some current ∧
      (current.openPrice, current.closePrice) = (other.openPrice, other.closePrice) := by
    simp only [outline, otherCurrent, Option.map_some] at place
    exact Option.map_eq_some_iff.mp place
  refine ⟨dense, sparse, current, other, denseFed, sparseFed, sparseOutline,
    congrArg Outline.completed same, denseCurrent, otherCurrent, congrArg Prod.fst matching,
    congrArg Prod.snd matching, ?_⟩
  rw [List.getLast?_concat, Option.map_some, closes]

/-- A tick two bricks past the current one, on the way to a tick three bricks past it. -/
theorem ofTicks_between_on_jump :
    let tick (ms : Int) (price : Rat) : Tick Rat := ⟨.ofMillis ms, price, 1⟩
    let earlier := [tick 0 100, tick 1 (407 / 4)]
    let later := [tick 3 (289 / 3), tick 4 99]
    validBrickSize (3 / 2 : Rat) = true ∧
      earlier.getLast? = some (tick 1 (407 / 4)) ∧ later.head? = some (tick 3 (289 / 3)) ∧
      min (407 / 4 : Rat) (289 / 3) ≤ 98 ∧ (98 : Rat) ≤ max (407 / 4) (289 / 3) ∧
      ∃ dense sparse current other,
        ofTicks (3 / 2) (earlier ++ [tick 2 98] ++ later) = .ok dense ∧
        ofTicks (3 / 2) (earlier ++ later) = .ok sparse ∧
        sparse.outline = Outline.ofPrices (3 / 2) ((earlier ++ later).map (·.price)) ∧
        sparse.completed.toList.map (·.kind) = [.up, .down, .down, .down, .up] ∧
        dense.completed.toList.map Brick.segment = sparse.completed.toList.map Brick.segment ∧
        dense.current = some current ∧ sparse.current = some other ∧
        current.openPrice = other.openPrice ∧ current.closePrice = other.closePrice ∧
        later.getLast?.map (·.price) = some other.closePrice := by
  intro tick earlier later
  have valid : validBrickSize (3 / 2 : Rat) = true := by decide +kernel
  have final : earlier.getLast? = some (tick 1 (407 / 4)) := rfl
  have head : later.head? = some (tick 3 (289 / 3)) := rfl
  have lower : min (407 / 4 : Rat) (289 / 3) ≤ 98 := by decide +kernel
  have upper : (98 : Rat) ≤ max (407 / 4) (289 / 3) := by decide +kernel
  obtain ⟨dense, sparse, current, other, denseFed, sparseFed, outline, rest⟩ :=
    ofTicks_between valid earlier later (tick 2 98) final head lower upper
  have kinds : sparse.completed.toList.map (·.kind) = [.up, .down, .down, .down, .up] := by
    have counted : (Outline.ofPrices (3 / 2 : Rat) ((earlier ++ later).map (·.price))).completed.map
        (·.kind) = [.up, .down, .down, .down, .up] := by decide +kernel
    rw [← outline, Chart.outline, List.map_map] at counted
    exact counted
  exact ⟨valid, final, head, lower, upper, dense, sparse, current, other, denseFed, sparseFed,
    outline, kinds, rest⟩

end Chart

end Renko
