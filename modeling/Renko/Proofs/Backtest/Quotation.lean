import Mathlib
import Renko.Proofs.Backtest.Translation
import Renko.Proofs.Chart.Geometry

/-! # Other quotations

Over rational numbers no rule of a chart, of a book or of a summary knows how prices are quoted.
-/

/-! ## Bricks and positions in other quotations

Prices may be quoted in another unit and from another origin, or the other way round, as one
currency is in another. Over rational numbers neither bricks nor positions know of this. Ticks
quoted otherwise make the same bricks, quoted otherwise (`Renko.Quotation.advance_brick`), and
positions are filled and priced alike, so that a quotation is a translation
(`Renko.Quotation.translation`). With a negative factor the price line is upside down: bricks that
went up go down, highs become lows, purchases become sales, and the slippage that was added to a
price is taken off it.
-/

namespace Renko

namespace Direction

/-- The other direction. -/
def reverse : Direction → Direction
  | up => down
  | down => up

end Direction

/-- Another way to quote prices: each is multiplied by a factor other than zero and then moved. -/
structure Quotation where
  factor : Rat
  offset : Rat
  nonzero : factor ≠ 0

namespace Quotation

variable (quotation : Quotation)

def price (price : Rat) : Rat := quotation.factor * price + quotation.offset

/-- What a difference of prices becomes, without its sign. -/
def length (length : Rat) : Rat := |quotation.factor| * length

/-- With a negative factor what went up goes down. -/
def direction (direction : Direction) : Direction :=
  if 0 < quotation.factor then direction else direction.reverse

def kind : BrickKind → BrickKind
  | .last => .last
  | .up => (quotation.direction .up).kind
  | .down => (quotation.direction .down).kind

def tick (tick : Tick Rat) : Tick Rat := { tick with price := quotation.price tick.price }

/-- A brick covers the same ticks. With a negative factor its high is made of its low. -/
def brick (brick : Brick Rat) : Brick Rat :=
  { brick with
    kind := quotation.kind brick.kind
    openPrice := quotation.price brick.openPrice
    high := quotation.price (if 0 < quotation.factor then brick.high else brick.low)
    low := quotation.price (if 0 < quotation.factor then brick.low else brick.high)
    closePrice := quotation.price brick.closePrice }

/-- A factor is above zero, and prices keep their order, or below, and they reverse it. -/
theorem rises_or_falls : 0 < quotation.factor ∨ quotation.factor < 0 :=
  (lt_or_gt_of_ne quotation.nonzero).symm

private theorem unit_pos : 0 < |quotation.factor| := abs_pos.mpr quotation.nonzero

variable {quotation} in
private theorem direction_of_rises (rises : 0 < quotation.factor) (direction : Direction) :
    quotation.direction direction = direction :=
  if_pos rises

variable {quotation} in
private theorem direction_of_falls (falls : quotation.factor < 0) (direction : Direction) :
    quotation.direction direction = direction.reverse :=
  if_neg falls.not_gt

/-- The kind of a brick that goes in a direction is quoted as the direction is. -/
theorem kind_direction (direction : Direction) :
    quotation.kind direction.kind = (quotation.direction direction).kind := by
  cases direction <;> rfl

variable {quotation} in
private theorem monotone_price (rises : 0 < quotation.factor) : Monotone quotation.price :=
  fun _ _ less => add_le_add_left (mul_le_mul_of_nonneg_left less rises.le) _

variable {quotation} in
private theorem antitone_price (falls : quotation.factor < 0) : Antitone quotation.price :=
  fun _ _ less => add_le_add_left (mul_le_mul_of_nonpos_left less falls.le) _

private theorem max_price (first second : Rat) :
    max (quotation.price first) (quotation.price second) =
      quotation.price (if 0 < quotation.factor then max first second else min first second) := by
  rcases quotation.rises_or_falls with rises | falls
  · rw [if_pos rises, (monotone_price rises).map_max]
  · rw [if_neg falls.not_gt, (antitone_price falls).map_min]

private theorem min_price (first second : Rat) :
    min (quotation.price first) (quotation.price second) =
      quotation.price (if 0 < quotation.factor then min first second else max first second) := by
  rcases quotation.rises_or_falls with rises | falls
  · rw [if_pos rises, (monotone_price rises).map_min]
  · rw [if_neg falls.not_gt, (antitone_price falls).map_max]

/-- Distances between prices are quoted as lengths. -/
theorem abs_price_sub (first second : Rat) :
    |quotation.price second - quotation.price first| = quotation.length |second - first| := by
  rw [length, ← abs_mul]
  congr 1
  unfold price
  ring

/-- So are distances in a direction. -/
theorem distance_price (direction : Direction) (anchor price : Rat) :
    (quotation.direction direction).distance (quotation.price anchor) (quotation.price price) =
      quotation.length (direction.distance anchor price) := by
  rcases quotation.rises_or_falls with rises | falls
  · rw [direction_of_rises rises, length, abs_of_pos rises]
    cases direction <;> simp only [Direction.distance, Quotation.price] <;> ring
  · rw [direction_of_falls falls, length, abs_of_neg falls]
    cases direction <;> simp only [Direction.reverse, Direction.distance, Quotation.price] <;> ring

/-- A step of a size leads from a quoted price to a quoted price. -/
theorem step_price (direction : Direction) (size anchor : Rat) :
    (quotation.direction direction).step (quotation.length size) (quotation.price anchor) =
      quotation.price (direction.step size anchor) := by
  rcases quotation.rises_or_falls with rises | falls
  · rw [direction_of_rises rises, length, abs_of_pos rises]
    cases direction <;> simp only [Direction.step, price] <;> ring
  · rw [direction_of_falls falls, length, abs_of_neg falls]
    cases direction <;> simp only [Direction.reverse, Direction.step, price] <;> ring

private theorem iterate_step_price (direction : Direction) (size : Rat) (count : Nat)
    (anchor : Rat) :
    ((quotation.direction direction).step (quotation.length size))^[count]
        (quotation.price anchor) = quotation.price ((direction.step size)^[count] anchor) := by
  have quoted : Function.Semiconj quotation.price (direction.step size)
      ((quotation.direction direction).step (quotation.length size)) :=
    fun anchor => (quotation.step_price direction size anchor).symm
  exact (quoted.iterate_right count anchor).symm

/-- Which of two different prices lies above the other is quoted as the directions are. -/
theorem toward_price {anchor price : Rat} (apart : price ≠ anchor) :
    Direction.toward (quotation.price anchor) (quotation.price price) =
      quotation.direction (Direction.toward anchor price) := by
  apply Direction.toward_of_ahead
  rw [distance_price, Direction.distance_toward]
  exact mul_pos quotation.unit_pos (abs_pos.mpr (sub_ne_zero.mpr apart))

/-- A distance holds as many sizes in every unit. -/
theorem wholeSteps_length (distance size : Rat) :
    Scalar.wholeSteps (quotation.length distance) (quotation.length size) =
      Scalar.wholeSteps distance size := by
  change ⌊quotation.length distance / quotation.length size⌋.toNat = ⌊distance / size⌋.toNat
  rw [length, length, mul_div_mul_left _ _ quotation.unit_pos.ne']

/-- A brick is as many steps from a price in every quotation. -/
theorem stepsTo_brick (brick : Brick Rat) (size price : Rat) :
    (quotation.brick brick).stepsTo (quotation.length size) (quotation.price price) =
      brick.stepsTo size price := by
  unfold Brick.stepsTo
  rw [Direction.distance_toward, Direction.distance_toward]
  change Scalar.wholeSteps |quotation.price price - quotation.price brick.openPrice| _ = _
  rw [abs_price_sub, wholeSteps_length]

private theorem covers_brick {brick : Brick Rat} (covers : brick.Covers) :
    (quotation.brick brick).Covers := by
  obtain ⟨lower, upper⟩ := covers
  rcases quotation.rises_or_falls with rises | falls
  · simp only [Brick.Covers, Quotation.brick, max_price, min_price, if_pos rises]
    exact ⟨monotone_price rises lower, monotone_price rises upper⟩
  · simp only [Brick.Covers, Quotation.brick, max_price, min_price, if_neg falls.not_gt]
    exact ⟨antitone_price falls upper, antitone_price falls lower⟩

/-- A tick is absorbed alike in every quotation. -/
theorem brick_absorb {brick : Brick Rat} (covers : brick.Covers) (tick : Tick Rat) :
    quotation.brick (brick.absorb tick) = (quotation.brick brick).absorb (quotation.tick tick) := by
  rw [Brick.absorb_of_covers covers, Brick.absorb_of_covers (quotation.covers_brick covers)]
  rcases quotation.rises_or_falls with rises | falls
  · simp only [Quotation.brick, Quotation.tick, max_price, min_price, if_pos rises]
  · simp only [Quotation.brick, Quotation.tick, max_price, min_price, if_neg falls.not_gt]

/-- A brick is completed alike in every quotation. -/
theorem brick_complete (brick : Brick Rat) (direction : Direction) (size : Rat) :
    quotation.brick (brick.complete direction size) =
      (quotation.brick brick).complete (quotation.direction direction) (quotation.length size) := by
  have close := quotation.step_price direction size brick.openPrice
  rcases quotation.rises_or_falls with rises | falls
  · rw [direction_of_rises rises] at close ⊢
    cases direction <;>
      simp only [Quotation.brick, Brick.complete, close, kind, direction_of_rises rises,
        Direction.kind, if_pos rises]
  · rw [direction_of_falls falls] at close ⊢
    cases direction <;>
      simp only [Direction.reverse] at close ⊢ <;>
      simp only [Quotation.brick, Brick.complete, close, kind, direction_of_falls falls,
        Direction.reverse, Direction.kind, if_neg falls.not_gt]

/-- A synthetic brick is made alike in every quotation. -/
theorem brick_synthetic (time : Instant) (direction : Direction) (size anchor : Rat) :
    quotation.brick (.synthetic time direction size anchor) =
      .synthetic time (quotation.direction direction) (quotation.length size)
        (quotation.price anchor) := by
  simp only [Brick.synthetic, Scalar.larger_eq_max, Scalar.smaller_eq_min, Quotation.brick,
    kind_direction, step_price, max_price, min_price]

/-- The brick that follows completed ones opens alike in every quotation. -/
theorem brick_following (tick : Tick Rat) (anchor : Rat) :
    quotation.brick (.following tick anchor) =
      .following (quotation.tick tick) (quotation.price anchor) := by
  simp only [Brick.following, Scalar.larger_eq_max, Scalar.smaller_eq_min, Quotation.brick,
    Quotation.tick, kind, max_price, min_price]

/-- The first brick of a chart opens alike in every quotation. -/
theorem brick_provisional (tick : Tick Rat) :
    quotation.brick (.provisional tick) = .provisional (quotation.tick tick) := by
  simp only [Quotation.brick, Brick.provisional, Quotation.tick, kind, ite_self]

private theorem map_brick_ladder (time : Instant) (direction : Direction) (size : Rat) (count : Nat)
    (anchor : Rat) :
    (Brick.ladder time direction size count anchor).map quotation.brick =
      Brick.ladder time (quotation.direction direction) (quotation.length size) count
        (quotation.price anchor) := by
  induction count generalizing anchor with
  | zero => rfl
  | succ count inductionHypothesis =>
      rw [Brick.ladder, List.map_cons, inductionHypothesis, brick_synthetic, ← step_price]
      rfl

/-- Completed bricks and the synthetic ones after them are quoted brick by brick. -/
theorem map_brick_staircase (brick : Brick Rat) (time : Instant) (direction : Direction)
    (size : Rat) (further : Nat) :
    (brick.staircase time direction size further).map quotation.brick =
      (quotation.brick brick).staircase time (quotation.direction direction)
        (quotation.length size) further := by
  rw [Brick.staircase, List.map_cons, map_brick_ladder, brick_complete, ← step_price]
  rfl

/-- **One tick in another quotation.** It does to the current brick what it does in the first. -/
theorem advance_brick {brick : Brick Rat} (provisional : brick.kind = .last)
    (covers : brick.Covers) (size : Rat) (tick : Tick Rat) :
    (quotation.brick brick).advance (quotation.length size) (quotation.tick tick) =
      ⟨(brick.advance size tick).completed.map quotation.brick,
        quotation.brick (brick.advance size tick).current⟩ := by
  have provisional' : (quotation.brick brick).kind = .last := congrArg quotation.kind provisional
  have alike : (quotation.brick brick).stepsTo (quotation.length size)
      (quotation.tick tick).price = brick.stepsTo size tick.price :=
    quotation.stepsTo_brick brick size tick.price
  cases steps : brick.stepsTo size tick.price with
  | zero =>
      rw [Brick.advance_of_near provisional steps,
        Brick.advance_of_near provisional' (alike.trans steps)]
      simp only [Array.map_empty, quotation.brick_absorb covers]
  | succ further =>
      have apart : tick.price ≠ brick.openPrice := by
        intro level
        rw [level, Brick.stepsTo_openPrice] at steps
        cases steps
      have toward : Direction.toward (quotation.brick brick).openPrice (quotation.tick tick).price =
          quotation.direction (Direction.toward brick.openPrice tick.price) :=
        quotation.toward_price apart
      rw [Brick.advance_of_far provisional steps,
        Brick.advance_of_far provisional' (alike.trans steps), toward]
      simp only [List.map_toArray, map_brick_staircase, brick_following, ← iterate_step_price]
      rfl

/-! ### Positions -/

/-- With a negative factor a purchase becomes a sale. -/
def side (side : Side) : Side := if 0 < quotation.factor then side else side.opposite

def position (position : Position Rat) : Position Rat where
  date := position.date
  side := quotation.side position.side
  openPrice := quotation.price position.openPrice
  closePrice := position.closePrice.map quotation.price
  currentPrice := quotation.price position.currentPrice
  profit := quotation.length position.profit

variable {quotation} in
private theorem side_of_rises (rises : 0 < quotation.factor) (side : Side) :
    quotation.side side = side :=
  if_pos rises

variable {quotation} in
private theorem side_of_falls (falls : quotation.factor < 0) (side : Side) :
    quotation.side side = side.opposite :=
  if_neg falls.not_gt

/-- Two sides are the same in one quotation if they are in the other. -/
theorem side_eq_iff (first second : Side) :
    quotation.side first = quotation.side second ↔ first = second := by
  rcases quotation.rises_or_falls with rises | falls
  · rw [side_of_rises rises, side_of_rises rises]
  · rw [side_of_falls falls, side_of_falls falls]
    cases first <;> cases second <;> simp [Side.opposite]

/-- Opposite sides are opposite in every quotation. -/
theorem opposite_side (side : Side) :
    (quotation.side side).opposite = quotation.side side.opposite := by
  rcases quotation.rises_or_falls with rises | falls
  · rw [side_of_rises rises, side_of_rises rises]
  · rw [side_of_falls falls, side_of_falls falls]

/-- A fill is made alike in every quotation, slippage included. -/
theorem fill_side (side : Side) (price slippage : Rat) :
    (quotation.side side).fill (quotation.price price) (quotation.length slippage) =
      quotation.price (side.fill price slippage) := by
  rcases quotation.rises_or_falls with rises | falls
  · rw [side_of_rises rises, length, abs_of_pos rises]
    cases side <;> simp only [Side.fill, Quotation.price] <;> ring
  · rw [side_of_falls falls, length, abs_of_neg falls]
    cases side <;> simp only [Side.opposite, Side.fill, Quotation.price] <;> ring

/-- A position takes a price alike in every quotation. -/
theorem update_position (position : Position Rat) (price : Rat) (close : Bool) :
    (quotation.position position).update (quotation.price price) close =
      quotation.position (position.update price close) := by
  obtain ⟨date, side, openPrice, closePrice, currentPrice, profit⟩ := position
  have closes : (if close then some (quotation.price price) else closePrice.map quotation.price) =
      (if close then some price else closePrice).map quotation.price := by
    cases close <;> rfl
  simp only [Quotation.position, Position.update, closes, Position.mk.injEq, true_and]
  rcases quotation.rises_or_falls with rises | falls
  · rw [side_of_rises rises, length, abs_of_pos rises]
    cases side <;> simp only [Quotation.price] <;> ring
  · rw [side_of_falls falls, length, abs_of_neg falls]
    cases side <;> simp only [Side.opposite, Quotation.price] <;> ring

/-- A position is marked on a brick alike in every quotation. -/
theorem markedOn_position (position : Position Rat) (slippage : Rat) (brick : Brick Rat)
    (close : Bool) :
    (quotation.position position).markedOn (quotation.length slippage) (quotation.brick brick)
        close = quotation.position (position.markedOn slippage brick close) := by
  rw [Position.markedOn, Position.markedOn, ← update_position, ← fill_side, ← opposite_side]
  rfl

/-- What a position was worth before it was priced does not matter. -/
theorem openedOn_brick (slippage : Rat) (brick : Brick Rat) (side : Side) :
    Position.openedOn (quotation.length slippage) (quotation.brick brick) (quotation.side side) =
      quotation.position (.openedOn slippage brick side) := by
  rw [Position.openedOn, Position.openedOn, ← markedOn_position]
  change (Position.opened _ _ (Side.fill _ (quotation.price brick.closePrice) _)).markedOn _ _ _ = _
  rw [fill_side]
  rfl

/-- The side a brick asks for is quoted as its kind is. -/
theorem signal_kind (kind : BrickKind) :
    (quotation.kind kind).signal = kind.signal.map quotation.side := by
  rcases quotation.rises_or_falls with rises | falls
  · cases kind <;>
      simp only [Quotation.kind, direction_of_rises rises, Direction.kind, BrickKind.signal,
        Option.map_some, Option.map_none, side_of_rises rises]
  · cases kind <;>
      simp only [Quotation.kind, direction_of_falls falls, Direction.reverse, Direction.kind,
        BrickKind.signal, Option.map_some, Option.map_none, side_of_falls falls, Side.opposite]

/-- Quoted otherwise, what is traded is translated. -/
def translation : Translation Rat where
  length := quotation.length
  side := quotation.side
  brick := quotation.brick
  position := quotation.position
  side_eq_iff := quotation.side_eq_iff
  signal_brick brick := quotation.signal_kind brick.kind
  side_position _ := rfl
  isOpen_position _ := Option.isNone_map
  profit_position _ := rfl
  openedOn_brick := quotation.openedOn_brick
  markedOn_brick := quotation.markedOn_position

end Quotation

/-! ## Backtests in other quotations

Over rational numbers a backtest makes the same trades however prices are quoted. If the sizes and
the slippage are quoted as the prices are, the whole result is that of the first quotation, quoted
otherwise (`Renko.backtest_quoted`): profits are multiplied by the unit, counts stay, and with a
negative factor purchases become sales. No rule of a chart, of a book or of a summary therefore
favours one direction of the price line.
-/

namespace Quotation

variable (quotation : Quotation)

def summary (summary : Summary Rat) : Summary Rat :=
  { summary with
    gain := quotation.length summary.gain
    loss := quotation.length summary.loss
    totalProfit := quotation.length summary.totalProfit
    largestWin := quotation.length summary.largestWin
    largestLoss := quotation.length summary.largestLoss }

def schedule (schedule : Schedule Rat) : Schedule Rat where
  entries := schedule.entries.map fun entry => { entry with size := quotation.length entry.size }

def setup (setup : BacktestSetup Rat) : BacktestSetup Rat :=
  { setup with
    brickSize := quotation.length setup.brickSize
    slippage := quotation.length setup.slippage }

def result (result : BacktestResult Rat) : BacktestResult Rat where
  bricks := result.bricks.map quotation.brick
  positions := result.positions.map quotation.position
  summary := quotation.summary result.summary

private theorem validBrickSize_length (size : Rat) :
    validBrickSize (quotation.length size) = validBrickSize size := by
  simp only [validBrickSize, length, mul_pos_iff_of_pos_left quotation.unit_pos]
  rfl

private theorem validSlippage_length (slippage : Rat) :
    validSlippage (quotation.length slippage) = validSlippage slippage := by
  have sign : quotation.length slippage < 0 ↔ slippage < 0 := by
    have scaled := mul_lt_mul_iff_right₀ (b := slippage) (c := 0) quotation.unit_pos
    rwa [mul_zero] at scaled
  simp only [validSlippage, sign]
  rfl

private theorem checkBrickSize_length (size : Rat) :
    checkBrickSize (quotation.length size) =
      quotation.translation.outcome quotation.length (checkBrickSize size) := by
  rw [checkBrickSize, checkBrickSize, validBrickSize_length]
  split <;> rfl

private theorem checkSlippage_length (slippage : Rat) :
    checkSlippage (quotation.length slippage) =
      quotation.translation.outcome quotation.length (checkSlippage slippage) := by
  rw [checkSlippage, checkSlippage, validSlippage_length]
  split <;> rfl

/-- The size in force is looked up alike in every quotation. -/
theorem sizeAt_schedule (schedule : Schedule Rat) (time : Instant) :
    (quotation.schedule schedule).sizeAt time = (schedule.sizeAt time).map quotation.length := by
  rw [Schedule.sizeAt, Schedule.sizeAt, Quotation.schedule, List.takeWhile_map, List.getLast?_map,
    Option.map_map, Option.map_map]
  rfl

/-- A session starts alike in every quotation, or is refused alike. -/
theorem start_session (setup : BacktestSetup Rat) :
    Session.start (quotation.setup setup) =
      quotation.translation.outcome quotation.translation.session (Session.start setup) := by
  have chart : Chart.start (quotation.setup setup).brickSize =
      quotation.translation.outcome quotation.translation.chart (Chart.start setup.brickSize) := by
    have empty (size : Rat) : quotation.translation.chart ⟨size, #[], none⟩ =
        ⟨quotation.length size, #[], none⟩ := by
      rw [Translation.chart, Array.map_empty, Option.map_none]
      rfl
    rw [Chart.start, Chart.start, Quotation.setup, checkBrickSize_length]
    exact Translation.outcome_bind fun size _ => congrArg Except.ok (empty size).symm
  have book : Book.start (quotation.setup setup).slippage =
      quotation.translation.outcome quotation.translation.book (Book.start setup.slippage) := by
    have empty (slippage : Rat) : quotation.translation.book ⟨slippage, #[], #[], none⟩ =
        ⟨quotation.length slippage, #[], #[], none⟩ := by
      rw [Translation.book, Array.map_empty, Array.map_empty, Option.map_none]
      rfl
    rw [Book.start, Book.start, Quotation.setup, checkSlippage_length]
    exact Translation.outcome_bind fun slippage _ => congrArg Except.ok (empty slippage).symm
  rw [Session.start, Session.start, chart, book]
  exact Translation.outcome_bind fun chart _ => Translation.outcome_bind fun book _ => rfl

/-- Charts take ticks in another quotation, at sizes quoted there, as they do in the first one. -/
theorem feeds (schedule : Option (Schedule Rat)) :
    quotation.translation.Feeds quotation.tick schedule (schedule.map quotation.schedule) := by
  intro chart past grown tick
  have covers : ∀ brick ∈ chart.current, brick.Covers := fun brick current =>
    grown.measured.covers brick (List.mem_append_right _ (Option.mem_toList.mpr current))
  have sized : (schedule.map quotation.schedule).bind (·.sizeAt tick.time) =
      (schedule.bind (·.sizeAt tick.time)).map quotation.length := by
    cases schedule with
    | none => rfl
    | some table => exact quotation.sizeAt_schedule table tick.time
  have takes (size : Rat) :
      (quotation.translation.chart { chart with size }).take (quotation.tick tick) =
        Prod.map quotation.translation.chart id (({ chart with size } : Chart Rat).take tick) :=
    quotation.translation.take_chart (quotation.brick_provisional tick) fun brick current =>
      quotation.advance_brick (grown.provisional brick current) (covers brick current) size tick
  rw [Chart.feedScheduled, Chart.feedScheduled,
    ← quotation.translation.feed_chart quotation.checkBrickSize_length takes]
  exact congrArg _ sized

private theorem monotone_length : Monotone quotation.length :=
  fun _ _ less => mul_le_mul_of_nonneg_left less quotation.unit_pos.le

/-- A length is above zero in one quotation if it is in the other. -/
theorem length_pos_iff (length : Rat) : 0 < quotation.length length ↔ 0 < length :=
  mul_pos_iff_of_pos_left quotation.unit_pos

/-- A profit is counted alike in every quotation. -/
theorem count_summary (summary : Summary Rat) (profit : Rat) :
    (quotation.summary summary).count (quotation.length profit) =
      quotation.summary (summary.count profit) := by
  have sign := quotation.length_pos_iff profit
  by_cases gains : 0 < profit
  · simp only [Summary.count, gains, sign, ↓reduceIte, Quotation.summary, Scalar.larger_eq_max,
      quotation.monotone_length.map_max]
    simp only [length, mul_add]
  · simp only [Summary.count, gains, sign, ↓reduceIte, Quotation.summary, Scalar.smaller_eq_min,
      quotation.monotone_length.map_min]
    simp only [length, mul_add]

private theorem summary_blank : quotation.summary .blank = .blank := by
  have zero : quotation.length (0 : Rat) = 0 := mul_zero _
  change (⟨quotation.length 0, 0, quotation.length 0, 0, 0, quotation.length 0, 0,
    quotation.length 0, quotation.length 0⟩ : Summary Rat) = ⟨0, 0, 0, 0, 0, 0, 0, 0, 0⟩
  rw [zero]

private theorem finish_summary (summary : Summary Rat) :
    (quotation.summary summary).finish = quotation.summary summary.finish := by
  simp only [Summary.finish, Quotation.summary, length, mul_add]
  rfl

/-- The summary of positions is quoted figure by figure. -/
theorem ofPositions_map (positions : List (Position Rat)) :
    Summary.ofPositions (positions.map quotation.position) =
      quotation.summary (.ofPositions positions) := by
  have counted (profits : List Rat) :
      (profits.map quotation.length).foldl Summary.count .blank =
        quotation.summary (profits.foldl Summary.count .blank) := by
    rw [List.foldl_map]
    conv_lhs => rw [← quotation.summary_blank]
    exact List.foldl_hom quotation.summary quotation.count_summary
  have earned : Summary.profits (positions.map quotation.position) =
      (Summary.profits positions).map quotation.length :=
    quotation.translation.profits_map positions
  rw [Summary.ofPositions_eq, Summary.ofPositions_eq, earned, counted, finish_summary]

/-- The result of a session is quoted as its chart and its book are. -/
theorem result_session (session : Session Rat) :
    (quotation.translation.session session).result = quotation.result session.result := by
  have bricks := quotation.translation.bricks_chart session.chart
  have positions := quotation.translation.positions_book session.book
  simp only [Session.result, Translation.session, bricks, positions]
  exact congrArg _ (quotation.ofPositions_map session.book.positions)

end Quotation

/-- **Backtests do not depend on how prices are quoted.** Ticks, sizes and slippage that are quoted
otherwise leave the same bricks, positions and summary, quoted otherwise, and what is refused is
refused. -/
theorem backtest_quoted (quotation : Quotation) (setup : BacktestSetup Rat)
    (schedule : Option (Schedule Rat)) (ticks : List (Tick Rat)) :
    backtest (quotation.setup setup) (schedule.map quotation.schedule)
        (ticks.map quotation.tick) =
      quotation.translation.outcome quotation.result (backtest setup schedule ticks) :=
  (quotation.feeds schedule).backtest quotation.translation (quotation.start_session setup) rfl
    quotation.result_session ticks

/-- Upside down and at twice the unit, a rise that is bought becomes a fall that is sold. -/
theorem backtest_quoted_upside_down :
    let quotation : Quotation := ⟨-2, 7, by decide⟩
    let setup : BacktestSetup Rat := ⟨"TEST", 1, 1 / 4, true⟩
    let ticks : List (Tick Rat) := [⟨.ofMillis 0, 100, 1⟩, ⟨.ofMillis 1, 203 / 2, 1⟩,
      ⟨.ofMillis 2, 407 / 4, 1⟩]
    let sides (ended : Except (TradeFault Rat) (BacktestResult Rat)) :=
      ended.toOption.map fun result => (result.positions.map (·.side), result.summary.totalProfit)
    backtest (quotation.setup setup) none (ticks.map quotation.tick) =
        quotation.translation.outcome quotation.result (backtest setup none ticks) ∧
      sides (backtest setup none ticks) = some ([.buy], 1 / 4) ∧
      sides (backtest (quotation.setup setup) none (ticks.map quotation.tick)) =
        some ([.sell], 1 / 2) :=
  ⟨backtest_quoted _ _ none _, by decide +kernel, by decide +kernel⟩

end Renko
