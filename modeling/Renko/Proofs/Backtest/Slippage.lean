import Mathlib
import Renko.Proofs.Backtest.Driver
import Renko.Proofs.Summary

/-! # What slippage changes

Slippage decides no trade. Two backtests that differ in their slippage alone see the same bricks, so
they trade the same runs (`Renko.Trades.forall₂_trades`), and every position is filled twice at the
difference, to its disadvantage (`Renko.backtests_differ_by_slippage`).
-/

namespace Renko

open Trades

variable {α : Type}

/-- Two positions that are one trade, at whatever prices. -/
structure Position.SameTrade (first second : Position α) : Prop where
  date : second.date = first.date
  side : second.side = first.side
  isOpen : second.isOpen = first.isOpen

/-- One trade at two slippages. -/
structure Position.Dearer (difference : Rat) (first second : Position Rat) : Prop
    extends Position.SameTrade first second where
  openPrice : second.openPrice - first.openPrice =
    match first.side with
    | .buy => difference
    | .sell => -difference
  profit : second.profit = first.profit - 2 * difference

/-- Two backtests that made the same trades on the same bricks. -/
structure BacktestResult.SameTrades (first second : BacktestResult α) : Prop where
  bricks : second.bricks = first.bricks
  positions : List.Forall₂ Position.SameTrade first.positions second.positions

/-- Two backtests that made the same trades on the same bricks, at two slippages. -/
structure BacktestResult.Dearer (difference : Rat) (first second : BacktestResult Rat) : Prop where
  bricks : second.bricks = first.bricks
  positions : List.Forall₂ (Position.Dearer difference) first.positions second.positions
  opCount : second.summary.opCount = first.summary.opCount
  totalProfit : second.summary.totalProfit =
    first.summary.totalProfit - 2 * difference * first.summary.opCount

variable [Scalar α]

namespace Trades

/-- Runs are traded alike at two slippages if every single one is. -/
theorem forall₂_trades {related : Position α → Position α → Prop} {first second : α}
    (each : ∀ opener exit closed one other, trade first opener exit closed = some one →
      trade second opener exit closed = some other → related one other)
    {exit : Option α} {closed : Bool} {openers : List (Brick α)}
    {earlier later : List (Position α)}
    (tradedFirst : earlier.map some = trades first exit closed openers)
    (tradedSecond : later.map some = trades second exit closed openers) :
    List.Forall₂ related earlier later := by
  induction openers generalizing earlier later with
  | nil =>
      rw [List.map_eq_nil_iff.mp tradedFirst, List.map_eq_nil_iff.mp tradedSecond]
      exact .nil
  | cons opener openers inductionHypothesis =>
      obtain ⟨exit', closed', line⟩ := exists_trades_cons exit closed opener openers
      rw [line first] at tradedFirst
      rw [line second] at tradedSecond
      cases earlier with
      | nil => cases tradedFirst
      | cons one earlier =>
          cases later with
          | nil => cases tradedSecond
          | cons other later =>
              obtain ⟨tradedOne, restFirst⟩ := List.cons.inj tradedFirst
              obtain ⟨tradedOther, restSecond⟩ := List.cons.inj tradedSecond
              exact .cons (each opener exit' closed' one other tradedOne.symm tradedOther.symm)
                (inductionHypothesis restFirst restSecond)

private theorem sameTrade_of_trade {first second : α} {opener : Brick α} {exit : Option α}
    {closed : Bool}
    {one other : Position α} (tradedFirst : trade first opener exit closed = some one)
    (tradedSecond : trade second opener exit closed = some other) : one.SameTrade other := by
  obtain ⟨side, price, signals, exits, rfl⟩ := trade_eq_some_iff.mp tradedFirst
  obtain ⟨side', price', signals', exits', rfl⟩ := trade_eq_some_iff.mp tradedSecond
  obtain rfl := Option.some.inj (signals.symm.trans signals')
  refine ⟨rfl, rfl, ?_⟩
  cases closed <;> rfl

private theorem dearer_of_trade {first second : Rat} {opener : Brick Rat} {exit : Option Rat}
    {closed : Bool} {one other : Position Rat}
    (tradedFirst : trade first opener exit closed = some one)
    (tradedSecond : trade second opener exit closed = some other) :
    one.Dearer (second - first) other := by
  have same := sameTrade_of_trade tradedFirst tradedSecond
  obtain ⟨side, price, signals, exits, rfl⟩ := trade_eq_some_iff.mp tradedFirst
  obtain ⟨side', price', signals', exits', rfl⟩ := trade_eq_some_iff.mp tradedSecond
  obtain rfl := Option.some.inj (signals.symm.trans signals')
  obtain rfl := Option.some.inj (exits.symm.trans exits')
  refine ⟨same, ?_, ?_⟩
  · cases side <;> simp only [Position.update, Position.opened, Side.fill] <;> ring
  · cases side <;> simp only [Position.update, Position.opened, Side.opposite, Side.fill] <;> ring

end Trades

/-- The closed positions lose twice the difference each. -/
theorem Position.profits_of_dearer {difference : Rat} {first second : List (Position Rat)}
    (dearer : List.Forall₂ (Position.Dearer difference) first second) :
    Summary.profits second = (Summary.profits first).map (· - 2 * difference) := by
  induction dearer with
  | nil => rfl
  | @cons one other first second cost rest inductionHypothesis =>
      unfold Summary.profits at inductionHypothesis ⊢
      rw [List.filter_cons, List.filter_cons, cost.isOpen]
      cases one.isOpen with
      | true => exact inductionHypothesis
      | false =>
          simp only [Bool.not_false, ↓reduceIte, List.map_cons, inductionHypothesis, cost.profit]

/-- How a backtest at one slippage and one at another end: both refuse an invalid brick size, and
otherwise both end, with results that are related. -/
def EndAlike (size : α) (related : BacktestResult α → BacktestResult α → Prop)
    (first second : Except (TradeFault α) (BacktestResult α)) : Prop :=
  if validBrickSize size = true then
    ∃ one other, first = .ok one ∧ second = .ok other ∧ related one other
  else first = .error (.invalidBrickSize size) ∧ second = .error (.invalidBrickSize size)

/-- Runs that end alike in one respect end alike in what follows from it. -/
theorem EndAlike.imp {size : α} {related implied : BacktestResult α → BacktestResult α → Prop}
    {first second : Except (TradeFault α) (BacktestResult α)}
    (alike : EndAlike size related first second)
    (implies : ∀ one other, related one other → implied one other) :
    EndAlike size implied first second := by
  unfold EndAlike at alike ⊢
  by_cases valid : validBrickSize size = true
  · rw [if_pos valid] at alike ⊢
    obtain ⟨one, other, endsFirst, endsSecond, both⟩ := alike
    exact ⟨one, other, endsFirst, endsSecond, implies one other both⟩
  · rw [if_neg valid] at alike ⊢
    exact alike

variable [Scalar.Directed α]

/-- At another slippage a backtest reports the bricks of the same chart, and pairs of positions that
are related if those of every single run are. -/
theorem endAlike_of_trade (setup : BacktestSetup α) (slippage : α)
    {schedule : Option (Schedule α)} (ticks : List (Tick α))
    (validFirst : validSlippage setup.slippage = true)
    (validSecond : validSlippage slippage = true)
    (built : ∀ table ∈ schedule, ∃ entries, Schedule.ofEntries entries = .ok table)
    {related : Position α → Position α → Prop}
    (each : ∀ opener exit closed one other, trade setup.slippage opener exit closed = some one →
      trade slippage opener exit closed = some other → related one other) :
    EndAlike setup.brickSize
      (fun one other => other.bricks = one.bricks ∧
        List.Forall₂ related one.positions other.positions ∧
        one.summary = .ofPositions one.positions ∧ other.summary = .ofPositions other.positions)
      (backtest setup schedule ticks) (backtest { setup with slippage } schedule ticks) := by
  have permitted := Schedule.valid_of_built built
  unfold EndAlike
  by_cases validSize : validBrickSize setup.brickSize = true
  · rw [if_pos validSize]
    obtain ⟨one, endsFirst, tradedFirst, bricksFirst, summaryFirst⟩ :=
      exists_result validSize validFirst permitted ticks
    have validSize' : validBrickSize ({ setup with slippage } : BacktestSetup α).brickSize = true :=
      validSize
    obtain ⟨other, endsSecond, tradedSecond, bricksSecond, summarySecond⟩ :=
      exists_result validSize' validSecond permitted ticks
    exact ⟨one, other, endsFirst, endsSecond, bricksSecond.trans bricksFirst.symm,
      forall₂_trades each tradedFirst.positions tradedSecond.positions, summaryFirst, summarySecond⟩
  · rw [if_neg validSize]
    exact ⟨backtest_of_invalid_size setup validSize schedule ticks,
      backtest_of_invalid_size { setup with slippage } validSize schedule ticks⟩

/-- **Slippage costs twice a trade, and nothing else.** At another slippage a backtest sees the same
bricks and makes the same trades. Exactly calculated, each position is opened at the difference to
its disadvantage and earns less by twice the difference, and so does the total for every closed
position. -/
theorem backtests_differ_by_slippage :
    (∀ (setup : BacktestSetup Float) (slippage : Float) (schedule : Option (Schedule Float))
      (ticks : List (Tick Float)), validSlippage setup.slippage = true →
      validSlippage slippage = true →
      (∀ table ∈ schedule, ∃ entries, Schedule.ofEntries entries = .ok table) →
      EndAlike setup.brickSize BacktestResult.SameTrades
        (backtest setup schedule ticks) (backtest { setup with slippage } schedule ticks)) ∧
    ∀ (setup : BacktestSetup Rat) (slippage : Rat) (schedule : Option (Schedule Rat))
      (ticks : List (Tick Rat)), validSlippage setup.slippage = true →
      validSlippage slippage = true →
      (∀ table ∈ schedule, ∃ entries, Schedule.ofEntries entries = .ok table) →
      EndAlike setup.brickSize (BacktestResult.Dearer (slippage - setup.slippage))
        (backtest setup schedule ticks) (backtest { setup with slippage } schedule ticks) := by
  constructor
  · intro setup slippage schedule ticks validFirst validSecond built
    apply (endAlike_of_trade setup slippage ticks validFirst validSecond built
      fun _ _ _ _ _ => sameTrade_of_trade).imp
    rintro one other ⟨bricks, positions, -, -⟩
    exact ⟨bricks, positions⟩
  · intro setup slippage schedule ticks validFirst validSecond built
    apply (endAlike_of_trade setup slippage ticks validFirst validSecond built
      fun _ _ _ _ _ => dearer_of_trade).imp
    rintro one other ⟨bricks, positions, summaryFirst, summarySecond⟩
    have profits := Position.profits_of_dearer positions
    have counts : other.summary.opCount = one.summary.opCount := by
      rw [summaryFirst, summarySecond, Summary.opCount_ofPositions, Summary.opCount_ofPositions,
        profits, List.length_map]
    refine ⟨bricks, positions, counts, ?_⟩
    rw [summaryFirst, summarySecond, Summary.totalProfit_ofPositions,
      Summary.totalProfit_ofPositions, Summary.opCount_ofPositions, profits, Summary.sum_map_sub]

/-- A rise and a fall at half the size: closed at the end with rounding, left open without. -/
theorem backtests_differ_by_a_quarter :
    let tick (α : Type) (ms : Int) (price volume : α) : Tick α := ⟨.ofMillis ms, price, volume⟩
    let setup : BacktestSetup Float := ⟨"TEST", 1, 0.25, true⟩
    let table : Schedule Float := ⟨[⟨.ofMillis 1, 0.5⟩]⟩
    let ticks := [tick Float 0 100 1, tick Float 1 102.5 1, tick Float 2 101.25 1]
    let exact : BacktestSetup Rat := ⟨"TEST", 1, 1 / 4, false⟩
    let exactTable : Schedule Rat := ⟨[⟨.ofMillis 1, 1 / 2⟩]⟩
    let exactTicks := [tick Rat 0 100 1, tick Rat 1 (205 / 2) 1, tick Rat 2 (304 / 3) 1]
    let trades {α : Type} (ended : Except (TradeFault α) (BacktestResult α)) :=
      ended.toOption.map fun result =>
        (result.bricks.map (·.kind), result.positions.map fun position =>
          (position.side, position.isOpen))
    (validSlippage setup.slippage = true ∧ validSlippage (0.5 : Float) = true ∧
      (∀ scheduled ∈ some table, ∃ entries, Schedule.ofEntries entries = .ok scheduled) ∧
      EndAlike setup.brickSize BacktestResult.SameTrades (backtest setup (some table) ticks)
        (backtest { setup with slippage := 0.5 } (some table) ticks) ∧
      trades (backtest setup (some table) ticks) =
        some ([.up, .up, .down, .last], [(.buy, false), (.sell, false)])) ∧
    validSlippage exact.slippage = true ∧ validSlippage (1 / 2 : Rat) = true ∧
      (∀ scheduled ∈ some exactTable, ∃ entries, Schedule.ofEntries entries = .ok scheduled) ∧
      EndAlike exact.brickSize (BacktestResult.Dearer (1 / 2 - 1 / 4))
        (backtest exact (some exactTable) exactTicks)
        (backtest { exact with slippage := 1 / 2 } (some exactTable) exactTicks) ∧
      trades (backtest exact (some exactTable) exactTicks) =
        some ([.up, .up, .down, .last], [(.buy, false), (.sell, true)]) := by
  intro tick setup table ticks exact exactTable exactTicks trades
  have validFirst : validSlippage setup.slippage = true := by decide +kernel
  have validSecond : validSlippage (0.5 : Float) = true := by decide +kernel
  have built : ∀ scheduled ∈ some table,
      ∃ entries, Schedule.ofEntries entries = .ok scheduled := by
    intro scheduled chosen
    obtain rfl := Option.some.inj chosen
    exact ⟨_, Schedule.ofEntries_singleton (by decide +kernel)⟩
  have exactFirst : validSlippage exact.slippage = true := by decide +kernel
  have exactSecond : validSlippage (1 / 2 : Rat) = true := by decide +kernel
  have exactBuilt : ∀ scheduled ∈ some exactTable,
      ∃ entries, Schedule.ofEntries entries = .ok scheduled := by
    intro scheduled chosen
    obtain rfl := Option.some.inj chosen
    exact ⟨_, Schedule.ofEntries_singleton (by decide +kernel)⟩
  exact ⟨⟨validFirst, validSecond, built,
      backtests_differ_by_slippage.1 setup 0.5 (some table) ticks validFirst validSecond built,
      by decide +kernel⟩,
    exactFirst, exactSecond, exactBuilt,
    backtests_differ_by_slippage.2 exact (1 / 2) (some exactTable) exactTicks exactFirst exactSecond
      exactBuilt,
    by decide +kernel⟩

end Renko
