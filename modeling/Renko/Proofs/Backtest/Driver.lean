import Mathlib
import Renko.Backtest
import Renko.Proofs.Backtest.Trades
import Renko.Proofs.Book
import Renko.Proofs.Chart.History
import Renko.Proofs.Chart.Shape
import Renko.Proofs.Outcome
import Renko.Proofs.Schedule

/-! # Runs tick by tick

One tick is fed to the chart of a run and traded on, and from this follows what any run trades.
-/

/-! ## What a tick does to a run

A tick is fed to the chart of a run, and what comes out of it is traded on
(`Renko.Session.take_eq`). Whatever the book does then, it does on requests
(`Renko.Session.exists_requests_of_take`), so what holds of books after any requests holds of the
books of all runs.
-/

namespace Renko

variable {α : Type} [Scalar α]

namespace Book

private theorem asked_of_ok {book next : Book α} {request : Request α}
    (accepted : book.ask request = .ok next) : book.asked request = next := by
  rw [asked, accepted]

/-- Bricks are shown to a book by requests to note them. -/
theorem foldl_addBrick_eq_after (book : Book α) (bricks : List (Brick α)) :
    bricks.foldl addBrick book = book.after (bricks.map Request.note) := by
  rw [after, List.foldl_map]
  rfl

/-- A book follows a side by at most two requests, to leave and to enter. -/
theorem exists_requests_of_follow {book next : Book α} {side : Side}
    (followed : book.follow side = .ok next) : ∃ requests, next = book.after requests := by
  have enters {book : Book α}
      (opened : (book.openPosition side >>= fun opened => pure opened.1) = .ok next) :
      book.asked (.enter side) = next := asked_of_ok opened
  rw [follow] at followed
  cases current : book.current with
  | none =>
      rw [current] at followed
      exact ⟨[.enter side], (enters followed).symm⟩
  | some position =>
      simp only [current] at followed
      by_cases same : position.side = side
      · rw [if_pos same] at followed
        exact ⟨[], (Except.ok.inj followed).symm⟩
      · rw [if_neg same] at followed
        obtain ⟨closed, closes, opens⟩ := Outcome.bind_eq_ok.mp followed
        refine ⟨[.leave, .enter side], ?_⟩
        have leaves : book.asked .leave = closed.1 := by
          apply asked_of_ok
          rw [ask, closes]
          rfl
        rw [after, List.foldl_cons, List.foldl_cons, leaves, enters opens, List.foldl_nil]

end Book

namespace Session

/-- A run starts with valid settings and with no others. -/
theorem start_eq_ok {setup : BacktestSetup α} {first : Session α} :
    start setup = .ok first ↔ validBrickSize setup.brickSize = true ∧
      validSlippage setup.slippage = true ∧
      first = ⟨⟨setup.brickSize, #[], none⟩, ⟨setup.slippage, #[], #[], none⟩⟩ := by
  rw [start, Outcome.bind_eq_ok]
  constructor
  · rintro ⟨chart, started, continues⟩
    obtain ⟨book, opened, same⟩ := Outcome.bind_eq_ok.mp continues
    obtain ⟨validSize, rfl⟩ := Chart.start_eq_ok.mp started
    obtain ⟨validCharge, rfl⟩ := Book.start_eq_ok.mp opened
    exact ⟨validSize, validCharge, (Except.ok.inj same).symm⟩
  · rintro ⟨validSize, validCharge, rfl⟩
    exact ⟨_, Chart.start_eq_ok.mpr ⟨validSize, rfl⟩,
      Outcome.bind_eq_ok.mpr ⟨_, Book.start_eq_ok.mpr ⟨validCharge, rfl⟩, rfl⟩⟩

/-- What a run makes of a tick that its chart has taken: the completed bricks go to the book, which
then follows the newest of them. -/
def tradeOn (book : Book α) (chart : Chart α) (count : Nat) : Except (TradeFault α) (Session α) :=
  if count = 0 then return ⟨chart, book⟩
  else
    let shown := (chart.completed.extract (chart.completed.size - count)).foldl Book.addBrick book
    match chart.completed.back?.bind (·.kind.signal) with
    | none => return ⟨chart, shown⟩
    | some side => return ⟨chart, ← shown.follow side⟩

/-- A tick is fed first. -/
theorem take_eq (schedule : Option (Schedule α)) (session : Session α) (tick : Tick α) :
    session.take schedule tick =
      (Chart.feedScheduled schedule session.chart tick >>= fun fed =>
        tradeOn session.book fed.1 fed.2) := by
  rfl

/-- Trading on a chart keeps the chart, and the book is left by requests. -/
theorem tradeOn_eq_ok {book : Book α} {chart : Chart α} {count : Nat} {next : Session α}
    (traded : tradeOn book chart count = .ok next) :
    next.chart = chart ∧ ∃ requests, next.book = book.after requests := by
  unfold tradeOn at traded
  by_cases completes : count = 0
  · rw [if_pos completes] at traded
    obtain rfl := Except.ok.inj traded
    exact ⟨rfl, [], rfl⟩
  · rw [if_neg completes, ← Array.foldl_toList, Book.foldl_addBrick_eq_after] at traded
    cases wanted : chart.completed.back?.bind (·.kind.signal) with
    | none =>
        simp only [wanted] at traded
        obtain rfl := Except.ok.inj traded
        exact ⟨rfl, _, rfl⟩
    | some side =>
        simp only [wanted] at traded
        obtain ⟨followed, follows, same⟩ := Outcome.bind_eq_ok.mp traded
        obtain rfl := Except.ok.inj same
        obtain ⟨requests, after⟩ := Book.exists_requests_of_follow follows
        exact ⟨rfl, _, after.trans (Book.after_append book _ requests).symm⟩

/-- **A tick that a run takes.** The chart was fed it, and the book answered requests. -/
theorem exists_requests_of_take {schedule : Option (Schedule α)} {session next : Session α}
    {tick : Tick α} (took : session.take schedule tick = .ok next) :
    ∃ count requests, Chart.feedScheduled schedule session.chart tick = .ok (next.chart, count) ∧
      next.book = session.book.after requests := by
  rw [take_eq] at took
  obtain ⟨⟨chart, count⟩, fed, traded⟩ := Outcome.bind_eq_ok.mp took
  obtain ⟨same, requests, after⟩ := tradeOn_eq_ok traded
  refine ⟨count, requests, ?_, after⟩
  rw [same]
  exact fed

end Session

/-- An invalid brick size is refused before anything else is looked at. -/
theorem backtest_of_invalid_size (setup : BacktestSetup α)
    (invalid : validBrickSize setup.brickSize ≠ true) (schedule : Option (Schedule α))
    (ticks : List (Tick α)) :
    backtest setup schedule ticks = .error (.invalidBrickSize setup.brickSize) := by
  rw [backtest, Session.start, Chart.start, checkBrickSize, if_neg invalid]
  rfl

/-- So is an invalid slippage, if the brick size is valid. -/
theorem backtest_of_invalid_slippage (setup : BacktestSetup α)
    (valid : validBrickSize setup.brickSize = true) (invalid : validSlippage setup.slippage ≠ true)
    (schedule : Option (Schedule α)) (ticks : List (Tick α)) :
    backtest setup schedule ticks = .error (.invalidSlippage setup.slippage) := by
  rw [backtest, Session.start, Chart.start_eq_ok.mpr ⟨valid, rfl⟩, Book.start, checkSlippage,
    if_neg invalid]
  rfl

/-- A backtest starts, takes its ticks, closes its position if asked to, and reports. -/
theorem backtest_eq (setup : BacktestSetup α) (schedule : Option (Schedule α))
    (ticks : List (Tick α)) :
    backtest setup schedule ticks =
      (Session.start setup >>= fun first =>
        ticks.foldlM (Session.take schedule) first >>= fun session =>
          (if setup.closeAtEnd then session.close else pure session) >>= fun final =>
            pure final.result) := by
  rw [backtest]
  refine bind_congr fun first => bind_congr fun session => ?_
  split <;> rfl

/-- A backtest ends well if its session starts, takes every tick and can be closed as asked. -/
theorem backtest_eq_ok {setup : BacktestSetup α} {schedule : Option (Schedule α)}
    {ticks : List (Tick α)} {result : BacktestResult α} :
    backtest setup schedule ticks = .ok result ↔ ∃ first session final,
      Session.start setup = .ok first ∧
      ticks.foldlM (Session.take schedule) first = .ok session ∧
      (if setup.closeAtEnd then session.close else pure session) = .ok final ∧
      final.result = result := by
  rw [backtest_eq]
  constructor
  · intro ended
    obtain ⟨first, starts, runs⟩ := Outcome.bind_eq_ok.mp ended
    obtain ⟨session, took, closes⟩ := Outcome.bind_eq_ok.mp runs
    obtain ⟨final, closed, reports⟩ := Outcome.bind_eq_ok.mp closes
    exact ⟨first, session, final, starts, took, closed, Except.ok.inj reports⟩
  · rintro ⟨first, session, final, starts, took, closed, rfl⟩
    refine Outcome.bind_eq_ok.mpr ⟨first, starts, Outcome.bind_eq_ok.mpr ⟨session, took, ?_⟩⟩
    exact Outcome.bind_eq_ok.mpr ⟨final, closed, rfl⟩

end Renko

/-! ## What a backtest trades

A backtest trades the runs of its turns and nothing else (`Renko.backtest_traded`). Between two
ticks its book has seen the completed bricks and holds the turns of the history
(`Renko.Session.Follows`); one tick keeps it so (`Renko.Session.Follows.take`), and therefore any
number of them does (`Renko.Session.Follows.foldlM_take`).
-/

namespace Renko

open Trades

variable {α : Type} [Scalar α]

/-- Ticks as they are fed under a schedule. -/
def Schedule.feedings (schedule : Option (Schedule α)) (ticks : List (Tick α)) :
    List (Feeding α) :=
  ticks.map fun tick => ⟨tick, schedule.bind (·.sizeAt tick.time)⟩

namespace Session

/-- The book of a run is in step with the history of its chart. -/
structure Follows (slippage : α) (session : Session α) (past : List (Taken α)) : Prop where
  grown : session.chart.Grown past
  bricks : session.book.bricks = session.chart.completed
  holds : session.book.Holds slippage (turns past)

variable {slippage : α} {session : Session α} {past : List (Taken α)}

/-- A run starts in step. -/
theorem follows_of_start {size : α} (valid : validBrickSize size = true) (slippage : α) :
    Follows slippage ⟨⟨size, #[], none⟩, ⟨slippage, #[], #[], none⟩⟩ [] :=
  ⟨.empty valid, rfl, rfl, rfl, fun nonempty => absurd rfl nonempty⟩

/-- A tick that completes nothing leaves the book in step. -/
theorem Follows.absorb (follows : Follows slippage session past) {next : Chart α} {tick : Tick α}
    (step : session.chart.Step tick 0 next) :
    Follows slippage ⟨next, session.book⟩ (past ++ [⟨tick, 0, next⟩]) := by
  obtain ⟨direction, added, completed, length, -⟩ := step.exists_added
  rw [List.length_eq_zero_iff.mp length, Array.append_empty] at completed
  refine ⟨follows.grown.step step, follows.bricks.trans completed.symm, ?_⟩
  rw [turns_concat_of_absorbed past rfl]
  exact follows.holds

/-- The bricks that a step adds to a chart are shown to the book. -/
theorem Follows.foldl_addBrick (follows : Follows slippage session past) {next : Chart α}
    {added : List (Brick α)} {newest : Brick α}
    (completed : next.completed = session.chart.completed ++ (added ++ [newest]).toArray) :
    (next.completed.extract (next.completed.size - (added ++ [newest]).length)).foldl
        Book.addBrick session.book = session.book.shown next.completed newest := by
  have last : next.completed.extract (next.completed.size - (added ++ [newest]).length) =
      (added ++ [newest]).toArray := by
    rw [completed]
    simp
  rw [last, List.foldl_toArray, Book.foldl_addBrick, follows.bricks, completed]

/-- At the end of a run its open position is closed at the price of the last tick. -/
theorem Follows.close (follows : Follows slippage session past) :
    ∃ closed, session.close = .ok closed ∧ closed.chart = session.chart ∧
      closed.book.positions.map some =
        trades slippage (past.getLast?.map (·.tick.price)) true (openers (turns past)) := by
  by_cases nothing : turns past = []
  · obtain ⟨closed, idle⟩ := follows.holds.idle nothing
    refine ⟨session, ?_, rfl, ?_⟩
    · rw [Session.close, idle]
      rfl
    · rw [Book.positions, closed, idle, nothing]
      rfl
  · have nonempty : past ≠ [] := by
      rintro rfl
      exact nothing rfl
    obtain ⟨brick, absorbing, price⟩ :=
      follows.grown.exists_current (List.getLast?_eq_some_getLast nonempty)
    obtain ⟨position, held⟩ := follows.holds.held nothing
    obtain ⟨closed, closes, positions⟩ := follows.holds.close nothing brick
    refine ⟨⟨session.chart, closed.1⟩, ?_, rfl, ?_⟩
    · rw [Session.close, held, absorbing]
      change ((session.book.addBrick brick).closePosition >>= fun closed =>
        pure (Session.mk session.chart closed.1)) = _
      rw [closes]
      rfl
    · rw [positions, price, List.getLast?_eq_some_getLast nonempty, Option.map_some]

/-- What a step adds to the chart the book can trade on, and it stays in step. -/
theorem Follows.tradeOn (follows : Follows slippage session past) {next : Chart α} {tick : Tick α}
    {count : Nat} (step : session.chart.Step tick count next) :
    ∃ book, Session.tradeOn session.book next count = .ok ⟨next, book⟩ ∧
      Follows slippage ⟨next, book⟩ (past ++ [⟨tick, count, next⟩]) := by
  by_cases completes : count = 0
  · subst completes
    exact ⟨session.book, rfl, follows.absorb step⟩
  · obtain ⟨earlier, newest, direction, completed, length, back, kind, -⟩ :=
      step.exists_newest completes
    obtain ⟨side, signals⟩ := exists_signal direction
    rw [← kind] at signals
    obtain ⟨followed, turned, seen, holds⟩ := follows.holds.follow back signals
    have shown := follows.foldl_addBrick completed
    rw [length] at shown
    refine ⟨followed, ?_, follows.grown.step step, seen, ?_⟩
    · simp only [Session.tradeOn, if_neg completes, shown, back, Option.bind_some, signals, turned]
      rfl
    · rw [turns_concat_of_completing past completes back]
      exact holds

variable [Scalar.Directed α]

/-- A tick that is not refused keeps the book in step. -/
theorem Follows.take (follows : Follows slippage session past) {schedule : Option (Schedule α)}
    {tick : Tick α} {next : Chart α} {count : Nat}
    (accepted : session.chart.feed tick (schedule.bind (·.sizeAt tick.time)) = .ok (next, count)) :
    ∃ book, session.take schedule tick = .ok ⟨next, book⟩ ∧
      Follows slippage ⟨next, book⟩ (past ++ [⟨tick, count, next⟩]) := by
  obtain ⟨book, traded, inStep⟩ := follows.tradeOn (follows.grown.step_of_feed accepted)
  refine ⟨book, ?_, inStep⟩
  rw [take_eq, Chart.feedScheduled, accepted]
  exact traded

/-- **Runs stay in step.** Ticks whose scheduled sizes are valid are all taken, and the book follows
the history of the chart. -/
theorem Follows.foldlM_take (follows : Follows slippage session past)
    {schedule : Option (Schedule α)}
    (permitted : ∀ time, ∀ size ∈ schedule.bind (·.sizeAt time), validBrickSize size = true)
    (ticks : List (Tick α)) :
    ∃ book, ticks.foldlM (Session.take schedule) session =
        .ok ⟨session.chart.after (Schedule.feedings schedule ticks), book⟩ ∧
      Follows slippage ⟨session.chart.after (Schedule.feedings schedule ticks), book⟩
        (past ++ session.chart.history (Schedule.feedings schedule ticks)) := by
  -- a run may start at any session that is in step, so that one tick leads to such a session again
  induction ticks generalizing session past with
  | nil =>
      refine ⟨session.book, rfl, ?_⟩
      rw [Schedule.feedings, List.map_nil, Chart.history, List.append_nil]
      exact follows
  | cons tick ticks inductionHypothesis =>
      obtain ⟨next, count, accepted⟩ : ∃ next count, session.chart.feed tick
          (schedule.bind (·.sizeAt tick.time)) = .ok (next, count) :=
        ⟨_, _, Chart.feed_eq_ok.mpr ⟨permitted tick.time, rfl⟩⟩
      obtain ⟨book, took, inStep⟩ := follows.take accepted
      obtain ⟨final, rest, atEnd⟩ := inductionHypothesis inStep
      have taken : session.chart.taken? ⟨tick, schedule.bind (·.sizeAt tick.time)⟩ =
          some ⟨tick, count, next⟩ := Chart.taken?_eq_some.mpr ⟨accepted, rfl⟩
      have fed : session.chart.fed ⟨tick, schedule.bind (·.sizeAt tick.time)⟩ = next := by
        rw [Chart.fed, taken, Option.elim_some]
      have after : session.chart.after (Schedule.feedings schedule (tick :: ticks)) =
          next.after (Schedule.feedings schedule ticks) := by
        rw [← fed]
        rfl
      have history : session.chart.history (Schedule.feedings schedule (tick :: ticks)) =
          ⟨tick, count, next⟩ :: next.history (Schedule.feedings schedule ticks) := by
        rw [Schedule.feedings, List.map_cons, Chart.history, taken, fed]
        rfl
      refine ⟨final, ?_, ?_⟩
      · rw [List.foldlM_cons, took, after]
        exact rest
      · rw [after, history, ← List.singleton_append, ← List.append_assoc]
        exact atEnd

end Session

/-- What the positions of a backtest are, by the history of its chart: one for every run of turns,
as `Renko.Trades.trades` has them. The last one is closed at the price of the last tick, or stays
open and is priced by the newest turn. -/
structure BacktestResult.Traded (result : BacktestResult α) (setup : BacktestSetup α)
    (ticks : List (Tick α)) (past : List (Taken α)) : Prop where
  fed : past.map (·.tick) = ticks
  common : ∀ taken ∈ past, taken.count ≠ 0 →
    ∃ newest, taken.chart.completed.back? = some newest ∧ newest.kind ≠ .last ∧
      ∀ other ∈ taken.chart.completed.toList.drop (taken.chart.completed.size - taken.count),
        other.kind = newest.kind
  positions : result.positions.map some =
    trades setup.slippage
      (if setup.closeAtEnd then ticks.getLast?.map (·.price)
        else (turns past).getLast?.map (·.closePrice))
      setup.closeAtEnd (openers (turns past))
  onePerRun : result.positions.length = (runs (turns past)).length
  alternate : result.positions.IsChain fun earlier later =>
    later.side = earlier.side.opposite ∧ earlier.closePrice = some later.openPrice

/-- All ticks of a backtest are in the history of its chart. -/
theorem Schedule.map_tick_scheduled (chart : Chart α) {schedule : Option (Schedule α)}
    (permitted : ∀ time, ∀ size ∈ schedule.bind (·.sizeAt time), validBrickSize size = true)
    (ticks : List (Tick α)) :
    (chart.history (feedings schedule ticks)).map (·.tick) = ticks := by
  rw [chart.map_tick_history, feedings, List.map_map]
  · exact List.map_id ticks
  · intro feeding member
    obtain ⟨tick, -, rfl⟩ := List.mem_map.mp member
    exact permitted tick.time

variable [Scalar.Directed α]

/-- A backtest with valid sizes ends, in step with its chart, and reports the bricks of the chart
and the summary of its positions. -/
theorem exists_result {setup : BacktestSetup α} {schedule : Option (Schedule α)}
    (validSize : validBrickSize setup.brickSize = true)
    (validCharge : validSlippage setup.slippage = true)
    (permitted : ∀ time, ∀ size ∈ schedule.bind (·.sizeAt time), validBrickSize size = true)
    (ticks : List (Tick α)) :
    ∃ result, backtest setup schedule ticks = .ok result ∧
      result.Traded setup ticks ((⟨setup.brickSize, #[], none⟩ : Chart α).history
        (Schedule.feedings schedule ticks)) ∧
      result.bricks = ((⟨setup.brickSize, #[], none⟩ : Chart α).after
        (Schedule.feedings schedule ticks)).bricks ∧
      result.summary = .ofPositions result.positions := by
  obtain ⟨book, took, follows⟩ :=
    (Session.follows_of_start validSize setup.slippage).foldlM_take permitted ticks
  rw [List.nil_append] at follows
  have fed := Schedule.map_tick_scheduled ⟨setup.brickSize, #[], none⟩ permitted ticks
  obtain ⟨final, ends, charted, positions⟩ : ∃ final : Session α,
      (if setup.closeAtEnd then Session.close ⟨_, book⟩ else pure ⟨_, book⟩) = .ok final ∧
      final.chart = _ ∧
      final.book.positions.map some = trades setup.slippage
        (if setup.closeAtEnd then ticks.getLast?.map (·.price)
          else (turns _).getLast?.map (·.closePrice)) setup.closeAtEnd (openers (turns _)) := by
    cases setup.closeAtEnd with
    | true =>
        obtain ⟨closed, closes, charted, positions⟩ := follows.close
        refine ⟨closed, closes, charted, ?_⟩
        have latest := congrArg (fun ticks => ticks.getLast?.map (·.price)) fed
        rw [List.getLast?_map, Option.map_map] at latest
        exact latest ▸ positions
    | false => exact ⟨_, rfl, rfl, follows.holds.positions⟩
  refine ⟨final.result, ?_, ⟨fed, follows.grown.common, positions, ?_,
    isChain_of_map_some positions (isChain_openers _)⟩, congrArg Chart.bricks charted, rfl⟩
  · exact backtest_eq_ok.mpr
      ⟨_, _, final, Session.start_eq_ok.mpr ⟨validSize, validCharge, rfl⟩, took, ends, rfl⟩
  · have length := congrArg List.length positions
    rw [List.length_map, length_trades, length_openers] at length
    exact length

/-- With valid settings and sizes a backtest ends well, with the trades of its history. -/
theorem exists_traded {setup : BacktestSetup α} {schedule : Option (Schedule α)}
    (validSize : validBrickSize setup.brickSize = true)
    (validCharge : validSlippage setup.slippage = true)
    (permitted : ∀ time, ∀ size ∈ schedule.bind (·.sizeAt time), validBrickSize size = true)
    (ticks : List (Tick α)) :
    ∃ result, backtest setup schedule ticks = .ok result ∧
      result.Traded setup ticks ((⟨setup.brickSize, #[], none⟩ : Chart α).history
        (Schedule.feedings schedule ticks)) := by
  obtain ⟨result, ended, traded, -⟩ := exists_result validSize validCharge permitted ticks
  exact ⟨result, ended, traded⟩

/-- **Backtests trade their runs.** With valid settings and a schedule, or none, a backtest of any
ticks ends, and its positions are those of the runs of its turns. -/
theorem backtest_traded (setup : BacktestSetup Float) (schedule : Option (Schedule Float))
    (ticks : List (Tick Float)) (validSize : validBrickSize setup.brickSize = true)
    (validCharge : validSlippage setup.slippage = true)
    (built : ∀ table ∈ schedule, ∃ entries, Schedule.ofEntries entries = .ok table) :
    ∃ result, backtest setup schedule ticks = .ok result ∧
      result.Traded setup ticks ((⟨setup.brickSize, #[], none⟩ : Chart Float).history
        (Schedule.feedings schedule ticks)) := by
  refine exists_traded validSize validCharge ?_ ticks
  intro time size inForce
  obtain ⟨table, chosen, sized⟩ := Option.bind_eq_some_iff.mp inForce
  obtain ⟨entries, ofEntries⟩ := built table chosen
  exact Schedule.valid_of_sizeAt ofEntries sized

/-- A rise over two ticks, a fall, and a rise at the scheduled half of the size. -/
theorem backtest_traded_with_reversals :
    let setup : BacktestSetup Float := ⟨"TEST", 1, 0.25, true⟩
    let table : Schedule Float := ⟨[⟨.ofMillis 3, 0.5⟩]⟩
    let tick (ms : Int) (price : Float) : Tick Float := ⟨.ofMillis ms, price, 1⟩
    let ticks := [tick 0 100, tick 1 102.5, tick 2 103.125, tick 3 101.5, tick 4 103, tick 5 103.25]
    let past := (⟨setup.brickSize, #[], none⟩ : Chart Float).history
      (Schedule.feedings (some table) ticks)
    validBrickSize setup.brickSize = true ∧ validSlippage setup.slippage = true ∧
      (∀ scheduled ∈ some table, ∃ entries, Schedule.ofEntries entries = .ok scheduled) ∧
      (runs (turns past)).map List.length = [2, 1, 1] ∧
      ∃ result, backtest setup (some table) ticks = .ok result ∧
        result.Traded setup ticks past := by
  intro setup table tick ticks past
  have validSize : validBrickSize setup.brickSize = true := by decide +kernel
  have validCharge : validSlippage setup.slippage = true := by decide +kernel
  have built : ∀ scheduled ∈ some table,
      ∃ entries, Schedule.ofEntries entries = .ok scheduled := by
    intro scheduled chosen
    obtain rfl := Option.some.inj chosen
    refine ⟨table.entries, Schedule.ofEntries_eq_ok.mpr ⟨by decide +kernel, ?_⟩⟩
    rw [List.mergeSort_singleton]
  exact ⟨validSize, validCharge, built, by decide +kernel,
    backtest_traded setup (some table) ticks validSize validCharge built⟩

end Renko
