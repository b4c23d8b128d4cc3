import Mathlib
import Renko.Proofs.Backtest.Charted
import Renko.Proofs.Backtest.Dates
import Renko.Proofs.Chart.Unique
import Renko.Proofs.Config
import Renko.Proofs.Desk
import Renko.Proofs.Tick.Filter

/-! # What is reported

The two runs of a desk agree with each other, and their reports are in the order of time.
-/

/-! ## Both runs of a desk agree

A run that reports bricks and a run that reports positions, over the same sources and one
configuration, fail with the same fault or both succeed, and then the bricks reported are those of
the backtest (`Renko.Desk.reports_agree`).
-/

namespace Renko.Desk

open Outcome

/-- What a delivery has of bricks, with their path. -/
def Delivery.bricks? : Delivery → Option (String × List (Brick Float))
  | .bricks path rows => some (path, rows)
  | _ => none

/-- The bricks of a backtest as they are reported: all of them, or those before the provisional one
without the ones whose upper line is that of the brick kept last. -/
def reportedBricks (result : BacktestResult Float) (unique : Bool) : List (Brick Float) :=
  if unique then result.bricks.dropLast.destutter Brick.Differs else result.bricks

/-- How a run on bricks, with repeats and without, agrees with a backtest. -/
structure Agree (report : String) (charted : Bool → Except Fault Nat × List Delivery)
    (traded : Except Fault (BacktestResult Float) × List Delivery) : Prop where
  fails : ∀ unique fault, (charted unique).1 = .error fault ↔ traded.1 = .error fault
  reports : ∀ result, traded.1 = .ok result → ∀ unique,
    (charted unique).1 = .ok (reportedBricks result unique).length ∧
      (charted unique).2.filterMap Delivery.bricks? = [(report, reportedBricks result unique)]

variable {report : String} {charted : Bool → Except Fault Nat × List Delivery}
  {traded : Except Fault (BacktestResult Float) × List Delivery}

private theorem agree_of_fault {cause : Fault}
    (failsCharted : ∀ unique, (charted unique).1 = .error cause)
    (failsTraded : traded.1 = .error cause) : Agree report charted traded := by
  constructor
  · intro unique fault
    rw [failsCharted, failsTraded, Except.error.injEq, Except.error.injEq]
  · intro result succeeds
    cases failsTraded.symm.trans succeeds

private theorem agree_of_result {result : BacktestResult Float} {warned : List Delivery}
    (warnings : ∀ delivery ∈ warned, ∃ count total, delivery = .rejected count total)
    (succeedsCharted : ∀ unique, charted unique =
      (.ok (reportedBricks result unique).length,
        (.bricks report (reportedBricks result unique) :: warned).reverse))
    (succeedsTraded : traded.1 = .ok result) : Agree report charted traded := by
  constructor
  · intro unique fault
    rw [succeedsCharted, succeedsTraded]
    exact iff_of_false (fun same => nomatch same) fun same => nomatch same
  · intro other succeeds unique
    obtain rfl := Except.ok.inj (succeedsTraded.symm.trans succeeds)
    have reported : (Delivery.bricks report (reportedBricks result unique)).bricks? =
        some (report, reportedBricks result unique) := rfl
    rw [succeedsCharted]
    exact ⟨rfl, filterMap_of_warnings reported (fun _ _ => rfl) warnings⟩

/-- The bricks of a chart are reported as those of a backtest that has them. -/
theorem reportedBricks_of_chart {size : Float} {schedule : Option (Schedule Float)}
    {ticks : List (Tick Float)} {chart : Chart Float} {result : BacktestResult Float}
    (fed : Chart.ofScheduled size schedule ticks = .ok chart)
    (same : result.bricks = chart.bricks) (unique : Bool) :
    (if unique then chart.unique else chart.bricks) = reportedBricks result unique := by
  obtain ⟨past, grown, -⟩ := Chart.exists_grown_of_scheduled fed
  rw [reportedBricks, same, grown.dropLast_bricks, Chart.unique_eq_destutter]

section

variable {ticks : String → Except Fault (List (Tick Float))}
  {schedule : String → Except Fault (Schedule Float)} {ini : Ini} {setup : BacktestSetup Float}
  {source : String} {kept : List Delivery}

private theorem agree_of_unread {cause : Fault}
    (read : answer ((recorded ticks schedule).inputs ini source) [] = (.error cause, kept))
    (positionsReport : String) :
    Agree report
      (fun unique => ((recorded ticks schedule).reportBricks ini source report unique).perform)
      ((recorded ticks schedule).reportBacktest ini setup source positionsReport).perform := by
  simp only [Recorded.perform_eq, reportBricks_eq, reportBacktest_eq,
    answer_bind_of_error read]
  exact agree_of_fault (fun _ => rfl) rfl

/-- Once both runs have read the same, they go the same way. -/
theorem agree_of_read {inputs : List (Tick Float) × Option (Schedule Float)}
    (read : answer ((recorded ticks schedule).inputs ini source) [] = (.ok inputs, kept))
    (warnings : ∀ delivery ∈ kept, ∃ count total, delivery = .rejected count total)
    (sized : Config.brickSize ini = .ok setup.brickSize)
    (validCharge : validSlippage setup.slippage = true) (positionsReport : String) :
    Agree report
      (fun unique => ((recorded ticks schedule).reportBricks ini source report unique).perform)
      ((recorded ticks schedule).reportBacktest ini setup source positionsReport).perform := by
  have sizes := answer_settle (Config.brickSize ini) kept
  rw [sized] at sizes
  simp only [Recorded.perform_eq, reportBricks_eq, reportBacktest_eq,
    answer_bind_of_ok read, sized, answer_bind_of_ok sizes]
  have bricks := bricks_backtest validCharge inputs.2 inputs.1
  cases fed : Chart.ofScheduled setup.brickSize inputs.2 inputs.1 with
  | error cause =>
      rw [fed] at bricks
      have refused := Outcome.map_eq_error.mp bricks
      have stops (β : Type) : answer (trade (.error cause) : Recorded β) kept =
          (.error (.trade cause), kept) := answer_trade (.error cause) kept
      simp only [refused, answer_bind_of_error (stops _)]
      exact agree_of_fault (fun _ => rfl) rfl
  | ok chart =>
      rw [fed] at bricks
      obtain ⟨result, ended, same⟩ := Outcome.map_eq_ok.mp bricks
      have goesOn {β : Type} (value : β) : answer (trade (.ok value)) kept =
          (.ok value, kept) := answer_trade (.ok value) kept
      simp only [ended, answer_bind_of_ok (goesOn chart),
        answer_bind_of_ok (goesOn result), reportedBricks_of_chart fed same]
      exact agree_of_result warnings (fun _ => rfl) rfl

end

/-- **Both runs of a desk agree.** For any sources, and settings that a backtest can be set up with,
the run on bricks fails exactly when the backtest does, with the same fault, and otherwise reports
the bricks of the backtest, once. -/
theorem reports_agree (ticks : String → Except Fault (List (Tick Float)))
    (schedule : String → Except Fault (Schedule Float)) {ini : Ini} {override : Option Float}
    {setup : BacktestSetup Float}
    (configured : Config.backtestSetup ini override = .ok setup)
    (source report positionsReport : String) :
    Agree report
      (fun unique => ((recorded ticks schedule).reportBricks ini source report unique).perform)
      ((recorded ticks schedule).reportBacktest ini setup source positionsReport).perform := by
  obtain ⟨sized, validCharge⟩ := Config.checked_of_backtestSetup configured
  obtain ⟨warned, delivered, warnings⟩ := warns_inputs ticks schedule ini source []
  cases read : answer ((recorded ticks schedule).inputs ini source) [] with
  | mk result kept =>
      rw [read, List.append_nil] at delivered
      obtain rfl := delivered
      cases result with
      | error cause => exact agree_of_unread read positionsReport
      | ok inputs => exact agree_of_read read warnings sized validCharge positionsReport

/-- A rise and a fall, whose bricks have one upper line, and a tick that is rejected. -/
theorem reports_agree_on_reversal :
    let ini : Ini := ⟨[⟨"range", "brick_size", some "1"⟩, ⟨"backtest", "slippage", some "0.25"⟩]⟩
    let setup : BacktestSetup Float := ⟨"UNKNOWN", 1, 0.25, true⟩
    let tick (ms : Int) (price : Float) : Tick Float := ⟨.ofMillis ms, price, 1⟩
    let ticks (source : String) : Except Fault (List (Tick Float)) :=
      if source = "prices" then .ok [tick 0 90, tick 1 100, tick 2 101.25, tick 3 99.75]
      else .error (.tickData "no prices")
    let schedule (_ : String) : Except Fault (Schedule Float) := .error (.tickData "no sizes")
    let charted (source : String) (unique : Bool) :=
      ((recorded ticks schedule).reportBricks ini source "bricks" unique).perform
    let traded (source : String) :=
      ((recorded ticks schedule).reportBacktest ini setup source "positions").perform
    Config.backtestSetup ini none = .ok setup ∧
      (charted "prices" false).1.toOption = some 3 ∧ (charted "prices" true).1.toOption = some 1 ∧
      (charted "nothing" true).1.toOption = none ∧
      Agree "bricks" (charted "prices") (traded "prices") ∧
      Agree "bricks" (charted "nothing") (traded "nothing") := by
  intro ini setup tick ticks schedule charted traded
  have configured : Config.backtestSetup ini none = .ok setup := rfl
  exact ⟨configured, by decide +kernel, by decide +kernel, by decide +kernel,
    reports_agree ticks schedule configured "prices" "bricks" "positions",
    reports_agree ticks schedule configured "nothing" "bricks" "positions"⟩

end Renko.Desk

/-! ## Reports are in the order of time

However a source orders its ticks, a chart sees those that the filter keeps, and they are in the
order of time. So the bricks of a report are stamped in that order, and the positions of a report
are dated in that order, each with the time of a tick that was kept (`Renko.Desk.reports_in_time`).
-/

namespace Renko.Desk

open Outcome Recorded

variable {ticks : String → Except Fault (List (Tick Float))}
  {schedule : String → Except Fault (Schedule Float)} {ini : Ini} {source : String}
  {inputs : List (Tick Float) × Option (Schedule Float)} {kept later : List Delivery}

/-- What a delivery has of positions, with their path. -/
def Delivery.positions? : Delivery → Option (String × List (Position Float))
  | .positions path rows => some (path, rows)
  | _ => none

/-- What a run reads of ticks are those of its source that the filter keeps. -/
theorem exists_ticks_of_inputs
    (read : answer ((recorded ticks schedule).inputs ini source) kept = (.ok inputs, later)) :
    ∃ all, ticks source = .ok all ∧ inputs.1 = (TickFilter.fresh.filterAll all).1 := by
  obtain ⟨admitted, middle, reads, goesOn⟩ := exists_of_answer_bind read
  obtain ⟨table, last, -, ends⟩ := exists_of_answer_bind goesOn
  obtain ⟨all, first, fetched, -⟩ := exists_of_answer_bind reads
  obtain rfl := Except.ok.inj (congrArg Prod.fst ends)
  have found : ticks source = .ok all :=
    congrArg Prod.fst ((answer_settle (ticks source) kept).symm.trans fetched)
  obtain ⟨_, admits⟩ := exists_answer_admittedTicks found kept
  exact ⟨all, found, Except.ok.inj (congrArg Prod.fst (reads.symm.trans admits))⟩

/-- Reading has delivered nothing but warnings. -/
theorem warnings_of_inputs
    (read : answer ((recorded ticks schedule).inputs ini source) [] = (.ok inputs, later)) :
    ∀ delivery ∈ later, ∃ count total, delivery = .rejected count total := by
  obtain ⟨warned, delivered, warnings⟩ := warns_inputs ticks schedule ini source []
  rw [List.append_nil] at delivered
  have same : later = warned := (congrArg Prod.snd read).symm.trans delivered
  exact same ▸ warnings

variable {path : String} {deliveries : List Delivery}

/-- A run on bricks that succeeds reports bricks in the order of time, stamped by ticks that are
kept. -/
theorem dated_reportBricks {unique : Bool} {count : Nat}
    (ran : ((recorded ticks schedule).reportBricks ini source path unique).perform =
      (.ok count, deliveries)) :
    ∃ all rows, ticks source = .ok all ∧
      deliveries.filterMap Delivery.bricks? = [(path, rows)] ∧
      Dated (TickFilter.fresh.filterAll all).1 (rows.map (·.time)) := by
  have ended := answer_of_perform ran
  rw [reportBricks_eq] at ended
  obtain ⟨inputs, _, read, sizes⟩ := exists_of_answer_bind ended
  obtain ⟨size, _, settled, charts⟩ := exists_of_answer_bind sizes
  obtain ⟨chart, warned, traded, writes⟩ := exists_of_answer_bind charts
  obtain ⟨-, rfl⟩ := eq_of_settled settled
  obtain ⟨charted, rfl⟩ := eq_of_traded traded
  obtain ⟨all, found, filtered⟩ := exists_ticks_of_inputs read
  rw [filtered] at charted
  have dated := Chart.dated_of_scheduled charted (TickFilter.fresh.pairwise_kept all)
  let rows := if unique then chart.unique else chart.bricks
  have delivered : Delivery.bricks path rows :: warned = deliveries.reverse :=
    congrArg Prod.snd writes
  have reported : (Delivery.bricks path rows).bricks? = some (path, rows) := rfl
  refine ⟨all, rows, found, ?_, ?_⟩
  · rw [← List.reverse_reverse deliveries, ← delivered]
    exact filterMap_of_warnings reported (fun _ _ => rfl) (warnings_of_inputs read)
  · cases unique with
    | true => exact dated.sublist (chart.unique_sublist_bricks.map _)
    | false => exact dated

/-- A run on positions that succeeds reports positions in the order of time, dated by ticks that are
kept. -/
theorem dated_reportBacktest {setup : BacktestSetup Float} {result : BacktestResult Float}
    (ran : ((recorded ticks schedule).reportBacktest ini setup source path).perform =
      (.ok result, deliveries)) :
    ∃ all, ticks source = .ok all ∧
      deliveries.filterMap Delivery.positions? = [(path, result.positions)] ∧
      Dated (TickFilter.fresh.filterAll all).1 (result.positions.map (·.date)) := by
  have ended := answer_of_perform ran
  rw [reportBacktest_eq] at ended
  obtain ⟨inputs, _, read, runs⟩ := exists_of_answer_bind ended
  obtain ⟨left, warned, traded, writes⟩ := exists_of_answer_bind runs
  obtain ⟨ends, rfl⟩ := eq_of_traded traded
  obtain rfl := Except.ok.inj (congrArg Prod.fst writes)
  obtain ⟨all, found, filtered⟩ := exists_ticks_of_inputs read
  rw [filtered] at ends
  obtain ⟨dated, among⟩ := dated_of_backtest ends (TickFilter.fresh.pairwise_kept all)
  have delivered : Delivery.positions path left.positions :: warned = deliveries.reverse :=
    congrArg Prod.snd writes
  have reported : (Delivery.positions path left.positions).positions? =
      some (path, left.positions) := rfl
  refine ⟨all, found, ?_, dated.sublist among⟩
  rw [← List.reverse_reverse deliveries, ← delivered]
  exact filterMap_of_warnings reported (fun _ _ => rfl) (warnings_of_inputs read)

/-- **Reports are in the order of time.** Whatever the sources answer, and whatever is configured, a
run that succeeds reports bricks whose times, or positions whose dates, never go back, and each of
them is the time of a tick of its source that the filter keeps. -/
theorem reports_in_time (ticks : String → Except Fault (List (Tick Float)))
    (schedule : String → Except Fault (Schedule Float)) (ini : Ini) (source path : String) :
    (∀ unique count deliveries,
      ((recorded ticks schedule).reportBricks ini source path unique).perform =
        (.ok count, deliveries) →
      ∃ all rows, ticks source = .ok all ∧
        deliveries.filterMap Delivery.bricks? = [(path, rows)] ∧
        Dated (TickFilter.fresh.filterAll all).1 (rows.map (·.time))) ∧
    ∀ setup result deliveries,
      ((recorded ticks schedule).reportBacktest ini setup source path).perform =
        (.ok result, deliveries) →
      ∃ all, ticks source = .ok all ∧
        deliveries.filterMap Delivery.positions? = [(path, result.positions)] ∧
        Dated (TickFilter.fresh.filterAll all).1 (result.positions.map (·.date)) :=
  ⟨fun _ _ _ ran => dated_reportBricks ran, fun _ _ _ ran => dated_reportBacktest ran⟩

/-- A source with ticks that go back in time, lie at the start of 1970 or have no price. -/
theorem reports_in_time_of_unordered :
    let ini : Ini := ⟨[⟨"range", "brick_size", some "1"⟩, ⟨"range", "schedule", some "sizes"⟩]⟩
    let setup : BacktestSetup Float := ⟨"TEST", 1, 0.25, true⟩
    let tick (ms : Int) (price : Float) : Tick Float := ⟨.ofMillis ms, price, 1⟩
    let all := [tick 2000 100, tick 1000 99, tick 3000 101.25, tick 0 90, tick 5000 (0 / 0),
      tick 4000 99.75]
    let desk := recorded (fun _ => .ok all) fun _ => .ok ⟨[⟨.ofMillis 3000, 0.5⟩]⟩
    let kept := (TickFilter.fresh.filterAll all).1
    kept.map (·.time.millis) = [2000, 3000, 4000] ∧
      (∃ deliveries,
        (desk.reportBricks ini "prices" "bricks" true).perform = (.ok 2, deliveries) ∧
        ∃ rows, deliveries.filterMap Delivery.bricks? = [("bricks", rows)] ∧
          Dated kept (rows.map (·.time))) ∧
      ∃ result deliveries,
        (desk.reportBacktest ini setup "prices" "positions").perform = (.ok result, deliveries) ∧
        deliveries.filterMap Delivery.positions? = [("positions", result.positions)] ∧
        result.positions.map (·.date.millis) = [2000, 4000] ∧
        Dated kept (result.positions.map (·.date)) := by
  intro ini setup tick all desk kept
  have sized : (desk.reportBricks ini "prices" "bricks" true).perform.1.toOption = some 2 := by
    decide +kernel
  have traded : ((desk.reportBacktest ini setup "prices" "positions").perform.1.toOption.map
      fun result => result.positions.map (·.date.millis)) = some [2000, 4000] := by
    decide +kernel
  obtain ⟨deliveries, ran⟩ := exists_of_toOption sized
  obtain ⟨_, rows, found, reported, dated⟩ :=
    (reports_in_time _ _ ini "prices" "bricks").1 true 2 deliveries ran
  obtain rfl := Except.ok.inj found
  obtain ⟨result, ended, dates⟩ := Option.map_eq_some_iff.mp traded
  obtain ⟨later, went⟩ := exists_of_toOption ended
  obtain ⟨_, same, positions, datedToo⟩ :=
    (reports_in_time _ _ ini "prices" "positions").2 setup result later went
  obtain rfl := Except.ok.inj same
  exact ⟨by decide +kernel, ⟨deliveries, ran, rows, reported, dated⟩,
    result, later, went, positions, dates, datedToo⟩

end Renko.Desk
