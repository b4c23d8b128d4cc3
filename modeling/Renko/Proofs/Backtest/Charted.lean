import Mathlib
import Renko.Proofs.Backtest.Driver
import Renko.Proofs.Scalar

/-! # How backtests end

A backtest reports the bricks of a chart that is only fed, and fails for invalid settings alone.
-/

/-! ## Backtests leave their charts alone

A backtest shows its ticks to a chart and trades on what the chart makes of them. Trading does
nothing to the chart, and it never fails, so a backtest reports the bricks of a chart that is only
fed, and fails as it does (`Renko.bricks_backtest`). This holds of any schedule, also of one whose
sizes are refused.
-/

namespace Renko

variable {α : Type} [Scalar α] [Scalar.Directed α]

/-- Fed at the sizes of a schedule, a chart grows by the ticks. -/
theorem Chart.Grown.exists_of_foldlM {schedule : Option (Schedule α)} {ticks : List (Tick α)}
    {first chart : Chart α} {past : List (Taken α)} (grown : first.Grown past)
    (fed : ticks.foldlM (fun chart tick => return (← feedScheduled schedule chart tick).1) first =
      .ok chart) : ∃ later, chart.Grown (past ++ later) ∧ later.map (·.tick) = ticks := by
  induction ticks generalizing first past with
  | nil =>
      obtain rfl := Except.ok.inj fed
      exact ⟨[], (List.append_nil past).symm ▸ grown, rfl⟩
  | cons tick ticks inductionHypothesis =>
      rw [List.foldlM_cons] at fed
      obtain ⟨next, took, rest⟩ := Outcome.bind_eq_ok.mp fed
      obtain ⟨answer, accepted, same⟩ := Outcome.bind_eq_ok.mp took
      obtain rfl := Except.ok.inj same
      obtain ⟨later, grows, ticked⟩ :=
        inductionHypothesis (grown.step (grown.step_of_feed accepted)) rest
      rw [List.append_assoc] at grows
      exact ⟨_, grows, congrArg (List.cons tick) ticked⟩

/-- The chart of a tick series under a schedule grows by its ticks, all of them and in order. -/
theorem Chart.exists_grown_of_scheduled {size : α} {schedule : Option (Schedule α)}
    {ticks : List (Tick α)} {chart : Chart α}
    (charted : ofScheduled size schedule ticks = .ok chart) :
    ∃ past, chart.Grown past ∧ past.map (·.tick) = ticks := by
  obtain ⟨first, started, fed⟩ := Outcome.bind_eq_ok.mp charted
  obtain ⟨valid, rfl⟩ := start_eq_ok.mp started
  exact (Grown.empty valid).exists_of_foldlM fed

omit [Scalar.Directed α] in
/-- Ticks have a chart if no size is invalid. -/
theorem Chart.exists_ofScheduled {size : α} {schedule : Option (Schedule α)}
    (valid : validBrickSize size = true)
    (permitted : ∀ time, ∀ size ∈ schedule.bind (·.sizeAt time), validBrickSize size = true)
    (ticks : List (Tick α)) : ∃ chart, ofScheduled size schedule ticks = .ok chart := by
  rw [ofScheduled, start_eq_ok.mpr ⟨valid, rfl⟩]
  change ∃ chart, ticks.foldlM _ _ = Except.ok chart
  generalize (⟨size, #[], none⟩ : Chart α) = first
  induction ticks generalizing first with
  | nil => exact ⟨first, rfl⟩
  | cons tick ticks inductionHypothesis =>
      obtain ⟨answer, accepted⟩ : ∃ answer, feedScheduled schedule first tick = .ok answer :=
        ⟨_, feed_eq_ok.mpr ⟨permitted tick.time, rfl⟩⟩
      rw [List.foldlM_cons, accepted]
      exact inductionHypothesis answer.1

namespace Session

variable {slippage : α} {session next : Session α} {past : List (Taken α)}

/-- A tick does to the chart of a run what it does to the chart alone. -/
theorem Follows.chart_take (follows : Follows slippage session past)
    (schedule : Option (Schedule α)) (tick : Tick α) :
    chart <$> session.take schedule tick =
      (Chart.feedScheduled schedule session.chart tick >>= fun fed => pure fed.1) := by
  rw [take_eq]
  cases fed : Chart.feedScheduled schedule session.chart tick with
  | error fault => rfl
  | ok answer =>
      obtain ⟨book, traded, -⟩ := follows.tradeOn (follows.grown.step_of_feed fed)
      change chart <$> Session.tradeOn session.book answer.1 answer.2 = Except.ok answer.1
      rw [traded]
      rfl

/-- A run that takes a tick is in step afterwards. -/
theorem Follows.of_take (follows : Follows slippage session past) {schedule : Option (Schedule α)}
    {tick : Tick α} (took : session.take schedule tick = .ok next) :
    ∃ count, Follows slippage next (past ++ [⟨tick, count, next.chart⟩]) := by
  obtain ⟨count, requests, fed, -⟩ := exists_requests_of_take took
  obtain ⟨book, traded, inStep⟩ := follows.tradeOn (follows.grown.step_of_feed fed)
  rw [take_eq, fed] at took
  have same := Except.ok.inj (traded.symm.trans took)
  exact ⟨count, same ▸ inStep⟩

/-- **A run does to its chart what feeding does**, and is in step with the ticks at its end. -/
theorem Follows.chart_foldlM_take (follows : Follows slippage session past)
    (schedule : Option (Schedule α)) (ticks : List (Tick α)) :
    chart <$> ticks.foldlM (Session.take schedule) session =
        ticks.foldlM (fun chart tick => return (← Chart.feedScheduled schedule chart tick).1)
          session.chart ∧
      ∀ final, ticks.foldlM (Session.take schedule) session = .ok final →
        ∃ later, Follows slippage final (past ++ later) ∧ later.map (·.tick) = ticks := by
  induction ticks generalizing session past with
  | nil =>
      refine ⟨rfl, fun final same => ?_⟩
      obtain rfl := Except.ok.inj same
      exact ⟨[], (List.append_nil past).symm ▸ follows, rfl⟩
  | cons tick ticks inductionHypothesis =>
      have alike := follows.chart_take schedule tick
      rw [List.foldlM_cons, List.foldlM_cons, ← alike]
      cases took : session.take schedule tick with
      | error fault => exact ⟨rfl, fun final same => nomatch same⟩
      | ok next =>
          obtain ⟨count, inStep⟩ := follows.of_take took
          obtain ⟨fed, atEnd⟩ := inductionHypothesis inStep
          refine ⟨fed, fun final goesOn => ?_⟩
          obtain ⟨later, follows, ticked⟩ := atEnd final goesOn
          rw [List.append_assoc] at follows
          exact ⟨_, follows, congrArg (List.cons tick) ticked⟩

omit [Scalar.Directed α] in
/-- A run that is in step can end, and its chart stays as it is. -/
theorem Follows.exists_final (follows : Follows slippage session past) (closeAtEnd : Bool) :
    ∃ final, (if closeAtEnd then session.close else pure session) = .ok final ∧
      final.chart = session.chart := by
  cases closeAtEnd with
  | false => exact ⟨session, rfl, rfl⟩
  | true =>
      obtain ⟨closed, closes, same, -⟩ := follows.close
      exact ⟨closed, closes, same⟩

end Session

/-- **The bricks of a backtest are those of its ticks.** With a valid slippage a backtest reports
the bricks of the chart of its ticks, and if there is no such chart it fails with the same fault. -/
theorem bricks_backtest {setup : BacktestSetup α}
    (validCharge : validSlippage setup.slippage = true) (schedule : Option (Schedule α))
    (ticks : List (Tick α)) :
    BacktestResult.bricks <$> backtest setup schedule ticks =
      Chart.bricks <$> Chart.ofScheduled setup.brickSize schedule ticks := by
  by_cases validSize : validBrickSize setup.brickSize = true
  · obtain ⟨alike, inStep⟩ := (Session.follows_of_start validSize setup.slippage).chart_foldlM_take
      schedule ticks
    rw [Chart.ofScheduled, Chart.start_eq_ok.mpr ⟨validSize, rfl⟩, backtest_eq,
      Session.start_eq_ok.mpr ⟨validSize, validCharge, rfl⟩]
    change BacktestResult.bricks <$> (ticks.foldlM (Session.take schedule) _ >>= _) =
      Chart.bricks <$> ticks.foldlM _ _
    rw [← alike]
    cases took : ticks.foldlM (Session.take schedule)
        ⟨⟨setup.brickSize, #[], none⟩, ⟨setup.slippage, #[], #[], none⟩⟩ with
    | error fault => rfl
    | ok session =>
        obtain ⟨past, follows, -⟩ := inStep session took
        obtain ⟨final, ends, same⟩ := follows.exists_final setup.closeAtEnd
        change BacktestResult.bricks <$>
          ((if setup.closeAtEnd then session.close else pure session) >>= _) = _
        rw [ends]
        exact congrArg (fun chart : Chart α => Except.ok chart.bricks) same
  · rw [backtest_of_invalid_size setup validSize, Chart.ofScheduled, Chart.start, checkBrickSize,
      if_neg validSize]
    rfl

end Renko

/-! ## What backtests refuse

A backtest refuses an invalid brick size and an invalid slippage, and nothing else
(`Renko.backtest_faults`). What may fail within a run does not: no size that a schedule puts in
force is refused, a position is opened only when none is open and closed only when one is, both
after a brick has been seen, and the bricks that a tick counts have been completed.
-/

namespace Renko

/-- What settings are refused for: the brick size is looked at before the slippage. -/
def BacktestSetup.fault? (setup : BacktestSetup Float) : Option (TradeFault Float) :=
  if ¬(setup.brickSize.isFinite = true ∧ 0 < setup.brickSize) then
    some (.invalidBrickSize setup.brickSize)
  else if ¬(setup.slippage.isFinite = true ∧ 0 ≤ setup.slippage) then
    some (.invalidSlippage setup.slippage)
  else none

namespace BacktestSetup

variable {setup : BacktestSetup Float}

private theorem fault?_of_invalid_size (invalid : validBrickSize setup.brickSize ≠ true) :
    setup.fault? = some (.invalidBrickSize setup.brickSize) :=
  if_pos (mt validBrickSize_iff.mpr invalid)

private theorem fault?_of_invalid_slippage (valid : validBrickSize setup.brickSize = true)
    (invalid : validSlippage setup.slippage ≠ true) :
    setup.fault? = some (.invalidSlippage setup.slippage) := by
  rw [fault?, if_neg (not_not_intro (validBrickSize_iff.mp valid)),
    if_pos (mt validSlippage_iff.mpr invalid)]

private theorem fault?_of_valid (validSize : validBrickSize setup.brickSize = true)
    (validCharge : validSlippage setup.slippage = true) : setup.fault? = none := by
  rw [fault?, if_neg (not_not_intro (validBrickSize_iff.mp validSize)),
    if_neg (not_not_intro (validSlippage_iff.mp validCharge))]

end BacktestSetup

/-- A run takes a tick: its chart is fed at the scheduled size, the bricks counted have been
completed, and nothing fails on them. -/
structure Session.Takes {α : Type} [Scalar α] (schedule : Option (Schedule α))
    (session : Session α) (tick : Tick α) : Prop where
  fed : ∃ next count, Chart.feedScheduled schedule session.chart tick = .ok (next, count) ∧
    count ≤ next.completed.size
  goesOn : ∃ next, session.take schedule tick = .ok next

variable {α : Type} [Scalar α] [Scalar.Directed α]

/-- Where the sizes in force are valid, a run that follows its turns takes any tick. -/
theorem Session.Follows.takes {slippage : α} {session : Session α} {past : List (Taken α)}
    (follows : Follows slippage session past) {schedule : Option (Schedule α)}
    (permitted : ∀ time, ∀ size ∈ schedule.bind (·.sizeAt time), validBrickSize size = true)
    (tick : Tick α) : session.Takes schedule tick := by
  obtain ⟨next, count, accepted⟩ : ∃ next count, session.chart.feed tick
      (schedule.bind (·.sizeAt tick.time)) = .ok (next, count) :=
    ⟨_, _, Chart.feed_eq_ok.mpr ⟨permitted tick.time, rfl⟩⟩
  have grows := (follows.grown.step_of_feed accepted).appended.grows
  obtain ⟨book, took, -⟩ := follows.take accepted
  exact ⟨⟨next, count, accepted, by omega⟩, ⟨_, took⟩⟩

/-- With valid settings every tick is taken, whatever ticks were taken before it. -/
theorem exists_takes {setup : BacktestSetup α} {schedule : Option (Schedule α)}
    (validSize : validBrickSize setup.brickSize = true)
    (validCharge : validSlippage setup.slippage = true)
    (permitted : ∀ time, ∀ size ∈ schedule.bind (·.sizeAt time), validBrickSize size = true)
    (earlier : List (Tick α)) (tick : Tick α) :
    ∃ first session, Session.start setup = .ok first ∧
      earlier.foldlM (Session.take schedule) first = .ok session ∧
      session.Takes schedule tick := by
  obtain ⟨book, took, follows⟩ :=
    (Session.follows_of_start validSize setup.slippage).foldlM_take permitted earlier
  exact ⟨_, _, Session.start_eq_ok.mpr ⟨validSize, validCharge, rfl⟩, took,
    follows.takes permitted tick⟩

/-- Settings alone decide whether a backtest ends with a fault, and with which. If they have none,
each of the ticks is taken after those before it. -/
structure BacktestSetup.Decides (setup : BacktestSetup Float) (schedule : Option (Schedule Float))
    (ticks : List (Tick Float)) : Prop where
  fails : ∀ fault, backtest setup schedule ticks = .error fault ↔ setup.fault? = some fault
  succeeds : (∃ result, backtest setup schedule ticks = .ok result) ↔ setup.fault? = none
  takes : setup.fault? = none → ∀ earlier tick later, ticks = earlier ++ tick :: later →
    ∃ first session, Session.start setup = .ok first ∧
      earlier.foldlM (Session.take schedule) first = .ok session ∧ session.Takes schedule tick

private theorem BacktestSetup.decides_of_fault {setup : BacktestSetup Float}
    {schedule : Option (Schedule Float)} {ticks : List (Tick Float)} {cause : TradeFault Float}
    (ended : backtest setup schedule ticks = .error cause) (known : setup.fault? = some cause) :
    setup.Decides schedule ticks := by
  refine ⟨fun fault => ?_, iff_of_false ?_ ?_, ?_⟩
  · rw [ended, known, Except.error.injEq, Option.some.injEq]
  · rw [ended]
    exact fun ⟨_, same⟩ => nomatch same
  · rw [known]
    exact Option.some_ne_none cause
  · rw [known]
    exact fun same => nomatch same

/-- **Backtests refuse invalid settings, and nothing else.** With a schedule or none, a backtest of
any ticks ends with the fault of its settings, and with a result if they have none. -/
theorem backtest_faults (setup : BacktestSetup Float) (schedule : Option (Schedule Float))
    (ticks : List (Tick Float))
    (built : ∀ table ∈ schedule, ∃ entries, Schedule.ofEntries entries = .ok table) :
    setup.Decides schedule ticks := by
  have permitted := Schedule.valid_of_built built
  by_cases validSize : validBrickSize setup.brickSize = true
  · by_cases validCharge : validSlippage setup.slippage = true
    · have faultless := BacktestSetup.fault?_of_valid validSize validCharge
      obtain ⟨result, ended, -⟩ := exists_result validSize validCharge permitted ticks
      refine ⟨fun fault => iff_of_false ?_ ?_, iff_of_true ⟨result, ended⟩ faultless,
        fun _ earlier tick later _ => exists_takes validSize validCharge permitted earlier tick⟩
      · rw [ended]
        exact fun same => nomatch same
      · rw [faultless]
        exact fun same => nomatch same
    · exact BacktestSetup.decides_of_fault
        (backtest_of_invalid_slippage setup validSize validCharge schedule ticks)
        (BacktestSetup.fault?_of_invalid_slippage validSize validCharge)
  · exact BacktestSetup.decides_of_fault (backtest_of_invalid_size setup validSize schedule ticks)
      (BacktestSetup.fault?_of_invalid_size validSize)

/-- An infinite slippage is refused, a finite one is not. -/
theorem backtest_faults_of_infinite_slippage :
    let setup : BacktestSetup Float := ⟨"TEST", 1, 1 / 0, true⟩
    let table : Schedule Float := ⟨[⟨.ofMillis 1, 0.5⟩]⟩
    let tick (ms : Int) (price : Float) : Tick Float := ⟨.ofMillis ms, price, 1⟩
    let ticks := [tick 0 100, tick 2 101.75, tick 3 100.25]
    (∀ scheduled ∈ some table, ∃ entries, Schedule.ofEntries entries = .ok scheduled) ∧
      setup.fault? = some (.invalidSlippage (1 / 0)) ∧
      ({ setup with slippage := 0.25 } : BacktestSetup Float).fault? = none ∧
      setup.Decides (some table) ticks ∧
      ({ setup with slippage := 0.25 } : BacktestSetup Float).Decides (some table) ticks := by
  intro setup table tick ticks
  have built : ∀ scheduled ∈ some table, ∃ entries, Schedule.ofEntries entries = .ok scheduled :=
    Schedule.built_of_ordered (by decide +kernel) (by decide +kernel)
  exact ⟨built, by decide +kernel, by decide +kernel,
    backtest_faults setup (some table) ticks built,
    backtest_faults { setup with slippage := 0.25 } (some table) ticks built⟩

end Renko
