import Mathlib
import Renko.Proofs.Backtest.Driver
import Renko.Proofs.Book
import Renko.Proofs.Chart.Shape

/-! # What a run knows between two ticks

Later ticks leave in place what a run has reported, and its book is coupled to its chart.
-/

/-! ## Backtests do not look ahead

A run knows the ticks it has taken, and of its schedule what is stamped before them. Ticks that come
later leave what has been reported in its place, and entries that come later have no part in it
(`Renko.backtest_without_foresight`). For one tick this is `Renko.Session.Lawful.take`, and for any
number of them `Renko.Session.Lawful.foldlM_take`.
-/

namespace Renko

variable {α : Type}

/-- What is kept of a result when more ticks follow: the completed bricks; of the others the place,
the time and the open; of closed positions everything, and of an open one the place and how it was
opened. -/
structure BacktestResult.Lasts (earlier later : BacktestResult α) : Prop where
  completed : earlier.bricks.filter (!·.isProvisional) <+: later.bricks
  bricks : InPlace Brick.Lasts earlier.bricks later.bricks
  positions : InPlace Position.Lasts earlier.positions later.positions

namespace Session

/-- What a run has to show lasts in a later one. -/
structure Lasts (earlier later : Session α) : Prop where
  bricks : InPlace Brick.Lasts earlier.chart.bricks later.chart.bricks
  positions : earlier.book.Lasts later.book

/-- What a session has reported lasts if nothing happens. -/
theorem Lasts.refl (session : Session α) : session.Lasts session :=
  ⟨.refl Brick.Lasts.refl _, .refl _⟩

/-- What lasts to a session, and from there to another, lasts to the other. -/
theorem Lasts.trans {first second third : Session α} (early : first.Lasts second)
    (late : second.Lasts third) : first.Lasts third :=
  ⟨.trans (@Brick.Lasts.trans α) early.bricks late.bricks, early.positions.trans late.positions⟩

variable [Scalar α]

/-- The chart of a run has grown, and its book has been kept. -/
structure Lawful (slippage : α) (session : Session α) : Prop where
  grown : ∃ past, session.chart.Grown past
  kept : ∃ log, session.book.Kept slippage log

variable {slippage : α} {session next : Session α} {schedule : Option (Schedule α)}

/-- A session starts lawfully. -/
theorem lawful_of_start {setup : BacktestSetup α} {first : Session α}
    (started : start setup = .ok first) : first.Lawful setup.slippage := by
  obtain ⟨validSize, -, rfl⟩ := start_eq_ok.mp started
  exact ⟨⟨[], .empty validSize⟩, ⟨[], .empty⟩⟩

variable [Scalar.Directed α]

/-- **A tick keeps what a run has to show.** -/
theorem Lawful.take (lawful : session.Lawful slippage) {tick : Tick α}
    (took : session.take schedule tick = .ok next) :
    next.Lawful slippage ∧ session.Lasts next := by
  obtain ⟨past, grown⟩ := lawful.grown
  obtain ⟨log, kept⟩ := lawful.kept
  obtain ⟨count, requests, fed, after⟩ := exists_requests_of_take took
  have step := grown.step_of_feed fed
  refine ⟨⟨⟨_, grown.step step⟩, ⟨_, after ▸ kept.after requests⟩⟩, ?_⟩
  exact ⟨step.inPlace grown.provisional, after ▸ kept.lasts requests⟩

/-- So do ticks in a row. -/
theorem Lawful.foldlM_take (lawful : session.Lawful slippage) {ticks : List (Tick α)}
    (took : ticks.foldlM (Session.take schedule) session = .ok next) :
    next.Lawful slippage ∧ session.Lasts next := by
  induction ticks generalizing session with
  | nil =>
      obtain rfl := Except.ok.inj took
      exact ⟨lawful, .refl session⟩
  | cons tick ticks inductionHypothesis =>
      rw [List.foldlM_cons] at took
      obtain ⟨between, first, rest⟩ := Outcome.bind_eq_ok.mp took
      obtain ⟨lawfulBetween, lastsFirst⟩ := lawful.take first
      obtain ⟨lawfulNext, lastsRest⟩ := inductionHypothesis lawfulBetween rest
      exact ⟨lawfulNext, lastsFirst.trans lastsRest⟩

omit [Scalar.Directed α] in
/-- What lasts of a run lasts of its result. -/
theorem Lawful.lasts_result (lawful : session.Lawful slippage) (lasts : session.Lasts next) :
    session.result.Lasts next.result := by
  obtain ⟨past, grown⟩ := lawful.grown
  refine ⟨?_, lasts.bricks, lasts.positions⟩
  change session.chart.bricks.filter _ <+: next.chart.bricks
  rw [grown.filter_bricks]
  exact grown.completed_prefix lasts.bricks

/-- After any tick there is a provisional brick at the end. -/
theorem Lawful.exists_provisional (lawful : session.Lawful slippage) {ticks : List (Tick α)}
    (took : ticks.foldlM (Session.take schedule) session = .ok next) (nonempty : ticks ≠ []) :
    ∃ brick, next.result.bricks.getLast? = some brick ∧ brick.isProvisional = true := by
  obtain ⟨earlier, tick, rfl⟩ := (List.eq_nil_or_concat' ticks).resolve_left nonempty
  obtain ⟨between, tookEarlier, tookLast⟩ := Outcome.foldlM_append_eq_ok.mp took
  obtain ⟨lawfulBetween, -⟩ := lawful.foldlM_take tookEarlier
  rw [List.foldlM_cons] at tookLast
  obtain ⟨final, last, same⟩ := Outcome.bind_eq_ok.mp tookLast
  obtain rfl := Except.ok.inj same
  obtain ⟨past, grown⟩ := lawfulBetween.grown
  obtain ⟨count, requests, fed, -⟩ := exists_requests_of_take last
  have step := grown.step_of_feed fed
  obtain ⟨brick, current, -⟩ := step.exists_current
  refine ⟨brick, ?_, ?_⟩
  · change final.chart.bricks.getLast? = some brick
    rw [Chart.bricks, current, Option.toList_some, List.getLast?_concat]
  · rw [Brick.isProvisional, (grown.step step).provisional brick current]
    rfl

end Session

variable [Scalar α] [Scalar.Directed α]

/-- What a backtest reports it still reports, at the same place, when more ticks follow. -/
theorem exists_lasting {setup : BacktestSetup α} {schedule : Option (Schedule α)}
    (validSize : validBrickSize setup.brickSize = true)
    (validCharge : validSlippage setup.slippage = true) (staysOpen : setup.closeAtEnd = false)
    (built : ∀ table ∈ schedule, ∃ entries, Schedule.ofEntries entries = .ok table)
    (earlier later : List (Tick α)) :
    ∃ one other, backtest setup schedule earlier = .ok one ∧
      backtest setup schedule (earlier ++ later) = .ok other ∧ one.Lasts other ∧
      (earlier ≠ [] →
        ∃ brick, one.bricks.getLast? = some brick ∧ brick.isProvisional = true) := by
  obtain ⟨other, endsOther, -⟩ := exists_result validSize validCharge
    (Schedule.valid_of_built built) (earlier ++ later)
  obtain ⟨first, session, final, starts, took, closed, rfl⟩ := backtest_eq_ok.mp endsOther
  rw [staysOpen, if_neg Bool.false_ne_true] at closed
  obtain rfl := Except.ok.inj closed
  obtain ⟨between, tookEarlier, tookLater⟩ := Outcome.foldlM_append_eq_ok.mp took
  have lawful := Session.lawful_of_start starts
  obtain ⟨lawfulBetween, -⟩ := lawful.foldlM_take tookEarlier
  obtain ⟨-, lasts⟩ := lawfulBetween.foldlM_take tookLater
  have endsOne : backtest setup schedule earlier = .ok between.result := by
    refine backtest_eq_ok.mpr ⟨first, between, between, starts, tookEarlier, ?_, rfl⟩
    rw [staysOpen, if_neg Bool.false_ne_true]
    rfl
  exact ⟨_, _, endsOne, endsOther, lawfulBetween.lasts_result lasts,
    lawful.exists_provisional tookEarlier⟩

omit [Scalar.Directed α] in
/-- Schedules that agree up to the last tick lead to one result. -/
theorem backtest_congr {first second : Option (Schedule α)} {ticks : List (Tick α)}
    (same : ∀ tick ∈ ticks, first.bind (·.sizeAt tick.time) = second.bind (·.sizeAt tick.time))
    (setup : BacktestSetup α) : backtest setup first ticks = backtest setup second ticks := by
  have runs (session : Session α) : ticks.foldlM (Session.take first) session =
      ticks.foldlM (Session.take second) session := by
    induction ticks generalizing session with
    | nil => rfl
    | cons tick ticks inductionHypothesis =>
        obtain ⟨now, later⟩ := List.forall_mem_cons.mp same
        rw [List.foldlM_cons, List.foldlM_cons, Session.take_eq, Session.take_eq,
          Chart.feedScheduled, Chart.feedScheduled, now]
        exact bind_congr (inductionHypothesis later)
  rw [backtest_eq, backtest_eq]
  exact bind_congr fun session => congrArg (· >>= _) (runs session)

/-- **Backtests do not look ahead.** Whatever ticks follow, a backtest that closes nothing at its
end still reports what it reported without them, and its last brick was provisional. Entries of the
schedule that are not stamped before the last tick change nothing. -/
theorem backtest_without_foresight :
    (∀ (setup : BacktestSetup Float) (schedule : Option (Schedule Float))
      (earlier later : List (Tick Float)), validBrickSize setup.brickSize = true →
      validSlippage setup.slippage = true → setup.closeAtEnd = false →
      (∀ table ∈ schedule, ∃ entries, Schedule.ofEntries entries = .ok table) →
      ∃ one other, backtest setup schedule earlier = .ok one ∧
        backtest setup schedule (earlier ++ later) = .ok other ∧ one.Lasts other ∧
        (earlier ≠ [] →
          ∃ brick, one.bricks.getLast? = some brick ∧ brick.isProvisional = true)) ∧
    ∀ (setup : BacktestSetup Float) (first second : Option (Schedule Float)) (bound : Instant)
      (ticks : List (Tick Float)),
      (∀ table ∈ first, ∃ entries, Schedule.ofEntries entries = .ok table) →
      (∀ table ∈ second, ∃ entries, Schedule.ofEntries entries = .ok table) →
      (∀ tick ∈ ticks, tick.time ≤ bound) →
      Schedule.entriesBefore first bound = Schedule.entriesBefore second bound →
      backtest setup first ticks = backtest setup second ticks := by
  constructor
  · intro setup schedule earlier later validSize validCharge staysOpen built
    exact exists_lasting validSize validCharge staysOpen built earlier later
  · intro setup first second bound ticks builtFirst builtSecond early same
    exact backtest_congr
      (fun tick member => Schedule.sizeAt_congr builtFirst builtSecond same (early tick member))
      setup

/-- A position that is open when a fall turns it, and a size that is scheduled for later. -/
theorem backtest_without_foresight_of_fall :
    let setup : BacktestSetup Float := ⟨"TEST", 1, 0.25, false⟩
    let table : Schedule Float := ⟨[⟨.ofMillis 1, 0.5⟩]⟩
    let longer : Schedule Float := ⟨[⟨.ofMillis 1, 0.5⟩, ⟨.ofMillis 3, 2⟩]⟩
    let tick (ms : Int) (price : Float) : Tick Float := ⟨.ofMillis ms, price, 1⟩
    let earlier := [tick 0 100, tick 2 101.75, tick 3 101.25]
    let later := [tick 4 100.5, tick 5 100.25]
    (validBrickSize setup.brickSize = true ∧ validSlippage setup.slippage = true ∧
      (∀ scheduled ∈ some table, ∃ entries, Schedule.ofEntries entries = .ok scheduled) ∧
      earlier ≠ [] ∧
      ∃ one other, backtest setup (some table) earlier = .ok one ∧
        backtest setup (some table) (earlier ++ later) = .ok other ∧ one.Lasts other ∧
        (earlier ≠ [] →
          ∃ brick, one.bricks.getLast? = some brick ∧ brick.isProvisional = true)) ∧
    (∀ scheduled ∈ some longer, ∃ entries, Schedule.ofEntries entries = .ok scheduled) ∧
    (∀ tick ∈ earlier, tick.time ≤ .ofMillis 3) ∧
    Schedule.entriesBefore (some table) (.ofMillis 3) =
      Schedule.entriesBefore (some longer) (.ofMillis 3) ∧
    backtest setup (some table) earlier = backtest setup (some longer) earlier := by
  intro setup table longer tick earlier later
  have validSize : validBrickSize setup.brickSize = true := by decide +kernel
  have validCharge : validSlippage setup.slippage = true := by decide +kernel
  have built : ∀ scheduled ∈ some table, ∃ entries, Schedule.ofEntries entries = .ok scheduled :=
    Schedule.built_of_ordered (by decide +kernel) (by decide +kernel)
  have builtLonger : ∀ scheduled ∈ some longer,
      ∃ entries, Schedule.ofEntries entries = .ok scheduled :=
    Schedule.built_of_ordered (by decide +kernel) (by decide +kernel)
  have early : ∀ tick ∈ earlier, tick.time ≤ .ofMillis 3 := by decide +kernel
  have same : Schedule.entriesBefore (some table) (.ofMillis 3) =
      Schedule.entriesBefore (some longer) (.ofMillis 3) := by decide +kernel
  exact ⟨⟨validSize, validCharge, built, List.cons_ne_nil _ _,
      backtest_without_foresight.1 setup (some table) earlier later validSize validCharge rfl
        built⟩,
    builtLonger, early, same,
    backtest_without_foresight.2 setup (some table) (some longer) (.ofMillis 3) earlier built
      builtLonger early same⟩

end Renko

/-! ## Books are coupled to their charts

Between two ticks the book of a run has seen the bricks that its chart has completed, each once and
in order, and it holds a position on the side that the newest of them asks for, priced at the close
of that brick (`Renko.Session.Coupled`). The newest turn of a history is the newest completed brick
of its chart (`Renko.Chart.Grown.getLast?_turns`), so what holds of a book that follows the turns
can be read off the chart (`Renko.Session.Follows.coupled`). A run starts so, and every tick keeps
it so (`Renko.Session.Follows.take`).
-/

namespace Renko

open Trades

variable {α : Type} [Scalar α]

/-- The newest turn of a chart is its newest completed brick. -/
theorem Chart.Grown.getLast?_turns {chart : Chart α} {past : List (Taken α)}
    (grown : chart.Grown past) : (turns past).getLast? = chart.completed.back? := by
  induction grown with
  | empty valid => rfl
  | @step chart next past tick count before step inductionHypothesis =>
      by_cases completes : count = 0
      · obtain ⟨direction, added, completed, length, -⟩ := step.exists_added
        have nothing : added = [] := List.length_eq_zero_iff.mp (length.trans completes)
        rw [turns_concat_of_absorbed past completes, inductionHypothesis, completed, nothing,
          Array.append_empty]
      · obtain ⟨earlier, newest, direction, -, -, back, -⟩ := step.exists_newest completes
        rw [turns_concat_of_completing past completes back, List.getLast?_concat, back]

/-- A book holds a position on the side that a brick asks for, priced at what unwinding it at the
close of the brick would be filled at. -/
def Book.OpenOn (book : Book α) (slippage : α) (brick : Brick α) : Prop :=
  ∃ position side, book.current = some position ∧ brick.kind.signal = some side ∧
    position.side = side ∧ position.currentPrice = side.opposite.fill brick.closePrice slippage

namespace Session

/-- What the chart of a run says about its book. The book has seen the completed bricks, and no
position is open but the current one; there is one as soon as a brick is completed, and then the
newest completed brick decides its side and its price. -/
structure Coupled (slippage : α) (session : Session α) : Prop where
  bricks : session.book.bricks = session.chart.completed
  openOnes : session.book.positions.filter (·.isOpen) = session.book.current.toList
  idle : session.book.current = none ↔ session.chart.completed = #[]
  held : ∀ newest ∈ session.chart.completed.back?, session.book.OpenOn slippage newest

variable {slippage : α} {session : Session α} {past : List (Taken α)}

/-- A book that follows the turns of its chart is open on the newest completed brick. -/
theorem Follows.openOn (follows : Follows slippage session past) {newest : Brick α}
    (back : session.chart.completed.back? = some newest) :
    session.book.OpenOn slippage newest := by
  have final : (turns past).getLast? = some newest := follows.grown.getLast?_turns.trans back
  obtain ⟨-, opener, position, -, kind, current, traded, -⟩ := follows.holds.exists_open final
  obtain ⟨side, price, signals, same, rfl⟩ := trade_eq_some_iff.mp traded
  obtain rfl := Option.some.inj same
  exact ⟨_, side, current, kind ▸ signals, rfl, rfl⟩

/-- A run holds no position exactly as long as no brick is completed. -/
theorem Follows.current_eq_none_iff (follows : Follows slippage session past) :
    session.book.current = none ↔ session.chart.completed = #[] := by
  have newest := follows.grown.getLast?_turns
  constructor
  · intro idle
    cases back : session.chart.completed.back? with
    | none => exact Array.back?_eq_none_iff.mp back
    | some brick =>
        obtain ⟨position, -, held, -⟩ := follows.openOn back
        exact nomatch idle.symm.trans held
  · intro nothing
    rw [nothing, Array.back?_empty] at newest
    exact (follows.holds.idle (List.getLast?_eq_none_iff.mp newest)).2

/-- Books that follow are coupled. -/
theorem Follows.coupled (follows : Follows slippage session past)
    (lawful : session.Lawful slippage) : session.Coupled slippage := by
  obtain ⟨log, kept⟩ := lawful.kept
  exact ⟨follows.bricks, kept.filter_isOpen, follows.current_eq_none_iff,
    fun newest back => follows.openOn back⟩

variable [Scalar.Directed α]

/-- **Runs are coupled.** Whatever ticks a run has taken, its chart is the one they were fed to, and
its book is coupled to it. -/
theorem coupled_of_foldlM_take {setup : BacktestSetup α} {schedule : Option (Schedule α)}
    (permitted : ∀ time, ∀ size ∈ schedule.bind (·.sizeAt time), validBrickSize size = true)
    {first : Session α} (starts : start setup = .ok first) {ticks : List (Tick α)}
    (took : ticks.foldlM (Session.take schedule) first = .ok session) :
    session.chart =
        (⟨setup.brickSize, #[], none⟩ : Chart α).after (Schedule.feedings schedule ticks) ∧
      session.Coupled setup.slippage := by
  have lawful := ((lawful_of_start starts).foldlM_take took).1
  obtain ⟨validSize, -, rfl⟩ := start_eq_ok.mp starts
  obtain ⟨book, same, follows⟩ :=
    (follows_of_start validSize setup.slippage).foldlM_take permitted ticks
  obtain rfl := Except.ok.inj (took.symm.trans same)
  exact ⟨rfl, follows.coupled lawful⟩

end Session

/-- **Backtests keep book and chart coupled.** With valid settings and a schedule, or none, a
backtest of any ticks ends, and after every tick of it the book is coupled to the chart, which has
been fed the ticks up to that one. -/
theorem backtest_coupled_after_every_tick (setup : BacktestSetup Float)
    (schedule : Option (Schedule Float)) (earlier later : List (Tick Float))
    (validSize : validBrickSize setup.brickSize = true)
    (validCharge : validSlippage setup.slippage = true)
    (built : ∀ table ∈ schedule, ∃ entries, Schedule.ofEntries entries = .ok table) :
    ∃ first session last final, Session.start setup = .ok first ∧
      earlier.foldlM (Session.take schedule) first = .ok session ∧
      later.foldlM (Session.take schedule) session = .ok last ∧
      (if setup.closeAtEnd then last.close else pure last) = .ok final ∧
      backtest setup schedule (earlier ++ later) = .ok final.result ∧
      session.chart =
        (⟨setup.brickSize, #[], none⟩ : Chart Float).after (Schedule.feedings schedule earlier) ∧
      session.Coupled setup.slippage := by
  have permitted := Schedule.valid_of_built built
  obtain ⟨result, ended, -⟩ := exists_result validSize validCharge permitted (earlier ++ later)
  obtain ⟨first, last, final, starts, took, closes, rfl⟩ := backtest_eq_ok.mp ended
  obtain ⟨session, tookEarlier, tookLater⟩ := Outcome.foldlM_append_eq_ok.mp took
  obtain ⟨charted, coupled⟩ := Session.coupled_of_foldlM_take permitted starts tookEarlier
  exact ⟨first, session, last, final, starts, tookEarlier, tookLater, closes, ended, charted,
    coupled⟩

/-- A rise over three bricks, a tick that completes none, and a fall at half the size; one tick is
still to come. -/
theorem backtest_coupled_after_fall :
    let setup : BacktestSetup Float := ⟨"TEST", 1, 0.25, true⟩
    let table : Schedule Float := ⟨[⟨.ofMillis 2, 0.5⟩]⟩
    let tick (ms : Int) (price : Float) : Tick Float := ⟨.ofMillis ms, price, 1⟩
    let earlier := [tick 0 100, tick 1 103.5, tick 2 103.25, tick 3 102.25]
    let later := [tick 4 103]
    let chart := (⟨setup.brickSize, #[], none⟩ : Chart Float).after
      (Schedule.feedings (some table) earlier)
    validBrickSize setup.brickSize = true ∧ validSlippage setup.slippage = true ∧
      (∀ scheduled ∈ some table, ∃ entries, Schedule.ofEntries entries = .ok scheduled) ∧
      chart.completed.toList.map (·.kind) = [.up, .up, .up, .down] ∧
      ∃ first session last final, Session.start setup = .ok first ∧
        earlier.foldlM (Session.take (some table)) first = .ok session ∧
        later.foldlM (Session.take (some table)) session = .ok last ∧
        (if setup.closeAtEnd then last.close else pure last) = .ok final ∧
        backtest setup (some table) (earlier ++ later) = .ok final.result ∧
        session.chart = chart ∧ session.Coupled setup.slippage := by
  intro setup table tick earlier later chart
  have validSize : validBrickSize setup.brickSize = true := by decide +kernel
  have validCharge : validSlippage setup.slippage = true := by decide +kernel
  have built : ∀ scheduled ∈ some table, ∃ entries, Schedule.ofEntries entries = .ok scheduled :=
    Schedule.built_of_ordered (by decide +kernel) (by decide +kernel)
  exact ⟨validSize, validCharge, built, by decide +kernel,
    backtest_coupled_after_every_tick setup (some table) earlier later validSize validCharge built⟩

end Renko
