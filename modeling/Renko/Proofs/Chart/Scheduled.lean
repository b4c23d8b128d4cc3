import Mathlib
import Renko.Proofs.Backtest.Charted
import Renko.Proofs.Schedule
import Renko.Proofs.Tick.Filter

/-! # Scheduled sizes without memory

A chart keeps a scheduled size until another one is scheduled. On ticks in the order of time it need
not remember it: the size in force at a tick is the one scheduled for its time, or, before all
entries, the one the chart started with (`Renko.Chart.scheduled_is_stated`). For once a size has
been scheduled, one is scheduled for every later tick (`Renko.Schedule.sizeAt_eq_none_of_le`).
-/

namespace Renko

variable {α : Type} [Scalar α]

/-- Where no size is scheduled, none was scheduled before. -/
theorem Schedule.sizeAt_eq_none_of_le {schedule : Option (Schedule α)}
    (built : ∀ table ∈ schedule, ∃ entries, ofEntries entries = .ok table) {time bound : Instant}
    (early : time ≤ bound) (unsized : schedule.bind (·.sizeAt bound) = none) :
    schedule.bind (·.sizeAt time) = none := by
  cases schedule with
  | none => rfl
  | some table =>
      obtain ⟨entries, ofEntries⟩ := built table rfl
      rw [Option.bind_some] at unsized ⊢
      refine (sizeAt_eq_none_iff ofEntries).mpr fun entry member before => ?_
      exact (sizeAt_eq_none_iff ofEntries).mp unsized entry member (Int.lt_of_lt_of_le before early)

namespace Chart

/-- The size that the time of a tick decides: the one scheduled, or the one a chart starts with. -/
def statedSize (start : α) (schedule : Option (Schedule α)) (time : Instant) : α :=
  (schedule.bind (·.sizeAt time)).getD start

/-- Feeds one tick with the size that its time decides. -/
def feedStated (start : α) (schedule : Option (Schedule α)) (chart : Chart α) (tick : Tick α) :
    Except (TradeFault α) (Chart α × Nat) :=
  chart.feed tick (some (statedSize start schedule tick.time))

/-- The chart of a tick series whose every tick is fed with the size that its time decides. -/
def ofStated (size : α) (schedule : Option (Schedule α)) (ticks : List (Tick α)) :
    Except (TradeFault α) (Chart α) := do
  ticks.foldlM (fun chart tick => return (← feedStated size schedule chart tick).1) (← start size)

variable {start : α} {schedule : Option (Schedule α)}

/-- A chart that is at its first size wherever no size is scheduled need not be told of it. -/
theorem feedScheduled_eq_feedStated (valid : validBrickSize start = true) {chart : Chart α}
    {tick : Tick α} (unsized : schedule.bind (·.sizeAt tick.time) = none → chart.size = start) :
    feedScheduled schedule chart tick = feedStated start schedule chart tick := by
  rw [feedScheduled, feedStated, statedSize]
  cases scheduled : schedule.bind (·.sizeAt tick.time) with
  | some size => rfl
  | none =>
      obtain ⟨size, completed, current⟩ := chart
      obtain rfl : size = start := unsized scheduled
      rw [Option.getD_none, feed_of_valid valid]
      rfl

/-- After a tick that states its size, that size is in force. -/
theorem size_of_feedStated {chart next : Chart α} {tick : Tick α} {count : Nat}
    (fed : feedStated start schedule chart tick = .ok (next, count)) :
    next.size = statedSize start schedule tick.time :=
  size_of_feed fed

/-- **Ticks in the order of time state their sizes.** A chart that is at its first size wherever no
size is scheduled for a tick to come stays so, and is fed alike in both ways. -/
theorem foldlM_feedScheduled_eq (valid : validBrickSize start = true)
    (built : ∀ table ∈ schedule, ∃ entries, Schedule.ofEntries entries = .ok table)
    {ticks : List (Tick α)} (ordered : ticks.Pairwise fun first second => first.time ≤ second.time)
    {chart : Chart α}
    (unsized : ∀ tick ∈ ticks, schedule.bind (·.sizeAt tick.time) = none → chart.size = start) :
    ticks.foldlM (fun chart tick => return (← feedScheduled schedule chart tick).1) chart =
      ticks.foldlM (fun chart tick => return (← feedStated start schedule chart tick).1) chart := by
  induction ordered generalizing chart with
  | nil => rfl
  | @cons tick ticks upTo ordered inductionHypothesis =>
      obtain ⟨unsizedNow, unsizedLater⟩ := List.forall_mem_cons.mp unsized
      rw [List.foldlM_cons, List.foldlM_cons, feedScheduled_eq_feedStated valid unsizedNow]
      cases fed : feedStated start schedule chart tick with
      | error cause => rfl
      | ok answer =>
          obtain ⟨next, count⟩ := answer
          refine inductionHypothesis fun later member nothing => ?_
          have before := Schedule.sizeAt_eq_none_of_le built (upTo later member) nothing
          rw [size_of_feedStated fed, statedSize, before, Option.getD_none]

/-- Over ticks in the order of time a chart under a schedule is one whose sizes are stated. -/
theorem ofScheduled_eq_ofStated (valid : validBrickSize start = true)
    (built : ∀ table ∈ schedule, ∃ entries, Schedule.ofEntries entries = .ok table)
    {ticks : List (Tick α)}
    (ordered : ticks.Pairwise fun first second => first.time ≤ second.time) :
    ofScheduled start schedule ticks = ofStated start schedule ticks := by
  rw [ofScheduled, ofStated, start_eq_ok.mpr ⟨valid, rfl⟩]
  exact foldlM_feedScheduled_eq valid built ordered fun _ _ _ => rfl

/-- The size in force after stated sizes is the one that the last tick stated. -/
theorem size_of_ofStated {chart : Chart α} {ticks : List (Tick α)}
    (fed : ofStated start schedule ticks = .ok chart) :
    ∀ tick ∈ ticks.getLast?, chart.size = statedSize start schedule tick.time := by
  intro tick final
  obtain ⟨earlier, rfl⟩ := List.getLast?_eq_some_iff.mp final
  obtain ⟨first, -, run⟩ := Outcome.bind_eq_ok.mp fed
  obtain ⟨between, -, last⟩ := Outcome.foldlM_append_eq_ok.mp run
  rw [List.foldlM_cons] at last
  obtain ⟨next, took, same⟩ := Outcome.bind_eq_ok.mp last
  obtain ⟨answer, accepted, same'⟩ := Outcome.bind_eq_ok.mp took
  obtain rfl := Except.ok.inj same
  obtain rfl := Except.ok.inj same'
  exact size_of_feedStated accepted

/-- **Scheduled sizes need no memory.** On ticks in the order of time, such as a filter keeps, a
chart under a schedule is the chart whose every tick states the size that its time decides, and the
size in force is decided by the time of the last tick alone. A backtest has the same bricks. -/
theorem scheduled_is_stated :
    (∀ {size : Float}, validBrickSize size = true → ∀ schedule : Option (Schedule Float),
      (∀ table ∈ schedule, ∃ entries, Schedule.ofEntries entries = .ok table) →
      ∀ ticks : List (Tick Float),
        (ticks.Pairwise fun first second => first.time ≤ second.time) →
        ∃ chart, ofScheduled size schedule ticks = .ok chart ∧
          ofStated size schedule ticks = .ok chart ∧
          ∀ tick ∈ ticks.getLast?, chart.size = statedSize size schedule tick.time) ∧
    (∀ setup : BacktestSetup Float, validBrickSize setup.brickSize = true →
      validSlippage setup.slippage = true → ∀ schedule : Option (Schedule Float),
      (∀ table ∈ schedule, ∃ entries, Schedule.ofEntries entries = .ok table) →
      ∀ ticks : List (Tick Float),
        (ticks.Pairwise fun first second => first.time ≤ second.time) →
        ∃ result chart, backtest setup schedule ticks = .ok result ∧
          ofStated setup.brickSize schedule ticks = .ok chart ∧ result.bricks = chart.bricks) ∧
    ∀ (filter : TickFilter) (ticks : List (Tick Float)),
      (filter.filterAll ticks).1.Pairwise fun first second => first.time ≤ second.time := by
  refine ⟨?_, ?_, fun filter ticks => filter.pairwise_kept ticks⟩
  · intro size valid schedule built ticks ordered
    obtain ⟨chart, fed⟩ := exists_ofScheduled valid (Schedule.valid_of_built built) ticks
    have stated := (ofScheduled_eq_ofStated valid built ordered).symm.trans fed
    exact ⟨chart, fed, stated, size_of_ofStated stated⟩
  · intro setup valid validCharge schedule built ticks ordered
    have same := bricks_backtest validCharge schedule ticks
    obtain ⟨chart, fed⟩ := exists_ofScheduled valid (Schedule.valid_of_built built) ticks
    rw [fed] at same
    obtain ⟨result, ended, bricks⟩ := Outcome.map_eq_ok.mp same
    exact ⟨result, chart, ended, (ofScheduled_eq_ofStated valid built ordered).symm.trans fed,
      bricks⟩

/-- A tick at the instant of the first entry, which is not yet in force, and two ticks of one
instant at the size of the second entry. -/
theorem scheduled_is_stated_on_rise :
    let setup : BacktestSetup Float := ⟨"TEST", 2, 0.25, true⟩
    let table : Schedule Float := ⟨[⟨.ofMillis 1, 1⟩, ⟨.ofMillis 2, 0.5⟩]⟩
    let tick (ms : Int) (price : Float) : Tick Float := ⟨.ofMillis ms, price, 1⟩
    let ticks := [tick 0 100, tick 1 101.5, tick 2 101.75, tick 4 102.5, tick 4 101.5]
    validBrickSize setup.brickSize = true ∧ validSlippage setup.slippage = true ∧
    (∀ scheduled ∈ some table, ∃ entries, Schedule.ofEntries entries = .ok scheduled) ∧
    (ticks.Pairwise fun first second => first.time ≤ second.time) ∧
    (∃ chart, ofScheduled setup.brickSize (some table) ticks = .ok chart ∧
      ofStated setup.brickSize (some table) ticks = .ok chart ∧ chart.size = 0.5) ∧
    ∃ result chart, backtest setup (some table) ticks = .ok result ∧
      ofStated setup.brickSize (some table) ticks = .ok chart ∧ result.bricks = chart.bricks := by
  intro setup table tick ticks
  have validSize : validBrickSize setup.brickSize = true := by decide +kernel
  have validCharge : validSlippage setup.slippage = true := by decide +kernel
  have built : ∀ scheduled ∈ some table, ∃ entries, Schedule.ofEntries entries = .ok scheduled :=
    Schedule.built_of_ordered (by decide +kernel) (by decide +kernel)
  have ordered : ticks.Pairwise fun first second => first.time ≤ second.time := by decide +kernel
  obtain ⟨chart, fed, stated, inForce⟩ :=
    scheduled_is_stated.1 validSize (some table) built ticks ordered
  exact ⟨validSize, validCharge, built, ordered, ⟨chart, fed, stated, inForce (tick 4 101.5) rfl⟩,
    scheduled_is_stated.2.1 setup validSize validCharge (some table) built ticks ordered⟩

end Chart

end Renko
