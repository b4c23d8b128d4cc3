import Mathlib
import Renko.Proofs.Backtest.Charted
import Renko.Proofs.Chart.Attribution
import Renko.Proofs.Chart.Unique

/-! # Stamps and dates

Bricks are stamped by the ticks they open at, and positions are dated by bricks.
-/

/-! ## When bricks are stamped

A brick is stamped with the time of the tick it opened at, and keeps the stamp when it is completed.
So the stamps of a chart can be read off its history (`Renko.Chart.Grown.map_time_bricks`): its
first tick stamps one brick, and every later one as many as it completes. The bricks that a tick
completes are thus one of an older stamp and synthetic ones of its own, and all are in the order of
time if the ticks are (`Renko.Chart.Grown.dated_bricks`).
-/

namespace Renko

variable {α : Type}

/-- Times in order, each of them the time of one of the ticks. -/
structure Dated (ticks : List (Tick α)) (times : List Instant) : Prop where
  ordered : times.Pairwise fun earlier later => earlier ≤ later
  stamped : ∀ time ∈ times, ∃ tick ∈ ticks, tick.time = time

/-- Some of the times that are dated in order are dated in order. -/
theorem Dated.sublist {ticks : List (Tick α)} {times fewer : List Instant}
    (dated : Dated ticks times) (among : fewer.Sublist times) : Dated ticks fewer :=
  ⟨dated.ordered.sublist among, fun time member => dated.stamped time (among.subset member)⟩

namespace Chart

/-- What a tick stamps on the bricks it opens, unless it is the first. -/
def stamps (taken : Taken α) : List Instant := List.replicate taken.count taken.tick.time

/-- The stamps of a history, in order. -/
def allStamps : List (Taken α) → List Instant
  | [] => []
  | first :: later => first.tick.time :: later.flatMap stamps

private theorem allStamps_concat {past : List (Taken α)} (nonempty : past ≠ []) (taken : Taken α) :
    allStamps (past ++ [taken]) = allStamps past ++ stamps taken := by
  obtain ⟨first, later, rfl⟩ := List.exists_cons_of_ne_nil nonempty
  rw [List.cons_append, allStamps, allStamps, List.flatMap_append, List.flatMap_singleton,
    List.cons_append]

private theorem eq_of_mem_stamps {taken : Taken α} {time : Instant} (member : time ∈ stamps taken) :
    time = taken.tick.time :=
  List.eq_of_mem_replicate member

private theorem ordered_allStamps {past : List (Taken α)}
    (ordered : past.Pairwise fun earlier later => earlier.tick.time ≤ later.tick.time) :
    (allStamps past).Pairwise fun earlier later => earlier ≤ later := by
  cases past with
  | nil => exact .nil
  | cons first later =>
      obtain ⟨after, orderedLater⟩ := List.pairwise_cons.mp ordered
      refine List.pairwise_cons.mpr ⟨fun time member => ?_, List.pairwise_flatMap.mpr ⟨?_, ?_⟩⟩
      · obtain ⟨taken, among, stamped⟩ := List.mem_flatMap.mp member
        rw [eq_of_mem_stamps stamped]
        exact after taken among
      · intro taken among
        exact List.pairwise_replicate.mpr (.inr (Int.le_refl _))
      · refine orderedLater.imp fun {one two} inOrder time stamped next stampedNext => ?_
        rw [eq_of_mem_stamps stamped, eq_of_mem_stamps stampedNext]
        exact inOrder

private theorem exists_of_mem_allStamps {past : List (Taken α)} {time : Instant}
    (member : time ∈ allStamps past) : ∃ tick ∈ past.map (·.tick), tick.time = time := by
  cases past with
  | nil => cases member
  | cons first later =>
      rcases List.mem_cons.mp member with rfl | stamped
      · exact ⟨first.tick, List.mem_cons_self, rfl⟩
      · obtain ⟨taken, among, stamped⟩ := List.mem_flatMap.mp stamped
        exact ⟨taken.tick, List.mem_cons_of_mem _ (List.mem_map_of_mem among),
          (eq_of_mem_stamps stamped).symm⟩

variable [Scalar α]

private theorem map_time_ladder (time : Instant) (direction : Direction) (size : α) (count : Nat)
    (anchor : α) :
    (Brick.ladder time direction size count anchor).map (·.time) = List.replicate count time := by
  have tallied := congrArg (List.map Tally.time)
    (Brick.map_tally_ladder time direction size count anchor)
  rw [List.map_map, List.map_replicate] at tallied
  exact tallied

/-- **When the bricks of a chart are stamped.** Whether ticks come in order or not, the history says
it. -/
theorem Grown.map_time_bricks {chart : Chart α} {past : List (Taken α)} (grown : chart.Grown past) :
    chart.bricks.map (·.time) = allStamps past := by
  induction grown with
  | empty valid => rfl
  | @step chart next past tick count before step inductionHypothesis =>
      cases step with
      | @opened old size completed tick valid =>
          obtain rfl := before.past_eq_nil rfl
          rw [bricks, Option.toList_none, List.append_nil] at inductionHypothesis
          rw [bricks, List.map_append, inductionHypothesis]
          rfl
      | @absorbed old size completed brick tick valid near =>
          rw [allStamps_concat (before.past_ne_nil rfl), ← inductionHypothesis, stamps,
            List.replicate_zero, List.append_nil, bricks, bricks, List.map_append, List.map_append]
          rfl
      | @completed old size completed brick tick direction further valid toward far =>
          have kept : (brick.complete direction size).time = brick.time :=
            congrArg Tally.time (Brick.tally_complete brick direction size)
          rw [allStamps_concat (before.past_ne_nil rfl), ← inductionHypothesis, stamps,
            List.replicate_succ']
          simp only [bricks, Array.toList_append, Option.toList_some, List.map_append,
            Brick.staircase, List.map_cons, map_time_ladder, kept, List.map_nil, List.append_assoc,
            List.cons_append, List.nil_append]
          rfl

/-- The bricks of ticks in the order of time are stamped in that order. -/
theorem Grown.dated_bricks {chart : Chart α} {past : List (Taken α)} (grown : chart.Grown past)
    (ordered : (past.map (·.tick)).Pairwise fun earlier later => earlier.time ≤ later.time) :
    Dated (past.map (·.tick)) (chart.bricks.map (·.time)) := by
  have inOrder := List.pairwise_map.mp ordered
  rw [grown.map_time_bricks]
  exact ⟨ordered_allStamps inOrder, fun _ => exists_of_mem_allStamps⟩

/-- Completed bricks without repeats are among the bricks, in their order. -/
theorem unique_sublist_bricks (chart : Chart α) : chart.unique.Sublist chart.bricks := by
  rw [unique_eq_destutter]
  exact (List.destutter_sublist _ _).trans (List.sublist_append_left _ _)

end Chart

end Renko

/-! ## When positions are dated

A position is dated by the brick it was opened at, and that is a completed one. The positions of a
backtest are opened at some of its bricks, in their order, so their dates are some of the stamps of
the bricks, in that order (`Renko.dated_of_backtest`).
-/

namespace Renko

namespace Trades

variable {α : Type}

/-- The first items of groups are some of the items, in their order. -/
theorem filterMap_head?_sublist {β : Type} (groups : List (List β)) :
    (groups.filterMap List.head?).Sublist groups.flatten := by
  induction groups with
  | nil => exact .slnil
  | cons group groups inductionHypothesis =>
      cases group with
      | nil => exact inductionHypothesis
      | cons first group =>
          exact (inductionHypothesis.trans (List.sublist_append_right group _)).cons_cons first

/-- The openers are some of the turns, in their order. -/
theorem openers_sublist (turns : List (Brick α)) : (openers turns).Sublist turns := by
  have heads := filterMap_head?_sublist (runs turns)
  rw [runs, List.flatten_splitBy] at heads
  exact heads

variable [Scalar α]

/-- A position is dated by the brick that opened it. -/
theorem map_date_of_trades {slippage : α} {exit : Option α} {closed : Bool}
    {openers : List (Brick α)} {positions : List (Position α)}
    (traded : positions.map some = trades slippage exit closed openers) :
    positions.map (·.date) = openers.map (·.time) := by
  induction openers generalizing positions with
  | nil =>
      obtain rfl := List.map_eq_nil_iff.mp traded
      rfl
  | cons opener later inductionHypothesis =>
      obtain ⟨exit', closed', line⟩ := exists_trades_cons exit closed opener later
      rw [line slippage] at traded
      cases positions with
      | nil => cases traded
      | cons position positions =>
          obtain ⟨first, rest⟩ := List.cons.inj traded
          obtain ⟨side, price, -, -, rfl⟩ := trade_eq_some_iff.mp first.symm
          exact congrArg (List.cons opener.time) (inductionHypothesis rest)

end Trades

open Trades

variable {α : Type} [Scalar α]

/-- Turns are completed bricks, in their order. -/
theorem Chart.Grown.turns_sublist {chart : Chart α} {past : List (Taken α)}
    (grown : chart.Grown past) : (turns past).Sublist chart.completed.toList := by
  induction grown with
  | empty valid => exact .slnil
  | @step chart next past tick count before step inductionHypothesis =>
      by_cases completes : count = 0
      · obtain ⟨direction, added, completed, -⟩ := step.exists_added
        rw [turns_concat_of_absorbed past completes, completed, Array.toList_append]
        exact inductionHypothesis.trans (List.sublist_append_left _ _)
      · obtain ⟨earlier, newest, -, completed, -, back, -⟩ := step.exists_newest completes
        rw [turns_concat_of_completing past completes back, completed, Array.toList_append]
        exact inductionHypothesis.append (List.sublist_append_right earlier [newest])

/-- The dates of positions that are those of the turns of a chart are some of the stamps of its
bricks, in their order. -/
theorem Chart.Grown.dates_sublist {chart : Chart α} {past : List (Taken α)}
    (grown : chart.Grown past) {slippage : α} {exit : Option α} {closed : Bool}
    {positions : List (Position α)}
    (traded : positions.map some = trades slippage exit closed (openers (turns past))) :
    (positions.map (·.date)).Sublist (chart.bricks.map (·.time)) := by
  rw [map_date_of_trades traded]
  exact (((openers_sublist _).trans grown.turns_sublist).trans
    (List.sublist_append_left _ _)).map _

namespace Session

variable {slippage : α} {session final : Session α} {past : List (Taken α)}

/-- However a run ends, its positions are those of the turns of its chart, and its chart stays. -/
theorem Follows.exists_trades (follows : Follows slippage session past) {closeAtEnd : Bool}
    (ends : (if closeAtEnd then session.close else pure session) = .ok final) :
    final.chart = session.chart ∧ ∃ exit closed,
      final.book.positions.map some = trades slippage exit closed (openers (turns past)) := by
  cases closeAtEnd with
  | false =>
      obtain rfl := Except.ok.inj ends
      exact ⟨rfl, _, _, follows.holds.positions⟩
  | true =>
      obtain ⟨closed, closes, charted, positions⟩ := follows.close
      obtain rfl := Except.ok.inj (closes.symm.trans ends)
      exact ⟨charted, _, _, positions⟩

end Session

variable [Scalar.Directed α]

/-- Ticks in the order of time stamp the bricks of their chart in that order. -/
theorem Chart.dated_of_scheduled {size : α} {schedule : Option (Schedule α)}
    {ticks : List (Tick α)} {chart : Chart α}
    (charted : ofScheduled size schedule ticks = .ok chart)
    (ordered : ticks.Pairwise fun earlier later => earlier.time ≤ later.time) :
    Dated ticks (chart.bricks.map (·.time)) := by
  obtain ⟨past, grown, rfl⟩ := exists_grown_of_scheduled charted
  exact grown.dated_bricks ordered

/-- **When positions are dated.** Whatever sizes a backtest is scheduled, ticks in the order of time
date its positions in that order: the dates are some of the stamps of its bricks. -/
theorem dated_of_backtest {setup : BacktestSetup α} {schedule : Option (Schedule α)}
    {ticks : List (Tick α)} {result : BacktestResult α}
    (ended : backtest setup schedule ticks = .ok result)
    (ordered : ticks.Pairwise fun earlier later => earlier.time ≤ later.time) :
    Dated ticks (result.bricks.map (·.time)) ∧
      (result.positions.map (·.date)).Sublist (result.bricks.map (·.time)) := by
  obtain ⟨first, session, final, started, took, ends, rfl⟩ := backtest_eq_ok.mp ended
  obtain ⟨validSize, -, rfl⟩ := Session.start_eq_ok.mp started
  have inStep := Session.follows_of_start validSize setup.slippage
  obtain ⟨past, follows, rfl⟩ := (inStep.chart_foldlM_take schedule ticks).2 session took
  obtain ⟨charted, exit, closed, traded⟩ := follows.exists_trades ends
  rw [Session.result, charted]
  exact ⟨follows.grown.dated_bricks ordered, follows.grown.dates_sublist traded⟩

end Renko
