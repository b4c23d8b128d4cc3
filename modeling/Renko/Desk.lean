import Renko.Config
import Renko.Tick.Filter

/-! # From data to reports

A desk is where a run gets its ticks and its schedule from and where it hands its reports to. The
two runs are written over any desk, in the order in which they use it: ticks, schedule, and the
report once everything has succeeded.
-/

namespace Renko

/-- The sources and the reports of a run. -/
structure Desk (m : Type → Type) where
  /-- The ticks of a source, unfiltered. -/
  ticks : String → m (List (Tick Float))
  /-- The schedule of a source. -/
  schedule : String → m (Schedule Float)
  /-- Writes a report on bricks under a path. -/
  writeBricks : String → List (Brick Float) → m Unit
  /-- Writes a report on positions under a path. -/
  writePositions : String → List (Position Float) → m Unit
  /-- Tells how many of all ticks were rejected. -/
  warnRejected : Nat → Nat → m Unit

namespace Desk

variable {m : Type → Type} [Monad m] [MonadExceptOf Fault m]

/-- A result of trading within a run. -/
def trade {β : Type} (result : Except (TradeFault Float) β) : m β :=
  match result with
  | .ok value => pure value
  | .error cause => throw (.trade cause)

/-- A result of reading the configuration within a run. -/
def settle {β : Type} (result : Except Fault β) : m β :=
  match result with
  | .ok value => pure value
  | .error fault => throw fault

/-- The ticks of a source that a chart may see. -/
def admittedTicks (desk : Desk m) (source : String) : m (List (Tick Float)) := do
  let ticks ← desk.ticks source
  let (kept, filter) := TickFilter.fresh.filterAll ticks
  if 0 < filter.rejected then desk.warnRejected filter.rejected ticks.length
  return kept

/-- The schedule that the configuration names, if it names one. -/
def configuredSchedule (desk : Desk m) (ini : Ini) : m (Option (Schedule Float)) := do
  match Config.path? ini none "range" "schedule" with
  | none => return none
  | some source => return some (← desk.schedule source)

/-- Charts the ticks of a source and reports the bricks, all of them or the completed ones without
repeats. The result is the number of bricks reported. -/
def reportBricks (desk : Desk m) (ini : Ini) (source report : String) (unique : Bool) : m Nat := do
  let ticks ← desk.admittedTicks source
  let schedule ← desk.configuredSchedule ini
  let size ← settle (Config.brickSize ini)
  let chart ← trade (Chart.ofScheduled size schedule ticks)
  let bricks := if unique then chart.unique else chart.bricks
  desk.writeBricks report bricks
  return bricks.length

/-- Trades on the ticks of a source and reports the positions. -/
def reportBacktest (desk : Desk m) (ini : Ini) (setup : BacktestSetup Float)
    (source report : String) : m (BacktestResult Float) := do
  let ticks ← desk.admittedTicks source
  let schedule ← desk.configuredSchedule ini
  let result ← trade (backtest setup schedule ticks)
  desk.writePositions report result.positions
  return result

end Desk

end Renko
