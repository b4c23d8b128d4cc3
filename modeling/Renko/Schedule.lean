import Renko.Chart
import Renko.Scalar
import Renko.Tick

/-! # Schedules

Brick sizes that change with time, and the charts that follow them.
-/

/-! ## Brick size schedules

Sizes that take effect from a point in time. At any instant the size in force is that of the latest
entry stamped strictly before it.
-/

namespace Renko

/-- A brick size and the instant it is stamped with. -/
structure ScheduleEntry (α : Type) where
  time : Instant
  size : α
  deriving DecidableEq

/-- Entries in the order of their times; of one instant, in the order they were given. -/
structure Schedule (α : Type) where
  entries : List (ScheduleEntry α)
  deriving DecidableEq

namespace Schedule

variable {α : Type} [Scalar α]

/-- Orders the entries by time; the first invalid size, in the order given, refuses them all. -/
def ofEntries (entries : List (ScheduleEntry α)) : Except (TradeFault α) (Schedule α) := do
  entries.forM fun entry => discard (checkBrickSize entry.size)
  return ⟨entries.mergeSort fun first second => decide (first.time ≤ second.time)⟩

/-- The size of the latest entry stamped strictly before an instant. -/
def sizeAt (schedule : Schedule α) (time : Instant) : Option α :=
  (schedule.entries.takeWhile fun entry => decide (entry.time < time)).getLast?.map (·.size)

end Schedule

end Renko

/-! ## Charts with a schedule

A chart that takes the size of every tick from a schedule. Until the first entry is in force it
keeps the size it started with.
-/

namespace Renko.Chart

variable {α : Type} [Scalar α]

/-- Feeds one tick at the size scheduled for its time, if there is one. -/
def feedScheduled (schedule : Option (Schedule α)) (chart : Chart α) (tick : Tick α) :
    Except (TradeFault α) (Chart α × Nat) :=
  chart.feed tick (schedule.bind (·.sizeAt tick.time))

/-- The chart of a tick series under a schedule. -/
def ofScheduled (size : α) (schedule : Option (Schedule α)) (ticks : List (Tick α)) :
    Except (TradeFault α) (Chart α) := do
  ticks.foldlM (fun chart tick => return (← feedScheduled schedule chart tick).1) (← start size)

end Renko.Chart
