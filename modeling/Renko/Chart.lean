import Renko.Brick
import Renko.Scalar

/-! # Range charts

A chart turns ticks into bricks. Every tick is measured against the open of the current brick: while
it stays less than one brick size away the brick absorbs it; when it has moved one or more whole
sizes, the brick is completed in that direction, each further whole step is a synthetic brick, and a
new current brick opens where they end. Completed bricks are never changed again.
-/

namespace Renko

variable {α : Type} [Scalar α]

/-- What one tick makes of the current brick: the bricks it completes, and the brick that is current
afterwards. -/
structure Advance (α : Type) where
  completed : Array (Brick α)
  current : Brick α

namespace Brick

/-- Adds `count` synthetic bricks, each opening where the one before it closes. The second component
is where the next brick opens. -/
def extend (time : Instant) (direction : Direction) (size : α) :
    Nat → Array (Brick α) × α → Array (Brick α) × α
  | 0, state => state
  | count + 1, (bricks, anchor) =>
    let brick := synthetic time direction size anchor
    extend time direction size count (bricks.push brick, brick.closePrice)

/-- A tick that is less than one size away from the open is absorbed. -/
def absorbNear (brick : Brick α) (size : α) (tick : Tick α) : Brick α :=
  if Scalar.wholeSteps (Scalar.abs (tick.price - brick.openPrice)) size = 0 then brick.absorb tick
  else brick

/-- The brick from whose close the further steps are taken. One that has been completed before stays
as it is. -/
def finished (brick : Brick α) (direction : Direction) (size : α) : Brick α :=
  if brick.isProvisional then brick.complete direction size else brick

/-- One tick measured against the current brick. -/
def advance (brick : Brick α) (size : α) (tick : Tick α) : Advance α :=
  let brick := brick.absorbNear size tick
  let direction := Direction.against brick.kind brick.openPrice tick.price
  match Scalar.wholeSteps (direction.distance brick.openPrice tick.price) size with
  | 0 => ⟨#[], brick⟩
  | further + 1 =>
    let first := brick.finished direction size
    let (completed, anchor) := extend tick.time direction size further (#[first], first.closePrice)
    ⟨completed, following tick anchor⟩

end Brick

/-- The completed bricks in order, the brick still absorbing ticks, and the brick size in force. -/
structure Chart (α : Type) where
  size : α
  completed : Array (Brick α)
  current : Option (Brick α)

namespace Chart

/-- A chart without bricks. -/
def start (size : α) : Except (TradeFault α) (Chart α) := do
  let size ← checkBrickSize size
  return ⟨size, #[], none⟩

/-- All bricks of a chart, the current one last. -/
def bricks (chart : Chart α) : List (Brick α) :=
  chart.completed.toList ++ chart.current.toList

def length (chart : Chart α) : Nat :=
  chart.completed.size + chart.current.elim 0 fun _ => 1

omit [Scalar α] in
/-- The length of a chart is the number of its bricks. -/
@[simp] theorem length_bricks (chart : Chart α) : chart.bricks.length = chart.length := by
  cases h : chart.current <;> simp [bricks, length, h]

/-- A tick taken at the size in force, with the number of bricks it completed. The first tick of a
chart opens its first brick. -/
def take (chart : Chart α) (tick : Tick α) : Chart α × Nat :=
  match chart with
  | ⟨size, completed, none⟩ => (⟨size, completed, some (.provisional tick)⟩, 0)
  | ⟨size, completed, some brick⟩ =>
    let ⟨added, current⟩ := brick.advance size tick
    (⟨size, completed ++ added, some current⟩, added.size)

/-- Feeds one tick, with the number of bricks it completed. A given size replaces the chart's before
the tick is measured, and stays in force; an invalid one refuses the tick. -/
def feed (chart : Chart α) (tick : Tick α) (resize : Option α) :
    Except (TradeFault α) (Chart α × Nat) :=
  match resize with
  | none => .ok (chart.take tick)
  | some size => do
    let size ← checkBrickSize size
    return { chart with size }.take tick

/-- The chart of a tick series at one size. -/
def ofTicks (size : α) (ticks : List (Tick α)) : Except (TradeFault α) (Chart α) := do
  ticks.foldlM (fun chart tick => return (← chart.feed tick none).1) (← start size)

/-- Keeps a brick unless the one kept last has the same upper line. -/
def keepUnlessSame (kept : Array (Brick α)) (brick : Brick α) : Array (Brick α) :=
  if kept.back?.any fun last => last.upperLine == brick.upperLine then kept else kept.push brick

/-- The completed bricks without those that repeat the upper line of the brick kept before them. -/
def unique (chart : Chart α) : List (Brick α) :=
  (chart.completed.foldl keepUnlessSame #[]).toList

end Chart

end Renko
