import Renko.Scalar
import Renko.Tick

/-! # The tick filter

A chart must not see every tick of a feed. The filter lets a tick pass if it does not lie in the
millisecond at which 1970 starts, is no earlier than the last tick that passed, and has a finite
price and a finite volume that is not negative. Ticks of one instant all pass. It counts what it
rejects.
-/

namespace Renko

/-- What a filter remembers: when the last tick passed, and how many it rejected. -/
structure TickFilter where
  lastTime : Option Instant
  rejected : Nat
  deriving DecidableEq

namespace TickFilter

variable {α : Type} [Scalar α]

def fresh : TickFilter := ⟨none, 0⟩

/-- Whether the filter lets the tick pass. -/
def admits (filter : TickFilter) (tick : Tick α) : Bool :=
  decide (tick.time.millis ≠ 0)
    && filter.lastTime.all (fun last => decide (last ≤ tick.time))
    && Scalar.isFinite tick.price
    && Scalar.isFinite tick.volume
    && !decide (tick.volume < 0)

def accept (filter : TickFilter) (tick : Tick α) : Bool × TickFilter :=
  if filter.admits tick then (true, { filter with lastTime := some tick.time })
  else (false, { filter with rejected := filter.rejected + 1 })

/-- Judges one tick and keeps it if it passes. -/
def collect (state : Array (Tick α) × TickFilter) (tick : Tick α) : Array (Tick α) × TickFilter :=
  let (passed, filter) := state.2.accept tick
  (if passed then state.1.push tick else state.1, filter)

/-- The ticks that pass, in order, and the filter afterwards. -/
def filterAll (filter : TickFilter) (ticks : List (Tick α)) : List (Tick α) × TickFilter :=
  let (kept, filter) := ticks.foldl collect (#[], filter)
  (kept.toList, filter)

end TickFilter

end Renko
