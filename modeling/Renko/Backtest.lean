import Renko.Book
import Renko.Schedule
import Renko.Summary

/-! # Backtests

A run feeds ticks to a chart and trades on what comes out of it. The newest brick a tick completes
decides the side: an up brick wants to be long, a down brick wants to be short. A position on the
other side is closed before the new one is opened.
-/

namespace Renko

variable {α : Type} [Scalar α]

/-- The side wanted after a brick of a kind. -/
def BrickKind.signal : BrickKind → Option Side
  | .up => some .buy
  | .down => some .sell
  | .last => none

/-- What a run is set up with. -/
structure BacktestSetup (α : Type) where
  symbol : String
  brickSize : α
  slippage : α
  closeAtEnd : Bool

/-- What a run leaves. -/
structure BacktestResult (α : Type) where
  bricks : List (Brick α)
  positions : List (Position α)
  summary : Summary α
  deriving DecidableEq

/-- A run between two ticks. -/
structure Session (α : Type) where
  chart : Chart α
  book : Book α

namespace Session

/-- A run before its first tick. An invalid brick size is reported before an invalid slippage. -/
def start (setup : BacktestSetup α) : Except (TradeFault α) (Session α) := do
  let chart ← Chart.start setup.brickSize
  let book ← Book.start setup.slippage
  return ⟨chart, book⟩

/-- One tick: it is fed at the scheduled size, if there is one; the bricks it completes go to the
book, which then follows the newest of them. -/
def take (schedule : Option (Schedule α)) (session : Session α) (tick : Tick α) :
    Except (TradeFault α) (Session α) :=
  match session with
  | ⟨chart, book⟩ => do
    let (chart, count) ← Chart.feedScheduled schedule chart tick
    if count = 0 then return ⟨chart, book⟩
    let added := chart.completed.extract (chart.completed.size - count)
    let book := added.foldl Book.addBrick book
    match chart.completed.back?.bind (·.kind.signal) with
    | none => return ⟨chart, book⟩
    | some side => return ⟨chart, ← book.follow side⟩

/-- Closes a position that is still open, at the brick that is still absorbing ticks. -/
def close (session : Session α) : Except (TradeFault α) (Session α) := do
  if session.book.current.isNone then return session
  let book := session.chart.current.toList.foldl Book.addBrick session.book
  return { session with book := (← book.closePosition).1 }

/-- What a run leaves when it ends here. -/
def result (session : Session α) : BacktestResult α :=
  let positions := session.book.positions
  ⟨session.chart.bricks, positions, .ofPositions positions⟩

end Session

/-- Runs a tick series. -/
def backtest (setup : BacktestSetup α) (schedule : Option (Schedule α)) (ticks : List (Tick α)) :
    Except (TradeFault α) (BacktestResult α) := do
  let session ← ticks.foldlM (Session.take schedule) (← Session.start setup)
  let session ← if setup.closeAtEnd then session.close else pure session
  return session.result

end Renko
