import Renko.Scalar
import Renko.Tick

/-! # Bricks

A brick covers a stretch of the price line. The last brick of a chart is still absorbing ticks; when
the price has moved a whole brick size away from its open it is completed in that direction.
-/

namespace Renko

/-- The two ways a price can go. -/
inductive Direction
  | up
  | down
  deriving DecidableEq

/-- What a brick is: still absorbing ticks, or completed in a direction. -/
inductive BrickKind
  | last
  | up
  | down
  deriving DecidableEq

namespace BrickKind

def text : BrickKind → String
  | last => "last"
  | up => "up"
  | down => "down"

end BrickKind

namespace Direction

variable {α : Type} [Scalar α]

/-- The kind of the bricks completed in a direction. -/
def kind : Direction → BrickKind
  | up => .up
  | down => .down

/-- One step of the given size from an anchor. -/
def step (direction : Direction) (size anchor : α) : α :=
  match direction with
  | up => anchor + size
  | down => anchor - size

/-- How far a price lies from an anchor in a direction; below zero on the other side. -/
def distance (direction : Direction) (anchor price : α) : α :=
  match direction with
  | up => price - anchor
  | down => anchor - price

/-- The direction in which a price lies from an anchor; a price that is not above lies down. -/
def toward (anchor price : α) : Direction :=
  if anchor < price then up else down

/-- The direction in which a price is measured against a brick of a kind. Only against a brick that
went down does a price that is not below lie up. -/
def against (kind : BrickKind) (anchor price : α) : Direction :=
  match kind with
  | .last | .up => toward anchor price
  | .down => if price < anchor then down else up

/-- A direction is no mark of a provisional brick. -/
theorem kind_ne_last (direction : Direction) : direction.kind ≠ .last := by
  cases direction <;> simp [kind]

end Direction

/-- A stretch of the price line, with the number of ticks it counted and their volume. The number
starts again from zero after 2^32 - 1. -/
structure Brick (α : Type) where
  time : Instant
  kind : BrickKind
  openPrice : α
  high : α
  low : α
  closePrice : α
  ticks : UInt32
  volume : α
  deriving DecidableEq

namespace Brick

open Scalar (larger smaller)

variable {α : Type} [Scalar α]

/-- The brick that starts with one tick. -/
def provisional (tick : Tick α) : Brick α where
  time := tick.time
  kind := .last
  openPrice := tick.price
  high := tick.price
  low := tick.price
  closePrice := tick.price
  ticks := 1
  volume := tick.volume

/-- A brick is provisional while it absorbs ticks. -/
def isProvisional (brick : Brick α) : Bool := brick.kind == .last

/-- The higher end of a brick's body. -/
def upperLine (brick : Brick α) : α := larger brick.openPrice brick.closePrice

/-- The lower end of a brick's body. -/
def lowerLine (brick : Brick α) : α := smaller brick.openPrice brick.closePrice

/-- Counts a tick in a brick: it moves the close, and the extremes where it lies outside them. -/
def absorb (brick : Brick α) (tick : Tick α) : Brick α :=
  let high := larger (larger (larger brick.openPrice brick.high) brick.low) tick.price
  let low := smaller (smaller (smaller brick.openPrice high) brick.low) tick.price
  { brick with
    high, low
    closePrice := tick.price
    ticks := brick.ticks + 1
    volume := brick.volume + tick.volume }

/-- A tick that is absorbed does not move the open. -/
@[simp] theorem absorb_openPrice (brick : Brick α) (tick : Tick α) :
    (brick.absorb tick).openPrice = brick.openPrice := rfl

/-- A brick that absorbs a tick stays of its kind. -/
@[simp] theorem absorb_kind (brick : Brick α) (tick : Tick α) :
    (brick.absorb tick).kind = brick.kind := rfl

/-- Completes a brick one size away from its open. Only the extreme on the side of travel moves; the
other stays where the ticks took it. -/
def complete (brick : Brick α) (direction : Direction) (size : α) : Brick α :=
  let close := direction.step size brick.openPrice
  match direction with
  | .up => { brick with kind := .up, closePrice := close, high := close }
  | .down => { brick with kind := .down, closePrice := close, low := close }

/-- A completed brick is of the kind of its direction. -/
@[simp] theorem complete_kind (brick : Brick α) (direction : Direction) (size : α) :
    (brick.complete direction size).kind = direction.kind := by
  cases direction <;> rfl

/-- A completed brick keeps its open. -/
@[simp] theorem complete_openPrice (brick : Brick α) (direction : Direction) (size : α) :
    (brick.complete direction size).openPrice = brick.openPrice := by
  cases direction <;> rfl

/-- A completed brick closes one size from its open. -/
@[simp] theorem complete_closePrice (brick : Brick α) (direction : Direction) (size : α) :
    (brick.complete direction size).closePrice = direction.step size brick.openPrice := by
  cases direction <;> rfl

/-- The brick that fills one further step of a tick that moved several. It counts no tick. -/
def synthetic (time : Instant) (direction : Direction) (size anchor : α) : Brick α :=
  let close := direction.step size anchor
  { time
    kind := direction.kind
    openPrice := anchor
    high := larger anchor close
    low := smaller anchor close
    closePrice := close
    ticks := 0
    volume := 0 }

/-- The brick that follows completed ones: it opens where they end and counts the tick that
completed them. -/
def following (tick : Tick α) (anchor : α) : Brick α where
  time := tick.time
  kind := .last
  openPrice := anchor
  high := larger tick.price anchor
  low := smaller tick.price anchor
  closePrice := tick.price
  ticks := 1
  volume := tick.volume

end Brick

end Renko
