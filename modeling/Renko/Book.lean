import Renko.Brick
import Renko.Scalar
import Renko.Tick

/-! # Positions and books

Trades on one market: each is a position, and a book keeps them in the order they were opened.
-/

/-! ## Positions

A position is opened on one side and closed on the other. Who buys pays the slippage on top of the
price, who sells gives it up.
-/

namespace Renko

/-- The side of an order. -/
inductive Side
  | buy
  | sell
  deriving DecidableEq

namespace Side

variable {α : Type} [Scalar α]

/-- The side that unwinds a position. -/
def opposite : Side → Side
  | buy => sell
  | sell => buy

/-- What an order on a side is filled at. -/
def fill (side : Side) (price slippage : α) : α :=
  match side with
  | buy => price + slippage
  | sell => price - slippage

def text : Side → String
  | buy => "buy"
  | sell => "sell"

/-- The opposite of the opposite side is the side itself. -/
@[simp] theorem opposite_opposite (side : Side) : side.opposite.opposite = side := by
  cases side <;> rfl

end Side

/-- A trade: when, on which side and at what price it was opened, what it was closed at, and what it
is worth. -/
structure Position (α : Type) where
  date : Instant
  side : Side
  openPrice : α
  closePrice : Option α
  currentPrice : α
  profit : α
  deriving DecidableEq

namespace Position

variable {α : Type} [Scalar α]

/-- A position that has not been priced yet. -/
def opened (date : Instant) (side : Side) (openPrice : α) : Position α where
  date := date
  side := side
  openPrice := openPrice
  closePrice := none
  currentPrice := 0
  profit := 0

/-- A position is open until it has a close price. -/
def isOpen (position : Position α) : Bool := position.closePrice.isNone

/-- Prices a position, and closes it at that price if asked to. -/
def update (position : Position α) (price : α) (close : Bool) : Position α :=
  { position with
    currentPrice := price
    closePrice := if close then some price else position.closePrice
    profit := match position.side with
      | .buy => price - position.openPrice
      | .sell => position.openPrice - price }

end Position

/-! ## Trading books

A book holds at most one open position and prices it by the newest brick. Every fill, also that of a
mark, is made on the side that would execute it, so a round trip without a price change costs twice
the slippage.
-/

variable {α : Type} [Scalar α]

/-- A position priced at what unwinding it on a brick would be filled at. -/
def Position.markedOn (position : Position α) (slippage : α) (brick : Brick α) (close : Bool) :
    Position α :=
  position.update (position.side.opposite.fill brick.closePrice slippage) close

/-- The bricks seen so far, the closed positions in the order they were opened, and the open one. -/
structure Book (α : Type) where
  slippage : α
  bricks : Array (Brick α)
  closed : Array (Position α)
  current : Option (Position α)

namespace Book

/-- A book without bricks and positions. -/
def start (slippage : α) : Except (TradeFault α) (Book α) := do
  let slippage ← checkSlippage slippage
  return ⟨slippage, #[], #[], none⟩

/-- All positions in the order they were opened. -/
def positions (book : Book α) : List (Position α) :=
  book.closed.toList ++ book.current.toList

/-- A position as the newest brick prices it. -/
def priced (book : Book α) (position : Position α) (close : Bool) : Position α :=
  match book.bricks.back? with
  | none => position
  | some brick => position.markedOn book.slippage brick close

/-- Takes note of a new brick, which prices the open position. -/
def addBrick (book : Book α) (brick : Brick α) : Book α :=
  match book with
  | ⟨slippage, bricks, closed, current⟩ =>
    ⟨slippage, bricks.push brick, closed, current.map (·.markedOn slippage brick false)⟩

/-- Noting a brick closes nothing. -/
@[simp] theorem addBrick_closed (book : Book α) (brick : Brick α) :
    (book.addBrick brick).closed = book.closed := rfl

/-- A brick is noted behind the others. -/
@[simp] theorem addBrick_bricks (book : Book α) (brick : Brick α) :
    (book.addBrick brick).bricks = book.bricks.push brick := rfl

/-- A brick that is noted prices the open position. -/
@[simp] theorem addBrick_current (book : Book α) (brick : Brick α) :
    (book.addBrick brick).current =
      book.current.map (·.markedOn book.slippage brick false) := rfl

/-- Opens a position on a side at the newest brick. -/
def openPosition (book : Book α) (side : Side) : Except (TradeFault α) (Book α × Position α) :=
  match book.current, book.bricks.back? with
  | some _, _ => .error .positionAlreadyOpen
  | none, none => .error .noBricks
  | none, some brick =>
    let position := .opened brick.time side (side.fill brick.closePrice book.slippage)
    let position := book.priced position false
    .ok ({ book with current := some position }, position)

/-- Closes the open position at the newest brick. -/
def closePosition (book : Book α) : Except (TradeFault α) (Book α × Position α) :=
  match book.current with
  | none => .error .noOpenPosition
  | some position =>
    let position := book.priced position true
    .ok ({ book with closed := book.closed.push position, current := none }, position)

/-- Turns the book to a side: a position on the other side is closed first. -/
def follow (book : Book α) (side : Side) : Except (TradeFault α) (Book α) := do
  match book.current with
  | none => return (← book.openPosition side).1
  | some position =>
    if position.side = side then return book
    let (book, _) ← book.closePosition
    return (← book.openPosition side).1

end Book

end Renko
