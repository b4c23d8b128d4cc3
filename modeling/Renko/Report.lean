import Renko.Book
import Renko.Calendar
import Renko.Chart
import Renko.Fault

/-! # Reports

Bricks and positions are written as comma separated rows under a header line. The header comes with
the first row, so a report without rows is empty. No field needs quotes: none holds a comma, a quote
or a line end. A report is sent through a buffer, which decides when a receiver that refuses it is
noticed.
-/

namespace Renko

namespace Report

/-- The text of a number in a report. -/
def number (x : Float) : String := NumberStyle.report.write x

def brickFields (brick : Brick Float) : List String :=
  [brick.time.text, brick.kind.text, number brick.openPrice, number brick.high, number brick.low,
    number brick.closePrice, toString brick.ticks.toNat, number brick.volume]

def brickHeader : List String :=
  ["time", "kind", "open", "high", "low", "close", "ticks_count", "volume"]

/-- The fields of a position. A position that is not closed has an empty one. -/
def positionFields (position : Position Float) : List String :=
  [position.date.text, position.side.text, number position.openPrice,
    (position.closePrice.map number).getD "", number position.currentPrice,
    number position.profit]

def positionHeader : List String :=
  ["date", "side", "open_price", "close_price", "current_price", "profit"]

def line (fields : List String) : String := ",".intercalate fields ++ "\n"

/-- The lines of a report: the header and the rows, or nothing if there are no rows. -/
def lines (header : List String) (rows : List (List String)) : List String :=
  if rows.isEmpty then [] else line header :: rows.map line

def ofBricks (bricks : List (Brick Float)) : List String :=
  lines brickHeader (bricks.map brickFields)

def ofPositions (positions : List (Position Float)) : List String :=
  lines positionHeader (positions.map positionFields)

def text (lines : List String) : String := String.join lines

/-- Who takes the text of a report: someone who keeps it, or someone who refuses every byte. -/
inductive Receiver
  | keeping
  | refusing (reason : String)

/-- How many bytes may wait before they are handed to the receiver. -/
def bufferSize : Nat := 8192

/-- Hands lines to a receiver that refuses them, behind the bytes that already wait. A line that
finds no room makes the waiting bytes be handed on and fails with them; bytes that never lack room
fail at the end. -/
def refuse (reason : String) : Nat → List String → Except Fault Unit
  | waiting, [] => if waiting = 0 then .ok () else .error (.storage reason)
  | waiting, line :: rest =>
    let waiting := waiting + line.utf8ByteSize
    if bufferSize < waiting then .error (.tickData ("CSV write error: " ++ reason))
    else refuse reason waiting rest

/-- Sends a report to a receiver, with the text that it keeps. -/
def send (receiver : Receiver) (lines : List String) : Except Fault String :=
  match receiver with
  | .keeping => .ok (text lines)
  | .refusing reason => do
    refuse reason 0 lines
    return ""

end Report

end Renko
