import Renko.Schedule
import Renko.Tick.Table

/-! # Schedule tables

Schedules are read from the columns `time_msc` and `brick_size` of a table. The sizes are checked
once all rows have been read.
-/

namespace Renko

/-- A row of a schedule table as far as it has been read. -/
structure EntryCells where
  stamp : Option Int
  size : Option Float

namespace EntryCells

def schema : Csv.Schema EntryCells (Int × Float) where
  title := "ScheduleRecord"
  columns :=
    [⟨Csv.stampColumn, fun row => row.stamp.isSome, fun text row => do
        return { row with stamp := some (← Whole.read text) }⟩,
      ⟨"brick_size", fun row => row.size.isSome, fun text row => do
        return { row with size := some (← Binary64.read text) }⟩]
  blank := ⟨none, none⟩
  finish
    | ⟨some stamp, some size⟩ => .ok (stamp, size)
    | ⟨none, _⟩ => .error Csv.stampColumn
    | ⟨_, none⟩ => .error "brick_size"

end EntryCells

namespace Schedule

/-- Reads the entries of a schedule table, in the order of its rows. -/
def readTable (bytes : List UInt8) : Except Csv.RowFault (List (ScheduleEntry Float)) :=
  EntryCells.schema.readRows
    (fun row (stamp, size) => do return ⟨← Csv.instantOf row stamp, size⟩) bytes

/-- Reads a schedule; what is wrong with a row is a fault of the data, an invalid size is one of the
schedule. -/
def readData (bytes : List UInt8) : Except Fault (Schedule Float) :=
  match readTable bytes with
  | .ok entries => Fault.ofTrade (ofEntries entries)
  | .error cause => .error (.tickData cause.message)

end Schedule

end Renko
