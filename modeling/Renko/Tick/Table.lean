import Renko.Csv
import Renko.Fault
import Renko.Tick

/-! # Tick tables

Ticks are read from the columns `time_msc`, `last` and `volume_real` of a table.
-/

namespace Renko

namespace Csv

/-- A time stamp is a whole number of milliseconds. -/
def stampColumn : String := "time_msc"

/-- Turns a row's stamp into an instant that the calendar reaches. -/
def instantOf (row : Nat) (ms : Int) : Except RowFault Instant :=
  match Instant.ofMillis? ms with
  | some time => .ok time
  | none => .error (.outOfRange row ms)

end Csv

/-- A row of a tick table as far as it has been read. -/
structure TickCells where
  stamp : Option Int
  price : Option Float
  volume : Option Float

namespace TickCells

def schema : Csv.Schema TickCells (Int × Float × Float) where
  title := "TickRecord"
  columns :=
    [⟨Csv.stampColumn, fun row => row.stamp.isSome, fun text row => do
        return { row with stamp := some (← Whole.read text) }⟩,
      ⟨"last", fun row => row.price.isSome, fun text row => do
        return { row with price := some (← Binary64.read text) }⟩,
      ⟨"volume_real", fun row => row.volume.isSome, fun text row => do
        return { row with volume := some (← Binary64.read text) }⟩]
  blank := ⟨none, none, none⟩
  finish
    | ⟨some stamp, some price, some volume⟩ => .ok (stamp, price, volume)
    | ⟨none, _, _⟩ => .error Csv.stampColumn
    | ⟨_, none, _⟩ => .error "last"
    | ⟨_, _, none⟩ => .error "volume_real"

end TickCells

/-- Reads a tick table, in the order of its rows. -/
def Tick.readTable (bytes : List UInt8) : Except Csv.RowFault (List (Tick Float)) :=
  TickCells.schema.readRows
    (fun row (stamp, price, volume) => do return ⟨← Csv.instantOf row stamp, price, volume⟩) bytes

/-- Reads tick data; what is wrong with it is a fault of the data. -/
def Tick.readData (bytes : List UInt8) : Except Fault (List (Tick Float)) :=
  match Tick.readTable bytes with
  | .ok ticks => .ok ticks
  | .error cause => .error (.tickData cause.message)

end Renko
