import Renko.Desk
import Renko.Report
import Renko.Schedule.Table
import Renko.Tick.Table

/-! # A desk that keeps a record

A desk without files: its sources are functions, and everything handed to it is kept in order, also
when the run fails later.
-/

namespace Renko.Desk

/-- Something handed to a desk. -/
inductive Delivery
  | bricks (path : String) (bricks : List (Brick Float))
  | positions (path : String) (positions : List (Position Float))
  | rejected (count total : Nat)

namespace Delivery

def report? : Delivery → Option (String × String)
  | bricks path rows => some (path, Report.text (Report.ofBricks rows))
  | positions path rows => some (path, Report.text (Report.ofPositions rows))
  | rejected _ _ => none

end Delivery

/-- A run whose deliveries are kept, the last one first. -/
abbrev Recorded := ExceptT Fault (StateM (List Delivery))

def keep (delivery : Delivery) : Recorded Unit := modify (delivery :: ·)

/-- The desk with the given sources. -/
def recorded (ticks : String → Except Fault (List (Tick Float)))
    (schedule : String → Except Fault (Schedule Float)) : Desk Recorded where
  ticks source := settle (ticks source)
  schedule source := settle (schedule source)
  writeBricks path bricks := keep (.bricks path bricks)
  writePositions path positions := keep (.positions path positions)
  warnRejected count total := keep (.rejected count total)

/-- Runs from the first delivery on; the deliveries are in order. -/
def Recorded.perform {β : Type} (run : Recorded β) : Except Fault β × List Delivery :=
  let (result, deliveries) := StateT.run (ExceptT.run run) []
  (result, deliveries.reverse)

/-- The bytes that stand under a path. -/
def source (sources : List (String × List UInt8)) (path : String) : Except Fault (List UInt8) :=
  match sources.lookup path with
  | some bytes => .ok bytes
  | none => .error (.tickData ("no source " ++ path))

/-- The desk whose sources are tables under paths. -/
def ofTables (sources : List (String × List UInt8)) : Desk Recorded :=
  recorded (fun path => do Tick.readData (← source sources path))
    (fun path => do Schedule.readData (← source sources path))

end Renko.Desk
