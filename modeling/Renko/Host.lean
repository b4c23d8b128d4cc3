import Renko.Desk.Recorded
import Renko.Storage
import Renko.Text

/-! # The host of a program

What the program asks of the system it runs on: files, a log, and a place to print. The commands are
written over any host.
-/

namespace Renko

/-- Files, log and output. Where a file cannot be used the host gives the reason. -/
structure Host (m : Type → Type) where
  /-- What a path leads to. -/
  read : String → m (Except String StorageEntry)
  /-- Saves a text under a path and makes the directories above it. -/
  save : String → String → m (Except String Unit)
  /-- Adds a line to the log. -/
  log : String → m Unit
  /-- Prints a text. -/
  print : String → m Unit

namespace Host

variable {m : Type → Type} [Monad m]

/-- The bytes of a table. A directory has no rows. -/
def readTable (host : Host m) (path : String) : ExceptT Fault m (List UInt8) := do
  match ← host.read path with
  | .ok (.file bytes) => return bytes
  | .ok .directory => return []
  | .error reason => throw (.tickData ("failed to read " ++ path ++ ": " ++ reason))

def readIni (host : Host m) (path : String) : ExceptT Fault m Ini := do
  let refuse {β : Type} (reason : String) : ExceptT Fault m β :=
    throw (.configParse path ("couldn't read " ++ path ++ ": " ++ reason))
  match ← host.read path with
  | .error reason => refuse reason
  | .ok .directory => refuse StorageFault.isDirectory.message
  | .ok (.file bytes) =>
    match Utf8.decode? bytes with
    | none => refuse "stream did not contain valid UTF-8"
    | some text =>
      match Ini.read text with
      | .error cause => refuse cause.message
      | .ok ini => return ini

def saveReport (host : Host m) (path : String) (lines : List String) : ExceptT Fault m Unit := do
  match ← host.save path (Report.text lines) with
  | .ok () => return
  | .error reason => throw (.storage reason)

/-- The log line on rejected ticks. -/
def rejectedLine (rejected total : Nat) : String :=
  "WARN skipped out-of-order or invalid ticks rejected=" ++ toString rejected ++ " total=" ++
    toString total

/-- The desk whose sources and reports are files. -/
def desk (host : Host m) : Desk (ExceptT Fault m) where
  ticks path := do Desk.settle (Tick.readData (← host.readTable path))
  schedule path := do Desk.settle (Schedule.readData (← host.readTable path))
  writeBricks path bricks := host.saveReport path (Report.ofBricks bricks)
  writePositions path positions := host.saveReport path (Report.ofPositions positions)
  warnRejected rejected total := host.log (rejectedLine rejected total)

end Host

end Renko
