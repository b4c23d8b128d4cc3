import Renko.Program

/-! # The program

The commands on the files of the system. The log and all output go to the standard error stream.
-/

namespace Renko.Main

/-- The reason for a failed file operation. -/
def reason : IO.Error → String
  | .noFileOrDirectory _ _ _ => StorageFault.missing.message
  | .alreadyExists _ _ _ => StorageFault.present.message
  | .inappropriateType _ 20 _ => StorageFault.notDirectory.message
  | .inappropriateType _ 21 _ => StorageFault.isDirectory.message
  | .permissionDenied _ code details => details ++ " (os error " ++ toString code ++ ")"
  | .otherError code details => details ++ " (os error " ++ toString code ++ ")"
  | other => toString other

/-- Reads what a path leads to. -/
def read (path : String) : IO (Except String StorageEntry) := do
  try
    return .ok (.file (← IO.FS.readBinFile path).toList)
  catch
    | .inappropriateType _ 21 _ => return .ok .directory
    | fault => return .error (reason fault)

/-- Saves a text under a path and makes the directories above it. -/
def save (path text : String) : IO (Except String Unit) := do
  try
    if let some above := (Path.read path).directories.head? then IO.FS.createDirAll above.text
    IO.FS.writeFile path text
    return .ok ()
  catch fault => return .error (reason fault)

def host : Host IO where
  read := read
  save := save
  log := IO.eprintln
  print := IO.eprint

/-- How the program is used. -/
def usage : String :=
  "Range bar builder and backtester\n\nCommands:\n" ++
  "  bricks    -c CONFIG [-t TICKS] [-o OUTPUT] [--unique]\n" ++
  "  backtest  -c CONFIG [-t TICKS] [-o OUTPUT] [--slippage SLIPPAGE]\n" ++
  "  validate  -c CONFIG\n"

/-- What is wrong with a command line. -/
def usageMessage : UsageFault → String
  | .help => usage
  | .nothingGiven => usage
  | .unknownVerb => "error: unknown command\n\n" ++ usage
  | .unknownWord => "error: unexpected argument\n\n" ++ usage
  | .missingValue => "error: an option lacks its value\n\n" ++ usage
  | .unwantedValue => "error: an option takes no value\n\n" ++ usage
  | .invalidNumber => "error: the slippage is not a number\n\n" ++ usage
  | .repeated => "error: an option is given twice\n\n" ++ usage
  | .missingConfig => "error: a configuration is required\n\n" ++ usage

end Renko.Main

/-- Runs the command of a command line. -/
def main (words : List String) : IO UInt32 := do
  match Renko.CommandLine.read words with
  | .ok command => return UInt32.ofNat (← Renko.Program.run Renko.Main.host command)
  | .error fault =>
    IO.eprint (Renko.Main.usageMessage fault)
    return UInt32.ofNat fault.exitStatus
