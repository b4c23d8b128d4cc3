import Renko.CommandLine
import Renko.Host
import Renko.Summary.Text
import Renko.Text

/-! # The commands

Every command first loads and checks its configuration. What goes wrong is logged, and decides the
status the program exits with.
-/

namespace Renko

namespace Program

variable {m : Type → Type} [Monad m]

def loadConfig (host : Host m) (path : String) : ExceptT Fault m Ini := do
  let ini ← host.readIni path
  Desk.settle (Config.validate ini)
  return ini

/-- The path of the ticks, which must be given or configured. -/
def ticksPath (ini : Ini) (given : Option String) : Except Fault String :=
  match Config.path? ini given "backtest" "ticks" with
  | some path => .ok path
  | none => .error (.configMissing "backtest" "ticks")

/-- The path of a report, which may be given or configured. -/
def reportPath (ini : Ini) (given : Option String) (key default : String) : String :=
  (Config.path? ini given "report" key).getD default

def bricks (host : Host m) (config : String) (ticks output : Option String) (unique : Bool) :
    ExceptT Fault m Unit := do
  let ini ← loadConfig host config
  let source ← Desk.settle (ticksPath ini ticks)
  let report := reportPath ini output "bricks_output" "bricks.csv"
  let unique := unique || ini.flag "report" "unique_bricks" false
  discard (host.desk.reportBricks ini source report unique)

/-- What is shown after a backtest. -/
def resultText (symbol : String) (summary : Summary Float) : String :=
  "\n=== " ++ symbol ++ " ===\n" ++ summary.text

/-- Trades on a tick file and shows what that earned. -/
def backtest (host : Host m) (config : String) (ticks output : Option String)
    (slippage : Option Float) : ExceptT Fault m Unit := do
  let ini ← loadConfig host config
  let setup ← Desk.settle (Config.backtestSetup ini slippage)
  let source ← Desk.settle (ticksPath ini ticks)
  let report := reportPath ini output "positions_output" "positions.csv"
  let result ← host.desk.reportBacktest ini setup source report
  host.print (resultText setup.symbol result.summary)

/-- What is shown of a configuration. -/
def setupText (setup : BacktestSetup Float) (schedule : Option String) : String :=
  "\nConfiguration:\n" ++
  "  symbol:       " ++ setup.symbol ++ "\n" ++
  "  brick_size:   " ++ NumberStyle.message.write setup.brickSize ++ "\n" ++
  "  slippage:     " ++ NumberStyle.message.write setup.slippage ++ "\n" ++
  "  close_at_end: " ++ (if setup.closeAtEnd then "true" else "false") ++ "\n" ++
  (schedule.elim "" fun path => "  schedule:     " ++ path ++ "\n") ++
  "\nConfiguration is valid.\n"

def validate (host : Host m) (config : String) : ExceptT Fault m Unit := do
  let ini ← loadConfig host config
  let setup ← Desk.settle (Config.backtestSetup ini none)
  host.print (setupText setup (Config.path? ini none "range" "schedule"))

def perform (host : Host m) : Command → ExceptT Fault m Unit
  | .bricks config ticks output unique => bricks host config ticks output unique
  | .backtest config ticks output slippage => backtest host config ticks output slippage
  | .validate config => validate host config

/-- Runs a command to its exit status. -/
def run (host : Host m) (command : Command) : m Nat := do
  match ← (perform host command).run with
  | .ok () => return 0
  | .error fault =>
    host.log ("ERROR " ++ Text.logged fault.message)
    return fault.exitStatus

end Program

end Renko
