import Renko.Backtest
import Renko.Fault
import Renko.Ini
import Renko.Number.Reader
import Renko.Text

/-! # The configuration of a run

What a settings file must hold for a run, and what it may: a brick size in `[range]`, slippage,
symbol and whether to close at the end in `[backtest]`, whether to leave out repeated bricks in
`[report]`, and paths.
-/

namespace Renko

namespace Config

/-- Reads the text of a settings file under the name it is reported by. -/
def readText (file text : String) : Except Fault Ini :=
  match Ini.read text with
  | .ok ini => .ok ini
  | .error cause => .error (.configParse file cause.message)

/-- Reads the value of a key as a number. -/
def number (group key raw : String) : Except Fault Float :=
  match Binary64.read (String.ofList (Text.trim raw.toList)) with
  | .ok value => .ok value
  | .error _ => .error (.configInvalid group key ("expected a number, got " ++ Text.quoted raw))

/-- The brick size, which must be given. -/
def brickSize (ini : Ini) : Except Fault Float := do
  match ini.get? "range" "brick_size" with
  | none => throw (.configMissing "range" "brick_size")
  | some raw =>
    let value ← number "range" "brick_size" raw
    if validBrickSize value then return value
    else throw (.configInvalid "range" "brick_size" "brick_size must be positive")

/-- The slippage, zero where none is given. -/
def slippage (ini : Ini) : Except Fault Float := do
  match ini.get? "backtest" "slippage" with
  | none => return 0
  | some raw =>
    let value ← number "backtest" "slippage" raw
    if validSlippage value then return value
    else throw (.configInvalid "backtest" "slippage" "slippage must be non-negative")

/-- A truth value may be left out, but must be one where it is given: then what is read does not
depend on the default. -/
def checkFlag (ini : Ini) (group key : String) : Except Fault Unit :=
  match ini.get? group key with
  | none => .ok ()
  | some raw =>
    if ini.flag group key true = ini.flag group key false then .ok ()
    else .error (.configInvalid group key ("expected a boolean, got " ++ Text.quoted raw))

/-- Checks every key that a run depends on. The first fault is reported. -/
def validate (ini : Ini) : Except Fault Unit := do
  discard (brickSize ini)
  discard (slippage ini)
  checkFlag ini "backtest" "close_at_end"
  checkFlag ini "report" "unique_bricks"

/-- The symbol, or a word for an unknown one. -/
def symbol (ini : Ini) : String :=
  match ini.get? "backtest" "symbol" with
  | none => "UNKNOWN"
  | some symbol => if (Text.trim symbol.toList).isEmpty then "UNKNOWN" else symbol

/-- The slippage of a run, which a given one replaces. -/
def runSlippage (ini : Ini) (override : Option Float) : Except Fault Float :=
  match override with
  | none => slippage ini
  | some value => Fault.ofTrade (checkSlippage value)

/-- What a backtest is set up with. A given slippage replaces that of the file. -/
def backtestSetup (ini : Ini) (override : Option Float) :
    Except Fault (BacktestSetup Float) := do
  let slippage ← runSlippage ini override
  let brickSize ← brickSize ini
  return ⟨symbol ini, brickSize, slippage, ini.flag "backtest" "close_at_end" true⟩

/-- A given path, else the one in the file unless it is blank. -/
def path? (ini : Ini) (override : Option String) (group key : String) : Option String :=
  match override with
  | some path => some path
  | none =>
    match (ini.get? group key).map fun raw => Text.trim raw.toList with
    | none => none
    | some [] => none
    | some path => some (String.ofList path)

end Config

end Renko
