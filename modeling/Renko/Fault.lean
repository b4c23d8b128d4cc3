import Renko.Number.Text
import Renko.Scalar

/-! # What can go wrong

Everything that ends a command early, with the wording that is logged and the status the program
exits with.
-/

namespace Renko

def TradeFault.message : TradeFault Float → String
  | invalidBrickSize value =>
    "invalid brick size " ++ NumberStyle.message.write value ++
      ": must be a finite value greater than zero"
  | invalidSlippage value =>
    "invalid slippage " ++ NumberStyle.message.write value ++
      ": must be a finite value of zero or more"
  | positionAlreadyOpen => "position already open"
  | noOpenPosition => "no open position to close"
  | noBricks => "no bricks available to price a position"

/-- Why a command ends early: a refused trade, a configuration that cannot be read, lacks a key or
holds an unusable value, unusable tick or schedule data, or a failing file. -/
inductive Fault
  | trade (cause : TradeFault Float)
  | configParse (file reason : String)
  | configMissing (group key : String)
  | configInvalid (group key reason : String)
  | tickData (reason : String)
  | storage (reason : String)

namespace Fault

def message : Fault → String
  | trade cause => cause.message
  | configParse file reason => "config parse error in " ++ file ++ ": " ++ reason
  | configMissing group key => "missing config key [" ++ group ++ "] " ++ key
  | configInvalid group key reason =>
    "invalid config value [" ++ group ++ "] " ++ key ++ ": " ++ reason
  | tickData reason => "tick data error: " ++ reason
  | storage reason => reason

def exitStatus : Fault → Nat
  | storage _ => 1
  | configParse _ _ => 2
  | configMissing _ _ => 2
  | configInvalid _ _ _ => 2
  | tickData _ => 3
  | trade _ => 4

/-- A result of trading as the result of a command. -/
def ofTrade {β : Type} : Except (TradeFault Float) β → Except Fault β
  | .ok value => .ok value
  | .error cause => .error (trade cause)

end Fault

end Renko
