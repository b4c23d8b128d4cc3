import Renko.Text

/-! # Settings in sections

A settings file has one setting or one section head on a line. A semicolon or a number sign starts a
comment, blanks at the ends of a line do not count, and lines with nothing else are passed over. A
head stands in brackets, up to the last closing one. A setting is a key and a value with `=` or `:`
between them, whichever comes first, or a key alone. Sections and keys are the same in any case. A
later setting replaces an earlier one of the same key, also if it has no value.
-/

namespace Renko

/-- A line that sets a key, with its section. -/
structure Setting where
  group : String
  key : String
  value : Option String
  deriving DecidableEq

/-- The settings of a file, the last line first. -/
structure Ini where
  settings : List Setting

/-- Why a settings file cannot be read, with the number of the line. -/
inductive IniFault
  | unclosedHead (line : Nat)
  | emptyKey (line : Nat)
  deriving DecidableEq

namespace IniFault

def message : IniFault → String
  | unclosedHead line =>
    "line " ++ toString line ++
      ": Found opening bracket for section name but no closing bracket"
  | emptyKey line => "line " ++ toString line ++ ":0: Key cannot be empty"

end IniFault

namespace Ini

/-- What a line says. -/
inductive Line
  | nothing
  | head (group : String)
  | setting (key : String) (value : Option String)
  | unclosedHead
  | emptyKey
  deriving DecidableEq

/-- The section of settings that stand before the first head. -/
def firstGroup : String := "default"

def startsComment (c : Char) : Bool := c == ';' || c == '#'

def endsKey (c : Char) : Bool := c == '=' || c == ':'

/-- A key, a section or the name of one, whose case does not count. -/
def folded (text : List Char) : String := Text.lower (String.ofList text)

def readLine (line : List Char) : Line :=
  match Text.trim (line.takeWhile (!startsComment ·)) with
  | [] => .nothing
  | '[' :: rest =>
    match rest.reverse.dropWhile (· != ']') with
    | [] => .unclosedHead
    | _ :: inner => .head (folded (Text.trim inner.reverse))
  | text =>
    match text.takeWhile (!endsKey ·), text.dropWhile (!endsKey ·) with
    | key, [] => .setting (folded key) none
    | [], _ => .emptyKey
    | key, _ :: value =>
      .setting (folded (Text.trim key)) (some (String.ofList (Text.trim value)))

/-- A file that has been read up to a line: the section it is in, and the settings so far, the last
one first. -/
abbrev Progress := String × List Setting

/-- Takes one line, with its number counted from zero. -/
def takeLine (progress : Progress) (line : List Char × Nat) : Except IniFault Progress :=
  match readLine line.1 with
  | .nothing => .ok progress
  | .head group => .ok (group, progress.2)
  | .setting key value => .ok (progress.1, ⟨progress.1, key, value⟩ :: progress.2)
  | .unclosedHead => .error (.unclosedHead (line.2 + 1))
  | .emptyKey => .error (.emptyKey (line.2 + 1))

def read (text : String) : Except IniFault Ini := do
  let (_, settings) ← (Text.split '\n' text.toList).zipIdx.foldlM takeLine (firstGroup, [])
  return ⟨settings⟩

/-- The value of a key in a section. -/
def get? (ini : Ini) (group key : String) : Option String :=
  let group := Text.lower group
  let key := Text.lower key
  (ini.settings.find? fun setting => setting.group == group && setting.key == key).bind (·.value)

/-- Reads a truth value, in any case. -/
def readFlag (text : String) : Option Bool :=
  match folded (Text.trim text.toList) with
  | "true" | "yes" | "1" => some true
  | "false" | "no" | "0" => some false
  | _ => none

/-- The truth value of a key, or the given one where the key has none. -/
def flag (ini : Ini) (group key : String) (default : Bool) : Bool :=
  ((ini.get? group key).bind readFlag).getD default

end Ini

end Renko
