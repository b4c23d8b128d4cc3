import Renko.Number.Reader

/-! # The command line

A command is a verb with options behind it. An option is written in full behind two hyphens or,
if it has a letter, as that letter behind one; its value follows as the next word, or in the same
word, where an equals sign may stand before it. A word that starts with a hyphen is never a
value, except a hyphen alone. Behind two hyphens no options follow, and since no command takes
further words, none may follow at all.

A value is judged when the next option is met or the words end. So an unknown word behind it is
reported before a faulty value, and help asked for behind it is not.
-/

namespace Renko

/-- What the program is asked to do. -/
inductive Command
  | bricks (config : String) (ticks output : Option String) (unique : Bool)
  | backtest (config : String) (ticks output : Option String) (slippage : Option Float)
  | validate (config : String)

/-- Why the words of a command line are no command. Help is among the reasons. -/
inductive UsageFault
  | help
  | nothingGiven
  | unknownVerb
  | unknownWord
  | missingValue
  | unwantedValue
  | invalidNumber
  | repeated
  | missingConfig
  deriving DecidableEq

def UsageFault.exitStatus : UsageFault → Nat
  | help => 0
  | _ => 2

namespace CommandLine

inductive Verb
  | bricks
  | backtest
  | validate
  deriving DecidableEq

def Verb.ofWord? : String → Option Verb
  | "bricks" => some .bricks
  | "backtest" => some .backtest
  | "validate" => some .validate
  | _ => none

/-- The word that asks for help on a verb. -/
def helpWord : String := "help"

inductive Choice
  | config
  | ticks
  | output
  | slippage
  | unique
  | help
  deriving DecidableEq

namespace Choice

def ofName? : String → Option Choice
  | "config" => some .config
  | "ticks" => some .ticks
  | "output" => some .output
  | "slippage" => some .slippage
  | "unique" => some .unique
  | "help" => some .help
  | _ => none

def ofLetter? : Char → Option Choice
  | 'c' => some .config
  | 't' => some .ticks
  | 'o' => some .output
  | 'h' => some .help
  | _ => none

def takesValue : Choice → Bool
  | unique => false
  | help => false
  | _ => true

def belongsTo (verb : Verb) : Choice → Bool
  | config => true
  | help => true
  | ticks => verb != .validate
  | output => verb != .validate
  | slippage => verb == .backtest
  | unique => verb == .bricks

end Choice

/-- What a word looks like, whatever it names. -/
inductive Word
  | ending
  | long (name : String) (value : Option String)
  | short (letter : Char) (rest : List Char)
  | plain (text : String)

def Word.ofString (text : String) : Word :=
  match text.toList with
  | ['-', '-'] => ending
  | '-' :: '-' :: rest =>
    let name := String.ofList (rest.takeWhile (· != '='))
    match rest.dropWhile (· != '=') with
    | [] => long name none
    | _ :: value => long name (some (String.ofList value))
  | '-' :: letter :: rest => short letter rest
  | _ => plain text

/-- The value in the same word as a letter: what follows it, without an equals sign in front. -/
def attached : List Char → Option String
  | [] => none
  | '=' :: rest => some (String.ofList rest)
  | rest => some (String.ofList rest)

/-- The options read so far. -/
structure Given where
  config : Option String
  ticks : Option String
  output : Option String
  slippage : Option Float
  unique : Bool

namespace Given

def nothing : Given := ⟨none, none, none, none, false⟩

/-- Takes a path, unless there is one already. A path is not empty. -/
def path (old : Option String) (value : String) : Except UsageFault (Option String) :=
  if old.isSome then .error .repeated
  else if value.isEmpty then .error .missingValue
  else .ok (some value)

/-- Takes an option with its value. -/
def put (given : Given) (choice : Choice) (value : String) : Except UsageFault Given :=
  match choice with
  | .config => do return { given with config := ← path given.config value }
  | .ticks => do return { given with ticks := ← path given.ticks value }
  | .output => do return { given with output := ← path given.output value }
  | .slippage =>
    if given.slippage.isSome then .error .repeated
    else
      match Binary64.read value with
      | .ok number => .ok { given with slippage := some number }
      | .error _ => .error .invalidNumber
  | .unique => if given.unique then .error .repeated else .ok { given with unique := true }
  | .help => .error .help

/-- The command of a verb with these options. -/
def command (given : Given) (verb : Verb) : Except UsageFault Command :=
  match given.config with
  | none => .error .missingConfig
  | some config =>
    match verb with
    | .bricks => .ok (.bricks config given.ticks given.output given.unique)
    | .backtest => .ok (.backtest config given.ticks given.output given.slippage)
    | .validate => .ok (.validate config)

end Given

/-- The options read so far, with one whose value has not been judged yet, or is still to come. -/
structure Progress where
  given : Given
  pending : Option (Choice × Option String)

namespace Progress

/-- Judges the option that is pending. -/
def settle (progress : Progress) : Except UsageFault Given :=
  match progress.pending with
  | none => .ok progress.given
  | some (_, none) => .error .missingValue
  | some (choice, some value) => progress.given.put choice value

/-- Takes an option, with the value in the same word if there is one. -/
def takeChoice (progress : Progress) (choice : Choice) (value : Option String) :
    Except UsageFault Progress := do
  let given ← progress.settle
  if choice.takesValue then
    match value with
    | some value => return ⟨← given.put choice value, none⟩
    | none => return ⟨given, some (choice, none)⟩
  else return ⟨← given.put choice "", none⟩

/-- Takes a word in front of an ending. -/
def takeWord (verb : Verb) (progress : Progress) : Word → Except UsageFault Progress
  | .ending => .ok progress
  | .long name value =>
    match (Choice.ofName? name).filter (·.belongsTo verb) with
    | none => .error .unknownWord
    | some choice =>
      if value.isSome && !choice.takesValue then .error .unwantedValue
      else progress.takeChoice choice value
  | .short letter rest =>
    match (Choice.ofLetter? letter).filter (·.belongsTo verb) with
    | none => .error .unknownWord
    | some choice => progress.takeChoice choice (attached rest)
  | .plain text =>
    match progress.pending with
    | some (choice, none) => .ok ⟨progress.given, some (choice, some text)⟩
    | _ => .error .unknownWord

/-- Takes words until they end; nothing may follow an ending. -/
def takeWords (verb : Verb) : Progress → List String → Except UsageFault Progress
  | progress, [] => .ok progress
  | progress, text :: rest =>
    match Word.ofString text, rest with
    | .ending, [] => .ok progress
    | .ending, _ :: _ => .error .unknownWord
    | word, rest =>
      match progress.takeWord verb word with
      | .ok progress => takeWords verb progress rest
      | .error fault => .error fault

end Progress

def readOptions (verb : Verb) (words : List String) : Except UsageFault Command := do
  let progress ← Progress.takeWords verb ⟨.nothing, none⟩ words
  (← progress.settle).command verb

/-- What follows the word for help: nothing, a verb or that word once more. -/
def readHelp : List String → UsageFault
  | [] => .help
  | [word] => if (Verb.ofWord? word).isSome || word == helpWord then .help else .unknownVerb
  | _ => .unknownVerb

def read : List String → Except UsageFault Command
  | [] => .error .nothingGiven
  | text :: rest =>
    match Verb.ofWord? text with
    | some verb => readOptions verb rest
    | none =>
      if text = helpWord then .error (readHelp rest)
      else
        match Word.ofString text with
        | .ending =>
          match rest with
          | [] => .error .nothingGiven
          | next :: _ =>
            if (Verb.ofWord? next).isSome || next == helpWord then .error .unknownWord
            else .error .unknownVerb
        | .long "help" none => .error .help
        | .long "help" (some _) => .error .unwantedValue
        | .short 'h' _ => .error .help
        | .long _ _ => .error .unknownWord
        | .short _ _ => .error .unknownWord
        | .plain _ => .error .unknownVerb

end CommandLine

end Renko
