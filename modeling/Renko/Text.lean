import Renko.Text.Tables

/-! # Texts

What is done to texts as they are read and shown: they are cut, trimmed, folded, encoded and spelled
out.
-/

/-! ## Texts in pieces -/

namespace Renko.Text

/-- The pieces of a text between occurrences of a character; always at least one. -/
def split (separator : Char) (text : List Char) : List (List Char) :=
  let (piece, pieces) := text.foldr
    (fun c (piece, pieces) =>
      if c = separator then ([], piece :: pieces) else (c :: piece, pieces)) ([], [])
  piece :: pieces

/-! ## Blank characters

The characters with the Unicode property White_Space, and texts without those at their ends.
-/

def blankRanges : List CodeRange :=
  [(0x09, 0x0D), (0x20, 0x20), (0x85, 0x85), (0xA0, 0xA0), (0x1680, 0x1680), (0x2000, 0x200A),
    (0x2028, 0x2029), (0x202F, 0x202F), (0x205F, 0x205F), (0x3000, 0x3000)]

def isBlank (c : Char) : Bool := inRanges blankRanges c

/-- A text without the blanks at its end. -/
def trimEnd (text : List Char) : List Char := (text.reverse.dropWhile isBlank).reverse

/-- A text without the blanks at its ends. -/
def trim (text : List Char) : List Char := trimEnd (text.dropWhile isBlank)

/-! ## Lower case

Every character has its own lower case, but two are special: an I with a dot above keeps the dot as
a mark of its own, and a capital sigma is written differently at the end of a word.
-/

/-- The lower case of a character, where it does not depend on its neighbours. -/
def lowerChar (c : Char) : List Char :=
  if c.toNat < 128 then [c.toLower]
  else if c.toNat = 0x130 then ['i', Char.ofNat 0x307]
  else
    let run? := caseRuns.find? fun run =>
      decide (run.first ≤ c.toNat ∧ c.toNat ≤ run.last ∧ (c.toNat - run.first) % run.step = 0)
    match run? with
    | some run => [Char.ofNat (c.toNat + run.shift).toNat]
    | none => [c]

/-- Whether the next character that is not passed over has a case. -/
def meetsCased (text : List Char) : Bool :=
  ((text.dropWhile (inRanges ignorableRanges)).head?).any (inRanges casedRanges)

/-- The lower case of a capital sigma between two texts; the first is held backwards. It ends a word
if letters come before it and none after it. -/
def lowerSigma (before after : List Char) : Char :=
  if meetsCased before && !meetsCased after then 'ς' else 'σ'

/-- Puts the lower case of the text behind what has been done, which is held backwards, as is the
text before. -/
def lowerFrom (before done : List Char) : List Char → List Char
  | [] => done.reverse
  | c :: after =>
    let lower := if c = 'Σ' then [lowerSigma before after] else lowerChar c
    lowerFrom (c :: before) (lower.reverse ++ done) after

def lower (text : String) : String := String.ofList (lowerFrom [] [] text.toList)

end Renko.Text

/-! ## Texts as bytes

A list of bytes is a text if characters, each in its shortest encoding, follow one another without a
gap.
-/

namespace Renko.Utf8

/-- The text that bytes encode. -/
def decode? (bytes : List UInt8) : Option String := String.fromUTF8? bytes.toByteArray

/-- The index at which characters stop following one another, at or behind `index`. The first
argument bounds the number of characters. -/
def stopFrom (bytes : ByteArray) : Nat → Nat → Nat
  | 0, index => index
  | fuel + 1, index =>
    match bytes.utf8DecodeChar? index with
    | none => index
    | some c => stopFrom bytes fuel (index + c.utf8Size)

/-- How many bytes at the start of a list encode characters. -/
def validLength (bytes : List UInt8) : Nat :=
  stopFrom bytes.toByteArray bytes.length 0

end Renko.Utf8

/-! ## Characters by their numbers

A character that cannot stand in a text as it is can be given by its code point.
-/

namespace Renko.Text

/-- The code point of a character in hexadecimal, between braces. -/
def spelled (c : Char) : List Char :=
  "\\u\x7b".toList ++ Nat.toDigits 16 c.toNat ++ ['\x7d']

/-- The code point of a character in two hexadecimal digits. -/
def spelledShort (c : Char) : List Char :=
  ['\\', 'x', Nat.digitChar (c.toNat / 16), Nat.digitChar (c.toNat % 16)]

/-! ## Quoted texts

A text in a message stands between quotes. Quotes and backslashes in it are marked, line ends and
other characters that do not show are spelled out.
-/

/-- A character as it stands in a quoted text. -/
def quotedChar (c : Char) : List Char :=
  if c = '"' ∨ c = '\\' then ['\\', c]
  else if c = '\n' then ['\\', 'n']
  else if c = '\r' then ['\\', 'r']
  else if c = '\t' then ['\\', 't']
  else if c.toNat = 0 then ['\\', '0']
  else if c.toNat < 32 then spelled c
  else if c.toNat < 127 then [c]
  else if inRanges hiddenRanges c then spelled c
  else [c]

def quoted (text : String) : String :=
  String.ofList ('"' :: text.toList.flatMap quotedChar ++ ['"'])

/-! ## Texts for a terminal

A terminal takes some control characters as commands: those that ring, step back, feed a page, begin
an escape or delete, and the second set of control characters. A log spells them out, so that a
text from outside is shown and not obeyed. The others, among them line ends and tabs, stay.
-/

/-- The commands to a terminal among the first control characters. -/
def commandCodes : List Nat := [0x07, 0x08, 0x0C, 0x1B, 0x7F]

/-- A character as it stands in a log. -/
def loggedChar (c : Char) : List Char :=
  if commandCodes.contains c.toNat then spelledShort c
  else if 0x80 ≤ c.toNat ∧ c.toNat ≤ 0x9F then spelled c
  else [c]

/-- A text as it stands in a log. -/
def logged (text : String) : String := String.ofList (text.toList.flatMap loggedChar)

end Renko.Text
