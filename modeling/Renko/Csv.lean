import Renko.Number.Reader
import Renko.Text

/-! # Comma separated text

A text is cut into records, and records under a header are the rows of a table.
-/

/-! ## Records of comma separated text

Fields are separated by commas, records by line ends: a line feed, a carriage return, or both.
Empty lines are no records. A field that starts with a quote runs to the next single quote,
whatever stands in between; two quotes inside it stand for one, and what follows the closing
quote up to the next comma or line end is added to the field. A quote inside a field that does
not start with one is an ordinary character. The end of the text ends a record, also inside
quotes. A byte order mark at the start is no part of the text, but counts in offsets.

The reader is a machine that takes one byte at a time and finishes at the end of the text.
-/

namespace Renko.Csv

/-- A place in a text: how many bytes come before it, and its line, counted from one. -/
structure Mark where
  offset : Nat
  line : Nat
  deriving DecidableEq

namespace Mark

def start : Mark := ⟨0, 1⟩

/-- The place behind one more byte. -/
def pass (mark : Mark) (byte : UInt8) : Mark :=
  ⟨mark.offset + 1, if byte = 10 then mark.line + 1 else mark.line⟩

end Mark

/-- The fields of a record, how many records come before it, and where the record before it
ended. -/
structure Record where
  index : Nat
  mark : Mark
  fields : List (List UInt8)
  deriving DecidableEq

/-- What the reader is inside of. -/
inductive Place
  /-- Between two records. -/
  | lineStart
  /-- Before the first byte of a field that follows a comma. -/
  | fieldStart
  /-- In a field, or in what follows its closing quote. -/
  | inField
  /-- In a quoted field. -/
  | inQuotes
  /-- Behind a quote in a quoted field, which closes it unless another quote follows. -/
  | afterQuote
  deriving DecidableEq

/-- The state of the reader. Bytes, fields and records are held last first. -/
structure Scanner where
  place : Place
  field : List UInt8
  fields : List (List UInt8)
  records : List Record
  /-- The number of records. -/
  count : Nat
  /-- Where the last record ended. -/
  ended : Mark
  here : Mark

namespace Scanner

/-- The reader at the start of a text. -/
def start (here : Mark) : Scanner :=
  { place := .lineStart, field := [], fields := [], records := [], count := 0, ended := .start
    here }

def endField (scanner : Scanner) : Scanner :=
  { scanner with
    place := .fieldStart
    field := []
    fields := scanner.field.reverse :: scanner.fields }

def endRecord (scanner : Scanner) : Scanner :=
  let fields := (scanner.field.reverse :: scanner.fields).reverse
  { scanner with
    place := .lineStart
    field := []
    fields := []
    records := ⟨scanner.count, scanner.ended, fields⟩ :: scanner.records
    count := scanner.count + 1
    ended := scanner.here }

def add (scanner : Scanner) (place : Place) (byte : UInt8) : Scanner :=
  { scanner with place, field := byte :: scanner.field }

def isLineEnd (byte : UInt8) : Bool := byte == 10 || byte == 13

/-- A byte outside of quotes: a comma, a line end or a part of the field. -/
def takePlain (scanner : Scanner) (byte : UInt8) : Scanner :=
  if byte = 44 then scanner.endField
  else if isLineEnd byte then scanner.endRecord
  else scanner.add .inField byte

/-- A byte at the start of a field, where a quote opens a quoted field. -/
def takeFirst (scanner : Scanner) (byte : UInt8) : Scanner :=
  if byte = 34 then { scanner with place := .inQuotes } else scanner.takePlain byte

def take (scanner : Scanner) (byte : UInt8) : Scanner :=
  let scanner := { scanner with here := scanner.here.pass byte }
  match scanner.place with
  | .lineStart => if isLineEnd byte then scanner else scanner.takeFirst byte
  | .fieldStart => scanner.takeFirst byte
  | .inField => scanner.takePlain byte
  | .inQuotes =>
    if byte = 34 then { scanner with place := .afterQuote } else scanner.add .inQuotes byte
  | .afterQuote => if byte = 34 then scanner.add .inQuotes byte else scanner.takePlain byte

/-- The records of a text that ends here. -/
def finish (scanner : Scanner) : List Record :=
  match scanner.place with
  | .lineStart => scanner.records.reverse
  | _ => scanner.endRecord.records.reverse

end Scanner

def records (bytes : List UInt8) : List Record :=
  match bytes with
  | 0xEF :: 0xBB :: 0xBF :: rest => (rest.foldl Scanner.take (.start ⟨3, 1⟩)).finish
  | _ => (bytes.foldl Scanner.take (.start .start)).finish

/-! ## Tables with named columns

The first record of a table names its columns, the others are its rows. A schema lists the columns a
reader wants; columns with other names are passed over. Rows are judged one after the other, and the
first one with a fault decides. A row must have as many fields as the header and must be text
throughout; its columns are read in the order of the header; a wanted column may stand there only
once, and none may be missing.

A header that is not text names no columns. The fields of a row are then taken in the order of the
schema.
-/

/-- A column that a reader wants: its name, and how its text is put into a row being read. -/
structure Column (ρ : Type) where
  name : String
  isFilled : ρ → Bool
  fill : String → ρ → Except NumberFault ρ

/-- What a reader wants of a table. A row being read is a `ρ`, a finished one a `τ`. -/
structure Schema (ρ τ : Type) where
  /-- What a row is called. -/
  title : String
  columns : List (Column ρ)
  /-- A row of which nothing has been read. -/
  blank : ρ
  /-- The finished row, or the name of the first column that is missing. -/
  finish : ρ → Except String τ

/-- Why the fields of a row cannot be read. -/
inductive CellFault
  | repeated (column : String)
  | number (field : Nat) (cause : NumberFault)
  | missing (column : String)
  | tooFew (fields : Nat) (title : String) (wanted : Nat)
  deriving DecidableEq

namespace CellFault

def message : CellFault → String
  | repeated column => "duplicate field `" ++ column ++ "`"
  | number field cause => "field " ++ toString field ++ ": " ++ cause.message
  | missing column => "missing field `" ++ column ++ "`"
  | tooFew fields title wanted =>
    "invalid length " ++ toString fields ++ ", expected struct " ++ title ++ " with " ++
      toString wanted ++ " elements"

end CellFault

/-- What is wrong with a row. -/
inductive RowFault
  | fieldCount (record : Nat) (mark : Mark) (found expected : Nat)
  | notText (record : Nat) (mark : Mark) (field index : Nat)
  | cell (record : Nat) (mark : Mark) (cause : CellFault)
  | outOfRange (row : Nat) (ms : Int)
  deriving DecidableEq

namespace RowFault

def message : RowFault → String
  | fieldCount record mark found expected =>
    "CSV parse error: CSV error: record " ++ toString record ++ " (line: " ++ toString mark.line ++
      ", byte: " ++ toString mark.offset ++ "): found record with " ++ toString found ++
      " fields, but the previous record has " ++ toString expected ++ " fields"
  | notText record mark field index =>
    "CSV parse error: CSV parse error: record " ++ toString record ++ " (line " ++
      toString mark.line ++ ", field: " ++ toString field ++ ", byte: " ++ toString mark.offset ++
      "): invalid utf-8: invalid UTF-8 in field " ++ toString field ++ " near byte index " ++
      toString index
  | cell record mark cause =>
    "CSV parse error: CSV deserialize error: record " ++ toString record ++ " (line: " ++
      toString mark.line ++ ", byte: " ++ toString mark.offset ++ "): " ++ cause.message
  | outOfRange row ms => "row " ++ toString row ++ ": time_msc " ++ toString ms ++ " out of range"

end RowFault

namespace Record

/-- The fields of a record as texts, or the first field that is none and where it stops being
one. -/
def texts (record : Record) : Except (Nat × Nat) (List String) :=
  record.fields.zipIdx.mapM fun (bytes, field) =>
    match Utf8.decode? bytes with
    | some text => .ok text
    | none => .error (field, Utf8.validLength bytes)

end Record

namespace Schema

variable {ρ τ : Type}

/-- Puts one text into a column of a row. -/
def put (column : Column ρ) (field : Nat) (text : String) (row : ρ) : Except CellFault ρ :=
  match column.fill text row with
  | .ok row => .ok row
  | .error cause => .error (.number field cause)

/-- Reads fields under their names. The first argument counts the fields before. -/
def fillNamed (schema : Schema ρ τ) : Nat → List (String × String) → ρ → Except CellFault ρ
  | _, [], row => .ok row
  | field, (name, text) :: rest, row =>
    match schema.columns.find? (·.name == name) with
    | none => fillNamed schema (field + 1) rest row
    | some column =>
      if column.isFilled row then .error (.repeated name)
      else
        match put column field text row with
        | .ok row => fillNamed schema (field + 1) rest row
        | .error cause => .error cause

/-- Reads fields into columns in their order. The first argument counts the fields before. -/
def fillInOrder (schema : Schema ρ τ) :
    Nat → List (Column ρ) → List String → ρ → Except CellFault ρ
  | _, [], _, row => .ok row
  | field, _ :: _, [], _ => .error (.tooFew field schema.title schema.columns.length)
  | field, column :: columns, text :: texts, row =>
    match put column field text row with
    | .ok row => fillInOrder schema (field + 1) columns texts row
    | .error cause => .error cause

/-- Reads the texts of a row under the names of a header, or in order where there are none. -/
def readCells (schema : Schema ρ τ) (names : Option (List String)) (texts : List String) :
    Except CellFault τ := do
  let row ← match names with
    | some names => schema.fillNamed 0 (names.zip texts) schema.blank
    | none => schema.fillInOrder 0 schema.columns texts schema.blank
  match schema.finish row with
  | .ok row => .ok row
  | .error column => .error (.missing column)

/-- Reads one record under a header. -/
def readRecord (schema : Schema ρ τ) (header record : Record) : Except RowFault τ :=
  if record.fields.length ≠ header.fields.length then
    .error (.fieldCount record.index record.mark record.fields.length header.fields.length)
  else
    match record.texts with
    | .error (field, index) => .error (.notText record.index record.mark field index)
    | .ok texts =>
      match schema.readCells header.texts.toOption texts with
      | .ok row => .ok row
      | .error cause => .error (.cell record.index record.mark cause)

/-- Reads the records of a table, the first of which is the header. Each row is handed on with its
number, counted from one, before the next one is read. -/
def readRecords {υ : Type} (schema : Schema ρ τ) (use : Nat → τ → Except RowFault υ) :
    List Record → Except RowFault (List υ)
  | [] => .ok []
  | header :: rows => rows.mapM fun record => do
    use record.index (← schema.readRecord header record)

/-- Reads all rows of a table. -/
def readRows {υ : Type} (schema : Schema ρ τ) (use : Nat → τ → Except RowFault υ)
    (bytes : List UInt8) : Except RowFault (List υ) :=
  schema.readRecords use (records bytes)

end Schema

end Renko.Csv
