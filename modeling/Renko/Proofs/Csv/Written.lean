import Mathlib
import Renko.Csv
import Renko.Proofs.Csv.Scanner

/-! # Tables as they are written

A field is written as it is, or between quotes with each quote in it doubled. Rows are written with
commas between their fields and line ends between them. However the fields of a table are written,
its records have these fields (`Renko.Csv.map_fields_of_written`).
-/

namespace Renko.Csv

/-- A field in quotes has each of its own quotes twice. -/
def doubled (content : List UInt8) : List UInt8 :=
  content.flatMap fun byte => if byte = 34 then [34, 34] else [byte]

/-- How a field can be written: as it is, unless a comma, a line end or a first quote would be
taken for something else, and between quotes. -/
inductive FieldWritten (content : List UInt8) : List UInt8 → Prop
  | bare (passes : ∀ byte ∈ content, byte ≠ 44 ∧ Scanner.isLineEnd byte = false)
      (unquoted : content.head? ≠ some 34) : FieldWritten content content
  | quoted : FieldWritten content (34 :: doubled content ++ [34])

/-- How the fields of a row can be written, with commas between them. -/
inductive RowWritten : List (List UInt8) → List UInt8 → Prop
  | last {content bytes : List UInt8} (field : FieldWritten content bytes) :
      RowWritten [content] bytes
  | next {content bytes rest : List UInt8} {contents : List (List UInt8)}
      (field : FieldWritten content bytes) (row : RowWritten contents rest) :
      RowWritten (content :: contents) (bytes ++ 44 :: rest)

/-- How the rows of a table can be written, none as an empty line, each of them followed by one or
more line ends; the last one may do without. -/
inductive TableWritten : List (List (List UInt8)) → List UInt8 → Prop
  | nothing : TableWritten [] []
  | last {contents : List (List UInt8)} {bytes : List UInt8} (row : RowWritten contents bytes)
      (filled : bytes ≠ []) : TableWritten [contents] bytes
  | next {contents : List (List UInt8)} {bytes ends rest : List UInt8} {byte : UInt8}
      {table : List (List (List UInt8))} (row : RowWritten contents bytes)
      (filled : bytes ≠ []) (ended : ∀ other ∈ byte :: ends, Scanner.isLineEnd other = true)
      (written : TableWritten table rest) :
      TableWritten (contents :: table) (bytes ++ byte :: ends ++ rest)

section Writing

def needsQuotes (content : List UInt8) : Bool :=
  content.any fun byte => byte == 44 || byte == 34 || Scanner.isLineEnd byte

/-- A field with quotes where they are needed. -/
def writeField (content : List UInt8) : List UInt8 :=
  if needsQuotes content then 34 :: doubled content ++ [34] else content

def writeRow : List (List UInt8) → List UInt8
  | [] => []
  | [content] => writeField content
  | content :: contents => writeField content ++ 44 :: writeRow contents

/-- A row and a line end. One empty field is put in quotes, or the line would be empty. -/
def writeLine (contents : List (List UInt8)) : List UInt8 :=
  (if contents = [[]] then [34, 34] else writeRow contents) ++ [10]

def writeTable (table : List (List (List UInt8))) : List UInt8 := table.flatMap writeLine

private theorem written_writeField (content : List UInt8) :
    FieldWritten content (writeField content) := by
  unfold writeField
  split
  · exact .quoted
  · rename_i plain
    simp only [needsQuotes, List.any_eq_true, Bool.or_eq_true, beq_iff_eq, not_exists, not_and,
      not_or] at plain
    refine .bare (fun byte member => ?_) fun first => ?_
    · exact ⟨(plain byte member).1.1, Bool.eq_false_iff.mpr (plain byte member).2⟩
    · exact (plain 34 (List.mem_of_head? first)).1.2 rfl

private theorem written_writeRow {contents : List (List UInt8)} (filled : contents ≠ []) :
    RowWritten contents (writeRow contents) := by
  induction contents with
  | nil => exact absurd rfl filled
  | cons content contents inductionHypothesis =>
      cases contents with
      | nil => exact .last (written_writeField content)
      | cons next contents =>
          exact .next (written_writeField content) (inductionHypothesis (List.cons_ne_nil _ _))

private theorem writeRow_ne_nil {contents : List (List UInt8)} (filled : contents ≠ [])
    (visible : contents ≠ [[]]) : writeRow contents ≠ [] := by
  match contents, filled, visible with
  | [content], _, visible =>
      rw [writeRow, writeField]
      split
      · exact List.cons_ne_nil _ _
      · exact fun empty => visible (congrArg (fun content => [content]) empty)
  | _ :: _ :: _, _, _ => exact List.append_ne_nil_of_right_ne_nil _ (List.cons_ne_nil _ _)

private theorem written_writeLine {contents : List (List UInt8)} (filled : contents ≠ []) :
    ∃ bytes, writeLine contents = bytes ++ [10] ∧ RowWritten contents bytes ∧ bytes ≠ [] := by
  by_cases blank : contents = [[]]
  · rw [writeLine, if_pos blank, blank]
    exact ⟨_, rfl, .last .quoted, List.cons_ne_nil _ _⟩
  · rw [writeLine, if_neg blank]
    exact ⟨_, rfl, written_writeRow filled, writeRow_ne_nil filled blank⟩

/-- Each table can be written. -/
theorem written_writeTable {table : List (List (List UInt8))}
    (filled : ∀ contents ∈ table, contents ≠ []) : TableWritten table (writeTable table) := by
  induction table with
  | nil => exact .nothing
  | cons contents table inductionHypothesis =>
      obtain ⟨here, further⟩ := List.forall_mem_cons.mp filled
      obtain ⟨bytes, line, row, visible⟩ := written_writeLine here
      have ends : ∀ byte ∈ [10], Scanner.isLineEnd byte = true :=
        List.forall_mem_singleton.mpr rfl
      rw [writeTable, List.flatMap_cons, line]
      exact .next row visible ends (inductionHypothesis further)

end Writing

namespace Scanner

/-- What a reader has read, in order: the fields of the records, those of the record it is in, and
what there is of the field it is in. -/
structure Shows (rows : List (List (List UInt8))) (fields : List (List UInt8))
    (field : List UInt8) (place : Place) (scanner : Scanner) : Prop where
  rows_eq : scanner.records.reverse.map (·.fields) = rows
  fields_eq : scanner.fields.reverse = fields
  field_eq : scanner.field.reverse = field
  place_eq : scanner.place = place

variable {rows : List (List (List UInt8))} {fields : List (List UInt8)} {field : List UInt8}
  {place : Place} {scanner : Scanner} {byte : UInt8}

namespace Shows

private theorem takePlain_bare (shows : Shows rows fields field place scanner)
    (notComma : byte ≠ 44) (inside : isLineEnd byte = false) :
    Shows rows fields (field ++ [byte]) .inField (scanner.takePlain byte) := by
  rw [takePlain, if_neg notComma, inside]
  exact ⟨shows.rows_eq, shows.fields_eq, by simp [add, shows.field_eq], rfl⟩

private theorem takePlain_comma (shows : Shows rows fields field place scanner) :
    Shows rows (fields ++ [field]) [] .fieldStart (scanner.takePlain 44) := by
  rw [takePlain, if_pos rfl]
  exact ⟨shows.rows_eq, by simp [endField, shows.fields_eq, shows.field_eq], rfl, rfl⟩

/-- A record that ends is put behind the others. -/
theorem endRecord (shows : Shows rows fields field place scanner) :
    Shows (rows ++ [fields ++ [field]]) [] [] .lineStart scanner.endRecord :=
  ⟨by simp [Scanner.endRecord, shows.rows_eq, shows.fields_eq, shows.field_eq], rfl, rfl, rfl⟩

private theorem takePlain_lineEnd (shows : Shows rows fields field place scanner)
    (ends : isLineEnd byte = true) :
    Shows (rows ++ [fields ++ [field]]) [] [] .lineStart (scanner.takePlain byte) := by
  have notComma : byte ≠ 44 := by
    rintro rfl
    cases ends
  rw [takePlain, if_neg notComma, ends]
  exact shows.endRecord

/-- Where the reader is in the text is of no account. -/
theorem elsewhere (shows : Shows rows fields field place scanner) (here : Mark) :
    Shows rows fields field place { scanner with here } :=
  ⟨shows.rows_eq, shows.fields_eq, shows.field_eq, shows.place_eq⟩

end Shows

/-- Outside of quotes a byte is a comma, a line end or a part of the field, unless it opens quotes
or ends an empty line. -/
theorem take_eq_takePlain (closed : scanner.place ≠ .inQuotes)
    (notQuote : byte = 34 → scanner.place = .inField)
    (begun : isLineEnd byte = true → scanner.place ≠ .lineStart) :
    scanner.take byte = { scanner with here := scanner.here.pass byte }.takePlain byte := by
  have first (starts : scanner.place ≠ .inField) : byte ≠ 34 := fun same => starts (notQuote same)
  rw [take]
  cases place : scanner.place with
  | lineStart =>
      have inside : ¬isLineEnd byte = true := fun ends => begun ends place
      rw [if_neg inside, takeFirst, if_neg (first (by rw [place]; decide))]
  | fieldStart => rw [takeFirst, if_neg (first (by rw [place]; decide))]
  | inField => rfl
  | inQuotes => exact absurd place closed
  | afterQuote => exact if_neg (first (by rw [place]; decide))

namespace Shows

private theorem take_bare (shows : Shows rows fields field place scanner)
    (closed : place ≠ .inQuotes) (notQuote : byte = 34 → place = .inField) (notComma : byte ≠ 44)
    (inside : isLineEnd byte = false) :
    Shows rows fields (field ++ [byte]) .inField (scanner.take byte) := by
  obtain rfl := shows.place_eq
  rw [take_eq_takePlain closed notQuote fun ends => Bool.noConfusion (inside.symm.trans ends)]
  exact (shows.elsewhere _).takePlain_bare notComma inside

private theorem take_comma (shows : Shows rows fields field place scanner)
    (closed : place ≠ .inQuotes) :
    Shows rows (fields ++ [field]) [] .fieldStart (scanner.take 44) := by
  obtain rfl := shows.place_eq
  rw [take_eq_takePlain closed (fun same => absurd same (by decide))
    fun ends => absurd ends (by decide)]
  exact (shows.elsewhere _).takePlain_comma

private theorem take_lineEnd (shows : Shows rows fields field place scanner)
    (closed : place ≠ .inQuotes) (begun : place ≠ .lineStart) (ends : isLineEnd byte = true) :
    Shows (rows ++ [fields ++ [field]]) [] [] .lineStart (scanner.take byte) := by
  obtain rfl := shows.place_eq
  have notQuote : byte ≠ 34 := by
    rintro rfl
    cases ends
  rw [take_eq_takePlain closed (fun same => absurd same notQuote) fun _ => begun]
  exact (shows.elsewhere _).takePlain_lineEnd ends

private theorem take_blank (shows : Shows rows fields field .lineStart scanner)
    (ends : isLineEnd byte = true) : Shows rows fields field .lineStart (scanner.take byte) := by
  rw [take, shows.place_eq]
  simp only [ends, if_true]
  exact ⟨shows.rows_eq, shows.fields_eq, shows.field_eq, rfl⟩

private theorem take_openQuote (shows : Shows rows fields field place scanner)
    (starts : place = .lineStart ∨ place = .fieldStart) :
    Shows rows fields field .inQuotes (scanner.take 34) := by
  obtain rfl := shows.place_eq
  rw [take]
  rcases starts with starts | starts
  · rw [starts]
    exact ⟨shows.rows_eq, shows.fields_eq, shows.field_eq, rfl⟩
  · rw [starts]
    exact ⟨shows.rows_eq, shows.fields_eq, shows.field_eq, rfl⟩

private theorem take_quote (shows : Shows rows fields field .inQuotes scanner) :
    Shows rows fields field .afterQuote (scanner.take 34) := by
  rw [take, shows.place_eq]
  exact ⟨shows.rows_eq, shows.fields_eq, shows.field_eq, rfl⟩

private theorem take_again (shows : Shows rows fields field .afterQuote scanner) :
    Shows rows fields (field ++ [34]) .inQuotes (scanner.take 34) := by
  rw [take, shows.place_eq]
  exact ⟨shows.rows_eq, shows.fields_eq, by simp [add, shows.field_eq], rfl⟩

private theorem take_inside (shows : Shows rows fields field .inQuotes scanner)
    (notQuote : byte ≠ 34) :
    Shows rows fields (field ++ [byte]) .inQuotes (scanner.take byte) := by
  rw [take, shows.place_eq]
  simp only [if_neg notQuote]
  exact ⟨shows.rows_eq, shows.fields_eq, by simp [add, shows.field_eq], rfl⟩

/-- What is in quotes is read as if its quotes were not doubled. -/
theorem foldl_doubled (shows : Shows rows fields field .inQuotes scanner) (content : List UInt8) :
    Shows rows fields (field ++ content) .inQuotes ((doubled content).foldl take scanner) := by
  induction content generalizing field scanner with
  | nil => simpa [doubled] using shows
  | cons byte content inductionHypothesis =>
      rw [doubled, List.flatMap_cons, List.foldl_append, List.append_cons]
      by_cases quote : byte = 34
      · rw [if_pos quote, quote]
        exact inductionHypothesis shows.take_quote.take_again
      · rw [if_neg quote]
        exact inductionHypothesis (shows.take_inside quote)

private theorem foldl_bare (shows : Shows rows fields field .inField scanner) {content : List UInt8}
    (passes : ∀ byte ∈ content, byte ≠ 44 ∧ isLineEnd byte = false) :
    Shows rows fields (field ++ content) .inField (content.foldl take scanner) := by
  induction content generalizing field scanner with
  | nil => simpa using shows
  | cons byte content inductionHypothesis =>
      obtain ⟨⟨notComma, inside⟩, further⟩ := List.forall_mem_cons.mp passes
      rw [List.append_cons]
      exact inductionHypothesis
        (shows.take_bare (by decide) (fun _ => rfl) notComma inside) further

/-- **A field is read,** however it is written, and a comma or a line end will end it. Between two
records the reader is left only by a field of no bytes that it met there. -/
theorem foldl_field (shows : Shows rows fields [] place scanner)
    (starts : place = .lineStart ∨ place = .fieldStart) {content bytes : List UInt8}
    (written : FieldWritten content bytes) :
    ∃ later, Shows rows fields content later (bytes.foldl take scanner) ∧ later ≠ .inQuotes ∧
      (later = .lineStart → place = .lineStart ∧ bytes = []) := by
  cases written with
  | quoted =>
      refine ⟨.afterQuote, ?_, by decide, fun same => nomatch same⟩
      rw [List.cons_append, List.foldl_cons, List.foldl_append]
      exact ((shows.take_openQuote starts).foldl_doubled content).take_quote
  | bare passes unquoted =>
      cases content with
      | nil =>
          refine ⟨place, shows, ?_, fun same => ⟨same, rfl⟩⟩
          rcases starts with rfl | rfl <;> decide
      | cons byte content =>
          obtain ⟨⟨notComma, inside⟩, further⟩ := List.forall_mem_cons.mp passes
          have notQuote : byte ≠ 34 := fun same => unquoted (congrArg some same)
          have closed : place ≠ .inQuotes := by rcases starts with rfl | rfl <;> decide
          have first := shows.take_bare closed (fun same => absurd same notQuote) notComma inside
          exact ⟨.inField, first.foldl_bare further, by decide, fun same => nomatch same⟩

/-- **A row is read,** and a line end will end it. -/
theorem foldl_row (shows : Shows rows fields [] place scanner)
    (starts : place = .lineStart ∨ place = .fieldStart) {contents : List (List UInt8)}
    {bytes : List UInt8} (written : RowWritten contents bytes) :
    ∃ earlier last later, contents = earlier ++ [last] ∧
      Shows rows (fields ++ earlier) last later (bytes.foldl take scanner) ∧ later ≠ .inQuotes ∧
      (later = .lineStart → place = .lineStart ∧ bytes = []) := by
  induction written generalizing fields place scanner with
  | @last content bytes field =>
      obtain ⟨later, read, closed, begun⟩ := shows.foldl_field starts field
      exact ⟨[], content, later, rfl, by rwa [List.append_nil], closed, begun⟩
  | @next content bytes rest contents field row inductionHypothesis =>
      obtain ⟨later, read, closed, -⟩ := shows.foldl_field starts field
      obtain ⟨earlier, last, final, rfl, readRow, closedRow, begun⟩ :=
        inductionHypothesis (read.take_comma closed) (.inr rfl)
      -- behind a comma the reader is within the record, even if nothing else is written
      refine ⟨content :: earlier, last, final, rfl, ?_, closedRow, fun same => ?_⟩
      · rw [List.foldl_append, List.foldl_cons, List.append_cons]
        exact readRow
      · exact nomatch (begun same).1

private theorem foldl_blank (shows : Shows rows fields field .lineStart scanner)
    {bytes : List UInt8} (ends : ∀ byte ∈ bytes, isLineEnd byte = true) :
    Shows rows fields field .lineStart (bytes.foldl take scanner) := by
  induction bytes generalizing scanner with
  | nil => exact shows
  | cons byte bytes inductionHypothesis =>
      obtain ⟨here, further⟩ := List.forall_mem_cons.mp ends
      exact inductionHypothesis (shows.take_blank here) further

/-- **A table is read** to its end. -/
theorem finish_table (shows : Shows rows [] [] .lineStart scanner)
    {table : List (List (List UInt8))} {bytes : List UInt8} (written : TableWritten table bytes) :
    (bytes.foldl take scanner).finish.map (·.fields) = rows ++ table := by
  induction written generalizing rows scanner with
  | nothing =>
      rw [List.foldl_nil, finish, shows.place_eq, List.append_nil]
      exact shows.rows_eq
  | last row filled =>
      obtain ⟨earlier, last, later, rfl, read, -, begun⟩ := shows.foldl_row (.inl rfl) row
      have behind := read.endRecord
      rw [List.nil_append] at behind
      rw [finish]
      split
      · rename_i place
        exact absurd (begun (read.place_eq.symm.trans place)).2 filled
      · exact behind.rows_eq
  | @next contents bytes ends rest byte table row filled ended written inductionHypothesis =>
      obtain ⟨earlier, last, later, rfl, read, closed, begun⟩ := shows.foldl_row (.inl rfl) row
      obtain ⟨ends, further⟩ := List.forall_mem_cons.mp ended
      -- the row is no empty line, so the first line end behind it ends a record
      have behind := (read.take_lineEnd closed (fun same => filled (begun same).2) ends).foldl_blank
        further
      rw [List.nil_append] at behind
      rw [List.foldl_append, List.foldl_append, List.foldl_cons, inductionHypothesis behind,
        List.append_assoc, List.singleton_append]

end Shows

end Scanner

/-- A mark at the start of a text is a mark at the start of what comes before a byte that is none of
its own. -/
theorem prefix_of_append {mark content rest : List UInt8} (marked : mark <+: content ++ rest)
    (differs : ∀ byte ∈ rest.head?, byte ∉ mark) : mark <+: content := by
  induction content generalizing mark with
  | nil =>
      cases mark with
      | nil => exact List.prefix_rfl
      | cons first mark =>
          obtain ⟨later, rfl⟩ := marked
          exact absurd List.mem_cons_self (differs first rfl)
  | cons byte content inductionHypothesis =>
      cases mark with
      | nil => exact List.nil_prefix
      | cons first mark =>
          obtain ⟨rfl, further⟩ := List.cons_prefix_cons.mp marked
          refine List.cons_prefix_cons.mpr ⟨rfl, inductionHypothesis further fun other here => ?_⟩
          exact fun member => differs other here (List.mem_cons_of_mem _ member)

section Marks

variable {bytes rest : List UInt8} {contents : List (List UInt8)}

private theorem unmarked_of_field {content : List UInt8} (written : FieldWritten content bytes)
    (unmarked : ¬byteOrderMark <+: content) (differs : ∀ byte ∈ rest.head?, byte ∉ byteOrderMark) :
    ¬byteOrderMark <+: bytes ++ rest := by
  cases written with
  | bare => exact fun marked => unmarked (prefix_of_append marked differs)
  | quoted =>
      intro marked
      have opened := (List.cons_prefix_cons.mp marked).1
      exact absurd opened (by decide)

private theorem unmarked_of_row (written : RowWritten contents bytes)
    (unmarked : ∀ content ∈ contents, ¬byteOrderMark <+: content)
    (differs : ∀ byte ∈ rest.head?, byte ∉ byteOrderMark) : ¬byteOrderMark <+: bytes ++ rest := by
  cases written with
  | last field => exact unmarked_of_field field (unmarked _ List.mem_cons_self) differs
  | next field row =>
      rw [List.append_assoc]
      refine unmarked_of_field field (unmarked _ List.mem_cons_self) fun byte comma => ?_
      obtain rfl := Option.some.inj comma
      decide

/-- A table has no mark at its start unless one of its first fields has. -/
theorem unmarked_of_written {table : List (List (List UInt8))}
    (written : TableWritten (contents :: table) bytes)
    (unmarked : ∀ content ∈ contents, ¬byteOrderMark <+: content) : ¬byteOrderMark <+: bytes := by
  cases written with
  | last row =>
      rw [← List.append_nil bytes]
      exact unmarked_of_row row unmarked fun byte none => nomatch none
  | @next _ bytes ends rest byte _ row filled ended =>
      rw [List.append_assoc]
      refine unmarked_of_row row unmarked fun other first => ?_
      obtain rfl := Option.some.inj first
      intro member
      have ends := ended _ List.mem_cons_self
      fin_cases member <;> cases ends

end Marks

/-- **A table is read back,** however it is written: its records have its fields. -/
theorem map_fields_of_written {table : List (List (List UInt8))} {bytes : List UInt8}
    (written : TableWritten table bytes) (unmarked : ¬byteOrderMark <+: bytes) :
    (records bytes).map (·.fields) = table := by
  rw [records_eq_finish, scan_of_unmarked unmarked]
  have started : Scanner.Shows [] [] [] .lineStart (.start .start) := ⟨rfl, rfl, rfl, rfl⟩
  exact started.finish_table written

end Renko.Csv
