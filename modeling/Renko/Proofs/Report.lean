import Mathlib
import Renko.Proofs.Calendar
import Renko.Proofs.Number.Text
import Renko.Report

/-! # Reports

The texts of reports are tables, and their rows tell what they were written for.
-/

/-! ## Tables

A report is a table: cut at its line ends and commas it gives back the fields it was made of
(`Renko.Report.table_lines`), as long as none of them holds a comma, a quote or a line end.
-/

namespace Renko.Report

/-- A field that can be written without quotes. -/
def Unquoted (field : String) : Prop := ∀ c ∈ field.toList, c ∉ [',', '"', '\n', '\r']

private theorem unquoted_of_characters {field : String} {others : List Char}
    (made : ∀ c ∈ field.toList, c.isDigit = true ∨ c ∈ others)
    (apart : ∀ c ∈ [',', '"', '\n', '\r'], c ∉ others) : Unquoted field := by
  have noDigit : ∀ c ∈ [',', '"', '\n', '\r'], ¬c.isDigit = true := by simp
  exact fun c member quoted => (made c member).elim (noDigit c quoted) (apart c quoted)

/-- The fields of a text, line by line. A line ends where the next one begins. -/
def table (text : String) : List (List String) :=
  (text.toList.splitOn '\n').dropLast.map fun line => (line.splitOn ',').map String.ofList

/-- A line without its end. -/
def row (fields : List String) : List Char := [','].intercalate (fields.map String.toList)

private theorem toList_line (fields : List String) :
    (line fields).toList = row fields ++ ['\n'] := by
  have comma : ",".toList = [','] := rfl
  have lineEnd : "\n".toList = ['\n'] := rfl
  rw [line, String.toList_append, String.toList_intercalate, comma, lineEnd, row]

/-- A row that is cut at its commas gives back its fields. -/
theorem splitOn_row {fields : List String} (filled : fields ≠ [])
    (unquoted : ∀ field ∈ fields, Unquoted field) :
    ((row fields).splitOn ',').map String.ofList = fields := by
  rw [row, List.splitOn_intercalate]
  · have whole : String.ofList ∘ String.toList = id := funext fun _ => String.ofList_toList
    rw [List.map_map, whole, List.map_id]
  · intro characters member comma
    obtain ⟨field, inside, rfl⟩ := List.mem_map.mp member
    exact unquoted field inside ',' comma (by decide)
  · exact fun nothing => filled (List.map_eq_nil_iff.mp nothing)

private theorem notMem_row {fields : List String} (unquoted : ∀ field ∈ fields, Unquoted field) :
    '\n' ∉ row fields := by
  induction fields with
  | nil => exact List.not_mem_nil
  | cons field later inductionHypothesis =>
      obtain ⟨now, unquotedLater⟩ := List.forall_mem_cons.mp unquoted
      have here : '\n' ∉ field.toList := fun member => now '\n' member (by decide)
      have further := inductionHypothesis unquotedLater
      cases later with
      | nil =>
          rw [row, List.map_singleton, List.intercalate_singleton]
          exact here
      | cons next later =>
          rw [row, List.map_cons, List.map_cons, List.intercalate_cons_cons, List.append_assoc]
          refine List.not_mem_append here (List.not_mem_append ?_ further)
          exact List.not_mem_cons_of_ne_of_not_mem (by decide) List.not_mem_nil

/-- A table is what its lines were made of. -/
theorem table_text {rows : List (List String)}
    (unquoted : ∀ fields ∈ rows, fields ≠ [] ∧ ∀ field ∈ fields, Unquoted field) :
    table (text (rows.map line)) = rows := by
  have cut (rows : List (List String))
      (unquoted : ∀ fields ∈ rows, fields ≠ [] ∧ ∀ field ∈ fields, Unquoted field) :
      (text (rows.map line)).toList.splitOn '\n' = rows.map row ++ [[]] := by
    induction rows with
    | nil => rfl
    | cons fields later inductionHypothesis =>
        obtain ⟨now, unquotedLater⟩ := List.forall_mem_cons.mp unquoted
        have whole := inductionHypothesis unquotedLater
        rw [text, String.toList_join] at whole ⊢
        rw [List.map_cons, List.flatMap_cons, toList_line, List.append_assoc,
          List.singleton_append, List.splitOn_append_cons_self_of_not_mem (notMem_row now.2), whole,
          List.map_cons, List.cons_append]
  rw [table, cut rows unquoted, List.dropLast_concat, List.map_map]
  refine (List.map_congr_left fun fields member => ?_).trans (List.map_id rows)
  exact splitOn_row (unquoted fields member).1 (unquoted fields member).2

/-- A report without rows is empty; any other one is the table of its header and its rows. -/
theorem table_lines {header : List String} {rows : List (List String)}
    (unquoted : ∀ fields ∈ header :: rows, fields ≠ [] ∧ ∀ field ∈ fields, Unquoted field) :
    table (text (lines header rows)) = if rows.isEmpty then [] else header :: rows := by
  unfold lines
  split
  · rfl
  · rw [← List.map_cons]
    exact table_text unquoted

end Renko.Report

/-! ## Rows read back

A row of a report tells everything about the brick or the position it was written for, but the part
of its time below the millisecond (`Renko.Report.reports_read_back`).
-/

namespace Renko

namespace BrickKind

/-- The kind with a name. -/
def named? (text : String) : Option BrickKind := [last, up, down].find? (·.text == text)

private theorem named?_text (kind : BrickKind) : named? kind.text = some kind := by
  cases kind <;> decide

end BrickKind

namespace Side

/-- The side with a name. -/
def named? (text : String) : Option Side := [buy, sell].find? (·.text == text)

private theorem named?_text (side : Side) : named? side.text = some side := by
  cases side <;> decide

end Side

namespace Report

/-- How rows of a kind are written in a report, what is read from their fields, and what of a row is
kept in them. -/
structure Layout (Row : Type) where
  columns : Nat
  header : List String
  fields : Row → List String
  read? : List String → Option Row
  kept : Row → Row
  filled : 0 < columns
  width_header : header.length = columns
  width : ∀ row, (fields row).length = columns
  unquoted_header : ∀ field ∈ header, Unquoted field
  unquoted : ∀ row, ∀ field ∈ fields row, Unquoted field
  reads : ∀ row, read? (fields row) = some (kept row)

namespace Layout

variable {Row : Type} (layout : Layout Row)

/-- The text of rows. -/
def text (rows : List Row) : String :=
  Report.text (lines layout.header (rows.map layout.fields))

/-- What the text of a report tells of its rows. It is empty if there are none; else it is the table
of a header and of one line for each row. No field is quoted, and every row is read back. -/
structure Tells (rows : List Row) (text : String) : Prop where
  empty : text = "" ↔ rows = []
  table : rows ≠ [] → Report.table text = layout.header :: rows.map layout.fields
  width : ∀ line ∈ Report.table text, line.length = layout.columns
  unquoted : ∀ line ∈ Report.table text, ∀ field ∈ line, Unquoted field
  reads : ((Report.table text).drop 1).map layout.read? = rows.map fun row => some (layout.kept row)

/-- The text of a report is a table with its header, if there are rows at all. -/
theorem table_text (rows : List Row) :
    Report.table (layout.text rows) =
      if rows.isEmpty then [] else layout.header :: rows.map layout.fields := by
  have width (line : List String) (length : line.length = layout.columns) : line ≠ [] := by
    rintro rfl
    exact layout.filled.ne length
  have lines : ∀ line ∈ layout.header :: rows.map layout.fields,
      line ≠ [] ∧ ∀ field ∈ line, Unquoted field := by
    refine List.forall_mem_cons.mpr
      ⟨⟨width _ layout.width_header, layout.unquoted_header⟩, fun line member => ?_⟩
    obtain ⟨row, -, rfl⟩ := List.mem_map.mp member
    exact ⟨width _ (layout.width row), layout.unquoted row⟩
  rw [text, table_lines lines, List.isEmpty_map]

/-- Behind the header stand the rows, in order. -/
theorem drop_one_table (rows : List Row) :
    (Report.table (layout.text rows)).drop 1 = rows.map layout.fields := by
  rw [table_text]
  cases rows <;> rfl

/-- The text of a report tells its rows. -/
theorem tells (rows : List Row) : layout.Tells rows (layout.text rows) := by
  have cut := layout.table_text rows
  have reads : ((Report.table (layout.text rows)).drop 1).map layout.read? =
      rows.map fun row => some (layout.kept row) := by
    rw [drop_one_table, List.map_map]
    exact List.map_congr_left fun row _ => layout.reads row
  by_cases nothing : rows = []
  · obtain rfl := nothing
    rw [List.isEmpty_nil, if_pos rfl] at cut
    refine ⟨iff_of_true rfl rfl, fun filled => absurd rfl filled, ?_, ?_, reads⟩
    · rw [cut]
      exact fun line absent => nomatch absent
    · rw [cut]
      exact fun line absent => nomatch absent
  · rw [List.isEmpty_eq_false_iff.mpr nothing, if_neg Bool.false_ne_true] at cut
    refine ⟨iff_of_false (fun blank => ?_) nothing, fun _ => cut, ?_, ?_, reads⟩
    · rw [blank] at cut
      cases cut
    · rw [cut]
      refine List.forall_mem_cons.mpr ⟨layout.width_header, fun line member => ?_⟩
      obtain ⟨row, -, rfl⟩ := List.mem_map.mp member
      exact layout.width row
    · rw [cut]
      refine List.forall_mem_cons.mpr ⟨layout.unquoted_header, fun line member => ?_⟩
      obtain ⟨row, -, rfl⟩ := List.mem_map.mp member
      exact layout.unquoted row

/-- Rows that are kept in full are known from the text of their report. -/
theorem text_injective {first second : List Row}
    (keptFirst : ∀ row ∈ first, layout.kept row = row)
    (keptSecond : ∀ row ∈ second, layout.kept row = row)
    (same : layout.text first = layout.text second) : first = second := by
  have firstReads := (layout.tells first).reads
  have secondReads := (layout.tells second).reads
  rw [same, secondReads] at firstReads
  have whole (rows : List Row) (kept : ∀ row ∈ rows, layout.kept row = row) :
      (rows.map fun row => some (layout.kept row)) = rows.map some :=
    List.map_congr_left fun row member => congrArg some (kept row member)
  rw [whole first keptFirst, whole second keptSecond] at firstReads
  exact (List.map_injective_iff.mpr (Option.some_injective Row) firstReads).symm

end Layout

/-- Reads a number. -/
def number? (field : String) : Option Float := (Binary64.read field).toOption

/-- A number is read back from its field. -/
theorem number?_number (x : Float) : number? (number x) = some x := by
  rw [number?, number, Binary64.read_report]
  rfl

private theorem number_ne_empty (x : Float) : number x ≠ "" := by
  intro nothing
  have reads := number?_number x
  rw [nothing] at reads
  cases reads

private theorem unquoted_number (x : Float) : Unquoted (number x) :=
  unquoted_of_characters (Binary64.character_report x) (by simp)

private theorem unquoted_time (time : Instant) : Unquoted time.text :=
  unquoted_of_characters time.character_text (by simp)

private theorem unquoted_digits (count : Nat) : Unquoted (toString count) := by
  refine @unquoted_of_characters _ [] (fun c member => .inl ?_) fun _ _ => List.not_mem_nil
  rw [Nat.toString_eq_ofList_toDigits, String.toList_ofList] at member
  exact Decimal.digits_toDigits count c member

/-- Reads a brick. -/
def brick? : List String → Option (Brick Float)
  | [time, kind, openPrice, high, low, closePrice, ticks, volume] => do
    return {
      time := ← Instant.read? time.toList
      kind := ← BrickKind.named? kind
      openPrice := ← number? openPrice
      high := ← number? high
      low := ← number? low
      closePrice := ← number? closePrice
      ticks := .ofNat (← Decimal.whole? ticks.toList)
      volume := ← number? volume }
  | _ => none

/-- Reads a position, one that is not closed from an empty field. -/
def position? : List String → Option (Position Float)
  | [date, side, openPrice, closePrice, currentPrice, profit] => do
    return {
      date := ← Instant.read? date.toList
      side := ← Side.named? side
      openPrice := ← number? openPrice
      closePrice := ← if closePrice.isEmpty then some none else (number? closePrice).map some
      currentPrice := ← number? currentPrice
      profit := ← number? profit }
  | _ => none

/-- A brick is read back from its row, to the millisecond. -/
theorem brick?_brickFields (brick : Brick Float) :
    brick? (brickFields brick) = some { brick with time := .ofMillis brick.time.millis } := by
  have ticks : Decimal.whole? (toString brick.ticks.toNat).toList = some brick.ticks.toNat := by
    rw [Nat.toString_eq_ofList_toDigits, String.toList_ofList,
      Decimal.whole?_of_digits (Decimal.digits_toDigits _) Nat.toDigits_ne_nil,
      Decimal.value_toDigits]
  simp only [brickFields, brick?, Instant.read?_text, BrickKind.named?_text, number?_number, ticks,
    Option.bind_eq_bind, Option.bind_some, UInt32.ofNat_toNat]
  rfl

/-- A position is read back from its row, to the millisecond. -/
theorem position?_positionFields (position : Position Float) :
    position? (positionFields position) =
      some { position with date := .ofMillis position.date.millis } := by
  obtain ⟨date, side, openPrice, closePrice, currentPrice, profit⟩ := position
  cases closePrice with
  | none =>
      simp only [positionFields, position?, Instant.read?_text, Side.named?_text, number?_number,
        Option.bind_eq_bind, Option.bind_some]
      rfl
  | some price =>
      have written : (number price).isEmpty = false :=
        Bool.eq_false_iff.mpr (mt String.isEmpty_iff.mp (number_ne_empty price))
      simp only [positionFields, position?, Instant.read?_text, Side.named?_text, number?_number,
        Option.bind_eq_bind, Option.bind_some, Option.map_some, Option.getD_some, written,
        Bool.false_eq_true, ↓reduceIte]
      rfl

/-- How bricks are written. -/
def brickLayout : Layout (Brick Float) where
  columns := 8
  header := brickHeader
  fields := brickFields
  read? := brick?
  kept brick := { brick with time := .ofMillis brick.time.millis }
  filled := by decide
  width_header := rfl
  width _ := rfl
  unquoted_header := by simp [Unquoted, brickHeader]
  unquoted brick := by
    have kind : Unquoted brick.kind.text := by
      cases brick.kind <;> simp [Unquoted, BrickKind.text]
    simp only [brickFields, List.forall_mem_cons, unquoted_number, unquoted_time, unquoted_digits,
      kind, true_and, List.not_mem_nil, false_implies, implies_true]
  reads := brick?_brickFields

/-- How positions are written. -/
def positionLayout : Layout (Position Float) where
  columns := 6
  header := positionHeader
  fields := positionFields
  read? := position?
  kept position := { position with date := .ofMillis position.date.millis }
  filled := by decide
  width_header := rfl
  width _ := rfl
  unquoted_header := by simp [Unquoted, positionHeader]
  unquoted position := by
    have side : Unquoted position.side.text := by
      cases position.side <;> simp [Unquoted, Side.text]
    have closePrice : Unquoted ((position.closePrice.map number).getD "") := by
      cases position.closePrice with
      | none => exact fun c absent => nomatch absent
      | some price => exact unquoted_number price
    simp only [positionFields, List.forall_mem_cons, unquoted_number, unquoted_time, side,
      closePrice, true_and, List.not_mem_nil, false_implies, implies_true]
  reads := position?_positionFields

/-- **Reports read back.** The text of a report is empty if there is nothing to report. Else it is
a table of a header and one row for each brick or position, and all of these are read back from it,
with their times cut to the millisecond. Reports of different things have different texts. -/
theorem reports_read_back :
    (∀ bricks : List (Brick Float), brickLayout.Tells bricks (text (ofBricks bricks))) ∧
      (∀ positions : List (Position Float),
        positionLayout.Tells positions (text (ofPositions positions))) ∧
      (∀ position : Position Float,
        (positionFields position)[3]? = some "" ↔ position.closePrice = none) ∧
      (∀ first second : List (Brick Float),
        (∀ brick ∈ first ++ second, brick.time = .ofMillis brick.time.millis) →
          first ≠ second → text (ofBricks first) ≠ text (ofBricks second)) ∧
      ∀ first second : List (Position Float),
        (∀ position ∈ first ++ second, position.date = .ofMillis position.date.millis) →
          first ≠ second → text (ofPositions first) ≠ text (ofPositions second) := by
  refine ⟨brickLayout.tells, positionLayout.tells, ?_, ?_, ?_⟩
  · intro position
    change some ((position.closePrice.map number).getD "") = some "" ↔ _
    rw [Option.some.injEq]
    cases position.closePrice with
    | none => exact iff_of_true rfl rfl
    | some price => exact iff_of_false (number_ne_empty price) (Option.some_ne_none price)
  · intro first second whole
    refine mt fun same => ?_
    have kept (brick : Brick Float) (member : brick ∈ first ++ second) :
        brickLayout.kept brick = brick := by
      change { brick with time := .ofMillis brick.time.millis } = brick
      rw [← whole brick member]
    exact brickLayout.text_injective
      (fun brick member => kept brick (List.mem_append_left _ member))
      (fun brick member => kept brick (List.mem_append_right _ member)) same
  · intro first second whole
    refine mt fun same => ?_
    have kept (position : Position Float) (member : position ∈ first ++ second) :
        positionLayout.kept position = position := by
      change { position with date := .ofMillis position.date.millis } = position
      rw [← whole position member]
    exact positionLayout.text_injective
      (fun position member => kept position (List.mem_append_left _ member))
      (fun position member => kept position (List.mem_append_right _ member)) same

/-- The smallest number, infinity, both zeros and no number at all, before the start of 1970; and a
position that is still open, in a year of five digits. -/
theorem reports_read_back_of_extremes :
    let brick (volume : Float) : Brick Float :=
      ⟨.ofMillis (-1), .up, 5e-324, 1 / 0, -0.0, 1e23, 4294967295, volume⟩
    let position (side : Side) : Position Float :=
      ⟨.ofMillis 253402300800000, side, -1 / 0, none, 1e-7, 1e16⟩
    brickLayout.Tells [brick 0, brick (0 / 0)] (text (ofBricks [brick 0, brick (0 / 0)])) ∧
      positionLayout.Tells [position .buy] (text (ofPositions [position .buy])) ∧
      ((positionFields (position .buy))[3]? = some "" ↔ (position .buy).closePrice = none) ∧
      (∀ row ∈ [brick 0] ++ [brick (-0.0)], row.time = .ofMillis row.time.millis) ∧
      text (ofBricks [brick 0]) ≠ text (ofBricks [brick (-0.0)]) ∧
      (∀ row ∈ [position .buy] ++ [position .sell], row.date = .ofMillis row.date.millis) ∧
      text (ofPositions [position .buy]) ≠ text (ofPositions [position .sell]) :=
  ⟨reports_read_back.1 _, reports_read_back.2.1 _, reports_read_back.2.2.1 _, by decide,
    reports_read_back.2.2.2.1 _ _ (by decide) (by decide +kernel), by decide,
    reports_read_back.2.2.2.2 _ _ (by decide) (by decide +kernel)⟩

end Report

end Renko
