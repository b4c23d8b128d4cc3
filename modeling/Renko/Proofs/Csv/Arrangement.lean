import Renko.Proofs.Csv.Tables
import Renko.Proofs.Csv.Written

/-! # The arrangement of columns

What is read of a table is decided by the columns that are wanted, wherever they stand. Tables that
have these columns in common give the same rows (`Renko.Csv.Dates.readRows_rearranged`), whatever
stands in their other columns and however they are written.
-/

namespace Renko.Csv

/-- A column of texts: its name, and its cell in each row. -/
structure TextColumn (height : Nat) where
  name : String
  cell : Fin height → String

/-- A table of texts, with a cell in each row for every column. -/
abbrev Sheet (height : Nat) := List (TextColumn height)

namespace Sheet

variable {height : Nat}

def names (sheet : Sheet height) : List String := sheet.map (·.name)

def row (sheet : Sheet height) (index : Fin height) : List String := sheet.map (·.cell index)

/-- The header and the rows, each field as its bytes. -/
def fields (sheet : Sheet height) : List (List (List UInt8)) :=
  sheet.names.map Utf8.encode ::
    (List.finRange height).map fun index => (sheet.row index).map Utf8.encode

/-- A text is a table as it can be written, in which no name begins with a byte order mark. -/
structure Writes (sheet : Sheet height) (bytes : List UInt8) : Prop where
  written : TableWritten sheet.fields bytes
  unmarked : ∀ column ∈ sheet, ¬byteOrderMark <+: Utf8.encode column.name

/-- The columns that are wanted. -/
def wanted (sheet : Sheet height) (layout : Layout) : Sheet height :=
  sheet.filter fun column => decide (column.name ∈ layout.map Prod.fst)

/-- A table comes from another one: its columns change places, and columns that are not wanted are
put in or left out. -/
inductive Rearranged (layout : Layout) : Sheet height → Sheet height → Prop
  | moved {first second : Sheet height} (moved : first.Perm second) :
      Rearranged layout first second
  | putIn (earlier later : Sheet height) {held : TextColumn height}
      (other : held.name ∉ layout.map Prod.fst) :
      Rearranged layout (earlier ++ later) (earlier ++ held :: later)
  | leftOut (earlier later : Sheet height) {held : TextColumn height}
      (other : held.name ∉ layout.map Prod.fst) :
      Rearranged layout (earlier ++ held :: later) (earlier ++ later)
  | trans {first second third : Sheet height} (rearranged : Rearranged layout first second)
      (further : Rearranged layout second third) : Rearranged layout first third

/-- What a row says of a column. -/
def Says (sheet : Sheet height) (index : Fin height) (column : String × Kind) (value : Datum) :
    Prop :=
  ∃ held ∈ sheet, held.name = column.1 ∧ column.2.read (held.cell index) = .ok value

variable {first second : Sheet height} {layout : Layout} {index : Fin height}
  {column : String × Kind} {value : Datum}

/-- Each table with a column can be written. -/
theorem writes_writeTable {sheet : Sheet height} (filled : sheet ≠ [])
    (unmarked : ∀ column ∈ sheet, ¬byteOrderMark <+: Utf8.encode column.name) :
    sheet.Writes (writeTable sheet.fields) := by
  refine ⟨written_writeTable ?_, unmarked⟩
  refine List.forall_mem_cons.mpr ⟨?_, fun contents member => ?_⟩
  · simpa [names] using filled
  · obtain ⟨index, -, rfl⟩ := List.mem_map.mp member
    simpa [row] using filled

private theorem wanted_append_cons (earlier later : Sheet height) {held : TextColumn height}
    (other : held.name ∉ layout.map Prod.fst) :
    (earlier ++ held :: later).wanted layout = (earlier ++ later).wanted layout := by
  rw [wanted, wanted, List.filter_append, List.filter_append, List.filter_cons,
    decide_eq_false other]
  rfl

/-- **The wanted columns stay,** in whatever order. -/
theorem Rearranged.perm_wanted (rearranged : Rearranged layout first second) :
    (first.wanted layout).Perm (second.wanted layout) := by
  induction rearranged with
  | moved moved => exact moved.filter _
  | putIn earlier later other => rw [wanted_append_cons earlier later other]
  | leftOut earlier later other => rw [wanted_append_cons earlier later other]
  | trans _ _ inductionHypothesis further => exact inductionHypothesis.trans further

private theorem says_wanted (sheet : Sheet height) (member : column ∈ layout) :
    (sheet.wanted layout).Says index column value ↔ sheet.Says index column value := by
  constructor
  · rintro ⟨held, here, named, reads⟩
    exact ⟨held, (List.mem_filter.mp here).1, named, reads⟩
  · rintro ⟨held, here, named, reads⟩
    refine ⟨held, List.mem_filter.mpr ⟨here, decide_eq_true ?_⟩, named, reads⟩
    exact named ▸ List.mem_map_of_mem member

/-- Tables that are arranged differently say the same. -/
theorem says_congr (rearranged : Rearranged layout first second) (member : column ∈ layout) :
    first.Says index column value ↔ second.Says index column value := by
  rw [← first.says_wanted member, ← second.says_wanted member]
  simp only [Says, rearranged.perm_wanted.mem_iff]

private theorem count_wanted (sheet : Sheet height) (member : column ∈ layout) :
    (sheet.wanted layout).names.count column.1 = sheet.names.count column.1 := by
  simp only [names, wanted, List.count_eq_countP, List.countP_map, List.countP_filter]
  refine List.countP_congr fun held _ => ?_
  simp only [Function.comp, Bool.and_eq_true, beq_iff_eq, decide_eq_true_eq]
  exact and_iff_left_of_imp fun named => named ▸ List.mem_map_of_mem member

/-- Columns that are arranged differently make a header for the same layout. -/
theorem heads_congr (rearranged : Rearranged layout first second) :
    layout.Heads first.names ↔ layout.Heads second.names := by
  refine forall₂_congr fun column member => ?_
  rw [← first.count_wanted member, ← second.count_wanted member]
  exact iff_of_eq (congrArg (· = 1) ((rearranged.perm_wanted.map _).count_eq _))

private theorem say_row (sheet : Sheet height) :
    Cells.Say (sheet.names.zip (sheet.row index)) column value ↔ sheet.Says index column value := by
  rw [Cells.Say, names, row, List.zip_map']
  constructor
  · rintro ⟨text, here, reads⟩
    obtain ⟨held, member, same⟩ := List.mem_map.mp here
    obtain ⟨named, rfl⟩ := Prod.mk.inj same
    exact ⟨held, member, named, reads⟩
  · rintro ⟨held, member, named, reads⟩
    exact ⟨held.cell index, List.mem_map.mpr ⟨held, member, Prod.ext named rfl⟩, reads⟩

/-- A row stands for what it says of the wanted columns. -/
theorem tells_row {τ υ : Type} {data : τ → List Datum} {stamp : τ → Int} {build : τ → Instant → υ}
    {result : υ} (sheet : Sheet height) :
    Tells layout data stamp build sheet.names ((sheet.row index).map Utf8.encode) result ↔
      ∃ value time, List.Forall₂ (sheet.Says index) layout (data value) ∧
        Instant.ofMillis? (stamp value) = some time ∧ build value time = result := by
  have legible (texts : List String) :
      Legible sheet.names ((sheet.row index).map Utf8.encode) texts ↔ texts = sheet.row index := by
    constructor
    · exact fun legible => List.map_injective_iff.mpr Utf8.encode_injective legible.encodes
    · rintro rfl
      exact ⟨by rw [List.length_map, row, names, List.length_map, List.length_map], rfl⟩
  simp only [Tells, legible]
  constructor
  · rintro ⟨texts, value, time, rfl, told, inRange, built⟩
    exact ⟨value, time, told.imp fun _ _ => sheet.say_row.mp, inRange, built⟩
  · rintro ⟨value, time, told, inRange, built⟩
    exact ⟨_, value, time, rfl, told.imp fun _ _ => sheet.say_row.mpr, inRange, built⟩

variable {sheet : Sheet height} {bytes : List UInt8}

/-- What is written of a table has its header and its rows. -/
theorem Writes.exists_headed (writes : sheet.Writes bytes) (heads : layout.Heads sheet.names) :
    ∃ header rows, Headed layout bytes header sheet.names rows ∧
      rows.map (·.fields) =
        (List.finRange height).map fun index => (sheet.row index).map Utf8.encode := by
  have unmarked : ¬byteOrderMark <+: bytes := by
    refine unmarked_of_written writes.written fun content member => ?_
    rw [names, List.map_map] at member
    obtain ⟨column, here, rfl⟩ := List.mem_map.mp member
    exact writes.unmarked column here
  have read := map_fields_of_written writes.written unmarked
  cases split : records bytes with
  | nil =>
      rw [split] at read
      cases read
  | cons header rows =>
      rw [split, List.map_cons, fields] at read
      obtain ⟨named, others⟩ := List.cons.inj read
      exact ⟨header, rows, ⟨split, Record.texts_eq_ok.mpr named.symm, heads⟩, others⟩

end Sheet

namespace Dates

variable {ρ τ υ : Type} {schema : Schema ρ τ} {layout : Layout}
  {datum : String → ρ → Option Datum} {data : τ → List Datum}
  {use : Nat → τ → Except RowFault υ} {stamp : τ → Int} {build : τ → Instant → υ}
  {height : Nat} {first second : Sheet height} {bytes others : List UInt8}

/-- The rows of a table that is written are taken as they say. -/
theorem readRows_of_writes {sheet : Sheet height} (dates : Dates layout data use stamp build)
    (lays : schema.Lays layout datum data) (writes : sheet.Writes bytes)
    (heads : layout.Heads sheet.names) {results : List υ} :
    schema.readRows use bytes = .ok results ↔
      List.Forall₂ (fun index result => ∃ value time,
        List.Forall₂ (sheet.Says index) layout (data value) ∧
          Instant.ofMillis? (stamp value) = some time ∧ build value time = result)
        (List.finRange height) results := by
  obtain ⟨header, rows, headed, written⟩ := writes.exists_headed heads
  simp only [← Sheet.tells_row]
  rw [dates.readRows_eq_ok lays headed,
    ← List.forall₂_map_left_iff (f := Record.fields)
      (R := Tells layout data stamp build sheet.names), written, List.forall₂_map_left_iff]

/-- **What is read does not depend on the arrangement** of the columns. -/
theorem readRows_rearranged (dates : Dates layout data use stamp build)
    (lays : schema.Lays layout datum data) (writes : first.Writes bytes)
    (writesOther : second.Writes others) (heads : layout.Heads first.names)
    (rearranged : first.Rearranged layout second) {results : List υ} :
    schema.readRows use bytes = .ok results ↔ schema.readRows use others = .ok results := by
  rw [dates.readRows_of_writes lays writes heads, dates.readRows_of_writes lays writesOther
    ((Sheet.heads_congr rearranged).mp heads)]
  refine Related.congr fun index _ result => exists₂_congr fun value time =>
    and_congr_left fun _ => Related.congr fun column member read => ?_
  exact Sheet.says_congr rearranged member

end Dates

/-- **The columns may be arranged freely.** A tick table that is written anew after its columns have
changed places and others have come or gone is read if and only if it was, and as the same ticks; a
schedule table as the same schedule, and it is refused for an invalid size if and only if it was,
and for the same one. -/
theorem columns_arranged_freely {height : Nat} (sheet arranged : Sheet height)
    (bytes others : List UInt8) (writes : sheet.Writes bytes) (anew : arranged.Writes others) :
    (TickCells.layout.Heads sheet.names → sheet.Rearranged TickCells.layout arranged →
      ∀ ticks, Tick.readData bytes = .ok ticks ↔ Tick.readData others = .ok ticks) ∧
    (EntryCells.layout.Heads sheet.names → sheet.Rearranged EntryCells.layout arranged →
      (∀ schedule,
        Schedule.readData bytes = .ok schedule ↔ Schedule.readData others = .ok schedule) ∧
      ∀ size, Schedule.readData bytes = .error (.trade (.invalidBrickSize size)) ↔
        Schedule.readData others = .error (.trade (.invalidBrickSize size))) := by
  constructor
  · intro heads rearranged ticks
    rw [Tick.readData_eq_ok_iff, Tick.readData_eq_ok_iff]
    exact TickCells.dates.readRows_rearranged TickCells.lays writes anew heads rearranged
  · intro heads rearranged
    have rows (entries : List (ScheduleEntry Float)) :
        Schedule.readTable bytes = .ok entries ↔ Schedule.readTable others = .ok entries :=
      EntryCells.dates.readRows_rearranged EntryCells.lays writes anew heads rearranged
    refine ⟨fun schedule => ?_, fun size => ?_⟩
    · simp only [Schedule.readData_eq_ok_iff, rows]
    · simp only [Schedule.readData_eq_trade_iff, rows]

/-- A table of ticks and of a size that is invalid, whose columns are turned around while one is put
in that needs quotes. -/
theorem columns_arranged_freely_around_note :
    let stamp : TextColumn 1 := ⟨"time_msc", fun _ => "1000"⟩
    let price : TextColumn 1 := ⟨"last", fun _ => "1.5"⟩
    let volume : TextColumn 1 := ⟨"volume_real", fun _ => "2"⟩
    let size : TextColumn 1 := ⟨"brick_size", fun _ => "-1"⟩
    let note : TextColumn 1 := ⟨"the \"note\"", fun _ => "a,\nb"⟩
    let bytes := writeTable (Sheet.fields [stamp, price, volume, size])
    let others := writeTable (Sheet.fields [size, volume, note, price, stamp])
    bytes = Utf8.encode "time_msc,last,volume_real,brick_size\n1000,1.5,2,-1\n" ∧
    others = Utf8.encode ("brick_size,volume_real,\"the \"\"note\"\"\",last,time_msc\n" ++
      "-1,2,\"a,\nb\",1.5,1000\n") ∧
    Tick.readData others = .ok [⟨.ofMillis 1000, 1.5, 2⟩] ∧
    Schedule.readData others = .error (.trade (.invalidBrickSize (-1))) := by
  intro stamp price volume size note bytes others
  have writes : Sheet.Writes [stamp, price, volume, size] bytes :=
    Sheet.writes_writeTable (by simp) (by decide +kernel)
  have anew : Sheet.Writes [size, volume, note, price, stamp] others :=
    Sheet.writes_writeTable (by simp) (by decide +kernel)
  have rearranged {layout : Layout} (other : note.name ∉ layout.map Prod.fst) :
      Sheet.Rearranged layout [stamp, price, volume, size] [size, volume, note, price, stamp] :=
    .trans (.moved (List.reverse_perm [stamp, price, volume, size]).symm)
      (.putIn [size, volume] [price, stamp] other)
  obtain ⟨ticks, sizes⟩ := columns_arranged_freely _ _ bytes others writes anew
  refine ⟨by decide +kernel, by decide +kernel, ?_, ?_⟩
  · exact (ticks (by decide) (rearranged (by decide)) _).mp (by rfl)
  · exact ((sizes (by decide) (rearranged (by decide))).2 _).mp (by rfl)

end Renko.Csv
