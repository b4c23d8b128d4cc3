import Renko.Proofs.Csv.Rows
import Renko.Proofs.Csv.Scanner
import Renko.Proofs.Schedule
import Renko.Schedule.Table

/-! # Tables of ticks and sizes

Two tables are read, one of ticks and one of sizes, and each row of theirs is judged on its own.
-/

/-! ## Tick tables row by row

Under a header with all its columns a tick table is read if and only if each of its rows stands for
a tick, and then as those ticks (`Renko.Tick.readData_eq_ok`). Otherwise the first row that does not
is what is wrong with it (`Renko.Tick.readData_eq_error`), whatever comes after that row
(`Renko.Tick.readData_of_prefix`).
-/

namespace Renko

namespace TickCells

open Csv

/-- The columns of a tick table. -/
def layout : Layout := [(stampColumn, .whole), ("last", .binary64), ("volume_real", .binary64)]

/-- What a row holds under a name. -/
def datum (name : String) (row : TickCells) : Option Datum :=
  if name = stampColumn then row.stamp.map .whole
  else if name = "last" then row.price.map .binary64
  else if name = "volume_real" then row.volume.map .binary64
  else none

/-- What a finished row holds, in the order of the columns. -/
def data : Int × Float × Float → List Datum
  | (ms, price, volume) => [.whole ms, .binary64 price, .binary64 volume]

/-- The stamp of a row is the number in its column. -/
@[simp] theorem datum_stamp (row : TickCells) :
    datum stampColumn row = row.stamp.map .whole := rfl

/-- The price of a row is the number in its column. -/
@[simp] theorem datum_last (row : TickCells) :
    datum "last" row = row.price.map .binary64 := rfl

/-- The volume of a row is the number in its column. -/
@[simp] theorem datum_volume (row : TickCells) :
    datum "volume_real" row = row.volume.map .binary64 := rfl

/-- The columns of the table are laid out as its reader asks. -/
theorem lays : schema.Lays layout datum data where
  distinct := by decide
  names_eq := rfl
  wanted column member := by
    simp only [layout, List.mem_cons, List.not_mem_nil, or_false] at member
    rcases member with rfl | rfl | rfl
    · refine ⟨_, rfl, Schema.puts_of_place (·.stamp) (fun _ => rfl) (fun _ => rfl) (fun _ _ => rfl)
        (fun _ => rfl) (fun _ _ => rfl) fun value row other differs => ?_⟩
      simp only [datum, differs, if_false]
    · refine ⟨_, rfl, Schema.puts_of_place (·.price) (fun _ => rfl) (fun _ => rfl) (fun _ _ => rfl)
        (fun _ => rfl) (fun _ _ => rfl) fun value row other differs => ?_⟩
      simp only [datum, differs, if_false]
    · refine ⟨_, rfl, Schema.puts_of_place (·.volume) (fun _ => rfl) (fun _ => rfl) (fun _ _ => rfl)
        (fun _ => rfl) (fun _ _ => rfl) fun value row other differs => ?_⟩
      simp only [datum, differs, if_false]
  blank name := by
    simp only [datum, schema, Option.map_none, ite_self]
  finishes row held := by
    obtain ⟨stamp, price, volume⟩ := row
    simp only [layout, List.forall_mem_cons, datum_stamp, datum_last, datum_volume,
      Option.isSome_map] at held
    obtain ⟨stamped, priced, sized, -⟩ := held
    obtain ⟨ms, rfl⟩ := Option.isSome_iff_exists.mp stamped
    obtain ⟨paid, rfl⟩ := Option.isSome_iff_exists.mp priced
    obtain ⟨traded, rfl⟩ := Option.isSome_iff_exists.mp sized
    exact ⟨(ms, paid, traded), rfl⟩
  finish_eq_ok row value := by
    obtain ⟨ms, paid, traded⟩ := value
    simp only [layout, data, List.forall₂_cons, List.Forall₂.nil, and_true, datum_stamp, datum_last,
      datum_volume, Option.map_eq_some_iff, Datum.whole.injEq, Datum.binary64.injEq,
      exists_eq_right]
    obtain ⟨stamp, price, volume⟩ := row
    cases stamp <;> cases price <;> cases volume <;> simp [schema]

/-- A row is handed on as a tick once its time stamp is in range. -/
def use (row : Nat) : Int × Float × Float → Except RowFault (Tick Float) :=
  fun (stamp, price, volume) => do return ⟨← instantOf row stamp, price, volume⟩

def build : Int × Float × Float → Instant → Tick Float
  | (_, price, volume), time => ⟨time, price, volume⟩

/-- Rows are dated by their stamps. -/
theorem dates : Dates layout data use Prod.fst build where
  layout_eq := ⟨_, rfl⟩
  data_eq _ := ⟨_, rfl⟩
  use_eq row value := by
    rw [use]
    cases instantOf row value.1 <;> rfl

end TickCells

namespace Tick

open Csv

/-- The fields of a row, one for each name, are texts that stand for a tick: they are the numbers of
its price and its volume, and one of milliseconds that is in range. -/
def Stands (names : List String) (fields : List (List UInt8)) (tick : Tick Float) : Prop :=
  ∃ texts ms, Legible names fields texts ∧
    Cells.Say (names.zip texts) (stampColumn, .whole) (.whole ms) ∧
    Cells.Say (names.zip texts) ("last", .binary64) (.binary64 tick.price) ∧
    Cells.Say (names.zip texts) ("volume_real", .binary64) (.binary64 tick.volume) ∧
    Instant.ofMillis? ms = some tick.time

/-- What a row tells is the tick it stands for. -/
theorem stands_iff {names : List String} {fields : List (List UInt8)} {tick : Tick Float} :
    Tells TickCells.layout TickCells.data Prod.fst TickCells.build names fields tick ↔
      Stands names fields tick := by
  simp only [Tells, TickCells.layout, TickCells.data, List.forall₂_cons, List.Forall₂.nil, and_true]
  constructor
  · rintro ⟨texts, ⟨ms, price, volume⟩, time, legible, ⟨stamped, priced, sized⟩, inRange, rfl⟩
    exact ⟨texts, ms, legible, stamped, priced, sized, inRange⟩
  · rintro ⟨texts, ms, legible, stamped, priced, sized, inRange⟩
    exact ⟨texts, (ms, tick.price, tick.volume), tick.time, legible, ⟨stamped, priced, sized⟩,
      inRange, rfl⟩

private theorem readData_of_ticks {bytes : List UInt8} {ticks : List (Tick Float)}
    (rows : readTable bytes = .ok ticks) : readData bytes = .ok ticks := by
  rw [readData, rows]

private theorem readData_of_fault {bytes : List UInt8} {cause : RowFault}
    (refused : readTable bytes = .error cause) :
    readData bytes = .error (.tickData cause.message) := by
  rw [readData, refused]

/-- Data is read as ticks if its table is. -/
theorem readData_eq_ok_iff {bytes : List UInt8} {ticks : List (Tick Float)} :
    readData bytes = .ok ticks ↔ readTable bytes = .ok ticks := by
  cases rows : readTable bytes with
  | ok others => rw [readData_of_ticks rows, Except.ok.injEq, Except.ok.injEq]
  | error cause =>
      rw [readData_of_fault rows]
      exact iff_of_false (fun same => nomatch same) fun same => nomatch same

/-- Otherwise its fault is that of the table. -/
theorem readData_eq_error_iff {bytes : List UInt8} {fault : Fault} :
    readData bytes = .error fault ↔
      ∃ cause, readTable bytes = .error cause ∧ fault = .tickData cause.message := by
  cases rows : readTable bytes with
  | ok others =>
      rw [readData_of_ticks rows]
      exact iff_of_false (fun same => nomatch same) fun ⟨_, same, _⟩ => nomatch same
  | error cause =>
      rw [readData_of_fault rows]
      simp only [Except.error.injEq, exists_eq_left']
      exact eq_comm

section Rows

variable {bytes : List UInt8} {header : Record} {rows : List Record} {names : List String}

/-- **A tick table is read** as the ticks its rows stand for. -/
theorem readData_eq_ok (headed : Headed TickCells.layout bytes header names rows)
    {ticks : List (Tick Float)} :
    readData bytes = .ok ticks ↔
      List.Forall₂ (fun row tick => Stands names row.fields tick) rows ticks := by
  simp only [← stands_iff]
  exact readData_eq_ok_iff.trans (TickCells.dates.readRows_eq_ok TickCells.lays headed)

/-- Data is read if each of its rows stands as it should. -/
theorem exists_readData_eq_ok (headed : Headed TickCells.layout bytes header names rows) :
    (∃ ticks, readData bytes = .ok ticks) ↔
      ∀ row ∈ rows, ∃ tick, Stands names row.fields tick := by
  simp only [← stands_iff, readData_eq_ok_iff]
  exact TickCells.dates.exists_readRows_eq_ok TickCells.lays headed

/-- **A tick table is refused** for the first row that is. -/
theorem readData_eq_error (headed : Headed TickCells.layout bytes header names rows)
    {fault : Fault} :
    readData bytes = .error fault ↔ ∃ cause,
      FirstRefused TickCells.layout names rows cause ∧ fault = .tickData cause.message := by
  simp only [← TickCells.dates.readRows_eq_error TickCells.lays headed]
  exact readData_eq_error_iff

/-- What comes after a row that is refused does not matter. -/
theorem readData_of_prefix (headed : Headed TickCells.layout bytes header names rows)
    {earlier later : List Record} {row : Record} (cut : rows = earlier ++ row :: later)
    {cause : RowFault} (refused : Refuses TickCells.layout names row cause) {others : List UInt8}
    (starts : header :: (earlier ++ [row]) <+: records others) :
    readData others = readData bytes := by
  have same : readTable others = readTable bytes :=
    TickCells.dates.readRows_of_prefix TickCells.lays headed cut refused starts
  rw [readData, readData, same]

end Rows

/-- What follows a fault in a text does not change it. -/
theorem readData_append_of_error {bytes : List UInt8} (complete : Complete bytes) {fault : Fault}
    (refused : readData bytes = .error fault) (later : List UInt8) :
    readData (bytes ++ later) = .error fault := by
  obtain ⟨cause, stops, rfl⟩ := readData_eq_error_iff.mp refused
  exact readData_of_fault (Schema.readRows_append_of_error complete stops later)

end Tick

/-! ## Schedule tables row by row

A schedule table is judged like a tick table as long as there is a row to be judged
(`Renko.Schedule.readData_eq_tickData`). Only when each row stands for an entry are the sizes looked
at, in the order of the rows: the first invalid one is reported
(`Renko.Schedule.readData_eq_trade`), and if there is none the entries are put in the order of their
times (`Renko.Schedule.readData_eq_ok`).
-/

namespace EntryCells

open Csv

/-- The columns of a schedule table. -/
def layout : Layout := [(stampColumn, .whole), ("brick_size", .binary64)]

/-- What a row holds under a name. -/
def datum (name : String) (row : EntryCells) : Option Datum :=
  if name = stampColumn then row.stamp.map .whole
  else if name = "brick_size" then row.size.map .binary64
  else none

/-- What a finished row holds, in the order of the columns. -/
def data : Int × Float → List Datum
  | (ms, size) => [.whole ms, .binary64 size]

/-- The stamp of a row is the number in its column. -/
@[simp] theorem datum_stamp (row : EntryCells) :
    datum stampColumn row = row.stamp.map .whole := rfl

/-- The size of a row is the number in its column. -/
@[simp] theorem datum_size (row : EntryCells) :
    datum "brick_size" row = row.size.map .binary64 := rfl

/-- The columns of the table are laid out as its reader asks. -/
theorem lays : schema.Lays layout datum data where
  distinct := by decide
  names_eq := rfl
  wanted column member := by
    simp only [layout, List.mem_cons, List.not_mem_nil, or_false] at member
    rcases member with rfl | rfl
    · refine ⟨_, rfl, Schema.puts_of_place (·.stamp) (fun _ => rfl) (fun _ => rfl) (fun _ _ => rfl)
        (fun _ => rfl) (fun _ _ => rfl) fun value row other differs => ?_⟩
      simp only [datum, differs, if_false]
    · refine ⟨_, rfl, Schema.puts_of_place (·.size) (fun _ => rfl) (fun _ => rfl) (fun _ _ => rfl)
        (fun _ => rfl) (fun _ _ => rfl) fun value row other differs => ?_⟩
      simp only [datum, differs, if_false]
  blank name := by
    simp only [datum, schema, Option.map_none, ite_self]
  finishes row held := by
    obtain ⟨stamp, size⟩ := row
    simp only [layout, List.forall_mem_cons, datum_stamp, datum_size, Option.isSome_map] at held
    obtain ⟨stamped, sized, -⟩ := held
    obtain ⟨ms, rfl⟩ := Option.isSome_iff_exists.mp stamped
    obtain ⟨width, rfl⟩ := Option.isSome_iff_exists.mp sized
    exact ⟨(ms, width), rfl⟩
  finish_eq_ok row value := by
    obtain ⟨ms, width⟩ := value
    simp only [layout, data, List.forall₂_cons, List.Forall₂.nil, and_true, datum_stamp, datum_size,
      Option.map_eq_some_iff, Datum.whole.injEq, Datum.binary64.injEq, exists_eq_right]
    obtain ⟨stamp, size⟩ := row
    cases stamp <;> cases size <;> simp [schema]

/-- A row is handed on as an entry once its time stamp is in range. -/
def use (row : Nat) : Int × Float → Except RowFault (ScheduleEntry Float) :=
  fun (stamp, size) => do return ⟨← instantOf row stamp, size⟩

def build : Int × Float → Instant → ScheduleEntry Float
  | (_, size), time => ⟨time, size⟩

/-- Rows are dated by their stamps. -/
theorem dates : Dates layout data use Prod.fst build where
  layout_eq := ⟨_, rfl⟩
  data_eq _ := ⟨_, rfl⟩
  use_eq row value := by
    rw [use]
    cases instantOf row value.1 <;> rfl

end EntryCells

open Csv

/-- The fields of a row, one for each name, are texts that stand for an entry: they are the number
of its size, and one of milliseconds that is in range. -/
def ScheduleEntry.Stands (names : List String) (fields : List (List UInt8))
    (entry : ScheduleEntry Float) : Prop :=
  ∃ texts ms, Legible names fields texts ∧
    Cells.Say (names.zip texts) (stampColumn, .whole) (.whole ms) ∧
    Cells.Say (names.zip texts) ("brick_size", .binary64) (.binary64 entry.size) ∧
    Instant.ofMillis? ms = some entry.time

/-- What a row tells is the entry it stands for. -/
theorem ScheduleEntry.stands_iff {names : List String} {fields : List (List UInt8)}
    {entry : ScheduleEntry Float} :
    Tells EntryCells.layout EntryCells.data Prod.fst EntryCells.build names fields entry ↔
      Stands names fields entry := by
  simp only [Tells, EntryCells.layout, EntryCells.data, List.forall₂_cons, List.Forall₂.nil,
    and_true]
  constructor
  · rintro ⟨texts, ⟨ms, size⟩, time, legible, ⟨stamped, sized⟩, inRange, rfl⟩
    exact ⟨texts, ms, legible, stamped, sized, inRange⟩
  · rintro ⟨texts, ms, legible, stamped, sized, inRange⟩
    exact ⟨texts, (ms, entry.size), entry.time, legible, ⟨stamped, sized⟩, inRange, rfl⟩

namespace Schedule

section Outcomes

variable {bytes : List UInt8}

/-- The entries of a table are judged by their sizes. -/
theorem readData_of_entries {entries : List (ScheduleEntry Float)}
    (rows : readTable bytes = .ok entries) :
    readData bytes = Fault.ofTrade (ofEntries entries) := by
  rw [readData, rows]

private theorem readData_of_fault {cause : RowFault} (refused : readTable bytes = .error cause) :
    readData bytes = .error (.tickData cause.message) := by
  rw [readData, refused]

/-- A schedule that is read is built from the entries of its table. -/
theorem readData_eq_ok_iff {schedule : Schedule Float} :
    readData bytes = .ok schedule ↔
      ∃ entries, readTable bytes = .ok entries ∧ ofEntries entries = .ok schedule := by
  cases rows : readTable bytes with
  | error cause =>
      rw [readData_of_fault rows]
      exact iff_of_false (fun same => nomatch same) fun ⟨_, same, _⟩ => nomatch same
  | ok entries =>
      rw [readData_of_entries rows]
      simp only [Except.ok.injEq, exists_eq_left']
      cases ofEntries entries with
      | ok other => rw [Fault.ofTrade, Except.ok.injEq, Except.ok.injEq]
      | error cause => exact iff_of_false (fun same => nomatch same) fun same => nomatch same

/-- Data that is refused is no table, or its entries are. -/
theorem readData_eq_error_iff {fault : Fault} :
    readData bytes = .error fault ↔
      (∃ cause, readTable bytes = .error cause ∧ fault = .tickData cause.message) ∨
        ∃ entries cause, readTable bytes = .ok entries ∧ ofEntries entries = .error cause ∧
          fault = .trade cause := by
  cases rows : readTable bytes with
  | error cause =>
      rw [readData_of_fault rows]
      simp only [Except.error.injEq, exists_eq_left', reduceCtorEq, false_and, exists_false,
        or_false]
      exact eq_comm
  | ok entries =>
      rw [readData_of_entries rows]
      simp only [Except.ok.injEq, reduceCtorEq, false_and, exists_false, false_or,
        exists_and_left, exists_eq_left']
      cases ofEntries entries with
      | ok other => exact iff_of_false (fun same => nomatch same) fun ⟨_, same, _⟩ => nomatch same
      | error cause =>
          simp only [Fault.ofTrade, Except.error.injEq, exists_eq_left']
          exact eq_comm

/-- Data is no table of sizes if one of its rows is at fault. -/
theorem readData_eq_tickData_iff {reason : String} :
    readData bytes = .error (.tickData reason) ↔
      ∃ cause, readTable bytes = .error cause ∧ reason = cause.message := by
  simp only [readData_eq_error_iff, Fault.tickData.injEq, reduceCtorEq, and_false, exists_false,
    or_false]

/-- A table is refused for a size if the sizes of its entries are refused. -/
theorem readData_eq_trade_iff {cause : TradeFault Float} :
    readData bytes = .error (.trade cause) ↔
      ∃ entries, readTable bytes = .ok entries ∧ ofEntries entries = .error cause := by
  simp only [readData_eq_error_iff, Fault.trade.injEq, reduceCtorEq, and_false, exists_false,
    false_or, ← and_assoc, exists_eq_right']

end Outcomes

section Rows

variable {bytes : List UInt8} {header : Record} {rows : List Record} {names : List String}

/-- A table is read as the entries that its rows stand for. -/
theorem readTable_eq_ok (headed : Headed EntryCells.layout bytes header names rows)
    {entries : List (ScheduleEntry Float)} :
    readTable bytes = .ok entries ↔
      List.Forall₂ (fun row entry => ScheduleEntry.Stands names row.fields entry) rows entries := by
  simp only [← ScheduleEntry.stands_iff]
  exact EntryCells.dates.readRows_eq_ok EntryCells.lays headed

/-- **A schedule table is read** as the entries its rows stand for, in the order of their times, if
all their sizes are valid. -/
theorem readData_eq_ok (headed : Headed EntryCells.layout bytes header names rows)
    {schedule : Schedule Float} :
    readData bytes = .ok schedule ↔ ∃ entries,
      List.Forall₂ (fun row entry => ScheduleEntry.Stands names row.fields entry) rows entries ∧
        (∀ entry ∈ entries, entry.size.isFinite = true ∧ 0 < entry.size) ∧
        Alike entries schedule.entries ∧
        schedule.entries.Pairwise fun first second => first.time ≤ second.time := by
  simp only [readData_eq_ok_iff, readTable_eq_ok headed, eq_ok_iff_ordered]

/-- Data is read if each of its rows stands as it should. -/
theorem exists_readData_eq_ok (headed : Headed EntryCells.layout bytes header names rows) :
    (∃ schedule, readData bytes = .ok schedule) ↔ ∀ row ∈ rows, ∃ entry,
      ScheduleEntry.Stands names row.fields entry ∧
        entry.size.isFinite = true ∧ 0 < entry.size := by
  simp only [← Related.exists_iff, Related.and_right, ← validBrickSize_iff, readData_eq_ok_iff,
    readTable_eq_ok headed, ofEntries_eq_ok]
  constructor
  · rintro ⟨schedule, entries, stand, valid, -⟩
    exact ⟨entries, stand, valid⟩
  · rintro ⟨entries, stand, valid⟩
    exact ⟨_, entries, stand, valid, rfl⟩

/-- **A row that stands for no entry** is reported, the first one of them, whatever the sizes
are. -/
theorem readData_eq_tickData (headed : Headed EntryCells.layout bytes header names rows)
    {reason : String} :
    readData bytes = .error (.tickData reason) ↔ ∃ cause,
      FirstRefused EntryCells.layout names rows cause ∧ reason = cause.message := by
  simp only [← EntryCells.dates.readRows_eq_error EntryCells.lays headed]
  exact readData_eq_tickData_iff

/-- **A size that is invalid** is reported, the first one of them, if each row stands for an
entry. -/
theorem readData_eq_trade (headed : Headed EntryCells.layout bytes header names rows)
    {cause : TradeFault Float} :
    readData bytes = .error (.trade cause) ↔ ∃ earlier entry later,
      List.Forall₂ (fun row entry => ScheduleEntry.Stands names row.fields entry) rows
        (earlier ++ entry :: later) ∧
      (∀ other ∈ earlier, other.size.isFinite = true ∧ 0 < other.size) ∧
      ¬(entry.size.isFinite = true ∧ 0 < entry.size) ∧ cause = .invalidBrickSize entry.size := by
  simp only [readData_eq_trade_iff, readTable_eq_ok headed, eq_error_iff_first]
  constructor
  · rintro ⟨entries, stand, earlier, entry, later, rfl, wrong⟩
    exact ⟨earlier, entry, later, stand, wrong⟩
  · rintro ⟨earlier, entry, later, stand, wrong⟩
    exact ⟨_, stand, earlier, entry, later, rfl, wrong⟩

/-- What comes after a row that is refused does not matter. -/
theorem readData_of_prefix (headed : Headed EntryCells.layout bytes header names rows)
    {earlier later : List Record} {row : Record} (cut : rows = earlier ++ row :: later)
    {cause : RowFault} (refused : Refuses EntryCells.layout names row cause) {others : List UInt8}
    (starts : header :: (earlier ++ [row]) <+: records others) :
    readData others = readData bytes := by
  have same : readTable others = readTable bytes :=
    EntryCells.dates.readRows_of_prefix EntryCells.lays headed cut refused starts
  rw [readData, readData, same]

end Rows

/-- What follows a row that is refused in a text does not change that. -/
theorem readData_append_of_tickData {bytes : List UInt8} (complete : Complete bytes)
    {reason : String} (refused : readData bytes = .error (.tickData reason)) (later : List UInt8) :
    readData (bytes ++ later) = .error (.tickData reason) := by
  obtain ⟨cause, stops, rfl⟩ := readData_eq_tickData_iff.mp refused
  exact readData_of_fault (Schema.readRows_append_of_error complete stops later)

/-- **The rows decide both kinds of tables.** A tick table is read if and only if each of its rows
stands for a tick, and then as those ticks in the order of the rows; otherwise the first row that is
refused is reported. A schedule table is judged alike, and only if each row stands for an entry are
the sizes judged: it is read if all of them are valid, the entries then being in the order of time,
and otherwise the first invalid one in the order of the rows is reported. Nothing that comes after
a row that is refused changes what is reported, be it other rows or bytes behind a complete
text. -/
theorem rows_decide (bytes : List UInt8) (header : Record) (names : List String)
    (rows : List Record) :
    (Headed TickCells.layout bytes header names rows →
      (∀ ticks, Tick.readData bytes = .ok ticks ↔
        List.Forall₂ (fun row tick => Tick.Stands names row.fields tick) rows ticks) ∧
      ((∃ ticks, Tick.readData bytes = .ok ticks) ↔
        ∀ row ∈ rows, ∃ tick, Tick.Stands names row.fields tick) ∧
      (∀ fault, Tick.readData bytes = .error fault ↔
        ∃ cause, FirstRefused TickCells.layout names rows cause ∧
          fault = .tickData cause.message) ∧
      (∀ earlier row later cause others, rows = earlier ++ row :: later →
        Refuses TickCells.layout names row cause →
        header :: (earlier ++ [row]) <+: records others →
          Tick.readData others = Tick.readData bytes) ∧
      (Complete bytes → ∀ fault, Tick.readData bytes = .error fault →
        ∀ later, Tick.readData (bytes ++ later) = .error fault)) ∧
    (Headed EntryCells.layout bytes header names rows →
      (∀ schedule, readData bytes = .ok schedule ↔ ∃ entries,
        List.Forall₂ (fun row entry => ScheduleEntry.Stands names row.fields entry) rows entries ∧
          (∀ entry ∈ entries, entry.size.isFinite = true ∧ 0 < entry.size) ∧
          Alike entries schedule.entries ∧
          schedule.entries.Pairwise fun first second => first.time ≤ second.time) ∧
      ((∃ schedule, readData bytes = .ok schedule) ↔
        ∀ row ∈ rows, ∃ entry, ScheduleEntry.Stands names row.fields entry ∧
          entry.size.isFinite = true ∧ 0 < entry.size) ∧
      (∀ reason, readData bytes = .error (.tickData reason) ↔
        ∃ cause, FirstRefused EntryCells.layout names rows cause ∧ reason = cause.message) ∧
      (∀ size, readData bytes = .error (.trade (.invalidBrickSize size)) ↔
        ∃ earlier entry later,
          List.Forall₂ (fun row entry => ScheduleEntry.Stands names row.fields entry) rows
            (earlier ++ entry :: later) ∧
          (∀ other ∈ earlier, other.size.isFinite = true ∧ 0 < other.size) ∧
          ¬(entry.size.isFinite = true ∧ 0 < entry.size) ∧ size = entry.size) ∧
      (∀ fault, readData bytes = .error fault →
        (∃ reason, fault = .tickData reason) ∨ ∃ size, fault = .trade (.invalidBrickSize size)) ∧
      (∀ earlier row later cause others, rows = earlier ++ row :: later →
        Refuses EntryCells.layout names row cause →
        header :: (earlier ++ [row]) <+: records others → readData others = readData bytes) ∧
      (Complete bytes → ∀ reason, readData bytes = .error (.tickData reason) →
        ∀ later, readData (bytes ++ later) = .error (.tickData reason))) := by
  refine ⟨fun headed => ⟨fun ticks => Tick.readData_eq_ok headed,
    Tick.exists_readData_eq_ok headed, fun fault => Tick.readData_eq_error headed,
    fun _ _ _ _ _ cut refused starts => Tick.readData_of_prefix headed cut refused starts,
    fun complete fault refused => Tick.readData_append_of_error complete refused⟩,
    fun headed => ⟨fun schedule => readData_eq_ok headed, exists_readData_eq_ok headed,
    fun reason => readData_eq_tickData headed, fun size => ?_, fun fault refused => ?_,
    fun _ _ _ _ _ cut refused starts => readData_of_prefix headed cut refused starts,
    fun complete reason refused => readData_append_of_tickData complete refused⟩⟩
  · simp only [readData_eq_trade headed, TradeFault.invalidBrickSize.injEq]
  · rcases readData_eq_error_iff.mp refused with ⟨cause, -, rfl⟩ | ⟨entries, cause, -, built, rfl⟩
    · exact .inl ⟨_, rfl⟩
    · obtain ⟨_, entry, _, -, -, -, rfl⟩ := eq_error_iff_first.mp built
      exact .inr ⟨entry.size, rfl⟩

/-- A tick table whose second row is short, whatever follows it; and a schedule table with two
invalid sizes, of which the one given first is not the one stamped first. -/
theorem rows_decide_of_files :
    let ticks := Utf8.encode "last,time_msc,volume_real\n1.5,1000,2\n3,2000\n"
    let entries := Utf8.encode "time_msc,brick_size\n3,2\n2,-1\n1,nan\n"
    (∀ later, Tick.readData (ticks ++ later) = .error (.tickData
      ("CSV parse error: CSV error: record 2 (line: 3, byte: 37): found record with 2 fields, " ++
        "but the previous record has 3 fields"))) ∧
    readData entries = .error (.trade (.invalidBrickSize (-1))) := by
  intro ticks entries
  have headedTicks : Headed TickCells.layout ticks
      ⟨0, ⟨0, 1⟩, ["last", "time_msc", "volume_real"].map Utf8.encode⟩
      ["last", "time_msc", "volume_real"]
      [⟨1, ⟨26, 2⟩, ["1.5", "1000", "2"].map Utf8.encode⟩,
        ⟨2, ⟨37, 3⟩, ["3", "2000"].map Utf8.encode⟩] :=
    ⟨by decide +kernel, Record.texts_eq_ok.mpr rfl, by decide⟩
  have headedEntries : Headed EntryCells.layout entries
      ⟨0, ⟨0, 1⟩, ["time_msc", "brick_size"].map Utf8.encode⟩ ["time_msc", "brick_size"]
      [⟨1, ⟨20, 2⟩, ["3", "2"].map Utf8.encode⟩, ⟨2, ⟨24, 3⟩, ["2", "-1"].map Utf8.encode⟩,
        ⟨3, ⟨29, 4⟩, ["1", "nan"].map Utf8.encode⟩] :=
    ⟨by decide +kernel, Record.texts_eq_ok.mpr rfl, by decide⟩
  obtain ⟨-, -, refused, -, lasting⟩ := (rows_decide ticks _ _ _).1 headedTicks
  constructor
  · refine lasting (by rfl) _ ((refused _).mpr
      ⟨.fieldCount 2 ⟨37, 3⟩ 2 3, ⟨[_], _, [], rfl, ?_, ?_⟩, rfl⟩)
    · refine List.forall_mem_singleton.mpr
        ((TickCells.dates.exists_tells_iff TickCells.lays headedTicks.heads
          headedTicks.texts_eq).mp ⟨⟨.ofMillis 1000, 1.5, 2⟩, Tick.stands_iff.mpr ?_⟩)
      exact ⟨_, 1000, ⟨rfl, rfl⟩, ⟨"1000", by decide, rfl⟩, ⟨"1.5", by decide, rfl⟩,
        ⟨"2", by decide, rfl⟩, rfl⟩
    · exact .unreadable (.fieldCount (by decide))
  · refine ((rows_decide entries _ _ _).2 headedEntries).2.2.2.1 _ |>.mpr
      ⟨[⟨.ofMillis 3, 2⟩], ⟨.ofMillis 2, -1⟩, [⟨.ofMillis 1, 0 / 0⟩], ?_, ?_, ?_, rfl⟩
    · refine .cons ?_ (.cons ?_ (.cons ?_ .nil))
      · exact ⟨_, 3, ⟨rfl, rfl⟩, ⟨"3", by decide, rfl⟩, ⟨"2", by decide, rfl⟩, rfl⟩
      · exact ⟨_, 2, ⟨rfl, rfl⟩, ⟨"2", by decide, rfl⟩, ⟨"-1", by decide, rfl⟩, rfl⟩
      · exact ⟨_, 1, ⟨rfl, rfl⟩, ⟨"1", by decide, rfl⟩, ⟨"nan", by decide, rfl⟩, rfl⟩
    · decide +kernel
    · decide +kernel

end Schedule

end Renko
