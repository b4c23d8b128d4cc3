import Renko.Proofs.Csv.Columns
import Renko.Proofs.Csv.Scanner
import Renko.Tick.Table

/-! # Rows of a table

The rows of a table are judged one after the other. Under a header with all wanted columns a row is
taken if and only if it has a field for every name, its fields are texts, its wanted cells are
numbers and its time stamp is in range (`Renko.Csv.Dates.row_eq_ok`); otherwise the first of these
that fails is what is wrong with it (`Renko.Csv.Dates.row_eq_error`). The table is refused for the
first row that is (`Renko.Csv.Dates.readRows_eq_error`), whatever the rows after it are
(`Renko.Csv.Dates.readRows_of_prefix`).
-/

namespace Renko.Csv

/-- The fields of a row, one for each name, are these texts. -/
structure Legible (names : List String) (fields : List (List UInt8)) (texts : List String) :
    Prop where
  level : fields.length = names.length
  encodes : texts.map Utf8.encode = fields

private theorem Legible.length_texts {names texts : List String} {fields : List (List UInt8)}
    (legible : Legible names fields texts) : texts.length = names.length := by
  have same := congrArg List.length legible.encodes
  rw [List.length_map] at same
  rw [same, legible.level]

/-- The first field that is no text, with its number and where it stops being one. The first
argument counts the fields before. -/
inductive Illegible : Nat → List (List UInt8) → Nat × Nat → Prop
  | here {field : Nat} {bytes : List UInt8} {fields : List (List UInt8)}
      (broken : Utf8.decode? bytes = none) :
      Illegible field (bytes :: fields) (field, Utf8.validLength bytes)
  | later {field : Nat} {bytes : List UInt8} {text : String} {fields : List (List UInt8)}
      {place : Nat × Nat} (decodes : Utf8.decode? bytes = some text)
      (illegible : Illegible (field + 1) fields place) : Illegible field (bytes :: fields) place

/-- A field as a text, or its number and where it stops being one. -/
def textAt (field : List UInt8 × Nat) : Except (Nat × Nat) String :=
  match Utf8.decode? field.1 with
  | some text => .ok text
  | none => .error (field.2, Utf8.validLength field.1)

namespace Record

variable {record : Record} {texts : List String} {place : Nat × Nat}

private theorem texts_eq_mapM (record : Record) :
    record.texts = record.fields.zipIdx.mapM textAt := rfl

private theorem textAt_eq_ok {bytes : List UInt8} {field : Nat} {text : String} :
    textAt (bytes, field) = .ok text ↔ Utf8.decode? bytes = some text := by
  rw [textAt]
  cases Utf8.decode? bytes with
  | none => exact iff_of_false (fun same => nomatch same) fun same => nomatch same
  | some other => simp only [Except.ok.injEq, Option.some.injEq]

/-- A record is text if texts encode as its fields. -/
theorem texts_eq_ok : record.texts = .ok texts ↔ texts.map Utf8.encode = record.fields := by
  have untagged := List.zipIdx_map_fst 0 record.fields
  rw [texts_eq_mapM, Outcome.mapM_eq_ok, eq_comm, ← untagged, ← List.forall₂_eq_eq_eq,
    List.forall₂_map_left_iff, List.forall₂_map_right_iff, untagged]
  exact Related.congr fun field _ text =>
    textAt_eq_ok.trans (Utf8.decode?_eq_some.trans eq_comm)

/-- Otherwise the first field that is no text is what is wrong with it. -/
theorem texts_eq_error : record.texts = .error place ↔ Illegible 0 record.fields place := by
  rw [texts_eq_mapM]
  generalize record.fields = fields
  generalize 0 = field
  induction fields generalizing field with
  | nil => exact iff_of_false (fun same => nomatch same) fun illegible => nomatch illegible
  | cons bytes fields inductionHypothesis =>
      rw [List.zipIdx_cons, List.mapM_cons, Outcome.bind_eq_error]
      simp only [Outcome.bind_eq_error, inductionHypothesis]
      cases decoded : Utf8.decode? bytes with
      | none =>
          have broken : textAt (bytes, field) = .error (field, Utf8.validLength bytes) := by
            rw [textAt, decoded]
          rw [broken, Except.error.injEq]
          constructor
          · rintro (rfl | ⟨text, same, -⟩)
            · exact .here decoded
            · cases same
          · intro illegible
            cases illegible with
            | here broken => exact .inl rfl
            | later decodes => cases decoded.symm.trans decodes
      | some text =>
          rw [textAt_eq_ok.mpr decoded]
          constructor
          · rintro (same | ⟨other, -, illegible | ⟨texts, -, same⟩⟩)
            · cases same
            · exact .later decoded illegible
            · cases same
          · intro illegible
            cases illegible with
            | here broken => cases decoded.symm.trans broken
            | later decodes illegible => exact .inr ⟨text, rfl, .inl illegible⟩

end Record

/-- Why a row cannot be read under a header: the first that fails of the count of its fields, their
encoding and the numbers in its wanted cells. -/
inductive Unreadable (layout : Layout) (names : List String) (record : Record) : RowFault → Prop
  | fieldCount (differs : record.fields.length ≠ names.length) :
      Unreadable layout names record
        (.fieldCount record.index record.mark record.fields.length names.length)
  | notText {field index : Nat} (level : record.fields.length = names.length)
      (illegible : Illegible 0 record.fields (field, index)) :
      Unreadable layout names record (.notText record.index record.mark field index)
  | cell {texts : List String} {fault : CellFault} (legible : Legible names record.fields texts)
      (faults : layout.Faults 0 (names.zip texts) fault) :
      Unreadable layout names record (.cell record.index record.mark fault)

/-- What is wrong with a row: it cannot be read, or it can and its time stamp is out of range. -/
inductive Refuses (layout : Layout) (names : List String) (record : Record) : RowFault → Prop
  | unreadable {fault : RowFault} (unreadable : Unreadable layout names record fault) :
      Refuses layout names record fault
  | outOfRange {texts : List String} {ms : Int} (legible : Legible names record.fields texts)
      (converts : ∀ cell ∈ names.zip texts, layout.Converts cell)
      (stamped : Cells.Say (names.zip texts) (stampColumn, .whole) (.whole ms))
      (outside : Instant.ofMillis? ms = none) :
      Refuses layout names record (.outOfRange record.index ms)

/-- The first row that is refused, and why. -/
def FirstRefused (layout : Layout) (names : List String) (rows : List Record) (cause : RowFault) :
    Prop :=
  ∃ earlier row later, rows = earlier ++ row :: later ∧
    (∀ other ∈ earlier, ∀ fault, ¬Refuses layout names other fault) ∧
    Refuses layout names row cause

/-- The first record of a table is its header: it is text and has each wanted column once. -/
structure Headed (layout : Layout) (bytes : List UInt8) (header : Record) (names : List String)
    (rows : List Record) : Prop where
  records_eq : records bytes = header :: rows
  texts_eq : header.texts = .ok names
  heads : layout.Heads names

namespace Schema.Lays

variable {ρ τ : Type} {schema : Schema ρ τ} {layout : Layout}
  {datum : String → ρ → Option Datum} {data : τ → List Datum}
  {header record : Record} {names : List String}

private theorem level_of_texts (headed : header.texts = .ok names) :
    header.fields.length = names.length := by
  have same := congrArg List.length (Record.texts_eq_ok.mp headed)
  rwa [List.length_map, eq_comm] at same

private theorem legible_iff {texts : List String} (level : record.fields.length = names.length)
    (decoded : record.texts = .ok texts) {others : List String} :
    Legible names record.fields others ↔ others = texts := by
  have encodes := Record.texts_eq_ok.mp decoded
  constructor
  · intro legible
    have same := legible.encodes.trans encodes.symm
    exact List.map_injective_iff.mpr Utf8.encode_injective same
  · rintro rfl
    exact ⟨level, encodes⟩

private theorem readRecord_of_differs (headed : header.texts = .ok names)
    (differs : record.fields.length ≠ names.length) :
    schema.readRecord header record =
      .error (.fieldCount record.index record.mark record.fields.length names.length) := by
  rw [readRecord, level_of_texts headed, if_pos differs]

private theorem readRecord_of_illegible (headed : header.texts = .ok names)
    (level : record.fields.length = names.length) {field index : Nat}
    (broken : record.texts = .error (field, index)) :
    schema.readRecord header record =
      .error (.notText record.index record.mark field index) := by
  rw [readRecord, level_of_texts headed, if_neg (not_not_intro level), broken]

private theorem readRecord_of_texts (headed : header.texts = .ok names)
    (level : record.fields.length = names.length) {texts : List String}
    (decoded : record.texts = .ok texts) :
    schema.readRecord header record =
      (schema.readCells (some names) texts).mapError (.cell record.index record.mark) := by
  rw [readRecord, level_of_texts headed, if_neg (not_not_intro level), headed, decoded]
  simp only [Except.toOption]
  cases schema.readCells (some names) texts <;> rfl

/-- A row of texts is read as what its wanted cells say. -/
theorem readRecord_eq_ok (lays : schema.Lays layout datum data) (heads : layout.Heads names)
    (headed : header.texts = .ok names) {value : τ} :
    schema.readRecord header record = .ok value ↔ ∃ texts, Legible names record.fields texts ∧
      List.Forall₂ (fun column read => Cells.Say (names.zip texts) column read) layout
        (data value) := by
  by_cases level : record.fields.length = names.length
  · cases decoded : record.texts with
    | error place =>
        rw [readRecord_of_illegible headed level decoded]
        refine iff_of_false (fun same => nomatch same) ?_
        rintro ⟨texts, legible, -⟩
        cases decoded.symm.trans (Record.texts_eq_ok.mpr legible.encodes)
    | ok texts =>
        have legible := (legible_iff level decoded).mpr rfl
        simp only [legible_iff level decoded, exists_eq_left,
          ← lays.readCells_eq_ok heads legible.length_texts]
        rw [readRecord_of_texts headed level decoded]
        cases schema.readCells (some names) texts with
        | ok row => rw [Except.mapError, Except.ok.injEq, Except.ok.injEq]
        | error cause => exact iff_of_false (fun same => nomatch same) fun same => nomatch same
  · rw [readRecord_of_differs headed level]
    exact iff_of_false (fun same => nomatch same) fun ⟨_, legible, _⟩ => level legible.level

private theorem unreadable_of_illegible {field index : Nat}
    (level : record.fields.length = names.length)
    (illegible : Illegible 0 record.fields (field, index)) {fault : RowFault} :
    Unreadable layout names record fault ↔
      fault = .notText record.index record.mark field index := by
  have broken := Record.texts_eq_error.mpr illegible
  constructor
  · intro unreadable
    cases unreadable with
    | fieldCount differs => exact absurd level differs
    | notText _ other =>
        obtain ⟨rfl, rfl⟩ :=
          Prod.mk.inj (Except.error.inj (broken.symm.trans (Record.texts_eq_error.mpr other)))
        rfl
    | cell legible => cases broken.symm.trans (Record.texts_eq_ok.mpr legible.encodes)
  · rintro rfl
    exact .notText level illegible

private theorem unreadable_of_legible {texts : List String}
    (legible : Legible names record.fields texts) {fault : RowFault} :
    Unreadable layout names record fault ↔ ∃ cause,
      layout.Faults 0 (names.zip texts) cause ∧
        .cell record.index record.mark cause = fault := by
  have decoded := Record.texts_eq_ok.mpr legible.encodes
  constructor
  · intro unreadable
    cases unreadable with
    | fieldCount differs => exact absurd legible.level differs
    | notText _ other => cases decoded.symm.trans (Record.texts_eq_error.mpr other)
    | @cell others cause other faults =>
        obtain rfl := (legible_iff legible.level decoded).mp other
        exact ⟨cause, faults, rfl⟩
  · rintro ⟨cause, faults, rfl⟩
    exact .cell legible faults

/-- A row that cannot be read is refused for the first that is wrong with it. -/
theorem readRecord_eq_error (lays : schema.Lays layout datum data) (heads : layout.Heads names)
    (headed : header.texts = .ok names) {fault : RowFault} :
    schema.readRecord header record = .error fault ↔ Unreadable layout names record fault := by
  by_cases level : record.fields.length = names.length
  · cases decoded : record.texts with
    | error place =>
        rw [readRecord_of_illegible headed level decoded, Except.error.injEq,
          unreadable_of_illegible level (Record.texts_eq_error.mp decoded)]
        exact eq_comm
    | ok texts =>
        have legible := (legible_iff level decoded).mpr rfl
        simp only [readRecord_of_texts headed level decoded, unreadable_of_legible legible,
          ← lays.readCells_eq_error heads legible.length_texts]
        cases schema.readCells (some names) texts with
        | ok row => simp [Except.mapError]
        | error cause => simp [Except.mapError]
  · rw [readRecord_of_differs headed level, Except.error.injEq]
    constructor
    · rintro rfl
      exact .fieldCount level
    · intro unreadable
      cases unreadable with
      | fieldCount => rfl
      | notText same => exact absurd same level
      | cell legible => exact absurd legible.level level

/-- A row that can be read has no cell that does not convert. -/
theorem all_convert_of_say (lays : schema.Lays layout datum data) (heads : layout.Heads names)
    {texts : List String} (level : texts.length = names.length) {value : τ}
    (told : List.Forall₂ (fun column read => Cells.Say (names.zip texts) column read) layout
      (data value)) : ∀ cell ∈ names.zip texts, layout.Converts cell := by
  rcases layout.all_convert_or_faults 0 (names.zip texts) with all | ⟨fault, faults⟩
  · exact all
  · have read := (lays.readCells_eq_ok heads level).mpr told
    cases read.symm.trans ((lays.readCells_eq_error heads level).mpr faults)

/-- A row whose cells all convert can be read. -/
theorem exists_say_of_all_convert (lays : schema.Lays layout datum data)
    (heads : layout.Heads names) {texts : List String} (level : texts.length = names.length)
    (converts : ∀ cell ∈ names.zip texts, layout.Converts cell) :
    ∃ value, List.Forall₂ (fun column read => Cells.Say (names.zip texts) column read) layout
      (data value) := by
  cases read : schema.readCells (some names) texts with
  | ok value => exact ⟨value, (lays.readCells_eq_ok heads level).mp read⟩
  | error fault =>
      obtain ⟨cell, member, cause, column, wanted, same, fails⟩ :=
        ((lays.readCells_eq_error heads level).mp read).exists_fails
      obtain ⟨value, reads⟩ := converts cell member column wanted same
      cases reads.symm.trans fails

end Schema.Lays

/-- Rows that begin with a time stamp, of which `build` makes what is handed on. -/
structure Dates {τ υ : Type} (layout : Layout) (data : τ → List Datum)
    (use : Nat → τ → Except RowFault υ) (stamp : τ → Int) (build : τ → Instant → υ) : Prop where
  layout_eq : ∃ others, layout = (stampColumn, .whole) :: others
  data_eq : ∀ value, ∃ others, data value = .whole (stamp value) :: others
  use_eq : ∀ row value, use row value = build value <$> instantOf row (stamp value)

/-- A row of texts, each wanted cell of which is a number and the first a time stamp in range, with
what is made of it. -/
def Tells {τ υ : Type} (layout : Layout) (data : τ → List Datum) (stamp : τ → Int)
    (build : τ → Instant → υ) (names : List String) (fields : List (List UInt8)) (result : υ) :
    Prop :=
  ∃ texts value time, Legible names fields texts ∧
    List.Forall₂ (fun column read => Cells.Say (names.zip texts) column read) layout (data value) ∧
    Instant.ofMillis? (stamp value) = some time ∧ build value time = result

namespace Dates

variable {ρ τ υ : Type} {schema : Schema ρ τ} {layout : Layout}
  {datum : String → ρ → Option Datum} {data : τ → List Datum}
  {use : Nat → τ → Except RowFault υ} {stamp : τ → Int} {build : τ → Instant → υ}
  {header record : Record} {names : List String}

/-- A row is used if its stamp is an instant. -/
theorem use_eq_ok (dates : Dates layout data use stamp build) {row : Nat} {value : τ} {result : υ} :
    use row value = .ok result ↔
      ∃ time, Instant.ofMillis? (stamp value) = some time ∧ build value time = result := by
  rw [dates.use_eq, instantOf]
  cases Instant.ofMillis? (stamp value) with
  | none => exact iff_of_false (fun same => nomatch same) fun ⟨_, same, _⟩ => nomatch same
  | some time =>
      simp only [Option.some.injEq, exists_eq_left']
      exact ⟨Except.ok.inj, congrArg Except.ok⟩

/-- A row is refused if its stamp is none. -/
theorem use_eq_error (dates : Dates layout data use stamp build) {row : Nat} {value : τ}
    {fault : RowFault} :
    use row value = .error fault ↔
      Instant.ofMillis? (stamp value) = none ∧ fault = .outOfRange row (stamp value) := by
  rw [dates.use_eq, instantOf]
  cases Instant.ofMillis? (stamp value) with
  | none =>
      rw [and_iff_right rfl]
      exact ⟨fun same => (Except.error.inj same).symm, fun same => congrArg Except.error same.symm⟩
  | some time => exact iff_of_false (fun same => nomatch same) fun both => nomatch both.1

/-- **A row is taken** as its wanted cells say if they are numbers and the stamp is in range. -/
theorem row_eq_ok (dates : Dates layout data use stamp build)
    (lays : schema.Lays layout datum data) (heads : layout.Heads names)
    (headed : header.texts = .ok names) {result : υ} :
    (schema.readRecord header record >>= use record.index) = .ok result ↔
      Tells layout data stamp build names record.fields result := by
  simp only [Outcome.bind_eq_ok, lays.readRecord_eq_ok heads headed, dates.use_eq_ok, Tells]
  constructor
  · rintro ⟨value, ⟨texts, legible, told⟩, time, inRange, built⟩
    exact ⟨texts, value, time, legible, told, inRange, built⟩
  · rintro ⟨texts, value, time, legible, told, inRange, built⟩
    exact ⟨value, ⟨texts, legible, told⟩, time, inRange, built⟩

/-- **A row is refused** for the first that is wrong with it. -/
theorem row_eq_error (dates : Dates layout data use stamp build)
    (lays : schema.Lays layout datum data) (heads : layout.Heads names)
    (headed : header.texts = .ok names) {fault : RowFault} :
    (schema.readRecord header record >>= use record.index) = .error fault ↔
      Refuses layout names record fault := by
  obtain ⟨columns, rfl⟩ := dates.layout_eq
  simp only [Outcome.bind_eq_error, lays.readRecord_eq_error heads headed,
    lays.readRecord_eq_ok heads headed, dates.use_eq_error]
  constructor
  · rintro (unreadable | ⟨value, ⟨texts, legible, told⟩, outside, rfl⟩)
    · exact .unreadable unreadable
    · have converts := lays.all_convert_of_say heads legible.length_texts told
      obtain ⟨others, listed⟩ := dates.data_eq value
      rw [listed, List.forall₂_cons] at told
      exact .outOfRange legible converts told.1 outside
  · intro refuses
    cases refuses with
    | unreadable unreadable => exact .inl unreadable
    | @outOfRange texts ms legible converts stamped outside =>
        obtain ⟨value, told⟩ := lays.exists_say_of_all_convert heads legible.length_texts converts
        obtain ⟨others, listed⟩ := dates.data_eq value
        have same : stamp value = ms := by
          rw [listed, List.forall₂_cons] at told
          exact Datum.whole.inj
            (Schema.Lays.say_unique heads legible.length_texts List.mem_cons_self told.1 stamped)
        exact .inr ⟨value, ⟨texts, legible, told⟩, same ▸ outside, same ▸ rfl⟩

/-- A row stands for something unless it is refused. -/
theorem exists_tells_iff (dates : Dates layout data use stamp build)
    (lays : schema.Lays layout datum data) (heads : layout.Heads names)
    (headed : header.texts = .ok names) :
    (∃ result, Tells layout data stamp build names record.fields result) ↔
      ∀ fault, ¬Refuses layout names record fault := by
  simp only [← dates.row_eq_ok lays heads headed, ← dates.row_eq_error lays heads headed]
  cases schema.readRecord header record >>= use record.index with
  | ok result => exact iff_of_true ⟨result, rfl⟩ fun fault same => nomatch same
  | error fault => exact iff_of_false (fun ⟨_, same⟩ => nomatch same) fun none => none fault rfl

section Tables

variable {bytes : List UInt8} {rows : List Record}

/-- **The rows are taken in turn,** each for one result. -/
theorem readRows_eq_ok (dates : Dates layout data use stamp build)
    (lays : schema.Lays layout datum data) (headed : Headed layout bytes header names rows)
    {results : List υ} :
    schema.readRows use bytes = .ok results ↔
      List.Forall₂ (fun row result => Tells layout data stamp build names row.fields result) rows
        results := by
  rw [Schema.readRows, headed.records_eq]
  exact Outcome.mapM_eq_ok.trans
    (Related.congr fun _ _ _ => dates.row_eq_ok lays headed.heads headed.texts_eq)

/-- Rows are read if each of them stands for something. -/
theorem exists_readRows_eq_ok (dates : Dates layout data use stamp build)
    (lays : schema.Lays layout datum data) (headed : Headed layout bytes header names rows) :
    (∃ results, schema.readRows use bytes = .ok results) ↔
      ∀ row ∈ rows, ∃ result, Tells layout data stamp build names row.fields result := by
  rw [Schema.readRows, headed.records_eq]
  simp only [← dates.row_eq_ok lays headed.heads headed.texts_eq]
  exact Outcome.exists_mapM_eq_ok

/-- **The first row that is refused decides.** -/
theorem readRows_eq_error (dates : Dates layout data use stamp build)
    (lays : schema.Lays layout datum data) (headed : Headed layout bytes header names rows)
    {fault : RowFault} :
    schema.readRows use bytes = .error fault ↔ FirstRefused layout names rows fault := by
  rw [Schema.readRows, headed.records_eq]
  refine Outcome.mapM_eq_error.trans ?_
  simp only [dates.row_eq_ok lays headed.heads headed.texts_eq,
    dates.row_eq_error lays headed.heads headed.texts_eq,
    dates.exists_tells_iff lays headed.heads headed.texts_eq, FirstRefused]

/-- What comes after a row that is refused does not matter. -/
theorem readRows_of_prefix (dates : Dates layout data use stamp build)
    (lays : schema.Lays layout datum data) (headed : Headed layout bytes header names rows)
    {earlier later : List Record} {row : Record} (cut : rows = earlier ++ row :: later)
    {cause : RowFault} (refused : Refuses layout names row cause) {others : List UInt8}
    (starts : header :: (earlier ++ [row]) <+: records others) :
    schema.readRows use others = schema.readRows use bytes := by
  have here : header :: (earlier ++ [row]) <+: records bytes := by
    rw [headed.records_eq, cut]
    exact ⟨later, by simp⟩
  -- the rows up to this one are refused by themselves, for it or for one before it
  obtain ⟨fault, stops⟩ :
      ∃ fault, schema.readRecords use (header :: (earlier ++ [row])) = .error fault := by
    cases ended : schema.readRecords use (header :: (earlier ++ [row])) with
    | error fault => exact ⟨fault, rfl⟩
    | ok results =>
        obtain ⟨result, went⟩ :=
          Outcome.exists_mapM_eq_ok.mp ⟨results, ended⟩ row (by simp)
        cases went.symm.trans
          ((dates.row_eq_error lays headed.heads headed.texts_eq).mpr refused)
  exact (Schema.readRecords_of_prefix stops starts).trans
    (Schema.readRecords_of_prefix stops here).symm

end Tables

end Dates

end Renko.Csv
