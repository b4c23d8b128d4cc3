import Mathlib
import Renko.Csv
import Renko.Proofs.Outcome

/-! # Columns of numbers

A reader that wants columns of numbers finds each of them by its name, wherever it stands. The cells
of a row are read from left to right, and the first one that is wanted and is no number decides
(`Renko.Csv.Schema.Lays.readCells_eq_error`); otherwise the row holds what the wanted cells are read
as (`Renko.Csv.Schema.Lays.readCells_eq_ok`).
-/

namespace Renko.Csv

/-- What a column of numbers holds. -/
inductive Kind
  | whole
  | binary64

/-- A number that is read from a column. -/
inductive Datum
  | whole (value : Int)
  | binary64 (value : Float)

def Kind.read : Kind → String → Except NumberFault Datum
  | whole, text => Datum.whole <$> Whole.read text
  | binary64, text => Datum.binary64 <$> Binary64.read text

/-- The columns that are wanted, each with what it holds. -/
abbrev Layout := List (String × Kind)

/-- The cells of a row under their names. -/
abbrev Cells := List (String × String)

namespace Layout

variable (layout : Layout)

/-- A cell that is not wanted, or is a number of the kind that is. -/
def Converts (cell : String × String) : Prop :=
  ∀ column ∈ layout, column.1 = cell.1 → ∃ value, column.2.read cell.2 = .ok value

/-- A cell that is wanted and is no number of the kind that is. -/
def Fails (cell : String × String) (cause : NumberFault) : Prop :=
  ∃ column ∈ layout, column.1 = cell.1 ∧ column.2.read cell.2 = .error cause

/-- The first cell that does not convert is at fault, with the number of its field. The first
argument counts the fields before. -/
inductive Faults : Nat → Cells → CellFault → Prop
  | here {field : Nat} {cell : String × String} {cells : Cells} {cause : NumberFault}
      (fails : layout.Fails cell cause) : Faults field (cell :: cells) (.number field cause)
  | later {field : Nat} {cell : String × String} {cells : Cells} {fault : CellFault}
      (converts : layout.Converts cell) (faults : Faults (field + 1) cells fault) :
      Faults field (cell :: cells) fault

/-- Each wanted column stands in a header once. -/
def Heads (names : List String) : Prop := ∀ column ∈ layout, names.count column.1 = 1

instance (names : List String) : Decidable (layout.Heads names) :=
  inferInstanceAs (Decidable (∀ column ∈ layout, names.count column.1 = 1))

private theorem converts_or_fails (cell : String × String) :
    layout.Converts cell ∨ ∃ cause, layout.Fails cell cause := by
  by_cases converts : layout.Converts cell
  · exact .inl converts
  · obtain ⟨column, member, same, notRead⟩ :
        ∃ column ∈ layout, column.1 = cell.1 ∧ ¬∃ value, column.2.read cell.2 = .ok value := by
      simpa only [Converts, not_forall, exists_prop] using converts
    cases read : column.2.read cell.2 with
    | ok value => exact absurd ⟨value, read⟩ notRead
    | error cause => exact .inr ⟨cause, column, member, same, read⟩

/-- Either all cells convert or one of them is at fault. -/
theorem all_convert_or_faults (field : Nat) (cells : Cells) :
    (∀ cell ∈ cells, layout.Converts cell) ∨ ∃ fault, layout.Faults field cells fault := by
  induction cells generalizing field with
  | nil => exact .inl fun cell none => absurd none List.not_mem_nil
  | cons cell cells inductionHypothesis =>
      rcases layout.converts_or_fails cell with converts | ⟨cause, fails⟩
      · rcases inductionHypothesis (field + 1) with all | ⟨fault, faults⟩
        · exact .inl (List.forall_mem_cons.mpr ⟨converts, all⟩)
        · exact .inr ⟨fault, .later converts faults⟩
      · exact .inr ⟨_, .here fails⟩

variable {layout}

private theorem faults_cons {field : Nat} {cell : String × String} {cells : Cells}
    {fault : CellFault} :
    layout.Faults field (cell :: cells) fault ↔
      (∃ cause, layout.Fails cell cause ∧ fault = .number field cause) ∨
        layout.Converts cell ∧ layout.Faults (field + 1) cells fault := by
  constructor
  · intro faults
    cases faults with
    | here fails => exact .inl ⟨_, fails, rfl⟩
    | later converts faults => exact .inr ⟨converts, faults⟩
  · rintro (⟨cause, fails, rfl⟩ | ⟨converts, faults⟩)
    · exact .here fails
    · exact .later converts faults

private theorem converts_of_unwanted {name text : String} (unwanted : name ∉ layout.map Prod.fst) :
    layout.Converts (name, text) :=
  fun column member same => absurd (List.mem_map.mpr ⟨column, member, same⟩) unwanted

private theorem not_fails_of_unwanted {name text : String} {cause : NumberFault}
    (unwanted : name ∉ layout.map Prod.fst) : ¬layout.Fails (name, text) cause :=
  fun ⟨column, member, same, _⟩ => unwanted (List.mem_map.mpr ⟨column, member, same⟩)

/-- A fault is that of a cell that fails to convert. -/
theorem Faults.exists_fails {field : Nat} {cells : Cells} {fault : CellFault}
    (faults : layout.Faults field cells fault) :
    ∃ cell ∈ cells, ∃ cause, layout.Fails cell cause := by
  induction faults with
  | here fails => exact ⟨_, List.mem_cons_self, _, fails⟩
  | later converts faults inductionHypothesis =>
      obtain ⟨cell, member, cause, fails⟩ := inductionHypothesis
      exact ⟨cell, List.mem_cons_of_mem _ member, cause, fails⟩

end Layout

/-- What the cells of a row say of a column. -/
def Cells.Say (cells : Cells) (column : String × Kind) (value : Datum) : Prop :=
  ∃ text, (column.1, text) ∈ cells ∧ column.2.read text = .ok value

namespace Cells

variable {cells : Cells} {column : String × Kind} {name text : String} {value : Datum}

private theorem say_cons_of_ne (differs : column.1 ≠ name) :
    Say ((name, text) :: cells) column value ↔ cells.Say column value := by
  refine exists_congr fun other => and_congr_left fun _ => ?_
  rw [List.mem_cons, Prod.mk.injEq, or_iff_right fun both => differs both.1]

/-- What stands under a name that does not come again is all that is said of it. -/
theorem say_cons_self (once : column.1 ∉ cells.map Prod.fst) :
    Say ((column.1, text) :: cells) column value ↔ column.2.read text = .ok value := by
  constructor
  · rintro ⟨other, here, reads⟩
    rcases List.mem_cons.mp here with same | again
    · rwa [← (Prod.mk.inj same).2]
    · exact absurd (List.mem_map_of_mem again) once
  · exact fun reads => ⟨text, List.mem_cons_self, reads⟩

/-- A name that stands there once has one text. -/
theorem text_unique {other : String} (once : (cells.map Prod.fst).count name = 1)
    (first : (name, text) ∈ cells) (second : (name, other) ∈ cells) : text = other := by
  induction cells with
  | nil => exact absurd first List.not_mem_nil
  | cons cell cells inductionHypothesis =>
      rw [List.map_cons, List.count_cons] at once
      by_cases here : cell.1 = name
      · rw [if_pos (beq_iff_eq.mpr here)] at once
        have gone : name ∉ cells.map Prod.fst := List.count_eq_zero.mp (by omega)
        have only {held : String} (member : (name, held) ∈ cell :: cells) : (name, held) = cell :=
          (List.mem_cons.mp member).resolve_right fun again => gone (List.mem_map_of_mem again)
        exact (Prod.mk.inj ((only first).trans (only second).symm)).2
      · rw [if_neg fun same => here (beq_iff_eq.mp same), Nat.add_zero] at once
        have further {held : String} (member : (name, held) ∈ cell :: cells) :
            (name, held) ∈ cells :=
          (List.mem_cons.mp member).resolve_left fun same => here (same ▸ rfl)
        exact inductionHypothesis once (further first) (further second)

/-- Of a name that does not stand there nothing is said. -/
theorem not_say_of_notMem (absent : column.1 ∉ cells.map Prod.fst) : ¬cells.Say column value :=
  fun ⟨_, here, _⟩ => absent (List.mem_map_of_mem here)

end Cells

namespace Schema

variable {ρ τ : Type}

/-- How a column that is wanted deals with a row, of which `datum` tells what it holds under a
name. -/
structure Puts (datum : String → ρ → Option Datum) (column : String × Kind) (slot : Column ρ) :
    Prop where
  isFilled : ∀ row, slot.isFilled row = (datum column.1 row).isSome
  refuses : ∀ {text row cause}, column.2.read text = .error cause →
    slot.fill text row = .error cause
  fills : ∀ row {text value}, column.2.read text = .ok value → ∃ later,
    slot.fill text row = .ok later ∧ datum column.1 later = some value ∧
      ∀ other, other ≠ column.1 → datum other later = datum other row

/-- A column that reads a number into a place of its own. -/
theorem puts_of_place {datum : String → ρ → Option Datum} {column : String × Kind} {slot : Column ρ}
    {ν : Type} {read : String → Except NumberFault ν} {wrap : ν → Datum} (place : ρ → Option ν)
    {set : ν → ρ → ρ} (reads : ∀ text, column.2.read text = wrap <$> read text)
    (isFilled : ∀ row, slot.isFilled row = (place row).isSome)
    (fill : ∀ text row, slot.fill text row = (set · row) <$> read text)
    (holds : ∀ row, datum column.1 row = (place row).map wrap)
    (kept : ∀ value row, place (set value row) = some value)
    (others : ∀ value row other, other ≠ column.1 → datum other (set value row) = datum other row) :
    Puts datum column slot where
  isFilled row := by rw [isFilled, holds, Option.isSome_map]
  refuses {text row cause} refused := by
    rw [reads, Outcome.map_eq_error] at refused
    rw [fill, refused]
    rfl
  fills row text value taken := by
    rw [reads, Outcome.map_eq_ok] at taken
    obtain ⟨number, given, rfl⟩ := taken
    refine ⟨set number row, ?_, ?_, others number row⟩
    · rw [fill, given]
      rfl
    · rw [holds, kept, Option.map_some]

/-- A schema reads the columns of a layout: a row holds what `datum` tells, and a finished one the
list that `data` tells. -/
structure Lays (schema : Schema ρ τ) (layout : Layout) (datum : String → ρ → Option Datum)
    (data : τ → List Datum) : Prop where
  distinct : (layout.map Prod.fst).Nodup
  names_eq : schema.columns.map (·.name) = layout.map Prod.fst
  wanted : ∀ column ∈ layout, ∃ slot,
    schema.columns.find? (·.name == column.1) = some slot ∧ Puts datum column slot
  blank : ∀ name, datum name schema.blank = none
  finishes : ∀ row, (∀ column ∈ layout, (datum column.1 row).isSome) →
    ∃ value, schema.finish row = .ok value
  finish_eq_ok : ∀ row value, schema.finish row = .ok value ↔
    List.Forall₂ (fun column read => datum column.1 row = some read) layout (data value)

/-- A row is read once it is filled and finished. -/
theorem readCells_eq_ok_iff {schema : Schema ρ τ} {names texts : List String} {value : τ} :
    schema.readCells (some names) texts = .ok value ↔ ∃ row,
      schema.fillNamed 0 (names.zip texts) schema.blank = .ok row ∧
        schema.finish row = .ok value := by
  rw [readCells, Outcome.bind_eq_ok]
  refine exists_congr fun row => and_congr_right fun _ => ?_
  cases finished : schema.finish row with
  | ok other => simp only [finished, Except.ok.injEq]
  | error column => simp only [finished, reduceCtorEq]

namespace Lays

variable {schema : Schema ρ τ} {layout : Layout} {datum : String → ρ → Option Datum}
  {data : τ → List Datum}

/-- No wanted column is still to come that a row already has, and none will come twice. -/
def Fresh (layout : Layout) (datum : String → ρ → Option Datum) (cells : Cells) (row : ρ) : Prop :=
  ∀ column ∈ layout,
    (cells.map Prod.fst).count column.1 + (datum column.1 row).toList.length ≤ 1

/-- What is fresh for all cells is fresh for those after the first. -/
theorem Fresh.tail {cell : String × String} {cells : Cells} {row : ρ}
    (fresh : Fresh layout datum (cell :: cells) row) : Fresh layout datum cells row := by
  intro column member
  have once := fresh column member
  rw [List.map_cons, List.count_cons] at once
  omega

/-- What a row has is not to come. -/
theorem Fresh.notMem {cells : Cells} {row : ρ} {column : String × Kind} {value : Datum}
    (fresh : Fresh layout datum cells row) (member : column ∈ layout)
    (held : datum column.1 row = some value) : column.1 ∉ cells.map Prod.fst := by
  have once := fresh column member
  rw [held, Option.toList_some, List.length_singleton] at once
  exact List.count_eq_zero.mp (by omega)

/-- What comes next is not there yet, and will not come again. -/
theorem Fresh.head {cells : Cells} {row : ρ} {column : String × Kind} {text : String}
    (fresh : Fresh layout datum ((column.1, text) :: cells) row) (member : column ∈ layout) :
    datum column.1 row = none ∧ column.1 ∉ cells.map Prod.fst := by
  have once := fresh column member
  rw [List.map_cons, List.count_cons_self] at once
  refine ⟨?_, List.count_eq_zero.mp (by omega)⟩
  cases held : datum column.1 row with
  | none => rfl
  | some value =>
      rw [held, Option.toList_some, List.length_singleton] at once
      omega

section Steps

variable {cells : Cells} {row : ρ} {column : String × Kind} {text : String}

private theorem fillNamed_of_unwanted (lays : schema.Lays layout datum data) {name : String}
    (unwanted : name ∉ layout.map Prod.fst) (field : Nat) :
    schema.fillNamed field ((name, text) :: cells) row =
      schema.fillNamed (field + 1) cells row := by
  have passed : schema.columns.find? (·.name == name) = none := by
    refine List.find?_eq_none.mpr fun slot member same => unwanted ?_
    rw [← lays.names_eq, ← eq_of_beq same]
    exact List.mem_map_of_mem member
  rw [fillNamed, passed]

private theorem fillNamed_of_error (lays : schema.Lays layout datum data) (member : column ∈ layout)
    (fresh : Fresh layout datum ((column.1, text) :: cells) row) {cause : NumberFault}
    (fails : column.2.read text = .error cause) (field : Nat) :
    schema.fillNamed field ((column.1, text) :: cells) row = .error (.number field cause) := by
  obtain ⟨slot, found, puts⟩ := lays.wanted column member
  have empty : slot.isFilled row = false := by
    rw [puts.isFilled, (fresh.head member).1, Option.isSome_none]
  rw [fillNamed, found]
  simp only [empty, Bool.false_eq_true, if_false, put, puts.refuses fails]

private theorem fillNamed_of_ok (lays : schema.Lays layout datum data) (member : column ∈ layout)
    (fresh : Fresh layout datum ((column.1, text) :: cells) row) {value : Datum}
    (reads : column.2.read text = .ok value) (field : Nat) :
    ∃ later, schema.fillNamed field ((column.1, text) :: cells) row =
        schema.fillNamed (field + 1) cells later ∧
      datum column.1 later = some value ∧
      (∀ other, other ≠ column.1 → datum other later = datum other row) ∧
      Fresh layout datum cells later := by
  obtain ⟨slot, found, puts⟩ := lays.wanted column member
  obtain ⟨later, filled, holds, others⟩ := puts.fills row reads
  obtain ⟨absent, notAgain⟩ := fresh.head member
  have empty : slot.isFilled row = false := by rw [puts.isFilled, absent, Option.isSome_none]
  refine ⟨later, ?_, holds, others, ?_⟩
  · rw [fillNamed, found]
    simp only [empty, Bool.false_eq_true, if_false, put, filled]
  · intro other wanted
    by_cases same : other.1 = column.1
    · rw [same, holds, List.count_eq_zero.mpr notAgain]
      rfl
    · rw [others other.1 same]
      exact fresh.tail other wanted

end Steps

/-- The column of a name, if it is wanted. -/
theorem eq_of_fst (lays : schema.Lays layout datum data) {first second : String × Kind}
    (firstMember : first ∈ layout) (secondMember : second ∈ layout) (same : first.1 = second.1) :
    first = second :=
  List.inj_on_of_nodup_map lays.distinct firstMember secondMember same

/-- A cell fails if its text cannot be read as its column asks. -/
theorem fails_iff (lays : schema.Lays layout datum data) {column : String × Kind}
    (member : column ∈ layout) {text : String} {cause : NumberFault} :
    layout.Fails (column.1, text) cause ↔ column.2.read text = .error cause := by
  constructor
  · rintro ⟨other, wanted, same, fails⟩
    obtain rfl := lays.eq_of_fst wanted member same
    exact fails
  · exact fun fails => ⟨column, member, rfl, fails⟩

/-- A cell converts if its text can be read as its column asks. -/
theorem converts_iff (lays : schema.Lays layout datum data) {column : String × Kind}
    (member : column ∈ layout) {text : String} :
    layout.Converts (column.1, text) ↔ ∃ value, column.2.read text = .ok value := by
  constructor
  · exact fun converts => converts column member rfl
  · rintro reads other wanted same
    obtain rfl := lays.eq_of_fst wanted member same
    exact reads

/-- **The first cell that does not convert decides.** -/
theorem fillNamed_eq_error (lays : schema.Lays layout datum data) {cells : Cells} {row : ρ}
    (fresh : Fresh layout datum cells row) {field : Nat} {fault : CellFault} :
    schema.fillNamed field cells row = .error fault ↔ layout.Faults field cells fault := by
  induction cells generalizing row field with
  | nil => exact iff_of_false (fun same => nomatch same) fun faults => nomatch faults
  | cons cell cells inductionHypothesis =>
      obtain ⟨name, text⟩ := cell
      rw [Layout.faults_cons]
      by_cases wanted : name ∈ layout.map Prod.fst
      · obtain ⟨column, member, rfl⟩ := List.mem_map.mp wanted
        simp only [lays.fails_iff member, lays.converts_iff member]
        cases read : column.2.read text with
        | error cause =>
            rw [lays.fillNamed_of_error member fresh read]
            simp [eq_comm]
        | ok value =>
            obtain ⟨later, goesOn, -, -, freshLater⟩ :=
              lays.fillNamed_of_ok member fresh read field
            rw [goesOn, inductionHypothesis freshLater]
            simp
      · rw [lays.fillNamed_of_unwanted wanted, inductionHypothesis fresh.tail]
        simp only [Layout.not_fails_of_unwanted wanted, Layout.converts_of_unwanted wanted,
          false_and, exists_false, false_or, true_and]

/-- **A row holds what its cells say,** with what it held before. -/
theorem datum_of_fillNamed (lays : schema.Lays layout datum data) {cells : Cells} {row later : ρ}
    (fresh : Fresh layout datum cells row) {field : Nat}
    (filled : schema.fillNamed field cells row = .ok later) {column : String × Kind}
    (member : column ∈ layout) {value : Datum} :
    datum column.1 later = some value ↔
      datum column.1 row = some value ∨ cells.Say column value := by
  induction cells generalizing row field with
  | nil =>
      obtain rfl := Except.ok.inj filled
      exact (or_iff_left fun ⟨_, inside, _⟩ => absurd inside List.not_mem_nil).symm
  | cons cell cells inductionHypothesis =>
      obtain ⟨name, text⟩ := cell
      by_cases wanted : name ∈ layout.map Prod.fst
      · obtain ⟨first, firstMember, rfl⟩ := List.mem_map.mp wanted
        cases read : first.2.read text with
        | error cause =>
            rw [lays.fillNamed_of_error firstMember fresh read] at filled
            cases filled
        | ok taken =>
            obtain ⟨middle, goesOn, holds, others, freshMiddle⟩ :=
              lays.fillNamed_of_ok firstMember fresh read field
            rw [inductionHypothesis freshMiddle (goesOn ▸ filled)]
            by_cases same : column = first
            · obtain rfl := same
              obtain ⟨absent, notAgain⟩ := fresh.head member
              rw [holds, absent, Cells.say_cons_self notAgain, read, Option.some.injEq,
                Except.ok.injEq, or_iff_left (Cells.not_say_of_notMem notAgain)]
              exact (or_iff_right fun none => nomatch none).symm
            · have differs : column.1 ≠ first.1 :=
                fun equal => same (lays.eq_of_fst member firstMember equal)
              rw [others column.1 differs, Cells.say_cons_of_ne differs]
      · have differs : column.1 ≠ name := fun equal => wanted (equal ▸ List.mem_map_of_mem member)
        rw [inductionHypothesis fresh.tail (lays.fillNamed_of_unwanted wanted field ▸ filled),
          Cells.say_cons_of_ne differs]

section Rows

variable {names texts : List String}

private theorem map_fst_cells (level : texts.length = names.length) :
    (names.zip texts).map Prod.fst = names :=
  List.map_fst_zip level.ge

private theorem count_cells (heads : layout.Heads names) (level : texts.length = names.length)
    {column : String × Kind} (member : column ∈ layout) :
    ((names.zip texts).map Prod.fst).count column.1 = 1 := by
  rw [map_fst_cells level, heads column member]

/-- The cells say one thing of a wanted column. -/
theorem say_unique (heads : layout.Heads names) (level : texts.length = names.length)
    {column : String × Kind} (member : column ∈ layout) {value other : Datum}
    (first : Cells.Say (names.zip texts) column value)
    (second : Cells.Say (names.zip texts) column other) : value = other := by
  obtain ⟨text, here, reads⟩ := first
  obtain ⟨again, there, readsAgain⟩ := second
  obtain rfl := Cells.text_unique (count_cells heads level member) here there
  exact Except.ok.inj (reads.symm.trans readsAgain)

private theorem fresh_blank (lays : schema.Lays layout datum data) (heads : layout.Heads names)
    (level : texts.length = names.length) : Fresh layout datum (names.zip texts) schema.blank := by
  intro column member
  rw [lays.blank, map_fst_cells level, heads column member]
  rfl

/-- A row that is filled from a header with all wanted columns has them all, as its cells say. -/
theorem filled_of_heads (lays : schema.Lays layout datum data) (heads : layout.Heads names)
    (level : texts.length = names.length) {row : ρ}
    (filled : schema.fillNamed 0 (names.zip texts) schema.blank = .ok row)
    {column : String × Kind} (member : column ∈ layout) :
    (datum column.1 row).isSome ∧ ∀ value,
      datum column.1 row = some value ↔ Cells.Say (names.zip texts) column value := by
  have fresh := lays.fresh_blank heads level
  have told (value : Datum) :
      datum column.1 row = some value ↔ Cells.Say (names.zip texts) column value := by
    rw [lays.datum_of_fillNamed fresh filled member, lays.blank]
    exact or_iff_right fun none => nomatch none
  refine ⟨?_, told⟩
  have stands : column.1 ∈ (names.zip texts).map Prod.fst := by
    rw [map_fst_cells level]
    exact List.count_pos_iff.mp (heads column member ▸ Nat.one_pos)
  obtain ⟨⟨name, text⟩, here, rfl⟩ := List.mem_map.mp stands
  rcases layout.all_convert_or_faults 0 (names.zip texts) with all | ⟨fault, faults⟩
  · obtain ⟨value, reads⟩ := all _ here column member rfl
    exact Option.isSome_of_eq_some ((told value).mpr ⟨text, here, reads⟩)
  · cases filled.symm.trans ((lays.fillNamed_eq_error fresh).mpr faults)

/-- A row with a cell for every name is at fault if and only if one of its cells is. -/
theorem readCells_eq_error (lays : schema.Lays layout datum data) (heads : layout.Heads names)
    (level : texts.length = names.length) {fault : CellFault} :
    schema.readCells (some names) texts = .error fault ↔
      layout.Faults 0 (names.zip texts) fault := by
  rw [← lays.fillNamed_eq_error (lays.fresh_blank heads level), readCells, Outcome.bind_eq_error]
  refine or_iff_left ?_
  rintro ⟨row, filled, failed⟩
  obtain ⟨value, finished⟩ := lays.finishes row fun column member =>
    (lays.filled_of_heads heads level filled member).1
  simp only [finished] at failed
  cases failed

/-- Such a row is read as what its cells say. -/
theorem readCells_eq_ok (lays : schema.Lays layout datum data) (heads : layout.Heads names)
    (level : texts.length = names.length) {value : τ} :
    schema.readCells (some names) texts = .ok value ↔
      List.Forall₂ (fun column read => Cells.Say (names.zip texts) column read) layout
        (data value) := by
  have finishes {row : ρ}
      (filled : schema.fillNamed 0 (names.zip texts) schema.blank = .ok row) :
      schema.finish row = .ok value ↔
        List.Forall₂ (fun column read => Cells.Say (names.zip texts) column read) layout
          (data value) :=
    (lays.finish_eq_ok row value).trans
      (Related.congr fun column member read =>
        (lays.filled_of_heads heads level filled member).2 read)
  rw [readCells_eq_ok_iff]
  constructor
  · rintro ⟨row, filled, finished⟩
    exact (finishes filled).mp finished
  · intro told
    cases filled : schema.fillNamed 0 (names.zip texts) schema.blank with
    | ok row => exact ⟨row, rfl, (finishes filled).mpr told⟩
    | error fault =>
        -- the cell at fault is the one that is said to be a number
        have faults := (lays.fillNamed_eq_error (lays.fresh_blank heads level)).mp filled
        obtain ⟨⟨name, text⟩, here, cause, column, member, rfl, fails⟩ := faults.exists_fails
        obtain ⟨value, other, stands, reads⟩ := Related.exists_iff.mp ⟨_, told⟩ column member
        rw [Cells.text_unique (count_cells heads level member) here stands, reads] at fails
        cases fails

end Rows

end Lays

end Schema

end Renko.Csv
