import Mathlib
import Renko.Proofs.Book

/-! # What a log says of the positions

The log of a book says what its positions are, without the book. Each opening in it is one position,
priced by the bricks noted until it is closed (`Renko.Ledger.entries`), and what a book holds is
what its log says (`Renko.Book.recorded_after_requests`). However the requests are mixed, the marks
that notes, openings and closings leave behind come to this one reading.
-/

namespace Renko

variable {α : Type}

namespace Request

def brick? : Request α → Option (Brick α)
  | note brick => some brick
  | _ => none

def isLeave : Request α → Bool
  | leave => true
  | _ => false

end Request

namespace Ledger

/-- The newest brick that a log notes. -/
def newest (log : List (Request α)) : Option (Brick α) := (log.filterMap Request.brick?).getLast?

/-- Every position that a log opens it also closes. -/
def Settled (log : List (Request α)) : Prop :=
  ∀ before side later, log = before ++ .enter side :: later → later.any Request.isLeave = true

/-- A position opened at one brick and priced, or closed, at another. -/
def traded [Scalar α] (slippage : α) (opener : Brick α) (side : Side) (marker : Brick α)
    (closed : Bool) : Position α :=
  let openPrice := side.fill opener.closePrice slippage
  let price := side.opposite.fill marker.closePrice slippage
  { date := opener.time
    side
    openPrice
    closePrice := if closed then some price else none
    currentPrice := price
    profit := match side with
      | .buy => price - openPrice
      | .sell => openPrice - price }

/-- The position of an opening, by what the log says before and after it. -/
def entry [Scalar α] (slippage : α) (before : List (Request α)) (side : Side)
    (later : List (Request α)) : Option (Position α) := do
  let held := later.takeWhile (!·.isLeave)
  let opener ← newest before
  let marker ← newest (before ++ held)
  return traded slippage opener side marker (later.any Request.isLeave)

/-- The positions of a log that goes on after an earlier one, in the order they were opened. -/
def entries [Scalar α] (slippage : α) :
    List (Request α) → List (Request α) → List (Option (Position α))
  | _, [] => []
  | before, .enter side :: later =>
    entry slippage before side later :: entries slippage (before ++ [.enter side]) later
  | before, request :: later => entries slippage (before ++ [request]) later

private theorem newest_concat_note (log : List (Request α)) (brick : Brick α) :
    newest (log ++ [.note brick]) = some brick := by
  rw [newest, List.filterMap_append]
  exact List.getLast?_concat

private theorem newest_concat_of_none {request : Request α} (none : request.brick? = none)
    (log : List (Request α)) : newest (log ++ [request]) = newest log := by
  rw [newest, List.filterMap_append, List.filterMap_cons_none none, List.filterMap_nil,
    List.append_nil]
  rfl

/-- An opening does not change which brick is the newest. -/
theorem newest_append_enter (before notes : List (Request α)) (side : Side) :
    newest (before ++ .enter side :: notes) = newest (before ++ notes) := by
  rw [newest, newest, List.filterMap_append, List.filterMap_append]
  rfl

/-- An opening in a longer log is in the log before, unless it is what the log grew by. -/
theorem exists_of_concat {log before later : List (Request α)} {request : Request α} {side : Side}
    (split : log ++ [request] = before ++ .enter side :: later) (other : request ≠ .enter side) :
    ∃ rest, later = rest ++ [request] ∧ log = before ++ .enter side :: rest := by
  rcases List.eq_nil_or_concat' later with rfl | ⟨rest, last, rfl⟩
  · obtain ⟨-, same⟩ := List.append_inj' split rfl
    exact absurd (List.singleton_inj.mp same) other
  · rw [← List.cons_append, ← List.append_assoc] at split
    obtain ⟨rfl, same⟩ := List.append_inj' split rfl
    obtain rfl := List.singleton_inj.mp same
    exact ⟨rest, rfl, rfl⟩

private theorem Settled.concat_note {log : List (Request α)} (settled : Settled log)
    (brick : Brick α) :
    Settled (log ++ [.note brick]) := by
  intro before side later split
  obtain ⟨rest, rfl, same⟩ := exists_of_concat split (fun same => nomatch same)
  rw [List.any_append, settled before side rest same, Bool.true_or]

/-- A close settles a log. -/
theorem settled_concat_leave (log : List (Request α)) : Settled (log ++ [.leave]) := by
  intro before side later split
  obtain ⟨rest, rfl, -⟩ := exists_of_concat split (fun same => nomatch same)
  rw [List.any_append]
  exact Bool.or_true _

/-- What follows the first request of a settled log is settled. -/
theorem Settled.tail {request : Request α} {log : List (Request α)}
    (settled : Settled (request :: log)) : Settled log := by
  intro before side later split
  apply settled (request :: before) side later
  rw [split, List.cons_append]

private theorem ne_enter_of_notes {notes : List (Request α)}
    (onlyNotes : ∀ request ∈ notes, ∃ brick, request = .note brick) :
    ∀ request ∈ notes, ∀ side, request ≠ .enter side := by
  intro request member side same
  obtain ⟨brick, rfl⟩ := onlyNotes request member
  cases same

variable [Scalar α]

/-- What follows a close does not change the position. -/
theorem entry_append (slippage : α) (before : List (Request α)) (side : Side)
    {later : List (Request α)} (left : later.any Request.isLeave = true) (more : List (Request α)) :
    entry slippage before side (later ++ more) = entry slippage before side later := by
  have held : (later ++ more).takeWhile (!·.isLeave) = later.takeWhile (!·.isLeave) := by
    obtain ⟨close, among, leaves⟩ := List.any_eq_true.mp left
    rw [List.takeWhile_append, if_neg]
    intro whole
    have all := List.takeWhile_eq_self_iff.mp
      ((List.takeWhile_prefix (fun request : Request α => !request.isLeave)).eq_of_length whole)
    have stays := all close among
    rw [leaves] at stays
    cases stays
  rw [entry, entry, held, List.any_append, left, Bool.true_or]

/-- What follows a settled log adds its own positions and changes none. -/
theorem entries_append (slippage : α) (before : List (Request α)) {log : List (Request α)}
    (settled : Settled log) (more : List (Request α)) :
    entries slippage before (log ++ more) =
      entries slippage before log ++ entries slippage (before ++ log) more := by
  induction log generalizing before with
  | nil => rw [List.nil_append, entries, List.nil_append, List.append_nil]
  | cons request log inductionHypothesis =>
      have rest := inductionHypothesis (before ++ [request]) settled.tail
      rw [List.append_assoc] at rest
      cases request with
      | note brick => exact rest
      | leave => exact rest
      | enter side =>
          rw [List.cons_append, entries, entries, rest,
            entry_append slippage before side (settled [] side log rfl)]
          rfl

private theorem entries_of_no_enter (slippage : α) (before : List (Request α))
    {log : List (Request α)}
    (none : ∀ request ∈ log, ∀ side, request ≠ .enter side) : entries slippage before log = [] := by
  induction log generalizing before with
  | nil => rfl
  | cons request log inductionHypothesis =>
      obtain ⟨other, later⟩ := List.forall_mem_cons.mp none
      cases request with
      | note brick => exact inductionHypothesis _ later
      | leave => exact inductionHypothesis _ later
      | enter side => exact absurd rfl (other side)

/-- While only bricks are noted the newest of them prices the position. -/
theorem entry_of_notes (slippage : α) {before notes rest : List (Request α)} (side : Side)
    (onlyNotes : ∀ request ∈ notes, ∃ brick, request = .note brick)
    (stops : rest.takeWhile (!·.isLeave) = []) {opener marker : Brick α}
    (opened : newest before = some opener) (marked : newest (before ++ notes) = some marker) :
    entry slippage before side (notes ++ rest) =
      some (traded slippage opener side marker (rest.any Request.isLeave)) := by
  have stays : ∀ request ∈ notes, (!request.isLeave) = true := by
    intro request member
    obtain ⟨brick, rfl⟩ := onlyNotes request member
    rfl
  have noLeave : notes.any Request.isLeave = false := by
    rw [List.any_eq_false]
    intro request member leaves
    have other := stays request member
    rw [leaves] at other
    cases other
  rw [entry, List.takeWhile_append_of_pos stays, stops, List.append_nil, opened, marked,
    List.any_append, noLeave, Bool.false_or]
  rfl

end Ledger

namespace Book

open Ledger

variable [Scalar α]

/-- A book that holds no position, by its log. -/
structure Idle (slippage : α) (book : Book α) (log : List (Request α)) : Prop where
  idle : book.current = none
  settled : Settled log
  closed : book.closed.toList.map some = entries slippage [] log

/-- A book that holds a position, by its log: what came before the opening, and the bricks noted
since then. -/
structure Holding (slippage : α) (book : Book α) (before : List (Request α)) (side : Side)
    (notes : List (Request α)) : Prop where
  settled : Settled before
  onlyNotes : ∀ request ∈ notes, ∃ brick, request = .note brick
  closed : book.closed.toList.map some = entries slippage [] before
  current : ∃ opener marker, newest before = some opener ∧
    newest (before ++ notes) = some marker ∧
    book.current = some (traded slippage opener side marker false)

variable {slippage : α} {book next : Book α} {log before notes : List (Request α)}
  {request : Request α} {side : Side}

/-- The bricks of a book are those its log notes. -/
theorem Kept.newest_eq (kept : Kept slippage book log) : book.bricks.back? = newest log := by
  induction kept with
  | empty => rfl
  | step earlier step inductionHypothesis =>
      cases step with
      | noted => rw [newest_concat_note, addBrick_bricks, Array.back?_push]
      | entered idle latest =>
          rw [newest_concat_of_none rfl]
          exact inductionHypothesis
      | left held latest =>
          rw [newest_concat_of_none rfl]
          exact inductionHypothesis

/-- A book that is idle stays so when it notes a brick. -/
theorem Idle.note (idle : Idle slippage book log) (brick : Brick α) :
    Idle slippage (book.addBrick brick) (log ++ [.note brick]) := by
  refine ⟨?_, idle.settled.concat_note brick, ?_⟩
  · rw [addBrick_current, idle.idle, Option.map_none]
  · rw [entries_append slippage [] idle.settled, ← idle.closed]
    exact (List.append_nil _).symm

/-- A book that is idle holds a position once it is asked for one. -/
theorem Idle.enter (idle : Idle slippage book log) (charged : book.slippage = slippage)
    {brick : Brick α} (noted : newest log = some brick) (side : Side) :
    Holding slippage { book with current := some (.openedOn book.slippage brick side) } log side
      [] := by
  refine ⟨idle.settled, fun request absent => (nomatch absent), idle.closed, brick, brick, noted,
    ?_, ?_⟩
  · rw [List.append_nil]
    exact noted
  · rw [charged]
    rfl

/-- A book that holds a position goes on holding it when it notes a brick. -/
theorem Holding.note (holding : Holding slippage book before side notes)
    (charged : book.slippage = slippage) (brick : Brick α) :
    Holding slippage (book.addBrick brick) before side (notes ++ [.note brick]) := by
  obtain ⟨opener, marker, opened, marked, current⟩ := holding.current
  refine ⟨holding.settled, ?_, holding.closed, opener, brick, opened, ?_, ?_⟩
  · exact List.forall_mem_append.mpr
      ⟨holding.onlyNotes, List.forall_mem_singleton.mpr ⟨brick, rfl⟩⟩
  · rw [← List.append_assoc]
    exact newest_concat_note _ brick
  · rw [addBrick_current, current, charged]
    rfl

/-- A book that holds a position is idle once the position is closed. -/
theorem Holding.leave (holding : Holding slippage book before side notes)
    (charged : book.slippage = slippage) {position : Position α}
    (held : book.current = some position) {brick : Brick α}
    (noted : newest (before ++ .enter side :: notes) = some brick) :
    Idle slippage
      { book with
        closed := book.closed.push (position.markedOn book.slippage brick true)
        current := none }
      (before ++ .enter side :: notes ++ [.leave]) := by
  obtain ⟨opener, marker, opened, marked, current⟩ := holding.current
  obtain rfl := Option.some.inj (current.symm.trans held)
  rw [newest_append_enter] at noted
  refine ⟨rfl, settled_concat_leave _, ?_⟩
  have rest : ∀ request ∈ notes ++ [.leave], ∀ side, request ≠ .enter side :=
    List.forall_mem_append.mpr ⟨ne_enter_of_notes holding.onlyNotes,
      List.forall_mem_singleton.mpr fun _ same => nomatch same⟩
  rw [List.append_assoc, List.cons_append, entries_append slippage [] holding.settled, entries,
    entries_of_no_enter slippage _ rest, List.nil_append,
    entry_of_notes slippage side holding.onlyNotes rfl opened noted, Array.toList_push,
    List.map_append, holding.closed, charged]
  rfl

/-- **A book holds what its log says.** Either every position of the log is closed, or the last one
is open and only bricks were noted since. -/
theorem Kept.idle_or_holding (kept : Kept slippage book log) :
    Idle slippage book log ∨ ∃ before side notes, log = before ++ .enter side :: notes ∧
      Holding slippage book before side notes := by
  induction kept with
  | empty => exact .inl ⟨rfl, fun before side later absent => by simp at absent, rfl⟩
  | @step book next log request earlier step inductionHypothesis =>
      have charged := earlier.slippage_eq
      have noted := earlier.newest_eq
      rcases inductionHypothesis with idle | ⟨before, side, notes, rfl, holding⟩
      · cases step with
        | noted => exact .inl (idle.note _)
        | @entered brick side none latest =>
            exact .inr ⟨log, side, [], rfl, idle.enter charged (noted.symm.trans latest) side⟩
        | left held latest => exact absurd (idle.idle.symm.trans held) (Option.some_ne_none _).symm
      · cases step with
        | @noted brick =>
            exact .inr ⟨before, side, notes ++ [.note brick], by simp, holding.note charged brick⟩
        | entered none latest =>
            obtain ⟨opener, marker, -, -, current⟩ := holding.current
            exact absurd (none.symm.trans current) (Option.some_ne_none _).symm
        | left held latest =>
            exact .inl (holding.leave charged held (noted.symm.trans latest))

/-- The log alone says what positions there are, and what the book will accept: an opening once a
brick is noted and every position is closed, and a close while one is not. At most one position is
open, and it is the last. -/
structure Records (slippage : α) (book : Book α) (log : List (Request α)) : Prop where
  positions : book.positions.map some = entries slippage [] log
  lastOpen : ∀ position ∈ book.positions.dropLast, position.isOpen = false
  opens : ∀ side, (∃ answer, book.openPosition side = .ok answer) ↔
    Settled log ∧ (newest log).isSome = true
  closes : (∃ answer, book.closePosition = .ok answer) ↔ ¬ Settled log

/-- An idle book has the positions of its log. -/
theorem Idle.positions_eq (idle : Idle slippage book log) :
    book.positions.map some = entries slippage [] log := by
  rw [positions_of_idle idle.idle, idle.closed]

/-- A book that holds a position has the positions of its log, the open one last. -/
theorem Holding.positions_eq (holding : Holding slippage book before side notes) :
    book.positions.map some = entries slippage [] (before ++ .enter side :: notes) := by
  obtain ⟨opener, marker, opened, marked, current⟩ := holding.current
  have position := entry_of_notes slippage side holding.onlyNotes (List.takeWhile_nil) opened marked
  have noEnter := ne_enter_of_notes holding.onlyNotes
  rw [List.append_nil] at position
  rw [positions_of_held current, List.map_append, holding.closed,
    entries_append slippage [] holding.settled, entries, entries_of_no_enter slippage _ noEnter,
    List.nil_append, position]
  rfl

/-- A position is held as long as the log is not settled. -/
theorem Kept.current_eq_none_iff (kept : Kept slippage book log) :
    book.current = none ↔ Settled log := by
  rcases kept.idle_or_holding with idle | ⟨before, side, notes, rfl, holding⟩
  · exact iff_of_true idle.idle idle.settled
  · obtain ⟨opener, marker, -, -, current⟩ := holding.current
    refine iff_of_false (current ▸ Option.some_ne_none _) fun settled => ?_
    obtain ⟨close, among, leaves⟩ := List.any_eq_true.mp (settled before side notes rfl)
    obtain ⟨brick, rfl⟩ := holding.onlyNotes close among
    cases leaves

/-- **A book records its log**, whatever it was asked. -/
theorem Kept.records (kept : Kept slippage book log) : Records slippage book log := by
  refine ⟨?_, ?_, ?_, ?_⟩
  · rcases kept.idle_or_holding with idle | ⟨before, side, notes, rfl, holding⟩
    · exact idle.positions_eq
    · exact holding.positions_eq
  · intro position member
    apply kept.isOpen_closed position
    cases current : book.current with
    | none =>
        rw [positions_of_idle current] at member
        exact List.dropLast_subset _ member
    | some held =>
        rw [positions_of_held current, List.dropLast_concat] at member
        exact member
  · intro side
    rw [← kept.current_eq_none_iff, ← kept.newest_eq, Option.isSome_iff_exists]
    constructor
    · rintro ⟨answer, accepted⟩
      obtain ⟨idle, brick, latest, -⟩ := openPosition_eq_ok.mp accepted
      exact ⟨idle, brick, latest⟩
    · rintro ⟨idle, brick, latest⟩
      exact ⟨_, openPosition_of_idle idle latest⟩
  · rw [← kept.current_eq_none_iff]
    cases current : book.current with
    | none =>
        refine iff_of_false ?_ fun held => held rfl
        rintro ⟨answer, accepted⟩
        simp only [closePosition, current, reduceCtorEq] at accepted
    | some position =>
        exact iff_of_true ⟨_, by rw [closePosition, current]⟩ (Option.some_ne_none position)

/-- **The log decides the positions.** Whatever a book is asked after its start, its positions are
those that its log says, at most the last of them is open, and whatever it is asked later, each
keeps its place, its date, its side and what it was opened at, and a closed one changes in nothing.
-/
theorem recorded_after_requests {slippage : α} {first : Book α}
    (started : start slippage = .ok first) (requests later : List (Request α)) :
    Records slippage (first.after requests) (first.log requests) ∧
      (first.after requests).Lasts (first.after (requests ++ later)) := by
  obtain ⟨-, rfl⟩ := start_eq_ok.mp started
  have kept : Kept slippage (after ⟨slippage, #[], #[], none⟩ requests)
      ([] ++ log ⟨slippage, #[], #[], none⟩ requests) := Kept.empty.after requests
  rw [after_append]
  exact ⟨kept.records, kept.lasts later⟩

/-- Requests that are refused in every way, a trade that is closed, and one that is not. -/
theorem recorded_after_two_trades :
    let first : Book Float := ⟨0.25, #[], #[], none⟩
    let brick (ms : Int) (close : Float) : Request Float :=
      .note (.synthetic (.ofMillis ms) .up 1 (close - 1))
    let requests := [.enter .buy, .leave, brick 0 100, .enter .buy, .enter .sell, brick 1 101.5,
      .leave, .leave, brick 2 99, brick 3 98, .enter .sell, brick 4 97.125]
    let later := [brick 5 95, .leave, .enter .buy]
    start 0.25 = .ok first ∧ (first.log requests).length = 8 ∧
      (first.after requests).positions.map (·.isOpen) = [false, true] ∧
      Records 0.25 (first.after requests) (first.log requests) ∧
      (first.after requests).Lasts (first.after (requests ++ later)) := by
  intro first brick requests later
  have started : start 0.25 = .ok first := start_eq_ok.mpr ⟨by decide +kernel, rfl⟩
  exact ⟨started, by decide +kernel, by decide +kernel,
    recorded_after_requests started requests later⟩

end Book

end Renko
