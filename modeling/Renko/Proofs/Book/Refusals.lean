import Mathlib
import Renko.Proofs.Book.Ledger
import Renko.Proofs.Outcome

/-! # Requests that are refused

Which requests a book refuses, and that they leave no trace, also where it is written in place.
-/

/-! ## What a book refuses

A book refuses an opening while a position is open, or else as long as no brick was noted, and a
close while no position is open (`Renko.Book.Kept.refuses`). What it refuses leaves it as it was, so
it is left the same by its log alone (`Renko.Book.after_log`).
-/

namespace Renko

variable {α : Type} [Scalar α]

namespace Book

open Ledger

/-- What a book answers to a request is the position it opens or closes. -/
def reply (book : Book α) : Request α → Except (TradeFault α) (Option (Position α))
  | .note _ => .ok none
  | .enter side => (fun opened => some opened.2) <$> book.openPosition side
  | .leave => (fun closed => some closed.2) <$> book.closePosition

variable {slippage : α} {book : Book α} {log : List (Request α)} {request : Request α}
  {side : Side} {position : Position α}

private theorem openPosition_of_held (held : book.current = some position) :
    book.openPosition side = .error .positionAlreadyOpen := by
  simp only [openPosition, held]

private theorem openPosition_of_bare (idle : book.current = none)
    (bare : book.bricks.back? = none) :
    book.openPosition side = .error .noBricks := by
  simp only [openPosition, idle, bare]

private theorem closePosition_of_idle (idle : book.current = none) :
    book.closePosition = .error .noOpenPosition := by
  simp only [closePosition, idle]

/-- An opening is refused for one of two causes. -/
theorem openPosition_eq_error {cause : TradeFault α} :
    book.openPosition side = .error cause ↔
      book.current ≠ none ∧ cause = .positionAlreadyOpen ∨
        book.current = none ∧ book.bricks.back? = none ∧ cause = .noBricks := by
  cases current : book.current with
  | some position =>
      rw [openPosition_of_held current]
      simp [eq_comm]
  | none =>
      cases newest : book.bricks.back? with
      | none =>
          rw [openPosition_of_bare current newest]
          simp [eq_comm]
      | some brick =>
          rw [openPosition_of_idle current newest]
          simp

/-- A close is refused only for want of an open position. -/
theorem closePosition_eq_error {cause : TradeFault α} :
    book.closePosition = .error cause ↔ book.current = none ∧ cause = .noOpenPosition := by
  cases current : book.current with
  | none =>
      rw [closePosition_of_idle current]
      simp [eq_comm]
  | some position => simp [closePosition, current]

/-- A book refuses with what it answers. -/
theorem ask_eq (book : Book α) (request : Request α) :
    book.ask request = (fun _ => book.asked request) <$> book.reply request := by
  cases request with
  | note brick => rfl
  | enter side =>
      rw [asked, ask, reply]
      cases book.openPosition side <;> rfl
  | leave =>
      rw [asked, ask, reply]
      cases book.closePosition <;> rfl

private theorem asked_of_error {cause : TradeFault α}
    (refused : book.reply request = .error cause) :
    book.asked request = book := by
  rw [asked, ask_eq, refused]
  rfl

private theorem log_cons_of_error {cause : TradeFault α}
    (refused : book.reply request = .error cause)
    (later : List (Request α)) : book.log (request :: later) = book.log later := by
  rw [log, ask_eq, refused]
  rfl

private theorem log_cons_of_ok {answered : Option (Position α)}
    (accepted : book.reply request = .ok answered) (later : List (Request α)) :
    book.log (request :: later) = request :: (book.asked request).log later := by
  rw [log, ask_eq, accepted]
  rfl

/-- Bricks are never refused. -/
theorem filterMap_brick?_log (book : Book α) (requests : List (Request α)) :
    (book.log requests).filterMap Request.brick? = requests.filterMap Request.brick? := by
  induction requests generalizing book with
  | nil => rfl
  | cons request later inductionHypothesis =>
      cases replied : book.reply request with
      | ok answered =>
          rw [log_cons_of_ok replied, List.filterMap_cons, List.filterMap_cons,
            inductionHypothesis]
      | error cause =>
          have none : request.brick? = none := by
            cases request with
            | note brick => cases replied
            | enter side => rfl
            | leave => rfl
          rw [log_cons_of_error replied, inductionHypothesis, List.filterMap_cons_none none]

/-- What a book refuses can be left out of what it is asked. -/
theorem after_log (book : Book α) (requests : List (Request α)) :
    book.after (book.log requests) = book.after requests := by
  induction requests generalizing book with
  | nil => rfl
  | cons request later inductionHypothesis =>
      cases replied : book.reply request with
      | ok answered =>
          rw [log_cons_of_ok replied]
          exact inductionHypothesis _
      | error cause =>
          rw [log_cons_of_error replied, inductionHypothesis, after, after, List.foldl_cons,
            asked_of_error replied]

/-- A position is held exactly as long as one is open. -/
theorem Kept.current_eq_none_iff_closed (kept : Kept slippage book log) :
    book.current = none ↔ ∀ position ∈ book.positions, position.isOpen = false := by
  cases current : book.current with
  | none =>
      rw [positions_of_idle current]
      exact iff_of_true rfl kept.isOpen_closed
  | some position =>
      rw [positions_of_held current]
      refine iff_of_false (Option.some_ne_none _) fun closed => ?_
      have held := kept.isOpen_current position current
      rw [closed position (List.mem_append_right _ (List.mem_singleton_self _))] at held
      cases held

/-- A book holds a position if one of its positions is open. -/
theorem Kept.current_ne_none_iff (kept : Kept slippage book log) :
    book.current ≠ none ↔ ∃ position ∈ book.positions, position.isOpen = true := by
  rw [ne_eq, kept.current_eq_none_iff_closed, not_forall]
  simp only [Classical.not_imp, Bool.not_eq_false]

/-- Which requests a book refuses after earlier ones, with which cause, and what it does with the
others: an opening adds one position, which the brick it was opened at prices, and a close leaves
none open. -/
structure Refuses (book : Book α) (requests : List (Request α)) : Prop where
  alreadyOpen : ∀ side, book.openPosition side = .error .positionAlreadyOpen ↔
    ∃ position ∈ book.positions, position.isOpen = true
  noBricks : ∀ side, book.openPosition side = .error .noBricks ↔
    (∀ position ∈ book.positions, position.isOpen = false) ∧ newest requests = none
  opens : ∀ side, (∀ position ∈ book.positions, position.isOpen = false) →
    ∀ brick, newest requests = some brick →
      ∃ next, book.openPosition side =
          .ok (next, traded book.slippage brick side brick false) ∧
        next.bricks = book.bricks ∧
        next.positions = book.positions ++ [traded book.slippage brick side brick false]
  findsOpened : ∀ side, book.openPosition side ≠ .error .noOpenPosition
  noneOpen : ∀ cause, book.closePosition = .error cause ↔
    cause = .noOpenPosition ∧ ∀ position ∈ book.positions, position.isOpen = false
  closes : ∀ next position, book.closePosition = .ok (next, position) →
    next.bricks = book.bricks ∧ next.positions = book.positions.dropLast ++ [position] ∧
      ∀ position ∈ next.positions, position.isOpen = false

/-- What a book refuses can be told from its positions and from the requests that led to it. -/
theorem Kept.refuses (kept : Kept slippage book log) {requests : List (Request α)}
    (noted : book.bricks.back? = newest requests) : Refuses book requests where
  alreadyOpen side := by
    rw [openPosition_eq_error, ← kept.current_ne_none_iff]
    simp
  noBricks side := by
    rw [openPosition_eq_error, ← kept.current_eq_none_iff_closed, ← noted]
    simp
  opens side closed brick newest := by
    have idle := kept.current_eq_none_iff_closed.mpr closed
    refine ⟨_, openPosition_of_idle idle (noted.trans newest), rfl, ?_⟩
    rw [positions_of_idle idle]
    exact positions_of_held rfl
  findsOpened side refused := by
    rcases openPosition_eq_error.mp refused with ⟨-, other⟩ | ⟨-, -, other⟩ <;> cases other
  noneOpen cause := by
    rw [closePosition_eq_error, kept.current_eq_none_iff_closed, and_comm]
  closes next position accepted := by
    cases current : book.current with
    | none =>
        rw [closePosition_of_idle current] at accepted
        cases accepted
    | some held =>
        have closed := kept.isOpen_closed
        obtain ⟨brick, newest⟩ := kept.exists_newest (current ▸ Option.some_ne_none held)
        rw [closePosition_of_held current newest, Except.ok.injEq, Prod.mk.injEq] at accepted
        obtain ⟨rfl, rfl⟩ := accepted
        rw [positions_of_idle rfl, positions_of_held current, List.dropLast_concat,
          Array.toList_push]
        exact ⟨rfl, rfl,
          List.forall_mem_append.mpr ⟨closed, List.forall_mem_singleton.mpr rfl⟩⟩

end Book

end Renko

/-! ## Books written in place

A book answers with a new book or refuses. Kept in place it is a journal, whose requests write one
change after the other: an opening adds a position before the position is priced, and only then
looks for what it has opened. A journal and its book agree on every answer and on what is left
(`Renko.Book.Kept.answer_serve`), so a request that is refused has written nothing, and which ones
are refused can be read off the requests before them (`Renko.Book.requests_refused_exactly`).
-/

namespace Renko

open Outcome

variable {α : Type}

/-- A book kept in place, with all positions in one list. Only the last of them may be open. -/
structure Journal (α : Type) where
  slippage : α
  bricks : Array (Brick α)
  positions : Array (Position α)

/-- An operation on a journal. -/
abbrev Entry (α : Type) := ExceptT (TradeFault α) (StateM (Journal α))

namespace Journal

def current? (journal : Journal α) : Option (Position α) :=
  journal.positions.back?.filter (·.isOpen)

section

variable {slippage : α} {bricks : Array (Brick α)} {settled : Array (Position α)}
  {position : Position α}

private theorem current?_push (held : position.isOpen = true) :
    current? ⟨slippage, bricks, settled.push position⟩ = some position := by
  rw [current?, Array.back?_push, Option.filter_some_pos held]

private theorem current?_of_closed (closed : ∀ position ∈ settled.toList, position.isOpen = false) :
    current? ⟨slippage, bricks, settled⟩ = none := by
  rw [current?, Option.filter_eq_none_iff]
  intro position last held
  rw [closed position (Array.mem_toList_iff.mpr (Array.mem_of_back? last))] at held
  cases held

end

variable [Scalar α]

/-- The journal whose open position the newest brick has priced. -/
def priced (journal : Journal α) (close : Bool) : Journal α :=
  match journal.bricks.back?, journal.current? with
  | some brick, some position =>
    { journal with
      positions := journal.positions.pop.push (position.markedOn journal.slippage brick close) }
  | _, _ => journal

def note (brick : Brick α) : Entry α Unit := do
  modify fun journal => { journal with bricks := journal.bricks.push brick }
  modify (·.priced false)

def enter (side : Side) : Entry α (Position α) := do
  let journal ← get
  if journal.current?.isSome then throw .positionAlreadyOpen
  let some brick := journal.bricks.back? | throw .noBricks
  let position := .opened brick.time side (side.fill brick.closePrice journal.slippage)
  modify fun journal => { journal with positions := journal.positions.push position }
  modify (·.priced false)
  let some position := (← get).current? | throw .noOpenPosition
  return position

def leave : Entry α (Position α) := do
  if (← get).current?.isNone then throw .noOpenPosition
  modify (·.priced true)
  let some position := (← get).positions.back? | throw .noOpenPosition
  return position

/-- What a request answers is the position it opens or closes. -/
def serve : Request α → Entry α (Option (Position α))
  | .note brick => (fun _ => none) <$> note brick
  | .enter side => some <$> enter side
  | .leave => some <$> leave

variable {journal : Journal α} {slippage : α} {bricks : Array (Brick α)}
  {settled : Array (Position α)} {position : Position α} {brick : Brick α} {side : Side}

/-- The open position is the only one that is priced. -/
theorem priced_push (held : position.isOpen = true) (newest : bricks.back? = some brick)
    (close : Bool) :
    priced ⟨slippage, bricks, settled.push position⟩ close =
      ⟨slippage, bricks, settled.push (position.markedOn slippage brick close)⟩ := by
  simp only [priced, current?_push held, newest, Array.pop_push]

private theorem priced_of_idle (idle : journal.current? = none) (close : Bool) :
    journal.priced close = journal := by
  rw [priced, idle]
  cases journal.bricks.back? <;> rfl

private theorem answer_note_of_idle (idle : current? ⟨slippage, bricks, settled⟩ = none) :
    answer (note brick) ⟨slippage, bricks, settled⟩ =
      (.ok (), ⟨slippage, bricks.push brick, settled⟩) := by
  have noted : current? ⟨slippage, bricks.push brick, settled⟩ = none := idle
  simp only [note, answer_modify_bind]
  exact congrArg _ (priced_of_idle noted false)

private theorem answer_note_of_held (held : position.isOpen = true) :
    answer (note brick) ⟨slippage, bricks, settled.push position⟩ =
      (.ok (),
        ⟨slippage, bricks.push brick, settled.push (position.markedOn slippage brick false)⟩) := by
  simp only [note, answer_modify_bind]
  exact congrArg _ (priced_push held Array.back?_push false)

private theorem answer_enter_of_held (held : journal.current? = some position) :
    answer (enter side) journal = (.error .positionAlreadyOpen, journal) := by
  simp [enter, held]

private theorem answer_enter_of_bare (idle : journal.current? = none)
    (bare : journal.bricks.back? = none) :
    answer (enter side) journal = (.error .noBricks, journal) := by
  simp [enter, idle, bare]

/-- The position that was added is open, so it is priced and then found. -/
theorem answer_enter_of_idle (idle : current? ⟨slippage, bricks, settled⟩ = none)
    (newest : bricks.back? = some brick) :
    answer (enter side) ⟨slippage, bricks, settled⟩ =
      (.ok (.openedOn slippage brick side),
        ⟨slippage, bricks, settled.push (.openedOn slippage brick side)⟩) := by
  have added :
      priced ⟨slippage, bricks,
          settled.push (.opened brick.time side (side.fill brick.closePrice slippage))⟩ false =
        ⟨slippage, bricks, settled.push (.openedOn slippage brick side)⟩ :=
    priced_push rfl newest false
  have found :
      current? ⟨slippage, bricks, settled.push (.openedOn slippage brick side)⟩ =
        some (.openedOn slippage brick side) :=
    current?_push rfl
  simp [enter, idle, newest, added, found]

private theorem answer_leave_of_idle (idle : journal.current? = none) :
    answer leave journal = (.error .noOpenPosition, journal) := by
  simp [leave, idle]

private theorem answer_leave_of_held (held : position.isOpen = true)
    (newest : bricks.back? = some brick) :
    answer leave ⟨slippage, bricks, settled.push position⟩ =
      (.ok (position.markedOn slippage brick true),
        ⟨slippage, bricks, settled.push (position.markedOn slippage brick true)⟩) := by
  have found : current? ⟨slippage, bricks, settled.push position⟩ = some position :=
    current?_push held
  simp [leave, found, priced_push held newest]

end Journal

namespace Book

open Journal Calls Ledger

section

variable {book : Book α} {position : Position α}

/-- A book kept in place. -/
def journal (book : Book α) : Journal α :=
  ⟨book.slippage, book.bricks, book.closed ++ book.current.toArray⟩

private theorem journal_of_idle (idle : book.current = none) :
    book.journal = ⟨book.slippage, book.bricks, book.closed⟩ := by
  rw [journal, idle, Option.toArray_none, Array.append_empty]

private theorem journal_of_held (held : book.current = some position) :
    book.journal = ⟨book.slippage, book.bricks, book.closed.push position⟩ := by
  rw [journal, held, Option.toArray_some, Array.append_singleton]

end

variable [Scalar α] {slippage : α} {book : Book α} {log : List (Request α)} {position : Position α}

private theorem Kept.answer_serve_of_idle (kept : Kept slippage book log)
    (idle : book.current = none) (request : Request α) :
    answer (serve request) book.journal =
      (book.reply request, (book.asked request).journal) := by
  have found : current? ⟨book.slippage, book.bricks, book.closed⟩ = none :=
    current?_of_closed kept.isOpen_closed
  rw [journal_of_idle idle]
  cases request with
  | note brick =>
      have left : (book.addBrick brick).journal = _ :=
        journal_of_idle (by rw [addBrick_current, idle, Option.map_none])
      rw [serve, answer_map, answer_note_of_idle found, asked, ask, left]
      rfl
  | leave =>
      rw [serve, answer_map, answer_leave_of_idle found, asked, ask, reply,
        closePosition_of_idle idle, ← journal_of_idle idle]
      rfl
  | enter side =>
      cases newest : book.bricks.back? with
      | none =>
          rw [serve, answer_map, answer_enter_of_bare found newest, asked, ask, reply,
            openPosition_of_bare idle newest, ← journal_of_idle idle]
          rfl
      | some brick =>
          have left : journal { book with current := some (.openedOn book.slippage brick side) } =
              _ :=
            journal_of_held rfl
          rw [serve, answer_map, answer_enter_of_idle found newest, asked, ask, reply,
            openPosition_of_idle idle newest]
          exact congrArg _ left.symm

private theorem Kept.answer_serve_of_held (kept : Kept slippage book log)
    (held : book.current = some position) (request : Request α) :
    answer (serve request) book.journal =
      (book.reply request, (book.asked request).journal) := by
  have isOpen := kept.isOpen_current position held
  rw [journal_of_held held]
  cases request with
  | note brick =>
      have left : (book.addBrick brick).journal = _ :=
        journal_of_held (by rw [addBrick_current, held, Option.map_some])
      rw [serve, answer_map, answer_note_of_held isOpen, asked, ask, left]
      rfl
  | enter side =>
      rw [serve, answer_map, answer_enter_of_held (current?_push isOpen), asked, ask, reply,
        openPosition_of_held held, ← journal_of_held held]
      rfl
  | leave =>
      obtain ⟨brick, newest⟩ := kept.exists_newest (held ▸ Option.some_ne_none position)
      have left : journal
          { book with
            closed := book.closed.push (position.markedOn book.slippage brick true)
            current := none } = _ :=
        journal_of_idle rfl
      rw [serve, answer_map, answer_leave_of_held isOpen newest, asked, ask, reply,
        closePosition_of_held held newest]
      exact congrArg _ left.symm

/-- **Writing in place answers alike.** A journal answers a request as its book does, and is left as
the journal of the book that the request leaves. -/
theorem Kept.answer_serve (kept : Kept slippage book log) (request : Request α) :
    answer (serve request) book.journal =
      (book.reply request, (book.asked request).journal) := by
  cases current : book.current with
  | none => exact kept.answer_serve_of_idle current request
  | some position => exact kept.answer_serve_of_held current request

/-- The journals of kept books. -/
def Journaled (slippage : α) (journal : Journal α) : Prop :=
  ∃ book log, Kept slippage book log ∧ book.journal = journal

/-- Every book that requests lead to can be kept in place. -/
theorem Kept.journaled (kept : Kept slippage book log) : Journaled slippage book.journal :=
  ⟨book, log, kept, rfl⟩

/-- No request writes anything before it is refused. -/
theorem traceless_serve (slippage : α) : Traceless serve (Journaled slippage) where
  keeps := by
    rintro journal ⟨book, log, kept, rfl⟩ request
    rw [kept.answer_serve]
    exact (kept.after [request]).journaled
  traceless := by
    rintro journal ⟨book, log, kept, rfl⟩ request cause later refused
    rw [kept.answer_serve, Prod.mk.injEq] at refused
    obtain ⟨replied, rfl⟩ := refused
    rw [asked_of_error replied]

/-- What a journal is left as, and what it does not refuse, is what its book is and does not. -/
theorem Kept.leaves_journal (kept : Kept slippage book log) (requests : List (Request α)) :
    leaves serve book.journal requests = (book.after requests).journal ∧
      accepted serve book.journal requests = book.log requests := by
  induction requests generalizing book log with
  | nil => exact ⟨rfl, rfl⟩
  | cons request later inductionHypothesis =>
      have answered := kept.answer_serve request
      have next : Kept slippage (book.asked request) _ := kept.after [request]
      obtain ⟨same, alike⟩ := inductionHypothesis next
      rw [leaves_cons_of answered]
      refine ⟨same, ?_⟩
      cases replied : book.reply request with
      | ok position =>
          rw [replied] at answered
          rw [accepted_cons_of_ok answered, log_cons_of_ok replied]
          exact congrArg _ alike
      | error cause =>
          rw [replied] at answered
          rw [accepted_cons_of_error answered, log_cons_of_error replied]
          rw [asked_of_error replied] at alike ⊢
          exact alike

/-- What requests leave in a journal and what they are answered there, refused ones included: all of
it is as in the book, a refused request leaves the journal as it was, and without the refused ones
the others leave the same and are answered as before. -/
structure Traces (first : Book α) (requests : List (Request α)) : Prop where
  leaves : leaves serve first.journal requests = (first.after requests).journal
  answers : ∀ request, answer (serve request) (first.after requests).journal =
    ((first.after requests).reply request, ((first.after requests).asked request).journal)
  refused : ∀ request cause later,
    answer (serve request) (first.after requests).journal = (.error cause, later) →
      later = (first.after requests).journal
  spared : first.after (first.log requests) = first.after requests
  sparedJournal : Calls.leaves serve first.journal (first.log requests) =
    Calls.leaves serve first.journal requests
  sparedAnswers : transcript serve first.journal (first.log requests) =
    (transcript serve first.journal requests).filter (·.2.isOk)

/-- Requests that are refused leave no trace in a book or its journal. -/
theorem Kept.traces (kept : Kept slippage book log) (requests : List (Request α)) :
    Traces book requests := by
  have later := kept.after requests
  have traceless := traceless_serve slippage
  obtain ⟨left, accepted⟩ := kept.leaves_journal requests
  obtain ⟨same, alike⟩ := spare_accepted traceless kept.journaled requests
  rw [accepted] at same alike
  exact ⟨left, later.answer_serve, fun request cause next => traceless.traceless later.journaled,
    after_log book requests, same, alike⟩

/-- **Refusals are exact and leave no trace.** Whatever a book was asked after its start, an opening
is refused if a position is open, or else if no brick was ever noted, and a close if no position is
open, each with its own cause and for no other. Written in place, what is refused changes nothing,
so that it can be left out of what was asked. -/
theorem requests_refused_exactly {slippage : α} {first : Book α}
    (started : start slippage = .ok first) (requests : List (Request α)) :
    Refuses (first.after requests) requests ∧ Traces first requests := by
  obtain ⟨-, rfl⟩ := start_eq_ok.mp started
  have kept : Kept slippage (after ⟨slippage, #[], #[], none⟩ requests)
      ([] ++ log ⟨slippage, #[], #[], none⟩ requests) := Kept.empty.after requests
  refine ⟨kept.refuses ?_, Kept.empty.traces requests⟩
  rw [kept.newest_eq, List.nil_append, newest, filterMap_brick?_log]
  rfl

/-- An opening without bricks, a second opening and a second close are refused. -/
theorem requests_refused_around_trade :
    let first : Book Float := ⟨0.25, #[], #[], none⟩
    let brick (ms : Int) (close : Float) : Request Float :=
      .note (.synthetic (.ofMillis ms) .up 1 (close - 1))
    let requests := [.enter .buy, .leave, brick 0 100, .enter .buy, .enter .sell, brick 1 101.5,
      .leave, .leave]
    start 0.25 = .ok first ∧
      (first.log requests).map Request.isLeave = [false, false, false, true] ∧
      Refuses (first.after requests) requests ∧ Traces first requests := by
  intro first brick requests
  have started : start 0.25 = .ok first := start_eq_ok.mpr ⟨by decide +kernel, rfl⟩
  exact ⟨started, by decide +kernel, requests_refused_exactly started requests⟩

end Book

end Renko
