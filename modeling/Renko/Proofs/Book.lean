import Mathlib
import Renko.Book
import Renko.Proofs.Lists

/-! # Books

What a book does when it is asked to, what any requests lead to, and what lasts of a position.
-/

/-! ## What a book does

One fact for every operation of a book that has seen a brick: bricks price the open position, the
newest of them last, and a book that follows a side keeps, opens or turns its position.
-/

namespace Renko

variable {α : Type}

namespace Book

variable {book : Book α}

/-- A book without an open position has the closed ones only. -/
theorem positions_of_idle (idle : book.current = none) : book.positions = book.closed.toList := by
  rw [positions, idle, Option.toList_none, List.append_nil]

/-- The open position of a book comes last. -/
theorem positions_of_held {position : Position α} (held : book.current = some position) :
    book.positions = book.closed.toList ++ [position] := by
  rw [positions, held, Option.toList_some]

end Book

variable [Scalar α]

/-- A position opened and priced at one brick. -/
def Position.openedOn (slippage : α) (brick : Brick α) (side : Side) : Position α :=
  (opened brick.time side (side.fill brick.closePrice slippage)).markedOn slippage brick false

namespace Book

/-- A book that has seen bricks, of which the newest one prices the open position. -/
def shown (book : Book α) (bricks : Array (Brick α)) (newest : Brick α) : Book α :=
  { book with
    bricks
    current := book.current.map (·.markedOn book.slippage newest false) }

/-- Of several bricks the newest one prices the open position. -/
theorem foldl_addBrick (book : Book α) (earlier : List (Brick α)) (newest : Brick α) :
    (earlier ++ [newest]).foldl addBrick book =
      book.shown (book.bricks ++ (earlier ++ [newest]).toArray) newest := by
  induction earlier generalizing book with
  | nil => rfl
  | cons brick earlier inductionHypothesis =>
      rw [List.cons_append, List.foldl_cons, inductionHypothesis]
      obtain ⟨slippage, bricks, closed, current⟩ := book
      simp only [addBrick, shown, Option.map_map, mk.injEq, true_and]
      refine ⟨?_, rfl⟩
      apply Array.toList_inj.mp
      simp only [Array.toList_append, Array.toList_push, List.append_assoc, List.singleton_append]

variable {book : Book α} {brick : Brick α} {side : Side}

/-- Closing prices the open position at the newest brick for the last time. -/
theorem closePosition_of_held {position : Position α} (held : book.current = some position)
    (newest : book.bricks.back? = some brick) :
    book.closePosition = .ok
      ({ book with
          closed := book.closed.push (position.markedOn book.slippage brick true)
          current := none },
        position.markedOn book.slippage brick true) := by
  simp only [closePosition, held, priced, newest]

/-- A book that is idle opens a position at the newest brick. -/
theorem openPosition_of_idle (idle : book.current = none)
    (newest : book.bricks.back? = some brick) :
    book.openPosition side = .ok
      ({ book with current := some (.openedOn book.slippage brick side) },
        .openedOn book.slippage brick side) := by
  simp only [openPosition, idle, priced, newest]
  rfl

/-- A book that is idle and follows a side opens a position on it. -/
theorem follow_of_idle (idle : book.current = none) (newest : book.bricks.back? = some brick) :
    book.follow side =
      .ok { book with current := some (.openedOn book.slippage brick side) } := by
  simp only [follow, idle, openPosition_of_idle idle newest]
  rfl

/-- A book that is on the side it follows keeps its position. -/
theorem follow_of_same {position : Position α} (held : book.current = some position)
    (same : position.side = side) : book.follow side = .ok book := by
  simp only [follow, held, if_pos same]
  rfl

/-- A position on the other side is closed where the new one is opened. -/
theorem follow_of_other {position : Position α} (held : book.current = some position)
    (other : position.side ≠ side) (newest : book.bricks.back? = some brick) :
    book.follow side = .ok
      { book with
        closed := book.closed.push (position.markedOn book.slippage brick true)
        current := some (.openedOn book.slippage brick side) } := by
  let closed : Book α := { book with
    closed := book.closed.push (position.markedOn book.slippage brick true)
    current := none }
  have opens : closed.openPosition side = .ok (_, _) := openPosition_of_idle rfl newest
  simp only [follow, held, if_neg other, closePosition_of_held held newest]
  change (closed.openPosition side >>= fun opened => pure opened.1) = _
  rw [opens]
  rfl

end Book

end Renko

/-! ## Books and their logs

A book is asked to note bricks, to open a position and to close it. A request that is refused leaves
the book as it was; the others are its log. Every book that requests lead to is kept by three kinds
of steps (`Renko.Book.Step`), one for each kind of request, so what every step keeps holds after any
requests (`Renko.Book.Kept.after`).
-/

namespace Renko

/-- What a book can be asked to do. -/
inductive Request (α : Type)
  | note (brick : Brick α)
  | enter (side : Side)
  | leave

variable {α : Type} [Scalar α]

namespace Book

def ask (book : Book α) : Request α → Except (TradeFault α) (Book α)
  | .note brick => .ok (book.addBrick brick)
  | .enter side => do return (← book.openPosition side).1
  | .leave => do return (← book.closePosition).1

/-- The book after a request, refused or not. -/
def asked (book : Book α) (request : Request α) : Book α :=
  match book.ask request with
  | .ok next => next
  | .error _ => book

/-- The book after all requests. -/
def after (book : Book α) (requests : List (Request α)) : Book α :=
  requests.foldl asked book

/-- Requests in a row are made one part after the other. -/
theorem after_append (book : Book α) (requests later : List (Request α)) :
    book.after (requests ++ later) = (book.after requests).after later :=
  List.foldl_append

/-- The requests that were not refused, in order. -/
def log : Book α → List (Request α) → List (Request α)
  | _, [] => []
  | book, request :: later =>
    match book.ask request with
    | .ok next => request :: log next later
    | .error _ => log book later

/-- What a request that is not refused makes of a book. -/
inductive Step : Book α → Request α → Book α → Prop
  | noted {book : Book α} {brick : Brick α} : Step book (.note brick) (book.addBrick brick)
  | entered {book : Book α} {brick : Brick α} {side : Side} (idle : book.current = none)
      (newest : book.bricks.back? = some brick) :
      Step book (.enter side) { book with current := some (.openedOn book.slippage brick side) }
  | left {book : Book α} {brick : Brick α} {position : Position α}
      (held : book.current = some position) (newest : book.bricks.back? = some brick) :
      Step book .leave
        { book with
          closed := book.closed.push (position.markedOn book.slippage brick true)
          current := none }

/-- The books that are kept from one without bricks and positions, each with its log. -/
inductive Kept (slippage : α) : Book α → List (Request α) → Prop
  | empty : Kept slippage ⟨slippage, #[], #[], none⟩ []
  | step {book next : Book α} {log : List (Request α)} {request : Request α}
      (before : Kept slippage book log) (step : Step book request next) :
      Kept slippage next (log ++ [request])

variable {book next : Book α} {slippage : α} {log : List (Request α)} {request : Request α}

/-- A book starts at every valid slippage and at no other. -/
theorem start_eq_ok : start slippage = .ok book ↔
    validSlippage slippage = true ∧ book = ⟨slippage, #[], #[], none⟩ := by
  unfold start checkSlippage
  by_cases valid : validSlippage slippage = true
  · rw [if_pos valid, and_iff_right valid]
    change Except.ok _ = Except.ok book ↔ _
    rw [Except.ok.injEq, eq_comm]
  · rw [if_neg valid]
    exact iff_of_false (fun started => nomatch started) fun both => valid both.1

/-- No request changes the slippage of a book. -/
theorem Kept.slippage_eq (kept : Kept slippage book log) : book.slippage = slippage := by
  induction kept with
  | empty => rfl
  | step before step inductionHypothesis => cases step <;> exact inductionHypothesis

/-- An open position was opened at a brick. -/
theorem Kept.exists_newest (kept : Kept slippage book log) (held : book.current ≠ none) :
    ∃ brick, book.bricks.back? = some brick := by
  induction kept with
  | empty => exact absurd rfl held
  | step before step inductionHypothesis =>
      cases step with
      | noted => exact ⟨_, Array.back?_push⟩
      | entered idle newest => exact ⟨_, newest⟩
      | left => exact absurd rfl held

/-- The position that a book holds is open. -/
theorem Kept.isOpen_current (kept : Kept slippage book log) :
    ∀ position ∈ book.current, position.isOpen = true := by
  induction kept with
  | empty => exact fun position absent => nomatch absent
  | step before step inductionHypothesis =>
      intro position current
      cases step with
      | @noted brick =>
          obtain ⟨earlier, held, rfl⟩ := Option.map_eq_some_iff.mp current
          exact inductionHypothesis earlier held
      | entered idle newest =>
          obtain rfl := Option.some.inj current
          rfl
      | left => cases current

/-- The positions that a book has put aside are closed. -/
theorem Kept.isOpen_closed (kept : Kept slippage book log) :
    ∀ position ∈ book.closed.toList, position.isOpen = false := by
  induction kept with
  | empty => exact fun position absent => nomatch absent
  | step before step inductionHypothesis =>
      cases step with
      | noted => exact inductionHypothesis
      | entered idle newest => exact inductionHypothesis
      | left held newest =>
          rw [Array.toList_push]
          exact List.forall_mem_append.mpr
            ⟨inductionHypothesis, List.forall_mem_singleton.mpr rfl⟩

/-- The current position is the one that is open. -/
theorem Kept.filter_isOpen (kept : Kept slippage book log) :
    book.positions.filter (·.isOpen) = book.current.toList := by
  have closed : book.closed.toList.filter (·.isOpen) = [] :=
    List.filter_eq_nil_iff.mpr fun position member =>
      Bool.eq_false_iff.mp (kept.isOpen_closed position member)
  have held : book.current.toList.filter (·.isOpen) = book.current.toList :=
    List.filter_eq_self.mpr fun position member =>
      kept.isOpen_current position (Option.mem_toList.mp member)
  rw [positions, List.filter_append, closed, held, List.nil_append]

/-- A position is opened at the newest brick, if there is one and no position is open. -/
theorem openPosition_eq_ok {side : Side} {answer : Book α × Position α} :
    book.openPosition side = .ok answer ↔
      book.current = none ∧ ∃ brick, book.bricks.back? = some brick ∧
        ({ book with current := some (.openedOn book.slippage brick side) },
          .openedOn book.slippage brick side) = answer := by
  constructor
  · intro accepted
    cases current : book.current with
    | some position => simp only [openPosition, current, reduceCtorEq] at accepted
    | none =>
        cases newest : book.bricks.back? with
        | none => simp only [openPosition, current, newest, reduceCtorEq] at accepted
        | some brick =>
            rw [openPosition_of_idle current newest, Except.ok.injEq] at accepted
            exact ⟨rfl, brick, rfl, accepted⟩
  · rintro ⟨idle, brick, newest, rfl⟩
    exact openPosition_of_idle idle newest

/-- A request of a kept book that is not refused is a step. -/
theorem Kept.step_of_ask (kept : Kept slippage book log) (accepted : book.ask request = .ok next) :
    Step book request next := by
  cases request with
  | note brick =>
      obtain rfl := Except.ok.inj accepted
      exact .noted
  | enter side =>
      cases opened : book.openPosition side with
      | error fault =>
          simp only [ask, opened] at accepted
          cases accepted
      | ok answer =>
          simp only [ask, opened] at accepted
          obtain rfl := Except.ok.inj accepted
          obtain ⟨idle, brick, newest, rfl⟩ := openPosition_eq_ok.mp opened
          exact .entered idle newest
  | leave =>
      cases current : book.current with
      | none =>
          simp only [ask, closePosition, current] at accepted
          cases accepted
      | some position =>
          obtain ⟨brick, newest⟩ := kept.exists_newest (current ▸ Option.some_ne_none position)
          simp only [ask, closePosition_of_held current newest] at accepted
          obtain rfl := Except.ok.inj accepted
          exact .left current newest

/-- **Books are kept.** Whatever a kept book is asked, refused requests included, the book it
becomes is kept with the longer log. -/
theorem Kept.after (kept : Kept slippage book log) (requests : List (Request α)) :
    Kept slippage (book.after requests) (log ++ book.log requests) := by
  induction requests generalizing book log with
  | nil =>
      rw [Book.log, List.append_nil]
      exact kept
  | cons request later inductionHypothesis =>
      rw [Book.after, List.foldl_cons, Book.log, asked]
      cases outcome : book.ask request with
      | error fault => exact inductionHypothesis kept
      | ok next =>
          have longer := inductionHypothesis (kept.step (kept.step_of_ask outcome))
          rw [List.append_assoc] at longer
          exact longer

end Book

end Renko

/-! ## What lasts of a position

A position keeps its place in the book, and what was fixed when it was opened; once it is closed it
does not change at all. One step keeps this (`Renko.Book.Step.lasts`), and so do any requests
(`Renko.Book.Kept.lasts`).
-/

namespace Renko

variable {α : Type}

/-- What never changes about a position is when, on which side and at what price it was opened. Of a
closed position nothing does. -/
structure Position.Lasts (earlier later : Position α) : Prop where
  date : later.date = earlier.date
  side : later.side = earlier.side
  openPrice : later.openPrice = earlier.openPrice
  frozen : earlier.isOpen = false → later = earlier

/-- A position lasts if nothing happens to it. -/
theorem Position.Lasts.refl (position : Position α) : position.Lasts position :=
  ⟨rfl, rfl, rfl, fun _ => rfl⟩

/-- What lasts of a position, and from there again, lasts altogether. -/
theorem Position.Lasts.trans {first second third : Position α} (early : first.Lasts second)
    (late : second.Lasts third) : first.Lasts third := by
  refine ⟨late.date.trans early.date, late.side.trans early.side,
    late.openPrice.trans early.openPrice, ?_⟩
  intro closed
  obtain rfl := early.frozen closed
  exact late.frozen closed

namespace Book

/-- The positions of a book last in a later one, each in its place. -/
def Lasts (earlier later : Book α) : Prop :=
  ∀ (place : Nat) (position : Position α), earlier.positions[place]? = some position →
    ∃ lasting, later.positions[place]? = some lasting ∧ position.Lasts lasting

/-- What a book has recorded lasts if nothing is asked. -/
theorem Lasts.refl (book : Book α) : book.Lasts book :=
  InPlace.refl Position.Lasts.refl book.positions

/-- What lasts in a book, and from there again, lasts altogether. -/
theorem Lasts.trans {first second third : Book α} (early : first.Lasts second)
    (late : second.Lasts third) : first.Lasts third :=
  InPlace.trans (@Position.Lasts.trans α) early late

private theorem lasts_of_append {earlier later : Book α} (opened : List (Position α))
    (positions : later.positions = earlier.positions ++ opened) : earlier.Lasts later := by
  rw [Lasts, positions]
  exact InPlace.append Position.Lasts.refl earlier.positions opened

private theorem lasts_of_replace {earlier later : Book α} {settled : List (Position α)}
    {position lasting : Position α} (before : earlier.positions = settled ++ [position])
    (after : later.positions = settled ++ [lasting]) (lasts : position.Lasts lasting) :
    earlier.Lasts later := by
  rw [Lasts, before, after]
  exact InPlace.replace Position.Lasts.refl settled [] lasts

variable [Scalar α]

private theorem lasts_markedOn {position : Position α} (held : position.isOpen = true)
    (slippage : α)
    (brick : Brick α) (close : Bool) : position.Lasts (position.markedOn slippage brick close) :=
  ⟨rfl, rfl, rfl, fun closed => nomatch held.symm.trans closed⟩

/-- A step leaves every position in its place. -/
theorem Step.lasts {book next : Book α} {request : Request α}
    (held : ∀ position ∈ book.current, position.isOpen = true) (step : Step book request next) :
    book.Lasts next := by
  cases step with
  | @noted brick =>
      cases current : book.current with
      | none =>
          apply lasts_of_append []
          have idle : (book.addBrick brick).current = none := by
            rw [addBrick_current, current, Option.map_none]
          rw [positions_of_idle idle, positions_of_idle current, List.append_nil]
          rfl
      | some position =>
          have marked : (book.addBrick brick).current =
              some (position.markedOn book.slippage brick false) := by
            rw [addBrick_current, current, Option.map_some]
          exact lasts_of_replace (positions_of_held current) (positions_of_held marked)
            (lasts_markedOn (held position current) book.slippage brick false)
  | @entered brick side idle newest =>
      apply lasts_of_append [.openedOn book.slippage brick side]
      rw [positions_of_idle idle]
      exact positions_of_held rfl
  | @left brick position current newest =>
      refine lasts_of_replace (positions_of_held current) ?_
        (lasts_markedOn (held position current) book.slippage brick true)
      rw [positions_of_idle rfl, Array.toList_push]

/-- **What a book has recorded lasts**, whatever is requested of it. -/
theorem Kept.lasts {slippage : α} {book : Book α} {log : List (Request α)}
    (kept : Kept slippage book log) (requests : List (Request α)) :
    book.Lasts (book.after requests) := by
  induction requests generalizing book log with
  | nil => exact .refl book
  | cons request later inductionHypothesis =>
      rw [Book.after, List.foldl_cons, asked]
      cases outcome : book.ask request with
      | error fault => exact inductionHypothesis kept
      | ok next =>
          have step := kept.step_of_ask outcome
          exact (step.lasts kept.isOpen_current).trans (inductionHypothesis (kept.step step))

end Book

end Renko
