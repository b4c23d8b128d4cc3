import Mathlib
import Renko.Backtest
import Renko.Proofs.Book
import Renko.Proofs.Chart.History
import Renko.Proofs.Lists

/-! # Trades

What the turns of a history make for trades, and a book that follows them turn by turn.
-/

/-! ## What a backtest should trade

The history of a chart says what to trade, without a book. Every tick that completes bricks is a
turn, and so is the newest brick it completes. Turns of one kind in a row are a run, and each run is
one position (`Renko.Trades.trades`): opened at the first turn of the run, and closed at the first
turn of the next.
-/

namespace Renko.Trades

section Turns

variable {α : Type}

/-- The newest completed brick after a tick that completed some. -/
def turn? (taken : Taken α) : Option (Brick α) :=
  if taken.count = 0 then none else taken.chart.completed.back?

/-- The turns of a history, in order. -/
def turns (past : List (Taken α)) : List (Brick α) := past.filterMap turn?

/-- Turns of one kind in a row. -/
def runs (turns : List (Brick α)) : List (List (Brick α)) :=
  turns.splitBy fun earlier later => earlier.kind == later.kind

/-- The turns that start a run. -/
def openers (turns : List (Brick α)) : List (Brick α) := (runs turns).filterMap List.head?

/-- A tick that completes nothing is no turn. -/
theorem turns_concat_of_absorbed (past : List (Taken α)) {taken : Taken α}
    (completes : taken.count = 0) : turns (past ++ [taken]) = turns past := by
  have none : turn? taken = none := if_pos completes
  rw [turns, List.filterMap_append, List.filterMap_cons_none none, List.filterMap_nil,
    List.append_nil]
  rfl

/-- A tick that completes bricks is a turn, at the newest of them. -/
theorem turns_concat_of_completing (past : List (Taken α)) {taken : Taken α} {brick : Brick α}
    (completes : taken.count ≠ 0) (newest : taken.chart.completed.back? = some brick) :
    turns (past ++ [taken]) = turns past ++ [brick] := by
  have some : turn? taken = some brick := (if_neg completes).trans newest
  rw [turns, List.filterMap_append, List.filterMap_cons_some some, List.filterMap_nil]
  rfl

/-- Every run has one first turn. -/
theorem length_openers (turns : List (Brick α)) :
    (openers turns).length = (runs turns).length := by
  have each (groups : List (List (Brick α))) (filled : [] ∉ groups) :
      (groups.filterMap List.head?).length = groups.length := by
    induction groups with
    | nil => rfl
    | cons group groups inductionHypothesis =>
        obtain ⟨nonempty, filledLater⟩ := not_or.mp (List.mem_cons.not.mp filled)
        have head := List.head?_eq_some_head (Ne.symm nonempty)
        rw [List.filterMap_cons_some head, List.length_cons, List.length_cons,
          inductionHypothesis filledLater]
  exact each _ (List.nil_notMem_splitBy _ turns)

/-- The last run starts with a turn of the kind of its last one. -/
theorem exists_last_run {turns : List (Brick α)} {last : Brick α}
    (final : turns.getLast? = some last) :
    ∃ groups group opener, runs turns = groups ++ [group ++ [last]] ∧
      (group ++ [last]).head? = some opener ∧ opener.kind = last.kind := by
  have nonempty : turns ≠ [] := fun nothing => by rw [nothing] at final; cases final
  obtain ⟨groups, group, other, split, final'⟩ :=
    Grouping.exists_last_group (fun earlier later => earlier.kind == later.kind) nonempty
  obtain rfl := Option.some.inj (final'.symm.trans final)
  refine ⟨groups, group, _, split, List.head?_eq_some_head (by simp), ?_⟩
  cases group with
  | nil => rfl
  | cons first group =>
      have chained := List.isChain_of_mem_splitBy
        (split ▸ List.mem_append_right groups (List.mem_singleton.mpr rfl))
      have same : (first :: (group ++ [other])).IsChain fun earlier later =>
          earlier.kind = later.kind := chained.imp fun _ _ => beq_iff_eq.mp
      have transitive : IsTrans (Brick α) fun earlier later => earlier.kind = later.kind :=
        ⟨fun _ _ _ => Eq.trans⟩
      exact same.rel_cons (by simp)

/-- The last run is of the kind of the last turn. -/
theorem exists_last_opener {turns : List (Brick α)} {last : Brick α}
    (final : turns.getLast? = some last) :
    ∃ earlier opener, openers turns = earlier ++ [opener] ∧ opener.kind = last.kind := by
  obtain ⟨groups, group, opener, split, head, same⟩ := exists_last_run final
  refine ⟨groups.filterMap List.head?, opener, ?_, same⟩
  rw [openers, split, List.filterMap_append, List.filterMap_cons_some head, List.filterMap_nil]

/-- A turn of the kind of the turn before it starts no run. -/
theorem openers_concat_of_same {turns : List (Brick α)} {last next : Brick α}
    (final : turns.getLast? = some last) (same : last.kind = next.kind) :
    openers (turns ++ [next]) = openers turns := by
  obtain ⟨groups, group, opener, split, head, -⟩ := exists_last_run final
  have joins : runs (turns ++ [next]) = groups ++ [group ++ [last] ++ [next]] :=
    Grouping.splitBy_concat_of_related split (beq_iff_eq.mpr same)
  have start : (group ++ [last] ++ [next]).head? = (group ++ [last]).head? := by
    cases group <;> rfl
  rw [openers, joins, openers, split, List.filterMap_append, List.filterMap_append,
    List.filterMap_cons_some (start.trans head), List.filterMap_cons_some head]

/-- Any other turn starts one. -/
theorem openers_concat_of_other {turns : List (Brick α)} {next : Brick α}
    (other : ∀ last ∈ turns.getLast?, last.kind ≠ next.kind) :
    openers (turns ++ [next]) = openers turns ++ [next] := by
  have starts : runs (turns ++ [next]) = runs turns ++ [[next]] :=
    Grouping.splitBy_concat_of_unrelated fun last final => beq_false_of_ne (other last final)
  rw [openers, starts, List.filterMap_append]
  rfl

/-- Runs that follow one another are of different kinds. -/
theorem isChain_openers (turns : List (Brick α)) :
    (openers turns).IsChain fun earlier later => earlier.kind ≠ later.kind := by
  induction turns using List.reverseRecOn with
  | nil => exact .nil
  | append_singleton turns next inductionHypothesis =>
      cases final : turns.getLast? with
      | none =>
          rw [List.getLast?_eq_none_iff.mp final]
          exact .singleton next
      | some last =>
          by_cases same : last.kind = next.kind
          · rw [openers_concat_of_same final same]
            exact inductionHypothesis
          · rw [openers_concat_of_other fun other among => by
              obtain rfl := Option.some.inj (among.symm.trans final)
              exact same]
            obtain ⟨earlier, opener, line, kind⟩ := exists_last_opener final
            refine List.isChain_append.mpr ⟨inductionHypothesis, .singleton next, ?_⟩
            intro previous before following head
            obtain rfl := Option.some.inj head
            rw [line, List.getLast?_concat] at before
            obtain rfl := Option.some.inj before
            exact kind ▸ same

end Turns

section Trades

variable {α : Type} [Scalar α]

/-- The position of a run: opened at its first turn, on the side that the kind of the turn asks for,
and unwound at a price. -/
def trade (slippage : α) (opener : Brick α) (exit : Option α) (closed : Bool) :
    Option (Position α) := do
  let side ← opener.kind.signal
  let exit ← exit
  let openPrice := side.fill opener.closePrice slippage
  let price := side.opposite.fill exit slippage
  return {
    date := opener.time
    side
    openPrice
    closePrice := if closed then some price else none
    currentPrice := price
    profit := match side with
      | .buy => price - openPrice
      | .sell => openPrice - price }

/-- One position for every run, in order. Each is closed at the close of the turn that starts the
next run; the last one is unwound at a given price, and closed if asked to. -/
def trades (slippage : α) (exit : Option α) (closed : Bool) :
    List (Brick α) → List (Option (Position α))
  | [] => []
  | [opener] => [trade slippage opener exit closed]
  | opener :: next :: later =>
    trade slippage opener (some next.closePrice) true ::
      trades slippage exit closed (next :: later)

/-- There is one trade for each opener. -/
theorem length_trades (slippage : α) (exit : Option α) (closed : Bool)
    (openers : List (Brick α)) :
    (trades slippage exit closed openers).length = openers.length := by
  induction openers with
  | nil => rfl
  | cons opener openers inductionHypothesis =>
      cases openers with
      | nil => rfl
      | cons next later => exact congrArg Nat.succ inductionHypothesis

/-- With a further run, the last position is closed where the next is opened. -/
theorem trades_concat (slippage : α) (exit : Option α) (closed : Bool)
    (earlier : List (Brick α)) (opener next : Brick α) :
    trades slippage exit closed (earlier ++ [opener, next]) =
      trades slippage (some next.closePrice) true (earlier ++ [opener]) ++
        [trade slippage next exit closed] := by
  induction earlier with
  | nil => rfl
  | cons first earlier inductionHypothesis =>
      cases earlier with
      | nil => rfl
      | cons second earlier => exact congrArg (List.cons _) inductionHypothesis

/-- How the last position is unwound leaves the earlier ones alone. -/
theorem exists_settled (slippage : α) (earlier : List (Brick α)) (opener : Brick α) :
    ∃ settled, ∀ exit closed, trades slippage exit closed (earlier ++ [opener]) =
      settled ++ [trade slippage opener exit closed] := by
  rcases List.eq_nil_or_concat' earlier with rfl | ⟨before, previous, rfl⟩
  · exact ⟨[], fun exit closed => rfl⟩
  · refine ⟨trades slippage (some opener.closePrice) true (before ++ [previous]), ?_⟩
    intro exit closed
    rw [List.append_assoc]
    exact trades_concat slippage exit closed before previous opener

/-- A position of a run is one that was opened and then priced. -/
theorem trade_eq_some_iff {slippage : α} {opener : Brick α} {exit : Option α} {closed : Bool}
    {position : Position α} :
    trade slippage opener exit closed = some position ↔
      ∃ side price, opener.kind.signal = some side ∧ exit = some price ∧
        position = (Position.opened opener.time side (side.fill opener.closePrice slippage)).update
          (side.opposite.fill price slippage) closed := by
  unfold trade
  cases opener.kind.signal with
  | none => exact iff_of_false (fun some => nomatch some) fun ⟨_, _, signals, _⟩ => nomatch signals
  | some side =>
      cases exit with
      | none =>
          exact iff_of_false (fun some => nomatch some) fun ⟨_, _, _, exits, _⟩ => nomatch exits
      | some price =>
          constructor
          · intro traded
            exact ⟨side, price, rfl, rfl, (Option.some.inj traded).symm⟩
          · rintro ⟨other, final, signals, exits, rfl⟩
            obtain rfl := Option.some.inj signals
            obtain rfl := Option.some.inj exits
            rfl

/-- Pricing an open position once more forgets what it was priced at. -/
theorem trade_markedOn {slippage : α} {opener : Brick α} {exit : Option α} {position : Position α}
    (traded : trade slippage opener exit false = some position) (brick : Brick α) (close : Bool) :
    trade slippage opener (some brick.closePrice) close =
      some (position.markedOn slippage brick close) := by
  obtain ⟨side, price, signals, -, rfl⟩ := trade_eq_some_iff.mp traded
  exact trade_eq_some_iff.mpr ⟨side, brick.closePrice, signals, rfl, rfl⟩

/-- A position opened at a turn is priced at it. -/
theorem trade_openedOn (slippage : α) {opener : Brick α} {side : Side}
    (signals : opener.kind.signal = some side) :
    trade slippage opener (some opener.closePrice) false =
      some (.openedOn slippage opener side) :=
  trade_eq_some_iff.mpr ⟨side, opener.closePrice, signals, rfl, rfl⟩

/-- A trade is on the side that its opener asks for. -/
theorem side_of_trade {slippage : α} {opener : Brick α} {exit : Option α} {closed : Bool}
    {position : Position α} (traded : trade slippage opener exit closed = some position) :
    opener.kind.signal = some position.side := by
  obtain ⟨side, price, signals, -, rfl⟩ := trade_eq_some_iff.mp traded
  exact signals

/-- Completed bricks ask for a side. -/
theorem exists_signal (direction : Direction) : ∃ side, direction.kind.signal = some side := by
  cases direction <;> exact ⟨_, rfl⟩

private theorem opposite_of_signal {first second : BrickKind} {side other : Side}
    (differ : first ≠ second)
    (signals : first.signal = some side) (signalsNext : second.signal = some other) :
    other = side.opposite := by
  cases first with
  | last => cases signals
  | up =>
      obtain rfl := Option.some.inj signals
      cases second with
      | last => cases signalsNext
      | up => exact absurd rfl differ
      | down => exact (Option.some.inj signalsNext).symm
  | down =>
      obtain rfl := Option.some.inj signals
      cases second with
      | last => cases signalsNext
      | up => exact (Option.some.inj signalsNext).symm
      | down => exact absurd rfl differ

/-- Positions of runs of different kinds are on opposite sides, and the earlier one is closed at
what the later one is opened at. -/
theorem trade_alternates {slippage : α} {opener next : Brick α} (differ : opener.kind ≠ next.kind)
    {exit : Option α} {closed : Bool} {earlier later : Position α}
    (before : trade slippage opener (some next.closePrice) true = some earlier)
    (after : trade slippage next exit closed = some later) :
    later.side = earlier.side.opposite ∧ earlier.closePrice = some later.openPrice := by
  obtain ⟨side, price, signals, same, rfl⟩ := trade_eq_some_iff.mp before
  obtain rfl := Option.some.inj same
  obtain ⟨other, final, signalsNext, -, rfl⟩ := trade_eq_some_iff.mp after
  obtain rfl := opposite_of_signal differ signals signalsNext
  exact ⟨rfl, rfl⟩

/-- How the position of a run is unwound depends on the later runs, and not on the slippage. -/
theorem exists_trades_cons (exit : Option α) (closed : Bool) (opener : Brick α)
    (later : List (Brick α)) : ∃ exit' closed', ∀ slippage,
      trades slippage exit closed (opener :: later) =
        trade slippage opener exit' closed' :: trades slippage exit closed later := by
  cases later with
  | nil => exact ⟨exit, closed, fun slippage => rfl⟩
  | cons next later => exact ⟨some next.closePrice, true, fun slippage => rfl⟩

/-- The positions of alternating runs alternate. -/
theorem isChain_of_map_some {slippage : α} {exit : Option α} {closed : Bool}
    {openers : List (Brick α)} {positions : List (Position α)}
    (traded : positions.map some = trades slippage exit closed openers)
    (differ : openers.IsChain fun earlier later => earlier.kind ≠ later.kind) :
    positions.IsChain fun earlier later =>
      later.side = earlier.side.opposite ∧ earlier.closePrice = some later.openPrice := by
  -- two neighbours are compared through the runs they belong to, so both lists are taken apart
  induction positions generalizing openers with
  | nil => exact .nil
  | cons position positions inductionHypothesis =>
      cases openers with
      | nil => cases traded
      | cons opener openers =>
          cases positions with
          | nil => exact .singleton position
          | cons following positions =>
              cases openers with
              | nil => exact absurd (congrArg List.length traded) (by simp [trades])
              | cons next openers =>
                  obtain ⟨apart, differLater⟩ := List.isChain_cons_cons.mp differ
                  obtain ⟨before, rest⟩ := List.cons.inj traded
                  obtain ⟨exit', closed', line⟩ := exists_trades_cons exit closed next openers
                  have after := (List.cons.inj (rest.trans (line slippage))).1
                  exact List.isChain_cons_cons.mpr
                    ⟨trade_alternates apart before.symm after.symm,
                      inductionHypothesis rest differLater⟩

end Trades

end Renko.Trades

/-! ## A book in step with its turns

A book that follows every turn has closed the positions of all runs but the last, and holds that of
the last one, priced at the last turn (`Renko.Book.Holds`). Another turn either prices the position
or turns it (`Renko.Book.Holds.follow`); at the end it can be closed at any brick
(`Renko.Book.Holds.close`).
-/

namespace Renko.Book

open Trades

variable {α : Type} [Scalar α]

/-- The positions of a book are those of the runs of some turns, and the last one is open. -/
structure Holds (book : Book α) (slippage : α) (turns : List (Brick α)) : Prop where
  charged : book.slippage = slippage
  positions : book.positions.map some =
    trades slippage (turns.getLast?.map (·.closePrice)) false (openers turns)
  held : turns ≠ [] → ∃ position, book.current = some position

variable {book : Book α} {slippage : α} {turns : List (Brick α)}

/-- Before the first turn a book has no positions. -/
theorem Holds.idle (holds : book.Holds slippage turns) (nothing : turns = []) :
    book.closed = #[] ∧ book.current = none := by
  subst nothing
  have none : book.positions = [] := List.map_eq_nil_iff.mp holds.positions
  obtain ⟨closed, current⟩ := List.append_eq_nil_iff.mp none
  exact ⟨Array.toList_eq_nil_iff.mp closed, Option.toList_eq_nil_iff.mp current⟩

/-- After a turn the open position is that of the last run, and the closed ones are settled. -/
theorem Holds.exists_open (holds : book.Holds slippage turns) {last : Brick α}
    (final : turns.getLast? = some last) :
    ∃ earlier opener position,
      openers turns = earlier ++ [opener] ∧ opener.kind = last.kind ∧
      book.current = some position ∧
      trade slippage opener (some last.closePrice) false = some position ∧
      ∀ exit closed, trades slippage exit closed (earlier ++ [opener]) =
        book.closed.toList.map some ++ [trade slippage opener exit closed] := by
  obtain ⟨earlier, opener, line, same⟩ := exists_last_opener final
  obtain ⟨settled, rows⟩ := exists_settled slippage earlier opener
  have nonempty : turns ≠ [] := List.ne_nil_of_mem (List.mem_of_getLast? final)
  obtain ⟨position, current⟩ := holds.held nonempty
  have positions := holds.positions
  rw [positions_of_held current, final, line, rows, List.map_append, List.map_singleton,
    Option.map_some] at positions
  obtain ⟨rfl, traded⟩ := List.append_inj' positions rfl
  exact ⟨earlier, opener, position, line, same, current, (List.singleton_inj.mp traded).symm, rows⟩

private theorem shown_current {position : Position α} (current : book.current = some position)
    (bricks : Array (Brick α)) (brick : Brick α) :
    (book.shown bricks brick).current = some (position.markedOn book.slippage brick false) := by
  rw [shown, current]
  rfl

variable {bricks : Array (Brick α)} {brick : Brick α} {side : Side}

/-- The first turn opens the first position. -/
theorem Holds.follow_first (holds : book.Holds slippage turns) (nothing : turns = [])
    (newest : bricks.back? = some brick) (signals : brick.kind.signal = some side) :
    ∃ next, (book.shown bricks brick).follow side = .ok next ∧ next.bricks = bricks ∧
      next.Holds slippage (turns ++ [brick]) := by
  obtain ⟨closed, idle⟩ := holds.idle nothing
  obtain rfl := holds.charged
  have idle' : (book.shown bricks brick).current = none := by rw [shown, idle]; rfl
  refine ⟨_, follow_of_idle idle' newest, rfl, rfl, ?_, fun _ => ⟨_, rfl⟩⟩
  have opens : trade book.slippage brick (some brick.closePrice) false =
      some (.openedOn book.slippage brick side) := trade_openedOn book.slippage signals
  rw [nothing]
  simp only [Book.positions, shown, closed]
  exact congrArg (· :: []) opens.symm

/-- A turn of the same kind prices the open position. -/
theorem Holds.follow_same (holds : book.Holds slippage turns) {last : Brick α}
    (final : turns.getLast? = some last) (same : last.kind = brick.kind)
    (signals : brick.kind.signal = some side) :
    ∃ next, (book.shown bricks brick).follow side = .ok next ∧ next.bricks = bricks ∧
      next.Holds slippage (turns ++ [brick]) := by
  obtain ⟨earlier, opener, position, starts, kind, current, traded, rows⟩ :=
    holds.exists_open final
  obtain rfl := holds.charged
  have priced := shown_current current bricks brick
  have wanted : position.side = side := by
    have aligned := side_of_trade traded
    rw [kind, same, signals] at aligned
    exact (Option.some.inj aligned).symm
  refine ⟨_, follow_of_same priced wanted, rfl, rfl, ?_, fun _ => ⟨_, priced⟩⟩
  rw [openers_concat_of_same final same, starts, rows, List.getLast?_concat, Option.map_some,
    trade_markedOn traded brick false, Book.positions, priced]
  simp only [shown, Option.toList_some, List.map_append, List.map_singleton]

/-- A turn of another kind closes the open position and opens one on the other side. -/
theorem Holds.follow_other (holds : book.Holds slippage turns) {last : Brick α}
    (final : turns.getLast? = some last) (other : last.kind ≠ brick.kind)
    (newest : bricks.back? = some brick) (signals : brick.kind.signal = some side) :
    ∃ next, (book.shown bricks brick).follow side = .ok next ∧ next.bricks = bricks ∧
      next.Holds slippage (turns ++ [brick]) := by
  obtain ⟨earlier, opener, position, starts, kind, current, traded, rows⟩ :=
    holds.exists_open final
  obtain rfl := holds.charged
  have priced := shown_current current bricks brick
  have unwanted : position.side ≠ side := by
    rw [opposite_of_signal (kind ▸ other) (side_of_trade traded) signals]
    cases position.side <;> simp [Side.opposite]
  have starting : openers (turns ++ [brick]) = earlier ++ [opener, brick] := by
    rw [openers_concat_of_other, starts, List.append_assoc]
    · rfl
    · intro previous among
      rw [final] at among
      exact Option.some.inj among ▸ other
  -- pricing the position at the turn before closing it there leaves no trace
  refine ⟨_, follow_of_other priced unwanted newest, rfl, rfl, ?_, fun _ => ⟨_, rfl⟩⟩
  rw [starting, trades_concat, rows, List.getLast?_concat, Option.map_some,
    trade_markedOn traded brick true, trade_openedOn book.slippage signals]
  simp only [Book.positions, shown, Array.toList_push, Option.toList_some, List.map_append,
    List.map_singleton]
  rfl

/-- A book that has seen the bricks of a turn and follows it stays in step. -/
theorem Holds.follow (holds : book.Holds slippage turns) (newest : bricks.back? = some brick)
    (signals : brick.kind.signal = some side) :
    ∃ next, (book.shown bricks brick).follow side = .ok next ∧ next.bricks = bricks ∧
      next.Holds slippage (turns ++ [brick]) := by
  cases final : turns.getLast? with
  | none => exact holds.follow_first (List.getLast?_eq_none_iff.mp final) newest signals
  | some last =>
      by_cases same : last.kind = brick.kind
      · exact holds.follow_same final same signals
      · exact holds.follow_other final same newest signals

/-- Closed at a brick, the last position is unwound at its close. -/
theorem Holds.close (holds : book.Holds slippage turns) (nonempty : turns ≠ []) (brick : Brick α) :
    ∃ closed, (book.addBrick brick).closePosition = .ok closed ∧
      closed.1.positions.map some =
        trades slippage (some brick.closePrice) true (openers turns) := by
  obtain ⟨earlier, opener, position, starts, -, current, traded, rows⟩ :=
    holds.exists_open (List.getLast?_eq_some_getLast nonempty)
  obtain rfl := holds.charged
  have priced : (book.addBrick brick).current =
      some (position.markedOn book.slippage brick false) := by
    rw [addBrick_current, current, Option.map_some]
  refine ⟨_, closePosition_of_held priced Array.back?_push, ?_⟩
  rw [starts, rows, trade_markedOn traded brick true]
  simp only [positions_of_idle, addBrick_closed, Array.toList_push, List.map_append,
    List.map_singleton]
  rfl

end Renko.Book
