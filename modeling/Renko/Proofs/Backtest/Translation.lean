import Mathlib
import Renko.Proofs.Backtest.Driver
import Renko.Proofs.Summary

/-! # Backtests in translation

What is traded can be written otherwise: prices in another quotation, or bricks and positions under
other labels. Where positions are opened, priced and turned alike (`Renko.Translation`), a book does
in translation what it does in the original (`Renko.Translation.follow_book`). So does a run, if its
charts are fed alike (`Renko.Translation.Feeds.foldlM_take_session`), and a whole backtest, if what
it reports is translated too (`Renko.Translation.Feeds.backtest`).
-/

namespace Renko

variable {α : Type} [Scalar α]

/-- Another way to write sizes, sides, bricks and positions, in which bricks ask for sides and price
positions as they do in the original. -/
structure Translation (α : Type) [Scalar α] where
  length : α → α
  side : Side → Side
  brick : Brick α → Brick α
  position : Position α → Position α
  side_eq_iff : ∀ first second, side first = side second ↔ first = second
  signal_brick : ∀ written, (brick written).kind.signal = written.kind.signal.map side
  side_position : ∀ held, (position held).side = side held.side
  isOpen_position : ∀ held, (position held).isOpen = held.isOpen
  profit_position : ∀ held, (position held).profit = length held.profit
  openedOn_brick : ∀ slippage written wanted,
    Position.openedOn (length slippage) (brick written) (side wanted) =
      position (.openedOn slippage written wanted)
  markedOn_brick : ∀ held slippage written close,
    (position held).markedOn (length slippage) (brick written) close =
      position (held.markedOn slippage written close)

namespace Translation

variable (translation : Translation α)

def book (book : Book α) : Book α where
  slippage := translation.length book.slippage
  bricks := book.bricks.map translation.brick
  closed := book.closed.map translation.position
  current := book.current.map translation.position

def chart (chart : Chart α) : Chart α where
  size := translation.length chart.size
  completed := chart.completed.map translation.brick
  current := chart.current.map translation.brick

def session (session : Session α) : Session α where
  chart := translation.chart session.chart
  book := translation.book session.book

def fault : TradeFault α → TradeFault α
  | .invalidBrickSize value => .invalidBrickSize (translation.length value)
  | .invalidSlippage value => .invalidSlippage (translation.length value)
  | other => other

/-- What can fail fails in translation too, for a fault on the translated value. -/
def outcome {β γ : Type} (translated : β → γ) :
    Except (TradeFault α) β → Except (TradeFault α) γ
  | .ok value => .ok (translated value)
  | .error fault => .error (translation.fault fault)

variable {translation} in
/-- Two runs in a row are translated one after the other. -/
theorem outcome_bind {β β' γ γ' : Type} {translated : β → β'} {translatedNext : γ → γ'}
    {run : Except (TradeFault α) β} {next : β → Except (TradeFault α) γ}
    {next' : β' → Except (TradeFault α) γ'}
    (alike : ∀ value, run = .ok value →
      next' (translated value) = translation.outcome translatedNext (next value)) :
    (translation.outcome translated run >>= next') =
      translation.outcome translatedNext (run >>= next) := by
  cases run with
  | error fault => rfl
  | ok value => exact alike value rfl

section Books

/-- A brick is noted alike in translation. -/
theorem addBrick_book (book : Book α) (brick : Brick α) :
    (translation.book book).addBrick (translation.brick brick) =
      translation.book (book.addBrick brick) := by
  obtain ⟨slippage, bricks, closed, current⟩ := book
  cases current with
  | none => simp only [Translation.book, Book.addBrick, Array.map_push, Option.map_none]
  | some position =>
      simp only [Translation.book, Book.addBrick, Array.map_push, Option.map_some,
        translation.markedOn_brick]

private theorem foldl_addBrick_book (book : Book α) (bricks : Array (Brick α)) :
    (bricks.map translation.brick).foldl Book.addBrick (translation.book book) =
      translation.book (bricks.foldl Book.addBrick book) := by
  rw [Array.foldl_map]
  exact Array.foldl_hom translation.book (translation.addBrick_book)

private theorem back?_book (book : Book α) :
    (translation.book book).bricks.back? = book.bricks.back?.map translation.brick :=
  Array.back?_map

/-- A position is opened alike in translation, or refused alike. -/
theorem openPosition_book (book : Book α) (side : Side) :
    (translation.book book).openPosition (translation.side side) =
      translation.outcome (Prod.map translation.book translation.position)
        (book.openPosition side) := by
  have seen := translation.back?_book book
  cases current : book.current with
  | some position =>
      have held : (translation.book book).current = some (translation.position position) :=
        congrArg (Option.map translation.position) current
      simp only [Book.openPosition, current, held]
      rfl
  | none =>
      have idle : (translation.book book).current = none :=
        congrArg (Option.map translation.position) current
      cases newest : book.bricks.back? with
      | none =>
          rw [newest, Option.map_none] at seen
          simp only [Book.openPosition, current, idle, newest, seen]
          rfl
      | some brick =>
          rw [newest, Option.map_some] at seen
          have opened := translation.openedOn_brick book.slippage brick side
          have charged : (translation.book book).slippage = translation.length book.slippage := rfl
          rw [Book.openPosition_of_idle current newest, Book.openPosition_of_idle idle seen]
          simp only [charged, opened]
          rfl

private theorem priced_book (book : Book α) (position : Position α) (close : Bool) :
    (translation.book book).priced (translation.position position) close =
      translation.position (book.priced position close) := by
  have seen := translation.back?_book book
  cases newest : book.bricks.back? with
  | none =>
      rw [newest, Option.map_none] at seen
      simp only [Book.priced, newest, seen]
  | some brick =>
      rw [newest, Option.map_some] at seen
      simp only [Book.priced, newest, seen]
      exact translation.markedOn_brick position book.slippage brick close

/-- A position is closed alike in translation, or refused alike. -/
theorem closePosition_book (book : Book α) :
    (translation.book book).closePosition =
      translation.outcome (Prod.map translation.book translation.position)
        book.closePosition := by
  cases current : book.current with
  | none =>
      have idle : (translation.book book).current = none :=
        congrArg (Option.map translation.position) current
      simp only [Book.closePosition, current, idle]
      rfl
  | some position =>
      have held : (translation.book book).current = some (translation.position position) :=
        congrArg (Option.map translation.position) current
      simp only [Book.closePosition, current, held, priced_book]
      simp only [Translation.outcome, Prod.map, Translation.book, Array.map_push, Option.map_none]

/-- A book follows a side in translation as it does in the original. -/
theorem follow_book (book : Book α) (side : Side) :
    (translation.book book).follow (translation.side side) =
      translation.outcome translation.book (book.follow side) := by
  have opens (book : Book α) :
      ((translation.book book).openPosition (translation.side side) >>= fun opened =>
          pure opened.1) =
        translation.outcome translation.book
          (book.openPosition side >>= fun opened => pure opened.1) := by
    rw [openPosition_book]
    exact outcome_bind fun opened _ => rfl
  cases current : book.current with
  | none =>
      have idle : (translation.book book).current = none :=
        congrArg (Option.map translation.position) current
      simp only [Book.follow, current, idle]
      exact opens book
  | some position =>
      have held : (translation.book book).current = some (translation.position position) :=
        congrArg (Option.map translation.position) current
      have same : (translation.position position).side = translation.side side ↔
          position.side = side := by
        rw [translation.side_position, translation.side_eq_iff]
      simp only [Book.follow, current, held, same]
      by_cases wanted : position.side = side
      · rw [if_pos wanted, if_pos wanted]
        rfl
      · rw [if_neg wanted, if_neg wanted, closePosition_book]
        exact outcome_bind fun closed _ => opens closed.1

/-- The positions of a book are translated one by one. -/
theorem positions_book (book : Book α) :
    (translation.book book).positions = book.positions.map translation.position := by
  rw [Book.positions, Book.positions, List.map_append, Translation.book, Array.toList_map,
    Option.toList_map]

/-- The profits of positions are translated one by one. -/
theorem profits_map (positions : List (Position α)) :
    Summary.profits (positions.map translation.position) =
      (Summary.profits positions).map translation.length := by
  have status : ((!·.isOpen) ∘ translation.position : Position α → Bool) = (!·.isOpen) := by
    funext position
    exact congrArg (!·) (translation.isOpen_position position)
  have earned : (·.profit) ∘ translation.position = translation.length ∘ (·.profit) := by
    funext position
    exact translation.profit_position position
  rw [Summary.profits, List.filter_map, status, List.map_map, earned, Summary.profits,
    List.map_map]

end Books

section Runs

/-- The bricks of a chart are translated one by one. -/
theorem bricks_chart (chart : Chart α) :
    (translation.chart chart).bricks = chart.bricks.map translation.brick := by
  rw [Chart.bricks, Chart.bricks, List.map_append, Translation.chart, Array.toList_map,
    Option.toList_map]

/-- A chart takes a tick in translation as in the original if its current brick does. -/
theorem take_chart {tick : Tick α → Tick α} {original : Tick α} {chart : Chart α}
    (provisional : translation.brick (.provisional original) = .provisional (tick original))
    (advances : ∀ brick ∈ chart.current,
      (translation.brick brick).advance (translation.length chart.size) (tick original) =
        ⟨(brick.advance chart.size original).completed.map translation.brick,
          translation.brick (brick.advance chart.size original).current⟩) :
    (translation.chart chart).take (tick original) =
      Prod.map translation.chart id (chart.take original) := by
  obtain ⟨size, completed, current⟩ := chart
  cases current with
  | none =>
      simp only [Translation.chart, Chart.take, Option.map_none, Option.map_some, provisional,
        Prod.map, id_eq]
  | some brick =>
      simp only [Translation.chart, Chart.take, Option.map_some, advances brick rfl,
        Array.map_append, Array.size_map, Prod.map, id_eq]

/-- A feeding at a translated size is refused or taken as the original one is. -/
theorem feed_chart {tick : Tick α → Tick α} {original : Tick α} {chart : Chart α}
    (checks : ∀ size, checkBrickSize (translation.length size) =
      translation.outcome translation.length (checkBrickSize size))
    (takes : ∀ size, (translation.chart { chart with size }).take (tick original) =
      Prod.map translation.chart id (({ chart with size } : Chart α).take original))
    (resize : Option α) :
    (translation.chart chart).feed (tick original) (resize.map translation.length) =
      translation.outcome (Prod.map translation.chart id) (chart.feed original resize) := by
  cases resize with
  | none => exact congrArg Except.ok (takes chart.size)
  | some size =>
      rw [Option.map_some, Chart.feed, Chart.feed, checks]
      exact outcome_bind fun checked _ => congrArg Except.ok (takes checked)

/-- Trading on a chart is translated as the chart and the book are. -/
theorem tradeOn_book (book : Book α) (chart : Chart α) (count : Nat) :
    Session.tradeOn (translation.book book) (translation.chart chart) count =
      translation.outcome translation.session (Session.tradeOn book chart count) := by
  have added : (translation.chart chart).completed.extract
        ((translation.chart chart).completed.size - count) =
      (chart.completed.extract (chart.completed.size - count)).map translation.brick := by
    simp only [Translation.chart, Array.size_map, Array.map_extract]
  have wanted : (translation.chart chart).completed.back?.bind (·.kind.signal) =
      (chart.completed.back?.bind (·.kind.signal)).map translation.side := by
    rw [Translation.chart, Array.back?_map]
    cases chart.completed.back? with
    | none => rfl
    | some newest => exact translation.signal_brick newest
  simp only [Session.tradeOn, added, foldl_addBrick_book, wanted]
  by_cases completes : count = 0
  · rw [if_pos completes, if_pos completes]
    rfl
  · rw [if_neg completes, if_neg completes]
    cases chart.completed.back?.bind (·.kind.signal) with
    | none => rfl
    | some side =>
        simp only [Option.map_some, follow_book]
        exact outcome_bind fun book _ => rfl

/-- Charts take translated ticks, at the sizes of a translated schedule, as they take the original
ones. -/
def Feeds (tick : Tick α → Tick α) (schedule translated : Option (Schedule α)) : Prop :=
  ∀ ⦃chart : Chart α⦄ ⦃past : List (Taken α)⦄, chart.Grown past → ∀ original,
    Chart.feedScheduled translated (translation.chart chart) (tick original) =
      translation.outcome (Prod.map translation.chart id)
        (Chart.feedScheduled schedule chart original)

variable {translation} {tick : Tick α → Tick α} {schedule translated : Option (Schedule α)}

/-- **One tick of a run in translation.** It does to the run what it does in the original. -/
theorem Feeds.take_session (feeds : translation.Feeds tick schedule translated)
    {session : Session α} {past : List (Taken α)} (grown : session.chart.Grown past)
    (original : Tick α) :
    (translation.session session).take translated (tick original) =
      translation.outcome translation.session (session.take schedule original) := by
  rw [Session.take_eq, Session.take_eq]
  change (Chart.feedScheduled _ (translation.chart session.chart) _ >>= _) = _
  rw [feeds grown]
  exact outcome_bind fun answer _ => translation.tradeOn_book session.book answer.1 answer.2

/-- Ticks in a row do in translation what they do in the original. -/
theorem Feeds.foldlM_take_session [Scalar.Directed α]
    (feeds : translation.Feeds tick schedule translated) {session : Session α}
    {past : List (Taken α)} (grown : session.chart.Grown past) (ticks : List (Tick α)) :
    (ticks.map tick).foldlM (Session.take translated) (translation.session session) =
      translation.outcome translation.session (ticks.foldlM (Session.take schedule) session) := by
  induction ticks generalizing session past with
  | nil => rfl
  | cons original ticks inductionHypothesis =>
      rw [List.map_cons, List.foldlM_cons, List.foldlM_cons, feeds.take_session grown]
      apply outcome_bind
      intro next took
      obtain ⟨count, requests, fed, -⟩ := Session.exists_requests_of_take took
      exact inductionHypothesis (grown.step (grown.step_of_feed fed))

variable (translation) in
/-- A session is closed alike in translation. -/
theorem close_session (session : Session α) :
    (translation.session session).close =
      translation.outcome translation.session session.close := by
  obtain ⟨chart, book⟩ := session
  have held : (translation.book book).current.isNone = book.current.isNone := Option.isNone_map
  have shown :
      (translation.chart chart).current.toList.foldl Book.addBrick (translation.book book) =
        translation.book (chart.current.toList.foldl Book.addBrick book) := by
    cases current : chart.current with
    | none =>
        simp only [Translation.chart, current, Option.map_none]
        rfl
    | some brick =>
        simp only [Translation.chart, current, Option.map_some]
        exact translation.addBrick_book book brick
  simp only [Session.close, Translation.session, held, shown, closePosition_book]
  split
  · rfl
  · exact outcome_bind fun closed _ => rfl

variable (translation) in
/-- **Backtests in translation.** What starts, feeds its charts and reports in translation as in the
original leaves the same outcome, translated. -/
theorem Feeds.backtest [Scalar.Directed α]
    (feeds : translation.Feeds tick schedule translated) {setup other : BacktestSetup α}
    (starts : Session.start other =
      translation.outcome translation.session (Session.start setup))
    (closes : other.closeAtEnd = setup.closeAtEnd)
    {report : BacktestResult α → BacktestResult α}
    (reports : ∀ session, (translation.session session).result = report session.result)
    (ticks : List (Tick α)) :
    backtest other translated (ticks.map tick) =
      translation.outcome report (backtest setup schedule ticks) := by
  rw [backtest_eq, backtest_eq, starts, closes]
  apply outcome_bind
  intro first started
  obtain ⟨validSize, -, rfl⟩ := Session.start_eq_ok.mp started
  rw [feeds.foldlM_take_session (.empty validSize)]
  apply outcome_bind
  intro session took
  have ends : (if setup.closeAtEnd then (translation.session session).close
      else pure (translation.session session)) =
        translation.outcome translation.session
          (if setup.closeAtEnd then session.close else pure session) := by
    rw [close_session]
    split <;> rfl
  rw [ends]
  exact outcome_bind fun final _ => congrArg Except.ok (reports final)

end Runs

end Translation

end Renko
