import Mathlib
import Renko.Proofs.Backtest.Driver
import Renko.Proofs.Backtest.Translation

/-! # Backtests of ticks with other labels

A chart decides by prices alone. The time and the volume of a tick are labels that its bricks carry
along: ticks with the same prices under other labels make the same bricks under the other labels
(`Renko.Relabelling.advance_brick`). Volumes are added up, so a change of labels has to respect
sums; to erase all volumes is such a change. A book takes over times, and a schedule looks at them;
where it finds the same sizes at the other times, ticks under other labels leave the same result
under those labels (`Renko.Relabelling.backtest_map`). So two runs on the same prices differ in
nothing but the labels they hand through (`Renko.backtests_heed_prices`).
-/

namespace Renko

variable {α : Type} [Scalar α]

/-- Other times and other volumes, where the volumes of sums are the sums of the volumes. -/
structure Relabelling (α : Type) [Scalar α] where
  time : Instant → Instant
  volume : α → α
  volume_zero : volume 0 = 0
  volume_add : ∀ first second, volume (first + second) = volume first + volume second

namespace Relabelling

variable (relabelling : Relabelling α)

def tick (tick : Tick α) : Tick α :=
  { tick with time := relabelling.time tick.time, volume := relabelling.volume tick.volume }

def brick (brick : Brick α) : Brick α :=
  { brick with time := relabelling.time brick.time, volume := relabelling.volume brick.volume }

/-- A tick is absorbed alike under other labels. -/
theorem brick_absorb (brick : Brick α) (tick : Tick α) :
    relabelling.brick (brick.absorb tick) =
      (relabelling.brick brick).absorb (relabelling.tick tick) := by
  simp only [Relabelling.brick, Relabelling.tick, Brick.absorb, relabelling.volume_add]

/-- A brick is completed alike under other labels. -/
theorem brick_complete (brick : Brick α) (direction : Direction) (size : α) :
    relabelling.brick (brick.complete direction size) =
      (relabelling.brick brick).complete direction size := by
  cases direction <;> rfl

/-- A synthetic brick has no volume under any labels. -/
theorem brick_synthetic (time : Instant) (direction : Direction) (size anchor : α) :
    relabelling.brick (.synthetic time direction size anchor) =
      .synthetic (relabelling.time time) direction size anchor := by
  simp only [Relabelling.brick, Brick.synthetic, relabelling.volume_zero]

/-- The brick that follows completed ones opens alike under other labels. -/
theorem brick_following (tick : Tick α) (anchor : α) :
    relabelling.brick (.following tick anchor) = .following (relabelling.tick tick) anchor :=
  rfl

/-- The first brick of a chart opens alike under other labels. -/
theorem brick_provisional (tick : Tick α) :
    relabelling.brick (.provisional tick) = .provisional (relabelling.tick tick) :=
  rfl

private theorem brick_absorbNear (brick : Brick α) (size : α) (tick : Tick α) :
    relabelling.brick (brick.absorbNear size tick) =
      (relabelling.brick brick).absorbNear size (relabelling.tick tick) := by
  rw [Brick.absorbNear, apply_ite relabelling.brick, brick_absorb]
  rfl

private theorem brick_finished (brick : Brick α) (direction : Direction) (size : α) :
    relabelling.brick (brick.finished direction size) =
      (relabelling.brick brick).finished direction size := by
  rw [Brick.finished, apply_ite relabelling.brick, brick_complete]
  rfl

private theorem extend_map_brick (time : Instant) (direction : Direction) (size : α) (count : Nat)
    (bricks : Array (Brick α)) (anchor : α) :
    Brick.extend (relabelling.time time) direction size count
        (bricks.map relabelling.brick, anchor) =
      ((Brick.extend time direction size count (bricks, anchor)).1.map relabelling.brick,
        (Brick.extend time direction size count (bricks, anchor)).2) := by
  induction count generalizing bricks anchor with
  | zero => rfl
  | succ count inductionHypothesis =>
      rw [Brick.extend, Brick.extend, ← brick_synthetic, ← Array.map_push, ← inductionHypothesis]
      rfl

/-- **One tick under other labels.** It does to the current brick what it does under the first
ones. -/
theorem advance_brick (brick : Brick α) (size : α) (tick : Tick α) :
    (relabelling.brick brick).advance size (relabelling.tick tick) =
      ⟨(brick.advance size tick).completed.map relabelling.brick,
        relabelling.brick (brick.advance size tick).current⟩ := by
  simp only [Brick.advance, ← brick_absorbNear]
  generalize brick.absorbNear size tick = near
  -- the kind and the open of a brick are no labels, so both measure the same steps
  have kind : (relabelling.brick near).kind = near.kind := rfl
  have openPrice : (relabelling.brick near).openPrice = near.openPrice := rfl
  have price : (relabelling.tick tick).price = tick.price := rfl
  simp only [kind, openPrice, price]
  generalize Direction.against near.kind near.openPrice tick.price = direction
  cases Scalar.wholeSteps (direction.distance near.openPrice tick.price) size with
  | zero => simp only [Array.map_empty]
  | succ further =>
      have first := relabelling.brick_finished near direction size
      have close : ((relabelling.brick near).finished direction size).closePrice =
          (near.finished direction size).closePrice := by
        rw [← first]
        rfl
      have extended := relabelling.extend_map_brick tick.time direction size further
        #[near.finished direction size] (near.finished direction size).closePrice
      rw [List.map_toArray, List.map_singleton, first] at extended
      have time : (relabelling.tick tick).time = relabelling.time tick.time := rfl
      simp only [time, close, extended, brick_following]

def position (position : Position α) : Position α :=
  { position with date := relabelling.time position.date }

/-- What the positions earned is no label. -/
def result (result : BacktestResult α) : BacktestResult α where
  bricks := result.bricks.map relabelling.brick
  positions := result.positions.map relabelling.position
  summary := result.summary

/-- Of the labels of its bricks a book takes over the time at which a position is opened, and none
of them decides anything. -/
def translation : Translation α where
  length := id
  side := id
  brick := relabelling.brick
  position := relabelling.position
  side_eq_iff _ _ := Iff.rfl
  signal_brick _ := Option.map_id_apply.symm
  side_position _ := rfl
  isOpen_position _ := rfl
  profit_position _ := rfl
  openedOn_brick _ _ _ := rfl
  markedOn_brick _ _ _ _ := rfl

/-- No fault is a label. -/
theorem outcome_translation {β γ : Type} (read : β → γ) (run : Except (TradeFault α) β) :
    relabelling.translation.outcome read run = read <$> run := by
  cases run with
  | ok value => rfl
  | error fault => cases fault <;> rfl

/-- A schedule that puts the same sizes in force at the other times. -/
def Suits (schedule : Option (Schedule α)) : Prop :=
  ∀ time, schedule.bind (·.sizeAt (relabelling.time time)) = schedule.bind (·.sizeAt time)

variable {relabelling} in
/-- A chart takes a tick alike under all labels, and is refused alike. -/
theorem Suits.feeds {schedule : Option (Schedule α)} (suits : relabelling.Suits schedule) :
    relabelling.translation.Feeds relabelling.tick schedule schedule := by
  intro chart past grown tick
  have checks (size : α) : checkBrickSize (relabelling.translation.length size) =
      relabelling.translation.outcome relabelling.translation.length (checkBrickSize size) := by
    rw [outcome_translation]
    exact (id_map _).symm
  have takes (size : α) :
      (relabelling.translation.chart { chart with size }).take (relabelling.tick tick) =
        Prod.map relabelling.translation.chart id (({ chart with size } : Chart α).take tick) :=
    relabelling.translation.take_chart (relabelling.brick_provisional tick) fun brick _ =>
      relabelling.advance_brick brick size tick
  have fed := relabelling.translation.feed_chart checks takes (schedule.bind (·.sizeAt tick.time))
  have same : (schedule.bind (·.sizeAt tick.time)).map relabelling.translation.length =
      schedule.bind (·.sizeAt (relabelling.time tick.time)) := by
    rw [suits tick.time]
    exact Option.map_id_apply
  rw [same] at fed
  exact fed

/-- The result of a session is relabelled as its chart and its book are. -/
theorem result_session (session : Session α) :
    (relabelling.translation.session session).result = relabelling.result session.result := by
  have bricks := relabelling.translation.bricks_chart session.chart
  have positions := relabelling.translation.positions_book session.book
  have summary (positions : List (Position α)) :
      Summary.ofPositions (positions.map relabelling.position) = .ofPositions positions := by
    have earned := relabelling.translation.profits_map positions
    rw [Summary.ofPositions_eq, Summary.ofPositions_eq]
    exact congrArg _ (congrArg _ (earned.trans (List.map_id _)))
  simp only [Session.result, Translation.session, bricks, positions]
  exact congrArg _ (summary session.book.positions)

variable {relabelling} in
/-- **Labels decide nothing.** Ticks under other labels leave the same result under those labels, if
the schedule gives the same sizes at the other times. -/
theorem backtest_map [Scalar.Directed α] {schedule : Option (Schedule α)}
    (suits : relabelling.Suits schedule) (setup : BacktestSetup α) (ticks : List (Tick α)) :
    backtest setup schedule (ticks.map relabelling.tick) =
      relabelling.result <$> backtest setup schedule ticks := by
  rw [← outcome_translation]
  apply suits.feeds.backtest relabelling.translation ?_ rfl relabelling.result_session
  cases started : Session.start setup with
  | error fault => exact (relabelling.outcome_translation _ (.error fault)).symm
  | ok first =>
      obtain ⟨-, -, rfl⟩ := Session.start_eq_ok.mp started
      simp [Translation.outcome, Translation.session, Translation.chart, Translation.book,
        translation]

variable {relabelling} in
/-- Two runs on ticks that differ in labels only leave results that differ in labels only. -/
theorem exists_results [Scalar.Directed α] {schedule : Option (Schedule α)}
    (suits : relabelling.Suits schedule) {setup : BacktestSetup α} {ticks others : List (Tick α)}
    (alike : ticks.map relabelling.tick = others.map relabelling.tick)
    (validSize : validBrickSize setup.brickSize = true)
    (validCharge : validSlippage setup.slippage = true)
    (permitted : ∀ time, ∀ size ∈ schedule.bind (·.sizeAt time), validBrickSize size = true) :
    ∃ one other, backtest setup schedule ticks = .ok one ∧
      backtest setup schedule others = .ok other ∧
      relabelling.result one = relabelling.result other := by
  obtain ⟨one, ended, -⟩ := exists_result validSize validCharge permitted ticks
  obtain ⟨other, endedOther, -⟩ := exists_result validSize validCharge permitted others
  have same := backtest_map suits setup ticks
  rw [alike, backtest_map suits setup others, ended, endedOther] at same
  exact ⟨one, other, ended, endedOther, (Except.ok.inj same).symm⟩

/-- All volumes erased, and other times. -/
def erased (zero : (0 : α) + 0 = 0) (time : Instant → Instant) : Relabelling α where
  time := time
  volume _ := 0
  volume_zero := rfl
  volume_add _ _ := zero.symm

end Relabelling

/-- Lists that a map does not tell apart. -/
theorem map_eq_map_iff_forall₂ {β γ : Type} {read : β → γ} {items others : List β} :
    items.map read = others.map read ↔
      List.Forall₂ (fun item other => read item = read other) items others := by
  rw [← List.forall₂_eq_eq_eq, List.forall₂_map_left_iff, List.forall₂_map_right_iff]

namespace BacktestResult

/-- Results that differ in the volumes of their bricks, and in nothing else. -/
structure SameButVolumes (one other : BacktestResult α) : Prop where
  bricks : List.Forall₂ (fun brick changed => changed = { brick with volume := changed.volume })
    one.bricks other.bricks
  positions : other.positions = one.positions
  summary : other.summary = one.summary

/-- Results that differ in the times and volumes of their bricks and in the dates of their
positions, and in nothing else. -/
structure SameButLabels (one other : BacktestResult α) : Prop where
  bricks : List.Forall₂ (fun brick changed =>
    changed = { brick with time := changed.time, volume := changed.volume }) one.bricks other.bricks
  positions : List.Forall₂ (fun position changed =>
    changed = { position with date := changed.date }) one.positions other.positions
  summary : other.summary = one.summary

variable {one other : BacktestResult α} {zero : (0 : α) + 0 = 0}

private theorem sameButVolumes_of_erased (same : (Relabelling.erased zero id).result one =
    (Relabelling.erased zero id).result other) : one.SameButVolumes other := by
  rw [Relabelling.result, Relabelling.result, mk.injEq] at same
  obtain ⟨bricks, positions, summary⟩ := same
  have undated : (Relabelling.erased zero id).position = id := rfl
  rw [undated, List.map_id, List.map_id] at positions
  refine ⟨(map_eq_map_iff_forall₂.mp bricks).imp fun brick changed alike => ?_, positions.symm,
    summary.symm⟩
  exact congrArg (fun blank : Brick α => { blank with volume := changed.volume }) alike.symm

private theorem sameButLabels_of_erased {moment : Instant}
    (same : (Relabelling.erased zero fun _ => moment).result one =
      (Relabelling.erased zero fun _ => moment).result other) : one.SameButLabels other := by
  rw [Relabelling.result, Relabelling.result, mk.injEq] at same
  obtain ⟨bricks, positions, summary⟩ := same
  refine ⟨(map_eq_map_iff_forall₂.mp bricks).imp fun brick changed alike => ?_,
    (map_eq_map_iff_forall₂.mp positions).imp fun position changed alike => ?_, summary.symm⟩
  · exact congrArg (fun blank : Brick α =>
      { blank with time := changed.time, volume := changed.volume }) alike.symm
  · exact congrArg (fun blank : Position α => { blank with date := changed.date }) alike.symm

end BacktestResult

variable {setup : BacktestSetup Float} {ticks others : List (Tick Float)}

private theorem float_zero_add_zero : (0 : Float) + 0 = 0 := by decide +kernel

private theorem exists_sameButVolumes (validSize : validBrickSize setup.brickSize = true)
    (validCharge : validSlippage setup.slippage = true) {schedule : Option (Schedule Float)}
    (built : ∀ table ∈ schedule, ∃ entries, Schedule.ofEntries entries = .ok table)
    (agree : List.Forall₂ (fun tick other => tick.time = other.time ∧ tick.price = other.price)
      ticks others) :
    ∃ one other, backtest setup schedule ticks = .ok one ∧
      backtest setup schedule others = .ok other ∧ one.SameButVolumes other := by
  have alike : ticks.map (Relabelling.erased float_zero_add_zero id).tick =
      others.map (Relabelling.erased float_zero_add_zero id).tick := by
    refine map_eq_map_iff_forall₂.mpr (agree.imp fun tick other same => ?_)
    simp only [Relabelling.tick, Relabelling.erased, same.1, same.2]
  obtain ⟨one, other, ended, endedOther, same⟩ := Relabelling.exists_results (fun _ => rfl) alike
    validSize validCharge (Schedule.valid_of_built built)
  exact ⟨one, other, ended, endedOther, BacktestResult.sameButVolumes_of_erased same⟩

/-- Without a schedule no time is looked at, so that all times may be taken for one. -/
theorem exists_sameButLabels (validSize : validBrickSize setup.brickSize = true)
    (validCharge : validSlippage setup.slippage = true)
    (agree : List.Forall₂ (fun tick other => tick.price = other.price) ticks others) :
    ∃ one other, backtest setup none ticks = .ok one ∧
      backtest setup none others = .ok other ∧ one.SameButLabels other := by
  let timeless : Relabelling Float := .erased float_zero_add_zero fun _ => .ofMillis 0
  have alike : ticks.map timeless.tick = others.map timeless.tick := by
    refine map_eq_map_iff_forall₂.mpr (agree.imp fun tick other same => ?_)
    simp only [timeless, Relabelling.tick, Relabelling.erased, same]
  have suits : timeless.Suits none := fun _ => rfl
  have permitted (time : Instant) :
      ∀ size ∈ (none : Option (Schedule Float)).bind (·.sizeAt time),
        validBrickSize size = true := by
    intro size absent
    cases absent
  obtain ⟨one, other, ended, endedOther, same⟩ := Relabelling.exists_results suits alike
    validSize validCharge permitted
  exact ⟨one, other, ended, endedOther, BacktestResult.sameButLabels_of_erased same⟩

/-- **Backtests heed prices.** With a schedule or none, two runs on ticks of the same times and
prices make the same trades, and their bricks differ in their volumes only. Without a schedule it is
enough that the prices are the same: then times and dates may differ too, and nothing else does. -/
theorem backtests_heed_prices (setup : BacktestSetup Float) (ticks others : List (Tick Float))
    (validSize : validBrickSize setup.brickSize = true)
    (validCharge : validSlippage setup.slippage = true) :
    (∀ schedule : Option (Schedule Float),
      (∀ table ∈ schedule, ∃ entries, Schedule.ofEntries entries = .ok table) →
      List.Forall₂ (fun tick other => tick.time = other.time ∧ tick.price = other.price)
        ticks others →
      ∃ one other, backtest setup schedule ticks = .ok one ∧
        backtest setup schedule others = .ok other ∧ one.SameButVolumes other) ∧
    (List.Forall₂ (fun tick other => tick.price = other.price) ticks others →
      ∃ one other, backtest setup none ticks = .ok one ∧
        backtest setup none others = .ok other ∧ one.SameButLabels other) := by
  constructor
  · intro schedule built agree
    exact exists_sameButVolumes validSize validCharge built agree
  · intro agree
    exact exists_sameButLabels validSize validCharge agree

/-- A rise and a fall at other volumes, and then at other times too. -/
theorem backtests_heed_prices_of_rise_and_fall :
    let setup : BacktestSetup Float := ⟨"TEST", 1, 0.25, true⟩
    let table : Schedule Float := ⟨[⟨.ofMillis 1, 0.5⟩]⟩
    let tick (ms : Int) (price volume : Float) : Tick Float := ⟨.ofMillis ms, price, volume⟩
    let ticks := [tick 0 100 1, tick 2 102.5 1, tick 3 101.25 1]
    let heavier := [tick 0 100 2, tick 2 102.5 0.5, tick 3 101.25 7]
    let earlier := [tick 5 100 2, tick 4 102.5 1, tick 0 101.25 7]
    let trades (ended : Except (TradeFault Float) (BacktestResult Float)) :=
      ended.toOption.map fun result =>
        (result.bricks.map (·.kind), result.positions.map (·.side))
    validBrickSize setup.brickSize = true ∧ validSlippage setup.slippage = true ∧
      (∀ scheduled ∈ some table, ∃ entries, Schedule.ofEntries entries = .ok scheduled) ∧
      List.Forall₂ (fun tick other => tick.time = other.time ∧ tick.price = other.price)
        ticks heavier ∧
      List.Forall₂ (fun tick other => tick.price = other.price) ticks earlier ∧
      (∃ one other, backtest setup (some table) ticks = .ok one ∧
        backtest setup (some table) heavier = .ok other ∧ one.SameButVolumes other) ∧
      trades (backtest setup (some table) ticks) =
        some ([.up, .up, .up, .up, .up, .down, .down, .last], [.buy, .sell]) ∧
      (∃ one other, backtest setup none ticks = .ok one ∧
        backtest setup none earlier = .ok other ∧ one.SameButLabels other) ∧
      trades (backtest setup none ticks) = some ([.up, .up, .last], [.buy]) := by
  intro setup table tick ticks heavier earlier trades
  have validSize : validBrickSize setup.brickSize = true := by decide +kernel
  have validCharge : validSlippage setup.slippage = true := by decide +kernel
  have built : ∀ scheduled ∈ some table, ∃ entries, Schedule.ofEntries entries = .ok scheduled :=
    Schedule.built_of_ordered (by decide +kernel) (by decide +kernel)
  have agree : List.Forall₂ (fun tick other => tick.time = other.time ∧ tick.price = other.price)
      ticks heavier :=
    .cons ⟨rfl, rfl⟩ (.cons ⟨rfl, rfl⟩ (.cons ⟨rfl, rfl⟩ .nil))
  have priced : List.Forall₂ (fun tick other => tick.price = other.price) ticks earlier :=
    .cons rfl (.cons rfl (.cons rfl .nil))
  exact ⟨validSize, validCharge, built, agree, priced,
    (backtests_heed_prices setup ticks heavier validSize validCharge).1 (some table) built agree,
    by decide +kernel,
    (backtests_heed_prices setup ticks earlier validSize validCharge).2 priced,
    by decide +kernel⟩

end Renko
