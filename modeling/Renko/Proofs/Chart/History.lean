import Mathlib
import Renko.Chart
import Renko.Proofs.Scalar

/-! # Charts step by step

One tick makes one of a few things of a provisional brick, and a chart grows by them.
-/

/-! ## What one tick makes of a provisional brick

A tick is either absorbed, or it completes the brick and leaves a staircase: the completed brick,
the synthetic bricks of the further steps, and a new provisional brick at the top
(`Renko.Brick.advance_cases`). Which of the two happens is decided by one number of whole steps
(`Renko.Brick.stepsTo`), in whichever way the distance of the tick is measured.
-/

namespace Renko

variable {α : Type} [Scalar α]

/-- A provisional brick has no direction of its own, so the price decides. -/
theorem Direction.against_last (anchor price : α) :
    Direction.against .last anchor price = Direction.toward anchor price :=
  rfl

namespace Brick

/-- Synthetic bricks in a row. The first opens at the anchor, every other where the one before it
closes. -/
def ladder (time : Instant) (direction : Direction) (size : α) : Nat → α → List (Brick α)
  | 0, _ => []
  | count + 1, anchor =>
    synthetic time direction size anchor ::
      ladder time direction size count (direction.step size anchor)

/-- A brick completed in a direction, and the synthetic bricks of the steps after its close. -/
def staircase (brick : Brick α) (time : Instant) (direction : Direction) (size : α)
    (further : Nat) : List (Brick α) :=
  brick.complete direction size ::
    ladder time direction size further (direction.step size brick.openPrice)

/-- How many whole sizes a price lies from the open of a brick, in the direction of the price. -/
def stepsTo (brick : Brick α) (size price : α) : Nat :=
  Scalar.wholeSteps
    ((Direction.toward brick.openPrice price).distance brick.openPrice price) size

/-- A ladder has as many bricks as steps. -/
@[simp] theorem length_ladder (time : Instant) (direction : Direction) (size : α) (count : Nat)
    (anchor : α) : (ladder time direction size count anchor).length = count := by
  induction count generalizing anchor with
  | zero => rfl
  | succ count inductionHypothesis => simp only [ladder, List.length_cons, inductionHypothesis]

/-- A staircase has the completed brick and one for each further step. -/
@[simp] theorem length_staircase (brick : Brick α) (time : Instant) (direction : Direction)
    (size : α) (further : Nat) :
    (brick.staircase time direction size further).length = further + 1 := by
  rw [staircase, List.length_cons, length_ladder]

/-- A further step is a synthetic brick whatever its place in the row. -/
theorem exists_synthetic_of_mem_ladder {time : Instant} {direction : Direction} {size : α}
    {count : Nat} {anchor : α} {brick : Brick α}
    (member : brick ∈ ladder time direction size count anchor) :
    ∃ below, brick = synthetic time direction size below := by
  induction count generalizing anchor with
  | zero => cases member
  | succ count inductionHypothesis =>
      rcases List.mem_cons.mp member with rfl | later
      · exact ⟨anchor, rfl⟩
      · exact inductionHypothesis later

/-- The bricks of a staircase all go in its direction. -/
theorem kind_of_mem_staircase {brick : Brick α} {time : Instant} {direction : Direction}
    {size : α} {further : Nat} {step : Brick α}
    (member : step ∈ brick.staircase time direction size further) :
    step.kind = direction.kind := by
  rcases List.mem_cons.mp member with rfl | later
  · exact complete_kind brick direction size
  · obtain ⟨below, rfl⟩ := exists_synthetic_of_mem_ladder later
    rfl

/-- Bricks are added at the end of those already there. -/
theorem extend_eq (time : Instant) (direction : Direction) (size : α) (count : Nat)
    (bricks : Array (Brick α)) (anchor : α) :
    extend time direction size count (bricks, anchor) =
      (bricks ++ (ladder time direction size count anchor).toArray,
        (direction.step size)^[count] anchor) := by
  induction count generalizing bricks anchor with
  | zero => simp only [extend, ladder, Array.append_empty, Function.iterate_zero, id_eq]
  | succ count inductionHypothesis =>
      have close : (synthetic time direction size anchor).closePrice =
          direction.step size anchor := rfl
      simp only [extend, close, inductionHypothesis, ladder, Function.iterate_succ_apply,
        Prod.mk.injEq, and_true]
      apply Array.toList_inj.mp
      simp only [Array.toList_append, Array.toList_push, List.append_assoc, List.singleton_append]

variable [Scalar.Directed α]

/-- Both measurements of a tick decide alike. -/
theorem absorbNear_eq (brick : Brick α) (size : α) (tick : Tick α) :
    brick.absorbNear size tick =
      if brick.stepsTo size tick.price = 0 then brick.absorb tick else brick := by
  unfold absorbNear stepsTo
  rw [Scalar.Directed.wholeSteps_abs_sub]

/-- A tick less than one step away is absorbed. -/
theorem advance_of_near {brick : Brick α} (provisional : brick.kind = .last) {size : α}
    {tick : Tick α} (near : brick.stepsTo size tick.price = 0) :
    brick.advance size tick = ⟨#[], brick.absorb tick⟩ := by
  have taken : brick.absorbNear size tick = brick.absorb tick := by
    rw [absorbNear_eq, near, if_pos rfl]
  unfold stepsTo at near
  simp only [advance, taken, absorb_kind, absorb_openPrice, provisional, Direction.against_last,
    near]

/-- A tick that is steps away completes as many bricks. -/
theorem advance_of_far {brick : Brick α} (provisional : brick.kind = .last) {size : α}
    {tick : Tick α} {further : Nat} (far : brick.stepsTo size tick.price = further + 1) :
    brick.advance size tick =
      let direction := Direction.toward brick.openPrice tick.price
      ⟨(brick.staircase tick.time direction size further).toArray,
        following tick ((direction.step size)^[further + 1] brick.openPrice)⟩ := by
  have first : brick.finished (Direction.toward brick.openPrice tick.price) size =
      brick.complete (Direction.toward brick.openPrice tick.price) size := by
    rw [finished, isProvisional, provisional]
    rfl
  -- the first measurement counts the same steps, so the brick did not absorb the tick
  have kept : brick.absorbNear size tick = brick := by
    rw [absorbNear_eq, far, if_neg (Nat.succ_ne_zero further)]
  unfold stepsTo at far
  simp only [advance, kept, provisional, Direction.against_last, far, first, extend_eq,
    complete_closePrice, staircase, Function.iterate_succ_apply, Advance.mk.injEq, and_true]
  apply Array.toList_inj.mp
  simp only [Array.toList_append, List.singleton_append]

/-- **One tick against a provisional brick.** Without a whole step the brick absorbs the tick and
completes nothing; with some it is completed as it was before the tick, and the brick after the
staircase counts the tick. -/
theorem advance_cases {brick : Brick α} (provisional : brick.kind = .last) (size : α)
    (tick : Tick α) :
    brick.stepsTo size tick.price = 0 ∧ brick.advance size tick = ⟨#[], brick.absorb tick⟩ ∨
      ∃ further, brick.stepsTo size tick.price = further + 1 ∧
        brick.advance size tick =
          let direction := Direction.toward brick.openPrice tick.price
          ⟨(brick.staircase tick.time direction size further).toArray,
            following tick ((direction.step size)^[further + 1] brick.openPrice)⟩ := by
  cases steps : brick.stepsTo size tick.price with
  | zero => exact .inl ⟨rfl, advance_of_near provisional steps⟩
  | succ further => exact .inr ⟨further, rfl, advance_of_far provisional steps⟩

end Brick

end Renko

/-! ## The history of a chart

A chart is fed one tick after the other, each at the size in force or at one asked for. A feeding
that is refused leaves the chart as it was; the others are its history. Every chart that feedings
lead to grows from one without bricks by three kinds of steps (`Renko.Chart.Step`): its first brick
opens, the current brick absorbs a tick, or a tick completes bricks. What every step keeps therefore
holds after any feedings (`Renko.Chart.grown_after`).
-/

namespace Renko

/-- A tick given to a chart, and the size asked for. -/
structure Feeding (α : Type) where
  tick : Tick α
  resize : Option α

/-- A feeding that was not refused, with the number of bricks it completed and the chart it left. -/
structure Taken (α : Type) where
  tick : Tick α
  count : Nat
  chart : Chart α

namespace Chart

variable {α : Type} [Scalar α]

/-- What comes of a feeding, unless it is refused. -/
def taken? (chart : Chart α) (feeding : Feeding α) : Option (Taken α) :=
  match chart.feed feeding.tick feeding.resize with
  | .ok (next, count) => some ⟨feeding.tick, count, next⟩
  | .error _ => none

/-- The chart after a feeding. -/
def fed (chart : Chart α) (feeding : Feeding α) : Chart α :=
  (chart.taken? feeding).elim chart (·.chart)

/-- The chart after all feedings. -/
def after (chart : Chart α) (feedings : List (Feeding α)) : Chart α :=
  feedings.foldl fed chart

/-- The feedings that were not refused, in order. -/
def history : Chart α → List (Feeding α) → List (Taken α)
  | _, [] => []
  | chart, feeding :: later =>
    (chart.taken? feeding).toList ++ history (chart.fed feeding) later

/-- The last feeding is made after all others. -/
theorem after_concat (chart : Chart α) (feedings : List (Feeding α)) (feeding : Feeding α) :
    chart.after (feedings ++ [feeding]) = (chart.after feedings).fed feeding := by
  rw [after, List.foldl_concat]
  rfl

/-- A feeding adds to the history if it is accepted. -/
theorem history_concat (chart : Chart α) (feedings : List (Feeding α)) (feeding : Feeding α) :
    chart.history (feedings ++ [feeding]) =
      chart.history feedings ++ ((chart.after feedings).taken? feeding).toList := by
  induction feedings generalizing chart with
  | nil => rw [List.nil_append, history, history, history, List.append_nil, List.nil_append, after,
      List.foldl_nil]
  | cons earlier later inductionHypothesis =>
      rw [List.cons_append, history, inductionHypothesis, history, List.append_assoc]
      rfl

/-- What a tick that is not refused makes of a chart. -/
inductive Step : Chart α → Tick α → Nat → Chart α → Prop
  | opened {old size : α} {completed : Array (Brick α)} {tick : Tick α}
      (valid : validBrickSize size = true) :
      Step ⟨old, completed, none⟩ tick 0 ⟨size, completed, some (.provisional tick)⟩
  | absorbed {old size : α} {completed : Array (Brick α)} {brick : Brick α} {tick : Tick α}
      (valid : validBrickSize size = true) (near : brick.stepsTo size tick.price = 0) :
      Step ⟨old, completed, some brick⟩ tick 0 ⟨size, completed, some (brick.absorb tick)⟩
  | completed {old size : α} {completed : Array (Brick α)} {brick : Brick α} {tick : Tick α}
      {direction : Direction} {further : Nat} (valid : validBrickSize size = true)
      (toward : direction = Direction.toward brick.openPrice tick.price)
      (far : brick.stepsTo size tick.price = further + 1) :
      Step ⟨old, completed, some brick⟩ tick (further + 1)
        ⟨size, completed ++ (brick.staircase tick.time direction size further).toArray,
          some (.following tick ((direction.step size)^[further + 1] brick.openPrice))⟩

/-- The charts that grow from one without bricks, each with its history. -/
inductive Grown : Chart α → List (Taken α) → Prop
  | empty {size : α} (valid : validBrickSize size = true) : Grown ⟨size, #[], none⟩ []
  | step {chart next : Chart α} {past : List (Taken α)} {tick : Tick α} {count : Nat}
      (before : Grown chart past) (step : Step chart tick count next) :
      Grown next (past ++ [⟨tick, count, next⟩])

/-- A chart starts at every valid size and at no other. -/
theorem start_eq_ok {size : α} {chart : Chart α} :
    start size = .ok chart ↔ validBrickSize size = true ∧ chart = ⟨size, #[], none⟩ := by
  unfold start checkBrickSize
  by_cases valid : validBrickSize size = true
  · rw [if_pos valid, and_iff_right valid]
    change Except.ok _ = Except.ok chart ↔ _
    rw [Except.ok.injEq, eq_comm]
  · rw [if_neg valid]
    exact iff_of_false (fun started => nomatch started) fun both => valid both.1

/-- A feeding that asks for a valid size is taken at that size. -/
theorem feed_of_valid {size : α} (valid : validBrickSize size = true) (chart : Chart α)
    (tick : Tick α) :
    chart.feed tick (some size) = .ok (({ chart with size } : Chart α).take tick) := by
  rw [feed, checkBrickSize_of_valid valid]
  rfl

/-- A feeding that asks for an invalid size is refused. -/
theorem feed_of_invalid {size : α} (invalid : validBrickSize size = false) (chart : Chart α)
    (tick : Tick α) : chart.feed tick (some size) = .error (.invalidBrickSize size) := by
  rw [feed, checkBrickSize_of_invalid invalid]
  rfl

/-- A feeding is refused for an invalid size and for nothing else. -/
theorem feed_eq_ok {chart : Chart α} {tick : Tick α} {resize : Option α}
    {result : Chart α × Nat} :
    chart.feed tick resize = .ok result ↔
      (∀ size ∈ resize, validBrickSize size = true) ∧
        ({ chart with size := resize.getD chart.size } : Chart α).take tick = result := by
  cases resize with
  | none =>
      rw [feed, Except.ok.injEq, Option.getD_none]
      exact (and_iff_right fun size absent => nomatch absent).symm
  | some size =>
      have forced : (∀ asked ∈ some size, validBrickSize asked = true) ↔
          validBrickSize size = true := by
        simp only [Option.mem_some_iff, forall_eq']
      rw [forced, Option.getD_some]
      cases valid : validBrickSize size with
      | true => rw [feed_of_valid valid, Except.ok.injEq, and_iff_right rfl]
      | false =>
          rw [feed_of_invalid valid]
          exact iff_of_false (fun accepted => nomatch accepted) fun both => nomatch both.1

/-- What is taken of a feeding is its tick, with the chart and the count it leaves. -/
theorem taken?_eq_some {chart : Chart α} {feeding : Feeding α} {taken : Taken α} :
    chart.taken? feeding = some taken ↔
      chart.feed feeding.tick feeding.resize = .ok (taken.chart, taken.count) ∧
        taken.tick = feeding.tick := by
  obtain ⟨tick, count, next⟩ := taken
  unfold taken?
  cases fed : chart.feed feeding.tick feeding.resize with
  | error fault => exact iff_of_false (fun same => nomatch same) fun both => nomatch both.1
  | ok result =>
      simp only [Option.some.injEq, Taken.mk.injEq, Except.ok.injEq, Prod.ext_iff]
      constructor
      · rintro ⟨rfl, rfl, rfl⟩
        exact ⟨⟨rfl, rfl⟩, rfl⟩
      · rintro ⟨⟨rfl, rfl⟩, rfl⟩
        exact ⟨rfl, rfl, rfl⟩

/-- A tick does not change the size. -/
@[simp] theorem size_take (chart : Chart α) (tick : Tick α) :
    (chart.take tick).1.size = chart.size := by
  obtain ⟨size, completed, current⟩ := chart
  cases current <;> rfl

/-- A feeding leaves the size asked for in force, or the one before it. -/
theorem size_of_feed {chart next : Chart α} {tick : Tick α} {resize : Option α} {count : Nat}
    (accepted : chart.feed tick resize = .ok (next, count)) :
    next.size = resize.getD chart.size := by
  obtain ⟨-, taken⟩ := feed_eq_ok.mp accepted
  have size := size_take { chart with size := resize.getD chart.size } tick
  rw [taken] at size
  exact size

/-- If no other size is asked for, the size stays what it was. -/
theorem size_of_mem_history (chart : Chart α) {feedings : List (Feeding α)}
    (fixed : ∀ feeding ∈ feedings, ∀ asked ∈ feeding.resize, asked = chart.size) :
    ∀ taken ∈ chart.history feedings, taken.chart.size = chart.size := by
  induction feedings generalizing chart with
  | nil => exact fun taken absent => nomatch absent
  | cons feeding later inductionHypothesis =>
      obtain ⟨fixedNow, fixedLater⟩ := List.forall_mem_cons.mp fixed
      have kept : feeding.resize.getD chart.size = chart.size := by
        cases asked : feeding.resize with
        | none => rfl
        | some size => exact fixedNow size asked
      rw [history, fed]
      cases outcome : chart.taken? feeding with
      | none => exact inductionHypothesis chart fixedLater
      | some taken =>
          have same : taken.chart.size = chart.size :=
            (size_of_feed (taken?_eq_some.mp outcome).1).trans kept
          rw [Option.toList_some, Option.elim_some]
          refine List.forall_mem_append.mpr ⟨List.forall_mem_singleton.mpr same, ?_⟩
          rw [← same] at fixedLater ⊢
          exact inductionHypothesis taken.chart fixedLater

/-- Without invalid sizes nothing is refused. -/
theorem map_tick_history (chart : Chart α) {feedings : List (Feeding α)}
    (permitted : ∀ feeding ∈ feedings, ∀ size ∈ feeding.resize, validBrickSize size = true) :
    (chart.history feedings).map (·.tick) = feedings.map (·.tick) := by
  induction feedings generalizing chart with
  | nil => rfl
  | cons feeding later inductionHypothesis =>
      obtain ⟨permittedNow, permittedLater⟩ := List.forall_mem_cons.mp permitted
      have accepted : chart.taken? feeding = some ⟨feeding.tick, _, _⟩ :=
        taken?_eq_some.mpr ⟨feed_eq_ok.mpr ⟨permittedNow, rfl⟩, rfl⟩
      rw [history, accepted, Option.toList_some, List.singleton_append, List.map_cons,
        List.map_cons, inductionHypothesis _ permittedLater]

/-- After a step the size in force is valid. -/
theorem Step.valid {chart next : Chart α} {tick : Tick α} {count : Nat}
    (step : Step chart tick count next) : validBrickSize next.size = true := by
  cases step with
  | opened valid => exact valid
  | absorbed valid near => exact valid
  | completed valid toward far => exact valid

/-- After a tick there is a current brick, and it ends at the price of the tick. -/
theorem Step.exists_current {chart next : Chart α} {tick : Tick α} {count : Nat}
    (step : Step chart tick count next) :
    ∃ brick, next.current = some brick ∧ brick.closePrice = tick.price := by
  cases step <;> exact ⟨_, rfl, rfl⟩

/-- The size of a chart that has grown is valid. -/
theorem Grown.valid {chart : Chart α} {past : List (Taken α)} (grown : Grown chart past) :
    validBrickSize chart.size = true := by
  cases grown with
  | empty valid => exact valid
  | step before step => exact step.valid

/-- Before its first brick a chart has no history. -/
theorem Grown.past_eq_nil {chart : Chart α} {past : List (Taken α)} (grown : Grown chart past)
    (nothing : chart.current = none) : past = [] := by
  cases grown with
  | empty valid => rfl
  | step before step => cases step <;> cases nothing

/-- The current brick of a chart is provisional. -/
theorem Grown.provisional {chart : Chart α} {past : List (Taken α)} (grown : Grown chart past) :
    ∀ brick ∈ chart.current, brick.kind = .last := by
  induction grown with
  | empty valid => exact fun brick absent => nomatch absent
  | step before step inductionHypothesis =>
      cases step with
      | opened valid =>
          intro brick current
          obtain rfl := Option.some.inj current
          rfl
      | @absorbed old size completed brick tick valid near =>
          intro next current
          obtain rfl := Option.some.inj current
          exact inductionHypothesis brick rfl
      | completed valid toward far =>
          intro brick current
          obtain rfl := Option.some.inj current
          rfl

/-- The current brick of a chart with a history ends at the price of the last tick. -/
theorem Grown.exists_current {chart : Chart α} {past : List (Taken α)} (grown : Grown chart past)
    {taken : Taken α} (final : past.getLast? = some taken) :
    ∃ brick, chart.current = some brick ∧ brick.closePrice = taken.tick.price := by
  cases grown with
  | empty valid => cases final
  | step before step =>
      rw [List.getLast?_concat] at final
      obtain rfl := Option.some.inj final
      exact step.exists_current

/-- A chart with a current brick is what the last tick of its history left. -/
theorem Grown.exists_final {chart : Chart α} {past : List (Taken α)} (grown : Grown chart past)
    {brick : Brick α} (current : chart.current = some brick) :
    ∃ final, past.getLast? = some final ∧ final.chart = chart ∧
      final.tick.price = brick.closePrice := by
  cases grown with
  | empty valid => cases current
  | step before step =>
      obtain ⟨other, same, close⟩ := step.exists_current
      obtain rfl := Option.some.inj (same.symm.trans current)
      exact ⟨_, List.getLast?_concat, rfl, close.symm⟩

/-- A chart with a current brick has a history. -/
theorem Grown.past_ne_nil {chart : Chart α} {past : List (Taken α)} (grown : Grown chart past)
    {brick : Brick α} (current : chart.current = some brick) : past ≠ [] := by
  obtain ⟨final, last, -⟩ := grown.exists_final current
  exact List.ne_nil_of_mem (List.mem_of_getLast? last)

/-- The current brick closes at the price of the last tick. -/
theorem Grown.getLast?_map_price {chart : Chart α} {past : List (Taken α)}
    (grown : Grown chart past) {brick : Brick α} (current : chart.current = some brick) :
    (past.map (·.tick.price)).getLast? = some brick.closePrice := by
  obtain ⟨final, last, -, price⟩ := grown.exists_final current
  rw [List.getLast?_map, last, Option.map_some, price]

variable [Scalar.Directed α]

/-- A tick taken at a valid size is a step. -/
theorem step_take {chart : Chart α} {size : α} (valid : validBrickSize size = true)
    (provisional : ∀ brick ∈ chart.current, brick.kind = .last) (tick : Tick α) :
    Step chart tick (({ chart with size } : Chart α).take tick).2
      (({ chart with size } : Chart α).take tick).1 := by
  obtain ⟨old, completed, current⟩ := chart
  cases current with
  | none => exact .opened valid
  | some brick =>
      rcases Brick.advance_cases (provisional brick rfl) size tick with
        ⟨near, absorbed⟩ | ⟨further, far, moved⟩
      · simp only [take, absorbed, Array.append_empty]
        exact .absorbed valid near
      · simp only [take, moved, List.size_toArray, Brick.length_staircase]
        exact .completed valid rfl far

/-- A feeding of a grown chart that is not refused is a step. -/
theorem Grown.step_of_feed {chart next : Chart α} {past : List (Taken α)} {tick : Tick α}
    {resize : Option α} {count : Nat} (grown : Grown chart past)
    (accepted : chart.feed tick resize = .ok (next, count)) : Step chart tick count next := by
  obtain ⟨permitted, taken⟩ := feed_eq_ok.mp accepted
  have valid : validBrickSize (resize.getD chart.size) = true := by
    cases resize with
    | none => exact grown.valid
    | some size => exact permitted size rfl
  have step := step_take valid grown.provisional tick
  rw [taken] at step
  exact step

/-- **Charts grow.** Whatever a chart is fed after its start, refused feedings included, the chart
it becomes has grown by the steps of its history. -/
theorem grown_after {size : α} {first : Chart α} (started : start size = .ok first)
    (feedings : List (Feeding α)) : Grown (first.after feedings) (first.history feedings) := by
  obtain ⟨valid, rfl⟩ := start_eq_ok.mp started
  -- histories grow at their end, so the induction takes the last feeding off
  induction feedings using List.reverseRecOn with
  | nil => exact .empty valid
  | append_singleton earlier feeding inductionHypothesis =>
      rw [after_concat, history_concat, fed]
      cases outcome : (after ⟨size, #[], none⟩ earlier).taken? feeding with
      | none =>
          rw [Option.elim_none, Option.toList_none, List.append_nil]
          exact inductionHypothesis
      | some taken =>
          obtain ⟨accepted, same⟩ := taken?_eq_some.mp outcome
          rw [← same] at accepted
          exact inductionHypothesis.step (inductionHypothesis.step_of_feed accepted)

end Chart

end Renko
