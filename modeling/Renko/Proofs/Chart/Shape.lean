import Mathlib
import Renko.Proofs.Chart.History
import Renko.Proofs.Lists

/-! # Bricks in a line

The bricks of a chart form one line, and they keep their places in it.
-/

/-! ## The shape of a chart

Whatever a chart is fed, its bricks form one unbroken line: every brick opens where the one before
it closes, all but the final one are completed in a direction, and the final one is provisional. A
feeding changes the current brick at most and appends after it
(`Renko.Chart.shaped_after_feedings`).
-/

namespace Renko

variable {α : Type}

namespace Brick

/-- The later of two bricks opens where the earlier one closes. -/
def Meets (earlier later : Brick α) : Prop := later.openPrice = earlier.closePrice

/-- The final brick of a line may be replaced by a line that opens where it opened. -/
theorem isChain_replace {earlier later : List (Brick α)} {brick first : Brick α}
    (chained : (earlier ++ [brick]).IsChain Meets) (opens : first.openPrice = brick.openPrice)
    (follows : (first :: later).IsChain Meets) : (earlier ++ first :: later).IsChain Meets := by
  obtain ⟨before, -, joined⟩ := List.isChain_append.mp chained
  refine List.isChain_append.mpr ⟨before, follows, ?_⟩
  intro previous final next head
  obtain rfl := Option.some.inj head
  exact opens.trans (joined previous final brick rfl)

variable [Scalar α]

/-- The further steps of a tick, and the brick after them, line up behind a brick that closes at
their anchor. -/
theorem isChain_ladder {previous : Brick α} {anchor : α} (closes : previous.closePrice = anchor)
    (direction : Direction) (size : α) (tick : Tick α) (count : Nat) :
    (previous :: (ladder tick.time direction size count anchor ++
      [following tick ((direction.step size)^[count] anchor)])).IsChain Meets := by
  induction count generalizing previous anchor with
  | zero => exact List.isChain_pair.mpr closes.symm
  | succ count inductionHypothesis =>
      rw [ladder, List.cons_append, List.isChain_cons_cons, Function.iterate_succ_apply]
      exact ⟨closes.symm, inductionHypothesis rfl⟩

/-- A staircase and the brick that follows it are one line. -/
theorem isChain_staircase (brick : Brick α) (direction : Direction) (size : α) (tick : Tick α)
    (further : Nat) :
    (brick.staircase tick.time direction size further ++
      [following tick ((direction.step size)^[further + 1] brick.openPrice)]).IsChain Meets := by
  rw [staircase, List.cons_append, Function.iterate_succ_apply]
  exact isChain_ladder (complete_closePrice brick direction size) direction size tick further

end Brick

namespace Chart

/-- A chart is either without bricks, or one unbroken line of completed bricks that ends in a
provisional one. -/
structure Shaped (chart : Chart α) : Prop where
  ends : chart.bricks = [] ∨
    ∃ final, chart.bricks = chart.completed.toList ++ [final] ∧ final.kind = .last
  directed : ∀ brick ∈ chart.completed.toList, brick.kind = .up ∨ brick.kind = .down
  chained : chart.bricks.IsChain Brick.Meets

/-- What a feeding that completes a number of bricks does to a chart: they are of one kind, and of
the bricks before the feeding only the final one may have changed. -/
structure Appended (chart : Chart α) (count : Nat) (next : Chart α) : Prop where
  grows : next.completed.size = chart.completed.size + count
  common : ∃ direction : Direction,
    ∀ brick ∈ next.completed.toList.drop chart.completed.size, brick.kind = direction.kind
  kept : chart.bricks.dropLast <+: next.bricks
  neverShorter : chart.bricks.length ≤ next.bricks.length

/-- The completed bricks are all but the current one. -/
theorem dropLast_bricks_prefix (chart : Chart α) :
    chart.bricks.dropLast <+: chart.completed.toList := by
  cases current : chart.current with
  | none =>
      rw [bricks, current, Option.toList_none, List.append_nil]
      exact List.dropLast_prefix _
  | some brick =>
      rw [bricks, current, Option.toList_some, List.dropLast_concat]

variable [Scalar α]

/-- A step adds completed bricks of one kind, as many as it counts. -/
theorem Step.exists_added {chart next : Chart α} {tick : Tick α} {count : Nat}
    (step : Step chart tick count next) : ∃ (direction : Direction) (added : List (Brick α)),
      next.completed = chart.completed ++ added.toArray ∧ added.length = count ∧
        ∀ brick ∈ added, brick.kind = direction.kind := by
  cases step with
  | opened valid =>
      exact ⟨.up, [], Array.append_empty.symm, rfl, fun brick absent => nomatch absent⟩
  | absorbed valid near =>
      exact ⟨.up, [], Array.append_empty.symm, rfl, fun brick absent => nomatch absent⟩
  | completed valid toward far =>
      exact ⟨_, _, rfl, Brick.length_staircase _ _ _ _ _,
        fun brick member => Brick.kind_of_mem_staircase member⟩

/-- A step that counts bricks leaves the newest of them at the end, and they are of its kind. -/
theorem Step.exists_newest {chart next : Chart α} {tick : Tick α} {count : Nat}
    (step : Step chart tick count next) (completes : count ≠ 0) :
    ∃ (earlier : List (Brick α)) (newest : Brick α) (direction : Direction),
      next.completed = chart.completed ++ (earlier ++ [newest]).toArray ∧
        (earlier ++ [newest]).length = count ∧ next.completed.back? = some newest ∧
        newest.kind = direction.kind ∧ ∀ other ∈ earlier ++ [newest], other.kind = newest.kind := by
  obtain ⟨direction, added, completed, length, common⟩ := step.exists_added
  rcases List.eq_nil_or_concat' added with rfl | ⟨earlier, newest, rfl⟩
  · exact absurd length.symm completes
  have kind : newest.kind = direction.kind := common newest (by simp)
  refine ⟨earlier, newest, direction, completed, length, by simp [completed], kind, ?_⟩
  exact fun other member => (common other member).trans kind.symm

/-- A step changes the current brick at most and appends after it. -/
theorem Step.appended {chart next : Chart α} {tick : Tick α} {count : Nat}
    (step : Step chart tick count next) : Appended chart count next := by
  obtain ⟨direction, added, completed, length, common⟩ := step.exists_added
  obtain ⟨brick, current, -⟩ := step.exists_current
  have line : next.bricks = chart.completed.toList ++ (added ++ [brick]) := by
    rw [bricks, completed, current, Array.toList_append, List.append_assoc, Option.toList_some]
  refine ⟨?_, ⟨direction, ?_⟩, ?_, ?_⟩
  · rw [completed, Array.size_append, ← length]
    rfl
  · intro brick member
    rw [completed, Array.toList_append, ← Array.length_toList, List.drop_left] at member
    exact common brick member
  · rw [line]
    exact chart.dropLast_bricks_prefix.trans (List.prefix_append _ _)
  · have few : chart.current.toList.length ≤ 1 := by
      cases chart.current <;> simp
    rw [line, bricks, List.length_append, List.length_append, List.length_append,
      List.length_singleton]
    omega

omit [Scalar α] in
/-- Without a current brick there are no completed ones. -/
theorem Shaped.completed_eq_empty {size : α} {completed : Array (Brick α)}
    (shaped : Shaped ⟨size, completed, none⟩) : completed = #[] := by
  rcases shaped.ends with nothing | ⟨final, line, -⟩
  · rw [bricks, Option.toList_none, List.append_nil] at nothing
    exact Array.toList_eq_nil_iff.mp nothing
  · have length := congrArg List.length line
    simp [bricks] at length

/-- A step keeps the shape of a chart. -/
theorem Step.shaped {chart next : Chart α} {tick : Tick α} {count : Nat} (shaped : Shaped chart)
    (provisional : ∀ brick ∈ chart.current, brick.kind = .last)
    (step : Step chart tick count next) : Shaped next := by
  cases step with
  | opened valid =>
      obtain rfl := shaped.completed_eq_empty
      exact ⟨.inr ⟨_, rfl, rfl⟩, fun brick absent => (nomatch absent), .singleton _⟩
  | @absorbed old size completed brick tick valid near =>
      exact ⟨.inr ⟨_, rfl, provisional brick rfl⟩, shaped.directed,
        Brick.isChain_replace shaped.chained rfl (.singleton _)⟩
  | @completed old size completed brick tick direction further valid toward far =>
      refine ⟨.inr ⟨_, rfl, rfl⟩, ?_, ?_⟩
      · intro step member
        rw [Array.toList_append, List.mem_append] at member
        rcases member with before | added
        · exact shaped.directed step before
        · rw [Brick.kind_of_mem_staircase added]
          cases direction with
          | up => exact .inl rfl
          | down => exact .inr rfl
      · -- the staircase opens where the provisional brick did, and takes its place
        rw [bricks, Array.toList_append, List.append_assoc]
        exact Brick.isChain_replace shaped.chained (Brick.complete_openPrice brick direction size)
          (Brick.isChain_staircase brick direction size tick further)

/-- **A chart has its shape**, however it has grown. -/
theorem Grown.shaped {chart : Chart α} {past : List (Taken α)} (grown : Grown chart past) :
    Shaped chart := by
  induction grown with
  | empty valid => exact ⟨.inl rfl, fun brick absent => (nomatch absent), .nil⟩
  | step before step inductionHypothesis => exact step.shaped inductionHypothesis before.provisional

/-- Without the provisional brick the completed ones are left. -/
theorem Grown.dropLast_bricks {chart : Chart α} {past : List (Taken α)}
    (grown : Grown chart past) : chart.bricks.dropLast = chart.completed.toList := by
  rcases grown.shaped.ends with nothing | ⟨final, line, -⟩
  · rw [bricks] at nothing
    rw [(List.append_eq_nil_iff.mp nothing).1, bricks, nothing]
    rfl
  · rw [line, List.dropLast_concat]

/-- All bricks that feedings are said to complete are there. -/
theorem Grown.sum_counts {chart : Chart α} {past : List (Taken α)} (grown : Grown chart past) :
    (past.map (·.count)).sum = chart.completed.size := by
  induction grown with
  | empty valid => rfl
  | step before step inductionHypothesis =>
      rw [List.map_append, List.sum_append, inductionHypothesis, step.appended.grows]
      rfl

/-- All bricks that a feeding completes are of the kind of the newest one. -/
theorem Grown.common {chart : Chart α} {past : List (Taken α)} (grown : Grown chart past) :
    ∀ taken ∈ past, taken.count ≠ 0 →
      ∃ newest, taken.chart.completed.back? = some newest ∧ newest.kind ≠ .last ∧
        ∀ other ∈ taken.chart.completed.toList.drop (taken.chart.completed.size - taken.count),
          other.kind = newest.kind := by
  induction grown with
  | empty valid => exact fun taken absent => nomatch absent
  | @step chart next past tick count before step inductionHypothesis =>
      refine List.forall_mem_append.mpr ⟨inductionHypothesis, List.forall_mem_singleton.mpr ?_⟩
      intro completes
      obtain ⟨earlier, newest, direction, completed, length, back, kind, common⟩ :=
        step.exists_newest completes
      refine ⟨newest, back, kind ▸ direction.kind_ne_last, ?_⟩
      have added : next.completed.toList.drop (next.completed.size - count) =
          earlier ++ [newest] := by
        rw [completed, ← length]
        simp
      rw [added]
      exact common

/-- **Charts keep their shape.** After any feedings, refused ones included, a chart is one unbroken
line of completed bricks that ends in a provisional one; the feedings have completed as many bricks
as they say, and whatever is fed next keeps all bricks but the current one. -/
theorem shaped_after_feedings {size : Float} {first : Chart Float}
    (started : start size = .ok first) (feedings : List (Feeding Float)) :
    (first.after feedings).Shaped ∧
      ((first.history feedings).map (·.count)).sum = (first.after feedings).completed.size ∧
        ∀ tick resize next count, (first.after feedings).feed tick resize = .ok (next, count) →
          (first.after feedings).Appended count next := by
  have grown := grown_after started feedings
  refine ⟨grown.shaped, grown.sum_counts, ?_⟩
  intro tick resize next count accepted
  exact (grown.step_of_feed accepted).appended

/-- A jump of two steps, an undefined price, a refused size, and a fall at half the size. -/
theorem shaped_after_jump_and_fall :
    let first : Chart Float := ⟨1, #[], none⟩
    let feeding (ms : Int) (price : Float) (resize : Option Float) : Feeding Float :=
      ⟨⟨.ofMillis ms, price, 3⟩, resize⟩
    let feedings := [feeding 0 100 none, feeding 1 102.25 none, feeding 2 (0 / 0) none,
      feeding 3 90 (some (-1)), feeding 4 100.75 (some 0.5)]
    start 1 = .ok first ∧ (first.history feedings).map (·.count) = [0, 2, 0, 2] ∧
      (first.after feedings).Shaped ∧
      ((first.history feedings).map (·.count)).sum = (first.after feedings).completed.size ∧
        ∀ tick resize next count, (first.after feedings).feed tick resize = .ok (next, count) →
          (first.after feedings).Appended count next :=
  ⟨start_eq_ok.mpr ⟨by decide +kernel, rfl⟩, by decide +kernel,
    shaped_after_feedings (start_eq_ok.mpr ⟨by decide +kernel, rfl⟩) _⟩

end Chart

end Renko

/-! ## What lasts of a brick

A brick keeps its place in the chart, and the time and price it opened at; once it is completed it
does not change at all. One step keeps this (`Renko.Chart.Step.inPlace`).
-/

namespace Renko

variable {α : Type}

/-- What never changes about a brick is when and where it opened. Of a completed brick nothing
does. -/
structure Brick.Lasts (earlier later : Brick α) : Prop where
  time : later.time = earlier.time
  openPrice : later.openPrice = earlier.openPrice
  frozen : earlier.kind ≠ .last → later = earlier

/-- A brick lasts if nothing happens to it. -/
theorem Brick.Lasts.refl (brick : Brick α) : brick.Lasts brick :=
  ⟨rfl, rfl, fun _ => rfl⟩

/-- What lasts of a brick, and from there again, lasts altogether. -/
theorem Brick.Lasts.trans {first second third : Brick α} (early : first.Lasts second)
    (late : second.Lasts third) : first.Lasts third := by
  refine ⟨late.time.trans early.time, late.openPrice.trans early.openPrice, ?_⟩
  intro completed
  obtain rfl := early.frozen completed
  exact late.frozen completed

namespace Chart

variable [Scalar α]

/-- A step leaves every brick in its place. -/
theorem Step.inPlace {chart next : Chart α} {tick : Tick α} {count : Nat}
    (provisional : ∀ brick ∈ chart.current, brick.kind = .last)
    (step : Step chart tick count next) : InPlace Brick.Lasts chart.bricks next.bricks := by
  cases step with
  | opened valid =>
      rw [bricks, Option.toList_none, List.append_nil]
      exact InPlace.append Brick.Lasts.refl _ _
  | @absorbed old size completed brick tick valid near =>
      have absorbs : brick.Lasts (brick.absorb tick) :=
        ⟨rfl, rfl, fun completed => absurd (provisional brick rfl) completed⟩
      exact InPlace.replace Brick.Lasts.refl completed.toList [] absorbs
  | @completed old size completed brick tick direction further valid toward far =>
      have completes : brick.Lasts (brick.complete direction size) := by
        refine ⟨?_, Brick.complete_openPrice brick direction size,
          fun completed => absurd (provisional brick rfl) completed⟩
        cases direction <;> rfl
      rw [bricks, bricks, Array.toList_append, List.append_assoc]
      exact InPlace.replace Brick.Lasts.refl completed.toList _ completes

/-- The bricks that are not provisional are the completed ones. -/
theorem Grown.filter_bricks {chart : Chart α} {past : List (Taken α)} (grown : Grown chart past) :
    chart.bricks.filter (!·.isProvisional) = chart.completed.toList := by
  have settled : chart.completed.toList.filter (!·.isProvisional) = chart.completed.toList := by
    rw [List.filter_eq_self]
    intro brick member
    rcases grown.shaped.directed brick member with kind | kind <;>
      rw [Brick.isProvisional, kind] <;> rfl
  have open' : chart.current.toList.filter (!·.isProvisional) = [] := by
    rw [List.filter_eq_nil_iff]
    intro brick member
    rw [Brick.isProvisional, grown.provisional brick (Option.mem_toList.mp member)]
    exact Bool.false_ne_true
  rw [bricks, List.filter_append, settled, open', List.append_nil]

/-- In a later chart the completed bricks come first. -/
theorem Grown.completed_prefix {chart next : Chart α} {past : List (Taken α)}
    (grown : Grown chart past) (kept : InPlace Brick.Lasts chart.bricks next.bricks) :
    chart.completed.toList <+: next.bricks := by
  apply kept.isPrefix
  intro brick member lasting lasts
  apply lasts.frozen
  rcases grown.shaped.directed brick member with kind | kind <;> rw [kind] <;> nofun

end Chart

end Renko
