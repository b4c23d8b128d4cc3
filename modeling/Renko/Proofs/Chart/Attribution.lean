import Mathlib
import Renko.Proofs.Chart.History
import Renko.Proofs.Lists

/-! # Bricks and their ticks

Which ticks a brick counts, and what every brick of a chart stands for.
-/

/-! ## Which brick counts which tick

The history of a chart is cut before every tick that completes bricks. Each block of ticks that this
leaves is counted by one brick, and the only other bricks are the synthetic ones, which count
nothing (`Renko.Chart.attributed_after_feedings`). A tick thus counts once, whether a brick absorbs
it or is completed by it.
-/

namespace Renko

/-- What a brick says of the ticks it counts: when the first one came, how many there are, and their
volume. -/
structure Tally (α : Type) where
  time : Instant
  ticks : Nat
  volume : α
  deriving DecidableEq

variable {α : Type}

namespace Brick

/-- What a brick says of the ticks it counts. -/
def tally (brick : Brick α) : Tally α := ⟨brick.time, brick.ticks.toNat, brick.volume⟩

variable [Scalar α]

/-- A completed brick counts what it counted before. -/
theorem tally_complete (brick : Brick α) (direction : Direction) (size : α) :
    (brick.complete direction size).tally = brick.tally := by
  cases direction <;> rfl

/-- Synthetic bricks count nothing. -/
theorem map_tally_ladder (time : Instant) (direction : Direction) (size : α) (count : Nat)
    (anchor : α) :
    (ladder time direction size count anchor).map tally = List.replicate count ⟨time, 0, 0⟩ := by
  induction count generalizing anchor with
  | zero => rfl
  | succ count inductionHypothesis =>
      rw [ladder, List.map_cons, inductionHypothesis, List.replicate_succ]
      rfl

/-- An absorbed tick is counted, as long as the number of ticks does not start again. -/
theorem tally_absorb {brick : Brick α} (few : brick.ticks.toNat + 1 < 2 ^ 32) (tick : Tick α) :
    (brick.absorb tick).tally =
      ⟨brick.time, brick.ticks.toNat + 1, brick.volume + tick.volume⟩ := by
  have counted : (brick.ticks + 1).toNat = brick.ticks.toNat + 1 := by
    rw [UInt32.toNat_add]
    exact Nat.mod_eq_of_lt few
  exact congrArg (Tally.mk brick.time · (brick.volume + tick.volume)) counted

end Brick

namespace Chart

/-- A history cut before every tick that completed bricks. -/
def blocks (past : List (Taken α)) : List (List (Taken α)) :=
  past.splitBy fun _ later => later.count == 0

/-- What the brick of a block counts: from the first tick of the block, one tick after the other. -/
def counted [Add α] : List (Taken α) → Option (Tally α)
  | [] => none
  | first :: later =>
    some ⟨first.tick.time, later.length + 1,
      later.foldl (fun sum taken => sum + taken.tick.volume) first.tick.volume⟩

/-- The bricks in front of the brick of a block, one fewer than the first tick of the block
completed. They count nothing. -/
def skipped [Zero α] : List (Taken α) → List (Tally α)
  | [] => []
  | first :: _ => List.replicate (first.count - 1) ⟨first.tick.time, 0, 0⟩

/-- All bricks of a block. -/
def row [Add α] [Zero α] (block : List (Taken α)) : List (Tally α) :=
  skipped block ++ (counted block).toList

/-- A block that grows by a tick counts that tick and its volume. -/
theorem counted_concat [Add α] {block : List (Taken α)} {sum : Tally α}
    (before : counted block = some sum) (taken : Taken α) :
    counted (block ++ [taken]) =
      some ⟨sum.time, sum.ticks + 1, sum.volume + taken.tick.volume⟩ := by
  cases block with
  | nil => cases before
  | cons first later =>
      obtain rfl := Option.some.inj before
      rw [List.cons_append, counted, List.length_append, List.foldl_concat]
      rfl

private theorem skipped_concat [Zero α] {block : List (Taken α)} (nonempty : block ≠ [])
    (taken : Taken α) : skipped (block ++ [taken]) = skipped block := by
  cases block with
  | nil => exact absurd rfl nonempty
  | cons first later => rfl

/-- A row counts as many ticks as its block has. -/
theorem sum_ticks_row [Add α] [Zero α] (block : List (Taken α)) :
    ((row block).map (·.ticks)).sum = block.length := by
  cases block with
  | nil => rfl
  | cons first later => simp [row, skipped, counted]

/-- All bricks together count as many ticks as there are. -/
theorem sum_ticks_rows [Add α] [Zero α] (past : List (Taken α)) :
    (((blocks past).flatMap row).map (·.ticks)).sum = past.length := by
  have each (groups : List (List (Taken α))) :
      ((groups.flatMap row).map (·.ticks)).sum = groups.flatten.length := by
    induction groups with
    | nil => rfl
    | cons group groups inductionHypothesis =>
        rw [List.flatMap_cons, List.map_append, List.sum_append, sum_ticks_row,
          inductionHypothesis, List.flatten_cons, List.length_append]
  rw [each, blocks, List.flatten_splitBy]

/-- A tick that completes bricks starts a block. -/
theorem rows_concat_of_completing [Add α] [Zero α] {past : List (Taken α)} {taken : Taken α}
    (completes : taken.count ≠ 0) :
    (blocks (past ++ [taken])).flatMap row = (blocks past).flatMap row ++ row [taken] := by
  have starts : blocks (past ++ [taken]) = blocks past ++ [[taken]] :=
    Grouping.splitBy_concat_of_unrelated fun _ _ => beq_false_of_ne completes
  rw [starts, List.flatMap_append, List.flatMap_singleton]

/-- A tick that completes nothing belongs to the last block, whose brick is the last one. -/
theorem rows_concat_of_absorbed [Add α] [Zero α] {past : List (Taken α)} {taken : Taken α}
    (completes : taken.count = 0) {earlier : List (Tally α)} {sum : Tally α}
    (rows : earlier ++ [sum] = (blocks past).flatMap row) :
    (blocks (past ++ [taken])).flatMap row =
      earlier ++ [⟨sum.time, sum.ticks + 1, sum.volume + taken.tick.volume⟩] := by
  have nonempty : past ≠ [] := by
    rintro rfl
    exact absurd rows (by simp [blocks])
  obtain ⟨groups, group, last, split, -⟩ :=
    Grouping.exists_last_group (fun _ later => later.count == 0) nonempty
  have longer : blocks (past ++ [taken]) = groups ++ [group ++ [last] ++ [taken]] :=
    Grouping.splitBy_concat_of_related split (beq_iff_eq.mpr completes)
  obtain ⟨total, totals⟩ : ∃ total, counted (group ++ [last]) = some total := by
    cases group <;> exact ⟨_, rfl⟩
  rw [blocks, split, List.flatMap_append, List.flatMap_singleton, row, totals,
    Option.toList_some, ← List.append_assoc] at rows
  obtain ⟨rfl, final⟩ := List.append_inj' rows rfl
  obtain rfl := List.singleton_inj.mp final
  rw [longer, List.flatMap_append, List.flatMap_singleton, row, counted_concat totals,
    skipped_concat (by simp), Option.toList_some, List.append_assoc]

/-- Of the bricks of a block only the last one counts ticks. -/
theorem filter_row [Add α] [Zero α] {block : List (Taken α)} (nonempty : block ≠ []) :
    ((row block).filter fun sum => 1 ≤ sum.ticks).map some = [counted block] := by
  cases block with
  | nil => exact absurd rfl nonempty
  | cons first later => simp [row, skipped, counted]

/-- The bricks that count ticks are one for each block. -/
theorem filter_rows [Add α] [Zero α] (past : List (Taken α)) :
    (((blocks past).flatMap row).filter fun sum => 1 ≤ sum.ticks).map some =
      (blocks past).map counted := by
  have each (groups : List (List (Taken α))) (filled : [] ∉ groups) :
      ((groups.flatMap row).filter fun sum => 1 ≤ sum.ticks).map some = groups.map counted := by
    induction groups with
    | nil => rfl
    | cons group groups inductionHypothesis =>
        obtain ⟨nonempty, filledLater⟩ := not_or.mp (List.mem_cons.not.mp filled)
        rw [List.flatMap_cons, List.filter_append, List.map_append, filter_row (Ne.symm nonempty),
          inductionHypothesis filledLater]
        rfl
  exact each _ (List.nil_notMem_splitBy _ past)

variable [Scalar α]

/-- The bricks of a chart are the rows of its blocks. -/
theorem Grown.map_tally_bricks {chart : Chart α} {past : List (Taken α)}
    (grown : Grown chart past) (few : past.length < 2 ^ 32) :
    chart.bricks.map Brick.tally = (blocks past).flatMap row := by
  induction grown with
  | empty valid => rfl
  | @step chart next past tick count before step inductionHypothesis =>
      rw [List.length_append, List.length_singleton] at few
      have rows := inductionHypothesis (by omega)
      cases step with
      | @opened old size completed tick valid =>
          obtain rfl := before.past_eq_nil rfl
          have nothing : completed.toList.map Brick.tally = [] := by
            rw [bricks, Option.toList_none, List.append_nil] at rows
            exact rows
          rw [bricks, List.map_append, nothing]
          rfl
      | @absorbed old size completed brick tick valid near =>
          rw [bricks, List.map_append, Option.toList_some, List.map_singleton] at rows
          -- no brick counts more ticks than there are, so the count does not start again
          have total := sum_ticks_rows past
          rw [← rows, List.map_append, List.sum_append, List.map_singleton,
            List.sum_singleton] at total
          have counts : brick.ticks.toNat ≤ past.length := total ▸ Nat.le_add_left _ _
          rw [rows_concat_of_absorbed rfl rows, bricks, List.map_append, Option.toList_some,
            List.map_singleton, Brick.tally_absorb (by omega)]
          rfl
      | @completed old size completed brick tick direction further valid toward far =>
          rw [rows_concat_of_completing (Nat.succ_ne_zero further), ← rows]
          simp only [bricks, Array.toList_append, Brick.staircase, Option.toList_some,
            List.map_append, List.map_cons, List.map_nil, Brick.tally_complete,
            Brick.map_tally_ladder, List.append_assoc, List.singleton_append]
          rfl

/-- Every one of the ticks fed to a chart counts in one brick. Each block of them has a brick that
counts it, and the only other bricks are those that the first tick of a block completes besides.
Both measurements of a tick, the one that lets the current brick absorb it and the one that
completes bricks, decide alike. -/
structure Attributed (chart : Chart α) (past : List (Taken α)) (ticks : List (Tick α)) : Prop where
  fed : past.map (·.tick) = ticks
  rows : chart.bricks.map Brick.tally =
    (blocks past).flatMap fun block => skipped block ++ (counted block).toList
  counting : ((chart.bricks.filter fun brick => 1 ≤ brick.ticks).map fun brick =>
    some brick.tally) = (blocks past).map counted
  total : (chart.bricks.map fun brick => brick.ticks.toNat).sum = ticks.length
  decided : ∀ brick ∈ chart.current, ∀ (tick : Tick α) (size : α),
    Scalar.wholeSteps (Scalar.abs (tick.price - brick.openPrice)) size = 0 ↔
      Scalar.wholeSteps ((Direction.against brick.kind brick.openPrice tick.price).distance
        brick.openPrice tick.price) size = 0

/-- **Every tick counts once.** Cut before every tick that completes bricks, the ticks fed to a
chart fall into blocks, and the bricks that count ticks are one for each block, in order. -/
theorem attributed_after_feedings {size : Float} {first : Chart Float}
    (started : start size = .ok first) (feedings : List (Feeding Float))
    (permitted : ∀ feeding ∈ feedings, ∀ size ∈ feeding.resize, validBrickSize size = true)
    (few : feedings.length < 2 ^ 32) :
    (first.after feedings).Attributed (first.history feedings) (feedings.map (·.tick)) := by
  have grown := grown_after started feedings
  have fed := first.map_tick_history permitted
  have length : (first.history feedings).length = feedings.length := by
    simpa only [List.length_map] using congrArg List.length fed
  have rows := grown.map_tally_bricks (length ▸ few)
  refine ⟨fed, rows, ?_, ?_, ?_⟩
  · rw [← filter_rows, ← rows, List.filter_map, List.map_map]
    rfl
  · rw [List.length_map, ← length, ← sum_ticks_rows, ← rows, List.map_map]
    rfl
  · intro brick current tick size
    rw [grown.provisional brick current, Direction.against_last,
      Scalar.Directed.wholeSteps_abs_sub]

/-- Three ticks, one of them without a price; a jump of three steps; a fall at half the size. -/
theorem attributed_after_jump_and_fall :
    let first : Chart Float := ⟨1, #[], none⟩
    let feeding (ms : Int) (price volume : Float) (resize : Option Float) : Feeding Float :=
      ⟨⟨.ofMillis ms, price, volume⟩, resize⟩
    let feedings := [feeding 0 100 2 none, feeding 1 (0 / 0) 3 none, feeding 2 99.5 1 none,
      feeding 3 103.25 7 none, feeding 4 102.75 1 (some 0.5), feeding 5 101.75 2 none]
    start 1 = .ok first ∧
      (∀ feeding ∈ feedings, ∀ size ∈ feeding.resize, validBrickSize size = true) ∧
      feedings.length < 2 ^ 32 ∧
      (blocks (first.history feedings)).map List.length = [3, 2, 1] ∧
      (first.after feedings).Attributed (first.history feedings) (feedings.map (·.tick)) :=
  ⟨start_eq_ok.mpr ⟨by decide +kernel, rfl⟩, by decide +kernel, by decide, by decide +kernel,
    attributed_after_feedings (start_eq_ok.mpr ⟨by decide +kernel, rfl⟩) _ (by decide +kernel)
      (by decide)⟩

end Chart

end Renko

/-! ## What a brick stands for

Every brick of a chart either counts a block of ticks or is a further step of the tick that
completed it (`Renko.Chart.origins`). What each of the ways to come by a brick gives it, seen
together with what it stands for, therefore holds of all bricks of a chart
(`Renko.Chart.Grown.forall₂_origins`).
-/

namespace Renko

/-- What a brick stands for: a further step of a tick, or the ticks that it counts. -/
inductive Origin (α : Type)
  | further (taken : Taken α)
  | block (ticks : List (Taken α))

namespace Chart

variable {α : Type}

/-- What the bricks of a block stand for: the further steps of its first tick, and the block. -/
def blockOrigins : List (Taken α) → List (Origin α)
  | [] => []
  | first :: later => List.replicate (first.count - 1) (.further first) ++ [.block (first :: later)]

/-- What the bricks of a history stand for, in order. -/
def origins (past : List (Taken α)) : List (Origin α) := (blocks past).flatMap blockOrigins

/-- A tick that completes bricks takes its further steps and starts a block. -/
theorem origins_concat_of_completing {past : List (Taken α)} {taken : Taken α}
    (completes : taken.count ≠ 0) :
    origins (past ++ [taken]) =
      origins past ++ (List.replicate (taken.count - 1) (.further taken) ++ [.block [taken]]) := by
  have starts : blocks (past ++ [taken]) = blocks past ++ [[taken]] :=
    Grouping.splitBy_concat_of_unrelated fun _ _ => beq_false_of_ne completes
  rw [origins, starts, List.flatMap_append, List.flatMap_singleton]
  rfl

/-- A tick that completes nothing joins the block of the last brick. -/
theorem exists_last_block {past : List (Taken α)} (nonempty : past ≠ []) :
    ∃ earlier block, origins past = earlier ++ [.block block] ∧ (∀ taken ∈ block, taken ∈ past) ∧
      ∀ taken : Taken α, taken.count = 0 →
        origins (past ++ [taken]) = earlier ++ [.block (block ++ [taken])] := by
  obtain ⟨groups, group, last, split, -⟩ :=
    Grouping.exists_last_group (fun _ later => later.count == 0) nonempty
  have longer (taken : Taken α) (completes : taken.count = 0) :
      blocks (past ++ [taken]) = groups ++ [group ++ [last] ++ [taken]] :=
    Grouping.splitBy_concat_of_related split (beq_iff_eq.mpr completes)
  obtain ⟨first, later, whole⟩ : ∃ first later, group ++ [last] = first :: later :=
    List.exists_cons_of_ne_nil (by simp)
  rw [whole] at split longer
  have within : ∀ taken ∈ first :: later, taken ∈ past := by
    intro taken member
    rw [← List.flatten_splitBy (fun _ later => later.count == 0) past, split]
    exact List.mem_flatten.mpr ⟨_, List.mem_append_right _ (List.mem_singleton.mpr rfl), member⟩
  refine ⟨groups.flatMap blockOrigins ++ List.replicate (first.count - 1) (.further first),
    first :: later, ?_, within, fun taken completes => ?_⟩
  · rw [origins, blocks, split, List.flatMap_append, List.flatMap_singleton, List.append_assoc]
    rfl
  · rw [origins, longer taken completes, List.flatMap_append, List.flatMap_singleton,
      List.append_assoc]
    rfl

variable [Scalar α] {related : Brick α → Origin α → Prop}

/-- The ways to come by a brick keep a relation between bricks and what they stand for. Ticks are
known to satisfy a condition, and any two of them, the earlier one first, a condition on both. -/
structure Keeps (related : Brick α → Origin α → Prop) (allowed : Taken α → Prop)
    (inOrder : Taken α → Taken α → Prop) : Prop where
  opened : ∀ {taken : Taken α}, allowed taken → validBrickSize taken.chart.size = true →
    related (.provisional taken.tick) (.block [taken])
  absorbed : ∀ {brick : Brick α} {block : List (Taken α)} {taken : Taken α}, allowed taken →
    validBrickSize taken.chart.size = true → brick.kind = .last → related brick (.block block) →
    brick.stepsTo taken.chart.size taken.tick.price = 0 →
    related (brick.absorb taken.tick) (.block (block ++ [taken]))
  completed : ∀ {brick : Brick α} {block : List (Taken α)} {taken : Taken α}
    {direction : Direction} {further : Nat}, allowed taken →
    (∀ earlier ∈ block, inOrder earlier taken) → validBrickSize taken.chart.size = true →
    brick.kind = .last → related brick (.block block) →
    direction = Direction.toward brick.openPrice taken.tick.price →
    brick.stepsTo taken.chart.size taken.tick.price = further + 1 →
    related (brick.complete direction taken.chart.size) (.block block) ∧
      (∀ step ∈ Brick.ladder taken.tick.time direction taken.chart.size further
        (direction.step taken.chart.size brick.openPrice), related step (.further taken)) ∧
      related
        (.following taken.tick ((direction.step taken.chart.size)^[further + 1] brick.openPrice))
        (.block [taken])

private theorem forall₂_concat_iff {β γ : Type} {related : β → γ → Prop} {firsts : List β}
    {seconds : List γ} {first : β} {second : γ} :
    List.Forall₂ related (firsts ++ [first]) (seconds ++ [second]) ↔
      List.Forall₂ related firsts seconds ∧ related first second := by
  rw [← List.forall₂_reverse_iff, List.reverse_concat', List.reverse_concat', List.forall₂_cons,
    List.forall₂_reverse_iff, and_comm]

private theorem forall₂_replicate {β γ : Type} {related : β → γ → Prop} {firsts : List β}
    {second : γ} {count : Nat} (length : firsts.length = count)
    (all : ∀ first ∈ firsts, related first second) :
    List.Forall₂ related firsts (List.replicate count second) := by
  refine List.forall₂_iff_zip.mpr ⟨length.trans List.length_replicate.symm, ?_⟩
  intro first repeated member
  obtain ⟨inside, same⟩ := List.of_mem_zip member
  rw [List.eq_of_mem_replicate same]
  exact all first inside

/-- What every way to come by a brick keeps holds of all bricks of a chart. -/
theorem Grown.forall₂_origins {allowed : Taken α → Prop} {inOrder : Taken α → Taken α → Prop}
    (keeps : Keeps related allowed inOrder) {chart : Chart α} {past : List (Taken α)}
    (grown : Grown chart past) (all : ∀ taken ∈ past, allowed taken)
    (ordered : past.Pairwise inOrder) : List.Forall₂ related chart.bricks (origins past) := by
  induction grown with
  | empty valid => exact .nil
  | @step chart next past tick count before step inductionHypothesis =>
      obtain ⟨allEarlier, allowedNow⟩ := List.forall_mem_append.mp all
      obtain ⟨orderedEarlier, -, orderedNow⟩ := List.pairwise_append.mp ordered
      have bricks := inductionHypothesis allEarlier orderedEarlier
      have now := allowedNow _ (List.mem_singleton.mpr rfl)
      cases step with
      | @opened old size completed tick valid =>
          obtain rfl := before.past_eq_nil rfl
          have nothing := List.forall₂_nil_right_iff.mp bricks
          rw [Chart.bricks, Option.toList_none, List.append_nil] at nothing
          rw [Chart.bricks, nothing]
          exact .cons (keeps.opened now valid) .nil
      | @absorbed old size completed brick tick valid near =>
          obtain ⟨earlier, block, whole, -, longer⟩ := exists_last_block (before.past_ne_nil rfl)
          rw [whole, Chart.bricks, Option.toList_some, forall₂_concat_iff] at bricks
          rw [longer _ rfl, Chart.bricks, Option.toList_some, forall₂_concat_iff]
          exact ⟨bricks.1, keeps.absorbed now valid (before.provisional brick rfl) bricks.2 near⟩
      | @completed old size completed brick tick direction further valid toward far =>
          obtain ⟨earlier, block, whole, within, -⟩ := exists_last_block (before.past_ne_nil rfl)
          rw [whole, Chart.bricks, Option.toList_some, forall₂_concat_iff] at bricks
          obtain ⟨first, steps, next⟩ := keeps.completed now
            (fun taken member => orderedNow taken (within taken member) _
              (List.mem_singleton.mpr rfl))
            valid (before.provisional brick rfl) bricks.2 toward far
          rw [origins_concat_of_completing (Nat.succ_ne_zero further), whole, Chart.bricks,
            Option.toList_some, Array.toList_append, ← List.append_assoc, forall₂_concat_iff]
          refine ⟨?_, next⟩
          rw [Brick.staircase, ← List.singleton_append, ← List.append_assoc]
          refine List.rel_append (forall₂_concat_iff.mpr ⟨bricks.1, first⟩) ?_
          exact forall₂_replicate (Brick.length_ladder _ _ _ _ _) steps

end Chart

end Renko
