import Mathlib
import Renko.Chart
import Renko.Proofs.Chart.Shape
import Renko.Proofs.Chart.Travel

/-! # Repeats and turns

Which bricks a chart without repeats leaves out, and that at one size they are those of its turns.
-/

/-! ## Bricks without repeats

Of the completed bricks those are left out whose upper line is that of the brick kept before them
(`Renko.Chart.unique_eq_destutter`). A brick left out has that same upper line, so whoever compares
with the brick just before leaves out the same ones (`Renko.Chart.unique_eq_changes`).
-/

namespace Renko

section Changes

variable {β : Type} {R S : β → β → Prop} [DecidableRel R] [DecidableRel S]

/-- The first item, and every later one to which the item just before it is related. -/
def changes (R : β → β → Prop) [DecidableRel R] (items : List β) : List β :=
  items.head?.toList ++ ((items.zip items.tail).filter fun pair => R pair.1 pair.2).map Prod.snd

private theorem changes_of_related {first second : β} (later : List β) (related : R first second) :
    changes R (first :: second :: later) = first :: changes R (second :: later) := by
  simp [changes, related]

private theorem changes_of_not_related {first second : β} (later : List β)
    (unrelated : ¬R first second) :
    changes R (first :: second :: later) = first :: (changes R (second :: later)).tail := by
  simp [changes, unrelated]

/-- Relations that agree on neighbours select the same items. -/
theorem changes_congr {items : List β}
    (agree : items.IsChain fun before item => R before item ↔ S before item) :
    changes R items = changes S items := by
  induction items with
  | nil => rfl
  | cons first later inductionHypothesis =>
      cases later with
      | nil => rfl
      | cons second later =>
          obtain ⟨same, agreeLater⟩ := List.isChain_cons_cons.mp agree
          have rest := inductionHypothesis agreeLater
          by_cases related : R first second
          · rw [changes_of_related later related, changes_of_related later (same.mp related), rest]
          · rw [changes_of_not_related later related,
              changes_of_not_related later (mt same.mpr related), rest]

/-- As long as the item kept last is related to the same items as the one just before, it does not
matter with which of them the next item is compared. -/
theorem destutter'_eq_changes (alike : ∀ {before item : β}, ¬R before item →
      ∀ next, R before next ↔ R item next) {kept before : β}
    (same : ∀ next, R kept next ↔ R before next) (later : List β) :
    later.destutter' R kept = kept :: (changes R (before :: later)).tail := by
  induction later generalizing kept before with
  | nil => rfl
  | cons item later inductionHypothesis =>
      by_cases related : R kept item
      · rw [List.destutter'_cons_pos later related, inductionHypothesis fun _ => Iff.rfl,
          changes_of_related later ((same item).mp related)]
        rfl
      · -- the item left out takes the place of the one before it
        rw [List.destutter'_cons_neg later related, inductionHypothesis (alike related),
          changes_of_not_related later (mt (same item).mpr related)]
        rfl

/-- Whether an item is compared with the one before it or with the one kept last makes no
difference, if those left out are alike. -/
theorem destutter_eq_changes (alike : ∀ {before item : β}, ¬R before item →
    ∀ next, R before next ↔ R item next) (items : List β) :
    items.destutter R = changes R items := by
  cases items with
  | nil => rfl
  | cons first later => exact destutter'_eq_changes alike (fun _ => Iff.rfl) later

end Changes

variable {α : Type} [Scalar α]

/-- Two bricks with different upper lines. -/
abbrev Brick.Differs (kept brick : Brick α) : Prop := (kept.upperLine == brick.upperLine) = false

namespace Chart

/-- What is kept of further bricks after a last one is decided by that one. -/
theorem foldl_keepUnlessSame (kept : Array (Brick α)) (last : Brick α) (bricks : List (Brick α)) :
    (bricks.foldl keepUnlessSame (kept.push last)).toList =
      kept.toList ++ bricks.destutter' Brick.Differs last := by
  induction bricks generalizing kept last with
  | nil => rw [List.foldl_nil, Array.toList_push, List.destutter'_nil]
  | cons brick bricks inductionHypothesis =>
      rw [List.foldl_cons, keepUnlessSame, Array.back?_push, Option.any_some]
      cases same : last.upperLine == brick.upperLine with
      | true =>
          have repeats : ¬Brick.Differs last brick := by
            rw [Brick.Differs, same]
            exact fun differs => nomatch differs
          rw [if_pos rfl, inductionHypothesis, List.destutter'_cons_neg _ repeats]
      | false =>
          have differs : Brick.Differs last brick := same
          rw [if_neg Bool.false_ne_true, inductionHypothesis, List.destutter'_cons_pos _ differs,
            Array.toList_push, List.append_assoc]
          rfl

/-- **A chart without repeats.** -/
theorem unique_eq_destutter (chart : Chart α) :
    chart.unique = chart.completed.toList.destutter Brick.Differs := by
  rw [unique, ← Array.foldl_toList]
  cases chart.completed.toList with
  | nil => rfl
  | cons first later => exact foldl_keepUnlessSame #[] first later

/-- Where equality is symmetric and transitive, the brick kept last and the brick just before have
the same upper line. -/
theorem unique_eq_changes [PartialEquivBEq α] (chart : Chart α) :
    chart.unique = changes Brick.Differs chart.completed.toList := by
  rw [unique_eq_destutter]
  refine destutter_eq_changes (fun {before brick} repeats next => ?_) _
  rw [Brick.Differs, Brick.Differs, BEq.congr_left (eq_true_of_ne_false repeats)]

/-- No two neighbours of a chart without repeats are alike. -/
theorem isChain_unique (chart : Chart α) : chart.unique.IsChain Brick.Differs := by
  rw [unique_eq_destutter]
  exact List.isChain_destutter _ _

private theorem mem_completed_of_mem_unique {chart : Chart α} {brick : Brick α}
    (member : brick ∈ chart.unique) : brick ∈ chart.completed.toList := by
  rw [unique_eq_destutter] at member
  exact (List.destutter_sublist _ _).subset member

end Chart

end Renko

/-! ## Turns of a chart

At one size a brick that goes on has an upper line of its own, and a brick that turns back has that
of the brick before it. The bricks left out of a chart without repeats are therefore the first
bricks after each turn (`Renko.Chart.turns_after_feedings`).
-/

namespace Renko

namespace Brick

variable {before brick : Brick Rat} {size : Rat}

/-- The upper line of a brick that rises is its close. -/
theorem upperLine_of_rise (positive : 0 < size)
    (rise : brick.closePrice = brick.openPrice + size) :
    brick.upperLine = brick.openPrice + size := by
  rw [upperLine, Scalar.larger_eq_max, rise, max_eq_right (le_add_of_nonneg_right positive.le)]

/-- The upper line of a brick that falls is its open. -/
theorem upperLine_of_fall (positive : 0 < size)
    (fall : brick.closePrice = brick.openPrice - size) : brick.upperLine = brick.openPrice := by
  rw [upperLine, Scalar.larger_eq_max, fall, max_eq_left (sub_le_self _ positive.le)]

/-- Of two bricks of one size that meet, the later has the upper line of the earlier when it turns
back, and only then. -/
theorem Meets.differs_iff (meets : before.Meets brick) (positive : 0 < size)
    (spansBefore : before.Spans size) (spans : brick.Spans size) :
    before.Differs brick ↔ brick.kind = before.kind := by
  rw [Brick.Differs, beq_eq_false_iff_ne]
  rw [Brick.Meets] at meets
  rcases spansBefore with ⟨up, rise⟩ | ⟨down, fall⟩
  · rw [upperLine_of_rise positive rise, up]
    rcases spans with ⟨kind, further⟩ | ⟨kind, back⟩
    · rw [upperLine_of_rise positive further, meets, rise, kind]
      exact iff_of_true (Ne.symm (mt add_eq_left.mp positive.ne')) rfl
    · -- the later one opens at the top of the earlier one, and that is its own top
      rw [upperLine_of_fall positive back, meets, rise, kind]
      exact iff_of_false (fun differs => differs rfl) (by rintro ⟨⟩)
  · rw [upperLine_of_fall positive fall, down]
    rcases spans with ⟨kind, back⟩ | ⟨kind, further⟩
    · -- the later one covers the stretch of the earlier one
      rw [upperLine_of_rise positive back, meets, fall, sub_add_cancel, kind]
      exact iff_of_false (fun differs => differs rfl) (by rintro ⟨⟩)
    · rw [upperLine_of_fall positive further, meets, fall, kind]
      exact iff_of_true (Ne.symm (mt sub_eq_self.mp positive.ne')) rfl

end Brick

namespace Chart

/-- With one size in force two neighbours have different upper lines when they are of one kind. -/
theorem Grown.isChain_differs_iff {chart : Chart Rat} {past : List (Taken Rat)}
    (grown : Grown chart past) {size : Rat} (positive : 0 < size)
    (fixed : ∀ taken ∈ past, taken.chart.size = size) :
    chart.completed.toList.IsChain fun before brick =>
      before.Differs brick ↔ brick.kind = before.kind := by
  have chained : chart.completed.toList.IsChain Brick.Meets :=
    (List.isChain_append.mp grown.shaped.chained).1
  have spans := grown.spans_of_size fixed
  refine chained.imp_of_mem_imp fun before brick memberBefore member meets => ?_
  exact meets.differs_iff positive (spans before memberBefore) (spans brick member)

/-- The law of bricks without repeats. They are the first completed brick and every later one whose
upper line is not that of the completed brick just before it. No two in a row have one upper line,
and none of them is provisional. -/
structure Unrepeated {α : Type} [Scalar α] (chart : Chart α) : Prop where
  changed : chart.unique = changes Brick.Differs chart.completed.toList
  differ : chart.unique.IsChain Brick.Differs
  directed : ∀ brick ∈ chart.unique, brick.isProvisional = false

/-- However a chart has grown, it is without repeats where it should be. -/
theorem Grown.unrepeated {α : Type} [Scalar α] [PartialEquivBEq α] {chart : Chart α}
    {past : List (Taken α)} (grown : Grown chart past) : chart.Unrepeated := by
  refine ⟨chart.unique_eq_changes, chart.isChain_unique, fun brick member => ?_⟩
  rw [Brick.isProvisional]
  rcases grown.shaped.directed brick (mem_completed_of_mem_unique member) with up | down
  · rw [up]
    rfl
  · rw [down]
    rfl

/-- **Bricks without repeats.** After any feedings each brick is kept or left out by its comparison
with the one just before it. Over rational numbers and at one size the bricks left out are those
that turn back. -/
theorem turns_after_feedings :
    (∀ {size : Float} {first : Chart Float}, start size = .ok first → ∀ feedings,
      (first.after feedings).Unrepeated) ∧
    ∀ {size : Rat} {first : Chart Rat}, start size = .ok first → ∀ feedings,
      (∀ feeding ∈ feedings, ∀ asked ∈ feeding.resize, asked = size) →
        (first.after feedings).Unrepeated ∧
        (first.after feedings).unique = changes (fun before brick => brick.kind = before.kind)
          (first.after feedings).completed.toList := by
  constructor
  · intro size first started feedings
    exact (grown_after started feedings).unrepeated
  · intro size first started feedings asked
    have grown := grown_after started feedings
    obtain ⟨valid, rfl⟩ := start_eq_ok.mp started
    have fixed := size_of_mem_history ⟨size, #[], none⟩ asked
    refine ⟨grown.unrepeated, ?_⟩
    rw [unique_eq_changes]
    exact changes_congr (grown.isChain_differs_iff (positive_of_validBrickSize valid) fixed)

/-- At half the size, after an undefined price, two bricks turn back and two turn up again; at one
size two bricks up, one back, and two up again. -/
theorem turns_after_chops :
    let first : Chart Float := ⟨1, #[], none⟩
    let chop : List (Feeding Float) := [⟨⟨.ofMillis 0, 100, 3⟩, none⟩,
      ⟨⟨.ofMillis 1, 102, 3⟩, none⟩, ⟨⟨.ofMillis 2, 0 / 0, 3⟩, none⟩,
      ⟨⟨.ofMillis 3, 101, 3⟩, some 0.5⟩, ⟨⟨.ofMillis 4, 90, 3⟩, some (-1)⟩,
      ⟨⟨.ofMillis 5, 102.25, 3⟩, none⟩]
    let exact : Chart Rat := ⟨1, #[], none⟩
    let exactChop : List (Feeding Rat) := [⟨⟨.ofMillis 0, 100, 3⟩, none⟩,
      ⟨⟨.ofMillis 1, 102, 3⟩, none⟩, ⟨⟨.ofMillis 2, 101, 3⟩, some 1⟩,
      ⟨⟨.ofMillis 3, 103, 3⟩, none⟩]
    (start 1 = .ok first ∧
      (first.after chop).completed.toList.map (·.kind) = [.up, .up, .down, .down, .up, .up] ∧
      (first.after chop).unique.map (·.kind) = [.up, .up, .down, .up] ∧
      (first.after chop).Unrepeated) ∧
    start 1 = .ok exact ∧ (∀ feeding ∈ exactChop, ∀ asked ∈ feeding.resize, asked = 1) ∧
      (exact.after exactChop).completed.toList.map (·.kind) = [.up, .up, .down, .up, .up] ∧
      (exact.after exactChop).unique.map (·.closePrice) = [101, 102, 103] ∧
      (exact.after exactChop).Unrepeated ∧
      (exact.after exactChop).unique = changes (fun before brick => brick.kind = before.kind)
        (exact.after exactChop).completed.toList :=
  ⟨⟨start_eq_ok.mpr ⟨by decide +kernel, rfl⟩, by decide +kernel, by decide +kernel,
      turns_after_feedings.1 (start_eq_ok.mpr ⟨by decide +kernel, rfl⟩) _⟩,
    start_eq_ok.mpr ⟨by decide +kernel, rfl⟩, by decide +kernel, by decide +kernel,
    by decide +kernel,
    turns_after_feedings.2 (start_eq_ok.mpr ⟨by decide +kernel, rfl⟩) _ (by decide +kernel)⟩

end Chart

end Renko
