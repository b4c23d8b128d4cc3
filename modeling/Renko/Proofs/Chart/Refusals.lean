import Mathlib
import Renko.Proofs.Chart.History
import Renko.Proofs.Outcome

/-! # What a chart refuses

A chart refuses a feeding that asks for an invalid size, and nothing else. A chart that is written
in place stores the size it is asked for before it measures the tick (`Renko.Chart.write`). Since it
checks the size before it stores it, a feeding that is refused writes nothing, so that it can be
left out, and the size in force is the last valid one (`Renko.Chart.feedings_refused_exactly`).
-/

namespace Renko

open Outcome Calls

variable {α : Type} [Scalar α]

/-- Whether a feeding asks for no invalid size. -/
def Feeding.permitted (feeding : Feeding α) : Bool := feeding.resize.all validBrickSize

namespace Chart

variable {chart next : Chart α} {tick : Tick α} {resize : Option α} {size : α}
  {feeding : Feeding α} {count : Nat} {cause : TradeFault α}

/-- A feeding is refused for the size asked for. -/
theorem feed_eq_error :
    chart.feed tick resize = .error cause ↔
      ∃ asked, resize = some asked ∧ validBrickSize asked = false ∧
        cause = .invalidBrickSize asked := by
  cases resize with
  | none => exact iff_of_false (fun refused => nomatch refused) fun ⟨_, same, _⟩ => nomatch same
  | some size =>
      simp only [Option.some.injEq, exists_eq_left']
      cases valid : validBrickSize size with
      | true =>
          rw [feed_of_valid valid]
          exact iff_of_false (fun refused => nomatch refused) fun both => nomatch both.1
      | false =>
          rw [feed_of_invalid valid, Except.error.injEq, and_iff_right rfl, eq_comm]

private theorem feed_of_permitted (chart : Chart α) (permitted : feeding.permitted = true) :
    ∃ next count, chart.feed feeding.tick feeding.resize = .ok (next, count) := by
  rw [Feeding.permitted, Option.all_eq_true] at permitted
  exact ⟨_, _, feed_eq_ok.mpr ⟨permitted, rfl⟩⟩

private theorem feed_of_not_permitted (chart : Chart α) (invalid : feeding.permitted = false) :
    ∃ cause, chart.feed feeding.tick feeding.resize = .error cause := by
  obtain ⟨tick, resize⟩ := feeding
  cases resize with
  | none => cases invalid
  | some size => exact ⟨_, feed_of_invalid invalid chart tick⟩

private theorem fed_of_ok (accepted : chart.feed feeding.tick feeding.resize = .ok (next, count)) :
    chart.fed feeding = next := by
  rw [fed, taken?, accepted]
  rfl

private theorem fed_of_error (refused : chart.feed feeding.tick feeding.resize = .error cause) :
    chart.fed feeding = chart := by
  rw [fed, taken?, refused]
  rfl

/-- A feeding of a chart that is written in place, with the number of bricks it completed. -/
def write (feeding : Feeding α) : ExceptT (TradeFault α) (StateM (Chart α)) Nat := do
  if let some asked := feeding.resize then
    let size ← MonadExcept.ofExcept (checkBrickSize asked)
    modify fun chart => { chart with size }
  modifyGet fun chart => (chart.take feeding.tick).swap

/-- Written in place, a feeding is answered as it is by the chart, and leaves the chart it leaves.
-/
theorem answer_write (feeding : Feeding α) (chart : Chart α) : answer (write feeding) chart =
    (Prod.snd <$> chart.feed feeding.tick feeding.resize, chart.fed feeding) := by
  obtain ⟨tick, resize⟩ := feeding
  rw [fed, taken?, write]
  cases resize with
  | none => rfl
  | some size =>
      cases valid : validBrickSize size with
      | true =>
          simp only [feed_of_valid valid, checkBrickSize_of_valid valid]
          rfl
      | false =>
          simp only [feed_of_invalid valid, checkBrickSize_of_invalid valid]
          rfl

/-- No feeding writes anything before it is refused. -/
theorem traceless_write : Traceless (write (α := α)) fun _ => True where
  keeps := fun _ _ => trivial
  traceless := by
    intro chart _ feeding cause later refused
    rw [answer_write, Prod.mk.injEq] at refused
    obtain ⟨replied, rfl⟩ := refused
    exact fed_of_error (map_eq_error.mp replied)

/-- Feedings that are written in place leave the chart that they lead to. -/
theorem leaves_write (chart : Chart α) (feedings : List (Feeding α)) :
    leaves write chart feedings = chart.after feedings := by
  simp only [leaves, answer_write]
  rfl

/-- Which feedings are refused does not depend on the chart. -/
theorem accepted_write (chart : Chart α) (feedings : List (Feeding α)) :
    accepted write chart feedings = feedings.filter Feeding.permitted := by
  induction feedings generalizing chart with
  | nil => rfl
  | cons feeding later inductionHypothesis =>
      have answered := answer_write feeding chart
      cases permitted : feeding.permitted with
      | true =>
          obtain ⟨next, count, fed⟩ := chart.feed_of_permitted permitted
          rw [fed] at answered
          rw [accepted_cons_of_ok answered, inductionHypothesis, List.filter_cons_of_pos permitted]
      | false =>
          obtain ⟨cause, refused⟩ := chart.feed_of_not_permitted permitted
          rw [refused] at answered
          rw [accepted_cons_of_error answered, fed_of_error refused, inductionHypothesis,
            List.filter_cons_of_neg (Bool.eq_false_iff.mp permitted)]

/-- A feeding that is accepted leaves the size that it asks for, if it asks for one. -/
theorem size_fed_of_permitted (permitted : feeding.permitted = true) (chart : Chart α) :
    (chart.fed feeding).size = feeding.resize.getD chart.size := by
  obtain ⟨next, count, accepted⟩ := chart.feed_of_permitted permitted
  rw [fed_of_ok accepted, size_of_feed accepted]

private theorem fed_of_not_permitted (invalid : feeding.permitted = false) (chart : Chart α) :
    chart.fed feeding = chart := by
  obtain ⟨cause, refused⟩ := chart.feed_of_not_permitted invalid
  exact fed_of_error refused

/-- The size in force is the last valid one asked for. -/
theorem size_after (chart : Chart α) (feedings : List (Feeding α)) :
    (chart.after feedings).size =
      ((feedings.filter Feeding.permitted).filterMap (·.resize)).getLast?.getD chart.size := by
  induction feedings using List.reverseRecOn with
  | nil => rfl
  | append_singleton earlier feeding inductionHypothesis =>
      rw [after_concat, List.filter_append, List.filterMap_append]
      cases permitted : feeding.permitted with
      | false =>
          rw [fed_of_not_permitted permitted, inductionHypothesis,
            List.filter_cons_of_neg (Bool.eq_false_iff.mp permitted), List.filter_nil,
            List.filterMap_nil, List.append_nil]
      | true =>
          rw [size_fed_of_permitted permitted, inductionHypothesis,
            List.filter_cons_of_pos permitted, List.filter_nil]
          cases asked : feeding.resize with
          | none =>
              rw [List.filterMap_cons_none asked, List.filterMap_nil, List.append_nil,
                Option.getD_none]
          | some size =>
              rw [List.filterMap_cons_some asked, List.filterMap_nil, List.getLast?_concat,
                Option.getD_some, Option.getD_some]

/-- Which feedings a chart refuses, with which cause, and what is left of them: a chart that is
written in place answers as the chart that is replaced, and a refused feeding leaves it as it
was. -/
structure Refuses (chart : Chart Float) : Prop where
  invalid : ∀ tick resize cause, chart.feed tick resize = .error cause ↔
    ∃ asked, resize = some asked ∧ ¬(asked.isFinite = true ∧ 0 < asked) ∧
      cause = .invalidBrickSize asked
  answers : ∀ feeding, answer (write feeding) chart =
    (Prod.snd <$> chart.feed feeding.tick feeding.resize, chart.fed feeding)
  traceless : ∀ feeding cause later, answer (write feeding) chart = (.error cause, later) →
    later = chart

/-- A chart refuses invalid sizes and nothing else, and what it refuses leaves no trace. -/
theorem refuses (chart : Chart Float) : Refuses chart where
  invalid tick resize cause := by
    rw [feed_eq_error]
    simp only [← validBrickSize_iff, Bool.not_eq_true]
  answers feeding := answer_write feeding chart
  traceless feeding cause later := traceless_write.traceless trivial

/-- What feedings leave, refused ones included: the size in force is the last one that was not
refused, or else the first, and it is valid. Without the refused feedings the others leave the same
chart and are answered as before. -/
structure Spares (size : Float) (first : Chart Float) (feedings : List (Feeding Float)) : Prop where
  accepted : accepted write first feedings = feedings.filter Feeding.permitted
  inForce : (first.after feedings).size =
    ((Calls.accepted write first feedings).filterMap (·.resize)).getLast?.getD size
  valid : (first.after feedings).size.isFinite = true ∧ 0 < (first.after feedings).size
  leaves : leaves write first feedings = first.after feedings
  spared : first.after (Calls.accepted write first feedings) = first.after feedings
  sparedAnswers : transcript write first (Calls.accepted write first feedings) =
    (transcript write first feedings).filter (·.2.isOk)

/-- **Refusals are exact and leave no trace.** Whatever a chart was fed after its start, it refuses
a size that is infinite, undefined, or not above zero, and nothing else. What it refuses changes
neither its bricks nor its size, so that it can be left out of what the chart is fed. -/
theorem feedings_refused_exactly {size : Float} {first : Chart Float}
    (started : start size = .ok first) (feedings : List (Feeding Float)) :
    Refuses (first.after feedings) ∧ Spares size first feedings := by
  have grown := grown_after started feedings
  obtain ⟨-, rfl⟩ := start_eq_ok.mp started
  refine ⟨refuses _, accepted_write _ feedings, ?_, validBrickSize_iff.mp grown.valid,
    leaves_write _ feedings, ?_, (spare_accepted traceless_write trivial feedings).2⟩
  · rw [accepted_write, size_after]
  · rw [← leaves_write, ← leaves_write]
    exact (spare_accepted traceless_write trivial feedings).1

/-- A size below zero and an infinite one are refused between valid ones. -/
theorem feedings_refused_between_sizes :
    let first : Chart Float := ⟨1, #[], none⟩
    let feeding (ms : Int) (price : Float) (resize : Option Float) : Feeding Float :=
      ⟨⟨.ofMillis ms, price, 1⟩, resize⟩
    let feedings := [feeding 0 100 (some (-2)), feeding 1 100 none, feeding 2 101.75 (some 0.5),
      feeding 3 99 (some (1 / 0)), feeding 4 99 none]
    start 1 = .ok first ∧ feedings.map Feeding.permitted = [false, true, true, false, true] ∧
      (first.after feedings).size = 0.5 ∧ (first.after feedings).completed.size = 8 ∧
      Refuses (first.after feedings) ∧ Spares 1 first feedings := by
  intro first feeding feedings
  have started : start 1 = .ok first := start_eq_ok.mpr ⟨by decide +kernel, rfl⟩
  exact ⟨started, by decide +kernel, by decide +kernel, by decide +kernel,
    feedings_refused_exactly started feedings⟩

end Chart

end Renko
