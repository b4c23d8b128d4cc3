import Mathlib
import Renko.Proofs.Scalar
import Renko.Summary

/-! # Summaries

What a summary counts and sums, over any scalars and then over rational numbers.
-/

/-! ## What a summary counts

A summary counts the closed positions, and over rational numbers its total is the sum of their
profits (`Renko.Summary.totalProfit_ofPositions`).
-/

namespace Renko.Summary

/-- The profits that a summary counts. -/
def profits {α : Type} (positions : List (Position α)) : List α :=
  (positions.filter (!·.isOpen)).map (·.profit)

section Counts

variable {α : Type} [Scalar α]

/-- A summary counts the profits of closed positions and is finished then. -/
theorem ofPositions_eq (positions : List (Position α)) :
    ofPositions positions = finish ((profits positions).foldl count blank) := by
  rw [ofPositions, profits, List.foldl_map]

/-- A profit that is counted is one operation more. -/
@[simp] theorem opCount_count (summary : Summary α) (profit : α) :
    (summary.count profit).opCount = summary.opCount + 1 := by
  unfold count
  split <;> rfl

private theorem opCount_foldl (summary : Summary α) (profits : List α) :
    (profits.foldl count summary).opCount = summary.opCount + profits.length := by
  induction profits generalizing summary with
  | nil => rfl
  | cons profit profits inductionHypothesis =>
      rw [List.foldl_cons, inductionHypothesis, opCount_count, List.length_cons]
      omega

/-- A summary counts as many operations as there are profits. -/
theorem opCount_ofPositions (positions : List (Position α)) :
    (ofPositions positions).opCount = (profits positions).length := by
  rw [ofPositions_eq]
  exact (opCount_foldl blank (profits positions)).trans (Nat.zero_add _)

end Counts

/-- A profit goes to the gain or to the loss, and in full. -/
theorem gain_add_loss_count (summary : Summary Rat) (profit : Rat) :
    (summary.count profit).gain + (summary.count profit).loss =
      summary.gain + summary.loss + profit := by
  unfold count
  split
  · exact add_right_comm _ _ _
  · exact (add_assoc _ _ _).symm

private theorem gain_add_loss_foldl (summary : Summary Rat) (profits : List Rat) :
    (profits.foldl count summary).gain + (profits.foldl count summary).loss =
      summary.gain + summary.loss + profits.sum := by
  induction profits generalizing summary with
  | nil => exact (add_zero _).symm
  | cons profit profits inductionHypothesis =>
      rw [List.foldl_cons, inductionHypothesis, gain_add_loss_count, List.sum_cons, add_assoc]

/-- Over rational numbers the total is the sum of the profits. -/
theorem totalProfit_ofPositions (positions : List (Position Rat)) :
    (ofPositions positions).totalProfit = (profits positions).sum := by
  rw [ofPositions_eq]
  change (List.foldl count blank _).gain + (List.foldl count blank _).loss = _
  rw [gain_add_loss_foldl]
  exact (congrArg (· + _) (add_zero (0 : Rat))).trans (zero_add _)

/-- A cost that every profit bears is borne by their sum once for each. -/
theorem sum_map_sub (profits : List Rat) (cost : Rat) :
    (profits.map (· - cost)).sum = profits.sum - cost * profits.length := by
  induction profits with
  | nil => simp
  | cons profit profits inductionHypothesis =>
      rw [List.map_cons, List.sum_cons, List.sum_cons, inductionHypothesis, List.length_cons]
      push_cast
      ring

/-! ## The figures of a summary

Over rational numbers a summary counts and sums the profits of closed positions, those above zero
as gains and the others as losses (`Renko.Summary.counts_ofPositions`). So its figures are the same
for the same profits in any order (`Renko.Summary.Counts.finish_congr`), and the figures of two
lists of positions make those of both together (`Renko.Summary.Counts.joins`).
-/

/-- The profits above zero. -/
def gains (profits : List Rat) : List Rat := profits.filter fun profit => decide (0 < profit)

/-- The profits that are not above zero. -/
def losses (profits : List Rat) : List Rat := profits.filter fun profit => !decide (0 < profit)

/-- What a summary has counted, apart from its total and its win rate. Zero takes part in the
extremes. -/
structure Counts (profits : List Rat) (summary : Summary Rat) : Prop where
  opCount : summary.opCount = profits.length
  gainCount : summary.gainCount = (gains profits).length
  lossCount : summary.lossCount = (losses profits).length
  gain : summary.gain = (gains profits).sum
  loss : summary.loss = (losses profits).sum
  largestWin : IsGreatest {profit | profit ∈ 0 :: gains profits} summary.largestWin
  largestLoss : IsLeast {profit | profit ∈ 0 :: losses profits} summary.largestLoss

/-- How the figures of two lists of trades make those of both together: counts and sums add up, of
the extremes the larger win and the smaller loss remain. -/
structure Joins (first second both : Summary Rat) : Prop where
  gain : both.gain = first.gain + second.gain
  gainCount : both.gainCount = first.gainCount + second.gainCount
  loss : both.loss = first.loss + second.loss
  lossCount : both.lossCount = first.lossCount + second.lossCount
  opCount : both.opCount = first.opCount + second.opCount
  totalProfit : both.totalProfit = first.totalProfit + second.totalProfit
  largestWin : both.largestWin = max first.largestWin second.largestWin
  largestLoss : both.largestLoss = min first.largestLoss second.largestLoss

section Profits

variable {profits others : List Rat} {profit : Rat}

private theorem pos_of_mem_gains (gained : profit ∈ gains profits) : 0 < profit :=
  of_decide_eq_true (List.mem_filter.mp gained).2

private theorem nonpos_of_mem_losses (lost : profit ∈ losses profits) : profit ≤ 0 := by
  have notGained := (List.mem_filter.mp lost).2
  rw [Bool.not_eq_true', decide_eq_false_iff_not] at notGained
  exact not_lt.mp notGained

private theorem length_gains_add_losses (profits : List Rat) :
    (gains profits).length + (losses profits).length = profits.length :=
  (List.length_eq_length_filter_add _).symm

private theorem gains_append (first second : List Rat) :
    gains (first ++ second) = gains first ++ gains second :=
  List.filter_append ..

private theorem losses_append (first second : List Rat) :
    losses (first ++ second) = losses first ++ losses second :=
  List.filter_append ..

private theorem gains_of_pos (gained : 0 < profit) :
    gains [profit] = [profit] ∧ losses [profit] = [] := by
  simp only [gains, losses, List.filter_singleton, gained, decide_true, Bool.not_true, cond_true,
    cond_false, and_self]

private theorem losses_of_not_pos (lost : ¬0 < profit) :
    gains [profit] = [] ∧ losses [profit] = [profit] := by
  simp only [gains, losses, List.filter_singleton, lost, decide_false, Bool.not_false, cond_true,
    cond_false, and_self]

/-- No single loss is below the sum of all. -/
theorem sum_losses_le_of_mem (lost : profit ∈ losses profits) : (losses profits).sum ≤ profit := by
  have rest : ((losses profits).erase profit).sum ≤ _ • (0 : Rat) :=
    List.sum_le_card_nsmul _ 0 fun other left => nonpos_of_mem_losses (List.mem_of_mem_erase left)
  rw [smul_zero] at rest
  rw [← List.sum_erase lost]
  exact add_le_of_nonpos_right rest

/-- Zero and what two lists hold is zero and what either holds. -/
theorem zero_append (first second : List Rat) :
    {profit | profit ∈ 0 :: (first ++ second)} =
      {profit | profit ∈ 0 :: first} ∪ {profit | profit ∈ 0 :: second} := by
  ext profit
  simp only [Set.mem_ofPred_eq, Set.mem_union, List.mem_cons, List.mem_append]
  tauto

end Profits

private theorem counts_blank : Counts [] blank where
  opCount := rfl
  gainCount := rfl
  lossCount := rfl
  gain := rfl
  loss := rfl
  largestWin := ⟨List.mem_cons_self, fun _ member => (List.mem_singleton.mp member).le⟩
  largestLoss := ⟨List.mem_cons_self, fun _ member => (List.mem_singleton.mp member).ge⟩

namespace Counts

variable {before profits others : List Rat} {summary other : Summary Rat}

/-- **One more profit.** If it is above zero it goes to the gains, else to the losses. -/
theorem count (counts : Counts profits summary) (profit : Rat) :
    Counts (profits ++ [profit]) (summary.count profit) := by
  by_cases gained : 0 < profit
  · obtain ⟨oneGain, noLoss⟩ := gains_of_pos gained
    have greatest : IsGreatest {won | won ∈ [0, profit]} profit :=
      ⟨by simp, by simp [upperBounds, gained.le]⟩
    rw [Summary.count, if_pos gained]
    constructor <;> simp only [gains_append, losses_append, oneGain, noLoss, List.append_nil,
      List.length_append, List.sum_append, List.length_singleton, List.sum_singleton,
      Scalar.larger_eq_max, zero_append]
    · rw [counts.opCount]
    · rw [counts.gainCount]
    · exact counts.lossCount
    · rw [counts.gain]
    · exact counts.loss
    · exact counts.largestWin.union greatest
    · exact counts.largestLoss
  · obtain ⟨noGain, oneLoss⟩ := losses_of_not_pos gained
    have least : IsLeast {lost | lost ∈ [0, profit]} profit :=
      ⟨by simp, by simp [lowerBounds, not_lt.mp gained]⟩
    rw [Summary.count, if_neg gained]
    constructor <;> simp only [gains_append, losses_append, noGain, oneLoss, List.append_nil,
      List.length_append, List.sum_append, List.length_singleton, List.sum_singleton,
      Scalar.smaller_eq_min, zero_append]
    · rw [counts.opCount]
    · exact counts.gainCount
    · rw [counts.lossCount]
    · exact counts.gain
    · rw [counts.loss]
    · exact counts.largestWin
    · exact counts.largestLoss.union least

/-- **A run over profits** counts them behind those it has counted before. -/
theorem foldl (counts : Counts before summary) (profits : List Rat) :
    Counts (before ++ profits) (profits.foldl Summary.count summary) := by
  induction profits generalizing before summary with
  | nil => rwa [List.append_nil]
  | cons profit profits inductionHypothesis =>
      rw [List.foldl_cons, ← List.singleton_append, ← List.append_assoc]
      exact inductionHypothesis (counts.count profit)

/-- The total and the win rate are no part of what was counted. -/
theorem finish (counts : Counts profits summary) : Counts profits summary.finish where
  opCount := counts.opCount
  gainCount := counts.gainCount
  lossCount := counts.lossCount
  gain := counts.gain
  loss := counts.loss
  largestWin := counts.largestWin
  largestLoss := counts.largestLoss

/-- The order of profits makes no difference to what is counted. -/
theorem perm (counts : Counts profits summary) (same : profits.Perm others) :
    Counts others summary := by
  have sameGains : (gains profits).Perm (gains others) := same.filter _
  have sameLosses : (losses profits).Perm (losses others) := same.filter _
  refine ⟨?_, ?_, ?_, ?_, ?_, ?_, ?_⟩
  · rw [counts.opCount, same.length_eq]
  · rw [counts.gainCount, sameGains.length_eq]
  · rw [counts.lossCount, sameLosses.length_eq]
  · rw [counts.gain, sameGains.sum_eq]
  · rw [counts.loss, sameLosses.sum_eq]
  · simpa only [List.mem_cons, sameGains.mem_iff] using counts.largestWin
  · simpa only [List.mem_cons, sameLosses.mem_iff] using counts.largestLoss

/-- What was counted decides all figures. -/
theorem finish_congr (counts : Counts profits summary) (again : Counts profits other) :
    summary.finish = other.finish := by
  simp only [Summary.finish, counts.opCount, counts.gainCount, counts.lossCount, counts.gain,
    counts.loss, again.opCount, again.gainCount, again.lossCount, again.gain, again.loss,
    counts.largestWin.unique again.largestWin, counts.largestLoss.unique again.largestLoss]

/-- What was counted of two lists is counted of both together. -/
theorem joins {first second : List Rat} {one two both : Summary Rat} (countsOne : Counts first one)
    (countsTwo : Counts second two) (countsBoth : Counts (first ++ second) both) :
    Joins one.finish two.finish both.finish := by
  obtain ⟨opCount, gainCount, lossCount, gain, loss, largestWin, largestLoss⟩ := countsBoth
  simp only [gains_append, losses_append, List.length_append, List.sum_append, zero_append]
    at opCount gainCount lossCount gain loss largestWin largestLoss
  rw [← countsOne.opCount, ← countsTwo.opCount] at opCount
  rw [← countsOne.gainCount, ← countsTwo.gainCount] at gainCount
  rw [← countsOne.lossCount, ← countsTwo.lossCount] at lossCount
  rw [← countsOne.gain, ← countsTwo.gain] at gain
  rw [← countsOne.loss, ← countsTwo.loss] at loss
  refine ⟨gain, gainCount, loss, lossCount, opCount, ?_, ?_, ?_⟩
  · change both.gain + both.loss = one.gain + one.loss + (two.gain + two.loss)
    rw [gain, loss, add_add_add_comm]
  · exact largestWin.unique (countsOne.largestWin.union countsTwo.largestWin)
  · exact largestLoss.unique (countsOne.largestLoss.union countsTwo.largestLoss)

/-- The largest win lies between zero and the gain, which it makes up as often as there are gains
or less. -/
theorem win_bounds (counts : Counts profits summary) :
    0 ≤ summary.largestWin ∧ summary.largestWin ≤ summary.gain ∧
      summary.gain ≤ summary.gainCount * summary.largestWin := by
  have nonneg : ∀ profit ∈ gains profits, 0 ≤ profit := fun profit gained =>
    (pos_of_mem_gains gained).le
  obtain ⟨member, most⟩ := counts.largestWin
  refine ⟨most List.mem_cons_self, ?_, ?_⟩
  · rw [counts.gain]
    rcases List.mem_cons.mp member with none | gained
    · rw [none]
      exact List.sum_nonneg nonneg
    · exact List.single_le_sum nonneg _ gained
  · rw [counts.gain, counts.gainCount, ← nsmul_eq_mul]
    exact List.sum_le_card_nsmul _ _ fun profit gained => most (List.mem_cons_of_mem _ gained)

/-- The loss lies between its largest trade and as many times that trade as there are losses. -/
theorem loss_bounds (counts : Counts profits summary) :
    summary.lossCount * summary.largestLoss ≤ summary.loss ∧
      summary.loss ≤ summary.largestLoss ∧ summary.largestLoss ≤ 0 := by
  obtain ⟨member, least⟩ := counts.largestLoss
  refine ⟨?_, ?_, least List.mem_cons_self⟩
  · rw [counts.loss, counts.lossCount, ← nsmul_eq_mul]
    exact List.card_nsmul_le_sum _ _ fun profit lost => least (List.mem_cons_of_mem _ lost)
  · rw [counts.loss]
    rcases List.mem_cons.mp member with none | lost
    · rw [none, ← smul_zero (losses profits).length]
      exact List.sum_le_card_nsmul _ 0 fun profit lost => nonpos_of_mem_losses lost
    · exact sum_losses_le_of_mem lost

/-- If there is a gain, the largest win is one. -/
theorem largestWin_of_gains (counts : Counts profits summary) (won : gains profits ≠ []) :
    IsGreatest {profit | profit ∈ gains profits} summary.largestWin := by
  obtain ⟨member, most⟩ := counts.largestWin
  refine ⟨?_, fun profit gained => most (List.mem_cons_of_mem _ gained)⟩
  rcases List.mem_cons.mp member with none | gained
  · obtain ⟨profit, gained⟩ := List.exists_mem_of_ne_nil _ won
    have above := most (List.mem_cons_of_mem 0 gained)
    rw [none] at above
    exact absurd (pos_of_mem_gains gained) above.not_gt
  · exact gained

/-- If there is a loss, the largest loss is one, even if nothing was lost by it. -/
theorem largestLoss_of_losses (counts : Counts profits summary) (lost : losses profits ≠ []) :
    IsLeast {profit | profit ∈ losses profits} summary.largestLoss := by
  obtain ⟨member, least⟩ := counts.largestLoss
  refine ⟨?_, fun profit lost => least (List.mem_cons_of_mem _ lost)⟩
  rcases List.mem_cons.mp member with none | mine
  · obtain ⟨profit, mine⟩ := List.exists_mem_of_ne_nil _ lost
    have atLeast := least (List.mem_cons_of_mem 0 mine)
    rw [none] at atLeast ⊢
    rwa [Set.mem_ofPred_eq, le_antisymm atLeast (nonpos_of_mem_losses mine)]
  · exact mine

end Counts

/-- **A summary counts the profits** of the closed positions. -/
theorem counts_ofPositions (positions : List (Position Rat)) :
    Counts (profits positions) (ofPositions positions) := by
  rw [ofPositions_eq]
  exact (counts_blank.foldl (profits positions)).finish

/-- The closed positions of a list whose profit passes a test. -/
theorem length_filter_profits (positions : List (Position Rat)) (passes : Rat → Bool) :
    ((profits positions).filter passes).length =
      positions.countP fun position => !position.isOpen && passes position.profit := by
  rw [profits, List.filter_map, List.length_map, List.filter_filter, ← List.countP_eq_length_filter]
  exact List.countP_congr fun position _ => by simp only [Function.comp_apply, Bool.and_comm]

/-- What the figures of a summary say of the positions. -/
structure Describes (summary : Summary Rat) (positions : List (Position Rat)) : Prop where
  opCount : summary.opCount = positions.countP fun position => !position.isOpen
  opCount_eq : summary.opCount = summary.gainCount + summary.lossCount
  gainCount : summary.gainCount =
    positions.countP fun position => !position.isOpen && decide (0 < position.profit)
  gain : summary.gain = (gains (profits positions)).sum
  loss : summary.loss = (losses (profits positions)).sum
  totalProfit : summary.totalProfit = (profits positions).sum
  win_bounds : 0 ≤ summary.largestWin ∧ summary.largestWin ≤ summary.gain ∧
    summary.gain ≤ summary.gainCount * summary.largestWin
  loss_bounds : summary.lossCount * summary.largestLoss ≤ summary.loss ∧
    summary.loss ≤ summary.largestLoss ∧ summary.largestLoss ≤ 0
  largestWin : if gains (profits positions) = [] then summary.largestWin = 0
    else IsGreatest {profit | profit ∈ gains (profits positions)} summary.largestWin
  largestLoss : if losses (profits positions) = [] then summary.largestLoss = 0
    else IsLeast {profit | profit ∈ losses (profits positions)} summary.largestLoss
  winRate : summary.winRate =
    if summary.opCount = 0 then 0 else (summary.gainCount : Rat) / summary.opCount
  winRate_bounds : 0 ≤ summary.winRate ∧ summary.winRate ≤ 1

/-- A share of a count, or zero of none, lies between zero and one. -/
theorem share_bounds {part whole : Nat} (within : part ≤ whole) :
    0 ≤ (if whole = 0 then 0 else (part : Rat) / whole) ∧
      (if whole = 0 then 0 else (part : Rat) / whole) ≤ 1 := by
  split
  · exact ⟨le_refl 0, zero_le_one⟩
  · have most : (part : Rat) ≤ whole := Nat.cast_le.mpr within
    exact ⟨div_nonneg part.cast_nonneg whole.cast_nonneg, div_le_one_of_le₀ most whole.cast_nonneg⟩

/-- A summary describes its positions. -/
theorem describes_ofPositions (positions : List (Position Rat)) :
    (ofPositions positions).Describes positions := by
  have counts := counts_ofPositions positions
  have split : (ofPositions positions).opCount =
      (ofPositions positions).gainCount + (ofPositions positions).lossCount := by
    rw [counts.opCount, counts.gainCount, counts.lossCount, length_gains_add_losses]
  have rate : (ofPositions positions).winRate = if (ofPositions positions).opCount = 0 then 0
      else ((ofPositions positions).gainCount : Rat) / (ofPositions positions).opCount := by
    rw [← Int.cast_natCast (ofPositions positions).gainCount, ← Rat.mkRat_eq_div]
    rfl
  constructor
  · rw [opCount_ofPositions, profits, List.length_map, List.countP_eq_length_filter]
  · exact split
  · rw [counts.gainCount, gains, length_filter_profits]
  · exact counts.gain
  · exact counts.loss
  · exact totalProfit_ofPositions positions
  · exact counts.win_bounds
  · exact counts.loss_bounds
  · by_cases none : gains (profits positions) = []
    · have zero := counts.largestWin.1
      rw [none] at zero
      rw [if_pos none, List.mem_singleton.mp zero]
    · rw [if_neg none]
      exact counts.largestWin_of_gains none
  · by_cases none : losses (profits positions) = []
    · have zero := counts.largestLoss.1
      rw [none] at zero
      rw [if_pos none, List.mem_singleton.mp zero]
    · rw [if_neg none]
      exact counts.largestLoss_of_losses none
  · exact rate
  · rw [rate]
    exact share_bounds (split ▸ Nat.le_add_right _ _)

/-- **A summary is decided by the closed trades, in any order.** It counts and sums the gains and
the losses of the closed positions and finds their extremes. It is the same for the same closed
positions in another order, whatever open ones are among them, and the summaries of two lists make
that of both together. -/
theorem figures_of_trades (positions : List (Position Rat)) :
    (ofPositions positions).Describes positions ∧
    (∀ others : List (Position Rat),
      (others.filter fun position => !position.isOpen).Perm
        (positions.filter fun position => !position.isOpen) →
      ofPositions others = ofPositions positions) ∧
    ∀ later,
      Joins (ofPositions positions) (ofPositions later) (ofPositions (positions ++ later)) := by
  refine ⟨describes_ofPositions positions, ?_, ?_⟩
  · intro others same
    have counts := counts_blank.foldl (profits others)
    have again := counts_blank.foldl (profits positions)
    rw [ofPositions_eq, ofPositions_eq]
    exact counts.finish_congr (again.perm (same.map _).symm)
  · intro later
    have together : profits (positions ++ later) = profits positions ++ profits later := by
      rw [profits, List.filter_append, List.map_append]
      rfl
    have counts := counts_blank.foldl (profits (positions ++ later))
    rw [List.nil_append, together] at counts
    rw [ofPositions_eq, ofPositions_eq, ofPositions_eq, together]
    exact (counts_blank.foldl _).joins (counts_blank.foldl _) counts

/-- Four trades that gain, lose, gain and earn nothing: in another order, with an open position
among them, they have the same summary. -/
theorem figures_of_four_trades :
    let closed (side : Side) (price closedAt : Rat) : Position Rat :=
      (Position.opened ⟨0⟩ side price).update closedAt true
    let pending : Position Rat := (Position.opened ⟨1⟩ .buy 100).update 150 false
    let positions := [closed .buy 100 110, closed .sell 100 104, closed .sell 100 95,
      closed .buy 100 100]
    let others := [closed .buy 100 100, closed .sell 100 104, pending, closed .buy 100 110,
      closed .sell 100 95]
    (others.filter fun position => !position.isOpen).Perm
        (positions.filter fun position => !position.isOpen) ∧
      ofPositions others = ofPositions positions ∧
      ofPositions positions = ⟨15, 2, -4, 2, 4, 11, 1 / 2, 10, -4⟩ := by
  intro closed pending positions others
  have same : (others.filter fun position => !position.isOpen).Perm
      (positions.filter fun position => !position.isOpen) := by decide +kernel
  exact ⟨same, (figures_of_trades positions).2.1 others same, by decide +kernel⟩

end Renko.Summary
