import Renko.Book

/-! # Summaries

What a list of positions earned. Open positions do not count; a trade that earned nothing counts as
a loss.
-/

namespace Renko

/-- Sums, counts and extremes over the closed positions. -/
structure Summary (α : Type) where
  gain : α
  gainCount : Nat
  loss : α
  lossCount : Nat
  opCount : Nat
  totalProfit : α
  winRate : α
  largestWin : α
  largestLoss : α
  deriving DecidableEq

namespace Summary

variable {α : Type} [Scalar α]

def blank : Summary α where
  gain := 0
  gainCount := 0
  loss := 0
  lossCount := 0
  opCount := 0
  totalProfit := 0
  winRate := 0
  largestWin := 0
  largestLoss := 0

/-- Counts the profit of one closed position. -/
def count (summary : Summary α) (profit : α) : Summary α :=
  if 0 < profit then
    { summary with
      opCount := summary.opCount + 1
      gain := summary.gain + profit
      gainCount := summary.gainCount + 1
      largestWin := Scalar.larger summary.largestWin profit }
  else
    { summary with
      opCount := summary.opCount + 1
      loss := summary.loss + profit
      lossCount := summary.lossCount + 1
      largestLoss := Scalar.smaller summary.largestLoss profit }

/-- Fills in what follows from the counts and sums. -/
def finish (summary : Summary α) : Summary α :=
  { summary with
    totalProfit := summary.gain + summary.loss
    winRate :=
      if summary.opCount = 0 then 0 else Scalar.ratio summary.gainCount summary.opCount }

def ofPositions (positions : List (Position α)) : Summary α :=
  finish <| (positions.filter (!·.isOpen)).foldl (fun summary position =>
    summary.count position.profit) blank

end Summary

end Renko
