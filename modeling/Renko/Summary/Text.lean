import Renko.Number.Text
import Renko.Summary

/-! # The text of a summary

The figures of a summary are shown with a fixed number of places, whatever their size.
-/

namespace Renko

namespace FixedPlaces

/-- A count of parts as a text with so many digits behind the point. -/
def pointed (places count : Nat) : List Char :=
  let digits := Nat.toDigits 10 count
  let digits := List.replicate (places + 1 - digits.length) '0' ++ digits
  digits.take (digits.length - places) ++ '.' :: digits.drop (digits.length - places)

/-- A number with a fixed count of places, at least one. The exact number is rounded, a half to the
even neighbour, and the sign is kept also where only zeros are left. -/
def write (places : Nat) (x : Float) : String :=
  match Binary64.ofFloat x with
  | .undefined => "NaN"
  | .infinite negative => String.ofList (NumberStyle.sign negative ++ "inf".toList)
  | .finite negative mantissa exponent =>
    let count :=
      Tie.toEven.round (mantissa * power 2 exponent * power 10 places) (power 2 (-exponent))
    String.ofList (NumberStyle.sign negative ++ pointed places count)

end FixedPlaces

namespace Summary

/-- A summary as it is shown after a run, one line for each figure. -/
def text (summary : Summary Float) : String :=
  let money := FixedPlaces.write 2
  "Operations:       " ++ toString summary.opCount ++ "\n" ++
  "Gain:             " ++ money summary.gain ++
    " (" ++ toString summary.gainCount ++ " trades)\n" ++
  "Loss:             " ++ money summary.loss ++
    " (" ++ toString summary.lossCount ++ " trades)\n" ++
  "Win Rate:         " ++ FixedPlaces.write 1 (summary.winRate * 100) ++ "%\n" ++
  "Largest Win:      " ++ money summary.largestWin ++ "\n" ++
  "Largest Loss:     " ++ money summary.largestLoss ++ "\n" ++
  "Total Profit:     " ++ money summary.totalProfit ++ "\n"

end Summary

end Renko
