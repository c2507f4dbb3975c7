import DocFilter.Number.Binary64

/-!
# The fewest digits that read back

Every double has decimals that round to it; this module finds the one with the fewest digits, of
those the nearest to the double, and of two equally near ones the even one.  For each digit count
from one to seventeen only the double's two neighbours on that decimal grid can be candidates, since
whenever a grid has a point that rounds to the double, one of the two neighbours does.
-/

namespace DocFilter

/-- The number `significand * 10 ^ exponent`. -/
structure Scientific where
  significand : Nat
  exponent : Int
  deriving DecidableEq, Repr

namespace Scientific

/-- Moves the zeros at the end of a significand into the exponent, at most `fuel` of them. -/
def stripZeros : (fuel significand : Nat) → (exponent : Int) → Scientific
  | 0, significand, exponent => ⟨significand, exponent⟩
  | fuel + 1, significand, exponent =>
    if significand % 10 = 0 then stripZeros fuel (significand / 10) (exponent + 1)
    else ⟨significand, exponent⟩

/-- The decimal digits of the significand. -/
def digits (x : Scientific) : List Char := Decimal.digits x.significand

/-- The exponent once the point stands after the first digit. -/
def leadingExponent (x : Scientific) : Int := x.exponent + (x.digits.length - 1 : Nat)

end Scientific

namespace Binary64

/-- The magnitude of a rank, in units of `10 ^ -1074`. -/
def decimalUnits (rank : Nat) : Nat := units rank * Nat.pow 5 1074

/-- Whether `c * step` units of `10 ^ -1074` round to `rank`. -/
def gridRoundsTo (rank step c : Nat) : Bool := roundsTo (c * step) (Decimal.powTen 1074) rank

/-- Of the two neighbours of `n` among the multiples of `step`, the one to write for `rank`, given
as the multiple; none if neither rounds to `rank`. -/
def gridChoice? (rank step n : Nat) : Option Nat :=
  let below := n / step
  let above := below + 1
  let gapBelow := n - below * step
  let gapAbove := above * step - n
  match gridRoundsTo rank step below, gridRoundsTo rank step above with
  | true, false => some below
  | false, true => some above
  | true, true =>
    if gapBelow < gapAbove || (gapBelow == gapAbove && below % 2 == 0) then some below
    else some above
  | false, false => none

/-- The shortest decimal that rounds to the magnitude of `rank`. -/
def shortest (rank : Nat) : Scientific :=
  if rank = 0 then ⟨0, 0⟩ else
  let n := decimalUnits rank
  let length := (Decimal.digits n).length
  let choice := (List.range 17).findSome? fun k =>
    (gridChoice? rank (Decimal.powTen (length - 1 - k)) n).map fun c => (c, length - 1 - k)
  match choice with
  | some (c, power) => Scientific.stripZeros 17 c ((power : Int) - 1074)
  | none => Scientific.stripZeros length n (-1074)

end Binary64

end DocFilter
