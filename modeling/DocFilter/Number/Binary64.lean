import DocFilter.Number.Decimal

/-!
# Double-precision numbers

A `Binary64` is a sign and a *rank*: the place of its magnitude in the row of all magnitudes, `0`
for zero, one up for each next larger double, and `infinityRank` for infinity.  (In the interchange
format the rank is the number that the exponent and fraction fields spell.)  Comparisons are
comparisons of ranks, and rounding a number means finding the rank it is nearest to.  All of it is
exact arithmetic on naturals, in units of the smallest positive double.
-/

namespace DocFilter

namespace Binary64

/-- How many ranks share an exponent. -/
def ranksPerExponent : Nat := 0x10000000000000

/-- The rank of infinity, just past that of the largest finite magnitude. -/
def infinityRank : Nat := 0x7FF * ranksPerExponent

end Binary64

/-- A double other than a NaN: its sign and the rank of its magnitude. -/
structure Binary64 where
  negative : Bool
  rank : Nat
  rank_le : rank ≤ Binary64.infinityRank
  deriving DecidableEq, Repr

namespace Binary64

/-- The magnitude of a rank, in units of `2 ^ -1074`. -/
def units (rank : Nat) : Nat :=
  let exponent := rank / ranksPerExponent
  let fraction := rank % ranksPerExponent
  if exponent = 0 then fraction else (ranksPerExponent + fraction) <<< (exponent - 1)

/-- Whether the number `num / den` rounds to `rank` or above: it lies above the middle between the
magnitudes of `rank - 1` and `rank`, or on it while `rank` is even. -/
def reaches (num den rank : Nat) : Bool :=
  rank == 0 ||
    let middle := (units (rank - 1) + units rank) * den
    let twice := (2 * num) <<< 1074
    middle < twice || (middle == twice && rank % 2 == 0)

/-- The largest number below `2 ^ bits` above `base` that passes `p`, found bit by bit, for a `p`
that holds up to some point and not after it. -/
def lastPassing (p : Nat → Bool) : (bits base : Nat) → Nat
  | 0, base => base
  | bits + 1, base =>
    if p (base + 1 <<< bits) then lastPassing p bits (base + 1 <<< bits)
    else lastPassing p bits base

/-- The rank nearest to `num / den`, of two equally near ones the even one; infinity from half a
step above the largest finite magnitude on. -/
def nearestRank (num den : Nat) : Nat :=
  lastPassing (fun rank => rank ≤ infinityRank && reaches num den rank) 63 0

theorem lastPassing_eq_or (p : Nat → Bool) (bits base : Nat) :
    lastPassing p bits base = base ∨ p (lastPassing p bits base) = true := by
  induction bits generalizing base with
  | zero => exact .inl rfl
  | succ bits ih =>
    rw [lastPassing]
    split
    · next hp =>
      refine .inr ?_
      rcases ih (base + 1 <<< bits) with h | h
      · rw [h]; exact hp
      · exact h
    · exact ih base

theorem nearestRank_le (num den : Nat) : nearestRank num den ≤ infinityRank := by
  rcases lastPassing_eq_or (fun rank => rank ≤ infinityRank && reaches num den rank) 63 0
    with h | h
  · rw [nearestRank, h]
    exact Nat.zero_le _
  · rw [Bool.and_eq_true, decide_eq_true_eq] at h
    exact h.1

/-- Whether `num / den` rounds to `rank`. -/
def roundsTo (num den rank : Nat) : Bool := reaches num den rank && !reaches num den (rank + 1)

/-- The double nearest to a decimal; a number that rounds to zero gives the positive zero. -/
def nearest (d : Decimal) : Binary64 :=
  let rank := nearestRank d.coefficient.natAbs (Decimal.powTen d.scale)
  ⟨d.coefficient < 0 && rank != 0, rank, nearestRank_le _ _⟩

/-- The place of a double in the total order, in which the negative zero comes just before the
positive one. -/
def key (x : Binary64) : Int := if x.negative then -x.rank - 1 else x.rank

/-- The total order of doubles. -/
instance : Ord Binary64 where
  compare x y := compare x.key y.key

/-- The double is not infinite. -/
def IsFinite (x : Binary64) : Prop := x.rank < infinityRank

instance (x : Binary64) : Decidable x.IsFinite := Nat.decLt _ _

end Binary64

end DocFilter
