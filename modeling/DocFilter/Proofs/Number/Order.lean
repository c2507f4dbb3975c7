import DocFilter.Proofs.Number.Shortest
import Mathlib.Algebra.Order.Field.Rat
import Mathlib.Data.Nat.Find

/-!
# Rounding keeps the order

A decimal denotes a rational number, its value.  The larger a number, the more ranks it reaches, so
the double nearest to a decimal does not decrease when the value grows, be it beyond the largest
double or between zero and the smallest.  Two doubles can therefore be in strict order only if the
values that they were rounded from are (`value_lt_of_key_lt`).  The converse does not hold:
different values may have one double.
-/

namespace DocFilter

/-! ### The value of a decimal -/

namespace Decimal

/-- The rational number that a decimal denotes. -/
def value (d : Decimal) : ℚ := d.coefficient / powTen d.scale

variable {d d' : Decimal}

theorem cast_powTen_pos (n : Nat) : (0 : ℚ) < powTen n := Nat.cast_pos.2 (powTen_pos n)

theorem value_le_value_iff : d.value ≤ d'.value ↔
    d.coefficient * powTen d'.scale ≤ d'.coefficient * powTen d.scale := by
  rw [value, value, div_le_div_iff₀ (cast_powTen_pos _) (cast_powTen_pos _)]
  exact_mod_cast Iff.rfl

/-- Decimals are equal if they denote one number. -/
theorem beq_iff_value_eq : (d == d') = true ↔ d.value = d'.value := by
  rw [beq_iff, value, value, div_eq_div_iff (cast_powTen_pos _).ne' (cast_powTen_pos _).ne']
  exact_mod_cast Iff.rfl

end Decimal

namespace Binary64

open Decimal

/-! ### Larger numbers reach more ranks -/

theorem shiftLeft_mul_mono {num den num' den' : Nat} (bits : Nat) (h : num * den' ≤ num' * den) :
    (2 * num) <<< bits * den' ≤ (2 * num') <<< bits * den := by
  rw [Nat.shiftLeft_eq, Nat.shiftLeft_eq]
  calc 2 * num * 2 ^ bits * den' = 2 * 2 ^ bits * (num * den') := by ring
    _ ≤ 2 * 2 ^ bits * (num' * den) := Nat.mul_le_mul_left _ h
    _ = 2 * num' * 2 ^ bits * den := by ring

/-- What is reached by a number is reached by every larger one. -/
theorem reaches_mono {num den num' den' rank : Nat} (hden : 0 < den) (hden' : 0 < den')
    (h : num * den' ≤ num' * den) (hr : reaches num den rank = true) :
    reaches num' den' rank = true := by
  cases rank with
  | zero => rfl
  | succ rank =>
    rw [reaches_succ_iff] at hr ⊢
    generalize units rank + units (rank + 1) = middle at hr ⊢
    have hscaled := shiftLeft_mul_mono 1074 h
    have hmiddle : middle * den' * den = middle * den * den' := Nat.mul_right_comm middle den' den
    rcases hr with hr | ⟨hr, heven⟩
    · left
      apply lt_of_mul_lt_mul_right _ (Nat.zero_le den)
      calc middle * den' * den = middle * den * den' := hmiddle
        _ < (2 * num) <<< 1074 * den' := Nat.mul_lt_mul_of_pos_right hr hden'
        _ ≤ (2 * num') <<< 1074 * den := hscaled
    · have hle : middle * den' ≤ (2 * num') <<< 1074 := by
        apply le_of_mul_le_mul_right _ hden
        calc middle * den' * den = middle * den * den' := hmiddle
          _ = (2 * num) <<< 1074 * den' := by rw [hr]
          _ ≤ (2 * num') <<< 1074 * den := hscaled
      rcases hle.lt_or_eq with hlt | heq
      · exact .inl hlt
      · exact .inr ⟨heq, heven⟩

/-- The nearest rank is the last one that is reached, up to that of infinity. -/
theorem le_nearestRank_iff {num den rank : Nat} (hden : 0 < den) :
    rank ≤ nearestRank num den ↔ rank ≤ infinityRank ∧ reaches num den rank = true := by
  let passes := fun rank => rank ≤ infinityRank ∧ reaches num den rank = true
  let last := Nat.findGreatest passes infinityRank
  have hlast : passes last := by
    apply Nat.findGreatest_spec (Nat.zero_le infinityRank)
    exact ⟨Nat.zero_le infinityRank, rfl⟩
  have hnext : ¬passes (last + 1) := by
    intro hpasses
    exact Nat.findGreatest_is_greatest (Nat.lt_succ_self last) hpasses.1 hpasses
  have hnearest : nearestRank num den = last := nearestRank_eq_of_last hden hlast hnext
  rw [hnearest]
  constructor
  · intro hle
    exact ⟨hle.trans hlast.1, reaches_of_le hden hle hlast.2⟩
  · intro hpasses
    exact Nat.le_findGreatest hpasses.1 hpasses

theorem nearestRank_mono {num den num' den' : Nat} (hden : 0 < den) (hden' : 0 < den')
    (h : num * den' ≤ num' * den) : nearestRank num den ≤ nearestRank num' den' := by
  obtain ⟨hle, hreaches⟩ := (le_nearestRank_iff hden).1 (le_refl (nearestRank num den))
  rw [le_nearestRank_iff hden']
  exact ⟨hle, reaches_mono hden hden' h hreaches⟩

/-! ### The order of doubles -/

theorem isLT_compare_iff {x y : Binary64} : (compare x y).isLT = true ↔ x.key < y.key := by
  show (compare x.key y.key).isLT = true ↔ _
  rw [Ordering.isLT_iff_eq_lt, Int.compare_eq_lt]

theorem isGT_compare_iff {x y : Binary64} : (compare x y).isGT = true ↔ y.key < x.key := by
  show (compare x.key y.key).isGT = true ↔ _
  rw [Ordering.isGT_iff_eq_gt, Int.compare_eq_gt]

/-- The places below zero are those of the doubles with a minus. -/
theorem key_neg_iff {x : Binary64} : x.key < 0 ↔ x.negative = true := by
  rw [key]
  split
  · next hsign => exact iff_of_true (by omega) hsign
  · next hsign => exact iff_of_false (by omega) hsign

/-- A double is known by its place in the order. -/
theorem key_injective {x y : Binary64} (h : x.key = y.key) : x = y := by
  have hsign : x.negative = y.negative := by
    rw [Bool.eq_iff_iff, ← key_neg_iff, ← key_neg_iff, h]
  have hrank : x.rank = y.rank := by
    rw [key, key, hsign] at h
    split at h <;> omega
  obtain ⟨negative, rank, hle⟩ := x
  obtain ⟨negative', rank', hle'⟩ := y
  cases hsign
  cases hrank
  rfl

/-! ### Rounding -/

theorem rank_nearest (d : Decimal) :
    (nearest d).rank = nearestRank d.coefficient.natAbs (powTen d.scale) := by
  rw [nearest]

theorem key_nearest_of_nonneg {d : Decimal} (h : 0 ≤ d.coefficient) :
    (nearest d).key = nearestRank d.coefficient.natAbs (powTen d.scale) := by
  have hsign : (nearest d).negative = false := by
    rw [nearest, decide_eq_false (Int.not_lt.2 h), Bool.false_and]
  rw [key, hsign, if_neg Bool.false_ne_true, rank_nearest]

theorem key_nearest_of_neg {d : Decimal} (h : d.coefficient < 0) :
    (nearest d).key =
      if nearestRank d.coefficient.natAbs (powTen d.scale) = 0 then 0
      else -(nearestRank d.coefficient.natAbs (powTen d.scale) : Int) - 1 := by
  have hsign : (nearest d).negative =
      (nearestRank d.coefficient.natAbs (powTen d.scale) != 0) := by
    rw [nearest, decide_eq_true h, Bool.true_and]
  rw [key, hsign, rank_nearest]
  generalize nearestRank d.coefficient.natAbs (powTen d.scale) = rank
  by_cases hzero : rank = 0
  · rw [hzero]
    rfl
  · rw [if_neg hzero, if_pos (bne_iff_ne.2 hzero)]

/-- The nearest double of a decimal does not decrease when the value grows. -/
theorem key_nearest_mono {d d' : Decimal} (h : d.value ≤ d'.value) :
    (nearest d).key ≤ (nearest d').key := by
  rw [value_le_value_iff] at h
  have hs := powTen_pos d.scale
  have hs' := powTen_pos d'.scale
  by_cases hneg : d.coefficient < 0
  · rw [key_nearest_of_neg hneg]
    by_cases hneg' : d'.coefficient < 0
    · -- Of two numbers below zero the lower one has the larger magnitude.
      have hmagnitude : d'.coefficient.natAbs * powTen d.scale ≤
          d.coefficient.natAbs * powTen d'.scale := by
        have habs : (d.coefficient.natAbs : Int) = -d.coefficient := by omega
        have habs' : (d'.coefficient.natAbs : Int) = -d'.coefficient := by omega
        rw [← Int.ofNat_le, Int.natCast_mul, Int.natCast_mul, habs, habs', Int.neg_mul,
          Int.neg_mul]
        exact Int.neg_le_neg h
      have hrank := nearestRank_mono hs' hs hmagnitude
      rw [key_nearest_of_neg hneg']
      split <;> split <;> omega
    · rw [key_nearest_of_nonneg (Int.not_lt.1 hneg')]
      split <;> omega
  · have hnonneg : 0 ≤ d.coefficient := Int.not_lt.1 hneg
    have hnonneg' : 0 ≤ d'.coefficient := by
      have hproduct : 0 ≤ d'.coefficient * powTen d.scale :=
        (Int.mul_nonneg hnonneg (Int.natCast_nonneg _)).trans h
      exact nonneg_of_mul_nonneg_left hproduct (Int.natCast_pos.2 hs)
    have hmagnitude : d.coefficient.natAbs * powTen d'.scale ≤
        d'.coefficient.natAbs * powTen d.scale := by
      rw [← Int.ofNat_le, Int.natCast_mul, Int.natCast_mul, Int.natAbs_of_nonneg hnonneg,
        Int.natAbs_of_nonneg hnonneg']
      exact h
    rw [key_nearest_of_nonneg hnonneg, key_nearest_of_nonneg hnonneg']
    exact Int.ofNat_le.2 (nearestRank_mono hs hs' hmagnitude)

/-- Values are in strict order if their nearest doubles are. -/
theorem value_lt_of_key_lt {d d' : Decimal} (h : (nearest d).key < (nearest d').key) :
    d.value < d'.value := by
  by_contra hle
  exact absurd (key_nearest_mono (not_lt.1 hle)) (not_le.2 h)

/-- Only the negative zero has a sign to lose. -/
theorem withoutZeroSign_eq_self {x : Binary64} (h : x.isNegativeZero = false) :
    x.withoutZeroSign = x := by
  obtain ⟨negative, rank, hle⟩ := x
  cases negative with
  | false => rfl
  | true =>
    have hrank : (rank != 0) = true := by simpa [isNegativeZero, bne_iff_ne] using h
    simp [withoutZeroSign, hrank]

end Binary64

namespace JsonNumber

open Binary64

/-- A number other than the negative zero has the double that is nearest to its value. -/
theorem nearest_toDecimal_of_isNegativeZero_eq_false {n : JsonNumber}
    (h : n.toBinary64.isNegativeZero = false) : nearest n.toDecimal = n.toBinary64 := by
  rw [nearest_toDecimal, withoutZeroSign_eq_self h]

end JsonNumber
end DocFilter
