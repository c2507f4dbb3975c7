import DocFilter.Json.Basic
import DocFilter.Proofs.Number.Rounding

/-!
# The text of a double reads back

The decimal that a double is written as rounds to this double, so that the double of a number can be
had from its exact value alone, but for the sign of zero, which no value has.  Numbers of one value
therefore have one double, unless one of them is the negative zero and the other is not.
-/

namespace DocFilter

namespace Decimal

theorem powTen_zero : powTen 0 = 1 := rfl

theorem powTen_add (m n : Nat) : powTen (m + n) = powTen m * powTen n := Nat.pow_add 10 m n

theorem powTen_one : powTen 1 = 10 := rfl

theorem powTen_eq (n : Nat) : powTen n = 2 ^ n * Nat.pow 5 n := Nat.mul_pow 2 5 n

end Decimal

open Decimal

/-! ### Significands and exponents -/

namespace Scientific

/-- The number in units of `10 ^ -1074`, if it is a whole number of them. -/
def gridUnits (x : Scientific) : Nat := x.significand * powTen (x.exponent + 1074).toNat

theorem gridUnits_natCast_sub (c power : Nat) :
    gridUnits ⟨c, (power : Int) - 1074⟩ = c * powTen power := by
  simp only [gridUnits, Int.sub_add_cancel, Int.toNat_natCast]

theorem gridUnits_lowest (c : Nat) : gridUnits ⟨c, -1074⟩ = c := Nat.mul_one c

/-- Zeros move from the significand into the exponent, and the number stays. -/
theorem stripZeros_spec (fuel c : Nat) {e : Int} (he : -1074 ≤ e) :
    -1074 ≤ (stripZeros fuel c e).exponent ∧
      (stripZeros fuel c e).gridUnits = gridUnits ⟨c, e⟩ := by
  induction fuel generalizing c e with
  | zero => exact ⟨he, rfl⟩
  | succ fuel ih =>
    rw [stripZeros]
    split
    · next hc =>
      obtain ⟨hexponent, hunits⟩ := ih (c / 10) (e := e + 1) (by omega)
      refine ⟨hexponent, hunits.trans ?_⟩
      have hpower : (e + 1 + 1074).toNat = 1 + (e + 1074).toNat := by omega
      simp only [gridUnits]
      rw [hpower, powTen_add, powTen_one, ← Nat.mul_assoc,
        Nat.div_mul_cancel (Nat.dvd_of_mod_eq_zero hc)]
    · exact ⟨he, rfl⟩

end Scientific

namespace JsonNumber

open Scientific

/-- The decimal of a magnitude is written without a minus and denotes that magnitude. -/
theorem decimalOfMagnitude_spec {x : Scientific} (hx : -1074 ≤ x.exponent) :
    0 ≤ (decimalOfMagnitude x).coefficient ∧
      (decimalOfMagnitude x).coefficient.natAbs * powTen 1074 =
        x.gridUnits * powTen (decimalOfMagnitude x).scale := by
  obtain ⟨c, e⟩ := x
  change -1074 ≤ e at hx
  simp only [decimalOfMagnitude, ofScientific, gridUnits, Bool.and_eq_true, decide_eq_true_eq]
  split
  · next h =>
    have hpower : (e + 1074).toNat = e.toNat + 1074 := by omega
    refine ⟨Int.mul_nonneg (Int.natCast_nonneg _) (Int.natCast_nonneg _), ?_⟩
    rw [hpower, powTen_add, powTen_add, Int.natAbs_mul, Int.natAbs_natCast, Int.natAbs_natCast]
    ring
  · split
    · next he =>
      have hpower : (e + 1074).toNat + e.natAbs = 1074 := by omega
      refine ⟨Int.natCast_nonneg _, ?_⟩
      rw [Nat.mul_assoc, ← powTen_add, hpower, Int.natAbs_natCast]
    · next he =>
      have hpower : (e + 1074).toNat = e.natAbs + 1074 := by omega
      refine ⟨Int.mul_nonneg (Int.natCast_nonneg _) (Int.natCast_nonneg _), ?_⟩
      rw [hpower, powTen_add, powTen_zero, Nat.mul_one, Int.natAbs_mul, Int.natAbs_natCast,
        Int.natAbs_natCast, Nat.mul_assoc]

end JsonNumber

/-! ### The shortest decimal -/

namespace Binary64

theorem shiftLeft_mul_pow_five (n bits : Nat) :
    (2 * (n * Nat.pow 5 bits)) <<< bits = (n + n) * powTen bits := by
  rw [Nat.shiftLeft_eq, powTen_eq]
  ring

theorem twice_decimalUnits (rank : Nat) :
    (2 * decimalUnits rank) <<< 1074 = (units rank + units rank) * powTen 1074 := by
  simp only [decimalUnits, shiftLeft_mul_pow_five]

/-- The magnitude of a rank itself rounds to the rank. -/
theorem roundsTo_decimalUnits {rank : Nat} (h : 0 < rank) :
    roundsTo (decimalUnits rank) (powTen 1074) rank = true := by
  obtain ⟨below, rfl⟩ : ∃ below, rank = below + 1 := ⟨rank - 1, by omega⟩
  have hden := powTen_pos 1074
  have hlower := units_lt_units_succ below
  have hupper := units_lt_units_succ (below + 1)
  rw [roundsTo, Bool.and_eq_true, Bool.not_eq_true', ← Bool.not_eq_true, reaches_succ_iff,
    reaches_succ_iff, twice_decimalUnits]
  refine ⟨.inl (Nat.mul_lt_mul_of_pos_right (by omega) hden), ?_⟩
  have hgap : (units (below + 1) + units (below + 1)) * powTen 1074 <
      (units (below + 1) + units (below + 1 + 1)) * powTen 1074 :=
    Nat.mul_lt_mul_of_pos_right (by omega) hden
  rintro (h | ⟨h, -⟩)
  · exact hgap.not_gt h
  · exact hgap.ne' h

theorem gridRoundsTo_of_gridChoice? {rank step n c : Nat} (h : gridChoice? rank step n = some c) :
    gridRoundsTo rank step c = true := by
  simp only [gridChoice?] at h
  split at h
  · next hbelow _ => exact Option.some.inj h ▸ hbelow
  · next _ habove => exact Option.some.inj h ▸ habove
  · next hbelow habove =>
    split at h
    · exact Option.some.inj h ▸ hbelow
    · exact Option.some.inj h ▸ habove
  · cases h

/-- The shortest decimal of a rank has the rank for its nearest.  Of the search it counts only that
what is chosen rounds to the rank. -/
theorem shortest_spec {rank : Nat} (hle : rank ≤ infinityRank) :
    -1074 ≤ (shortest rank).exponent ∧
      nearestRank (shortest rank).gridUnits (powTen 1074) = rank := by
  have hden := powTen_pos 1074
  by_cases hzero : rank = 0
  · subst hzero
    refine ⟨by decide, ?_⟩
    have hunits : (shortest 0).gridUnits = 0 := by
      simp only [shortest, if_pos, Scientific.gridUnits, Nat.zero_mul]
    rw [hunits, nearestRank_zero hden]
  · simp only [shortest, if_neg hzero]
    split
    · next c power hchoice =>
      obtain ⟨k, -, hk⟩ := List.exists_of_findSome?_eq_some hchoice
      obtain ⟨c', hc', heq⟩ := Option.map_eq_some_iff.1 hk
      obtain ⟨rfl, rfl⟩ := Prod.mk.inj heq
      obtain ⟨hexponent, hunits⟩ :=
        Scientific.stripZeros_spec 17 c' (e := (_ : Nat) - 1074) (by omega)
      rw [hunits, Scientific.gridUnits_natCast_sub]
      exact ⟨hexponent, nearestRank_eq_of_roundsTo hden hle (gridRoundsTo_of_gridChoice? hc')⟩
    · obtain ⟨hexponent, hunits⟩ := Scientific.stripZeros_spec
        (digits (decimalUnits rank)).length (decimalUnits rank) (e := -1074) le_rfl
      rw [hunits, Scientific.gridUnits_lowest]
      exact ⟨hexponent, nearestRank_eq_of_roundsTo hden hle
        (roundsTo_decimalUnits (Nat.pos_of_ne_zero hzero))⟩

/-! ### The sign of zero -/

/-- Whether the double is the zero with a minus. -/
def isNegativeZero (x : Binary64) : Bool := x.negative && x.rank == 0

/-- The double with the positive zero for the negative one. -/
def withoutZeroSign (x : Binary64) : Binary64 := { x with negative := x.negative && x.rank != 0 }

theorem withoutZeroSign_nearest (d : Decimal) : (nearest d).withoutZeroSign = nearest d := by
  simp [withoutZeroSign, nearest]

theorem eq_of_withoutZeroSign_eq {x y : Binary64} (h : x.withoutZeroSign = y.withoutZeroSign)
    (hzero : x.isNegativeZero = y.isNegativeZero) : x = y := by
  obtain ⟨negative, rank, hle⟩ := x
  obtain ⟨negative', rank', hle'⟩ := y
  simp only [withoutZeroSign, Binary64.mk.injEq] at h
  obtain ⟨hsign, rfl⟩ := h
  by_cases hrank : rank = 0
  · subst hrank
    simpa [isNegativeZero] using hzero
  · simpa [bne_iff_ne.2 hrank] using hsign

theorem eq_of_withoutZeroSign_eq_of_ne {x y : Binary64}
    (h : x.withoutZeroSign = y.withoutZeroSign) (hrank : x.rank ≠ 0) : x = y := by
  have hrank' : y.rank ≠ 0 := (Binary64.mk.inj h).2 ▸ hrank
  refine eq_of_withoutZeroSign_eq h ?_
  rw [isNegativeZero, isNegativeZero, beq_false_of_ne hrank, beq_false_of_ne hrank',
    Bool.and_false, Bool.and_false]

/-- The zeros are on one side of every other double. -/
theorem compare_of_rank_eq_zero {x x' y : Binary64} (hx : x.rank = 0) (hx' : x'.rank = 0)
    (hy : y.rank ≠ 0) : compare x y = compare x' y ∧ compare y x = compare y x' := by
  have hzero : ∀ {z : Binary64}, z.rank = 0 → -1 ≤ z.key ∧ z.key ≤ 0 := by
    intro z hz
    simp only [key, hz]
    split <;> decide
  have hother : y.key < -1 ∨ 0 < y.key := by
    simp only [key]
    split <;> omega
  rcases hother with h | h
  · have hbelow : ∀ {z : Binary64}, z.rank = 0 → compare z y = .gt ∧ compare y z = .lt := by
      intro z hz
      have hlt : y.key < z.key := h.trans_le (hzero hz).1
      exact ⟨Int.compare_eq_gt.2 hlt, Int.compare_eq_lt.2 hlt⟩
    rw [(hbelow hx).1, (hbelow hx').1, (hbelow hx).2, (hbelow hx').2]
    exact ⟨rfl, rfl⟩
  · have habove : ∀ {z : Binary64}, z.rank = 0 → compare z y = .lt ∧ compare y z = .gt := by
      intro z hz
      have hlt : z.key < y.key := (hzero hz).2.trans_lt h
      exact ⟨Int.compare_eq_lt.2 hlt, Int.compare_eq_gt.2 hlt⟩
    rw [(habove hx).1, (habove hx').1, (habove hx).2, (habove hx').2]
    exact ⟨rfl, rfl⟩

/-- Two doubles are in the order of two others that differ from them in the signs of zeros only, as
long as it is not two zeros that are compared. -/
theorem compare_eq_of_withoutZeroSign_eq {x x' y y' : Binary64}
    (hx : x.withoutZeroSign = x'.withoutZeroSign) (hy : y.withoutZeroSign = y'.withoutZeroSign)
    (hzero : x.rank = 0 → y.rank = 0 →
      x.isNegativeZero = x'.isNegativeZero ∧ y.isNegativeZero = y'.isNegativeZero) :
    compare x y = compare x' y' := by
  have hxrank : x.rank = x'.rank := (Binary64.mk.inj hx).2
  have hyrank : y.rank = y'.rank := (Binary64.mk.inj hy).2
  by_cases hx0 : x.rank = 0
  · by_cases hy0 : y.rank = 0
    · obtain ⟨hxsign, hysign⟩ := hzero hx0 hy0
      rw [eq_of_withoutZeroSign_eq hx hxsign, eq_of_withoutZeroSign_eq hy hysign]
    · rw [← eq_of_withoutZeroSign_eq_of_ne hy hy0]
      exact (compare_of_rank_eq_zero hx0 (hxrank ▸ hx0) hy0).1
  · rw [← eq_of_withoutZeroSign_eq_of_ne hx hx0]
    by_cases hy0 : y.rank = 0
    · exact (compare_of_rank_eq_zero hy0 (hyrank ▸ hy0) hx0).2
    · rw [eq_of_withoutZeroSign_eq_of_ne hy hy0]

end Binary64

namespace JsonNumber

open Binary64

theorem nearestRank_decimalOfMagnitude {rank : Nat} (hle : rank ≤ infinityRank) :
    nearestRank (decimalOfMagnitude (shortest rank)).coefficient.natAbs
      (powTen (decimalOfMagnitude (shortest rank)).scale) = rank := by
  obtain ⟨hexponent, hrank⟩ := shortest_spec hle
  rw [nearestRank_congr (powTen_pos _) (powTen_pos 1074) (decimalOfMagnitude_spec hexponent).2,
    hrank]

/-- The double nearest to the value of a number is the double of the number, but for the sign of a
zero. -/
theorem nearest_toDecimal (n : JsonNumber) :
    nearest n.toDecimal = n.toBinary64.withoutZeroSign := by
  cases n with
  | integer n => exact (withoutZeroSign_nearest (.ofInt n)).symm
  | double x hx =>
    obtain ⟨negative, rank, hle⟩ := x
    have hrank := nearestRank_decimalOfMagnitude hle
    have hnonneg := (decimalOfMagnitude_spec (shortest_spec hle).1).1
    simp only [toDecimal, toBinary64, withoutZeroSign]
    generalize decimalOfMagnitude (shortest rank) = d at hrank hnonneg
    cases negative with
    | false => simp [nearest, hrank, Int.not_lt.2 hnonneg]
    | true =>
      by_cases hzero : rank = 0
      · simp [nearest, hrank, hzero]
      · -- A coefficient of zero would round to the rank zero.
        have hc : d.coefficient ≠ 0 := by
          intro hc
          rw [hc, Int.natAbs_zero, nearestRank_zero (powTen_pos _)] at hrank
          exact hzero hrank.symm
        have hpos : 0 < d.coefficient := by omega
        simp [nearest, hrank, hpos]

/-- Numbers of one value have one double, but for the sign of a zero. -/
theorem withoutZeroSign_congr {m n : JsonNumber} (h : (m.toDecimal == n.toDecimal) = true) :
    m.toBinary64.withoutZeroSign = n.toBinary64.withoutZeroSign := by
  rw [← nearest_toDecimal, ← nearest_toDecimal, nearest_congr h]

end JsonNumber
end DocFilter
