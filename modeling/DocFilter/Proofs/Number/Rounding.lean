import DocFilter.Number.Binary64
import Mathlib.Algebra.Order.Ring.Int
import Mathlib.Tactic.Ring

/-!
# Rounding to the nearest double

Magnitudes increase with their rank, so the ranks that a number reaches are the first ones up to
some rank, and the search bit by bit ends at the last of them.  Whatever rounds to a rank has that
rank for its nearest, and decimals of one value have one nearest double.
-/

namespace DocFilter

/-! ### Decimals of one value -/

namespace Decimal

theorem powTen_pos (n : Nat) : 0 < powTen n := Nat.pow_pos (by decide)

theorem beq_iff {d d' : Decimal} :
    (d == d') = true ↔ d.coefficient * powTen d'.scale = d'.coefficient * powTen d.scale :=
  beq_iff_eq (α := Int)

theorem beq_trans {a b c : Decimal} (hab : (a == b) = true) (hbc : (b == c) = true) :
    (a == c) = true := by
  rw [beq_iff] at hab hbc ⊢
  have hb : (powTen b.scale : Int) ≠ 0 := Int.natCast_ne_zero.2 (powTen_pos b.scale).ne'
  refine Int.eq_of_mul_eq_mul_right hb ?_
  calc a.coefficient * powTen c.scale * powTen b.scale
      = a.coefficient * powTen b.scale * powTen c.scale := by ring
    _ = b.coefficient * powTen c.scale * powTen a.scale := by rw [hab]; ring
    _ = c.coefficient * powTen a.scale * powTen b.scale := by rw [hbc]; ring

/-- Equality of decimals, that is of the numbers they denote, is an equivalence. -/
instance : EquivBEq Decimal where
  rfl := beq_iff.2 rfl
  symm h := beq_iff.2 (beq_iff.1 h).symm
  trans := beq_trans

end Decimal

namespace Binary64

/-! ### Magnitudes -/

theorem units_of_fields {exponent fraction : Nat} (h : fraction < ranksPerExponent) :
    units (ranksPerExponent * exponent + fraction) =
      if exponent = 0 then fraction else (ranksPerExponent + fraction) * 2 ^ (exponent - 1) := by
  simp only [units, Nat.mul_add_div (by decide : 0 < ranksPerExponent), Nat.mul_add_mod,
    Nat.div_eq_of_lt h, Nat.mod_eq_of_lt h, Nat.add_zero, Nat.shiftLeft_eq]

theorem units_lt_units_succ (rank : Nat) : units rank < units (rank + 1) := by
  have hpos : 0 < ranksPerExponent := by decide
  obtain ⟨exponent, fraction, hfraction, rfl⟩ :
      ∃ exponent fraction, fraction < ranksPerExponent ∧
        rank = ranksPerExponent * exponent + fraction :=
    ⟨_, _, Nat.mod_lt _ hpos, (Nat.div_add_mod rank ranksPerExponent).symm⟩
  rw [units_of_fields hfraction]
  by_cases hnext : fraction + 1 < ranksPerExponent
  · rw [Nat.add_assoc, units_of_fields hnext]
    split
    · exact Nat.lt_succ_self fraction
    · exact Nat.mul_lt_mul_of_pos_right (by omega) (Nat.two_pow_pos _)
  · -- The next rank is the first one of the next exponent.
    have hlast : ranksPerExponent = fraction + 1 := by omega
    have hsucc : ranksPerExponent * exponent + fraction + 1 =
        ranksPerExponent * (exponent + 1) + 0 := by
      rw [Nat.mul_succ, Nat.add_assoc, ← hlast, Nat.add_zero]
    rw [hsucc, units_of_fields hpos, if_neg exponent.succ_ne_zero, Nat.add_zero]
    cases exponent with
    | zero => simpa using hfraction
    | succ e =>
      calc (ranksPerExponent + fraction) * 2 ^ e
          < (ranksPerExponent + ranksPerExponent) * 2 ^ e :=
            Nat.mul_lt_mul_of_pos_right (by omega) (Nat.two_pow_pos e)
        _ = ranksPerExponent * 2 ^ (e + 1) := by ring

/-! ### Which ranks a number reaches -/

theorem reaches_succ_iff {num den rank : Nat} :
    reaches num den (rank + 1) = true ↔
      (units rank + units (rank + 1)) * den < (2 * num) <<< 1074 ∨
        (units rank + units (rank + 1)) * den = (2 * num) <<< 1074 ∧ (rank + 1) % 2 = 0 := by
  simp [reaches]

/-- A number that reaches a rank lies above the middle below any lower one. -/
theorem reaches_of_reaches_succ {num den rank : Nat} (hden : 0 < den)
    (h : reaches num den (rank + 1) = true) : reaches num den rank = true := by
  cases rank with
  | zero => rfl
  | succ rank =>
    have hlower : (units rank + units (rank + 1)) * den <
        (units (rank + 1) + units (rank + 1 + 1)) * den :=
      Nat.mul_lt_mul_of_pos_right
        (Nat.add_lt_add (units_lt_units_succ rank) (units_lt_units_succ (rank + 1))) hden
    rw [reaches_succ_iff] at h ⊢
    rcases h with h | ⟨h, -⟩
    · exact .inl (hlower.trans h)
    · exact .inl (hlower.trans_eq h)

theorem reaches_of_le {num den rank rank' : Nat} (hden : 0 < den) (hle : rank ≤ rank')
    (h : reaches num den rank' = true) : reaches num den rank = true := by
  induction hle with
  | refl => exact h
  | step _ ih => exact ih (reaches_of_reaches_succ hden h)

/-- Two fractions of one value compare alike with any middle. -/
theorem scaled_compare {twice twice' den den' : Nat} (middle : Nat) (hden : 0 < den)
    (hden' : 0 < den') (h : twice * den' = twice' * den) :
    (middle * den < twice ↔ middle * den' < twice') ∧
      (middle * den = twice ↔ middle * den' = twice') := by
  have hmiddle : middle * den * den' = middle * den' * den := Nat.mul_right_comm middle den den'
  constructor
  · rw [← Nat.mul_lt_mul_right hden', hmiddle, h, Nat.mul_lt_mul_right hden]
  · rw [← Nat.mul_left_inj hden'.ne', hmiddle, h, Nat.mul_left_inj hden.ne']

theorem shiftLeft_mul_congr {num den num' den' : Nat} (bits : Nat) (h : num * den' = num' * den) :
    (2 * num) <<< bits * den' = (2 * num') <<< bits * den := by
  rw [Nat.shiftLeft_eq, Nat.shiftLeft_eq]
  calc 2 * num * 2 ^ bits * den' = 2 * 2 ^ bits * (num * den') := by ring
    _ = 2 * num' * 2 ^ bits * den := by rw [h]; ring

/-- Two fractions of one value reach the same ranks. -/
theorem reaches_congr {num den num' den' : Nat} (hden : 0 < den) (hden' : 0 < den')
    (h : num * den' = num' * den) (rank : Nat) : reaches num den rank = reaches num' den' rank := by
  cases rank with
  | zero => simp [reaches]
  | succ rank =>
    obtain ⟨hlt, heq⟩ := scaled_compare (units rank + units (rank + 1)) hden hden'
      (shiftLeft_mul_congr 1074 h)
    rw [Bool.eq_iff_iff, reaches_succ_iff, reaches_succ_iff, hlt, heq]

/-! ### The search -/

/-- The search ends at the last number that passes, if all before it pass and it is in range. -/
theorem lastPassing_eq {p : Nat → Bool} {last : Nat}
    (hclosed : ∀ m n, m ≤ n → p n = true → p m = true) (hlast : p last = true)
    (hnext : p (last + 1) = false) {bits base : Nat} (hbase : base ≤ last)
    (hrange : last < base + 1 <<< bits) : lastPassing p bits base = last := by
  induction bits generalizing base with
  | zero =>
    rw [Nat.shiftLeft_zero] at hrange
    exact Nat.le_antisymm hbase (Nat.le_of_lt_succ hrange)
  | succ bits ih =>
    rw [Nat.shiftLeft_succ] at hrange
    rw [lastPassing]
    split
    · next hp =>
      -- A bit is set exactly if the last number is not below what it leads to.
      have hle : base + 1 <<< bits ≤ last := by
        by_contra hlt
        have := hclosed (last + 1) _ (by omega) hp
        rw [hnext] at this
        cases this
      exact ih hle (by omega)
    · next hp =>
      have hlt : last < base + 1 <<< bits := by
        by_contra hle
        exact hp (hclosed _ last (by omega) hlast)
      exact ih hbase hlt

/-- The last rank that is reached, up to that of infinity, is the nearest. -/
theorem nearestRank_eq_of_last {num den rank : Nat} (hden : 0 < den)
    (hlast : rank ≤ infinityRank ∧ reaches num den rank = true)
    (hnext : ¬(rank + 1 ≤ infinityRank ∧ reaches num den (rank + 1) = true)) :
    nearestRank num den = rank := by
  refine lastPassing_eq ?_ ?_ ?_ (Nat.zero_le rank) ?_
  · intro m n hmn hn
    rw [Bool.and_eq_true, decide_eq_true_eq] at hn ⊢
    exact ⟨hmn.trans hn.1, reaches_of_le hden hmn hn.2⟩
  · rwa [Bool.and_eq_true, decide_eq_true_eq]
  · rwa [← Bool.not_eq_true, Bool.and_eq_true, decide_eq_true_eq]
  · exact hlast.1.trans_lt (by decide)

/-- What rounds to a rank has that rank for its nearest. -/
theorem nearestRank_eq_of_roundsTo {num den rank : Nat} (hden : 0 < den) (hle : rank ≤ infinityRank)
    (h : roundsTo num den rank = true) : nearestRank num den = rank := by
  rw [roundsTo, Bool.and_eq_true, Bool.not_eq_true', ← Bool.not_eq_true] at h
  exact nearestRank_eq_of_last hden ⟨hle, h.1⟩ fun hnext => h.2 hnext.2

theorem nearestRank_congr {num den num' den' : Nat} (hden : 0 < den) (hden' : 0 < den')
    (h : num * den' = num' * den) : nearestRank num den = nearestRank num' den' := by
  simp only [nearestRank, reaches_congr hden hden' h]

theorem nearestRank_zero {den : Nat} (hden : 0 < den) : nearestRank 0 den = 0 := by
  refine nearestRank_eq_of_roundsTo hden (Nat.zero_le _) ?_
  simp [roundsTo, reaches]

/-- Decimals of one value have one nearest double. -/
theorem nearest_congr {d d' : Decimal} (h : (d == d') = true) : nearest d = nearest d' := by
  obtain ⟨c, s⟩ := d
  obtain ⟨c', s'⟩ := d'
  have hs := Decimal.powTen_pos s
  have hs' := Decimal.powTen_pos s'
  rw [Decimal.beq_iff] at h
  have hrank : nearestRank c.natAbs (Decimal.powTen s) =
      nearestRank c'.natAbs (Decimal.powTen s') := by
    refine nearestRank_congr hs hs' ?_
    simpa [Int.natAbs_mul] using congrArg Int.natAbs h
  have hsign : c < 0 ↔ c' < 0 := by
    have hs : (0 : Int) < Decimal.powTen s := Int.natCast_pos.2 hs
    have hs' : (0 : Int) < Decimal.powTen s' := Int.natCast_pos.2 hs'
    rw [← not_le, ← mul_nonneg_iff_of_pos_right hs', h, mul_nonneg_iff_of_pos_right hs, not_le]
  simp only [nearest, hrank, hsign]

end Binary64
end DocFilter
