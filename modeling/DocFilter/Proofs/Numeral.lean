import DocFilter.Proofs.Grammar

/-!
# Number literals

The literals that are read are those of the grammar, and every decimal is written as one of them.
-/

namespace DocFilter
namespace Decimal

open Grammar

/-! ### Reading -/

theorem isDigits_iff {w : List Char} : isDigits w = true ↔ Digits w := by
  simp [isDigits, Digits]

theorem ofUnsigned?_eq_some_iff {negative : Bool} {s : List Char} {d : Decimal} :
    ofUnsigned? negative s = some d ↔
      (Digits s ∧ d = .ofParts negative s []) ∨
        ∃ whole fraction, s = whole ++ '.' :: fraction ∧ Digits whole ∧ Digits fraction ∧
          d = .ofParts negative whole fraction := by
  constructor
  · intro h
    have happ := List.takeWhile_append_dropWhile (p := Char.isDigit) (l := s)
    simp only [ofUnsigned?] at h
    split at h
    · next hdrop =>
      rw [hdrop, List.append_nil] at happ
      rw [happ, Option.ite_none_right_eq_some] at h
      exact .inl ⟨isDigits_iff.1 h.1, (Option.some.inj h.2).symm⟩
    · next fraction hdrop =>
      rw [Option.ite_none_right_eq_some, Bool.and_eq_true] at h
      refine .inr ⟨s.takeWhile Char.isDigit, fraction, ?_, isDigits_iff.1 h.1.1,
        isDigits_iff.1 h.1.2, (Option.some.inj h.2).symm⟩
      rw [← hdrop, happ]
    · cases h
  · rintro (⟨hs, rfl⟩ | ⟨whole, fraction, rfl, hw, hf, rfl⟩)
    · simp [ofUnsigned?, List.takeWhile_eq_self_iff.2 hs.2, List.dropWhile_eq_nil_iff.2 hs.2,
        isDigits_iff.2 hs]
    · have hstop : ∀ c ∈ ('.' :: fraction).head?, c.isDigit = false := by
        intro c hc
        obtain rfl : '.' = c := by simpa using hc
        rfl
      simp [ofUnsigned?, takeWhile_append_stop hw.2 hstop,
        dropWhile_append_stop hw.2 hstop, isDigits_iff.2 hw, isDigits_iff.2 hf]

theorem splitSign_minus (negative : Bool) {w : List Char} (hw : Digits w) (rest : List Char) :
    splitSign (minus negative ++ (w ++ rest)) = (negative, w ++ rest) := by
  obtain ⟨c, t, rfl, hc⟩ := hw.head
  cases negative with
  | true => rfl
  | false =>
    unfold splitSign
    split
    · next heq =>
      cases heq
      cases hc
    · rfl

theorem ofLiteral?_eq_some_iff {w : List Char} {d : Decimal} :
    ofLiteral? w = some d ↔ NumberText w d := by
  constructor
  · intro h
    obtain ⟨negative, s, rfl, hs⟩ : ∃ negative s, w = minus negative ++ s ∧
        ofUnsigned? negative s = some d := by
      simp only [ofLiteral?, splitSign] at h
      split at h
      · next s => exact ⟨true, s, rfl, h⟩
      · exact ⟨false, w, rfl, h⟩
    rcases ofUnsigned?_eq_some_iff.1 hs with ⟨hd, rfl⟩ | ⟨whole, fraction, rfl, hw, hf, rfl⟩
    · exact .integer hd
    · exact .fraction hw hf
  · intro h
    cases h with
    | @integer negative whole hw =>
      have hsign := splitSign_minus negative hw []
      rw [List.append_nil] at hsign
      simp only [ofLiteral?, hsign]
      exact ofUnsigned?_eq_some_iff.2 (.inl ⟨hw, rfl⟩)
    | @fraction negative whole fraction hw hf =>
      simp only [ofLiteral?, splitSign_minus negative hw]
      exact ofUnsigned?_eq_some_iff.2 (.inr ⟨whole, fraction, rfl, hw, hf, rfl⟩)

/-! ### Writing -/

theorem digits_digits (n : Nat) : Digits (digits n) :=
  ⟨Nat.toDigits_ne_nil, fun _ hc => Nat.isDigit_of_mem_toDigits (by decide) (by decide) hc⟩

/-- Zeros in front of the digits of a number change nothing. -/
theorem ofDigits_zeros (k n : Nat) : ofDigits (List.replicate k '0' ++ digits n) = n := by
  have happ := Nat.ofDigitChars_append (b := 10) (l := List.replicate k '0') (m := digits n) 0
  rw [Nat.ofDigitChars_replicate_zero, Nat.mul_zero] at happ
  exact happ.trans Nat.ofDigitChars_ten_toDigits

theorem isDigit_of_mem_zeros {k n : Nat} {c : Char} (h : c ∈ List.replicate k '0' ++ digits n) :
    c.isDigit = true := by
  rcases List.mem_append.1 h with h | h
  · rw [List.eq_of_mem_replicate h]
    rfl
  · exact (digits_digits n).2 c h

/-- Plain digits are those of the number, cut where `scale` of them are left. -/
theorem exists_plainDigits (magnitude scale : Nat) :
    ∃ whole fraction, Digits whole ∧ (∀ c ∈ fraction, c.isDigit = true) ∧
      fraction.length = scale ∧ ofDigits (whole ++ fraction) = magnitude ∧
      plainDigits magnitude scale = if scale = 0 then whole else whole ++ '.' :: fraction := by
  let k := scale + 1 - (digits magnitude).length
  let padded := List.replicate k '0' ++ digits magnitude
  -- The padding leaves at least one digit before the point.
  have hlen : scale + 1 ≤ padded.length := by
    simp only [padded, k, List.length_append, List.length_replicate]
    omega
  have hdigit : ∀ c ∈ padded, c.isDigit = true := fun _ hc => isDigit_of_mem_zeros hc
  have happ := List.take_append_drop (padded.length - scale) padded
  refine ⟨padded.take (padded.length - scale), padded.drop (padded.length - scale),
    ⟨?_, fun c hc => hdigit c (List.mem_of_mem_take hc)⟩,
    fun c hc => hdigit c (List.mem_of_mem_drop hc), ?_, ?_, ?_⟩
  · rw [ne_eq, List.take_eq_nil_iff]
    rintro (h | h)
    · omega
    · rw [h, List.length_nil] at hlen
      omega
  · rw [List.length_drop]
    omega
  · rw [happ]
    exact ofDigits_zeros k magnitude
  · unfold plainDigits
    split
    · next hscale =>
      subst hscale
      rw [Nat.sub_zero, List.take_length]
    · rfl

/-- A number is written in plain digits, with a minus or without. -/
theorem numberText_plainDigits (negative : Bool) (magnitude scale : Nat) :
    NumberText (minus negative ++ plainDigits magnitude scale)
      ⟨if negative then -magnitude else magnitude, scale⟩ := by
  obtain ⟨whole, fraction, hw, hf, rfl, hmagnitude, hplain⟩ := exists_plainDigits magnitude scale
  have hvalue : ofParts negative whole fraction =
      ⟨if negative then -magnitude else magnitude, fraction.length⟩ := by
    simp only [ofParts, hmagnitude]
  rw [hplain, ← hvalue]
  split
  · next hscale =>
    rw [List.length_eq_zero_iff.1 hscale]
    exact .integer hw
  · next hscale => exact .fraction hw ⟨fun hnil => hscale (by rw [hnil]; rfl), hf⟩

theorem plain_eq (d : Decimal) :
    d.plain = minus (decide (d.coefficient < 0)) ++ plainDigits d.coefficient.natAbs d.scale := by
  simp only [plain, minus, decide_eq_true_eq]
  split <;> rfl

/-- A decimal is written as a literal that denotes this very decimal. -/
theorem numberText_plain (d : Decimal) : NumberText d.plain d := by
  obtain ⟨coefficient, scale⟩ := d
  have h := numberText_plainDigits (decide (coefficient < 0)) coefficient.natAbs scale
  -- A negative coefficient is not zero, so the minus is written exactly where it counts.
  have hvalue : (if decide (coefficient < 0) then -(coefficient.natAbs : Int)
      else coefficient.natAbs) = coefficient := by
    simp only [decide_eq_true_eq]
    split <;> omega
  rwa [hvalue, ← plain_eq ⟨coefficient, scale⟩] at h

end Decimal
end DocFilter
