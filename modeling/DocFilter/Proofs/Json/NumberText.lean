import DocFilter.Proofs.Number.Shortest
import DocFilter.Proofs.Numeral

/-!
# The text of a number denotes its value

A number of a document has a text, which is read as a decimal like any other, exponent and all.
The value that `JsonNumber.toDecimal` gives the number is what is read (`ofText?_text`), so that
whatever is said of this value is said of the text.
-/

namespace DocFilter

open Grammar

namespace Decimal

/-! ### Reading with an exponent -/

/-- Whether `c` stands before an exponent. -/
def isExponentMark (c : Char) : Bool := c == 'e' || c == 'E'

theorem not_isExponentMark_of_isDigit {c : Char} (h : c.isDigit = true) :
    (!isExponentMark c) = true := by
  rw [Bool.not_eq_true', ← Bool.not_eq_true]
  intro hmark
  rw [isExponentMark, Bool.or_eq_true, beq_iff_eq, beq_iff_eq] at hmark
  rcases hmark with rfl | rfl <;> cases h

/-- A literal holds no mark of an exponent. -/
theorem not_isExponentMark_of_mem {w : List Char} {d : Decimal} (h : NumberText w d) :
    ∀ c ∈ w, (!isExponentMark c) = true := by
  have hminus : ∀ negative, ∀ c ∈ minus negative, (!isExponentMark c) = true := by
    intro negative c hc
    cases negative with
    | false => cases hc
    | true =>
      obtain rfl := List.mem_singleton.1 hc
      rfl
  cases h with
  | @integer negative whole hw =>
    exact List.forall_mem_append.2
      ⟨hminus negative, fun c hc => not_isExponentMark_of_isDigit (hw.2 c hc)⟩
  | @fraction negative whole fraction hw hf =>
    refine List.forall_mem_append.2 ⟨hminus negative, List.forall_mem_append.2 ⟨?_, ?_⟩⟩
    · exact fun c hc => not_isExponentMark_of_isDigit (hw.2 c hc)
    · exact List.forall_mem_cons.2
        ⟨by decide, fun c hc => not_isExponentMark_of_isDigit (hf.2 c hc)⟩

/-- A text without an exponent is read as a literal. -/
theorem ofText?_literal {w : List Char} {d : Decimal} (h : NumberText w d) :
    ofText? w = some d := by
  have hdrop : w.dropWhile (!isExponentMark ·) = [] :=
    List.dropWhile_eq_nil_iff.2 (not_isExponentMark_of_mem h)
  unfold ofText?
  simp only [isExponentMark] at hdrop
  simp only [hdrop]
  exact ofLiteral?_eq_some_iff.2 h

/-- A literal with an exponent is moved by as many digits. -/
theorem ofText?_exponent {w exponent : List Char} {d : Decimal} {k : Int} (h : NumberText w d)
    (hk : exponentOf? exponent = some k) :
    ofText? (w ++ 'e' :: exponent) = some (ofScientific d.coefficient (k - d.scale)) := by
  have hmark : ∀ c ∈ ('e' :: exponent).head?, (!isExponentMark c) = false := by
    rintro c hc
    cases hc
    rfl
  have htake := takeWhile_append_stop (not_isExponentMark_of_mem h) hmark
  have hdrop := dropWhile_append_stop (not_isExponentMark_of_mem h) hmark
  unfold ofText?
  simp only [isExponentMark] at htake hdrop
  simp only [htake, hdrop, ofLiteral?_eq_some_iff.2 h, hk]
  rfl

/-- An exponent that is written with its sign is read back. -/
theorem exponentOf?_signed (e : Int) :
    exponentOf? ((if e < 0 then '-' else '+') :: digits e.natAbs) = some e := by
  have hdigits : isDigits (digits e.natAbs) = true := isDigits_iff.2 (digits_digits e.natAbs)
  have hvalue : ofDigits (digits e.natAbs) = e.natAbs := Nat.ofDigitChars_ten_toDigits
  split
  · rw [exponentOf?, if_pos hdigits, hvalue, Option.some.injEq]
    omega
  · rw [exponentOf?, if_pos hdigits, hvalue, Option.some.injEq]
    omega

end Decimal

open Decimal

/-- The digits of a significand with a point after the first one, and a minus or none in front. -/
theorem Scientific.numberText_mantissa (negative : Bool) (x : Scientific) :
    NumberText
      (minus negative ++ (x.digits.take 1 ++
        if (x.digits.drop 1).isEmpty then [] else '.' :: x.digits.drop 1))
      ⟨if negative then -x.significand else x.significand, (x.digits.drop 1).length⟩ := by
  have hdigits : Digits x.digits := digits_digits x.significand
  have hvalue : ofDigits x.digits = x.significand := Nat.ofDigitChars_ten_toDigits
  obtain ⟨c, fraction, hcons, -⟩ := hdigits.head
  rw [hcons] at hdigits hvalue ⊢
  have hfirst : Digits [c] := ⟨List.cons_ne_nil c [], fun d hd => hdigits.2 d (by simp_all)⟩
  have hparts : ofParts negative [c] fraction =
      ⟨if negative then -x.significand else x.significand, fraction.length⟩ := by
    rw [ofParts, List.singleton_append, hvalue]
  show NumberText (minus negative ++ ([c] ++ if fraction.isEmpty then [] else '.' :: fraction))
    ⟨if negative then -x.significand else x.significand, fraction.length⟩
  rw [← hparts]
  cases fraction with
  | nil => exact .integer hfirst
  | cons d rest =>
    exact .fraction hfirst ⟨List.cons_ne_nil d rest, fun c' hc' => hdigits.2 c' (.tail c hc')⟩

namespace JsonNumber

/-- The plain text with a minus or none in front denotes the decimal or its negative. -/
theorem ofText?_plain (negative : Bool) {d : Decimal} (h : 0 ≤ d.coefficient) :
    ofText? (minus negative ++ d.plain) =
      some (if negative then ⟨-d.coefficient, d.scale⟩ else d) := by
  obtain ⟨coefficient, scale⟩ := d
  obtain ⟨magnitude, rfl⟩ := Int.eq_ofNat_of_zero_le h
  have hplain : plain ⟨magnitude, scale⟩ = plainDigits magnitude scale := by simp [plain]
  have htext := numberText_plainDigits negative magnitude scale
  rw [hplain, ofText?_literal htext]
  cases negative <;> rfl

/-- The sign is that of the significand. -/
theorem ofScientific_signed (negative : Bool) (significand exponent : Int) :
    ofScientific (if negative then -significand else significand) exponent =
      if negative then
        ⟨-(ofScientific significand exponent).coefficient,
          (ofScientific significand exponent).scale⟩
      else ofScientific significand exponent := by
  cases negative with
  | false => rfl
  | true =>
    simp only [if_true, ofScientific]
    split
    · rfl
    · simp only [Int.neg_mul]

/-- The text in scientific notation denotes the significand at its exponent. -/
theorem ofText?_scientificText (negative : Bool) (x : Scientific) :
    ofText? (minus negative ++ scientificText x) =
      some (ofScientific (if negative then -x.significand else x.significand) x.exponent) := by
  have hmantissa := x.numberText_mantissa negative
  have hread := ofText?_exponent hmantissa (exponentOf?_signed x.leadingExponent)
  -- The exponent is written for the point after the first digit, and the digits after the point
  -- are taken off again.
  have hexponent : x.leadingExponent - ((x.digits.drop 1).length : Int) = x.exponent := by
    rw [List.length_drop, Scientific.leadingExponent]
    omega
  rw [hexponent] at hread
  rw [← hread]
  simp only [scientificText, List.append_assoc]

/-- The value of a number of a document is the one that its text denotes. -/
theorem ofText?_text (n : JsonNumber) : ofText? n.text = some n.toDecimal := by
  cases n with
  | integer n => exact ofText?_literal (numberText_plain (.ofInt n))
  | double x finite =>
    obtain ⟨negative, rank, hle⟩ := x
    have hnonneg := (decimalOfMagnitude_spec (Binary64.shortest_spec hle).1).1
    have htext : (double ⟨negative, rank, hle⟩ finite).text = minus negative ++
        if isPositional (Binary64.shortest rank) then
          (decimalOfMagnitude (Binary64.shortest rank)).plain
        else scientificText (Binary64.shortest rank) := by
      cases negative <;> rfl
    rw [htext]
    simp only [toDecimal]
    generalize Binary64.shortest rank = x at hnonneg ⊢
    split
    · exact ofText?_plain negative hnonneg
    · next hpositional =>
      have hscientific : decimalOfMagnitude x = ofScientific x.significand x.exponent := by
        simp only [decimalOfMagnitude, hpositional, Bool.false_and, Bool.false_eq_true, if_false]
      rw [ofText?_scientificText, ofScientific_signed, hscientific]

end JsonNumber
end DocFilter
