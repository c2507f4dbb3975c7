import DocFilter.Proofs.Action.Literal
import DocFilter.Proofs.Equality
import DocFilter.Proofs.Number.Order
import Mathlib.Data.List.Induction
import Mathlib.Tactic.FieldSimp

/-!
# Literals are exact

A literal is a minus or none, digits, and a point with further digits or none.  What it is worth is
said here place by place: a digit before the point counts for a power of ten, one after it for a
tenth of the place before.  Every literal is read as the decimal of this very value, and that decimal
is written as the literal again, less the zeros in front that are not the last digit before the
point, and with its minus only where the value is not zero.
-/

namespace DocFilter

open Grammar

/-- A number as it may be written in a query. -/
structure Literal where
  negative : Bool
  whole : List Char
  fraction : Option (List Char)
  whole_digits : Digits whole
  fraction_digits : ∀ f ∈ fraction, Digits f

/-! ### What a row of digits is worth -/

/-- What a digit stands for. -/
def digitValue (c : Char) : Nat := c.toNat - '0'.toNat

/-- What digits before the point are worth. -/
def wholeValue : List Char → ℚ
  | [] => 0
  | c :: s => digitValue c * 10 ^ s.length + wholeValue s

/-- What digits after the point are worth. -/
def fractionValue : List Char → ℚ
  | [] => 0
  | c :: s => (digitValue c + fractionValue s) / 10

/-- The digits without the zeros in front, but always with the last one. -/
def trimZeros : List Char → List Char
  | '0' :: c :: s => trimZeros (c :: s)
  | s => s

namespace Literal

/-- The digits after the point, if there are any. -/
def decimals (l : Literal) : List Char := l.fraction.getD []

/-- The point and what comes after it, if there is a point. -/
def tail (l : Literal) : List Char := (l.fraction.map ('.' :: ·)).getD []

/-- How the literal is written. -/
def text (l : Literal) : List Char := minus l.negative ++ (l.whole ++ l.tail)

/-- The rational number that the literal denotes. -/
def value (l : Literal) : ℚ :=
  let magnitude := wholeValue l.whole + fractionValue l.decimals
  if l.negative then -magnitude else magnitude

/-- The literal without superfluous zeros in front, and with a minus only if it is not zero. -/
def canonical (l : Literal) : List Char :=
  minus (l.negative && decide (l.value ≠ 0)) ++ (trimZeros l.whole ++ l.tail)

/-- The decimal that the literal is read as. -/
def decimal (l : Literal) : Decimal := .ofParts l.negative l.whole l.decimals

theorem numberText (l : Literal) : NumberText l.text l.decimal := by
  obtain ⟨negative, whole, _ | fraction, hw, hf⟩ := l
  · have htext : Literal.text ⟨negative, whole, none, hw, hf⟩ = minus negative ++ whole :=
      congrArg (minus negative ++ ·) (List.append_nil whole)
    rw [htext]
    exact .integer hw
  · exact .fraction hw (hf fraction rfl)

/-- The check for the shape of a literal lets through literals and nothing else. -/
theorem isLiteral_iff_exists_text {t : List Char} :
    Action.isLiteral t = true ↔ ∃ l : Literal, l.text = t := by
  rw [Action.isLiteral_iff]
  constructor
  · rintro ⟨d, hd⟩
    cases Decimal.ofLiteral?_eq_some_iff.1 hd with
    | @integer negative whole hw =>
      exact ⟨⟨negative, whole, none, hw, nofun⟩, congrArg (minus negative ++ ·) (List.append_nil _)⟩
    | @fraction negative whole fraction hw hf =>
      refine ⟨⟨negative, whole, some fraction, hw, ?_⟩, rfl⟩
      rintro f hfraction
      exact Option.some.inj hfraction ▸ hf
  · rintro ⟨l, rfl⟩
    exact ⟨l.decimal, Decimal.ofLiteral?_eq_some_iff.2 l.numberText⟩

end Literal

/-! ### Values -/

namespace Decimal

theorem ofDigits_append (w s : List Char) :
    ofDigits (w ++ s) = ofDigits w * 10 ^ s.length + ofDigits s := by
  refine (Nat.ofDigitChars_append 0).trans (Nat.ofDigitChars_eq_ofDigitChars_zero.trans ?_)
  rw [Nat.mul_comm]
  rfl

theorem ofDigits_singleton (c : Char) : ofDigits [c] = digitValue c := by
  show 10 * 0 + digitValue c = digitValue c
  rw [Nat.mul_zero, Nat.zero_add]

theorem ofDigits_cons (c : Char) (s : List Char) :
    ofDigits (c :: s) = digitValue c * 10 ^ s.length + ofDigits s := by
  rw [← List.singleton_append, ofDigits_append, ofDigits_singleton]

theorem wholeValue_eq (w : List Char) : wholeValue w = ofDigits w := by
  induction w with
  | nil => rfl
  | cons c s ih =>
    rw [wholeValue, ih, ofDigits_cons]
    push_cast
    rfl

theorem fractionValue_eq (w : List Char) : fractionValue w = ofDigits w / 10 ^ w.length := by
  induction w with
  | nil => exact (zero_div _).symm
  | cons c s ih =>
    rw [fractionValue, ih, ofDigits_cons, List.length_cons, pow_succ]
    push_cast
    field_simp

end Decimal

namespace Literal

/-- What the literal denotes but for its sign. -/
theorem magnitude_eq (l : Literal) : wholeValue l.whole + fractionValue l.decimals =
    Decimal.ofDigits (l.whole ++ l.decimals) / 10 ^ l.decimals.length := by
  rw [Decimal.wholeValue_eq, Decimal.fractionValue_eq, Decimal.ofDigits_append]
  push_cast
  field_simp

theorem value_decimal (l : Literal) : l.decimal.value = l.value := by
  have hscale : (Decimal.powTen l.decimals.length : ℚ) = 10 ^ l.decimals.length :=
    Nat.cast_pow 10 l.decimals.length
  simp only [value, magnitude_eq, Decimal.value, decimal, Decimal.ofParts, hscale]
  cases l.negative with
  | false => rw [if_neg Bool.false_ne_true, if_neg Bool.false_ne_true, Int.cast_natCast]
  | true => rw [if_pos rfl, if_pos rfl, Int.cast_neg, Int.cast_natCast, neg_div]

/-- A literal is negative where it has a minus and is not zero. -/
theorem coefficient_neg_iff (l : Literal) :
    l.decimal.coefficient < 0 ↔ l.negative = true ∧ l.value ≠ 0 := by
  have hzero : l.value = 0 ↔ l.decimal.coefficient = 0 := by
    rw [← value_decimal, Decimal.value, div_eq_zero_iff, Int.cast_eq_zero,
      or_iff_left (Decimal.cast_powTen_pos _).ne']
  rw [ne_eq, hzero]
  simp only [decimal, Decimal.ofParts]
  cases l.negative with
  | false => simp
  | true =>
    simp only [if_true, true_and]
    omega

end Literal

/-! ### Rendering -/

namespace Decimal

theorem digitValue_lt {c : Char} (h : c.isDigit = true) : digitValue c < 10 := by
  have hrange : '0'.toNat ≤ c.toNat ∧ c.toNat ≤ '9'.toNat := Char.isDigit_iff_toNat.1 h
  have hnine : '9'.toNat = '0'.toNat + 9 := rfl
  unfold digitValue
  omega

theorem digitChar_digitValue {c : Char} (h : c.isDigit = true) :
    Nat.digitChar (digitValue c) = c := by
  have hrange : 48 ≤ c.toNat ∧ c.toNat ≤ 57 := Char.isDigit_iff_toNat.1 h
  refine Char.toNat_inj.1 ?_
  rw [Nat.toNat_digitChar_of_lt_ten (digitValue_lt h)]
  show 48 + (c.toNat - 48) = c.toNat
  omega

/-- Digits that do not begin with a zero are those of the number they denote. -/
theorem digits_ofDigits_of_head {c : Char} {s : List Char} (h : Digits (c :: s)) (hc : c ≠ '0') :
    digits (ofDigits (c :: s)) = c :: s := by
  induction s using List.reverseRecOn with
  | nil =>
    have hdigit := h.2 c List.mem_cons_self
    rw [ofDigits_singleton, digits, Nat.toDigits_of_lt_base (digitValue_lt hdigit),
      digitChar_digitValue hdigit]
  | append_singleton s e ih =>
    have ih := ih ⟨List.cons_ne_nil _ _, fun x hx => h.2 x (by
      rw [← List.cons_append]
      exact List.mem_append_left _ hx)⟩
    have he : e.isDigit = true := h.2 e (by simp)
    -- If these digits were worth nothing they would be written as a zero, and begin with it.
    have hpos : 0 < ofDigits (c :: s) := by
      refine Nat.pos_of_ne_zero fun hzero => hc ?_
      rw [hzero] at ih
      exact (List.cons.inj ih).1.symm
    have hvalue : ofDigits (c :: (s ++ [e])) = 10 * ofDigits (c :: s) + digitValue e := by
      rw [← List.cons_append, ofDigits_append, ofDigits_singleton, Nat.mul_comm]
      rfl
    rw [hvalue, digits, ← Nat.toDigits_append_toDigits (by decide) hpos (digitValue_lt he),
      Nat.toDigits_of_lt_base (digitValue_lt he), digitChar_digitValue he]
    exact congrArg (· ++ [e]) ih

theorem digits_ofDigits {w : List Char} (h : Digits w) : digits (ofDigits w) = trimZeros w := by
  fun_induction trimZeros w with
  | case1 c s ih =>
    have hzero : ofDigits ('0' :: c :: s) = ofDigits (c :: s) := by
      rw [ofDigits_cons]
      show 0 * _ + _ = _
      rw [Nat.zero_mul, Nat.zero_add]
    rw [hzero]
    exact ih ⟨List.cons_ne_nil c s, fun x hx => h.2 x (List.mem_cons_of_mem _ hx)⟩
  | case2 w hw =>
    obtain ⟨c, s, rfl, -⟩ := h.head
    by_cases hc : c = '0'
    · subst hc
      cases s with
      | nil => rfl
      | cons d s => exact (hw d s rfl).elim
    · exact digits_ofDigits_of_head h hc

theorem length_trimZeros_le (w : List Char) : (trimZeros w).length ≤ w.length := by
  fun_induction trimZeros w with
  | case1 c s ih => exact Nat.le_succ_of_le ih
  | case2 w _ => exact Nat.le_refl _

/-- What was trimmed were zeros. -/
theorem zeros_append_trimZeros (w : List Char) :
    List.replicate (w.length - (trimZeros w).length) '0' ++ trimZeros w = w := by
  fun_induction trimZeros w with
  | case1 c s ih =>
    have hlength := length_trimZeros_le (c :: s)
    rw [List.length_cons, Nat.succ_sub hlength, List.replicate_succ, List.cons_append, ih]
  | case2 w _ => rw [Nat.sub_self, List.replicate_zero, List.nil_append]

/-- Digits that are trimmed as a whole and filled up again to one digit before the point are trimmed
before the point. -/
theorem zeros_append_trimZeros_append {whole : List Char} (hw : Digits whole)
    (fraction : List Char) :
    List.replicate (fraction.length + 1 - (trimZeros (whole ++ fraction)).length) '0' ++
      trimZeros (whole ++ fraction) = trimZeros whole ++ fraction := by
  fun_induction trimZeros whole with
  | case1 c s ih => exact ih ⟨List.cons_ne_nil c s, fun x hx => hw.2 x (List.mem_cons_of_mem _ hx)⟩
  | case2 whole hwhole =>
    obtain ⟨c, s, rfl, -⟩ := hw.head
    by_cases hc : c = '0'
    · subst hc
      cases s with
      | nil => exact zeros_append_trimZeros ('0' :: fraction)
      | cons d s => exact (hwhole d s rfl).elim
    · -- A first digit that is not a zero keeps all of them, and none is missing.
      have htrim : trimZeros (c :: s ++ fraction) = c :: s ++ fraction := by
        rw [List.cons_append, trimZeros]
        rintro d t hzero
        exact absurd (List.cons.inj hzero).1 hc
      have hlength : fraction.length + 1 - (c :: s ++ fraction).length = 0 := by
        rw [List.length_append, List.length_cons]
        omega
      rw [htrim, hlength, List.replicate_zero, List.nil_append]

theorem plainDigits_ofDigits {whole fraction : List Char} (hw : Digits whole)
    (hf : ∀ c ∈ fraction, c.isDigit = true) :
    plainDigits (ofDigits (whole ++ fraction)) fraction.length =
      trimZeros whole ++ if fraction = [] then [] else '.' :: fraction := by
  have hall : Digits (whole ++ fraction) :=
    ⟨fun hnil => hw.1 (List.append_eq_nil_iff.1 hnil).1, List.forall_mem_append.2 ⟨hw.2, hf⟩⟩
  have hcut : (trimZeros whole ++ fraction).length - fraction.length = (trimZeros whole).length := by
    rw [List.length_append, Nat.add_sub_cancel]
  simp only [plainDigits, digits_ofDigits hall, zeros_append_trimZeros_append hw, hcut,
    List.take_left, List.drop_left, List.length_eq_zero_iff]
  split
  · next hnil => rw [hnil]
  · rfl

end Decimal

/-- The decimal of a literal is written as the literal in its canonical form. -/
theorem Literal.plain_decimal (l : Literal) : l.decimal.plain = l.canonical := by
  have hsign : decide (l.decimal.coefficient < 0) = (l.negative && decide (l.value ≠ 0)) := by
    rw [Bool.eq_iff_iff, decide_eq_true_iff, Bool.and_eq_true, decide_eq_true_iff]
    exact l.coefficient_neg_iff
  have hmagnitude : l.decimal.coefficient.natAbs = Decimal.ofDigits (l.whole ++ l.decimals) := by
    simp only [decimal, Decimal.ofParts]
    split
    · exact (Int.natAbs_neg _).trans (Int.natAbs_natCast _)
    · exact Int.natAbs_natCast _
  have hdecimals : (∀ c ∈ l.decimals, c.isDigit = true) ∧
      l.tail = if l.decimals = [] then [] else '.' :: l.decimals := by
    obtain ⟨negative, whole, _ | fraction, hw, hf⟩ := l
    · exact ⟨fun c hc => (List.not_mem_nil hc).elim, rfl⟩
    · exact ⟨(hf fraction rfl).2, (if_neg (hf fraction rfl).1).symm⟩
  rw [Decimal.plain_eq, hsign, hmagnitude, canonical, hdecimals.2,
    ← Decimal.plainDigits_ofDigits l.whole_digits hdecimals.1]
  rfl

/-! ### Reading -/

/-- Whether the text is read as the decimal, in a list or not: after any blanks, and before the end
of the text or what else may end a number there, the rule takes just the text and leaves no notice,
and a reader comes to stand behind it. -/
def ReadsAs (t : List Char) (d : Decimal) : Prop :=
  ∀ (inList : Bool) (u rest : List Char), Blanks u → Rule.endsNumber inList rest = true →
    Rule.number inList (u ++ (t ++ rest)) = pure (some (d, rest)) ∧
      ∀ r : Reader, r.cursor.unread = u ++ (t ++ rest) →
        Action.number inList r = (pure (some d), r.moveTo rest)

theorem readsAs_of_numberText {t : List Char} {d : Decimal} (h : NumberText t d) : ReadsAs t d := by
  intro inList u rest hu hends
  have hskip : skipBlanks (u ++ (t ++ rest)) = t ++ rest := by
    rw [skipBlanks_append hu]
    exact skipBlanks_of_endsWord_eq_false
      (endsWord_append_eq_false (ElementText.number h).opens rest)
  have hsplit : Rule.splitNumeral (skipBlanks (u ++ (t ++ rest))) = (t, rest) := by
    rw [hskip, Rule.splitNumeral_append_stop h (Rule.inNumber_of_endsNumber hends)]
  have hrule : Rule.number inList (u ++ (t ++ rest)) = pure (some (d, rest)) := by
    rw [Action.number_of_ends hsplit hends, Decimal.ofLiteral?_eq_some_iff.2 h]
    rfl
  refine ⟨hrule, fun r hr => ?_⟩
  rw [Action.number_does inList r, hr]
  exact Rule.perform_of_some hrule

/-- Every literal is read as a decimal of its value, and fails nowhere.  The decimal is written as
the literal without superfluous zeros in front and with its minus only where it is not zero; this is
read as an equal number and written the same again.  Two literals are equal as operands if they
denote the same rational number, and only then. -/
theorem literals_exact (l l' : Literal) : ∃ d d' : Decimal,
    ReadsAs l.text d ∧ ReadsAs l'.text d' ∧ d.value = l.value ∧
    (Operand.number d).render = l.canonical ∧
    (∃ e, ReadsAs l.canonical e ∧ (Operand.number e).equiv (.number d) = true ∧
      (Operand.number e).render = l.canonical) ∧
    ((Operand.number d).equiv (.number d') = true ↔ l.value = l'.value) := by
  have hequiv : ∀ d d' : Decimal, (Operand.number d).equiv (.number d') = true ↔
      d.value = d'.value := by
    intro d d'
    simp only [Operand.equiv]
    exact Decimal.beq_iff_value_eq
  refine ⟨l.decimal, l'.decimal, readsAs_of_numberText l.numberText,
    readsAs_of_numberText l'.numberText, l.value_decimal, l.plain_decimal,
    ⟨l.decimal, ?_, (hequiv _ _).2 rfl, l.plain_decimal⟩, ?_⟩
  · rw [← l.plain_decimal]
    exact readsAs_of_numberText (Decimal.numberText_plain l.decimal)
  · rw [hequiv, l.value_decimal, l'.value_decimal]

/-- Zeros in front go, those after the point stay. -/
theorem literals_exact_of_zeros : ∃ d,
    Rule.number true " -007.50, 1]".toList = pure (some (d, ", 1]".toList)) ∧
      d.value = -15 / 2 ∧ (Operand.number d).render = "-7.50".toList := by
  let l : Literal := ⟨true, "007".toList, some "50".toList, by decide, by
    rintro f ⟨⟩
    decide⟩
  obtain ⟨d, -, hreads, -, hvalue, hrender, -⟩ := literals_exact l l
  have hlvalue : l.value = -15 / 2 := by decide +kernel
  have hcanonical : l.canonical = "-7.50".toList := by decide +kernel
  refine ⟨d, ?_, hvalue.trans hlvalue, hrender.trans hcanonical⟩
  exact (hreads true [' '] ", 1]".toList (by decide) rfl).1

end DocFilter
