import DocFilter.Proofs.Text
import DocFilter.Query.Validation

/-!
# The grammar of queries

Which texts denote which formulas, said without the reader: a relation between texts and trees with
one constructor for each way to write a construct.  Blanks between tokens are free in number, and an
operator or connective is followed by at least one.

The relations carry a flag `apart`.  A string or a list shows by its last character that it is over;
a path, a number, `null` and a pattern do not, and `1or` is one word to a reader that takes as much
as it can.  With the flag set such an operand is kept apart from the operator or connective after
it by a blank, and a pattern does not end in a backslash, which would escape the slash that closes
it.  Without the flag the tokens may touch.
-/

namespace DocFilter

/-! ### Where constructs end -/

/-- Whether the operand shows by its last character that it is over. -/
def Operand.showsEnd : Operand → Bool
  | string _ | list _ => true
  | _ => false

/-- Whether the predicate shows by its last character that it is over. -/
def Predicate.showsEnd (p : Predicate) : Bool := (p.right.getD p.left).showsEnd

/-- Whether the clause shows by its last character that it is over. -/
def Clause.showsEnd : Clause → Bool
  | test _ _ p => p.showsEnd
  | group _ _ _ => true

namespace Grammar

/-! ### Literals and paths -/

/-- The sign of a number. -/
def minus (negative : Bool) : List Char := if negative then ['-'] else []

/-- A row of decimal digits, at least one. -/
def Digits (w : List Char) : Prop := w ≠ [] ∧ ∀ c ∈ w, c.isDigit = true

instance (w : List Char) : Decidable (Digits w) :=
  decidable_of_iff (w ≠ [] ∧ w.all Char.isDigit = true) (by simp [Digits])

/-- `-`? digits (`.` digits)? -/
inductive NumberText : List Char → Decimal → Prop
  | integer {negative : Bool} {whole : List Char} (hw : Digits whole) :
      NumberText (minus negative ++ whole) (.ofParts negative whole [])
  | fraction {negative : Bool} {whole fraction : List Char} (hw : Digits whole)
      (hf : Digits fraction) :
      NumberText (minus negative ++ (whole ++ '.' :: fraction)) (.ofParts negative whole fraction)

/-- A quote, other characters, and the same quote. -/
inductive StringText : List Char → String → Prop
  | quoted {quote : Char} {w : List Char} (hq : quote = '\'' ∨ quote = '"') (hw : quote ∉ w) :
      StringText (quote :: (w ++ [quote])) (String.ofList w)

/-- The characters of one key of a path. -/
def IsSegment (w : List Char) : Prop := w ≠ [] ∧ IsWord ['.', ')', '[', '('] w

instance (w : List Char) : Decidable (IsSegment w) :=
  inferInstanceAs (Decidable (w ≠ [] ∧ IsWord ['.', ')', '[', '('] w))

/-- `@` and a point before each of the keys, of which there is at least one. -/
inductive PathText : List Char → Path → Prop
  | segments {names : List (List Char)} (hne : names ≠ []) (hn : ∀ w ∈ names, IsSegment w) :
      PathText ('@' :: names.flatMap ('.' :: ·)) ⟨names.map String.ofList⟩

/-- A string, a number or null. -/
inductive ElementText : List Char → Operand → Prop
  | string {w : List Char} {x : String} (h : StringText w x) : ElementText w (.string x)
  | number {w : List Char} {d : Decimal} (h : NumberText w d) : ElementText w (.number d)
  | null : ElementText "null".toList .null

/-- Elements with commas between them, blanks before and after each. -/
inductive ElementsText : List Char → List Operand → Prop
  | last {u w v : List Char} {x : Operand} (hu : Blanks u) (hx : ElementText w x) (hv : Blanks v) :
      ElementsText (u ++ (w ++ v)) [x]
  | cons {u w v w' : List Char} {x : Operand} {xs : List Operand} (hu : Blanks u)
      (hx : ElementText w x) (hv : Blanks v) (hxs : ElementsText w' xs) :
      ElementsText (u ++ (w ++ (v ++ ',' :: w'))) (x :: xs)

/-- Elements in brackets, or only blanks. -/
inductive ListText : List Char → List Operand → Prop
  | empty {u : List Char} (hu : Blanks u) : ListText ('[' :: (u ++ [']'])) []
  | elements {w : List Char} {xs : List Operand} (h : ElementsText w xs) :
      ListText ('[' :: (w ++ [']'])) xs

/-! ### Patterns -/

/-- The source that is written as `body`, where a slash after a backslash stands for itself. -/
def unescape : (body : List Char) → List Char
  | [] => []
  | '\\' :: '/' :: s => '/' :: unescape s
  | c :: s => c :: unescape s

/-- Every slash comes directly after a backslash. -/
def SlashesEscaped (body : List Char) : Prop :=
  ∀ u v, body = u ++ '/' :: v → u.getLast? = some '\\'

/-- The body of a pattern between slashes, and flags with which it compiles. -/
inductive RegexText (apart : Bool) : List Char → Pattern → Prop
  | slashed {body flags : List Char} {p : Pattern} (hne : body ≠ []) (hb : SlashesEscaped body)
      (hend : apart = true → body.getLast? ≠ some '\\')
      (hp : Pattern.ofSource (String.ofList (unescape body)) (String.ofList flags) = .ok p) :
      RegexText apart ('/' :: (body ++ '/' :: flags)) p

/-! ### Predicates -/

/-- A path, a list or a literal. -/
inductive OperandText : List Char → Operand → Prop
  | path {w : List Char} {p : Path} (h : PathText w p) : OperandText w (.path p)
  | list {w : List Char} {xs : List Operand} (h : ListText w xs) : OperandText w (.list xs)
  | element {w : List Char} {x : Operand} (h : ElementText w x) : OperandText w x

/-- What stands to the right of an operator; which operators go with a pattern is left to
validation. -/
inductive RightText (apart : Bool) : List Char → Operand → Prop
  | operand {w : List Char} {x : Operand} (h : OperandText w x) : RightText apart w x
  | regex {w : List Char} {p : Pattern} (h : RegexText apart w p) : RightText apart w (.regex p)

/-- A lone path, or two operands that fit the operator between them. -/
inductive PredicateText (apart : Bool) : List Char → Predicate → Prop
  | lone {w : List Char} {p : Path} (h : PathText w p) :
      PredicateText apart w (.exists? (.path p))
  | compare {l u v r : List Char} {left right : Operand} {op : Operator}
      (hl : OperandText l left) (hu : Blanks u)
      (hapart : apart = true → left.showsEnd = false → u ≠ []) (hv : Blanks v) (hne : v ≠ [])
      (hr : RightText apart r right) (hfit : (Predicate.compare left op right).validate = .ok ()) :
      PredicateText apart (l ++ (u ++ (op.token.toList ++ (v ++ r)))) (.compare left op right)

/-! ### Formulas -/

/-- A `!` and blanks after it, or nothing. -/
inductive BangText : List Char → Bool → Prop
  | absent : BangText [] false
  | present {u : List Char} (hu : Blanks u) : BangText ('!' :: u) true

mutual

/-- A predicate, or clauses in parentheses, negated or not; inside the clause at most `levels`
groups are open at once. -/
inductive ClauseText (apart : Bool) : (levels : Nat) → Option Connective → List Char → Clause → Prop
  | test {levels : Nat} {link : Option Connective} {negated : Bool} {b w : List Char}
      {p : Predicate} (hb : BangText b negated) (hp : PredicateText apart w p) :
      ClauseText apart levels link (b ++ w) (.test link negated p)
  | group {levels : Nat} {link : Option Connective} {negated : Bool} {b u w v : List Char}
      {body : Formula} (hb : BangText b negated) (hu : Blanks u)
      (hbody : ClausesText apart levels none w body) (hv : Blanks v) :
      ClauseText apart (levels + 1) link (b ++ '(' :: (u ++ (w ++ (v ++ [')']))))
        (.group link negated body)

/-- Clauses with connectives between them, each of which belongs to the clause after it. -/
inductive ClausesText (apart : Bool) :
    (levels : Nat) → Option Connective → List Char → Formula → Prop
  | last {levels : Nat} {link : Option Connective} {w : List Char} {c : Clause}
      (hc : ClauseText apart levels link w c) : ClausesText apart levels link w [c]
  | cons {levels : Nat} {link : Option Connective} {w u v w' : List Char} {c : Clause}
      {cs : Formula} {spelling : String} {next : Connective}
      (hc : ClauseText apart levels link w c) (hu : Blanks u)
      (hapart : apart = true → c.showsEnd = false → u ≠ [])
      (hs : (spelling, next) ∈ Connective.spellings) (hv : Blanks v) (hne : v ≠ [])
      (hcs : ClausesText apart levels (some next) w' cs) :
      ClausesText apart levels link (w ++ (u ++ (spelling.toList ++ (v ++ w')))) (c :: cs)

end

/-- Clauses that fill a whole text, but for blanks before and after them. -/
inductive QueryText (apart : Bool) (levels : Nat) : List Char → Formula → Prop
  | whole {u w v : List Char} {f : Formula} (hu : Blanks u)
      (hf : ClausesText apart levels none w f) (hv : Blanks v) :
      QueryText apart levels (u ++ (w ++ v)) f

/-! ### One blank between words -/

/-- A comparison with one blank before and one after its operator. -/
theorem PredicateText.spaced {apart : Bool} {l r : List Char} {left right : Operand}
    {op : Operator} (hl : OperandText l left) (hr : RightText apart r right)
    (hfit : (Predicate.compare left op right).validate = .ok ()) :
    PredicateText apart (l ++ ' ' :: (op.token.toList ++ ' ' :: r)) (.compare left op right) :=
  .compare (u := [' ']) (v := [' ']) hl (by decide) (fun _ _ => by decide) (by decide) (by decide)
    hr hfit

/-- Clauses with one blank before and one after the connective. -/
theorem ClausesText.spaced {apart : Bool} {levels : Nat} {link : Option Connective}
    {w w' : List Char} {c : Clause} {cs : Formula} {spelling : String} {next : Connective}
    (hc : ClauseText apart levels link w c) (hs : (spelling, next) ∈ Connective.spellings)
    (hcs : ClausesText apart levels (some next) w' cs) :
    ClausesText apart levels link (w ++ ' ' :: (spelling.toList ++ ' ' :: w')) (c :: cs) :=
  .cons (u := [' ']) (v := [' ']) hc (by decide) (fun _ _ => by decide) hs (by decide) (by decide)
    hcs

/-! ### How constructs begin

No construct begins with a blank or a closing parenthesis, so the blanks before it are told from it,
and a connective or operator before it is a word only if blanks stand between. -/

theorem isBlank_of_isDigit {c : Char} (h : c.isDigit = true) : isBlank c = false := by
  simp only [Char.isDigit, Bool.and_eq_true, decide_eq_true_eq, ge_iff_le, UInt32.le_iff_toNat_le]
    at h
  have h0 : ('0' : Char).val.toNat = 48 := rfl
  have h9 : ('9' : Char).val.toNat = 57 := rfl
  have hc : c.toNat = c.val.toNat := rfl
  simp only [isBlank, Bool.or_eq_false_iff, Bool.and_eq_false_iff, decide_eq_false_iff_not,
    beq_eq_false_iff_ne]
  omega

theorem Digits.head {w : List Char} (h : Digits w) : ∃ c t, w = c :: t ∧ c.isDigit = true := by
  obtain ⟨hne, hall⟩ := h
  cases w with
  | nil => exact absurd rfl hne
  | cons c t => exact ⟨c, t, rfl, hall c List.mem_cons_self⟩

/-- What a sign and digits begin with. -/
theorem Digits.signed_head {w : List Char} (h : Digits w) (negative : Bool) (rest : List Char) :
    ∃ c t, minus negative ++ (w ++ rest) = c :: t ∧ (c = '-' ∨ c.isDigit = true) := by
  obtain ⟨c, t, rfl, hc⟩ := h.head
  cases negative with
  | true => exact ⟨'-', c :: (t ++ rest), rfl, .inl rfl⟩
  | false => exact ⟨c, t ++ rest, rfl, .inr hc⟩

theorem NumberText.head {w : List Char} {d : Decimal} (h : NumberText w d) :
    ∃ c t, w = c :: t ∧ (c = '-' ∨ c.isDigit = true) := by
  cases h with
  | @integer negative whole hw => simpa using hw.signed_head negative []
  | @fraction negative whole fraction hw _ => exact hw.signed_head negative ('.' :: fraction)

theorem ElementText.opens {w : List Char} {x : Operand} (h : ElementText w x) :
    endsWord ['!', '(', ')', '/', '@', '[', ']'] w = false := by
  cases h with
  | string h =>
    obtain ⟨rfl | rfl, _⟩ := h <;> rfl
  | number h =>
    obtain ⟨c, t, rfl, rfl | hc⟩ := h.head
    · rfl
    · have hmem : c ∉ ['!', '(', ')', '/', '@', '[', ']'] := by
        intro hmem
        simp only [List.mem_cons, List.not_mem_nil, or_false] at hmem
        rcases hmem with rfl | rfl | rfl | rfl | rfl | rfl | rfl <;> cases hc
      simp only [endsWord_cons, isBlank_of_isDigit hc, Bool.false_or]
      rwa [← Bool.not_eq_true, List.contains_iff_mem]
  | null => rfl

theorem OperandText.opens {w : List Char} {x : Operand} (h : OperandText w x) :
    endsWord ['!', '(', ')', '/'] w = false := by
  cases h with
  | path h => cases h; rfl
  | list h => cases h <;> rfl
  | element h => exact endsWord_eq_false_mono (by simp) h.opens

theorem RightText.opens {apart : Bool} {w : List Char} {x : Operand} (h : RightText apart w x) :
    endsWord [')'] w = false := by
  cases h with
  | operand h => exact endsWord_eq_false_mono (by simp) h.opens
  | regex h => cases h; rfl

theorem PredicateText.opens {apart : Bool} {w : List Char} {p : Predicate}
    (h : PredicateText apart w p) : endsWord ['!', '(', ')'] w = false := by
  cases h with
  | lone h => exact endsWord_eq_false_mono (by simp) (OperandText.path h).opens
  | compare hl _ _ _ _ _ _ =>
    exact endsWord_append_eq_false (endsWord_eq_false_mono (by simp) hl.opens) _

theorem ClauseText.opens {apart : Bool} {levels : Nat} {link : Option Connective} {w : List Char}
    {c : Clause} (h : ClauseText apart levels link w c) : endsWord [')'] w = false := by
  cases h with
  | test hb hp =>
    cases hb with
    | absent => exact endsWord_eq_false_mono (by simp) hp.opens
    | present => rfl
  | group hb _ _ _ => cases hb <;> rfl

theorem ClausesText.opens {apart : Bool} {levels : Nat} {link : Option Connective} {w : List Char}
    {f : Formula} (h : ClausesText apart levels link w f) : endsWord [')'] w = false := by
  cases h with
  | last hc => exact hc.opens
  | cons hc _ _ _ _ _ _ => exact endsWord_append_eq_false hc.opens _

end Grammar
end DocFilter
