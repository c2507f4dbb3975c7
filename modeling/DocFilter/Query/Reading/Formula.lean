import DocFilter.Query.Reading.Operand

/-!
# Reading formulas

Clauses joined by connectives, read from left to right.  A group is read by the same rule as the
whole query, with one level of nesting less to spend, so the reader is a recursion over the levels
that are left; at the last level an opening parenthesis is refused.
-/

namespace DocFilter

namespace Rule

/-- The operator that comes next after any blanks, and the text after it. -/
def operator? (s : List Char) : Option (Operator × List Char) :=
  Operator.all.findSome? fun op =>
    (afterWord? [')'] op.token.toList (skipBlanks s)).map (op, ·)

/-- The connective at the front of the text, and the text after it. -/
def connective? (s : List Char) : Option (Connective × List Char) :=
  Connective.spellings.findSome? fun spelling =>
    (afterWord? [')'] spelling.1.toList s).map (spelling.2, ·)

/-- An operand, and if an operator follows the operand to the right of it. -/
def predicate : Rule Predicate := fun s => do
  match ← operand s with
  | none => pure none
  | some (left, rest) =>
    match operator? rest with
    | none => pure (some (.exists? left, rest))
    | some (op, rest) =>
      match ← rightOperand op rest with
      | none => Reading.failAt (.valueExpected op) rest rest
      | some (right, rest) => pure (some (.compare left op right, rest))

theorem operator?_suffix {s rest : List Char} {op : Operator}
    (h : operator? s = some (op, rest)) : rest <:+ s := by
  unfold operator? at h
  obtain ⟨_, o, _, _, found, _⟩ := List.findSome?_eq_some_iff.1 h
  simp only [Option.map_eq_some_iff, Prod.mk.injEq] at found
  obtain ⟨_, found, _, rfl⟩ := found
  have hsuf : _ <:+ skipBlanks s := ⟨_, (afterWord?_eq_some_iff.1 found).1.symm⟩
  exact hsuf.trans (skipBlanks_suffix s)

theorem connective?_suffix {s rest : List Char} {c : Connective}
    (h : connective? s = some (c, rest)) : rest <:+ s := by
  unfold connective? at h
  obtain ⟨_, o, _, _, found, _⟩ := List.findSome?_eq_some_iff.1 h
  simp only [Option.map_eq_some_iff, Prod.mk.injEq] at found
  obtain ⟨_, found, _, rfl⟩ := found
  exact ⟨_, (afterWord?_eq_some_iff.1 found).1.symm⟩

theorem predicate_advances : predicate.Advances := by
  intro s a rest h
  simp only [predicate, Logged.result_bind] at h
  split at h
  · simp at h
  · next found hfound =>
    cases found with
    | none => simp at h
    | some found =>
      obtain ⟨left, r⟩ := found
      have h1 := operand_advances hfound
      simp only at h
      split at h
      · simp only [Logged.result_pure, Except.ok.injEq, Option.some.injEq, Prod.mk.injEq] at h
        obtain ⟨_, rfl⟩ := h
        exact h1
      · next op r' hop =>
        have h2 := operator?_suffix hop
        simp only [Logged.result_bind] at h
        split at h
        · simp at h
        · next found hright =>
          cases found with
          | none => simp [Reading.failAt] at h
          | some found =>
            simp only [Logged.result_pure, Except.ok.injEq, Option.some.injEq, Prod.mk.injEq] at h
            obtain ⟨_, rfl⟩ := h
            have h3 := rightOperand_advances op hright
            have := h2.length_le
            exact ⟨h3.1.trans (h2.trans h1.1), by omega⟩

end Rule

namespace Reading

/-- A failure inside a group leaves that group open. -/
def insideGroup {α : Type} (x : Reading α) : Reading α :=
  x.mapReason fun f => { f with openGroups := f.openGroups + 1 }

end Reading

/-- A rule that must find its value. -/
abbrev Demand (α : Type) := List Char → Reading (α × List Char)

namespace Demand

/-- Whether at least one character is taken. -/
def Advances {α : Type} (demand : Demand α) : Prop :=
  ∀ ⦃s : List Char⦄ ⦃a : α⦄ ⦃rest : List Char⦄,
    (demand s).result = .ok (a, rest) → rest <:+ s ∧ rest.length < s.length

/-- How many groups may be open at once. -/
def maxGroups : Nat := 64

/-- A predicate whose operands fit its operator. -/
def fittingPredicate : Demand Predicate := fun s => do
  match ← Rule.predicate s with
  | none => Reading.failAt .clauseExpected s s
  | some (p, rest) =>
    match p.validate with
    | .error why => Reading.failAt (.misfit why) s rest
    | .ok () => pure (p, rest)

/-- A formula and the parenthesis that closes it. -/
def closed (formula : Demand Formula) : Demand Formula := fun s => do
  let (body, rest) ← (formula s).insideGroup
  match skipBlanks rest with
  | ')' :: rest => pure (body, rest)
  | _ => Reading.failAt .closeExpected rest rest

/-- A `!` and the blanks after it, if it is there. -/
def negation : List Char → Bool × List Char
  | '!' :: s => (true, skipBlanks s)
  | s => (false, s)

/-- A clause: a predicate, or a group where groups may still be opened, which is when there is a
rule for what they hold. -/
def clause (inner : Option (Demand Formula)) (link : Option Connective) : Demand Clause := fun s =>
  let start := skipBlanks s
  let (negated, s) := negation start
  match s with
  | '(' :: body =>
    match inner with
    | none => Reading.failAt (.tooDeep maxGroups) start body
    | some formula => do
      let (body, rest) ← closed formula body
      pure (.group link negated body, rest)
  | s => do
    let (p, rest) ← fittingPredicate s
    pure (.test link negated p, rest)

/-- Clauses up to where no connective follows; the blanks after the last one are taken too. -/
def clauses (clause : Option Connective → Demand Clause) (advances : ∀ link, (clause link).Advances)
    (link : Option Connective) (s : List Char) : Reading (Formula × List Char) := do
  let ⟨(c, rest), _⟩ ← (clause link s).attach
  match _ : Rule.connective? (skipBlanks rest) with
  | none => pure ([c], skipBlanks rest)
  | some (next, rest') =>
    let (cs, rest) ← clauses clause advances (some next) rest'
    pure (c :: cs, rest)
termination_by s.length
decreasing_by
  have h1 := (advances _ ‹_›).2
  have h2 := (Rule.connective?_suffix ‹_›).length_le
  have h3 := length_skipBlanks_le rest
  omega

/-! ### Every demand takes something -/

theorem negation_suffix (s : List Char) : (negation s).2 <:+ s := by
  unfold negation
  split
  · exact (skipBlanks_suffix _).trans (List.suffix_cons _ _)
  · exact List.suffix_refl _

theorem fittingPredicate_advances : fittingPredicate.Advances := by
  intro s a rest h
  simp only [fittingPredicate, Logged.result_bind] at h
  split at h
  · simp at h
  · next found hfound =>
    cases found with
    | none => simp [Reading.failAt] at h
    | some found =>
      obtain ⟨p, r⟩ := found
      simp only at h
      split at h
      · simp [Reading.failAt] at h
      · simp only [Logged.result_pure, Except.ok.injEq, Prod.mk.injEq] at h
        exact h.2 ▸ Rule.predicate_advances hfound

theorem closed_advances {formula : Demand Formula} (hf : formula.Advances) :
    (closed formula).Advances := by
  intro s a rest h
  simp only [closed, Logged.result_bind, Reading.insideGroup] at h
  split at h
  · simp at h
  · next p hp =>
    have h1 := hf (Logged.result_mapReason_eq_ok_iff.1 hp)
    have h2 := skipBlanks_suffix p.2
    split at h
    · next r hr =>
      rw [hr] at h2
      simp only [Logged.result_pure, Except.ok.injEq, Prod.mk.injEq] at h
      have h3 := (List.suffix_cons ')' r).trans h2
      have := h3.length_le
      exact h.2 ▸ ⟨h3.trans h1.1, by omega⟩
    · simp [Reading.failAt] at h

theorem clause_advances {inner : Option (Demand Formula)} (hi : ∀ f ∈ inner, Advances f)
    (link : Option Connective) : (clause inner link).Advances := by
  intro s a rest h
  have h0 := (negation_suffix (skipBlanks s)).trans (skipBlanks_suffix s)
  have hlen := h0.length_le
  simp only [clause] at h
  split at h
  · next body hbody =>
    rw [hbody] at h0 hlen
    split at h
    · simp [Reading.failAt] at h
    · next f =>
      simp only [Logged.result_bind] at h
      split at h
      · simp at h
      · next p hp =>
        simp only [Logged.result_pure, Except.ok.injEq, Prod.mk.injEq] at h
        have h1 := closed_advances (hi f rfl) hp
        simp only [List.length_cons] at hlen
        exact h.2 ▸ ⟨h1.1.trans ((List.suffix_cons _ _).trans h0), by omega⟩
  · simp only [Logged.result_bind] at h
    split at h
    · simp at h
    · next p hp =>
      simp only [Logged.result_pure, Except.ok.injEq, Prod.mk.injEq] at h
      have h1 := fittingPredicate_advances hp
      exact h.2 ▸ ⟨h1.1.trans h0, by omega⟩

theorem clauses_advances {clause : Option Connective → Demand Clause}
    {advances : ∀ link, (clause link).Advances} (link : Option Connective) :
    Advances (clauses clause advances link) := by
  intro s a rest h
  induction hn : s.length using Nat.strongRecOn generalizing s a rest link with
  | ind n ih =>
    subst hn
    rw [clauses] at h
    simp only [Logged.result_bind] at h
    split at h
    · simp at h
    · next found hfound =>
      obtain ⟨⟨c, r⟩, hres⟩ := found
      have h1 := advances link hres
      have h2 := skipBlanks_suffix r
      have := h2.length_le
      simp only at h
      split at h
      · simp only [Logged.result_pure, Except.ok.injEq, Prod.mk.injEq] at h
        exact h.2 ▸ ⟨h2.trans h1.1, by omega⟩
      · next next r' hjoined =>
        have h3 := Rule.connective?_suffix hjoined
        have := h3.length_le
        simp only [Logged.result_bind] at h
        split at h
        · simp at h
        · next p hp =>
          simp only [Logged.result_pure, Except.ok.injEq, Prod.mk.injEq] at h
          have h4 := ih _ (show r'.length < s.length by omega) (some next) hp rfl
          exact h.2 ▸ ⟨h4.1.trans (h3.trans (h2.trans h1.1)), by omega⟩

/-! ### Formulas -/

/-- The rule for formulas inside which at most `levels` groups are open at once. -/
def formulaRule : (levels : Nat) → { rule : Demand Formula // rule.Advances }
  | 0 => ⟨clauses (clause none) (clause_advances (by simp)) none, clauses_advances none⟩
  | levels + 1 =>
    let inner := formulaRule levels
    ⟨clauses (clause (some inner.1))
        (clause_advances fun f hf => by
          obtain rfl : inner.1 = f := Option.some.inj hf
          exact inner.2) none,
      clauses_advances none⟩

/-- A formula inside which at most `levels` groups are open at once. -/
def formula (levels : Nat) : Demand Formula := (formulaRule levels).1

/-- A formula that fills the whole text. -/
def whole (levels : Nat) (s : List Char) : Reading Formula := do
  let (f, rest) ← formula levels s
  match skipBlanks rest with
  | [] => pure f
  | c :: rest =>
    if c = ')' then Reading.failAt .unmatchedClose (c :: rest) (c :: rest)
    else Reading.failAt .trailingText (c :: rest) (c :: rest)

end Demand
end DocFilter
