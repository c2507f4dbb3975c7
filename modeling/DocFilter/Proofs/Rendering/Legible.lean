import DocFilter.Proofs.Rendering

/-!
# What can be told apart in a rendering

A formula is *legible* if its rendering can be cut into the parts that it was made of.  That takes
less than to be writable: operands need not fit their operator, and any number of groups may be open
at once.  The reader finds a legible predicate in its rendering, whatever validation says of it
afterwards.
-/

namespace DocFilter

/-- Whether the sides of the predicate can be told apart in its rendering: each can be written, a
pattern stands to the right of `=~` only, and there is a right side exactly if there is an operator.
-/
structure Predicate.Legible (p : Predicate) : Prop where
  left : p.left.Writable
  right : ∀ x ∈ p.right, x.Writable
  left_not_regex : p.left.isRegex = false
  right_regex : ∀ x ∈ p.right, x.isRegex = true → p.operator = some .matchesRegex
  complete : p.operator.isSome = p.right.isSome

theorem Predicate.Legible.writable {p : Predicate} (h : p.Legible) (hfits : p.validate = .ok ()) :
    p.Writable :=
  ⟨h.left, h.right, h.complete, hfits⟩

namespace Clause

mutual

/-- Whether the parts of the clause can be told apart in its rendering. -/
def Legible : Clause → Prop
  | test _ _ p => p.Legible
  | group _ _ body => LegibleBody body
termination_by structural c => c

/-- Whether the clauses of a formula can be told apart: there is a first one, without a connective.
-/
def LegibleBody : List Clause → Prop
  | [] => False
  | c :: cs => c.link = none ∧ Legible c ∧ LegibleMore cs
termination_by structural cs => cs

/-- Whether later clauses can be told apart: each has a connective. -/
def LegibleMore : List Clause → Prop
  | [] => True
  | c :: cs => c.link.isSome ∧ Legible c ∧ LegibleMore cs
termination_by structural cs => cs

end

end Clause

/-- Whether the parts of the formula can be told apart in its rendering. -/
def Formula.Legible (f : Formula) : Prop := Clause.LegibleBody f

open Grammar

/-! ### What comes after a clause -/

/-- Whether the text can come after a clause: it ends a word, and no operator comes next. -/
structure Rule.AfterClause (s : List Char) : Prop where
  endsWord : endsWord [')'] s = true
  operator? : operator? s = none

theorem Rule.Closing.afterClause {s : List Char} (h : Closing s) : AfterClause s :=
  ⟨h.endsWord, operator?_of_closing blanks_nil h⟩

namespace Clause

/-- Later clauses begin with the word of the first connective, between blanks. -/
theorem renderMore_cons_append {c : Clause} {next : Connective} (h : c.link = some next)
    (cs : List Clause) (rest : List Char) :
    renderMore (c :: cs) ++ rest =
      ' ' :: (next.word.toList ++ ' ' :: (renderBody (c :: cs) ++ rest)) := by
  simp [renderMore, renderBody, renderLink, h]

/-- The connective before a later clause is found after the blank that comes first. -/
theorem connective?_renderMore {c : Clause} {next : Connective} (h : c.link = some next)
    (cs : List Clause) (rest : List Char) :
    Rule.connective? (skipBlanks (renderMore (c :: cs) ++ rest)) =
      some (next, ' ' :: (renderBody (c :: cs) ++ rest)) := by
  have hopens := endsWord_append_eq_false (Connective.spelling_opens (word_mem_spellings next))
    (' ' :: (renderBody (c :: cs) ++ rest))
  rw [renderMore_cons_append h]
  show Rule.connective? (skipBlanks (next.word.toList ++ _)) = _
  rw [skipBlanks_of_endsWord_eq_false hopens]
  exact Rule.connective?_eq_some_iff.2 ⟨next.word, word_mem_spellings next, rfl, rfl⟩

/-- After a clause come later clauses, or the formula is over. -/
theorem LegibleMore.afterClause {cs : List Clause} {rest : List Char} (h : LegibleMore cs)
    (hr : Rule.Closing rest) : Rule.AfterClause (renderMore cs ++ rest) := by
  cases cs with
  | nil => exact hr.afterClause
  | cons c cs =>
    obtain ⟨next, hnext⟩ := Option.isSome_iff_exists.1 h.1
    rw [renderMore_cons_append hnext]
    exact ⟨rfl, Rule.operator?_of_connective (u := [' ']) (by decide) (word_mem_spellings next) rfl⟩

end Clause

/-! ### Predicates -/

namespace Predicate

variable {p : Predicate} {rest : List Char}

/-- The rendering of a legible predicate begins neither with a `!` nor with a parenthesis. -/
theorem Legible.opens (h : p.Legible) : endsWord ['!', '('] p.render = false := by
  have hleft := (operandText_render h.left h.left_not_regex).opens
  rw [render, List.append_assoc]
  exact endsWord_append_eq_false (endsWord_eq_false_mono (by simp) hleft) _

/-- A legible predicate is found in its rendering. -/
theorem Legible.read (h : p.Legible) (hr : Rule.AfterClause rest) :
    (Rule.predicate (p.render ++ rest)).result = .ok (some (p, rest)) := by
  obtain ⟨left, operator, right⟩ := p
  have hleft := operandText_render h.left h.left_not_regex
  match operator, right, h.complete with
  | none, none, _ =>
    have hlone := Rule.predicate_complete_lone hleft (fun _ => hr.endsWord)
      hr.operator?
    simpa [render, renderOperator, renderRight, exists?] using hlone
  | some op, some x, _ =>
    have hright := rightText_render (h.right x rfl)
    have hregex : x.isRegex = true → op = .matchesRegex := fun hx =>
      Option.some.inj (h.right_regex x rfl hx)
    have hcompare := Rule.predicate_complete_compare (u := [' ']) (v := [' ']) hleft (by decide)
      (fun _ => by decide) (by decide) (by decide) hright hregex (fun _ => hr.endsWord)
    simpa [render, renderOperator, renderRight, compare] using hcompare

end Predicate

end DocFilter
