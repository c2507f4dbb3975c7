import DocFilter.Proofs.Reading.Formula

/-!
# The place of a failure

A failure of a part is a failure of the whole: clauses, groups and formulas hand it on with its
fault and its place unchanged.  Two faults arise in a clause itself.  A predicate whose operands do
not fit is reported where the predicate begins, after its `!`, and a group where none may be opened
where the clause begins, with its `!`.
-/

namespace DocFilter

namespace Reading

variable {α β : Type} {fault : SyntaxFault} {place : List Char}

/-- Whether reading fails with the fault at the place. -/
def FailsAt (fault : SyntaxFault) (place : List Char) (x : Reading α) : Prop :=
  ∃ stop openGroups, x.result = .error ⟨fault, place, stop, openGroups⟩

theorem FailsAt.bind {x : Reading α} (h : FailsAt fault place x) (next : α → Reading β) :
    FailsAt fault place (x >>= next) := by
  obtain ⟨stop, openGroups, h⟩ := h
  exact ⟨stop, openGroups, by rw [Logged.result_bind, h]⟩

theorem FailsAt.insideGroup {x : Reading α} (h : FailsAt fault place x) :
    FailsAt fault place x.insideGroup := by
  obtain ⟨stop, openGroups, h⟩ := h
  exact ⟨stop, openGroups + 1, by rw [Reading.insideGroup, Logged.result_mapReason, h]; rfl⟩

end Reading

open Reading

namespace Demand

variable {fault : SyntaxFault} {place : List Char}

/-! ### Clauses -/

/-- A predicate that was found but does not fit is reported where it begins. -/
theorem fittingPredicate_failsAt {s rest : List Char} {p : Predicate} {why : Misfit}
    (h : (Rule.predicate s).result = .ok (some (p, rest))) (hwhy : p.validate = .error why) :
    FailsAt (.misfit why) s (fittingPredicate s) := by
  refine ⟨rest, 0, ?_⟩
  rw [fittingPredicate, Logged.result_bind, h]
  simp only [hwhy]
  rfl

theorem clause_failsAt_of_test {inner : Option (Demand Formula)} {s t : List Char} {negated : Bool}
    (hneg : negation (skipBlanks s) = (negated, t)) (hopen : t.head? ≠ some '(')
    (h : FailsAt fault place (fittingPredicate t)) (link : Option Connective) :
    FailsAt fault place (clause inner link s) := by
  simp only [clause, hneg]
  split
  · exact absurd rfl hopen
  · exact h.bind _

theorem clause_failsAt_of_group {formula : Demand Formula} {s body : List Char} {negated : Bool}
    (hneg : negation (skipBlanks s) = (negated, '(' :: body))
    (h : FailsAt fault place (formula body)) (link : Option Connective) :
    FailsAt fault place (clause (some formula) link s) := by
  simp only [clause, hneg]
  exact (h.insideGroup.bind _).bind _

/-- A group where none may be opened is reported where the clause begins. -/
theorem clause_failsAt_of_tooDeep {s body : List Char} {negated : Bool}
    (hneg : negation (skipBlanks s) = (negated, '(' :: body)) (link : Option Connective) :
    FailsAt (.tooDeep maxGroups) (skipBlanks s) (clause none link s) := by
  refine ⟨body, 0, ?_⟩
  simp only [clause, hneg]
  rfl

section Clauses

variable {rule : Option Connective → Demand Clause} {advances : ∀ link, (rule link).Advances}
  {link : Option Connective} {s : List Char}

theorem clauses_failsAt_of_first (h : FailsAt fault place (rule link s)) :
    FailsAt fault place (clauses rule advances link s) := by
  obtain ⟨stop, openGroups, h⟩ := h
  exact ⟨stop, openGroups, result_clauses_of_error h⟩

theorem clauses_failsAt_of_next {c : Clause} {r r' : List Char} {next : Connective}
    (hc : (rule link s).result = .ok (c, r))
    (hnext : Rule.connective? (skipBlanks r) = some (next, r'))
    (h : FailsAt fault place (clauses rule advances (some next) r')) :
    FailsAt fault place (clauses rule advances link s) := by
  obtain ⟨stop, openGroups, h⟩ := h
  exact ⟨stop, openGroups, by rw [result_clauses_of_next hc hnext, h]; rfl⟩

end Clauses

end Demand

/-- A failure to read a formula is reported with the number of characters before its place. -/
theorem Formula.read_eq_error {fault : SyntaxFault} {text : List Char} {k : Nat}
    (hk : k ≤ text.length)
    (h : FailsAt fault (text.drop k) (Demand.formula Demand.maxGroups text)) :
    (read text).result = .error ⟨fault, k, text.drop k⟩ := by
  obtain ⟨stop, openGroups, h⟩ := h.bind _
  have hwhole : (Demand.whole Demand.maxGroups text).result =
      .error ⟨fault, text.drop k, stop, openGroups⟩ := h
  show (Demand.whole Demand.maxGroups text).result.mapError (SyntaxError.ofFailure text) = _
  rw [hwhole, Except.mapError, SyntaxError.ofFailure, List.length_drop, Nat.sub_sub_self hk]

end DocFilter
