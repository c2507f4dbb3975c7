import DocFilter.Proofs.Matching.Shapes
import DocFilter.Proofs.Rendering

/-!
# Which faults a query that was read can meet

Validation looks at the shapes of operands when a query is read, and every operator looks at them
again when it is evaluated.  The two agree but for one combination: an equality or an ordering with
a list on its right is read, and refused when it is evaluated.  An evaluation ends in a fault exactly
if it reaches a predicate that does, so this is the only way for a query that was read to fail for
the shape of an operand.
-/

namespace DocFilter

/-! ### Predicates that were read -/

/-- The fault of an equality or an ordering that has a list on its right. -/
def Predicate.listFault? (p : Predicate) : Option MatchFault :=
  match p.operator, p.right with
  | some op, some (.list _) =>
    if op = .equal ∨ op = .notEqual then some (.operands op (.notComparable "list"))
    else if op.isOrdering then some (.operands op (.notOrdered "list"))
    else none
  | _, _ => none

/-- Evaluation blames no operand of a predicate that was read, but for the lists. -/
theorem Predicate.shapeFault?_eq_listFault? {p : Predicate} (h : p.validate = .ok ()) :
    p.shapeFault? = p.listFault? := by
  obtain ⟨left, operator, right⟩ := p
  match operator, right with
  | none, _ =>
    cases left with
    | path q => rfl
    | _ => cases h
  | some op, none => cases h
  | some op, some right =>
    have hfit := validate_compare_iff.1 h
    cases left with
    | path q => cases op <;> cases right <;> first | rfl | cases hfit
    | _ =>
      -- Only `in` and `nin` take something else on their left.
      cases op <;> first | cases hfit | (cases right <;> first | rfl | cases hfit)

namespace Matching

variable {options : MatchOptions} {document : Json}

/-- Operands that fit their operator make no fault of shape, unless they compare with a list. -/
theorem compareBy_shapesFit {op : Operator} {left right : Operand}
    (hfit : (Predicate.compare left op right).validate = .ok ())
    (hlist : (Predicate.compare left op right).listFault? = none) :
    ShapesFit options (compareBy options document op left right).result := by
  cases hoff : op.isExtended && !options.extendedOperators with
  | true =>
    simp only [compareBy, hoff, if_true]
    rwa [Bool.and_eq_true, Bool.not_eq_true'] at hoff
  | false =>
    have hfault : (Predicate.operandFault? left op right).map (MatchFault.operands op) = none :=
      (Predicate.shapeFault?_eq_listFault? hfit).trans hlist
    have hforetold : Foretold options ((Predicate.operandFault? left op right).map (.operands op))
        (compareBy options document op left right).result := compareBy_foretold hoff
    rwa [hfault] at hforetold

/-- The fault of a comparison with a list does not depend on the document. -/
theorem verdict_of_listFault? {p : Predicate} {fault : MatchFault} (hfit : p.validate = .ok ())
    (hlist : p.listFault? = some fault) :
    (verdict options document p).result = .error fault := by
  obtain ⟨left, operator, right⟩ := p
  match operator, right with
  | none, _ => cases hlist
  | some op, none => cases hlist
  | some op, some right =>
    have hleft := Predicate.validate_compare_iff.1 hfit
    cases right with
    | list xs =>
      cases op with
      | isIn | notIn | anyOf | noneOf | matchesRegex => cases hlist
      | _ =>
        cases hlist
        cases left with
        | path q => rfl
        | _ => cases hleft
    | _ => cases hlist

theorem verdict_shapesFit {p : Predicate} (hfit : p.Writable) (hlist : p.listFault? = none) :
    ShapesFit options (verdict options document p).result := by
  obtain ⟨left, operator, right⟩ := p
  match operator, right, hfit.complete with
  | none, none, _ =>
    obtain ⟨q, rfl⟩ := Predicate.validate_lone_iff.1 hfit.fits
    trivial
  | some op, some right, _ =>
    exact compareBy_shapesFit hfit.fits hlist

/-! ### Predicates that are reached -/

mutual

/-- The predicates that the evaluation of a clause reaches, in order. -/
def reachedIn (options : MatchOptions) (document : Json) : Clause → List Predicate
  | .test _ _ p => [p]
  | .group _ _ body => reached options document body
termination_by structural c => c

/-- The predicates that the evaluation of a formula reaches, in order. -/
def reached (options : MatchOptions) (document : Json) : List Clause → List Predicate
  | [] => []
  | c :: cs => reachedIn options document c ++
    match (clauseVerdict options document c).result with
    | .ok v => reachedMore options document cs v
    | .error _ => []
termination_by structural cs => cs

/-- The predicates that later clauses reach, given the verdict so far. -/
def reachedMore (options : MatchOptions) (document : Json) :
    List Clause → (current : Bool) → List Predicate
  | [], _ => []
  | c :: cs, current =>
    if c.link == some .and && !current then []
    else reachedIn options document c ++
      match (clauseVerdict options document c).result with
      | .ok v => reachedMore options document cs (join c.link current v)
      | .error _ => []
termination_by structural cs => cs

end

/-- A fault of what comes first or of what comes next is a fault of one of the predicates they
reach. -/
theorem result_bind_eq_error_iff {x : Evaluation Bool} {next : Bool → Evaluation Bool}
    {first : List Predicate} {more : Bool → List Predicate}
    {fails : MatchFault → Predicate → Prop}
    (hfirst : ∀ fault, x.result = .error fault ↔ ∃ p ∈ first, fails fault p)
    (hnext : ∀ v fault, (next v).result = .error fault ↔ ∃ p ∈ more v, fails fault p)
    (fault : MatchFault) :
    (x >>= next).result = .error fault ↔
      ∃ p ∈ first ++ (match x.result with
        | .ok v => more v
        | .error _ => []), fails fault p := by
  rw [Logged.result_bind]
  cases hx : x.result with
  | error reason =>
    rw [List.append_nil, ← hfirst, hx]
  | ok v =>
    -- Nothing that comes first has failed.
    have hnone : ¬ ∃ p ∈ first, fails fault p := by
      rw [← hfirst, hx]
      exact fun h => by cases h
    simp only [hnext, List.mem_append, or_and_right, exists_or, hnone, false_or]

theorem result_contain_eq_error_iff {p : Predicate} {x : Evaluation Bool} {fault : MatchFault} :
    (contain p x).result = .error fault ↔ x.result = .error fault ∧ fault.isDegrading = false := by
  unfold contain
  cases hx : x.result with
  | ok v => simp [hx]
  | error reason =>
    simp only
    split
    · next hdegrading =>
      constructor
      · intro h
        cases h
      · rintro ⟨h, hpropagating⟩
        cases h
        rw [hdegrading] at hpropagating
        cases hpropagating
    · next hpropagating =>
      rw [hx]
      constructor
      · intro h
        cases h
        exact ⟨rfl, by simpa using hpropagating⟩
      · exact fun h => h.1

theorem result_map_eq_error_iff {f : Bool → Bool} {x : Evaluation Bool} {fault : MatchFault} :
    (f <$> x).result = .error fault ↔ x.result = .error fault := by
  rw [Logged.result_map]
  cases x.result with
  | ok v => simp [Except.map]
  | error reason => simp [Except.map]

/-- Whether the fault is one of the predicate, and ends the evaluation. -/
def Fails (options : MatchOptions) (document : Json) (fault : MatchFault) (p : Predicate) : Prop :=
  (verdict options document p).result = .error fault ∧ fault.isDegrading = false

mutual

theorem result_clauseVerdict_eq_error_iff (c : Clause) (fault : MatchFault) :
    (clauseVerdict options document c).result = .error fault ↔
      ∃ p ∈ reachedIn options document c, Fails options document fault p := by
  cases c with
  | test link negated p =>
    rw [clauseVerdict, result_map_eq_error_iff, result_contain_eq_error_iff, reachedIn]
    simp [Fails]
  | group link negated body =>
    rw [clauseVerdict, result_map_eq_error_iff, reachedIn]
    exact result_evaluate_eq_error_iff body fault

/-- An evaluation ends in a fault exactly if it reaches a predicate that does. -/
theorem result_evaluate_eq_error_iff (cs : List Clause) (fault : MatchFault) :
    (evaluate options document cs).result = .error fault ↔
      ∃ p ∈ reached options document cs, Fails options document fault p := by
  cases cs with
  | nil => simp [evaluate, reached]
  | cons c cs =>
    rw [evaluate, reached]
    exact result_bind_eq_error_iff (result_clauseVerdict_eq_error_iff c)
      (fun v => result_evaluateMore_eq_error_iff cs v) fault

theorem result_evaluateMore_eq_error_iff (cs : List Clause) (current : Bool)
    (fault : MatchFault) :
    (evaluateMore options document cs current).result = .error fault ↔
      ∃ p ∈ reachedMore options document cs current, Fails options document fault p := by
  cases cs with
  | nil => simp [evaluateMore, reachedMore]
  | cons c cs =>
    rw [evaluateMore, reachedMore]
    split
    · simp
    · exact result_bind_eq_error_iff (result_clauseVerdict_eq_error_iff c)
        (fun v => result_evaluateMore_eq_error_iff cs (join c.link current v)) fault

end

/-! ### What can be reached was read -/

mutual

theorem writable_of_mem_reachedIn {levels : Nat} {c : Clause} (h : c.Writable levels) :
    ∀ p ∈ reachedIn options document c, p.Writable := by
  cases c with
  | test link negated p =>
    rw [reachedIn]
    intro q hq
    obtain rfl := List.mem_singleton.1 hq
    exact h
  | group link negated body =>
    cases levels with
    | zero => cases h
    | succ levels =>
      rw [reachedIn]
      exact writable_of_mem_reached (f := body) h

theorem writable_of_mem_reached {levels : Nat} {f : Formula} (h : f.Writable levels) :
    ∀ p ∈ reached options document f, p.Writable := by
  cases f with
  | nil => cases h
  | cons c cs =>
    obtain ⟨_, hc, hcs⟩ := h
    intro p hp
    rw [reached] at hp
    rcases List.mem_append.1 hp with hp | hp
    · exact writable_of_mem_reachedIn hc p hp
    · split at hp
      · exact writable_of_mem_reachedMore hcs _ p hp
      · cases hp

theorem writable_of_mem_reachedMore {levels : Nat} {cs : List Clause}
    (h : Clause.WritableMore levels cs) (current : Bool) :
    ∀ p ∈ reachedMore options document cs current, p.Writable := by
  cases cs with
  | nil =>
    rw [reachedMore]
    simp
  | cons c cs =>
    obtain ⟨_, hc, hcs⟩ := h
    intro p hp
    rw [reachedMore] at hp
    split at hp
    · cases hp
    · rcases List.mem_append.1 hp with hp | hp
      · exact writable_of_mem_reachedIn hc p hp
      · split at hp
        · exact writable_of_mem_reachedMore hcs _ p hp
        · cases hp

end

end Matching

namespace Query

open Grammar Matching

variable {options : MatchOptions} {document : Json}

/-- Whether a query may end like this: with a verdict, or because two values that are there have no
order, or an operator that is switched off. -/
def Promised (options : MatchOptions) : Except MatchFault Bool → Prop
  | .ok _ => True
  | .error (.incomparable _ _) => True
  | .error (.unsupported op) => op.isExtended = true ∧ options.extendedOperators = false
  | .error _ => False

theorem exists_operands_of_listFault? {p : Predicate} {fault : MatchFault}
    (h : p.listFault? = some fault) : ∃ op why, fault = .operands op why := by
  unfold Predicate.listFault? at h
  split at h
  · split at h
    · cases h
      exact ⟨_, _, rfl⟩
    · split at h
      · cases h
        exact ⟨_, _, rfl⟩
      · cases h
  · cases h

/-- A query that was read ends as promised exactly if evaluation reaches no comparison with a list,
and otherwise in the fault of the comparison that it reaches. -/
theorem run_promised_iff {text : List Char} {q : Query} (h : (compile text).result = .ok q)
    (options : MatchOptions) (document : Json) :
    (Promised options ((q.withOptions options).run document).result ↔
        ∀ p ∈ reached options document q.formula, p.listFault? = none) ∧
      ∀ p ∈ reached options document q.formula, ∀ fault, p.listFault? = some fault →
        ((q.withOptions options).run document).result = .error fault := by
  have hwritable := (compile_eq_ok_iff.1 h).1.writable
  have hreached : ∀ p ∈ reached options document q.formula, p.Writable :=
    writable_of_mem_reached hwritable
  show (Promised options (evaluate options document q.formula).result ↔ _) ∧ _
  have hlist : ∀ p ∈ reached options document q.formula, ∀ fault, p.listFault? = some fault →
      (evaluate options document q.formula).result = .error fault := by
    intro p hp fault hfault
    obtain ⟨op, why, rfl⟩ := exists_operands_of_listFault? hfault
    exact (result_evaluate_eq_error_iff q.formula _).2
      ⟨p, hp, verdict_of_listFault? (hreached p hp).fits hfault, rfl⟩
  refine ⟨⟨?_, ?_⟩, hlist⟩
  · -- A reached comparison with a list would have ended the evaluation in its fault.
    intro hpromised p hp
    cases hfault : p.listFault? with
    | none => rfl
    | some fault =>
      obtain ⟨op, why, rfl⟩ := exists_operands_of_listFault? hfault
      rw [hlist p hp _ hfault] at hpromised
      cases hpromised
  · intro hnone
    cases hresult : (evaluate options document q.formula).result with
    | ok v => trivial
    | error fault =>
      -- The fault is one of a reached predicate that fits, so it does not blame an operand.
      obtain ⟨p, hp, hverdict, hpropagating⟩ :=
        (result_evaluate_eq_error_iff q.formula fault).1 hresult
      have hshapes : ShapesFit options (verdict options document p).result :=
        verdict_shapesFit (hreached p hp) (hnone p hp)
      rw [hverdict] at hshapes
      cases fault with
      | comparison l r => cases hpropagating
      | incomparable l r => trivial
      | unsupported op => exact hshapes
      | bareValue kind => exact hshapes
      | operands op fault => exact hshapes

/-- The comparison with a list is read, but not reached on a document without attributes. -/
theorem run_promised_of_not_reached :
    ∃ q, (compile "@.a and @.b < [1]".toList).result = .ok q ∧
      Promised .standard ((q.withOptions .standard).run .null).result := by
  have ha : PathText "@.a".toList _ := .segments (List.cons_ne_nil ['a'] []) (by decide)
  have hb : PathText "@.b".toList _ := .segments (List.cons_ne_nil ['b'] []) (by decide)
  have hone : NumberText (minus false ++ ['1']) _ := .integer (by decide)
  have hlist : ListText _ _ := .elements (.last blanks_nil (.number hone) blanks_nil)
  have hless : PredicateText true _ (.compare _ .less _) :=
    .spaced (.path hb) (.operand (.list hlist)) rfl
  have hand : ("and", Connective.and) ∈ Connective.spellings := by decide
  have hclauses : ClausesText true Demand.maxGroups none _ _ :=
    .spaced (.test .absent (.lone ha)) hand (.last (.test .absent hless))
  have hread := compile_eq_ok_iff (q := ⟨_, .standard⟩).2
    ⟨.whole blanks_nil hclauses blanks_nil, rfl⟩
  refine ⟨_, hread, (run_promised_iff hread .standard .null).1.2 ?_⟩
  intro p hp
  obtain rfl := List.mem_singleton.1 hp
  rfl

/-- A query that is read and ends in a fault of shape on every document. -/
theorem run_fault_of_list :
    ∃ q, (compile "@.a == [1]".toList).result = .ok q ∧
      ∀ document, (q.run document).result = .error (.operands .equal (.notComparable "list")) := by
  have ha : PathText "@.a".toList _ := .segments (List.cons_ne_nil ['a'] []) (by decide)
  have hone : NumberText (minus false ++ ['1']) _ := .integer (by decide)
  have hlist : ListText _ _ := .elements (.last blanks_nil (.number hone) blanks_nil)
  have hequal : PredicateText true _ (.compare _ .equal _) :=
    .spaced (.path ha) (.operand (.list hlist)) rfl
  have hclauses : ClausesText true Demand.maxGroups none _ _ := .last (.test .absent hequal)
  have hread := compile_eq_ok_iff (q := ⟨_, .standard⟩).2
    ⟨.whole blanks_nil hclauses blanks_nil, rfl⟩
  exact ⟨_, hread, fun _ => rfl⟩

end Query
end DocFilter
