import DocFilter.Proofs.Matching.Faults
import DocFilter.Proofs.Matching.Predicates

/-!
# Faults that stay inside their predicate

A comparison that cannot be made is a fault of its predicate only.  The predicate counts as false, an
event tells of it, and evaluation goes on: the events of an evaluation are those of the predicates
that it reaches, in the order in which it reaches them.  What it does not reach has no part in it:
the clauses after an `and` that ends a formula may be any others, or left out.
-/

namespace DocFilter

/-- Whether the event tells of a predicate that failed and counts as false. -/
def Event.tellsOfFailure (e : Event) : Bool :=
  e.level == .debug && e.message == "Failed to evaluate predicate"

namespace Matching

/-! ### What is not reached -/

mutual

/-- The clause without what its evaluation does not reach. -/
def trimmedClause (options : MatchOptions) (document : Json) : Clause → Clause
  | .test link negated p => .test link negated p
  | .group link negated body => .group link negated (trimmed options document body)
termination_by structural c => c

/-- The formula without what its evaluation does not reach. -/
def trimmed (options : MatchOptions) (document : Json) : List Clause → List Clause
  | [] => []
  | c :: cs => trimmedClause options document c ::
    match (clauseVerdict options document c).result with
    | .ok v => trimmedMore options document cs v
    | .error _ => []
termination_by structural cs => cs

/-- Later clauses without what is not reached, given the verdict so far. -/
def trimmedMore (options : MatchOptions) (document : Json) :
    List Clause → (current : Bool) → List Clause
  | [], _ => []
  | c :: cs, current =>
    if c.link == some .and && !current then []
    else trimmedClause options document c ::
      match (clauseVerdict options document c).result with
      | .ok v => trimmedMore options document cs (join c.link current v)
      | .error _ => []
termination_by structural cs => cs

end

/-- The event of a predicate whose comparison cannot be made, and of no other: it carries the text of
the predicate and what is said about the fault. -/
def failureEvent? (options : MatchOptions) (document : Json) (p : Predicate) : Option Event :=
  match (verdict options document p).result with
  | .error (.comparison left right) =>
    some ⟨.debug, "Failed to evaluate predicate",
      [("predicate", String.ofList p.render),
       ("error", (MatchFault.comparison left right).message)]⟩
  | _ => none

variable {options : MatchOptions} {document : Json}

/-! ### The notes of an evaluation -/

/-- The notes on one predicate: its own, and that it failed. -/
def notesOn (options : MatchOptions) (document : Json) (p : Predicate) : List Remark :=
  (contain p (verdict options document p)).notes

/-- The notes of what comes first and of what comes next are those of the predicates they reach. -/
theorem notes_bind_eq_flatMap {x : Evaluation Bool} {next : Bool → Evaluation Bool}
    {first : List Predicate} {more : Bool → List Predicate} {on : Predicate → List Remark}
    (hfirst : x.notes = first.flatMap on) (hnext : ∀ v, (next v).notes = (more v).flatMap on) :
    (x >>= next).notes = (first ++ match x.result with
      | .ok v => more v
      | .error _ => []).flatMap on := by
  rw [Logged.notes_bind, List.flatMap_append, ← hfirst]
  cases x.result with
  | error fault => exact (List.append_nil x.notes).symm
  | ok v => exact congrArg (x.notes ++ ·) (hnext v)

mutual

theorem notes_clauseVerdict (c : Clause) :
    (clauseVerdict options document c).notes =
      (reachedIn options document c).flatMap (notesOn options document) := by
  cases c with
  | test link negated p =>
    rw [clauseVerdict, Logged.notes_map, reachedIn, List.flatMap_singleton, notesOn]
  | group link negated body =>
    rw [clauseVerdict, Logged.notes_map, reachedIn]
    exact notes_evaluate body

/-- An evaluation leaves the notes on the predicates that it reaches, in order. -/
theorem notes_evaluate (cs : List Clause) :
    (evaluate options document cs).notes =
      (reached options document cs).flatMap (notesOn options document) := by
  cases cs with
  | nil => rfl
  | cons c cs =>
    rw [evaluate, reached]
    exact notes_bind_eq_flatMap (notes_clauseVerdict c) (fun v => notes_evaluateMore cs v)

theorem notes_evaluateMore (cs : List Clause) (current : Bool) :
    (evaluateMore options document cs current).notes =
      (reachedMore options document cs current).flatMap (notesOn options document) := by
  cases cs with
  | nil => rfl
  | cons c cs =>
    rw [evaluateMore, reachedMore]
    split
    · rfl
    · exact notes_bind_eq_flatMap (notes_clauseVerdict c)
        (fun v => notes_evaluateMore cs (join c.link current v))

end

/-! ### The notes on one predicate -/

/-- Whether the note is on a value that is never in a list. -/
def IsNeverListed (note : Remark) : Prop := ∃ type op, note = .neverListed type op

theorem isNeverListed_of_mem_listed {op : Operator} {items : List Operand} {v : Option Json} :
    ∀ note ∈ (listed op items v).notes, IsNeverListed note := by
  intro note hnote
  match v, hnote with
  | none, h | some .null, h | some (.string _), h | some (.number _), h => cases h
  | some (.bool _), h | some (.array _), h | some (.object _), h =>
    exact ⟨_, op, List.mem_singleton.1 h⟩

theorem isNeverListed_of_mem_containedIn {op : Operator} {left right : Operand} :
    ∀ note ∈ (containedIn document op left right).notes, IsNeverListed note := by
  unfold containedIn
  split
  · simp only
    split
    · exact fun _ h => by cases h
    · split <;> exact fun _ h => by cases h
  · exact isNeverListed_of_mem_listed
  · split
    · split <;> exact fun _ h => by cases h
    · exact fun _ h => by cases h

/-- Operators note nothing but values that are never in a list. -/
theorem isNeverListed_of_mem_verdict {p : Predicate} :
    ∀ note ∈ (verdict options document p).notes, IsNeverListed note := by
  obtain ⟨left, operator, right⟩ := p
  match operator, right with
  | none, _ => exact fun _ h => by cases h
  | some op, none => exact fun _ h => by cases h
  | some op, some right =>
    show ∀ note ∈ (compareBy options document op left right).notes, IsNeverListed note
    unfold compareBy
    split
    · exact fun _ h => by cases h
    · cases op with
      | isIn => exact isNeverListed_of_mem_containedIn
      | notIn =>
        simp only [Logged.notes_map]
        exact isNeverListed_of_mem_containedIn
      | _ => exact fun _ h => by cases h

theorem not_tellsOfFailure {note : Remark} (h : IsNeverListed note) :
    note.event.tellsOfFailure = false := by
  obtain ⟨type, op, rfl⟩ := h
  rfl

/-- Of a predicate one event tells that it failed, if its comparison cannot be made, and none
otherwise. -/
theorem filter_tellsOfFailure_notesOn (p : Predicate) :
    ((notesOn options document p).map Remark.event).filter Event.tellsOfFailure =
      (failureEvent? options document p).toList := by
  -- What the operator notes does not tell of a failure.
  have hnotes : ((verdict options document p).notes.map Remark.event).filter
      Event.tellsOfFailure = [] := by
    refine List.filter_eq_nil_iff.2 fun event hevent => ?_
    obtain ⟨note, hnote, rfl⟩ := List.mem_map.1 hevent
    rw [not_tellsOfFailure (isNeverListed_of_mem_verdict note hnote)]
    exact Bool.false_ne_true
  unfold notesOn contain failureEvent?
  cases hresult : (verdict options document p).result with
  | ok v => exact hnotes
  | error fault =>
    cases fault with
    | comparison left right =>
      simp only [MatchFault.isDegrading, if_true, List.map_append, List.filter_append, hnotes]
      rfl
    | _ => exact hnotes

/-! ### Leaving out what is not reached -/

theorem link_trimmedClause (c : Clause) : (trimmedClause options document c).link = c.link := by
  cases c <;> rfl

/-- What comes next matters only where there is a value to go on from. -/
theorem bind_congr_of_ok {x : Evaluation Bool} {next next' : Bool → Evaluation Bool}
    (h : ∀ v, x.result = .ok v → next v = next' v) : (x >>= next) = (x >>= next') := by
  refine Logged.ext ?_ ?_
  · rw [Logged.notes_bind, Logged.notes_bind]
    cases hx : x.result with
    | error fault => rfl
    | ok v => simp only [h v hx]
  · rw [Logged.result_bind, Logged.result_bind]
    cases hx : x.result with
    | error fault => rfl
    | ok v => simp only [h v hx]

mutual

theorem clauseVerdict_trimmedClause (c : Clause) :
    clauseVerdict options document (trimmedClause options document c) =
      clauseVerdict options document c := by
  cases c with
  | test link negated p => rfl
  | group link negated body =>
    rw [trimmedClause, clauseVerdict, clauseVerdict, evaluate_trimmed body]

/-- What is not reached changes nothing when it is left out. -/
theorem evaluate_trimmed (cs : List Clause) :
    evaluate options document (trimmed options document cs) = evaluate options document cs := by
  cases cs with
  | nil => rfl
  | cons c cs =>
    rw [trimmed, evaluate, evaluate, clauseVerdict_trimmedClause c]
    refine bind_congr_of_ok fun v hv => ?_
    simp only [hv]
    exact evaluateMore_trimmedMore cs v

theorem evaluateMore_trimmedMore (cs : List Clause) (current : Bool) :
    evaluateMore options document (trimmedMore options document cs current) current =
      evaluateMore options document cs current := by
  cases cs with
  | nil => rfl
  | cons c cs =>
    rw [trimmedMore, evaluateMore]
    split
    · next hends =>
      -- Evaluation ends here for the verdict so far, which is false.
      rw [Bool.and_eq_true, Bool.not_eq_true'] at hends
      rw [evaluateMore, hends.2]
    · next hgoes =>
      rw [evaluateMore, link_trimmedClause, if_neg hgoes, clauseVerdict_trimmedClause c]
      refine bind_congr_of_ok fun v hv => ?_
      simp only [hv]
      exact evaluateMore_trimmedMore cs (join c.link current v)

end

mutual

theorem predicates_trimmedClause (c : Clause) :
    (trimmedClause options document c).predicates = reachedIn options document c := by
  cases c with
  | test link negated p => rfl
  | group link negated body =>
    rw [trimmedClause, Clause.predicates, reachedIn]
    exact predicates_trimmed body

/-- The predicates that are reached are those of the formula without what is not. -/
theorem predicates_trimmed (cs : List Clause) :
    Clause.bodyPredicates (trimmed options document cs) = reached options document cs := by
  cases cs with
  | nil => rfl
  | cons c cs =>
    rw [trimmed, Clause.bodyPredicates, reached, predicates_trimmedClause c]
    cases (clauseVerdict options document c).result with
    | error fault => rfl
    | ok v => exact congrArg _ (predicates_trimmedMore cs v)

theorem predicates_trimmedMore (cs : List Clause) (current : Bool) :
    Clause.bodyPredicates (trimmedMore options document cs current) =
      reachedMore options document cs current := by
  cases cs with
  | nil => rfl
  | cons c cs =>
    rw [trimmedMore, reachedMore]
    split
    · rfl
    · rw [Clause.bodyPredicates, predicates_trimmedClause c]
      cases (clauseVerdict options document c).result with
      | error fault => rfl
      | ok v => exact congrArg _ (predicates_trimmedMore cs (join c.link current v))

end

/-! ### An `and` after a false verdict -/

/-- Clauses that begin with an `and` go on from the verdict of those before them. -/
theorem evaluateMore_append {c : Clause} (hlink : c.link = some .and) (first rest : List Clause)
    (current : Bool) :
    evaluateMore options document (first ++ c :: rest) current =
      evaluateMore options document first current >>= evaluateMore options document (c :: rest) := by
  induction first generalizing current with
  | nil => exact (pure_bind current _).symm
  | cons d first ih =>
    rw [List.cons_append, evaluateMore, evaluateMore]
    split
    · -- An early end is false, at which these clauses end too.
      rw [pure_bind, evaluateMore, hlink]
      rfl
    · rw [bind_assoc]
      exact bind_congr fun v => ih (join d.link current v)

theorem evaluate_append {c : Clause} (hlink : c.link = some .and) {first : List Clause}
    (hne : first ≠ []) (rest : List Clause) :
    evaluate options document (first ++ c :: rest) =
      evaluate options document first >>= evaluateMore options document (c :: rest) := by
  cases first with
  | nil => exact absurd rfl hne
  | cons d first =>
    rw [List.cons_append, evaluate, evaluate, bind_assoc]
    exact bind_congr fun v => evaluateMore_append hlink first rest v

/-- After a false verdict an `and` ends the formula, whatever comes then. -/
theorem evaluate_append_of_false {c : Clause} (hlink : c.link = some .and) {first : List Clause}
    (hne : first ≠ []) (hfalse : (evaluate options document first).result = .ok false)
    (rest : List Clause) :
    evaluate options document (first ++ c :: rest) = evaluate options document first := by
  rw [evaluate_append hlink hne]
  have hstop : evaluateMore options document (c :: rest) false = pure false := by
    rw [evaluateMore, hlink]
    rfl
  refine (bind_congr_of_ok fun v hv => ?_).trans (bind_pure _)
  rw [hfalse] at hv
  cases hv
  exact hstop

/-! ### Containment -/

/-- A comparison that cannot be made never ends an evaluation.  The events that tell of failed
predicates are those of the reached predicates that fail so, one for each and in order, and such a
predicate counts as false before its negation.  After a false verdict an `and` ends the formula with
nothing more to note, whatever comes then; and at every depth, only the predicates that are reached
have a part in what is noted and in the verdict. -/
theorem comparison_faults_contained (options : MatchOptions) (document : Json) (f : Formula) :
    (∀ left right, (evaluate options document f).result ≠ .error (.comparison left right)) ∧
    ((evaluate options document f).notes.map Remark.event).filter Event.tellsOfFailure =
      (reached options document f).filterMap (failureEvent? options document) ∧
    (∀ link negated p left right,
      (verdict options document p).result = .error (.comparison left right) →
      (clauseVerdict options document (.test link negated p)).result =
        .ok (applyNegation options negated false)) ∧
    (∀ (c : Clause) (rest : List Clause), f ≠ [] →
      (evaluate options document f).result = .ok false → c.link = some .and →
      evaluate options document (f ++ c :: rest) = evaluate options document f) ∧
    Formula.predicates (trimmed options document f) = reached options document f ∧
    evaluate options document (trimmed options document f) = evaluate options document f := by
  refine ⟨fun left right h => ?_, ?_, fun link negated p left right h => ?_,
    fun c rest hne hfalse hlink => evaluate_append_of_false hlink hne hfalse rest,
    predicates_trimmed f, evaluate_trimmed f⟩
  · obtain ⟨p, _, _, hpropagating⟩ := (result_evaluate_eq_error_iff f _).1 h
    cases hpropagating
  · rw [notes_evaluate, List.map_flatMap, List.filter_flatMap]
    simp only [filter_tellsOfFailure_notesOn]
    exact (List.filterMap_eq_flatMap_toList _ _).symm
  · rw [clauseVerdict, Logged.result_map, result_contain, h]
    rfl

/-- In `!@.a > 1 and @.b < 'x' and 7` on a document without attributes both comparisons fail, and
the lone number is not reached. -/
theorem comparison_faults_contained_of_skipped :
    let a := Predicate.compare (.path ⟨["a"]⟩) .greater (.number ⟨1, 0⟩)
    let b := Predicate.compare (.path ⟨["b"]⟩) .less (.string "x")
    let f : Formula := [.test none true a, .test (some .and) false b]
    let c : Clause := .test (some .and) false (.exists? (.number ⟨7, 0⟩))
    (verdict .standard .null a).result = .error (.comparison "missing" "1") ∧
      (clauseVerdict .standard .null (.test none true a)).result = .ok true ∧
      f ≠ [] ∧ (evaluate .standard .null f).result = .ok false ∧ c.link = some .and ∧
      (evaluate .standard .null (f ++ [c])).result = .ok false ∧
      ((evaluate .standard .null (f ++ [c])).notes.map Remark.event).filter
          Event.tellsOfFailure =
        [⟨.debug, "Failed to evaluate predicate",
          [("predicate", "@.a > 1"), ("error", "Unsupported comparison (missing vs. 1)")]⟩,
         ⟨.debug, "Failed to evaluate predicate",
          [("predicate", "@.b < 'x'"), ("error", "Unsupported comparison (missing vs. 'x')")]⟩] := by
  intro a b f c
  have ha : (verdict .standard .null a).result = .error (.comparison "missing" "1") := rfl
  have hfalse : (evaluate .standard .null f).result = .ok false := rfl
  obtain ⟨_, hevents, hcounts, hends, _⟩ := comparison_faults_contained .standard .null f
  have hne : f ≠ [] := List.cons_ne_nil _ _
  have hskip := hends c [] hne hfalse rfl
  refine ⟨ha, hcounts none true a _ _ ha, hne, hfalse, rfl, hskip ▸ hfalse, ?_⟩
  rw [hskip, hevents]
  rfl

end Matching
end DocFilter
