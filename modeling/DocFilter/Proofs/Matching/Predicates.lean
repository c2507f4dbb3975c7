import DocFilter.Matching.Formula
import DocFilter.Proofs.Logged
import Mathlib.Data.List.Forall2

/-!
# What a formula asks of its predicates

An evaluation makes its verdict out of what the predicates of the formula count for, and looks at
the document nowhere else.  A predicate counts for its verdict, or for false where its comparison
cannot be made; any other fault is one of the formula.

So evaluations can be compared predicate by predicate.  A relation between outcomes that is kept
when they are put together holds between formulas that are built alike, if it holds between the
predicates that go with each other (`evaluate_inStep`).  In particular two documents on which every
predicate counts for the same satisfy the formula alike.
-/

namespace DocFilter

namespace Clause

mutual

/-- The predicates in a clause, at every depth. -/
def predicates : Clause → List Predicate
  | test _ _ p => [p]
  | group _ _ body => bodyPredicates body
termination_by structural c => c

/-- The predicates in clauses, at every depth. -/
def bodyPredicates : List Clause → List Predicate
  | [] => []
  | c :: cs => predicates c ++ bodyPredicates cs
termination_by structural cs => cs

end

/-! ### Clauses built alike -/

section BuiltAlike

variable (σ : Bool → Bool → Prop) (ρ : Predicate → Predicate → Prop)

mutual

/-- Whether two clauses differ in their negations and predicates only, for which `σ` and `ρ` say
what goes with what. -/
def BuiltAlike : Clause → Clause → Prop
  | test link negated p, test link' negated' p' => link = link' ∧ σ negated negated' ∧ ρ p p'
  | group link negated body, group link' negated' body' =>
    link = link' ∧ σ negated negated' ∧ BodyBuiltAlike body body'
  | _, _ => False
termination_by structural c => c

/-- Whether clauses are built alike one by one. -/
def BodyBuiltAlike : List Clause → List Clause → Prop
  | [], [] => True
  | c :: cs, c' :: cs' => BuiltAlike c c' ∧ BodyBuiltAlike cs cs'
  | _, _ => False
termination_by structural cs => cs

end

variable {σ ρ}

theorem BuiltAlike.link_eq {c c' : Clause} (h : c.BuiltAlike σ ρ c') : c.link = c'.link := by
  cases c with
  | test =>
    cases c' with
    | test => exact h.1
    | group => cases h
  | group =>
    cases c' with
    | test => cases h
    | group => exact h.1

mutual

theorem BuiltAlike.refl (hσ : ∀ n, σ n n) (c : Clause) (hρ : ∀ p ∈ c.predicates, ρ p p) :
    c.BuiltAlike σ ρ c := by
  cases c with
  | test link negated p => exact ⟨rfl, hσ negated, hρ p List.mem_cons_self⟩
  | group link negated body => exact ⟨rfl, hσ negated, BodyBuiltAlike.refl hσ body hρ⟩

/-- A formula is built like itself. -/
theorem BodyBuiltAlike.refl (hσ : ∀ n, σ n n) (cs : List Clause)
    (hρ : ∀ p ∈ bodyPredicates cs, ρ p p) : BodyBuiltAlike σ ρ cs cs := by
  cases cs with
  | nil => trivial
  | cons c cs =>
    obtain ⟨hc, hcs⟩ := List.forall_mem_append.1 hρ
    exact ⟨BuiltAlike.refl hσ c hc, BodyBuiltAlike.refl hσ cs hcs⟩

end

end BuiltAlike

end Clause

/-- The predicates in a formula, at every depth. -/
def Formula.predicates (f : Formula) : List Predicate := Clause.bodyPredicates f

/-- The path that the operand is, if it is one.  A path in a list is never followed. -/
def Operand.path? : Operand → Option Path
  | .path p => some p
  | _ => none

/-- The paths that a predicate follows. -/
def Predicate.paths (p : Predicate) : List Path :=
  p.left.path?.toList ++ (p.right.bind Operand.path?).toList

namespace Matching

/-- What a predicate with the given outcome counts for. -/
def counted : Except MatchFault Bool → Except MatchFault Bool
  | .ok v => .ok v
  | .error fault => if fault.isDegrading then .ok false else .error fault

theorem result_contain (p : Predicate) (x : Evaluation Bool) :
    (contain p x).result = counted x.result := by
  unfold contain counted
  cases hx : x.result with
  | ok v => exact hx
  | error fault =>
    simp only
    split
    · rfl
    · exact hx

variable {options : MatchOptions} {d d' : Json}

/-- A formula of one predicate has the outcome that the predicate counts for. -/
theorem result_evaluate_alone (p : Predicate) :
    (evaluate options d [.test none false p]).result = counted (verdict options d p).result := by
  rw [evaluate, Logged.result_bind, clauseVerdict, Logged.result_map, result_contain]
  cases counted (verdict options d p).result with
  | error fault => rfl
  | ok v => rfl

/-- Whether a predicate counts for the same on both documents. -/
def CountsAlike (options : MatchOptions) (d d' : Json) (p : Predicate) : Prop :=
  counted (verdict options d p).result = counted (verdict options d' p).result

/-- Two comparisons by one operator count for the same if what the operator looks up does. -/
theorem counted_compareBy_congr {op : Operator} {left right left' right' : Operand}
    (hequals : op = .equal ∨ op = .notEqual → equals d op left right = equals d' op left' right')
    (horder : op.isOrdering = true → ∀ f : Ordering → Bool,
      counted ((order d op left right).map f) = counted ((order d' op left' right').map f))
    (hcontained : op = .isIn ∨ op = .notIn →
      (containedIn d op left right).result = (containedIn d' op left' right').result)
    (hpattern : op = .matchesRegex →
      matchesPattern d op left right = matchesPattern d' op left' right')
    (hlisted : op = .anyOf ∨ op = .noneOf →
      anyListed d op left right = anyListed d' op left' right') :
    counted (compareBy options d op left right).result =
      counted (compareBy options d' op left' right').result := by
  unfold compareBy
  split
  · rfl
  · cases op with
    | equal => rw [hequals (.inl rfl)]
    | notEqual => rw [hequals (.inr rfl)]
    | greater => exact horder rfl _
    | lessEqual => exact horder rfl _
    | less => exact horder rfl _
    | greaterEqual => exact horder rfl _
    | isIn => exact congrArg counted (hcontained (.inl rfl))
    | notIn => simp only [Logged.result_map, hcontained (.inr rfl)]
    | matchesRegex => rw [hpattern rfl]
    | anyOf => rw [hlisted (.inl rfl)]
    | noneOf => rw [hlisted (.inr rfl)]

/-- Something is found among values if it is found among others that are related to them one by
one. -/
theorem any_eq_of_forall₂ {α β : Type} {R : α → β → Prop} {found : α → Bool} {found' : β → Bool}
    {xs : List α} {ys : List β} (h : List.Forall₂ R xs ys)
    (hfound : ∀ {x y}, R x y → found x = found' y) : xs.any found = ys.any found' := by
  induction h with
  | nil => rfl
  | cons hxy _ ih => rw [List.any_cons, List.any_cons, hfound hxy, ih]

/-! ### Two evaluations in step -/

/-- Whether outcomes in the relation are again in it when they are put together the way an
evaluation does. -/
structure Composable (R : Evaluation Bool → Evaluation Bool → Prop) : Prop where
  pure : ∀ v, R (Pure.pure v) (Pure.pure v)
  bind : ∀ {x x' : Evaluation Bool} {next next' : Bool → Evaluation Bool},
    R x x' → (∀ v, R (next v) (next' v)) → R (x >>= next) (x' >>= next')

theorem Composable.map {R : Evaluation Bool → Evaluation Bool → Prop} (hR : Composable R)
    {x x' : Evaluation Bool} (hx : R x x') (g : Bool → Bool) : R (g <$> x) (g <$> x') := by
  rw [map_eq_pure_bind, map_eq_pure_bind]
  exact hR.bind hx fun v => hR.pure (g v)

/-- Whether two evaluations stay in the relation `R`: outcomes in it are put together to outcomes in
it, negations that `σ` lets go with each other come to the same, and predicates that `ρ` lets go
with each other have outcomes in it. -/
structure InStep (options options' : MatchOptions) (d d' : Json)
    (R : Evaluation Bool → Evaluation Bool → Prop) (σ : Bool → Bool → Prop)
    (ρ : Predicate → Predicate → Prop) : Prop where
  composable : Composable R
  negation : ∀ n n', σ n n' → applyNegation options n = applyNegation options' n'
  predicate : ∀ p p', ρ p p' →
    R (contain p (verdict options d p)) (contain p' (verdict options' d' p'))

section InStep

variable {options options' : MatchOptions} {R : Evaluation Bool → Evaluation Bool → Prop}
  {σ : Bool → Bool → Prop} {ρ : Predicate → Predicate → Prop}

mutual

theorem clauseVerdict_inStep (hs : InStep options options' d d' R σ ρ) (c c' : Clause)
    (h : c.BuiltAlike σ ρ c') :
    R (clauseVerdict options d c) (clauseVerdict options' d' c') := by
  cases c with
  | test link negated p =>
    cases c' with
    | test link' negated' p' =>
      obtain ⟨_, hn, hp⟩ := h
      rw [clauseVerdict, clauseVerdict, hs.negation _ _ hn]
      exact hs.composable.map (hs.predicate p p' hp) _
    | group => cases h
  | group link negated body =>
    cases c' with
    | test => cases h
    | group link' negated' body' =>
      obtain ⟨_, hn, hbody⟩ := h
      rw [clauseVerdict, clauseVerdict, hs.negation _ _ hn]
      exact hs.composable.map (evaluate_inStep hs body body' hbody) _

/-- If the outcomes of predicates that go with each other are related, then so are those of formulas
that are built alike out of them. -/
theorem evaluate_inStep (hs : InStep options options' d d' R σ ρ) (cs cs' : List Clause)
    (h : Clause.BodyBuiltAlike σ ρ cs cs') :
    R (evaluate options d cs) (evaluate options' d' cs') := by
  cases cs with
  | nil =>
    cases cs' with
    | nil => exact hs.composable.pure false
    | cons => cases h
  | cons c cs =>
    cases cs' with
    | nil => cases h
    | cons c' cs' =>
      obtain ⟨hc, hcs⟩ := h
      rw [evaluate, evaluate]
      exact hs.composable.bind (clauseVerdict_inStep hs c c' hc)
        (evaluateMore_inStep hs cs cs' hcs)

theorem evaluateMore_inStep (hs : InStep options options' d d' R σ ρ) (cs cs' : List Clause)
    (h : Clause.BodyBuiltAlike σ ρ cs cs') (current : Bool) :
    R (evaluateMore options d cs current) (evaluateMore options' d' cs' current) := by
  cases cs with
  | nil =>
    cases cs' with
    | nil => exact hs.composable.pure current
    | cons => cases h
  | cons c cs =>
    cases cs' with
    | nil => cases h
    | cons c' cs' =>
      obtain ⟨hc, hcs⟩ := h
      rw [evaluateMore, evaluateMore, hc.link_eq]
      split
      · exact hs.composable.pure false
      · exact hs.composable.bind (clauseVerdict_inStep hs c c' hc) fun v =>
          evaluateMore_inStep hs cs cs' hcs (join c'.link current v)

end

end InStep

/-! ### Results alone -/

/-- The results of outcomes are put together without a look at the notes. -/
theorem composable_result : Composable fun x x' => x.result = x'.result where
  pure _ := rfl
  bind := by
    intro x x' next next' hx hnext
    rw [Logged.result_bind, Logged.result_bind, hx]
    cases x'.result with
    | error fault => rfl
    | ok v => exact hnext v

/-- Documents on which every predicate counts for the same satisfy the formula alike. -/
theorem result_evaluate_congr (f : Formula)
    (h : ∀ p ∈ f.predicates, CountsAlike options d d' p) :
    (evaluate options d f).result = (evaluate options d' f).result := by
  have hs : InStep options options d d' (fun x x' => x.result = x'.result) Eq
      (fun p p' => p = p' ∧ CountsAlike options d d' p) :=
    { composable := composable_result
      negation := by
        rintro n _ rfl
        rfl
      predicate := by
        rintro p _ ⟨rfl, hp⟩
        rw [result_contain, result_contain]
        exact hp }
  exact evaluate_inStep hs f f
    (Clause.BodyBuiltAlike.refl (fun _ => rfl) f fun p hp => ⟨rfl, h p hp⟩)

end Matching

end DocFilter
