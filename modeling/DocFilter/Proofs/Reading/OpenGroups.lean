import DocFilter.Proofs.Reading.Failures

/-!
# Counting open groups

A reader counts the groups that are open: up where it opens one, and down where what the group holds
has been read.  A failure leaves the count as it stands.  Here the steps of the count are listed in
the order in which they are made, and followed: the count never has to fall below zero, it is back
where it was when a formula has been read, and otherwise it has gone up by the open groups that the
failure tells of.
-/

namespace DocFilter

/-- What happens to the count of open groups. -/
inductive GroupStep where
  | opened
  | bodyRead
  deriving DecidableEq, Repr

namespace GroupStep

/-- The count after a step, if it need not fall below zero. -/
def count? : Nat → GroupStep → Option Nat
  | n, opened => some (n + 1)
  | 0, bodyRead => none
  | n + 1, bodyRead => some n

/-- The count after a row of steps, if it never has to fall below zero. -/
def countAll? (n : Nat) (steps : List GroupStep) : Option Nat := steps.foldlM count? n

theorem countAll?_append {n m : Nat} {first : List GroupStep} (h : countAll? n first = some m)
    (second : List GroupStep) : countAll? n (first ++ second) = countAll? m second := by
  unfold countAll? at h ⊢
  rw [List.foldlM_append, h]
  rfl

end GroupStep

open GroupStep

namespace Reading

variable {α β : Type}

/-- How many groups the outcome leaves open. -/
def leftOpen (x : Reading α) : Nat :=
  match x.result with
  | .ok _ => 0
  | .error f => f.openGroups

theorem leftOpen_of_ok {x : Reading α} {a : α} (h : x.result = .ok a) : x.leftOpen = 0 := by
  rw [leftOpen, h]

theorem leftOpen_of_error {x : Reading α} {f : Failure} (h : x.result = .error f) :
    x.leftOpen = f.openGroups := by
  rw [leftOpen, h]

theorem leftOpen_of_failsIn {n : Nat} {s : List Char} {x : Reading α} (h : FailsIn n s x) :
    x.leftOpen ≤ n := by
  cases hresult : x.result with
  | ok a => exact leftOpen_of_ok hresult ▸ Nat.zero_le n
  | error f => exact leftOpen_of_error hresult ▸ (h f hresult).2.2

theorem leftOpen_bind_of_ok {x : Reading α} {a : α} (h : x.result = .ok a)
    (next : α → Reading β) : (x >>= next).leftOpen = (next a).leftOpen := by
  simp only [leftOpen, Logged.result_bind, h]

theorem leftOpen_bind_of_error {x : Reading α} {f : Failure} (h : x.result = .error f)
    (next : α → Reading β) : (x >>= next).leftOpen = f.openGroups := by
  simp only [leftOpen, Logged.result_bind, h]

/-- Where what comes next leaves nothing open, all that is left open was so before. -/
theorem leftOpen_bind {x : Reading α} {next : α → Reading β}
    (h : ∀ a, x.result = .ok a → (next a).leftOpen = 0) : (x >>= next).leftOpen = x.leftOpen := by
  cases hresult : x.result with
  | ok a => rw [leftOpen_bind_of_ok hresult, h a hresult, leftOpen_of_ok hresult]
  | error f => rw [leftOpen_bind_of_error hresult, leftOpen_of_error hresult]

end Reading

open Reading

namespace Demand

/-! ### The steps -/

/-- The step after what a group holds, which is not made after a failure. -/
def bodyEnd {α : Type} : Except Failure α → List GroupStep
  | .ok _ => [bodyRead]
  | .error _ => []

/-- The steps while a clause is read, when groups may still be opened. -/
def groupSteps (formula : Demand Formula) (steps : List Char → List GroupStep) (s : List Char) :
    List GroupStep :=
  match (negation (skipBlanks s)).2 with
  | '(' :: body => opened :: (steps body ++ bodyEnd (formula body).result)
  | _ => []

/-- The steps while clauses are read, given those of each clause. -/
def clausesSteps (clause : Option Connective → Demand Clause)
    (advances : ∀ link, (clause link).Advances) (steps : List Char → List GroupStep)
    (link : Option Connective) (s : List Char) : List GroupStep :=
  steps s ++
    match _ : (clause link s).result with
    | .error _ => []
    | .ok (_, rest) =>
      match _ : Rule.connective? (skipBlanks rest) with
      | none => []
      | some (next, rest') => clausesSteps clause advances steps (some next) rest'
termination_by s.length
decreasing_by
  have h1 := (advances _ ‹_›).2
  have h2 := (Rule.connective?_suffix ‹_›).length_le
  have h3 := length_skipBlanks_le rest
  omega

theorem inner_advances (levels : Nat) : ∀ f ∈ inner levels, Advances f := by
  intro f hf
  cases levels with
  | zero => cases hf
  | succ levels =>
    obtain rfl := Option.some.inj hf
    exact (formulaRule levels).2

/-- The steps while a formula is read inside which at most `levels` groups may be open at once. -/
def formulaSteps : (levels : Nat) → List Char → List GroupStep
  | 0 => clausesSteps (clause (inner 0)) (clause_advances (inner_advances 0)) (fun _ => []) none
  | levels + 1 =>
    clausesSteps (clause (inner (levels + 1))) (clause_advances (inner_advances (levels + 1)))
      (groupSteps (formula levels) (formulaSteps levels)) none

/-! ### What is left open -/

theorem leftOpen_closed (formula : Demand Formula) (s : List Char) :
    (closed formula s).leftOpen = (formula s).insideGroup.leftOpen := by
  refine leftOpen_bind fun found _ => ?_
  obtain ⟨body, rest⟩ := found
  simp only
  split
  · rfl
  · rfl

theorem leftOpen_clause_of_group {link : Option Connective} {s body : List Char}
    (formula : Demand Formula) (h : (negation (skipBlanks s)).2 = '(' :: body) :
    (clause (some formula) link s).leftOpen = (closed formula body).leftOpen := by
  simp only [clause, h]
  exact leftOpen_bind fun _ _ => rfl

theorem leftOpen_clause_of_test {inner : Option (Demand Formula)} {link : Option Connective}
    {s : List Char} (h : ∀ body, (negation (skipBlanks s)).2 ≠ '(' :: body) :
    (clause inner link s).leftOpen = 0 := by
  have hpredicate : (fittingPredicate (negation (skipBlanks s)).2).leftOpen = 0 :=
    Nat.le_zero.1 (leftOpen_of_failsIn (fittingPredicate_failsIn _))
  simp only [clause]
  exact (leftOpen_bind fun _ _ => rfl).trans hpredicate

theorem leftOpen_clause_of_noLevels (link : Option Connective) (s : List Char) :
    (clause (inner 0) link s).leftOpen = 0 :=
  Nat.le_zero.1 (leftOpen_of_failsIn
    (clause_failsIn (fun n hn => absurd hn n.succ_ne_zero.symm) link s))

section Clauses

variable {rule : Option Connective → Demand Clause} {advances : ∀ link, (rule link).Advances}
  {link : Option Connective} {s : List Char}

theorem leftOpen_clauses_of_error {f : Failure} (h : (rule link s).result = .error f) :
    (clauses rule advances link s).leftOpen = f.openGroups :=
  leftOpen_of_error (result_clauses_of_error h)

theorem leftOpen_clauses_of_last {c : Clause} {r : List Char}
    (h : (rule link s).result = .ok (c, r))
    (hlast : Rule.connective? (skipBlanks r) = none) :
    (clauses rule advances link s).leftOpen = 0 :=
  leftOpen_of_ok (clauses_eq_ok_iff.2 ⟨c, r, h, .inl ⟨hlast, rfl, rfl⟩⟩)

theorem leftOpen_clauses_of_next {c : Clause} {r r' : List Char} {next : Connective}
    (h : (rule link s).result = .ok (c, r))
    (hnext : Rule.connective? (skipBlanks r) = some (next, r')) :
    (clauses rule advances link s).leftOpen = (clauses rule advances (some next) r').leftOpen := by
  rw [leftOpen, leftOpen, result_clauses_of_next h hnext]
  cases (clauses rule advances (some next) r').result <;> rfl

end Clauses

/-! ### The count -/

/-- Whether the steps take the count from anywhere to where the outcome leaves it. -/
def Counts {α : Type} (steps : List Char → List GroupStep) (demand : Demand α) : Prop :=
  ∀ s n, countAll? n (steps s) = some (n + (demand s).leftOpen)

/-- Of a group whose body was read nothing is left open. -/
theorem countAll?_bodyEnd (formula : Demand Formula) (s : List Char) (n : Nat) :
    countAll? (n + 1 + (formula s).leftOpen) (bodyEnd (formula s).result) =
      some (n + (closed formula s).leftOpen) := by
  rw [leftOpen_closed]
  cases h : (formula s).result with
  | ok found =>
    have hinside : (formula s).insideGroup.leftOpen = 0 :=
      leftOpen_of_ok (Logged.result_mapReason_eq_ok_iff.2 h)
    rw [leftOpen_of_ok h, hinside]
    rfl
  | error f =>
    have hinside : (formula s).insideGroup.leftOpen = f.openGroups + 1 := by
      simp only [leftOpen, insideGroup, Logged.result_mapReason, h, Except.mapError]
    rw [leftOpen_of_error h, hinside, Nat.add_right_comm, Nat.add_assoc]
    rfl

theorem counts_groupSteps {formula : Demand Formula} {steps : List Char → List GroupStep}
    (h : Counts steps formula) (link : Option Connective) :
    Counts (groupSteps formula steps) (clause (some formula) link) := by
  intro s n
  unfold groupSteps
  split
  · next body hbody =>
    rw [leftOpen_clause_of_group formula hbody, ← countAll?_bodyEnd,
      ← countAll?_append (h body (n + 1))]
    rfl
  · next htest =>
    rw [leftOpen_clause_of_test htest]
    rfl

theorem counts_noSteps (link : Option Connective) :
    Counts (fun _ => []) (clause (inner 0) link) := by
  intro s n
  rw [leftOpen_clause_of_noLevels]
  rfl

theorem counts_clausesSteps {rule : Option Connective → Demand Clause}
    {advances : ∀ link, (rule link).Advances} {steps : List Char → List GroupStep}
    (h : ∀ link, Counts steps (rule link)) (link : Option Connective) :
    Counts (clausesSteps rule advances steps link) (clauses rule advances link) := by
  intro s n
  -- Each further clause begins where less is left of the text.
  induction hn : s.length using Nat.strongRecOn generalizing s link with
  | ind m ih =>
    subst hn
    rw [clausesSteps, countAll?_append (h link s n)]
    split
    · next f hf =>
      rw [leftOpen_of_error hf, leftOpen_clauses_of_error hf]
      rfl
    · next c r hc =>
      -- A clause that was read has left nothing open.
      rw [leftOpen_of_ok hc, Nat.add_zero]
      split
      · next hlast =>
        rw [leftOpen_clauses_of_last hc hlast]
        rfl
      · next next r' hnext =>
        have hlt := (advances link hc).2
        have hle := (Rule.connective?_suffix hnext).length_le
        have hskip := length_skipBlanks_le r
        rw [leftOpen_clauses_of_next hc hnext]
        exact ih _ (by omega) (some next) r' rfl

/-- While a formula is read the count of open groups never has to fall below zero.  It ends where it
began, or above that by the groups that a failure leaves open. -/
theorem counts_formulaSteps (levels : Nat) : Counts (formulaSteps levels) (formula levels) := by
  induction levels with
  | zero => exact counts_clausesSteps counts_noSteps none
  | succ levels ih => exact counts_clausesSteps (counts_groupSteps ih) none

end Demand
end DocFilter
