import DocFilter.Matching.Formula
import DocFilter.Proofs.Logged

/-!
# The verdict of a formula, run by run

Evaluation goes from clause to clause with a verdict so far, and what it does at a clause depends on
the connective before it.  Seen from further away it goes from run to run, where a run is what
stands between one `and` and the next: all clauses of a run are evaluated, one of them has to be
true, and the first run in which none is ends the evaluation.  So `or` binds tighter than `and`.
-/

namespace DocFilter
namespace Matching

/-! ### Runs -/

section Runs

variable {α β : Type}

/-- Whether an item belongs to the run of the item before it. -/
def continuesRun (x : Option Connective × α) : Bool := x.1 != some .and

/-- The runs of items, each of which is given with the connective before it: after the first item, a
run begins wherever there is an `and`. -/
def runs : List (Option Connective × α) → List (List α)
  | [] => []
  | x :: xs => (x.2 :: (xs.takeWhile continuesRun).map (·.2)) :: runs (xs.dropWhile continuesRun)
termination_by xs => xs.length
decreasing_by
  have := (List.dropWhile_suffix continuesRun (l := xs)).length_le
  simp only [List.length_cons]
  omega

theorem runs_map (g : α → β) (xs : List (Option Connective × α)) :
    runs (xs.map fun x => (x.1, g x.2)) = (runs xs).map (List.map g) := by
  have hcontinues : (continuesRun ∘ fun x : Option Connective × α => (x.1, g x.2)) = continuesRun :=
    rfl
  fun_induction runs xs with
  | case1 => simp [runs]
  | case2 x xs ih =>
    rw [List.map_cons, runs, List.takeWhile_map, List.dropWhile_map, hcontinues, ih]
    simp [Function.comp_def]

theorem exists_of_mem_runs {xs : List (Option Connective × α)} {run : List α} {a : α}
    (hrun : run ∈ runs xs) (ha : a ∈ run) : ∃ x ∈ xs, x.2 = a := by
  fun_induction runs xs with
  | case1 => cases hrun
  | case2 x xs ih =>
    rcases List.mem_cons.1 hrun with rfl | hrun
    · rcases List.mem_cons.1 ha with rfl | ha
      · exact ⟨x, List.mem_cons_self, rfl⟩
      · obtain ⟨y, hy, rfl⟩ := List.mem_map.1 ha
        exact ⟨y, List.mem_cons_of_mem x ((List.takeWhile_prefix _).subset hy), rfl⟩
    · obtain ⟨y, hy, rfl⟩ := ih hrun
      exact ⟨y, List.mem_cons_of_mem x ((List.dropWhile_suffix _).subset hy), rfl⟩

/-- Clauses, each with the connective before it and replaced by what `g` makes of it. -/
def linkedBy (g : Clause → α) (cs : List Clause) : List (Option Connective × α) :=
  cs.map fun c => (c.link, g c)

theorem linkedBy_cons (g : Clause → α) (c : Clause) (cs : List Clause) :
    linkedBy g (c :: cs) = (c.link, g c) :: linkedBy g cs := rfl

theorem runs_linkedBy (g : Clause → α) (cs : List Clause) :
    runs (linkedBy g cs) = (runs (linkedBy id cs)).map (List.map g) := by
  rw [← runs_map, linkedBy, linkedBy, List.map_map]
  rfl

theorem mem_of_mem_runs {cs : List Clause} {run : List Clause} {c : Clause}
    (hrun : run ∈ runs (linkedBy id cs)) (hc : c ∈ run) : c ∈ cs := by
  obtain ⟨x, hx, rfl⟩ := exists_of_mem_runs hrun hc
  obtain ⟨d, hd, rfl⟩ := List.mem_map.1 hx
  exact hd

end Runs

/-- The verdict of a run: every clause is evaluated, and one has to be true. -/
def runVerdict : List (Evaluation Bool) → Evaluation Bool
  | [] => pure false
  | x :: xs => do
    let v ← x
    let w ← runVerdict xs
    pure (v || w)

/-- The verdict of runs: each has to be true, and none is looked at after one that is false. -/
def runsVerdict : List (List (Evaluation Bool)) → Evaluation Bool
  | [] => pure true
  | run :: more => do
    if ← runVerdict run then runsVerdict more else pure false

/-! ### Formulas in which every connective is there -/

/-- Whether there is a first clause, and each later one has a connective. -/
def Joined (f : Formula) : Prop := f ≠ [] ∧ ∀ c ∈ f.tail, c.link.isSome

mutual

/-- Whether the groups in a clause, at every depth, are joined. -/
def JoinedInside : Clause → Prop
  | .test _ _ _ => True
  | .group _ _ body => Joined body ∧ AllJoinedInside body
termination_by structural c => c

/-- Whether the groups in clauses, at every depth, are joined. -/
def AllJoinedInside : List Clause → Prop
  | [] => True
  | c :: cs => JoinedInside c ∧ AllJoinedInside cs
termination_by structural cs => cs

end

mutual

/-- The verdict of a clause, where the formula in a group is evaluated run by run.  A comparison
that cannot be made is remarked on and counts as false, any other fault stays one, and a `!` turns
the verdict round unless the options ignore it. -/
def clauseByRuns (options : MatchOptions) (document : Json) : Clause → Evaluation Bool
  | .test _ negated p =>
    let tried := verdict options document p
    match tried.result with
    | .ok v => ⟨tried.notes, .ok (v ^^ (negated && options.applyNegation))⟩
    | .error (.comparison left right) =>
      ⟨tried.notes ++ [.degraded p (.comparison left right)],
        .ok (false ^^ (negated && options.applyNegation))⟩
    | .error fault => ⟨tried.notes, .error fault⟩
  | .group _ negated body =>
    let inside := runsVerdict (runs (linkedByRuns options document body))
    match inside.result with
    | .ok v => ⟨inside.notes, .ok (v ^^ (negated && options.applyNegation))⟩
    | .error fault => ⟨inside.notes, .error fault⟩
termination_by structural c => c

/-- The verdicts of clauses, each with the connective before it. -/
def linkedByRuns (options : MatchOptions) (document : Json) :
    List Clause → List (Option Connective × Evaluation Bool)
  | [] => []
  | c :: cs => (c.link, clauseByRuns options document c) :: linkedByRuns options document cs
termination_by structural cs => cs

end

/-- The verdict of a formula that is evaluated run by run at every depth. -/
def evaluateByRuns (options : MatchOptions) (document : Json) (f : Formula) : Evaluation Bool :=
  runsVerdict (runs (linkedByRuns options document f))

/-! ### Evaluation goes from run to run -/

variable {options : MatchOptions} {document : Json}

/-- What later items make of the verdict so far: they end the run that it belongs to, and if that
run is true the others follow. -/
def runsAfter (current : Bool) (xs : List (Option Connective × Evaluation Bool)) :
    Evaluation Bool := do
  let v ← runVerdict ((xs.takeWhile continuesRun).map (·.2))
  if current || v then runsVerdict (runs (xs.dropWhile continuesRun)) else pure false

theorem runsVerdict_runs_cons (link : Option Connective) (x : Evaluation Bool)
    (xs : List (Option Connective × Evaluation Bool)) :
    runsVerdict (runs ((link, x) :: xs)) = x >>= fun v => runsAfter v xs := by
  simp only [runs, runsVerdict, runVerdict, runsAfter, bind_assoc, pure_bind]

theorem runsAfter_nil (current : Bool) : runsAfter current [] = pure current := by
  cases current with
  | false => rfl
  | true => simp [runsAfter, runVerdict, runs, runsVerdict]

theorem runsAfter_and (current : Bool) (x : Evaluation Bool)
    (xs : List (Option Connective × Evaluation Bool)) :
    runsAfter current ((some .and, x) :: xs) =
      if current then x >>= fun v => runsAfter v xs else pure false := by
  have hbegins : ¬ continuesRun (some Connective.and, x) = true := by simp [continuesRun]
  rw [runsAfter, List.takeWhile_cons_of_neg hbegins, List.dropWhile_cons_of_neg hbegins,
    runsVerdict_runs_cons]
  simp only [List.map_nil, runVerdict, pure_bind, Bool.or_false]

theorem runsAfter_or (current : Bool) (x : Evaluation Bool)
    (xs : List (Option Connective × Evaluation Bool)) :
    runsAfter current ((some .or, x) :: xs) = x >>= fun v => runsAfter (current || v) xs := by
  have hcontinues : continuesRun (some Connective.or, x) = true := rfl
  rw [runsAfter, List.takeWhile_cons_of_pos hcontinues, List.dropWhile_cons_of_pos hcontinues]
  simp only [List.map_cons, runVerdict, runsAfter, bind_assoc, pure_bind, Bool.or_assoc]

/-- The invariant of the evaluation: the verdict so far is that of the run it is in. -/
theorem evaluateMore_eq_runsAfter {cs : List Clause} (hlinks : ∀ c ∈ cs, c.link.isSome)
    (current : Bool) :
    evaluateMore options document cs current =
      runsAfter current (linkedBy (clauseVerdict options document) cs) := by
  induction cs generalizing current with
  | nil => exact (runsAfter_nil current).symm
  | cons c cs ih =>
    obtain ⟨hc, hcs⟩ := List.forall_mem_cons.1 hlinks
    obtain ⟨next, hnext⟩ := Option.isSome_iff_exists.1 hc
    rw [evaluateMore, linkedBy_cons, hnext]
    cases next with
    | and =>
      -- A false run ends the formula, and after a true one the clause begins another.
      rw [runsAfter_and]
      cases current with
      | false => rfl
      | true => exact bind_congr fun v => ih hcs v
    | or =>
      -- The clause belongs to the run that is open.
      rw [runsAfter_or]
      exact bind_congr fun v => ih hcs (current || v)

theorem evaluate_eq_runsVerdict {f : Formula} (h : Joined f) :
    evaluate options document f =
      runsVerdict (runs (linkedBy (clauseVerdict options document) f)) := by
  obtain ⟨hne, hlinks⟩ := h
  cases f with
  | nil => exact absurd rfl hne
  | cons c cs =>
    rw [evaluate, linkedBy_cons, runsVerdict_runs_cons]
    exact bind_congr fun v => evaluateMore_eq_runsAfter hlinks v

theorem applyNegation_eq_xor (negated v : Bool) :
    applyNegation options negated v = (v ^^ (negated && options.applyNegation)) := by
  rw [applyNegation]
  cases negated && options.applyNegation with
  | false => exact (Bool.xor_false v).symm
  | true => exact (Bool.xor_true v).symm

theorem clauseVerdict_test (link : Option Connective) (negated : Bool) (p : Predicate) :
    clauseVerdict options document (.test link negated p) =
      clauseByRuns options document (.test link negated p) := by
  rw [clauseVerdict, clauseByRuns, Logged.map_eq, contain]
  generalize verdict options document p = tried
  obtain ⟨notes, result⟩ := tried
  cases result with
  | ok v => simp only [Except.map, applyNegation_eq_xor]
  | error fault =>
    cases fault with
    | comparison left right =>
      simp only [MatchFault.isDegrading, if_true, Except.map, applyNegation_eq_xor]
    | _ => rfl

theorem clauseVerdict_group {body : List Clause} (link : Option Connective) (negated : Bool)
    (h : evaluate options document body = runsVerdict (runs (linkedByRuns options document body))) :
    clauseVerdict options document (.group link negated body) =
      clauseByRuns options document (.group link negated body) := by
  rw [clauseVerdict, clauseByRuns, Logged.map_eq, h]
  generalize runsVerdict _ = inside
  obtain ⟨notes, result⟩ := inside
  cases result with
  | ok v => simp only [Except.map, applyNegation_eq_xor]
  | error fault => rfl

mutual

theorem clauseVerdict_eq_clauseByRuns (c : Clause) (h : JoinedInside c) :
    clauseVerdict options document c = clauseByRuns options document c := by
  cases c with
  | test link negated p => exact clauseVerdict_test link negated p
  | group link negated body =>
    obtain ⟨hbody, hinside⟩ := h
    refine clauseVerdict_group link negated ?_
    rw [evaluate_eq_runsVerdict hbody, linkedBy_eq_linkedByRuns body hinside]

theorem linkedBy_eq_linkedByRuns (cs : List Clause) (h : AllJoinedInside cs) :
    linkedBy (clauseVerdict options document) cs = linkedByRuns options document cs := by
  cases cs with
  | nil => rfl
  | cons c cs =>
    obtain ⟨hc, hcs⟩ := h
    have hmore := linkedBy_eq_linkedByRuns cs hcs
    rw [linkedByRuns, ← clauseVerdict_eq_clauseByRuns c hc, ← hmore]
    rfl

end

/-! ### Without faults -/

theorem result_runVerdict {α : Type} {verdictOf : α → Evaluation Bool} {value : α → Bool}
    {run : List α} (h : ∀ a ∈ run, (verdictOf a).result = .ok (value a)) :
    (runVerdict (run.map verdictOf)).result = .ok (run.any value) := by
  induction run with
  | nil => rfl
  | cons a run ih =>
    obtain ⟨ha, hrun⟩ := List.forall_mem_cons.1 h
    rw [List.map_cons, runVerdict, Logged.result_bind, ha]
    simp only [Logged.result_bind, ih hrun]
    rfl

theorem result_runsVerdict {α : Type} {verdictOf : α → Evaluation Bool} {value : α → Bool}
    {rs : List (List α)} (h : ∀ run ∈ rs, ∀ a ∈ run, (verdictOf a).result = .ok (value a)) :
    (runsVerdict (rs.map (List.map verdictOf))).result = .ok (rs.all (·.any value)) := by
  induction rs with
  | nil => rfl
  | cons run rs ih =>
    obtain ⟨hrun, hrs⟩ := List.forall_mem_cons.1 h
    rw [List.map_cons, runsVerdict, Logged.result_bind, result_runVerdict hrun, List.all_cons]
    cases run.any value with
    | false => rfl
    | true => exact ih hrs

/-- A formula without a fault is true if each of its runs has a true clause. -/
theorem result_evaluate_of_ok {f : Formula} (h : Joined f) {value : Clause → Bool}
    (hok : ∀ c ∈ f, (clauseVerdict options document c).result = .ok (value c)) :
    (evaluate options document f).result =
      .ok ((runs (linkedBy value f)).all (·.any id)) := by
  rw [evaluate_eq_runsVerdict h, runs_linkedBy (clauseVerdict options document),
    runs_linkedBy value, List.all_map,
    result_runsVerdict fun run hrun c hc => hok c (mem_of_mem_runs hrun hc)]
  simp [Function.comp_def]

/-- A formula is evaluated run by run, and so is every group in it if they are all joined.  Without
a fault it is true if each of its runs has a true clause. -/
theorem evaluate_run_by_run {f : Formula} (h : Joined f) (options : MatchOptions)
    (document : Json) :
    evaluate options document f =
        runsVerdict (runs (linkedBy (clauseVerdict options document) f)) ∧
      (AllJoinedInside f → evaluate options document f = evaluateByRuns options document f) ∧
      ∀ value : Clause → Bool,
        (∀ c ∈ f, (clauseVerdict options document c).result = .ok (value c)) →
        (evaluate options document f).result =
          .ok ((runs (linkedBy value f)).all (·.any id)) := by
  refine ⟨evaluate_eq_runsVerdict h, fun hinside => ?_, fun value => result_evaluate_of_ok h⟩
  rw [evaluate_eq_runsVerdict h, linkedBy_eq_linkedByRuns f hinside, evaluateByRuns]

/-- In `@.a or !@.b < 1 and !(@.b or @.a)` on a document without attributes, the clauses that are
true are those that are negated, the comparison that cannot be made among them.  Where negation is
ignored none is. -/
theorem evaluate_run_by_run_of_group :
    let a := Predicate.exists? (.path ⟨["a"]⟩)
    let b := Predicate.exists? (.path ⟨["b"]⟩)
    let small := Predicate.compare (.path ⟨["b"]⟩) .less (.number ⟨1, 0⟩)
    let f : Formula := [.test none false a, .test (some .or) true small,
      .group (some .and) true [.test none false b, .test (some .or) false a]]
    Joined f ∧ AllJoinedInside f ∧
      evaluate .standard .null f = evaluateByRuns .standard .null f ∧
      (evaluate .standard .null f).result =
        .ok ((runs [(none, false), (some .or, true), (some .and, true)]).all (·.any id)) ∧
      (evaluate .standard .null f).result = .ok true ∧
      (evaluate ⟨false, true⟩ .null f).result = .ok false := by
  intro a b small f
  have hjoined : Joined f := ⟨by simp [f], by simp [f, Clause.link]⟩
  have hinside : AllJoinedInside f :=
    ⟨trivial, trivial, ⟨⟨by simp, by simp [Clause.link]⟩, trivial, trivial, trivial⟩, trivial⟩
  obtain ⟨_, hruns, hvalue⟩ := evaluate_run_by_run hjoined .standard .null
  refine ⟨hjoined, hinside, hruns hinside, hvalue Clause.negated ?_, rfl, rfl⟩
  simp only [f, List.forall_mem_cons, List.not_mem_nil, false_implies, implies_true, and_true]
  exact ⟨rfl, rfl, rfl⟩

end Matching
end DocFilter
