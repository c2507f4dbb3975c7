import DocFilter.Proofs.Action.Formula
import DocFilter.Proofs.Reading.Failures

/-!
# Errors say where they are

The position of an error is noted on the way: where the cursor is, where it was when a rule began,
or where the clause began that is being read.  Whichever of them it is, it is a position in the text
or its end, at or after the one where the reading began, and the fragment is the text from there on.
A reader that is asked again may remember any start, which no error of a later clause is taken from.
-/

namespace DocFilter

/-- Whether the error is in the text or at its end, and shows the text from there on. -/
structure SyntaxError.Located (text : List Char) (e : SyntaxError) : Prop where
  position_le : e.position ≤ text.length
  fragment_eq : e.fragment = text.drop e.position

theorem SyntaxError.located_ofFailure {text : List Char} {f : Failure} (h : f.place <:+ text) :
    (SyntaxError.ofFailure text f).Located text := by
  refine ⟨Nat.sub_le _ _, ?_⟩
  obtain ⟨before, rfl⟩ := h
  show f.place = (before ++ f.place).drop ((before ++ f.place).length - f.place.length)
  rw [List.length_append, Nat.add_sub_cancel, List.drop_left]

namespace Reader

/-- Every error of a reader that is asked any number of times says where it is. -/
theorem located_of_mem_readTimes {text : List Char} {n : Nat} {r : Reader} (hr : r.In text)
    {x : Logged Notice SyntaxError Formula} (hx : x ∈ readTimes n r) {e : SyntaxError}
    (he : x.result = .error e) : e.Located text := by
  induction n generalizing r with
  | zero => cases hx
  | succ n ih =>
    rcases List.mem_cons.1 hx with rfl | hx
    · have hmapped : r.outcome.result.mapError (SyntaxError.ofFailure r.cursor.text) = .error e := he
      cases hresult : r.outcome.result with
      | ok f =>
        rw [hresult] at hmapped
        cases hmapped
      | error f =>
        rw [hresult] at hmapped
        obtain rfl := Except.error.inj hmapped
        have hplace := (Demand.whole_failsIn _ _ f hresult).1.trans r.cursor.unread_suffix
        rw [hr.text_eq] at hplace ⊢
        exact SyntaxError.located_ofFailure hplace
    · exact ih hr.read hx

end Reader

namespace Action

open Reader (Meets)
open Reading (FailsIn failsIn_of_ok failsIn_failAt)

variable {α : Type} {r : Reader}

/-- Whether an error of the action says where it is, at or after where the reader stands. -/
def FailsLocated (act : Action α) (r : Reader) : Prop :=
  ∀ e, (act r).1.result = .error e → r.cursor.position ≤ e.position ∧ e.Located r.cursor.text

/-- The outcomes of doing the same `n` times in a row. -/
def times (act : Action α) : (n : Nat) → Reader → List (Logged Notice SyntaxError α)
  | 0, _ => []
  | n + 1, r => (act r).1 :: times act n (act r).2

/-! ### Errors of single actions -/

theorem failsLocated_of_perform {act : Action α} {n : Nat} {x : Reading (α × List Char)}
    (hr : r.cursor.Inside) (hact : (act r).1 = (r.perform x).1)
    (hx : FailsIn n r.cursor.unread x) : FailsLocated act r := by
  intro e he
  rw [hact] at he
  cases hresult : x.result with
  | ok found =>
    rw [Reader.perform_of_ok hresult] at he
    cases he
  | error f =>
    rw [Reader.perform_of_error hresult] at he
    obtain rfl := Except.error.inj he
    -- What is left at the place of the failure is left of what was unread, so it was read past.
    have hplace := (hx f hresult).1
    have hlength := hplace.length_le
    have hunread := r.cursor.length_unread
    have hinside : r.cursor.position ≤ r.cursor.text.length := hr
    refine ⟨?_, SyntaxError.located_ofFailure (hplace.trans r.cursor.unread_suffix)⟩
    show r.cursor.position ≤ r.cursor.text.length - f.place.length
    omega

theorem failsIn_demand {n : Nat} {rule : Rule α} {s : List Char} (h : FailsIn n s (rule s)) :
    FailsIn n s (rule.demand s) := by
  intro f hf
  exact h f (Rule.demand_eq_error_iff.1 hf)

theorem Does.failsLocated {act : Action (Option α)} {rule : Rule α} (h : act.Does rule.demand)
    (hr : r.cursor.Inside) (hf : rule.FailsInside) : FailsLocated act r :=
  failsLocated_of_perform hr (congrArg Prod.fst (h r)) (failsIn_demand (hf _))

theorem Reads.failsLocated {act : Action α} {demand : Nat → Demand α} (h : act.Reads demand)
    {n : Nat} (hr : r.cursor.Inside)
    (hf : FailsIn n r.cursor.unread (demand r.depth r.cursor.unread)) : FailsLocated act r :=
  failsLocated_of_perform hr (h r).outcome_eq hf

theorem listDemand_failsIn (s : List Char) : FailsIn 0 s (listDemand s) := by
  refine (failsIn_demand (Rule.element_failsInside s)).bind fun found hfound => ?_
  obtain ⟨_ | x, rest⟩ := found
  · obtain rfl := (Rule.demand_eq_none_iff.1 hfound).2
    exact failsIn_failAt _ (List.suffix_refl _) (List.suffix_refl _)
  · have hrest := (Rule.element_advances (Rule.demand_eq_some_iff.1 hfound)).1
    have hblanks := (skipBlanks_suffix rest).trans hrest
    have hseparator : FailsIn 0 s (separatorDemand rest) := by
      unfold separatorDemand
      split
      · exact failsIn_of_ok rfl
      · exact failsIn_of_ok rfl
      · exact failsIn_failAt _ hblanks hblanks
    exact hseparator.bind fun _ _ => failsIn_of_ok rfl

theorem clauseDemand_failsIn (levels : Nat) (link : Option Connective) (s : List Char) :
    FailsIn levels s (Demand.clause (Demand.inner levels) link s) :=
  Demand.clause_failsIn (fun n _ => Demand.formula_failsIn n) link s

theorem roundDemand_failsIn {n : Nat} {demand : Demand Clause} {s : List Char}
    (h : FailsIn n s (demand s)) : FailsIn n s (roundDemand demand s) := by
  refine h.bind fun found _ => ?_
  split
  · exact failsIn_of_ok rfl
  · exact failsIn_of_ok rfl

/-! ### Errors of repeated readings -/

/-- Which starts are remembered on the way has no part in what is read. -/
theorem times_whole {r r' : Reader} (h : r.SamePlace r') (n : Nat) :
    times (whole Demand.maxGroups) n r = Reader.readTimes n r' := by
  induction n generalizing r r' with
  | zero => rfl
  | succ n ih =>
    have hmeets := whole_meets r Demand.maxGroups (Nat.le_add_right _ _)
    rw [times, Reader.readTimes, hmeets.outcome_eq, h.read.1]
    rw [ih (hmeets.place.trans h.read.2)]

/-- Every error of every reading of a text, the first or a repeated one, is at a position in the
text or at its end and shows the text from there on.  So is every error of every rule, wherever in
the text the reader stands, whatever start it remembers and however many groups are open. -/
theorem errors_located (text : List Char) :
    (∀ n, times (whole Demand.maxGroups) n (.ofText text) = Reader.readTimes n (.ofText text) ∧
      ∀ x ∈ Reader.readTimes n (.ofText text), ∀ e, x.result = .error e → e.Located text) ∧
    ∀ r : Reader, r.cursor.text = text → r.cursor.Inside →
      (FailsLocated segment r ∧ FailsLocated path r ∧ FailsLocated list r ∧
        FailsLocated listRound r ∧ FailsLocated string r ∧
        (∀ inList, FailsLocated (number inList) r) ∧ FailsLocated null r ∧ FailsLocated regex r ∧
        FailsLocated operand r ∧ (∀ op, FailsLocated (rightOperand op) r)) ∧
      FailsLocated predicate r ∧ FailsLocated fittingPredicate r ∧
      (∀ levels link, FailsLocated (clause (inner levels) link) r ∧
        FailsLocated (clauseRound (inner levels) link) r) ∧
      (∀ levels, FailsLocated (formula levels) r) ∧ FailsLocated (whole Demand.maxGroups) r := by
  refine ⟨fun n => ⟨times_whole (Reader.SamePlace.refl _) n, fun x hx e he =>
    Reader.located_of_mem_readTimes (Reader.In.ofText text) hx he⟩, fun r _ hr => ?_⟩
  refine ⟨⟨?_, ?_, ?_, ?_, ?_, ?_, ?_, ?_, ?_, ?_⟩, ?_, ?_, fun levels link => ⟨?_, ?_⟩,
    fun levels => ?_, ?_⟩
  · have hsegment := segment_moveTo (r := r) r.cursor.unread_suffix
    rw [Reader.moveTo_unread hr] at hsegment
    exact failsLocated_of_perform hr (congrArg Prod.fst hsegment)
      (failsIn_demand (Rule.segment_failsInside _))
  · exact path_does.failsLocated hr Rule.path_failsInside
  · exact list_does.failsLocated hr Rule.list_failsInside
  · exact listRound_does.reads.failsLocated hr (listDemand_failsIn _)
  · exact string_does.failsLocated hr Rule.string_failsInside
  · exact fun inList => (number_does inList).failsLocated hr (Rule.number_failsInside inList)
  · exact null_does.failsLocated hr Rule.null_failsInside
  · exact regex_does.failsLocated hr Rule.regex_failsInside
  · exact operand_does.failsLocated hr Rule.operand_failsInside
  · exact fun op => (rightOperand_does op).failsLocated hr (Rule.rightOperand_failsInside op)
  · exact predicate_reads.failsLocated hr (failsIn_demand (Rule.predicate_failsInside _))
  · have hfitting := fittingPredicate_meets (r := r) r.cursor.start r.cursor.unread_suffix
    rw [show (r.startingAt r.cursor.start).moveTo r.cursor.unread = r from
      Reader.moveTo_unread hr] at hfitting
    exact failsLocated_of_perform hr hfitting.outcome_eq (Demand.fittingPredicate_failsIn _)
  · exact (clause_reads (innerReads_inner levels) link).failsLocated hr (clauseDemand_failsIn _ _ _)
  · exact (clauseRound_reads (innerReads_inner levels) link).failsLocated hr
      (roundDemand_failsIn (clauseDemand_failsIn _ _ _))
  · exact (formulaAction levels).2.failsLocated hr (Demand.formula_failsIn _ _)
  · have hmeets := whole_meets r Demand.maxGroups (Nat.le_add_right _ _)
    rw [read_eq_perform] at hmeets
    exact failsLocated_of_perform hr hmeets.outcome_eq
      ((Demand.whole_failsIn _ _).bind fun _ _ => failsIn_of_ok rfl)

/-- A string that is not closed is reported where its quote is, after the blanks. -/
theorem errors_located_of_open_string :
    let r : Reader := ⟨⟨"@.a ==  'b".toList, 6, 9⟩, 1⟩
    r.cursor.Inside ∧ ∃ e, (string r).1.result = .error e ∧ e.position = 8 ∧
      e.Located r.cursor.text := by
  have hr : (⟨"@.a ==  'b".toList, 6, 9⟩ : Cursor).Inside := by decide
  have hstring : (string ⟨⟨"@.a ==  'b".toList, 6, 9⟩, 1⟩).1.result =
      .error ⟨.openString, 8, "'b".toList⟩ := by
    rw [string_does]
    rfl
  have hlocated := (errors_located "@.a ==  'b".toList).2 ⟨⟨_, 6, 9⟩, 1⟩ rfl hr
  exact ⟨hr, _, hstring, rfl, (hlocated.1.2.2.2.2.1 _ hstring).2⟩

end Action

end DocFilter
