import DocFilter.Proofs.Action.Formula
import DocFilter.Proofs.Reading.Failures

/-!
# Rules restore or advance

A rule that finds nothing has often read on by then, and alternatives are tried one after the other
from the same position.  Whatever way a rule ends, the text, the remembered start and the count of
open groups are what they were; where it finds nothing the position is too, and where it finds
something the position has moved forward and is still in the text.  With it every round of a loop
consumes at least one character.
-/

namespace DocFilter

namespace Action

open Reader (Meets)

variable {α : Type} {act : Action (Option α)} {rule : Rule α} {r : Reader}

/-- What is said of an action and its rule at a reader: the action does what the rule says, and
either restores the position or advances it, and nothing else is changed. -/
structure RestoresOrAdvances (act : Action (Option α)) (rule : Rule α) (r : Reader) : Prop where
  does : act r = r.perform (rule.demand r.cursor.unread)
  text_eq : (act r).2.cursor.text = r.cursor.text
  start_eq : (act r).2.cursor.start = r.cursor.start
  depth_eq : (act r).2.depth = r.depth
  restores : (act r).1.result = .ok none → (act r).2.cursor.position = r.cursor.position
  advances : ∀ a, (act r).1.result = .ok (some a) →
    r.cursor.position < (act r).2.cursor.position ∧
      (act r).2.cursor.position ≤ r.cursor.text.length

/-- Whether at least one character is read when the action succeeds, and none past the end. -/
def Consumes (act : Action α) (r : Reader) : Prop :=
  ∀ a, (act r).1.result = .ok a → r.cursor.position < (act r).2.cursor.position ∧
    (act r).2.cursor.position ≤ r.cursor.text.length

/-! ### From the rules -/

/-- Where less is left to read the position is further on. -/
theorem position_lt_moveTo {rest : List Char} (hlength : rest.length < r.cursor.unread.length) :
    r.cursor.position < (r.moveTo rest).cursor.position ∧
      (r.moveTo rest).cursor.position ≤ r.cursor.text.length := by
  have hunread := r.cursor.length_unread
  show r.cursor.position < r.cursor.text.length - rest.length ∧ r.cursor.text.length - _ ≤ _
  omega

theorem restoresOrAdvances_of_perform (hr : r.cursor.Inside)
    (hact : act r = r.perform (rule.demand r.cursor.unread)) (ha : rule.Advances)
    (hf : rule.FailsInside) : RestoresOrAdvances act rule r := by
  cases hresult : (rule.demand r.cursor.unread).result with
  | error f =>
    -- No rule for an operand opens a group, so none is left open.
    have hopen : f.openGroups = 0 :=
      Nat.le_zero.1 (hf _ f (Rule.demand_eq_error_iff.1 hresult)).2.2
    have hperform := hact.trans (Reader.perform_of_error hresult)
    refine ⟨hact, ?_, ?_, ?_, ?_, ?_⟩
    · rw [hperform]
      rfl
    · rw [hperform]
      rfl
    · rw [hperform]
      exact congrArg (r.depth + ·) hopen
    · rw [hperform]
      nofun
    · rw [hperform]
      nofun
  | ok found =>
    obtain ⟨found, rest⟩ := found
    have hperform := hact.trans (Reader.perform_of_ok hresult)
    refine ⟨hact, ?_, ?_, ?_, ?_, ?_⟩
    · rw [hperform]
      rfl
    · rw [hperform]
      rfl
    · rw [hperform]
      rfl
    · rw [hperform]
      intro h
      obtain rfl : found = none := Except.ok.inj h
      rw [(Rule.demand_eq_none_iff.1 hresult).2, Reader.moveTo_unread hr]
    · rw [hperform]
      intro a h
      obtain rfl : found = some a := Except.ok.inj h
      exact position_lt_moveTo (ha (Rule.demand_eq_some_iff.1 hresult)).2

theorem Does.restoresOrAdvances (h : act.Does rule.demand) (hr : r.cursor.Inside)
    (ha : rule.Advances) (hf : rule.FailsInside) : RestoresOrAdvances act rule r :=
  restoresOrAdvances_of_perform hr (h r) ha hf

theorem Reads.consumes {act : Action α} {demand : Nat → Demand α} (h : act.Reads demand)
    (hd : ∀ depth, (demand depth).Advances) (r : Reader) : Consumes act r := by
  intro a ha
  obtain ⟨houtcome, hplace⟩ := h r
  rw [houtcome] at ha
  obtain ⟨rest, hresult, hmoved⟩ := Reader.exists_rest_of_perform ha
  rw [hplace.position_eq, hmoved]
  exact position_lt_moveTo (hd r.depth hresult).2

/-- Where there is no predicate the position is the one before. -/
theorem predicate_restores (hr : r.cursor.Inside) (h : (predicate r).1.result = .ok none) :
    (predicate r).2.cursor.position = r.cursor.position := by
  obtain ⟨houtcome, hplace⟩ := predicate_reads r
  rw [houtcome] at h
  obtain ⟨rest, hresult, hmoved⟩ := Reader.exists_rest_of_perform h
  rw [hplace.position_eq, hmoved, (Rule.demand_eq_none_iff.1 hresult).2, Reader.moveTo_unread hr]

/-! ### All of them -/

/-- At any position in the text or at its end, whatever start is remembered and however many groups
are open, every rule for an operand or an operator restores the position or advances it and changes
nothing else, a predicate that is not there leaves the position, and every round of the loops over
the elements of a list and the clauses of a formula consumes a character.  These loops are what a
formula is read by. -/
theorem rules_restore_or_advance (r : Reader) (hr : r.cursor.Inside) :
    (RestoresOrAdvances segment Rule.segment r ∧ RestoresOrAdvances path Rule.path r ∧
      RestoresOrAdvances list Rule.list r ∧ RestoresOrAdvances string Rule.string r ∧
      (∀ inList, RestoresOrAdvances (number inList) (Rule.number inList) r) ∧
      RestoresOrAdvances null Rule.null r ∧ RestoresOrAdvances regex Rule.regex r ∧
      RestoresOrAdvances operand Rule.operand r ∧
      RestoresOrAdvances operator (found Rule.operator?) r) ∧
    ((predicate r).1.result = .ok none → (predicate r).2.cursor.position = r.cursor.position) ∧
    (Consumes listRound r ∧ ∀ levels link, Consumes (clauseRound (inner levels) link) r) ∧
    Meets (whole Demand.maxGroups r) r.read := by
  -- A segment has no blanks before it to be taken back: past the end it leaves the reader there, so
  -- it does what its rule says only from within the text.
  have hsegment : segment r = r.perform (Rule.segment.demand r.cursor.unread) := by
    have hmoved := segment_moveTo (r := r) r.cursor.unread_suffix
    rwa [Reader.moveTo_unread hr] at hmoved
  refine ⟨⟨?_, ?_, ?_, ?_, ?_, ?_, ?_, ?_, ?_⟩, predicate_restores hr, ⟨?_, ?_⟩, ?_⟩
  · exact restoresOrAdvances_of_perform hr hsegment Rule.segment_advances Rule.segment_failsInside
  · exact path_does.restoresOrAdvances hr Rule.path_advances Rule.path_failsInside
  · exact list_does.restoresOrAdvances hr Rule.list_advances Rule.list_failsInside
  · exact string_does.restoresOrAdvances hr Rule.string_advances Rule.string_failsInside
  · exact fun inList => (number_does inList).restoresOrAdvances hr (Rule.number_advances inList)
      (Rule.number_failsInside inList)
  · exact null_does.restoresOrAdvances hr Rule.null_advances Rule.null_failsInside
  · exact regex_does.restoresOrAdvances hr Rule.regex_advances Rule.regex_failsInside
  · exact operand_does.restoresOrAdvances hr Rule.operand_advances Rule.operand_failsInside
  · exact operator_does.restoresOrAdvances hr operator?_advances
      fun _ => Reading.failsIn_of_ok rfl
  · exact listRound_does.reads.consumes (fun _ => listDemand_advances) r
  · exact fun levels link => (clauseRound_reads (innerReads_inner levels) link).consumes
      (fun _ => roundDemand_advances (Demand.clause_advances (demandInner_advances _) link)) r
  · exact whole_meets r Demand.maxGroups (Nat.le_add_right _ _)

/-- Blanks and a word that begins with `null` are all unread again. -/
theorem rules_restore_before_nullable :
    let r : Reader := ⟨⟨"a  nullable".toList, 1, 0⟩, 3⟩
    r.cursor.Inside ∧ (null r).1.result = .ok none ∧ (null r).2.cursor.position = 1 := by
  have hr : (⟨"a  nullable".toList, 1, 0⟩ : Cursor).Inside := by decide
  have hnull := (rules_restore_or_advance ⟨⟨"a  nullable".toList, 1, 0⟩, 3⟩ hr).1.2.2.2.2.2.1
  have hnone : (null ⟨⟨"a  nullable".toList, 1, 0⟩, 3⟩).1.result = .ok none := by
    rw [hnull.does]
    rfl
  exact ⟨hr, hnone, hnull.restores hnone⟩

end Action

end DocFilter
