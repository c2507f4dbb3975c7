import DocFilter.Proofs.Reading.Operand
import DocFilter.Proofs.Validation
import DocFilter.Query.Reading.Formula

/-!
# Reading predicates is deriving them

Operators and connectives are words, of which at most one comes next.  An operator is looked for
after every operand, so a predicate that has none is read as such only where no operator follows.
-/

namespace DocFilter

/-! ### Operators and connectives are words -/

namespace Operator

theorem ofToken?_token (op : Operator) : ofToken? op.token = some op := by
  cases op <;> decide

theorem token_injective {op op' : Operator} (h : op.token.toList = op'.token.toList) :
    op = op' := by
  have hsome : some op = some op' := by
    rw [← ofToken?_token op, ← ofToken?_token op', String.toList_injective h]
  exact Option.some.inj hsome

theorem token_isWord (op : Operator) : IsWord [')'] op.token.toList := by
  cases op <;> decide

theorem mem_all (op : Operator) : op ∈ all := by
  cases op <;> decide

/-- No operator begins with a character that may come after an operand. -/
theorem token_opens (op : Operator) : endsWord Rule.afterOperand op.token.toList = false := by
  cases op <;> decide

end Operator

namespace Connective

theorem spelling_isWord {spelling : String × Connective} (h : spelling ∈ spellings) :
    IsWord [')'] spelling.1.toList := by
  revert spelling
  decide

theorem spelling_injective :
    ∀ s ∈ spellings, ∀ s' ∈ spellings, s.1.toList = s'.1.toList → s = s' := by
  decide

theorem spelling_opens {spelling : String × Connective} (h : spelling ∈ spellings) :
    endsWord Rule.afterOperand spelling.1.toList = false := by
  revert spelling
  decide

theorem spelling_ne_token {spelling : String × Connective} (h : spelling ∈ spellings)
    (op : Operator) : op.token.toList ≠ spelling.1.toList := by
  revert spelling
  cases op <;> decide

end Connective

namespace Grammar

/-- A derived predicate fits. -/
theorem PredicateText.validate {apart : Bool} {w : List Char} {p : Predicate}
    (h : PredicateText apart w p) : p.validate = .ok () := by
  cases h with
  | lone h => exact Predicate.validate_lone_iff.2 ⟨_, rfl⟩
  | compare _ _ _ _ _ _ hfit => exact hfit

end Grammar

namespace Rule

open Grammar

theorem operator?_eq_some_iff {s rest : List Char} {op : Operator} :
    operator? s = some (op, rest) ↔
      ∃ u, Blanks u ∧ s = u ++ (op.token.toList ++ rest) ∧ endsWord [')'] rest = true := by
  constructor
  · intro h
    obtain ⟨op', _, found⟩ := List.exists_of_findSome?_eq_some h
    simp only [Option.map_eq_some_iff, Prod.mk.injEq] at found
    obtain ⟨_, found, rfl, rfl⟩ := found
    obtain ⟨hs, hends⟩ := afterWord?_eq_some_iff.1 found
    obtain ⟨u, hu, rfl⟩ := exists_blanks_of_skipBlanks hs
    exact ⟨u, hu, rfl, hends⟩
  · rintro ⟨u, hu, rfl, hends⟩
    have hskip : skipBlanks (u ++ (op.token.toList ++ rest)) = op.token.toList ++ rest := by
      rw [skipBlanks_append hu]
      exact skipBlanks_of_endsWord_eq_false (endsWord_append_eq_false op.token_opens rest)
    unfold operator?
    rw [hskip]
    have hword : afterWord? [')'] op.token.toList (op.token.toList ++ rest) = some rest :=
      afterWord?_eq_some_iff.2 ⟨rfl, hends⟩
    refine findSome?_eq_some_of_unique ⟨op, op.mem_all, ?_⟩ ?_
    · rw [hword]
      rfl
    · -- Whatever else is found is the same first word.
      rintro op' _ ⟨op'', rest'⟩ found
      simp only [Option.map_eq_some_iff, Prod.mk.injEq] at found
      obtain ⟨_, found, rfl, rfl⟩ := found
      obtain ⟨htoken, rfl⟩ := afterWord?_unique op.token_isWord op'.token_isWord hword found
      rw [Operator.token_injective htoken]

theorem connective?_eq_some_iff {s rest : List Char} {next : Connective} :
    connective? s = some (next, rest) ↔
      ∃ spelling, (spelling, next) ∈ Connective.spellings ∧ s = spelling.toList ++ rest ∧
        endsWord [')'] rest = true := by
  constructor
  · intro h
    obtain ⟨⟨spelling, next'⟩, hmem, found⟩ := List.exists_of_findSome?_eq_some h
    simp only [Option.map_eq_some_iff, Prod.mk.injEq] at found
    obtain ⟨_, found, rfl, rfl⟩ := found
    obtain ⟨rfl, hends⟩ := afterWord?_eq_some_iff.1 found
    exact ⟨spelling, hmem, rfl, hends⟩
  · rintro ⟨spelling, hmem, rfl, hends⟩
    have hword : afterWord? [')'] spelling.toList (spelling.toList ++ rest) = some rest :=
      afterWord?_eq_some_iff.2 ⟨rfl, hends⟩
    refine findSome?_eq_some_of_unique ⟨(spelling, next), hmem, ?_⟩ ?_
    · simp only
      rw [hword]
      rfl
    · rintro ⟨spelling', next'⟩ hmem' ⟨_, rest'⟩ found
      simp only [Option.map_eq_some_iff, Prod.mk.injEq] at found
      obtain ⟨_, found, rfl, rfl⟩ := found
      obtain ⟨hspelling, rfl⟩ := afterWord?_unique (Connective.spelling_isWord hmem)
        (Connective.spelling_isWord hmem') hword found
      cases Connective.spelling_injective _ hmem _ hmem' hspelling
      rfl

/-- Before a connective there is no operator to read. -/
theorem operator?_of_connective {u rest : List Char} {spelling : String} {next : Connective}
    (hu : Blanks u) (hs : (spelling, next) ∈ Connective.spellings)
    (hends : endsWord [')'] rest = true) : operator? (u ++ (spelling.toList ++ rest)) = none := by
  rw [Option.eq_none_iff_forall_ne_some]
  rintro ⟨op, rest'⟩ h
  -- Both would be the first word, but no operator is spelled like a connective.
  obtain ⟨u', hu', heq, hends'⟩ := operator?_eq_some_iff.1 h
  have hskip := congrArg skipBlanks heq
  rw [skipBlanks_append hu, skipBlanks_append hu',
    skipBlanks_of_endsWord_eq_false (endsWord_append_eq_false (Connective.spelling_opens hs) rest),
    skipBlanks_of_endsWord_eq_false (endsWord_append_eq_false op.token_opens rest')] at hskip
  have hword := word_unique (Connective.spelling_isWord hs) op.token_isWord hends hends' hskip
  exact Connective.spelling_ne_token hs op hword.1.symm

/-- After any blanks an operator comes next or a connective, but not both. -/
theorem operator?_or_connective?_eq_none (s : List Char) :
    operator? s = none ∨ connective? (skipBlanks s) = none := by
  cases hnext : connective? (skipBlanks s) with
  | none => exact .inr rfl
  | some found =>
    obtain ⟨next, rest⟩ := found
    obtain ⟨spelling, hmem, hskip, hends⟩ := connective?_eq_some_iff.1 hnext
    obtain ⟨u, hu, rfl⟩ := exists_blanks_of_skipBlanks hskip
    exact .inl (operator?_of_connective hu hmem hends)

/-- The end of a formula: that of the text, or the parenthesis that closes a group. -/
def Closing (s : List Char) : Prop := s = [] ∨ s.head? = some ')'

theorem Closing.endsWord {s : List Char} (h : Closing s) : endsWord [')'] s = true := by
  rcases h with rfl | h
  · rfl
  · cases s with
    | nil => rfl
    | cons c s => cases h; rfl

theorem Closing.skipBlanks {s : List Char} (h : Closing s) : skipBlanks s = s := by
  rcases h with rfl | h
  · rfl
  · cases s with
    | nil => rfl
    | cons c s => cases h; rfl

theorem close_subset_afterOperand : [')'] ⊆ afterOperand := by simp [afterOperand]

theorem operator?_of_closing {u rest : List Char} (hu : Blanks u) (h : Closing rest) :
    operator? (u ++ rest) = none := by
  rw [Option.eq_none_iff_forall_ne_some]
  rintro ⟨op, rest'⟩ hop
  -- The operator would begin where no word may end, but the closing comes there.
  obtain ⟨u', hu', heq, _⟩ := operator?_eq_some_iff.1 hop
  have hopens := endsWord_append_eq_false
    (endsWord_eq_false_mono close_subset_afterOperand op.token_opens) rest'
  have hskip := congrArg DocFilter.skipBlanks heq
  rw [skipBlanks_append hu, h.skipBlanks, skipBlanks_append hu',
    skipBlanks_of_endsWord_eq_false hopens] at hskip
  rw [← hskip, h.endsWord] at hopens
  cases hopens

theorem connective?_of_closing {rest : List Char} (h : Closing rest) : connective? rest = none := by
  rw [Option.eq_none_iff_forall_ne_some]
  rintro ⟨next, rest'⟩ hnext
  obtain ⟨spelling, hs, rfl, _⟩ := connective?_eq_some_iff.1 hnext
  have hopens := endsWord_append_eq_false
    (endsWord_eq_false_mono close_subset_afterOperand (Connective.spelling_opens hs)) rest'
  rw [h.endsWord] at hopens
  cases hopens

/-! ### Predicates -/

theorem rightOperand_skipsBlanks (op : Operator) : (rightOperand op).SkipsBlanks := by
  unfold rightOperand
  split
  · exact (regex_skipsBlanks.map _).orElse operand_skipsBlanks
  · exact operand_skipsBlanks

theorem rightOperand_sound {op : Operator} {s rest : List Char} {x : Operand}
    (h : (rightOperand op s).result = .ok (some (x, rest))) :
    ∃ u w, Blanks u ∧ RightText true w x ∧ s = u ++ (w ++ rest) ∧
      (x.showsEnd = false → endsWord afterOperand rest = true) := by
  have hoperand : ∀ {s : List Char}, (operand s).result = .ok (some (x, rest)) →
      ∃ u w, Blanks u ∧ RightText true w x ∧ s = u ++ (w ++ rest) ∧
        (x.showsEnd = false → endsWord afterOperand rest = true) := by
    intro s h
    obtain ⟨u, w, hu, hw, hs, hends⟩ := operand_sound h
    exact ⟨u, w, hu, .operand hw, hs, hends⟩
  unfold rightOperand at h
  split at h
  · rcases orElse_eq_some_iff.1 h with h | ⟨_, h⟩
    · obtain ⟨p, hp, rfl⟩ := map_eq_some_iff.1 h
      obtain ⟨u, w, hu, hw, hs, hends⟩ := regex_eq_some_iff.1 hp
      exact ⟨u, w, hu, .regex hw, hs, fun _ => endsWord_mono close_subset_afterOperand hends⟩
    · exact hoperand h
  · exact hoperand h

/-- What may stand to the right of an operator is taken, unless it is a pattern and the operator is
not `=~`. -/
theorem rightOperand_complete {op : Operator} {x : Operand} {w rest : List Char}
    (h : RightText true w x) (hregex : x.isRegex = true → op = .matchesRegex)
    (hr : x.showsEnd = false → endsWord [')'] rest = true) :
    (rightOperand op (w ++ rest)).result = .ok (some (x, rest)) := by
  unfold rightOperand
  cases h with
  | operand h =>
    have hopens := endsWord_append_eq_false h.opens rest
    have hhead : (skipBlanks (w ++ rest)).head? ≠ some '/' := by
      rw [skipBlanks_of_endsWord_eq_false hopens]
      exact head?_ne_of_endsWord_eq_false hopens (by simp)
    split
    · exact (orElse_of_none (map_of_none (regex_of_head hhead))).trans (operand_complete h hr)
    · exact operand_complete h hr
  | regex h =>
    rw [if_pos (hregex rfl)]
    exact orElse_of_some (map_of_some (regex_eq_some_iff.2 ⟨[], w, blanks_nil, h, rfl, hr rfl⟩))

theorem predicate_eq_some_iff {s rest : List Char} {p : Predicate} :
    (predicate s).result = .ok (some (p, rest)) ↔
      (∃ left, (operand s).result = .ok (some (left, rest)) ∧ operator? rest = none ∧
          p = .exists? left) ∨
        ∃ left r op r' right, (operand s).result = .ok (some (left, r)) ∧
          operator? r = some (op, r') ∧
          (rightOperand op r').result = .ok (some (right, rest)) ∧ p = .compare left op right := by
  constructor
  · intro h
    rw [predicate, Logged.result_bind] at h
    split at h
    · cases h
    · next found hleft =>
      cases found with
      | none => cases h
      | some found =>
        obtain ⟨left, r⟩ := found
        simp only at h
        split at h
        · next hop =>
          cases h
          exact .inl ⟨left, hleft, hop, rfl⟩
        · next op r' hop =>
          rw [Logged.result_bind] at h
          split at h
          · cases h
          · next found hright =>
            cases found with
            | none => cases h
            | some found =>
              cases h
              exact .inr ⟨left, r, op, r', _, hleft, hop, hright, rfl⟩
  · rintro (⟨left, hleft, hop, rfl⟩ | ⟨left, r, op, r', right, hleft, hop, hright, rfl⟩)
    · rw [predicate, Logged.result_bind, hleft]
      simp only [hop]
      rfl
    · rw [predicate, Logged.result_bind, hleft]
      simp only [hop, Logged.result_bind, hright]
      rfl

theorem predicate_sound {s rest : List Char} {p : Predicate}
    (h : (predicate s).result = .ok (some (p, rest))) (hfit : p.validate = .ok ()) :
    ∃ u w, Blanks u ∧ PredicateText true w p ∧ s = u ++ (w ++ rest) ∧
      (p.showsEnd = false → endsWord afterOperand rest = true) := by
  rcases predicate_eq_some_iff.1 h with
    ⟨left, hleft, _, rfl⟩ | ⟨left, r, op, r', right, hleft, hop, hright, rfl⟩
  · obtain ⟨q, rfl⟩ := Predicate.validate_lone_iff.1 hfit
    obtain ⟨u, w, hu, hw, rfl, hends⟩ := operand_sound hleft
    cases hw with
    | path hw => exact ⟨u, w, hu, .lone hw, rfl, hends⟩
    | element hw => cases hw
  · obtain ⟨u, l, hu, hl, rfl, hends⟩ := operand_sound hleft
    obtain ⟨v, hv, rfl, hopends⟩ := operator?_eq_some_iff.1 hop
    obtain ⟨v', w, hv', hw, rfl, hends'⟩ := rightOperand_sound hright
    -- Neither the operator nor the right side begins with a delimiter, so blanks come before them.
    have hapart : left.showsEnd = false → v ≠ [] := fun hl =>
      ne_nil_of_endsWord (hends hl) op.token_opens
    have hne : v' ≠ [] := ne_nil_of_endsWord hopends hw.opens
    exact ⟨u, _, hu, .compare hl hv (fun _ => hapart) hv' hne hw hfit, by simp, hends'⟩

theorem predicate_complete_lone {w rest : List Char} {x : Operand} (h : OperandText w x)
    (hr : x.showsEnd = false → endsWord [')'] rest = true) (hop : operator? rest = none) :
    (predicate (w ++ rest)).result = .ok (some (.exists? x, rest)) :=
  predicate_eq_some_iff.2 (.inl ⟨x, operand_complete h hr, hop, rfl⟩)

/-- Two operands with an operator between them are taken, whether or not they fit it. -/
theorem predicate_complete_compare {l u v r rest : List Char} {left right : Operand} {op : Operator}
    (hl : OperandText l left) (hu : Blanks u) (hapart : left.showsEnd = false → u ≠ [])
    (hv : Blanks v) (hne : v ≠ []) (hright : RightText true r right)
    (hregex : right.isRegex = true → op = .matchesRegex)
    (hr : right.showsEnd = false → endsWord [')'] rest = true) :
    (predicate (l ++ (u ++ (op.token.toList ++ (v ++ (r ++ rest)))))).result =
      .ok (some (.compare left op right, rest)) := by
  refine predicate_eq_some_iff.2 (.inr ⟨left, _, op, v ++ (r ++ rest), right,
    operand_complete hl fun hshow => ?_, operator?_eq_some_iff.2 ⟨u, hu, rfl, ?_⟩, ?_, rfl⟩)
  · exact endsWord_append hu fun hnil => absurd hnil (hapart hshow)
  · exact endsWord_append hv fun hnil => absurd hnil hne
  · rw [rightOperand_skipsBlanks op hv]
    exact rightOperand_complete hright hregex hr

theorem predicate_complete {w rest : List Char} {p : Predicate} (h : PredicateText true w p)
    (hr : p.showsEnd = false → endsWord [')'] rest = true) (hop : operator? rest = none) :
    (predicate (w ++ rest)).result = .ok (some (p, rest)) := by
  cases h with
  | lone h => exact predicate_complete_lone (.path h) hr hop
  | @compare l u v r left right op hl hu hapart hv hne hright hfit =>
    have hregex := Predicate.isRegex_of_operandsFit (Predicate.validate_compare_iff.1 hfit)
    simp only [List.append_assoc]
    exact predicate_complete_compare hl hu (hapart rfl) hv hne hright hregex.1 hr

end Rule

end DocFilter
