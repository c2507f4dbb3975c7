import DocFilter.Proofs.Reading.Formula

/-!
# Where reading fails

Every failure is inside the text that was to be read: its place and the point where reading stopped
are given by what is left of the text from there on.  Rules open no groups.  A formula leaves open
at most as many groups as may be opened in it, none of them if it is read.
-/

namespace DocFilter

namespace Reading

variable {α β : Type} {n : Nat} {s t : List Char}

/-- Whether a failure, if there is one, is inside the text and leaves at most `n` groups open. -/
def FailsIn (n : Nat) (s : List Char) (x : Reading α) : Prop :=
  ∀ f, x.result = .error f → f.place <:+ s ∧ f.stop <:+ s ∧ f.openGroups ≤ n

theorem failsIn_of_ok {x : Reading α} {a : α} (h : x.result = .ok a) : FailsIn n s x := by
  intro f hf
  rw [h] at hf
  cases hf

theorem failsIn_failAt {place stop : List Char} (fault : SyntaxFault) (hplace : place <:+ s)
    (hstop : stop <:+ s) : FailsIn n s (failAt fault place stop : Reading α) := by
  rintro f hf
  cases hf
  exact ⟨hplace, hstop, Nat.zero_le n⟩

/-- A failure inside a part of the text is one inside the text. -/
theorem FailsIn.mono {x : Reading α} (h : FailsIn n t x) (hts : t <:+ s) : FailsIn n s x := by
  intro f hf
  obtain ⟨hplace, hstop, hopen⟩ := h f hf
  exact ⟨hplace.trans hts, hstop.trans hts, hopen⟩

theorem FailsIn.of_le {m : Nat} {x : Reading α} (h : FailsIn n s x) (hnm : n ≤ m) :
    FailsIn m s x := by
  intro f hf
  obtain ⟨hplace, hstop, hopen⟩ := h f hf
  exact ⟨hplace, hstop, hopen.trans hnm⟩

theorem FailsIn.bind {x : Reading α} {next : α → Reading β} (hx : FailsIn n s x)
    (hnext : ∀ a, x.result = .ok a → FailsIn n s (next a)) : FailsIn n s (x >>= next) := by
  intro f hf
  rw [Logged.result_bind] at hf
  cases hresult : x.result with
  | error f' =>
    rw [hresult] at hf
    cases hf
    exact hx f hresult
  | ok a =>
    rw [hresult] at hf
    exact hnext a hresult f hf

theorem FailsIn.attach {x : Reading α} (hx : FailsIn n s x) : FailsIn n s x.attach := by
  obtain ⟨notes, result⟩ := x
  cases result with
  | error f =>
    rintro f' hf
    cases hf
    exact hx f rfl
  | ok a => exact failsIn_of_ok rfl

theorem FailsIn.insideGroup {x : Reading α} (hx : FailsIn n s x) :
    FailsIn (n + 1) s x.insideGroup := by
  intro f hf
  cases hresult : x.result with
  | error f' =>
    rw [Reading.insideGroup, Logged.result_mapReason, hresult] at hf
    cases hf
    obtain ⟨hplace, hstop, hopen⟩ := hx f' hresult
    exact ⟨hplace, hstop, Nat.succ_le_succ hopen⟩
  | ok a =>
    rw [Reading.insideGroup, Logged.result_mapReason, hresult] at hf
    cases hf

end Reading

open Reading

namespace Rule

variable {α β : Type} {s : List Char}

/-- Whether every failure of the rule is inside the text, with no group left open. -/
def FailsInside (rule : Rule α) : Prop := ∀ s, FailsIn 0 s (rule s)

theorem FailsInside.orElse {first second : Rule α} (hf : first.FailsInside)
    (hs : second.FailsInside) : (first.orElse second).FailsInside := by
  intro s
  refine (hf s).bind fun found _ => ?_
  cases found with
  | none => exact hs s
  | some found => exact failsIn_of_ok rfl

theorem FailsInside.map {rule : Rule α} (hr : rule.FailsInside) (f : α → β) :
    (rule.map f).FailsInside := by
  intro s
  refine (hr s).bind fun found _ => ?_
  cases found with
  | none => exact failsIn_of_ok rfl
  | some found => exact failsIn_of_ok rfl

/-! ### Paths -/

theorem segment_failsInside : segment.FailsInside := by
  intro s
  unfold segment
  split
  · next s =>
    have hrest : s.dropWhile inSegment <:+ '.' :: s :=
      (List.dropWhile_suffix _).trans (List.suffix_cons _ _)
    have hself : '.' :: s <:+ '.' :: s := List.suffix_refl _
    simp only
    split
    · exact failsIn_failAt _ hself (List.suffix_cons _ _)
    split
    · exact failsIn_failAt _ hself hrest
    split
    · exact failsIn_failAt _ hself hrest
    split
    · exact failsIn_of_ok rfl
    · exact failsIn_of_ok rfl
  · exact failsIn_of_ok rfl

theorem segments_failsIn (s : List Char) : FailsIn 0 s (segments s) := by
  induction hn : s.length using Nat.strongRecOn generalizing s with
  | ind n ih =>
    subst hn
    rw [segments]
    refine (segment_failsInside s).attach.bind fun found _ => ?_
    obtain ⟨found, hfound⟩ := found
    cases found with
    | none => exact failsIn_of_ok rfl
    | some found =>
      obtain ⟨name, rest⟩ := found
      obtain ⟨hsuffix, hlt⟩ := segment_advances hfound
      exact ((ih _ hlt rest rfl).mono hsuffix).bind fun _ _ => failsIn_of_ok rfl

theorem path_failsInside : path.FailsInside := by
  intro s
  have hs := skipBlanks_suffix s
  unfold path
  split
  · next t ht =>
    rw [ht] at hs
    refine ((segments_failsIn t).mono ((List.suffix_cons _ _).trans hs)).bind fun found _ => ?_
    obtain ⟨names, rest⟩ := found
    simp only
    split
    · exact failsIn_of_ok rfl
    · exact failsIn_of_ok rfl
  · exact failsIn_of_ok rfl

/-! ### Literals -/

theorem string_failsInside : string.FailsInside := by
  intro s
  have hs := skipBlanks_suffix s
  unfold string
  split
  · exact failsIn_of_ok rfl
  · next quote t ht =>
    rw [ht] at hs
    split
    · split
      · exact failsIn_failAt _ hs (List.nil_suffix)
      · exact failsIn_of_ok rfl
    · exact failsIn_of_ok rfl

theorem number_failsInside (inList : Bool) : (number inList).FailsInside := by
  intro s
  unfold number
  simp only
  split
  · exact failsIn_of_ok rfl
  · split
    · exact failsIn_of_ok rfl
    · exact failsIn_of_ok rfl

theorem null_failsInside : null.FailsInside := fun _ => failsIn_of_ok rfl

/-! ### Lists -/

theorem element_failsInside : element.FailsInside :=
  (string_failsInside.map _).orElse
    (((number_failsInside true).map _).orElse (null_failsInside.map _))

theorem elements_failsIn (s : List Char) : FailsIn 0 s (elements s) := by
  induction hn : s.length using Nat.strongRecOn generalizing s with
  | ind n ih =>
    subst hn
    rw [elements]
    refine (element_failsInside s).attach.bind fun found _ => ?_
    obtain ⟨found, hfound⟩ := found
    cases found with
    | none => exact failsIn_failAt _ (List.suffix_refl s) (List.suffix_refl s)
    | some found =>
      obtain ⟨x, rest⟩ := found
      obtain ⟨hsuffix, hlt⟩ := element_advances hfound
      have hrest := (skipBlanks_suffix rest).trans hsuffix
      simp only
      split
      · next rest' hcomma =>
        rw [hcomma] at hrest
        have hshorter := Nat.lt_trans (length_lt_of_skipBlanks_eq_cons hcomma) hlt
        exact ((ih _ hshorter rest' rfl).mono ((List.suffix_cons _ _).trans hrest)).bind
          fun _ _ => failsIn_of_ok rfl
      · exact failsIn_of_ok rfl
      · exact failsIn_failAt _ hrest hrest

theorem list_failsInside : list.FailsInside := by
  intro s
  have hs := skipBlanks_suffix s
  unfold list
  split
  · next t ht =>
    rw [ht] at hs
    split
    · exact failsIn_of_ok rfl
    · exact ((elements_failsIn t).mono ((List.suffix_cons _ _).trans hs)).bind
        fun _ _ => failsIn_of_ok rfl
  · exact failsIn_of_ok rfl

/-! ### Patterns and operands -/

theorem regex_failsInside : regex.FailsInside := by
  intro s
  have hs := skipBlanks_suffix s
  unfold regex
  split
  · next t ht =>
    rw [ht] at hs
    split
    · exact failsIn_failAt _ hs List.nil_suffix
    · next source rest hsplit =>
      have hrest : rest.dropWhile inFlags <:+ s :=
        (List.dropWhile_suffix _).trans
          ((splitSource_suffix hsplit).trans ((List.suffix_cons _ _).trans hs))
      simp only
      split
      · exact failsIn_failAt _ hs hrest
      · exact failsIn_of_ok rfl
  · exact failsIn_of_ok rfl

theorem operand_failsInside : operand.FailsInside :=
  (path_failsInside.map _).orElse <| (list_failsInside.map _).orElse <|
    (string_failsInside.map _).orElse <|
      ((number_failsInside false).map _).orElse (null_failsInside.map _)

theorem rightOperand_failsInside (op : Operator) : (rightOperand op).FailsInside := by
  unfold rightOperand
  split
  · exact (regex_failsInside.map _).orElse operand_failsInside
  · exact operand_failsInside

theorem predicate_failsInside : predicate.FailsInside := by
  intro s
  refine (operand_failsInside s).bind fun found hfound => ?_
  cases found with
  | none => exact failsIn_of_ok rfl
  | some found =>
    obtain ⟨left, rest⟩ := found
    have hleft := (operand_advances hfound).1
    simp only
    split
    · exact failsIn_of_ok rfl
    · next op rest' hop =>
      have hrest := (operator?_suffix hop).trans hleft
      refine ((rightOperand_failsInside op rest').mono hrest).bind fun found _ => ?_
      cases found with
      | none => exact failsIn_failAt _ hrest hrest
      | some found => exact failsIn_of_ok rfl

end Rule

namespace Demand

variable {n : Nat} {s : List Char}

/-! ### Clauses -/

theorem fittingPredicate_failsIn (s : List Char) : FailsIn 0 s (fittingPredicate s) := by
  refine (Rule.predicate_failsInside s).bind fun found hfound => ?_
  cases found with
  | none => exact failsIn_failAt _ (List.suffix_refl s) (List.suffix_refl s)
  | some found =>
    obtain ⟨p, rest⟩ := found
    simp only
    split
    · exact failsIn_failAt _ (List.suffix_refl s) (Rule.predicate_advances hfound).1
    · exact failsIn_of_ok rfl

theorem closed_failsIn {formula : Demand Formula} (hadvances : formula.Advances)
    (h : ∀ s, FailsIn n s (formula s)) (s : List Char) : FailsIn (n + 1) s (closed formula s) := by
  refine (h s).insideGroup.bind fun found hfound => ?_
  obtain ⟨body, rest⟩ := found
  have hrest : rest <:+ s := (hadvances (Logged.result_mapReason_eq_ok_iff.1 hfound)).1
  simp only
  split
  · exact failsIn_of_ok rfl
  · exact failsIn_failAt _ hrest hrest

theorem clause_failsIn {levels : Nat} (ih : ∀ n, levels = n + 1 → ∀ s, FailsIn n s (formula n s))
    (link : Option Connective) (s : List Char) :
    FailsIn levels s (clause (inner levels) link s) := by
  have hstart := skipBlanks_suffix s
  have htext := (negation_suffix (skipBlanks s)).trans hstart
  simp only [clause]
  split
  · next body hbody =>
    rw [hbody] at htext
    have hbodySuffix := (List.suffix_cons _ _).trans htext
    cases levels with
    | zero => exact failsIn_failAt _ hstart hbodySuffix
    | succ n =>
      have hclosed := closed_failsIn (formulaRule n).2 (ih n rfl) body
      exact (hclosed.mono hbodySuffix).bind fun _ _ => failsIn_of_ok rfl
  · have hpredicate := (fittingPredicate_failsIn (negation (skipBlanks s)).2).mono htext
    exact (hpredicate.of_le (Nat.zero_le levels)).bind fun _ _ => failsIn_of_ok rfl

theorem clauses_failsIn {levels : Nat} {advances : ∀ link, (clause (inner levels) link).Advances}
    (ih : ∀ n, levels = n + 1 → ∀ s, FailsIn n s (formula n s)) (link : Option Connective)
    (s : List Char) : FailsIn levels s (clauses (clause (inner levels)) advances link s) := by
  -- Each further clause begins where less is left of the text.
  induction hn : s.length using Nat.strongRecOn generalizing s link with
  | ind n ihn =>
    subst hn
    rw [clauses]
    refine (clause_failsIn ih link s).attach.bind fun found _ => ?_
    obtain ⟨⟨c, rest⟩, hfound⟩ := found
    obtain ⟨hsuffix, hlt⟩ := advances link hfound
    have hskip := skipBlanks_suffix rest
    simp only
    split
    · exact failsIn_of_ok rfl
    · next next rest' hnext =>
      have hrest := (Rule.connective?_suffix hnext).trans hskip
      have hshorter := Nat.lt_of_le_of_lt hrest.length_le hlt
      exact ((ihn _ hshorter (some next) rest' rfl).mono (hrest.trans hsuffix)).bind
        fun _ _ => failsIn_of_ok rfl

/-! ### Formulas -/

theorem formula_failsIn (levels : Nat) (s : List Char) : FailsIn levels s (formula levels s) := by
  induction levels generalizing s with
  | zero =>
    obtain ⟨advances, h⟩ := formula_eq 0
    rw [h]
    exact clauses_failsIn (fun n hn => absurd hn n.succ_ne_zero.symm) none s
  | succ levels ih =>
    obtain ⟨advances, h⟩ := formula_eq (levels + 1)
    rw [h]
    refine clauses_failsIn (fun n hn => ?_) none s
    cases hn
    exact ih

/-- A failure to read a whole text is inside the text, and leaves open no more groups than may be
opened. -/
theorem whole_failsIn (levels : Nat) (s : List Char) : FailsIn levels s (whole levels s) := by
  refine (formula_failsIn levels s).bind fun found hfound => ?_
  obtain ⟨f, rest⟩ := found
  have hrest := (skipBlanks_suffix rest).trans ((formulaRule levels).2 hfound).1
  simp only
  split
  · exact failsIn_of_ok rfl
  · next c t ht =>
    rw [ht] at hrest
    split
    · exact failsIn_failAt _ hrest hrest
    · exact failsIn_failAt _ hrest hrest

end Demand
end DocFilter
