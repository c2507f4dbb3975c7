import DocFilter.Proofs.Matching.Predicates

/-!
# What of a document a formula can see

A formula sees a document through the paths in it, and where a path leads to nothing it mostly sees
what it sees where the path leads to null.  Two shapes tell these apart: `anyof` and `noneof`, for
which null is an item and a missing value is none, and `in` and `nin` between two paths, since an
array may hold a null.  On two documents that agree up to this the verdict is one.
-/

namespace DocFilter

/-! ### Missing values and null -/

namespace Json

theorem isAbsent_iff {v : Option Json} : isAbsent v = true ↔ v = none ∨ v = some .null := by
  cases v with
  | none => simp [isAbsent]
  | some v => cases v <;> simp [isAbsent, isNull]

/-- Whether two values are the same, or each of them is missing or null. -/
def SameOrAbsent (v v' : Option Json) : Prop := v = v' ∨ isAbsent v = true ∧ isAbsent v' = true

/-- What does not tell a missing value from null does not tell such values apart. -/
theorem SameOrAbsent.congr {α : Type} {v v' : Option Json} (h : SameOrAbsent v v')
    {f : Option Json → α} (hf : f (some .null) = f none) : f v = f v' := by
  rcases h with rfl | ⟨hv, hv'⟩
  · rfl
  · rcases isAbsent_iff.1 hv with rfl | rfl <;> rcases isAbsent_iff.1 hv' with rfl | rfl
    · rfl
    · exact hf.symm
    · exact hf
    · rfl

end Json

namespace Predicate

/-- Whether the predicate tells a missing value of the path from null: the path is on the left of
`anyof` or `noneof`, or of `in` or `nin` with another path on the right. -/
def Discerns (p : Predicate) (q : Path) : Prop :=
  p.left = .path q ∧
    match p.operator with
    | some .anyOf | some .noneOf => True
    | some .isIn | some .notIn => ∃ r, p.right = some (.path r)
    | _ => False

theorem mem_paths_of_discerns {p : Predicate} {q : Path} (h : p.Discerns q) : q ∈ p.paths := by
  simp [paths, h.1, Operand.path?]

end Predicate

namespace Matching

open Json

variable {options : MatchOptions} {d d' : Json} {left right : Operand} {op : Operator}

/-- Whether the operand, if it is a path, leads to the same value in both documents, or to a missing
value or null. -/
def LeadsAlike (d d' : Json) (x : Operand) : Prop :=
  ∀ q, x = .path q → SameOrAbsent (q.resolve d) (q.resolve d')

/-! ### Each operator -/

theorem present_congr (h : LeadsAlike d d' left) : present d left = present d' left := by
  cases left with
  | path p => exact congrArg Except.ok ((h p rfl).congr rfl)
  | _ => rfl

theorem equalValues_congr {l l' r r' : Option Json} (hl : SameOrAbsent l l')
    (hr : SameOrAbsent r r') : equalValues l r = equalValues l' r' := by
  have hleft : equalValues l r = equalValues l' r :=
    hl.congr (f := fun l => equalValues l r) (by cases r <;> rfl)
  have hright : equalValues l' r = equalValues l' r' := by
    refine hr.congr (f := equalValues l') ?_
    cases l' with
    | none => rfl
    | some v => cases v <;> rfl
  exact hleft.trans hright

theorem equals_congr (hl : LeadsAlike d d' left) (hr : LeadsAlike d d' right) :
    equals d op left right = equals d' op left right := by
  cases left with
  | path p =>
    have hp := hl p rfl
    cases right with
    | path q => exact congrArg Except.ok (equalValues_congr hp (hr q rfl))
    | string s => exact congrArg Except.ok (hp.congr (f := (·.any (Operand.string s).denotes)) rfl)
    | number n => exact congrArg Except.ok (hp.congr (f := (·.any (Operand.number n).denotes)) rfl)
    | null => exact congrArg Except.ok (hp.congr (f := Json.isAbsent) rfl)
    | list xs => rfl
    | regex q => rfl
  | _ => rfl

/-- An ordering of a missing value or null and a literal counts for false. -/
theorem counted_order_of_absent {p : Path} (f : Ordering → Bool)
    (h : isAbsent (p.resolve d) = true) (hscalar : right.isScalar = true)
    (hnull : right.isNull = false) :
    counted ((order d op (.path p) right).map f) = .ok false := by
  cases right with
  | string t =>
    rcases isAbsent_iff.1 h with hv | hv <;>
      simp only [order, leftPath, bind, Except.bind, hv] <;> rfl
  | number n =>
    rcases isAbsent_iff.1 h with hv | hv <;>
      simp only [order, leftPath, bind, Except.bind, hv] <;> rfl
  | null => cases hnull
  | path q => cases hscalar
  | list xs => cases hscalar
  | regex q => cases hscalar

theorem counted_order_literal_congr {p : Path} (f : Ordering → Bool)
    (hp : SameOrAbsent (p.resolve d) (p.resolve d')) (hscalar : right.isScalar = true)
    (hnull : right.isNull = false) :
    counted ((order d op (.path p) right).map f) =
      counted ((order d' op (.path p) right).map f) := by
  rcases hp with heq | ⟨h, h'⟩
  · cases right with
    | path q => cases hscalar
    | _ => simp only [order, leftPath, bind, Except.bind, heq]
  · rw [counted_order_of_absent f h hscalar hnull, counted_order_of_absent f h' hscalar hnull]

theorem counted_order_congr (f : Ordering → Bool) (hl : LeadsAlike d d' left)
    (hr : LeadsAlike d d' right) :
    counted ((order d op left right).map f) = counted ((order d' op left right).map f) := by
  cases left with
  | path p =>
    have hp := hl p rfl
    cases right with
    | path q =>
      have hl := hp.congr (f := Option.filter (!·.isNull)) rfl
      have hr := (hr q rfl).congr (f := Option.filter (!·.isNull)) rfl
      simp only [order, leftPath, bind, Except.bind, hl, hr]
      split <;> rfl
    | string t => exact counted_order_literal_congr f hp rfl rfl
    | number n => exact counted_order_literal_congr f hp rfl rfl
    | null => rfl
    | list xs => rfl
    | regex q => rfl
  | _ => rfl

theorem memberOf_congr {r r' : Option Json} (item : Json → Bool) (h : SameOrAbsent r r') :
    memberOf item r = memberOf item r' :=
  h.congr rfl

/-- Between two paths it takes the same value on the left. -/
theorem containedIn_congr (hl : LeadsAlike d d' left) (hr : LeadsAlike d d' right)
    (hsame : ∀ p q, left = .path p → right = .path q → p.resolve d = p.resolve d') :
    containedIn d op left right = containedIn d' op left right := by
  cases left with
  | path p =>
    cases right with
    | path q =>
      have hq := hr q rfl
      have habsent : isAbsent (q.resolve d) = isAbsent (q.resolve d') := hq.congr rfl
      simp only [containedIn, hsame p q rfl rfl, habsent]
      split
      · rfl
      · split
        · rw [memberOf_congr _ hq]
        · rfl
    | list items => exact (hl p rfl).congr (f := listed op items) rfl
    | _ => rfl
  | list xs => cases right <;> rfl
  | regex r => cases right <;> rfl
  | _ =>
    cases right with
    | path q => exact congrArg pure (memberOf_congr _ (hr q rfl))
    | _ => rfl

theorem matchesPattern_congr (hl : LeadsAlike d d' left) :
    matchesPattern d op left right = matchesPattern d' op left right := by
  cases left with
  | path p =>
    cases right with
    | regex r =>
      exact congrArg Except.ok ((hl p rfl).congr
        (f := fun v => (v.bind scalarText?).any r.isMatch) rfl)
    | _ => rfl
  | _ => rfl

theorem anyListed_congr (hsame : ∀ p, left = .path p → p.resolve d = p.resolve d') :
    anyListed d op left right = anyListed d' op left right := by
  cases left with
  | path p => simp only [anyListed, leftPath, bind, Except.bind, hsame p rfl]
  | _ => rfl

/-! ### Predicates and formulas -/

theorem countsAlike_of_sameOrAbsent {p : Predicate}
    (hpaths : ∀ q ∈ p.paths, SameOrAbsent (q.resolve d) (q.resolve d'))
    (hsame : ∀ q, p.Discerns q → q.resolve d = q.resolve d') : CountsAlike options d d' p := by
  obtain ⟨left, operator, right⟩ := p
  have hl : LeadsAlike d d' left := by
    rintro q rfl
    exact hpaths q (by simp [Predicate.paths, Operand.path?])
  cases operator with
  | none => exact congrArg counted (present_congr hl)
  | some op =>
    cases right with
    | none => rfl
    | some right =>
      have hr : LeadsAlike d d' right := by
        rintro q rfl
        exact hpaths q (by simp [Predicate.paths, Operand.path?])
      refine counted_compareBy_congr (fun _ => equals_congr hl hr)
        (fun _ f => counted_order_congr f hl hr) (fun hop => ?_)
        (fun _ => matchesPattern_congr hl) (fun hop => anyListed_congr fun q hq => hsame q ?_)
      · refine congrArg Logged.result (containedIn_congr hl hr fun q r hq hr => hsame q ?_)
        rcases hop with rfl | rfl <;> exact ⟨hq, r, congrArg some hr⟩
      · rcases hop with rfl | rfl <;> exact ⟨hq, trivial⟩

/-- Two documents satisfy a formula alike if each path in it leads to the same value in both, or, if
no predicate tells a missing value of the path from null, to a missing value or null. -/
theorem evaluate_eq_of_indistinguishable {f : Formula} {d d' : Json}
    (h : ∀ p ∈ f.predicates, ∀ q ∈ p.paths, q.resolve d = q.resolve d' ∨
      (isAbsent (q.resolve d) = true ∧ isAbsent (q.resolve d') = true ∧
        ∀ p' ∈ f.predicates, ¬ p'.Discerns q)) (options : MatchOptions) :
    (evaluate options d f).result = (evaluate options d' f).result := by
  refine result_evaluate_congr f fun p hp => countsAlike_of_sameOrAbsent ?_ ?_
  · intro q hq
    rcases h p hp q hq with heq | ⟨habsent, habsent', _⟩
    · exact .inl heq
    · exact .inr ⟨habsent, habsent'⟩
  · intro q hdiscerns
    rcases h p hp q (Predicate.mem_paths_of_discerns hdiscerns) with heq | ⟨_, _, hnot⟩
    · exact heq
    · exact absurd hdiscerns (hnot p hp)

/-- In `@.a == null or @.b in @.c and @.a < 1` a missing `a` and one that is null are alike,
whatever else the documents hold. -/
theorem evaluate_eq_of_missing_or_null :
    let a : Path := ⟨["a"]⟩
    let b : Path := ⟨["b"]⟩
    let c : Path := ⟨["c"]⟩
    let f : Formula := [.test none false (.compare (.path a) .equal .null),
      .test (some .or) false (.compare (.path b) .isIn (.path c)),
      .test (some .and) true (.compare (.path a) .less (.number (.ofInt 1)))]
    let d : Json := .object [("b", .null), ("c", .array [.null])]
    let d' : Json := .object [("a", .null), ("b", .null), ("c", .array [.null]), ("x", .bool true)]
    (∀ p ∈ f.predicates, ∀ q ∈ p.paths, q.resolve d = q.resolve d' ∨
      (isAbsent (q.resolve d) = true ∧ isAbsent (q.resolve d') = true ∧
        ∀ p' ∈ f.predicates, ¬ p'.Discerns q)) ∧
      (evaluate .standard d f).result = (evaluate .standard d' f).result := by
  intro a b c f d d'
  have hpaths : ∀ p ∈ f.predicates, ∀ q ∈ p.paths, q.resolve d = q.resolve d' ∨
      (isAbsent (q.resolve d) = true ∧ isAbsent (q.resolve d') = true ∧
        ∀ p' ∈ f.predicates, ¬ p'.Discerns q) := by
    have hsubset : ∀ p ∈ f.predicates, ∀ q ∈ p.paths, q ∈ [a, b, c] := by decide
    have hdiscerned : ∀ p ∈ f.predicates, ¬ p.Discerns a := by
      simp [f, Formula.predicates, Clause.bodyPredicates, Clause.predicates, Predicate.Discerns,
        Predicate.compare, a, b]
    have hvalues : ∀ q ∈ [a, b, c], q.resolve d = q.resolve d' ∨
        (isAbsent (q.resolve d) = true ∧ isAbsent (q.resolve d') = true ∧
          ∀ p ∈ f.predicates, ¬ p.Discerns q) := by
      simp only [List.forall_mem_cons]
      exact ⟨.inr ⟨rfl, rfl, hdiscerned⟩, .inl rfl, .inl rfl, List.forall_mem_nil _⟩
    exact fun p hp q hq => hvalues q (hsubset p hp q hq)
  exact ⟨hpaths, evaluate_eq_of_indistinguishable hpaths .standard⟩

end Matching
end DocFilter
