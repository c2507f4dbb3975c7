import DocFilter.Proofs.Equality
import DocFilter.Proofs.Matching.Predicates
import DocFilter.Proofs.Number.Rounding

/-!
# Equal formulas and what documents they are satisfied by

Equality of formulas leaves open how a number is written.  A literal is looked at in four ways: it
is compared with a value of the document by its exact value, ordered by its nearest double, looked
up in a list of literals, and shown in the text of a fault.  The first three depend on the value of
a number only, and the fault that shows a literal makes its predicate false and is never seen.  So
equal formulas have one verdict on every document.
-/

namespace DocFilter

namespace Operand

/-! ### Literals -/

/-- Equal literals denote the same values. -/
theorem denotes_eq_of_equiv {x y : Operand} (h : x.equiv y = true) (v : Json) :
    x.denotes v = y.denotes v := by
  rcases equiv_cases h with rfl | ⟨d, e, rfl, rfl, hde⟩ | ⟨xs, ys, rfl, rfl, _⟩
  · rfl
  · cases v with
    | number n => exact BEq.congr_right hde
    | _ => rfl
  · rfl

theorem any_denotes_eq_of_equivItems {xs ys : List Operand} (h : equivItems xs ys = true)
    (v : Json) : xs.any (·.denotes v) = ys.any (·.denotes v) :=
  Matching.any_eq_of_forall₂ (equivItems_iff.1 h) fun hxy => denotes_eq_of_equiv hxy v

/-- Equal lists hold the same literals. -/
theorem contains_eq_of_equivItems {xs ys : List Operand} {x y : Operand}
    (hxy : x.equiv y = true) (h : equivItems xs ys = true) : xs.contains x = ys.contains y := by
  rw [List.contains_eq_any_beq, List.contains_eq_any_beq]
  refine Matching.any_eq_of_forall₂ (equivItems_iff.1 h) fun {item item'} hitem => ?_
  calc (x == item) = (y == item) := BEq.congr_left hxy
    _ = (y == item') := BEq.congr_right hitem

end Operand

namespace Clause

mutual

theorem builtAlike_of_equiv (c d : Clause) (h : c.equiv d = true) :
    c.BuiltAlike Eq (fun p q => p.equiv q = true) d := by
  cases c with
  | test link negated p =>
    obtain ⟨q, rfl, hpq⟩ := test_equiv_iff.1 h
    exact ⟨rfl, rfl, hpq⟩
  | group link negated body =>
    obtain ⟨body', rfl, hbody⟩ := group_equiv_iff.1 h
    exact ⟨rfl, rfl, bodyBuiltAlike_of_equivBody body body' hbody⟩

theorem bodyBuiltAlike_of_equivBody (cs ds : List Clause) (h : equivBody cs ds = true) :
    BodyBuiltAlike Eq (fun p q => p.equiv q = true) cs ds := by
  cases cs with
  | nil =>
    obtain rfl := nil_equivBody_iff.1 h
    trivial
  | cons c cs =>
    obtain ⟨d, ds, rfl, hc, hcs⟩ := cons_equivBody_iff.1 h
    exact ⟨builtAlike_of_equiv c d hc, bodyBuiltAlike_of_equivBody cs ds hcs⟩

end

end Clause

namespace Matching

open Operand

variable {options : MatchOptions} {document : Json} {op : Operator}
  {left left' right right' : Operand}

/-! ### Each operator -/

theorem leftPath_congr_of_equiv (hl : left.equiv left' = true) :
    leftPath op left = leftPath op left' := by
  rcases equiv_cases hl with rfl | ⟨d, e, rfl, rfl, _⟩ | ⟨xs, ys, rfl, rfl, _⟩
  · rfl
  · rfl
  · rfl

theorem present_congr_of_equiv (hl : left.equiv left' = true) :
    present document left = present document left' := by
  rcases equiv_cases hl with rfl | ⟨d, e, rfl, rfl, _⟩ | ⟨xs, ys, rfl, rfl, _⟩
  · rfl
  · rfl
  · rfl

theorem equals_congr_of_equiv (hl : left.equiv left' = true) (hr : right.equiv right' = true) :
    equals document op left right = equals document op left' right' := by
  simp only [equals, leftPath_congr_of_equiv hl]
  refine bind_congr fun p => ?_
  rcases equiv_cases hr with rfl | ⟨d, e, rfl, rfl, _⟩ | ⟨xs, ys, rfl, rfl, _⟩
  · rfl
  · exact congrArg (fun found => Except.ok ((p.resolve document).any found))
      (funext (denotes_eq_of_equiv hr))
  · rfl

/-- An ordering looks at a number literal through its nearest double.  The text of the fault may
differ, and is not seen. -/
theorem counted_order_congr_of_equiv (f : Ordering → Bool) (hl : left.equiv left' = true)
    (hr : right.equiv right' = true) :
    counted ((order document op left right).map f) =
      counted ((order document op left' right').map f) := by
  simp only [order, leftPath_congr_of_equiv hl]
  cases leftPath op left' with
  | error fault => rfl
  | ok p =>
    rcases equiv_cases hr with rfl | ⟨d, e, rfl, rfl, hde⟩ | ⟨xs, ys, rfl, rfl, _⟩
    · rfl
    · simp only [bind, Except.bind, Binary64.nearest_congr hde]
      split <;> rfl
    · rfl

theorem listed_congr_of_equiv {items items' : List Operand} (h : equivItems items items' = true)
    (v : Option Json) : listed op items v = listed op items' v := by
  have hdenotes := any_denotes_eq_of_equivItems h
  have hnull : items.contains .null = items'.contains .null :=
    contains_eq_of_equivItems (null_equiv_iff.2 rfl) h
  cases v with
  | none => exact congrArg pure hnull
  | some v =>
    cases v with
    | null => exact congrArg pure hnull
    | string s => exact congrArg pure (hdenotes (.string s))
    | number n => exact congrArg pure (hdenotes (.number n))
    | _ => rfl

theorem containedIn_congr_left_of_equiv (hl : left.equiv left' = true) :
    containedIn document op left right = containedIn document op left' right := by
  have hdenotes : left.denotes = left'.denotes := funext (denotes_eq_of_equiv hl)
  rcases equiv_cases hl with rfl | ⟨d, e, rfl, rfl, _⟩ | ⟨xs, ys, rfl, rfl, _⟩
  · rfl
  · cases right with
    | list items => exact congrArg pure (contains_eq_of_equivItems hl (equivItems_refl items))
    | path q => exact congrArg (fun found => pure (memberOf found (q.resolve document))) hdenotes
    | _ => rfl
  · cases right <;> rfl

theorem containedIn_congr_right_of_equiv (hr : right.equiv right' = true) :
    containedIn document op left right = containedIn document op left right' := by
  rcases equiv_cases hr with rfl | ⟨d, e, rfl, rfl, _⟩ | ⟨xs, ys, rfl, rfl, hitems⟩
  · rfl
  · cases left <;> rfl
  · cases left with
    | path p => exact listed_congr_of_equiv hitems (p.resolve document)
    | list zs => rfl
    | regex q => rfl
    | _ => exact congrArg pure (contains_eq_of_equivItems (equiv_refl _) hitems)

theorem matchesPattern_congr_of_equiv (hl : left.equiv left' = true)
    (hr : right.equiv right' = true) :
    matchesPattern document op left right = matchesPattern document op left' right' := by
  simp only [matchesPattern, leftPath_congr_of_equiv hl]
  refine bind_congr fun p => ?_
  rcases equiv_cases hr with rfl | ⟨d, e, rfl, rfl, _⟩ | ⟨xs, ys, rfl, rfl, _⟩
  · rfl
  · rfl
  · rfl

theorem anyListed_congr_of_equiv (hl : left.equiv left' = true) (hr : right.equiv right' = true) :
    anyListed document op left right = anyListed document op left' right' := by
  simp only [anyListed, leftPath_congr_of_equiv hl]
  refine bind_congr fun p => ?_
  rcases equiv_cases hr with rfl | ⟨d, e, rfl, rfl, _⟩ | ⟨xs, ys, rfl, rfl, hitems⟩
  · rfl
  · rfl
  · simp only [any_denotes_eq_of_equivItems hitems]

/-! ### Predicates and formulas -/

theorem counted_verdict_congr_of_equiv {p q : Predicate} (h : p.equiv q = true) :
    counted (verdict options document p).result =
      counted (verdict options document q).result := by
  obtain ⟨left, operator, right⟩ := p
  obtain ⟨left', operator', right'⟩ := q
  obtain ⟨hl, hop, hr⟩ := Predicate.equiv_iff.1 h
  simp only at hl hop hr
  subst hop
  cases operator with
  | none => exact congrArg counted (present_congr_of_equiv hl)
  | some op =>
    cases hr with
    | none => rfl
    | some hr =>
      refine counted_compareBy_congr (fun _ => equals_congr_of_equiv hl hr)
        (fun _ f => counted_order_congr_of_equiv f hl hr) (fun _ => ?_)
        (fun _ => matchesPattern_congr_of_equiv hl hr) (fun _ => anyListed_congr_of_equiv hl hr)
      rw [containedIn_congr_left_of_equiv hl, containedIn_congr_right_of_equiv hr]

/-- Equal formulas have one verdict on every document, or fail alike. -/
theorem evaluate_congr_of_equiv {f g : Formula} (h : f.equiv g = true) (options : MatchOptions)
    (document : Json) :
    (evaluate options document f).result = (evaluate options document g).result := by
  have hs : InStep options options document document (fun x x' => x.result = x'.result) Eq
      (fun p q => p.equiv q = true) :=
    { composable := composable_result
      negation := by
        rintro negated _ rfl
        rfl
      predicate := by
        intro p q hpq
        rw [result_contain, result_contain]
        exact counted_verdict_congr_of_equiv hpq }
  exact evaluate_inStep hs f g (Clause.bodyBuiltAlike_of_equivBody f g h)

/-- `!(@.a in [1, 'x'] or @.b < 07)` and `!(@.a in [1.0, 'x'] or @.b < 7.00)` are written
differently, and have one verdict. -/
theorem evaluate_congr_of_spelling :
    let f (one seven : Decimal) : Formula := [.group none true
      [.test none false (.compare (.path ⟨["a"]⟩) .isIn (.list [.number one, .string "x"])),
        .test (some .or) false (.compare (.path ⟨["b"]⟩) .less (.number seven))]]
    (f ⟨1, 0⟩ ⟨7, 0⟩).render ≠ (f ⟨10, 1⟩ ⟨700, 2⟩).render ∧
      (f ⟨1, 0⟩ ⟨7, 0⟩).equiv (f ⟨10, 1⟩ ⟨700, 2⟩) = true ∧
      ∀ options document, (evaluate options document (f ⟨1, 0⟩ ⟨7, 0⟩)).result =
        (evaluate options document (f ⟨10, 1⟩ ⟨700, 2⟩)).result := by
  intro f
  have hequiv : (f ⟨1, 0⟩ ⟨7, 0⟩).equiv (f ⟨10, 1⟩ ⟨700, 2⟩) = true := by decide
  exact ⟨by decide, hequiv, evaluate_congr_of_equiv hequiv⟩

end Matching
end DocFilter
