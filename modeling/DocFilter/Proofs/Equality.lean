import Mathlib.Data.List.Forall2
import DocFilter.Proofs.Number.Rounding
import DocFilter.Query.Validation

/-!
# Formulas that differ in the spelling of numbers

Equality of operands, predicates and formulas leaves the spelling of number literals open and looks
at everything else.  So an operand equals others of its own kind only, and predicates that are equal
fit their operators alike.
-/

namespace DocFilter

namespace Operand

/-! ### Operands -/

theorem path_equiv_iff {p : Path} {y : Operand} : (path p).equiv y = true ↔ y = path p := by
  cases y with
  | path q => rw [equiv, beq_iff_eq, path.injEq, eq_comm]
  | _ => simp [equiv]

theorem string_equiv_iff {s : String} {y : Operand} :
    (string s).equiv y = true ↔ y = string s := by
  cases y with
  | string t => rw [equiv, beq_iff_eq, string.injEq, eq_comm]
  | _ => simp [equiv]

theorem number_equiv_iff {d : Decimal} {y : Operand} :
    (number d).equiv y = true ↔ ∃ e, y = number e ∧ (d == e) = true := by
  cases y <;> simp [equiv]

theorem null_equiv_iff {y : Operand} : null.equiv y = true ↔ y = null := by
  cases y <;> simp [equiv]

theorem list_equiv_iff {xs : List Operand} {y : Operand} :
    (list xs).equiv y = true ↔ ∃ ys, y = list ys ∧ equivItems xs ys = true := by
  cases y <;> simp [equiv]

theorem regex_equiv_iff {p : Pattern} {y : Operand} :
    (regex p).equiv y = true ↔ y = regex p := by
  cases y with
  | regex q => rw [equiv, beq_iff_eq, regex.injEq, eq_comm]
  | _ => simp [equiv]

/-- Lists are equal item by item. -/
theorem equivItems_iff {xs ys : List Operand} :
    equivItems xs ys = true ↔ List.Forall₂ (fun x y => x.equiv y = true) xs ys := by
  induction xs generalizing ys with
  | nil => cases ys <;> simp [equivItems]
  | cons x xs ih => cases ys <;> simp [equivItems, ih]

theorem exists_mem_of_equivItems {xs ys : List Operand} {y : Operand}
    (h : equivItems xs ys = true) (hy : y ∈ ys) : ∃ x ∈ xs, x.equiv y = true := by
  rw [equivItems_iff] at h
  induction h with
  | nil => cases hy
  | cons hxy _ ih =>
    rcases List.mem_cons.1 hy with rfl | hy
    · exact ⟨_, List.mem_cons_self, hxy⟩
    · obtain ⟨x, hx, hxy⟩ := ih hy
      exact ⟨x, List.mem_cons_of_mem _ hx, hxy⟩

/-- Equal operands are the same one, or two numbers of one value, or two lists of equal items. -/
theorem equiv_cases {x y : Operand} (h : x.equiv y = true) :
    x = y ∨ (∃ d e, x = number d ∧ y = number e ∧ (d == e) = true) ∨
      ∃ xs ys, x = list xs ∧ y = list ys ∧ equivItems xs ys = true := by
  cases x with
  | path p => exact .inl (path_equiv_iff.1 h).symm
  | string s => exact .inl (string_equiv_iff.1 h).symm
  | number d =>
    obtain ⟨e, rfl, hde⟩ := number_equiv_iff.1 h
    exact .inr (.inl ⟨d, e, rfl, rfl, hde⟩)
  | null => exact .inl (null_equiv_iff.1 h).symm
  | list xs =>
    obtain ⟨ys, rfl, hitems⟩ := list_equiv_iff.1 h
    exact .inr (.inr ⟨xs, ys, rfl, rfl, hitems⟩)
  | regex p => exact .inl (regex_equiv_iff.1 h).symm

/-- Equal operands are of one kind. -/
theorem sameKind_of_equiv {x y : Operand} (h : x.equiv y = true) :
    x.isPath = y.isPath ∧ x.isScalar = y.isScalar ∧ x.isList = y.isList ∧
      x.isRegex = y.isRegex ∧ x.isNull = y.isNull := by
  rcases equiv_cases h with rfl | ⟨d, e, rfl, rfl, _⟩ | ⟨xs, ys, rfl, rfl, _⟩
  · exact ⟨rfl, rfl, rfl, rfl, rfl⟩
  · exact ⟨rfl, rfl, rfl, rfl, rfl⟩
  · exact ⟨rfl, rfl, rfl, rfl, rfl⟩

/-! ### Equality is an equivalence -/

mutual

theorem equiv_refl (x : Operand) : x.equiv x = true := by
  cases x with
  | path p => simp [equiv]
  | string s => simp [equiv]
  | number d => exact beq_self_eq_true d
  | null => rfl
  | list xs => exact equivItems_refl xs
  | regex p => simp [equiv]

theorem equivItems_refl (xs : List Operand) : equivItems xs xs = true := by
  cases xs with
  | nil => rfl
  | cons x xs => rw [equivItems, equiv_refl x, equivItems_refl xs, Bool.and_self]

end

mutual

theorem equiv_symm (x y : Operand) (h : x.equiv y = true) : y.equiv x = true := by
  cases x with
  | number d =>
    obtain ⟨e, rfl, hde⟩ := number_equiv_iff.1 h
    exact number_equiv_iff.2 ⟨d, rfl, BEq.symm hde⟩
  | list xs =>
    obtain ⟨ys, rfl, hitems⟩ := list_equiv_iff.1 h
    exact list_equiv_iff.2 ⟨xs, rfl, equivItems_symm xs ys hitems⟩
  | path p => exact path_equiv_iff.1 h ▸ path_equiv_iff.2 rfl
  | string s => exact string_equiv_iff.1 h ▸ string_equiv_iff.2 rfl
  | null => exact null_equiv_iff.1 h ▸ null_equiv_iff.2 rfl
  | regex p => exact regex_equiv_iff.1 h ▸ regex_equiv_iff.2 rfl

theorem equivItems_symm (xs ys : List Operand) (h : equivItems xs ys = true) :
    equivItems ys xs = true := by
  cases xs with
  | nil =>
    cases ys with
    | nil => rfl
    | cons => cases h
  | cons x xs =>
    cases ys with
    | nil => cases h
    | cons y ys =>
      rw [equivItems, Bool.and_eq_true] at h ⊢
      exact ⟨equiv_symm x y h.1, equivItems_symm xs ys h.2⟩

end

mutual

theorem equiv_trans (x y z : Operand) (hxy : x.equiv y = true) (hyz : y.equiv z = true) :
    x.equiv z = true := by
  cases x with
  | number d =>
    obtain ⟨e, rfl, hde⟩ := number_equiv_iff.1 hxy
    obtain ⟨e', rfl, hee⟩ := number_equiv_iff.1 hyz
    exact number_equiv_iff.2 ⟨e', rfl, BEq.trans hde hee⟩
  | list xs =>
    obtain ⟨ys, rfl, hitems⟩ := list_equiv_iff.1 hxy
    obtain ⟨zs, rfl, hitems'⟩ := list_equiv_iff.1 hyz
    exact list_equiv_iff.2 ⟨zs, rfl, equivItems_trans xs ys zs hitems hitems'⟩
  | path p => exact path_equiv_iff.1 hxy ▸ hyz
  | string s => exact string_equiv_iff.1 hxy ▸ hyz
  | null => exact null_equiv_iff.1 hxy ▸ hyz
  | regex p => exact regex_equiv_iff.1 hxy ▸ hyz

theorem equivItems_trans (xs ys zs : List Operand) (hxy : equivItems xs ys = true)
    (hyz : equivItems ys zs = true) : equivItems xs zs = true := by
  cases xs with
  | nil =>
    cases ys with
    | nil => exact hyz
    | cons => cases hxy
  | cons x xs =>
    cases ys with
    | nil => cases hxy
    | cons y ys =>
      cases zs with
      | nil => cases hyz
      | cons z zs =>
        rw [equivItems, Bool.and_eq_true] at hxy hyz ⊢
        exact ⟨equiv_trans x y z hxy.1 hyz.1, equivItems_trans xs ys zs hxy.2 hyz.2⟩

end

instance : EquivBEq Operand where
  rfl {x} := equiv_refl x
  symm {x y} := equiv_symm x y
  trans {x y z} := equiv_trans x y z

end Operand

namespace Predicate

/-! ### Predicates -/

/-- Equal predicates have one operator, and equal operands on both sides of it. -/
theorem equiv_iff {p q : Predicate} :
    p.equiv q = true ↔ p.left.equiv q.left = true ∧ p.operator = q.operator ∧
      Option.Rel (fun x y => x.equiv y = true) p.right q.right := by
  have hright : (p.right == q.right) = true ↔
      Option.Rel (fun x y => x.equiv y = true) p.right q.right := by
    cases p.right with
    | none => cases q.right <;> simp
    | some x =>
      cases q.right with
      | none => simp
      | some y => rw [Option.some_beq_some, Option.rel_some_some]; rfl
  have hleft : (p.left == q.left) = p.left.equiv q.left := rfl
  rw [equiv, hleft, Bool.and_eq_true, Bool.and_eq_true, beq_iff_eq, hright, and_assoc]

instance : ReflBEq Predicate := ⟨fun {p} => by
  show p.equiv p = true
  simp [equiv]⟩

/-- Equal predicates fit their operators alike. -/
theorem validate_congr {p q : Predicate} (h : p.equiv q = true) : p.validate = q.validate := by
  obtain ⟨left, operator, right⟩ := p
  obtain ⟨left', operator', right'⟩ := q
  obtain ⟨hleft, hop, hright⟩ := equiv_iff.1 h
  simp only at hleft hop hright
  subst hop
  obtain ⟨hpath, hscalar, _, _, _⟩ := Operand.sameKind_of_equiv hleft
  cases operator with
  | none => simp only [validate, hpath]
  | some op =>
    cases hright with
    | none => rfl
    | @some x y hright =>
      obtain ⟨hpath', _, hlist', hregex', hnull'⟩ := Operand.sameKind_of_equiv hright
      have hchecks : checks left op x = checks left' op y := by
        simp only [checks, hpath, hscalar, hpath', hlist', hregex', hnull']
      simp only [validate, hchecks, hregex']

end Predicate

namespace Clause

/-! ### Clauses -/

theorem test_equiv_iff {link : Option Connective} {negated : Bool} {p : Predicate} {d : Clause} :
    (test link negated p).equiv d = true ↔ ∃ q, d = test link negated q ∧ p.equiv q = true := by
  cases d with
  | test link' negated' q =>
    have hp : (p == q) = p.equiv q := rfl
    simp only [equiv, Bool.and_eq_true, beq_iff_eq, hp]
    grind
  | group => simp [equiv]

theorem group_equiv_iff {link : Option Connective} {negated : Bool} {body : Formula} {d : Clause} :
    (group link negated body).equiv d = true ↔
      ∃ body', d = group link negated body' ∧ equivBody body body' = true := by
  cases d with
  | test => simp [equiv]
  | group link' negated' body' =>
    simp only [equiv, Bool.and_eq_true, beq_iff_eq]
    grind

/-- Equal clauses are joined alike to what comes before them. -/
theorem link_eq_of_equiv {c d : Clause} (h : c.equiv d = true) : c.link = d.link := by
  cases c with
  | test =>
    obtain ⟨q, rfl, _⟩ := test_equiv_iff.1 h
    rfl
  | group =>
    obtain ⟨body, rfl, _⟩ := group_equiv_iff.1 h
    rfl

theorem nil_equivBody_iff {ds : Formula} : equivBody [] ds = true ↔ ds = [] := by
  cases ds <;> simp [equivBody]

theorem cons_equivBody_iff {c : Clause} {cs ds : Formula} :
    equivBody (c :: cs) ds = true ↔
      ∃ e es, ds = e :: es ∧ c.equiv e = true ∧ equivBody cs es = true := by
  cases ds <;> simp [equivBody]

mutual

theorem equiv_refl (c : Clause) : c.equiv c = true := by
  cases c with
  | test link negated p => simp [equiv]
  | group link negated body => simp [equiv, equivBody_refl body]

theorem equivBody_refl (cs : List Clause) : equivBody cs cs = true := by
  cases cs with
  | nil => rfl
  | cons c cs => rw [equivBody, equiv_refl c, equivBody_refl cs, Bool.and_self]

end

end Clause

end DocFilter
