import DocFilter.Proofs.Equality
import DocFilter.Proofs.Rendering

/-!
# Exactly the writable formulas are read back

A formula that was put together by hand need not be one that a text denotes.  Its rendering is read
back as an equal formula exactly if it is writable: a rendering that is read at all denotes
something writable, and a formula equal to something writable is writable itself, since what can go
wrong in writing does not hang on how a number is spelled.
-/

namespace DocFilter

/-! ### Equal to what can be written -/

namespace Operand

theorem WritableElement.of_equiv {x y : Operand} (h : x.equiv y = true)
    (hx : x.WritableElement) : y.WritableElement := by
  cases x with
  | string s =>
    obtain rfl := string_equiv_iff.1 h
    exact hx
  | number d =>
    obtain ⟨e, rfl, _⟩ := number_equiv_iff.1 h
    trivial
  | null =>
    obtain rfl := null_equiv_iff.1 h
    trivial
  | path p => cases hx
  | list xs => cases hx
  | regex p => cases hx

theorem WritableElement.writable {x : Operand} (hx : x.WritableElement) : x.Writable := by
  cases x with
  | path p => cases hx
  | list xs => cases hx
  | regex p => cases hx
  | _ => exact hx

theorem Writable.of_equiv {x y : Operand} (hx : x.Writable) (h : x.equiv y = true) :
    y.Writable := by
  cases x with
  | path p =>
    obtain rfl := path_equiv_iff.1 h
    exact hx
  | regex p =>
    obtain rfl := regex_equiv_iff.1 h
    exact hx
  | list xs =>
    obtain ⟨ys, rfl, hitems⟩ := list_equiv_iff.1 h
    -- Every item on the right has an equal one on the left, which is an element.
    intro y hy
    obtain ⟨x, hmem, hxy⟩ := exists_mem_of_equivItems hitems hy
    exact (hx x hmem).of_equiv hxy
  | string s => exact (WritableElement.of_equiv h hx).writable
  | number d => exact (WritableElement.of_equiv h hx).writable
  | null => exact (WritableElement.of_equiv h hx).writable

end Operand

theorem Predicate.Writable.of_equiv {p q : Predicate} (hp : p.Writable) (h : p.equiv q = true) :
    q.Writable := by
  have hfits := Predicate.validate_congr h
  obtain ⟨left, operator, right⟩ := p
  obtain ⟨left', operator', right'⟩ := q
  obtain ⟨hleft, hop, hright⟩ := Predicate.equiv_iff.1 h
  obtain ⟨hwleft, hwright, hcomplete, hvalid⟩ := hp
  simp only at hleft hop hright hwright hcomplete
  subst hop
  refine ⟨hwleft.of_equiv hleft, ?_, ?_, hfits ▸ hvalid⟩
  · intro y hy
    cases hright with
    | none => cases hy
    | some hxy =>
      cases hy
      exact (hwright _ rfl).of_equiv hxy
  · cases hright with
    | none => exact hcomplete
    | some _ => exact hcomplete

namespace Clause

mutual

theorem writable_of_equiv {levels : Nat} {c d : Clause} (hc : c.Writable levels)
    (h : c.equiv d = true) : d.Writable levels := by
  cases c with
  | test link negated p =>
    obtain ⟨q, rfl, hpq⟩ := test_equiv_iff.1 h
    exact hc.of_equiv hpq
  | group link negated body =>
    obtain ⟨body', rfl, hbody⟩ := group_equiv_iff.1 h
    cases levels with
    | zero => cases hc
    | succ levels => exact writableBody_of_equiv hc hbody

theorem writableBody_of_equiv {levels : Nat} {cs ds : List Clause} (hcs : WritableBody levels cs)
    (h : equivBody cs ds = true) : WritableBody levels ds := by
  cases cs with
  | nil => cases hcs
  | cons c cs =>
    obtain ⟨e, es, rfl, hce, hes⟩ := cons_equivBody_iff.1 h
    obtain ⟨hlink, hc, hmore⟩ := hcs
    exact ⟨link_eq_of_equiv hce ▸ hlink, writable_of_equiv hc hce, writableMore_of_equiv hmore hes⟩

theorem writableMore_of_equiv {levels : Nat} {cs ds : List Clause} (hcs : WritableMore levels cs)
    (h : equivBody cs ds = true) : WritableMore levels ds := by
  cases cs with
  | nil =>
    obtain rfl := nil_equivBody_iff.1 h
    trivial
  | cons c cs =>
    obtain ⟨e, es, rfl, hce, hes⟩ := cons_equivBody_iff.1 h
    obtain ⟨hlink, hc, hmore⟩ := hcs
    exact ⟨link_eq_of_equiv hce ▸ hlink, writable_of_equiv hc hce, writableMore_of_equiv hmore hes⟩

end

end Clause

namespace Formula

open Grammar

/-- What is read is writable with as many groups open as may be. -/
theorem writable_of_read {text : List Char} {f : Formula} (h : (read text).result = .ok f) :
    f.Writable Demand.maxGroups :=
  QueryText.writable (Demand.whole_eq_ok_iff.1 (Logged.result_mapReason_eq_ok_iff.1 h))

/-- A writable formula is read back as it is, down to the spelling of its numbers. -/
theorem read_render {f : Formula} (h : f.Writable Demand.maxGroups) :
    (read f.render).result = .ok f :=
  Logged.result_mapReason_eq_ok_iff.2 (Demand.whole_eq_ok_iff.2 (queryText_render h))

/-- The rendering of a formula is read as an equal formula exactly if the formula is writable. -/
theorem read_render_equiv_iff (f : Formula) :
    (∃ g, (read f.render).result = .ok g ∧ g.equiv f = true) ↔ f.Writable Demand.maxGroups := by
  constructor
  · rintro ⟨g, hread, hequiv⟩
    exact Clause.writableBody_of_equiv (writable_of_read hread) hequiv
  · intro hf
    exact ⟨f, read_render hf, Clause.equivBody_refl f⟩

end Formula

end DocFilter
