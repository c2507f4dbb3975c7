import DocFilter.Query.Formula

/-!
# Where clauses stand in a rendering

Every clause of a formula, at any depth, has its place in the rendering: the text before it, and the
groups that are open there.  The places are listed in the order of the text, a group before what it
holds.  At each of them the rendering goes on with that of the clause, and no two clauses begin at
one offset.
-/

namespace DocFilter

/-- A clause with the text before it in a rendering and the number of groups open there. -/
structure Place where
  before : List Char
  openGroups : Nat
  clause : Clause

/-- How many characters come before the clause. -/
def Place.offset (o : Place) : Nat := o.before.length

namespace Clause

mutual

/-- The places in a clause, which comes after the text `before` with `openGroups` groups open. -/
def places (openGroups : Nat) (before : List Char) : Clause → List Place
  | test link negated p => [⟨before, openGroups, .test link negated p⟩]
  | group link negated body =>
    ⟨before, openGroups, .group link negated body⟩ ::
      bodyPlaces (openGroups + 1) (before ++ (renderNegation negated ++ ['('])) body
termination_by structural c => c

/-- The places in the clauses of a formula. -/
def bodyPlaces (openGroups : Nat) (before : List Char) : List Clause → List Place
  | [] => []
  | c :: cs => places openGroups before c ++ morePlaces openGroups (before ++ c.render) cs
termination_by structural cs => cs

/-- The places in later clauses, the connective before each. -/
def morePlaces (openGroups : Nat) (before : List Char) : List Clause → List Place
  | [] => []
  | c :: cs =>
    places openGroups (before ++ renderLink c.link) c ++
      morePlaces openGroups (before ++ renderLink c.link ++ c.render) cs
termination_by structural cs => cs

end

end Clause

/-- The places of all clauses of a formula in its rendering. -/
def Formula.places (f : Formula) : List Place := Clause.bodyPlaces 0 [] f

/-! ### Places in the order of the text -/

/-- Whether the place comes after the text `before`, and the text goes on there with the clause. -/
def Place.StandsIn (before text : List Char) (o : Place) : Prop :=
  before <+: o.before ∧ o.before ++ o.clause.render <+: text

theorem Place.StandsIn.mono {before before' text text' : List Char} {o : Place}
    (h : o.StandsIn before' text') (hbefore : before <+: before') (htext : text' <+: text) :
    o.StandsIn before text :=
  ⟨hbefore.trans h.1, h.2.trans htext⟩

/-- Whether the places come after the text `before` and in the order in which they stand in the
text, no two at one offset. -/
structure InOrder (before text : List Char) (os : List Place) : Prop where
  standsIn : ∀ o ∈ os, o.StandsIn before text
  sorted : os.Pairwise fun o o' => o.offset < o'.offset

namespace InOrder

variable {before text before' text' : List Char} {os os' : List Place}

theorem nil : InOrder before text [] :=
  ⟨fun _ ho => absurd ho List.not_mem_nil, .nil⟩

theorem mono (h : InOrder before' text' os) (hbefore : before <+: before')
    (htext : text' <+: text) : InOrder before text os :=
  ⟨fun o ho => (h.standsIn o ho).mono hbefore htext, h.sorted⟩

/-- A clause stands before the places in it. -/
theorem cons {n : Nat} {c : Clause} (h : InOrder before' text os)
    (hc : before ++ c.render <+: text) (hbefore : before <+: before') (hne : before ≠ before') :
    InOrder before text (⟨before, n, c⟩ :: os) := by
  have hlt : before.length < before'.length :=
    Nat.lt_of_le_of_ne hbefore.length_le fun hlen => hne (hbefore.eq_of_length hlen)
  constructor
  · exact List.forall_mem_cons.2
      ⟨⟨List.prefix_rfl, hc⟩, (h.mono hbefore List.prefix_rfl).standsIn⟩
  · refine List.pairwise_cons.2 ⟨fun o ho => ?_, h.sorted⟩
    exact Nat.lt_of_lt_of_le hlt (h.standsIn o ho).1.length_le

/-- Places in a text stand before those that come after it and a blank. -/
theorem append (h : InOrder before text os) (h' : InOrder (text ++ [' ']) text' os')
    (hbefore : before <+: text) (htext : text <+: text') : InOrder before text' (os ++ os') := by
  refine ⟨List.forall_mem_append.2 ⟨fun o ho => ?_, fun o ho => ?_⟩, ?_⟩
  · exact (h.standsIn o ho).mono List.prefix_rfl htext
  · exact (h'.standsIn o ho).mono (hbefore.trans (List.prefix_append _ _)) List.prefix_rfl
  · refine List.pairwise_append.2 ⟨h.sorted, h'.sorted, fun o ho o' ho' => ?_⟩
    have hle : o.before.length ≤ text.length :=
      ((List.prefix_append _ _).trans (h.standsIn o ho).2).length_le
    have hlt : (text ++ [' ']).length ≤ o'.before.length := (h'.standsIn o' ho').1.length_le
    rw [List.length_append] at hlt
    exact Nat.lt_of_le_of_lt hle hlt

end InOrder

namespace Clause

variable {n : Nat} {before : List Char}

theorem inOrder_bodyPlaces_cons {c : Clause} {cs : List Clause}
    (hc : InOrder before (before ++ c.render) (c.places n before))
    (hcs : InOrder (before ++ c.render ++ [' ']) (before ++ c.render ++ renderMore cs)
      (morePlaces n (before ++ c.render) cs)) :
    InOrder before (before ++ renderBody (c :: cs)) (bodyPlaces n before (c :: cs)) := by
  rw [renderBody, ← List.append_assoc]
  exact hc.append hcs (List.prefix_append _ _) (List.prefix_append _ _)

mutual

theorem inOrder_places (n : Nat) (before : List Char) (c : Clause) :
    InOrder before (before ++ c.render) (c.places n before) := by
  cases c with
  | test link negated p =>
    exact ⟨List.forall_mem_singleton.2 ⟨List.prefix_rfl, List.prefix_rfl⟩,
      List.pairwise_singleton _ _⟩
  | group link negated body =>
    have hbody := inOrder_bodyPlaces (n + 1) (before ++ (renderNegation negated ++ ['('])) body
    have htext : before ++ (renderNegation negated ++ ['(']) ++ renderBody body <+:
        before ++ (group link negated body).render := ⟨[')'], by simp [render]⟩
    exact (hbody.mono List.prefix_rfl htext).cons List.prefix_rfl (List.prefix_append _ _) (by simp)

/-- The places in the clauses of a formula are in the order of its rendering. -/
theorem inOrder_bodyPlaces (n : Nat) (before : List Char) (cs : List Clause) :
    InOrder before (before ++ renderBody cs) (bodyPlaces n before cs) := by
  cases cs with
  | nil => exact .nil
  | cons c cs =>
    exact inOrder_bodyPlaces_cons (inOrder_places n before c) (inOrder_morePlaces n _ cs)

/-- Later clauses come after the blank before the first connective. -/
theorem inOrder_morePlaces (n : Nat) (before : List Char) (cs : List Clause) :
    InOrder (before ++ [' ']) (before ++ renderMore cs) (morePlaces n before cs) := by
  cases cs with
  | nil => exact .nil
  | cons c cs =>
    have hbody := inOrder_bodyPlaces_cons (inOrder_places n (before ++ renderLink c.link) c)
      (inOrder_morePlaces n _ cs)
    have htext : before ++ renderLink c.link ++ renderBody (c :: cs) =
        before ++ renderMore (c :: cs) := by
      rw [renderBody, renderMore, List.append_assoc, List.append_assoc]
    have hblank : before ++ [' '] <+: before ++ renderLink c.link :=
      (List.prefix_append_right_inj _).2 (List.prefix_append _ _)
    exact htext ▸ hbody.mono hblank List.prefix_rfl

end

end Clause

end DocFilter
