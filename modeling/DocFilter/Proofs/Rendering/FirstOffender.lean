import DocFilter.Proofs.Reading.FailurePlace
import DocFilter.Proofs.Rendering.Legible
import DocFilter.Proofs.Rendering.Places
import DocFilter.Proofs.Validation
import Mathlib.Order.WellFounded

/-!
# The first clause that offends

The rendering of a legible formula is refused only for a clause that *offends*: a predicate whose
operands do not fit, or a group where no more may be opened.  Of all clauses that offend, the one
that stands first in the text is reported, with its offset and the text that says what is wrong with
it.  What stands before it is writable, so the reader gets through to it; and a clause that does not
offend fails only for one that it holds.
-/

namespace DocFilter

namespace Place

/-- What is wrong with the clause itself, if anything, and at which offset that is reported: a
predicate after its `!`, a group with it. -/
def report? (o : Place) : Option (SyntaxFault × Nat) :=
  match o.clause with
  | .test _ negated p =>
    match p.validate with
    | .ok () => none
    | .error why => some (.misfit why, o.offset + (Clause.renderNegation negated).length)
  | .group _ _ _ =>
    if o.openGroups < Demand.maxGroups then none else some (.tooDeep Demand.maxGroups, o.offset)

/-- Whether something is wrong with the clause itself. -/
def Offends (o : Place) : Prop := o.report?.isSome

theorem validate_of_report?_test {n : Nat} {before : List Char} {link : Option Connective}
    {negated : Bool} {p : Predicate} (h : report? ⟨before, n, .test link negated p⟩ = none) :
    p.validate = .ok () := by
  unfold report? at h
  simp only at h
  split at h
  · next hfits => exact hfits
  · cases h

theorem report?_test_eq_some {n k : Nat} {before : List Char} {link : Option Connective}
    {negated : Bool} {p : Predicate} {fault : SyntaxFault}
    (h : report? ⟨before, n, .test link negated p⟩ = some (fault, k)) :
    ∃ why, p.validate = .error why ∧ fault = .misfit why ∧
      k = (before ++ Clause.renderNegation negated).length := by
  unfold report? at h
  simp only at h
  split at h
  · cases h
  · next why hwhy =>
    cases h
    exact ⟨why, hwhy, rfl, List.length_append.symm⟩

theorem report?_group {n : Nat} {before : List Char} {link : Option Connective} {negated : Bool}
    {body : List Clause} :
    report? ⟨before, n, .group link negated body⟩ =
      if n < Demand.maxGroups then none else some (.tooDeep Demand.maxGroups, before.length) :=
  rfl

/-- Whether the error tells of the clause at the place: of a predicate that validation refuses, what
is said of that one, at its offset after a `!`; of a group inside sixty-four others, that this is too
deep, at the offset of the clause with its `!`. -/
def ReportedBy (o : Place) (e : SyntaxError) : Prop :=
  match o.clause with
  | .test _ negated p =>
    (∃ why, p.validate = .error why ∧ e.fault = .misfit why ∧ e.message = why.message) ∧
      p.Refused e.message ∧ e.position = o.offset + (Clause.renderNegation negated).length
  | .group _ _ _ =>
    64 ≤ o.openGroups ∧ e.fault = .tooDeep 64 ∧
      e.message = "Query nests deeper than 64 groups" ∧ e.position = o.offset

theorem message_tooDeep :
    (SyntaxFault.tooDeep Demand.maxGroups).message = "Query nests deeper than 64 groups" := by
  decide

/-- An error tells of a clause if it is what is reported of it. -/
theorem reportedBy_iff {o : Place} {e : SyntaxError} :
    o.ReportedBy e ↔ o.report? = some (e.fault, e.position) := by
  obtain ⟨before, n, c⟩ := o
  obtain ⟨fault, k, fragment⟩ := e
  cases c with
  | test link negated p =>
    constructor
    · rintro ⟨⟨why, hwhy, rfl, _⟩, _, rfl⟩
      simp only [report?, hwhy]
    · intro h
      obtain ⟨why, hwhy, rfl, rfl⟩ := report?_test_eq_some h
      exact ⟨⟨why, hwhy, rfl, rfl⟩, Predicate.refused_iff.2 ⟨why, hwhy, rfl⟩, List.length_append⟩
  | group link negated body =>
    rw [report?_group, Option.ite_none_left_eq_some]
    constructor
    · rintro ⟨hfull, rfl, _, rfl⟩
      exact ⟨Nat.not_lt.2 hfull, rfl⟩
    · rintro ⟨hfull, hsome⟩
      cases hsome
      exact ⟨Nat.not_lt.1 hfull, rfl, message_tooDeep, rfl⟩

/-- A fault is reported inside the text of its clause. -/
theorem le_length_of_report? {o : Place} {text : List Char} {fault : SyntaxFault} {k : Nat}
    (h : o.before ++ o.clause.render <+: text) (hreport : o.report? = some (fault, k)) :
    k ≤ text.length := by
  refine le_trans ?_ h.length_le
  obtain ⟨before, n, c⟩ := o
  cases c with
  | test link negated p =>
    obtain ⟨_, _, _, rfl⟩ := report?_test_eq_some hreport
    rw [Clause.render, ← List.append_assoc]
    exact (List.prefix_append _ _).length_le
  | group link negated body =>
    rw [report?_group, Option.ite_none_left_eq_some] at hreport
    obtain ⟨_, hsome⟩ := hreport
    cases hsome
    exact (List.prefix_append _ _).length_le

end Place

open Grammar Reading

namespace Clause

section Group

variable {levels n : Nat} {before : List Char} {link : Option Connective} {negated : Bool}
  {body : List Clause}

/-- Where no group may be opened any more, every group offends. -/
theorem report_places_group_of_noLevels (h : n + 0 = Demand.maxGroups) :
    (places n before (.group link negated body)).findSome? Place.report? =
      some (.tooDeep Demand.maxGroups, before.length) := by
  have hfull : ¬n < Demand.maxGroups := by omega
  rw [places, List.findSome?_cons, Place.report?_group, if_neg hfull]

/-- Where a group may be opened, only what it holds can offend. -/
theorem report_places_group_of_levels (h : n + (levels + 1) = Demand.maxGroups) :
    (places n before (.group link negated body)).findSome? Place.report? =
      (bodyPlaces (n + 1) (before ++ (renderNegation negated ++ ['('])) body).findSome?
        Place.report? := by
  have hroom : n < Demand.maxGroups := by omega
  rw [places, List.findSome?_cons, Place.report?_group, if_pos hroom]

end Group

/-! ### Where no clause offends -/

mutual

/-- A legible clause in which none offends is writable. -/
theorem writable_of_blameless {levels n : Nat} {before : List Char} (c : Clause) (h : c.Legible)
    (hlevels : n + levels = Demand.maxGroups)
    (hnone : (c.places n before).findSome? Place.report? = none) : c.Writable levels := by
  cases c with
  | test link negated p =>
    have hreport := List.findSome?_eq_none_iff.1 hnone _ (List.mem_singleton_self _)
    exact Predicate.Legible.writable h (Place.validate_of_report?_test hreport)
  | group link negated body =>
    cases levels with
    | zero =>
      rw [report_places_group_of_noLevels hlevels] at hnone
      cases hnone
    | succ levels =>
      rw [report_places_group_of_levels hlevels] at hnone
      have hinside : n + 1 + levels = Demand.maxGroups := by omega
      exact writableBody_of_blameless body h hinside hnone

theorem writableBody_of_blameless {levels n : Nat} {before : List Char} (cs : List Clause)
    (h : LegibleBody cs) (hlevels : n + levels = Demand.maxGroups)
    (hnone : (bodyPlaces n before cs).findSome? Place.report? = none) :
    WritableBody levels cs := by
  cases cs with
  | nil => cases h
  | cons c cs =>
    obtain ⟨hlink, hc, hcs⟩ := h
    rw [bodyPlaces, List.findSome?_append, Option.or_eq_none_iff] at hnone
    exact ⟨hlink, writable_of_blameless c hc hlevels hnone.1,
      writableMore_of_blameless cs hcs hlevels hnone.2⟩

theorem writableMore_of_blameless {levels n : Nat} {before : List Char} (cs : List Clause)
    (h : LegibleMore cs) (hlevels : n + levels = Demand.maxGroups)
    (hnone : (morePlaces n before cs).findSome? Place.report? = none) :
    WritableMore levels cs := by
  cases cs with
  | nil => trivial
  | cons c cs =>
    obtain ⟨hlink, hc, hcs⟩ := h
    rw [morePlaces, List.findSome?_append, Option.or_eq_none_iff] at hnone
    exact ⟨hlink, writable_of_blameless c hc hlevels hnone.1,
      writableMore_of_blameless cs hcs hlevels hnone.2⟩

end

/-- A legible clause in which none offends is read. -/
theorem read_of_blameless {levels n : Nat} {before u rest : List Char} {c : Clause}
    (h : c.Legible) (hlevels : n + levels = Demand.maxGroups)
    (hnone : (c.places n before).findSome? Place.report? = none) (hu : Blanks u)
    (hr : Rule.AfterClause rest) :
    (Demand.clause (Demand.inner levels) c.link (u ++ (c.render ++ rest))).result =
      .ok (c, rest) := by
  have hderived := clauseText_render c (writable_of_blameless c h hlevels hnone)
  exact Demand.clause_complete hu hderived (fun _ => hr.endsWord) hr.operator?

/-! ### Where some clause offends -/

/-- Whether reading the clause fails for the first place in it that offends, if there is one. -/
def FailsFirst (levels n : Nat) (c : Clause) : Prop :=
  ∀ ⦃before u rest : List Char⦄ ⦃fault : SyntaxFault⦄ ⦃k : Nat⦄, Blanks u → Rule.AfterClause rest →
    (c.places n before).findSome? Place.report? = some (fault, k) →
    FailsAt fault ((before ++ (c.render ++ rest)).drop k)
      (Demand.clause (Demand.inner levels) c.link (u ++ (c.render ++ rest)))

/-- Whether reading the clauses fails for the first place in them that offends, if there is one. -/
def BodyFailsFirst (levels n : Nat) (link : Option Connective) (cs : List Clause) : Prop :=
  ∀ (advances : ∀ link, (Demand.clause (Demand.inner levels) link).Advances)
    ⦃before u rest : List Char⦄ ⦃fault : SyntaxFault⦄ ⦃k : Nat⦄, Blanks u → Rule.Closing rest →
    (bodyPlaces n before cs).findSome? Place.report? = some (fault, k) →
    FailsAt fault ((before ++ (renderBody cs ++ rest)).drop k)
      (Demand.clauses (Demand.clause (Demand.inner levels)) advances link
        (u ++ (renderBody cs ++ rest)))

theorem failsFirst_test {levels n : Nat} {link : Option Connective} {negated : Bool}
    {p : Predicate} (h : p.Legible) : FailsFirst levels n (.test link negated p) := by
  intro before u rest fault k hu hr hfirst
  rw [places, List.findSome?_singleton] at hfirst
  obtain ⟨why, hwhy, rfl, rfl⟩ := Place.report?_test_eq_some hfirst
  have hopens := endsWord_append_eq_false h.opens rest
  have hneg := Demand.negation_complete hu (bangText_render negated)
    (endsWord_eq_false_mono (by simp) hopens)
  have hplace : (before ++ ((test link negated p).render ++ rest)).drop
      (before ++ renderNegation negated).length = p.render ++ rest := by
    rw [render, List.append_assoc, ← List.append_assoc, List.drop_left]
  rw [hplace, render, List.append_assoc]
  refine Demand.clause_failsAt_of_test hneg (head?_ne_of_endsWord_eq_false hopens (by simp)) ?_ _
  exact Demand.fittingPredicate_failsAt (h.read hr) hwhy

theorem BodyFailsFirst.formula {levels n k : Nat} {cs : List Clause} {before u rest : List Char}
    {fault : SyntaxFault} (h : BodyFailsFirst levels n none cs) (hu : Blanks u)
    (hr : Rule.Closing rest)
    (hfirst : (bodyPlaces n before cs).findSome? Place.report? = some (fault, k)) :
    FailsAt fault ((before ++ (renderBody cs ++ rest)).drop k)
      (Demand.formula levels (u ++ (renderBody cs ++ rest))) := by
  obtain ⟨advances, hformula⟩ := Demand.formula_eq levels
  rw [hformula]
  exact h advances hu hr hfirst

theorem failsFirst_group {levels n : Nat} {link : Option Connective} {negated : Bool}
    {body : List Clause} (hlevels : n + levels = Demand.maxGroups)
    (hbody : ∀ m, levels = m + 1 → BodyFailsFirst m (n + 1) none body) :
    FailsFirst levels n (.group link negated body) := by
  intro before u rest fault k hu hr hfirst
  have hrender : (group link negated body).render ++ rest =
      renderNegation negated ++ '(' :: (renderBody body ++ ')' :: rest) := by
    simp [render]
  have hneg := Demand.negation_complete (t := '(' :: (renderBody body ++ ')' :: rest)) hu
    (bangText_render negated) rfl
  rw [hrender]
  cases levels with
  | zero =>
    rw [report_places_group_of_noLevels hlevels] at hfirst
    cases hfirst
    -- The place is where the clause begins, its `!` included.
    have hskip : skipBlanks (renderNegation negated ++ '(' :: (renderBody body ++ ')' :: rest)) =
        renderNegation negated ++ '(' :: (renderBody body ++ ')' :: rest) := by
      cases negated <;> rfl
    have hfails := Demand.clause_failsAt_of_tooDeep hneg link
    rw [skipBlanks_append hu, hskip] at hfails
    rw [List.drop_left]
    exact hfails
  | succ m =>
    rw [report_places_group_of_levels hlevels] at hfirst
    have hclosing : Rule.Closing (')' :: rest) := .inr rfl
    have hinside := (hbody m rfl).formula blanks_nil hclosing hfirst
    rw [List.append_assoc, List.append_assoc] at hinside
    exact Demand.clause_failsAt_of_group hneg hinside link

/-- The first of the clauses fails, or it is read and a later one fails. -/
theorem bodyFailsFirst_cons {levels n : Nat} {c : Clause} {cs : List Clause} (hc : c.Legible)
    (hcs : LegibleMore cs) (hlevels : n + levels = Demand.maxGroups)
    (hfirst : FailsFirst levels n c)
    (hmore : ∀ d ∈ cs.head?, BodyFailsFirst levels n d.link cs) :
    BodyFailsFirst levels n c.link (c :: cs) := by
  intro advances before u rest fault k hu hr hreport
  have hafter := hcs.afterClause hr
  rw [renderBody, List.append_assoc]
  rw [bodyPlaces, List.findSome?_append, Option.or_eq_some_iff] at hreport
  rcases hreport with hreport | ⟨hnone, hreport⟩
  · exact Demand.clauses_failsAt_of_first (hfirst hu hafter hreport)
  · have hread := read_of_blameless hc hlevels hnone hu hafter
    cases cs with
    | nil => cases hreport
    | cons d ds =>
      obtain ⟨next, hnext⟩ := Option.isSome_iff_exists.1 hcs.1
      have hblank : Blanks [' '] := by decide
      -- What comes before the later clauses now takes in this one and the connective after it.
      have hplaces : morePlaces n (before ++ c.render) (d :: ds) =
          bodyPlaces n (before ++ c.render ++ renderLink d.link) (d :: ds) := rfl
      rw [hplaces] at hreport
      have hlater := hmore d rfl advances hblank hr hreport
      have htext : before ++ (c.render ++ (renderMore (d :: ds) ++ rest)) =
          before ++ c.render ++ renderLink d.link ++ (renderBody (d :: ds) ++ rest) := by
        simp [renderMore, renderBody]
      rw [hnext] at hlater htext
      rw [htext]
      exact Demand.clauses_failsAt_of_next hread (connective?_renderMore hnext ds rest) hlater

-- By induction on the clauses.  Along a row of them the first one left is taken with what is known
-- of it, since whether the reader gets to the next one depends on it.
mutual

/-- Reading a legible clause fails for the first place in it that offends. -/
theorem failsFirst {levels n : Nat} (c : Clause) (h : c.Legible)
    (hlevels : n + levels = Demand.maxGroups) : FailsFirst levels n c := by
  cases c with
  | test link negated p => exact failsFirst_test h
  | group link negated body =>
    refine failsFirst_group hlevels fun m hm => ?_
    have hinside : n + 1 + m = Demand.maxGroups := by omega
    exact bodyFailsFirst body h hinside

theorem bodyFailsFirst {levels n : Nat} (cs : List Clause) (h : LegibleBody cs)
    (hlevels : n + levels = Demand.maxGroups) : BodyFailsFirst levels n none cs := by
  cases cs with
  | nil => cases h
  | cons c cs =>
    obtain ⟨hlink, hc, hcs⟩ := h
    rw [← hlink]
    exact moreFailsFirst cs hc hcs hlevels (failsFirst c hc hlevels)

theorem moreFailsFirst {levels n : Nat} {c : Clause} (cs : List Clause) (hc : c.Legible)
    (hcs : LegibleMore cs) (hlevels : n + levels = Demand.maxGroups)
    (hfirst : FailsFirst levels n c) : BodyFailsFirst levels n c.link (c :: cs) := by
  refine bodyFailsFirst_cons hc hcs hlevels hfirst ?_
  cases cs with
  | nil => exact nofun
  | cons d ds =>
    obtain ⟨_, hd, hds⟩ := hcs
    rintro _ ⟨⟩
    exact moreFailsFirst ds hd hds hlevels (failsFirst d hd hlevels)

end

end Clause

namespace Formula

/-- Whether the place is that of a clause of the formula that offends, and no clause that offends
stands before it in the text. -/
structure FirstOffender (f : Formula) (o : Place) : Prop where
  mem : o ∈ f.places
  offends : o.Offends
  least : ∀ o' ∈ f.places, o'.Offends → o.offset ≤ o'.offset

/-- What is reported of the first clause that offends is the first report there is. -/
theorem FirstOffender.findSome?_eq {f : Formula} {o : Place} (h : f.FirstOffender o) :
    f.places.findSome? Place.report? = o.report? := by
  obtain ⟨report, hreport⟩ := Option.isSome_iff_exists.1 h.offends
  rw [hreport, List.findSome?_eq_some_iff]
  obtain ⟨os, os', hsplit⟩ := List.append_of_mem h.mem
  refine ⟨os, o, os', hsplit, hreport, fun o' ho' => ?_⟩
  -- The places are in order, so one that offends before this one would have a lower offset.
  have hsorted := (Clause.inOrder_bodyPlaces 0 [] f).sorted
  have hlt : o'.offset < o.offset := by
    have hpairwise : (os ++ o :: os').Pairwise fun o o' => o.offset < o'.offset := hsplit ▸ hsorted
    exact (List.pairwise_append.1 hpairwise).2.2 o' ho' o List.mem_cons_self
  have hmem : o' ∈ f.places := hsplit ▸ List.mem_append_left _ ho'
  rw [Option.eq_none_iff_forall_ne_some]
  intro report' hreport'
  have hle := h.least o' hmem (Option.isSome_iff_exists.2 ⟨report', hreport'⟩)
  exact absurd hlt (Nat.not_lt.2 hle)

theorem exists_firstOffender {f : Formula} (h : ∃ o ∈ f.places, o.Offends) :
    ∃ o, f.FirstOffender o := by
  obtain ⟨o, ⟨hmem, hoffends⟩, hleast⟩ :=
    (measure Place.offset).wf.has_min {o | o ∈ f.places ∧ o.Offends} h
  exact ⟨o, hmem, hoffends, fun o' hmem' hoffends' => Nat.not_lt.1 (hleast o' ⟨hmem', hoffends'⟩)⟩

/-- The rule for formulas fails for the first place that offends. -/
theorem Legible.failsAt {f : Formula} {fault : SyntaxFault} {k : Nat} (h : f.Legible)
    (hfirst : f.places.findSome? Place.report? = some (fault, k)) :
    FailsAt fault (f.render.drop k) (Demand.formula Demand.maxGroups f.render) := by
  have hbody := Clause.bodyFailsFirst f h (Nat.zero_add Demand.maxGroups)
  have hfails := hbody.formula blanks_nil (.inl rfl) hfirst
  rwa [List.append_nil] at hfails

theorem Legible.nest {f : Formula} (h : f.Legible) (n : Nat) : (nest f n).Legible := by
  induction n with
  | zero => exact h
  | succ n ih => exact ⟨rfl, ih, trivial⟩

/-- The rendering of a legible formula goes on at every place with the clause there.  If a clause
offends, reading the rendering fails with an error that tells of the first one that does, and the
text from there on; otherwise the formula is read. -/
theorem read_render_of_legible {f : Formula} (h : f.Legible) :
    (∀ o ∈ f.places, o.before ++ o.clause.render <+: f.render) ∧
      ((∃ o ∈ f.places, o.Offends) → ∃ o, f.FirstOffender o) ∧
      (∀ o, f.FirstOffender o → ∃ e, (read f.render).result = .error e ∧ o.ReportedBy e ∧
        e.fragment = f.render.drop e.position) ∧
      ((∀ o ∈ f.places, ¬o.Offends) → (read f.render).result = .ok f) := by
  have hstands : ∀ o ∈ f.places, o.before ++ o.clause.render <+: f.render := fun o ho =>
    ((Clause.inOrder_bodyPlaces 0 [] f).standsIn o ho).2
  refine ⟨hstands, exists_firstOffender, ?_, ?_⟩
  · intro o hfirst
    obtain ⟨⟨fault, k⟩, hreport⟩ := Option.isSome_iff_exists.1 hfirst.offends
    have hle := Place.le_length_of_report? (hstands o hfirst.mem) hreport
    have herror := read_eq_error hle (h.failsAt (hfirst.findSome?_eq.trans hreport))
    exact ⟨_, herror, Place.reportedBy_iff.2 hreport, rfl⟩
  · intro hblameless
    have hnone : f.places.findSome? Place.report? = none := by
      rw [List.findSome?_eq_none_iff]
      exact fun o ho => Option.not_isSome_iff_eq_none.1 (hblameless o ho)
    have hwritable : f.Writable Demand.maxGroups :=
      Clause.writableBody_of_blameless f h (Nat.zero_add _) hnone
    exact read_eq_ok_iff.2 (queryText_render hwritable)

/-- A literal that stands alone, under a `!` in a group, is reported and the ordering by null after
the group is not; in too many groups it is the group that is one too many. -/
theorem read_render_of_legible_of_two_offenders :
    ∃ (f g : Formula) (e e' : SyntaxError), f.Legible ∧ g.Legible ∧
      f.render = "(@.a and !'x') or @.b < null".toList ∧
      (read f.render).result = .error e ∧
      e.message =
        "Single value expression should be specified as an attribute path (for example: @.attr)" ∧
      e.position = 10 ∧ e.fragment = "'x') or @.b < null".toList ∧
      g.render = parenthesise 65 "!'x'".toList ∧
      (read g.render).result = .error e' ∧
      e'.message = "Query nests deeper than 64 groups" ∧
      e'.position = 64 ∧ e'.fragment = g.render.drop 64 := by
  have hpath : ∀ name : String, IsSegment name.toList → (⟨[name]⟩ : Path).Writable :=
    fun name hname => ⟨List.cons_ne_nil _ _, List.forall_mem_singleton.2 hname⟩
  have hlone : ∀ x : Operand, x.Writable → x.isRegex = false → (Predicate.exists? x).Legible :=
    fun x hx hregex => ⟨hx, nofun, hregex, nofun, rfl⟩
  have hliteral : (Predicate.exists? (.string "x")).Legible := hlone _ (.inl (by decide)) rfl
  have hattribute : (Predicate.exists? (.path ⟨["a"]⟩)).Legible :=
    hlone _ (hpath "a" (by decide)) rfl
  have hnull : (Predicate.compare (.path ⟨["b"]⟩) .less .null).Legible := by
    refine ⟨hpath "b" (by decide), ?_, rfl, ?_, rfl⟩
    · intro x hx
      cases hx
      trivial
    · intro x hx hregex
      cases hx
      cases hregex
  -- The first report there is belongs to the first offender, which the error tells of.
  have herror : ∀ {f : Formula} {fault k}, f.Legible →
      f.places.findSome? Place.report? = some (fault, k) →
      (read f.render).result = .error ⟨fault, k, f.render.drop k⟩ := by
    intro f fault k hlegible hfound
    obtain ⟨o, ho, hreport⟩ := List.exists_of_findSome?_eq_some hfound
    obtain ⟨_, hexists, hfails, _⟩ := read_render_of_legible hlegible
    obtain ⟨first, hfirst⟩ := hexists ⟨o, ho, Option.isSome_iff_exists.2 ⟨_, hreport⟩⟩
    obtain ⟨e, hresult, htells, hfragment⟩ := hfails first hfirst
    rw [hfirst.findSome?_eq, Place.reportedBy_iff.1 htells] at hfound
    cases hfound
    rw [hresult, ← hfragment]
  have htwo : Formula.Legible [.group none false [.test none false _, .test (some .and) true _],
      .test (some .or) false _] :=
    ⟨rfl, ⟨rfl, hattribute, rfl, hliteral, trivial⟩, rfl, hnull, trivial⟩
  have hdeep := Legible.nest (f := [.test none true _]) ⟨rfl, hliteral, trivial⟩ 65
  exact ⟨_, _, ⟨.misfit .bareLiteral, 10, _⟩, ⟨.tooDeep 64, 64, _⟩, htwo, hdeep, by decide,
    herror htwo (by decide), rfl, rfl, by decide, by decide, herror hdeep (by decide), by decide,
    rfl, rfl⟩

end Formula

end DocFilter
