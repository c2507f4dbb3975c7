import DocFilter.Proofs.Reading.Predicate
import DocFilter.Query.Reader

/-!
# Reading a query is deriving it

What one clause adds to what was read is settled for the rule of any number of levels; formulas
follow by induction on the levels, on the length of the text one way and on the derivation the
other.  So a text is read as a formula exactly if the grammar with its tokens kept apart derives
that formula for it.
-/

namespace DocFilter

namespace Demand

open Grammar

/-! ### Clauses -/

theorem fittingPredicate_eq_ok_iff {s rest : List Char} {p : Predicate} :
    (fittingPredicate s).result = .ok (p, rest) ↔
      (Rule.predicate s).result = .ok (some (p, rest)) ∧ p.validate = .ok () := by
  rw [fittingPredicate, Logged.result_bind]
  rcases (Rule.predicate s).result with e | (_ | ⟨q, r⟩)
  · simp
  · simp [Reading.failAt]
  · simp only [Except.ok.injEq, Option.some.injEq, Prod.mk.injEq]
    cases hq : q.validate with
    | error why =>
      constructor
      · intro h
        cases h
      · rintro ⟨⟨rfl, _⟩, h⟩
        rw [hq] at h
        cases h
    | ok =>
      simp only [Logged.result_pure, Except.ok.injEq, Prod.mk.injEq]
      constructor
      · rintro ⟨rfl, rfl⟩
        exact ⟨⟨rfl, rfl⟩, hq⟩
      · exact fun h => h.1

theorem closed_eq_ok_iff {formula : Demand Formula} {s rest : List Char} {f : Formula} :
    (closed formula s).result = .ok (f, rest) ↔
      ∃ r, (formula s).result = .ok (f, r) ∧ skipBlanks r = ')' :: rest := by
  constructor
  · intro h
    rw [closed, Logged.result_bind] at h
    split at h
    · cases h
    · next p hp =>
      obtain ⟨g, r⟩ := p
      have hg := Logged.result_mapReason_eq_ok_iff.1 hp
      simp only at h
      split at h
      · next r' hr =>
        cases h
        exact ⟨r, hg, hr⟩
      · cases h
  · rintro ⟨r, hf, hr⟩
    rw [closed, Logged.result_bind, Reading.insideGroup, Logged.result_mapReason_eq_ok_iff.2 hf]
    simp only [hr]
    rfl

theorem negation_sound {s t : List Char} {negated : Bool}
    (h : negation (skipBlanks s) = (negated, t)) :
    ∃ u b, Blanks u ∧ BangText b negated ∧ s = u ++ (b ++ t) ∧ skipBlanks t = t := by
  obtain ⟨u, hu, hs⟩ := exists_blanks s
  unfold negation at h
  split at h
  · next s' heq =>
    cases h
    obtain ⟨v, hv, hs'⟩ := exists_blanks s'
    refine ⟨u, '!' :: v, hu, .present hv, ?_, skipBlanks_skipBlanks s'⟩
    rw [List.cons_append, ← hs', ← heq, ← hs]
  · cases h
    exact ⟨u, [], hu, .absent, hs, skipBlanks_skipBlanks s⟩

theorem negation_complete {u b t : List Char} {negated : Bool} (hu : Blanks u)
    (hb : BangText b negated) (ht : endsWord ['!'] t = false) :
    negation (skipBlanks (u ++ (b ++ t))) = (negated, t) := by
  rw [skipBlanks_append hu]
  cases hb with
  | absent =>
    rw [List.nil_append, skipBlanks_of_endsWord_eq_false ht]
    unfold negation
    split
    · cases ht
    · rfl
  | @present v hv =>
    have hskip : skipBlanks ('!' :: (v ++ t)) = '!' :: (v ++ t) := rfl
    rw [List.cons_append, hskip, negation, skipBlanks_append hv,
      skipBlanks_of_endsWord_eq_false ht]

theorem clause_eq_ok_iff {inner : Option (Demand Formula)} {link : Option Connective}
    {s t rest : List Char} {negated : Bool} {c : Clause}
    (hneg : negation (skipBlanks s) = (negated, t)) :
    (clause inner link s).result = .ok (c, rest) ↔
      (∃ r formula body, t = '(' :: r ∧ inner = some formula ∧
          (closed formula r).result = .ok (body, rest) ∧ c = .group link negated body) ∨
        t.head? ≠ some '(' ∧
          ∃ p, (fittingPredicate t).result = .ok (p, rest) ∧ c = .test link negated p := by
  simp only [clause, hneg]
  split
  · next r =>
    cases inner with
    | none => simp [Reading.failAt]
    | some formula =>
      simp only [Logged.result_bind]
      constructor
      · intro h
        split at h
        · cases h
        · next p hp =>
          cases h
          exact .inl ⟨r, formula, p.1, rfl, rfl, hp, rfl⟩
      · rintro (⟨_, _, body, heq, hinner, hbody, rfl⟩ | ⟨hne, _⟩)
        · cases heq
          cases hinner
          rw [hbody]
          rfl
        · exact absurd rfl hne
  · next hne =>
    have hhead : t.head? ≠ some '(' := by
      intro hhead
      cases t with
      | nil => cases hhead
      | cons d t =>
        cases hhead
        exact hne t rfl
    simp only [Logged.result_bind]
    constructor
    · intro h
      split at h
      · cases h
      · next p hp =>
        cases h
        exact .inr ⟨hhead, p.1, hp, rfl⟩
    · rintro (⟨r, _, _, rfl, _⟩ | ⟨_, p, hp, rfl⟩)
      · exact absurd rfl hhead
      · rw [hp]
        rfl

theorem clauses_eq_ok_iff {rule : Option Connective → Demand Clause}
    {advances : ∀ link, (rule link).Advances} {link : Option Connective} {s rest : List Char}
    {cs : Formula} :
    (clauses rule advances link s).result = .ok (cs, rest) ↔
      ∃ c r, (rule link s).result = .ok (c, r) ∧
        ((Rule.connective? (skipBlanks r) = none ∧ cs = [c] ∧ rest = skipBlanks r) ∨
          ∃ next r' cs', Rule.connective? (skipBlanks r) = some (next, r') ∧
            (clauses rule advances (some next) r').result = .ok (cs', rest) ∧ cs = c :: cs') := by
  rw [clauses, Logged.result_attach_bind]
  constructor
  · intro h
    split at h
    · cases h
    · next found hfound =>
      obtain ⟨c, r⟩ := found
      refine ⟨c, r, hfound, ?_⟩
      simp only at h
      split at h
      · next hnone =>
        cases h
        exact .inl ⟨hnone, rfl, rfl⟩
      · next next r' hsome =>
        rw [Logged.result_bind] at h
        split at h
        · cases h
        · next p hp =>
          cases h
          exact .inr ⟨next, r', p.1, hsome, hp, rfl⟩
  · rintro ⟨c, r, hc, hmore⟩
    split
    · next e he =>
      rw [hc] at he
      cases he
    · next found hfound =>
      cases hc.symm.trans hfound
      simp only
      split
      · next hnone =>
        rcases hmore with ⟨_, rfl, rfl⟩ | ⟨_, _, _, hsome, _⟩
        · rfl
        · rw [hnone] at hsome
          cases hsome
      · next next r' hsome =>
        rcases hmore with ⟨hnone, _⟩ | ⟨_, _, cs', hsome', hcs', rfl⟩
        · rw [hnone] at hsome
          cases hsome
        · cases hsome.symm.trans hsome'
          rw [Logged.result_bind, hcs']
          rfl

section Clauses

variable {rule : Option Connective → Demand Clause} {advances : ∀ link, (rule link).Advances}
  {link : Option Connective} {s : List Char}

/-- A clause that fails ends the clauses. -/
theorem result_clauses_of_error {f : Failure} (h : (rule link s).result = .error f) :
    (clauses rule advances link s).result = .error f := by
  rw [clauses, Logged.result_attach_bind]
  split
  · next f' hf' =>
    rw [h] at hf'
    cases hf'
    rfl
  · next found hfound =>
    rw [h] at hfound
    cases hfound

/-- After a clause and a connective the outcome is that of the clauses after it. -/
theorem result_clauses_of_next {c : Clause} {r r' : List Char} {next : Connective}
    (h : (rule link s).result = .ok (c, r))
    (hnext : Rule.connective? (skipBlanks r) = some (next, r')) :
    (clauses rule advances link s).result =
      ((clauses rule advances (some next) r').result.map fun more => (c :: more.1, more.2)) := by
  rw [clauses, Logged.result_attach_bind]
  split
  · next f hf =>
    rw [h] at hf
    cases hf
  · next found hfound =>
    cases h.symm.trans hfound
    simp only
    split
    · next hnone =>
      rw [hnext] at hnone
      cases hnone
    · next next' r'' hnext' =>
      cases hnext.symm.trans hnext'
      rw [Logged.result_bind]
      cases (clauses rule advances (some next) r').result <;> rfl

end Clauses

/-! ### Formulas -/

/-- The rule for what a group holds, where at most `levels` groups may still be opened. -/
def inner : (levels : Nat) → Option (Demand Formula)
  | 0 => none
  | levels + 1 => some (formula levels)

theorem formula_eq (levels : Nat) :
    ∃ advances, formula levels = clauses (clause (inner levels)) advances none := by
  cases levels with
  | zero => exact ⟨_, rfl⟩
  | succ levels => exact ⟨_, rfl⟩

theorem eq_nil_of_skipBlanks {u s : List Char} (hu : Blanks u)
    (h : skipBlanks (u ++ s) = u ++ s) : u = [] := by
  have hlen := length_skipBlanks_le s
  rw [← skipBlanks_append hu s, h, List.length_append] at hlen
  exact List.length_eq_zero_iff.1 (by omega)

/-- What is taken off the front of a text is derived, blanks before and after it. -/
def TakesDerived (levels : Nat) (link : Option Connective) (rule : Demand Formula) : Prop :=
  ∀ ⦃s rest : List Char⦄ ⦃f : Formula⦄, (rule s).result = .ok (f, rest) →
    ∃ u w v, Blanks u ∧ ClausesText true levels link w f ∧ Blanks v ∧ s = u ++ (w ++ (v ++ rest))

theorem clause_sound {levels : Nat} {link : Option Connective} {s rest : List Char} {c : Clause}
    (ih : ∀ n, levels = n + 1 → TakesDerived n none (formula n))
    (h : (clause (inner levels) link s).result = .ok (c, rest)) :
    ∃ u w, Blanks u ∧ ClauseText true levels link w c ∧ s = u ++ (w ++ rest) ∧
      (c.showsEnd = false → endsWord Rule.afterOperand rest = true) := by
  cases hneg : negation (skipBlanks s) with
  | mk negated t =>
    obtain ⟨u, b, hu, hb, rfl, hskip⟩ := negation_sound hneg
    rcases (clause_eq_ok_iff hneg).1 h with
      ⟨r, rule, body, rfl, hinner, hclosed, rfl⟩ | ⟨_, p, hp, rfl⟩
    · cases levels with
      | zero => cases hinner
      | succ n =>
        cases hinner
        obtain ⟨r', hbody, hclose⟩ := closed_eq_ok_iff.1 hclosed
        obtain ⟨u', w, v, hu', hw, hv, rfl⟩ := ih n rfl hbody
        -- The formula has taken blanks after its last clause, and more may come before the parenthesis.
        obtain ⟨v', hv', rfl⟩ := exists_blanks_of_skipBlanks hclose
        exact ⟨u, _, hu, .group hb hu' hw (hv.append hv'), by simp, fun hshow => by cases hshow⟩
    · obtain ⟨hread, hfit⟩ := fittingPredicate_eq_ok_iff.1 hp
      obtain ⟨u', w, hu', hw, rfl, hends⟩ := Rule.predicate_sound hread hfit
      -- The blanks before the predicate went with the `!`, or with what stood before the clause.
      obtain rfl := eq_nil_of_skipBlanks hu' hskip
      exact ⟨u, b ++ w, hu, .test hb hw, by simp, hends⟩

theorem clauses_sound {levels : Nat} {advances : ∀ link, (clause (inner levels) link).Advances}
    (ih : ∀ n, levels = n + 1 → TakesDerived n none (formula n)) (link : Option Connective) :
    TakesDerived levels link (clauses (clause (inner levels)) advances link) := by
  intro s rest f h
  -- Each further clause begins where less is left of the text.
  induction hn : s.length using Nat.strongRecOn generalizing s f link with
  | ind n ihn =>
    subst hn
    obtain ⟨c, r, hc, hmore⟩ := clauses_eq_ok_iff.1 h
    have hr := (advances link hc).2
    obtain ⟨u, w, hu, hw, rfl, hends⟩ := clause_sound ih hc
    obtain ⟨v, hv, hskip⟩ := exists_blanks r
    rcases hmore with ⟨_, rfl, rfl⟩ | ⟨next, r', cs, hnext, hcs, rfl⟩
    · exact ⟨u, w, v, hu, .last hw, hv, by rw [← hskip]⟩
    · obtain ⟨spelling, hs, heq, hends'⟩ := Rule.connective?_eq_some_iff.1 hnext
      have hlen := (Rule.connective?_suffix hnext).length_le
      have hskiplen := length_skipBlanks_le r
      obtain ⟨u', w', v', hu', hw', hv', rfl⟩ := ihn _ (by omega) (some next) hcs rfl
      rw [heq] at hskip
      subst hskip
      -- The clause before the connective and the one after it are kept apart from it by blanks.
      have hapart : c.showsEnd = false → v ≠ [] := fun hshow =>
        ne_nil_of_endsWord (hends hshow) (Connective.spelling_opens hs)
      have hne : u' ≠ [] := ne_nil_of_endsWord hends' hw'.opens
      exact ⟨u, _, v', hu, .cons hw hv (fun _ => hapart) hs hu' hne hw', hv', by simp⟩

theorem formula_sound (levels : Nat) : TakesDerived levels none (formula levels) := by
  induction levels with
  | zero =>
    obtain ⟨advances, h⟩ := formula_eq 0
    rw [h]
    exact clauses_sound (fun n hn => absurd hn n.succ_ne_zero.symm) none
  | succ levels ih =>
    obtain ⟨advances, h⟩ := formula_eq (levels + 1)
    rw [h]
    refine clauses_sound (fun n hn => ?_) none
    cases hn
    exact ih

mutual

theorem clause_complete {levels : Nat} {link : Option Connective} {u w rest : List Char}
    {c : Clause} (hu : Blanks u) (h : ClauseText true levels link w c)
    (hr : c.showsEnd = false → endsWord [')'] rest = true) (hop : Rule.operator? rest = none) :
    (clause (inner levels) link (u ++ (w ++ rest))).result = .ok (c, rest) := by
  cases h with
  | @test _ _ negated b w p hb hp =>
    have hopens := endsWord_append_eq_false hp.opens rest
    have hneg := negation_complete hu hb (endsWord_eq_false_mono (by simp) hopens)
    rw [List.append_assoc, clause_eq_ok_iff hneg]
    have hread := Rule.predicate_complete hp hr hop
    exact .inr ⟨head?_ne_of_endsWord_eq_false hopens (by simp), p,
      fittingPredicate_eq_ok_iff.2 ⟨hread, hp.validate⟩, rfl⟩
  | @group levels _ negated b u' w v body hb hu' hbody hv =>
    have hneg := negation_complete (t := '(' :: (u' ++ (w ++ (v ++ ')' :: rest)))) hu hb rfl
    simp only [List.append_assoc, List.cons_append, List.nil_append]
    rw [clause_eq_ok_iff hneg]
    refine .inl ⟨_, formula levels, body, rfl, rfl, closed_eq_ok_iff.2 ⟨')' :: rest, ?_, rfl⟩, rfl⟩
    obtain ⟨advances, hformula⟩ := formula_eq levels
    rw [hformula]
    exact clauses_complete hu' hbody hv (.inr rfl)

theorem clauses_complete {levels : Nat} {link : Option Connective} {u w v rest : List Char}
    {f : Formula} {advances : ∀ link, (clause (inner levels) link).Advances} (hu : Blanks u)
    (h : ClausesText true levels link w f) (hv : Blanks v) (hr : Rule.Closing rest) :
    (clauses (clause (inner levels)) advances link (u ++ (w ++ (v ++ rest)))).result =
      .ok (f, rest) := by
  have hskip := (skipBlanks_append hv rest).trans hr.skipBlanks
  cases h with
  | @last _ _ w c hc =>
    -- Nothing follows the last clause but blanks and the end.
    have hread := clause_complete hu hc (fun _ => endsWord_append hv fun _ => hr.endsWord)
      (Rule.operator?_of_closing hv hr)
    refine clauses_eq_ok_iff.2 ⟨c, v ++ rest, hread, .inl ⟨?_, rfl, hskip.symm⟩⟩
    rw [hskip]
    exact Rule.connective?_of_closing hr
  | @cons _ _ w u' v' w' c cs spelling next hc hu' hapart hs hv' hne hcs =>
    have hends : endsWord [')'] (v' ++ (w' ++ (v ++ rest))) = true :=
      endsWord_append hv' fun hnil => absurd hnil hne
    have hread := clause_complete hu hc
      (fun hshow => endsWord_append hu' fun hnil => absurd hnil (hapart rfl hshow))
      (Rule.operator?_of_connective hu' hs hends)
    simp only [List.append_assoc]
    refine clauses_eq_ok_iff.2 ⟨c, _, hread, .inr ⟨next, v' ++ (w' ++ (v ++ rest)), cs, ?_,
      clauses_complete hv' hcs hv hr, rfl⟩⟩
    -- The connective is the first word after the clause.
    have hopens := endsWord_append_eq_false (Connective.spelling_opens hs)
      (v' ++ (w' ++ (v ++ rest)))
    rw [skipBlanks_append hu', skipBlanks_of_endsWord_eq_false hopens]
    exact Rule.connective?_eq_some_iff.2 ⟨spelling, hs, rfl, hends⟩

end

theorem formula_complete {levels : Nat} {u w v rest : List Char} {f : Formula} (hu : Blanks u)
    (h : ClausesText true levels none w f) (hv : Blanks v) (hr : Rule.Closing rest) :
    (formula levels (u ++ (w ++ (v ++ rest)))).result = .ok (f, rest) := by
  obtain ⟨advances, hformula⟩ := formula_eq levels
  rw [hformula]
  exact clauses_complete hu h hv hr

theorem whole_eq_ok_iff {levels : Nat} {s : List Char} {f : Formula} :
    (whole levels s).result = .ok f ↔ QueryText true levels s f := by
  rw [whole, Logged.result_bind]
  constructor
  · intro h
    split at h
    · cases h
    · next p hp =>
      obtain ⟨g, rest⟩ := p
      obtain ⟨u, w, v, hu, hw, hv, rfl⟩ := formula_sound levels hp
      simp only at h
      split at h
      · next hrest =>
        cases h
        obtain ⟨v', hv', rfl⟩ := exists_blanks_of_skipBlanks hrest
        rw [List.append_nil]
        exact .whole hu hw (hv.append hv')
      · split at h <;> cases h
  · rintro ⟨hu, hf, hv⟩
    have hread := formula_complete hu hf hv (.inl rfl)
    rw [List.append_nil] at hread
    rw [hread]
    rfl

end Demand

/-- The grammar with its tokens kept apart derives at most one formula for a text. -/
theorem Grammar.QueryText.unique {levels : Nat} {text : List Char} {f g : Formula}
    (hf : QueryText true levels text f) (hg : QueryText true levels text g) : f = g := by
  have h := (Demand.whole_eq_ok_iff.2 hf).symm.trans (Demand.whole_eq_ok_iff.2 hg)
  exact Except.ok.inj h

namespace Formula

open Grammar

/-- A text is read as a formula exactly if the formula is derived for it. -/
theorem read_eq_ok_iff {text : List Char} {f : Formula} :
    (read text).result = .ok f ↔ QueryText true Demand.maxGroups text f :=
  Logged.result_mapReason_eq_ok_iff.trans Demand.whole_eq_ok_iff

/-! ### Derived, but not read

Three ways for a text to be derived where tokens may touch and any number of groups may be open, and
not to be read: tokens that touch and are one word, a backslash at the end of a pattern, which takes
the closing slash for its own, and more open groups than are allowed. -/

/-- Whether some formula is derived for the text where tokens may touch and any number of groups may
be open, though the text is not read as any formula. -/
def DerivedNotRead (text : List Char) : Prop :=
  (∃ levels f, QueryText false levels text f) ∧ ∀ f, (read text).result ≠ .ok f

/-- What is read begins with what the rule for formulas takes. -/
theorem exists_formula_of_read {text : List Char} {f : Formula} (h : (read text).result = .ok f) :
    ∃ rest, (Demand.formula Demand.maxGroups text).result = .ok (f, rest) := by
  have hwhole : (Demand.whole Demand.maxGroups text).result = .ok f :=
    Logged.result_mapReason_eq_ok_iff.1 h
  rw [Demand.whole, Logged.result_bind] at hwhole
  split at hwhole
  · cases hwhole
  · next found hfound =>
    obtain ⟨g, rest⟩ := found
    simp only at hwhole
    split at hwhole
    · cases hwhole
      exact ⟨rest, hfound⟩
    · split at hwhole <;> cases hwhole

/-- Nothing is read where no comparison has a right side. -/
theorem read_ne_ok {text r s : List Char} {left : Operand} {op : Operator}
    (hneg : Demand.negation (skipBlanks text) = (false, text)) (hopen : text.head? ≠ some '(')
    (hleft : (Rule.operand text).result = .ok (some (left, r)))
    (hop : Rule.operator? r = some (op, s))
    (hright : ∀ found, (Rule.rightOperand op s).result ≠ .ok (some found)) (f : Formula) :
    (read text).result ≠ .ok f := by
  intro hread
  obtain ⟨rest, hread⟩ := exists_formula_of_read hread
  obtain ⟨_, hformula⟩ := Demand.formula_eq Demand.maxGroups
  rw [hformula] at hread
  obtain ⟨c, t, hc, _⟩ := Demand.clauses_eq_ok_iff.1 hread
  rcases (Demand.clause_eq_ok_iff hneg).1 hc with ⟨_, _, _, rfl, _⟩ | ⟨_, p, hp, _⟩
  · exact hopen rfl
  · have hpredicate := (Demand.fittingPredicate_eq_ok_iff.1 hp).1
    rcases Rule.predicate_eq_some_iff.1 hpredicate with
      ⟨_, hleft', hnone, _⟩ | ⟨_, _, _, _, right, hleft', hop', hright', _⟩
    · cases hleft.symm.trans hleft'
      rw [hop] at hnone
      cases hnone
    · cases hleft.symm.trans hleft'
      cases hop.symm.trans hop'
      exact hright _ hright'

/-- A formula in `n` groups. -/
def nest (f : Formula) : (n : Nat) → Formula
  | 0 => f
  | n + 1 => [.group none false (nest f n)]

/-- A text in `n` pairs of parentheses. -/
def parenthesise (n : Nat) (w : List Char) : List Char :=
  List.replicate n '(' ++ (w ++ List.replicate n ')')

theorem clausesText_nest {apart : Bool} {w : List Char} {f : Formula}
    (h : ClausesText apart 0 none w f) (n : Nat) :
    ClausesText apart n none (parenthesise n w) (nest f n) := by
  induction n with
  | zero => simpa [parenthesise, nest] using h
  | succ n ih =>
    have hgroup : ClauseText apart (n + 1) none _ (.group none false (nest f n)) :=
      .group .absent blanks_nil ih blanks_nil
    have htext : parenthesise (n + 1) w =
        [] ++ '(' :: ([] ++ (parenthesise n w ++ ([] ++ [')']))) := by
      rw [parenthesise, List.replicate_succ' (a := ')'), List.replicate_succ]
      simp [parenthesise]
    rw [htext]
    exact .last hgroup

/-- No formula is read after more parentheses than groups may be open. -/
theorem formula_ne_ok_of_opens (levels : Nat) (s : List Char) (found : Formula × List Char) :
    (Demand.formula levels (List.replicate (levels + 1) '(' ++ s)).result ≠ .ok found := by
  intro h
  obtain ⟨f, rest⟩ := found
  obtain ⟨_, hformula⟩ := Demand.formula_eq levels
  rw [hformula] at h
  obtain ⟨c, r, hc, _⟩ := Demand.clauses_eq_ok_iff.1 h
  have hneg : Demand.negation (skipBlanks (List.replicate (levels + 1) '(' ++ s)) =
      (false, '(' :: (List.replicate levels '(' ++ s)) := by
    rfl
  -- The first parenthesis opens a group, for which either no level is left or one less.
  rcases (Demand.clause_eq_ok_iff hneg).1 hc with
    ⟨t, rule, body, ht, hinner, hclosed, _⟩ | ⟨hhead, _⟩
  · cases levels with
    | zero => cases hinner
    | succ levels =>
      cases hinner
      cases ht
      obtain ⟨_, hbody, _⟩ := Demand.closed_eq_ok_iff.1 hclosed
      exact formula_ne_ok_of_opens levels s _ hbody
  · exact hhead rfl

/-- A number and a connective that touch are one word. -/
theorem touching_derivedNotRead : DerivedNotRead "@.a == 1or @.b".toList := by
  have ha : PathText "@.a".toList _ := .segments (List.cons_ne_nil ['a'] []) (by decide)
  have hb : PathText "@.b".toList _ := .segments (List.cons_ne_nil ['b'] []) (by decide)
  have hone : NumberText (minus false ++ ['1']) _ := .integer (by decide)
  constructor
  · have hcompare : PredicateText false _ (.compare _ .equal _) :=
      .spaced (.path ha) (.operand (.element (.number hone))) rfl
    have hor : ("or", Connective.or) ∈ Connective.spellings := by decide
    have hclauses : ClausesText false 0 none _ _ := .cons (u := []) (v := [' '])
      (.test .absent hcompare) blanks_nil (fun h => by cases h) hor (by decide) (by decide)
      (.last (.test .absent (.lone hb)))
    exact ⟨0, _, .whole blanks_nil hclauses blanks_nil⟩
  · have hleft : (Rule.operand "@.a == 1or @.b".toList).result =
        .ok (some (_, " == 1or @.b".toList)) := Rule.operand_complete (.path ha) fun _ => rfl
    have hop : Rule.operator? " == 1or @.b".toList = some (.equal, " 1or @.b".toList) := by decide
    have hright : (Rule.rightOperand .equal " 1or @.b".toList).result = .ok none := rfl
    refine read_ne_ok rfl (by decide) hleft hop fun found h => ?_
    rw [hright] at h
    cases h

/-- The backslash before the closing slash makes that slash part of the pattern. -/
theorem backslash_derivedNotRead : DerivedNotRead "@.a =~ /a\\\\/".toList := by
  have ha : PathText "@.a".toList _ := .segments (List.cons_ne_nil ['a'] []) (by decide)
  constructor
  · obtain ⟨program, hcompile⟩ : ∃ program, Pattern.compile "a\\\\" "" = .ok program := ⟨_, rfl⟩
    have hsource : Pattern.ofSource "a\\\\" "" = .ok ⟨_, _, program, hcompile⟩ :=
      Pattern.ofSource_eq_ok_iff.2 ⟨rfl, rfl⟩
    have hbody : SlashesEscaped ['a', '\\', '\\'] :=
      slashesEscaped_cons (by decide) (slashesEscaped_cons (by decide)
        (slashesEscaped_cons (by decide) slashesEscaped_nil))
    have hregex : RegexText false ('/' :: (['a', '\\', '\\'] ++ ['/'])) _ :=
      .slashed (by decide) hbody (fun h => by cases h) hsource
    have hcompare : PredicateText false _ (.compare _ .matchesRegex _) :=
      .spaced (.path ha) (.regex hregex) rfl
    exact ⟨0, _, .whole blanks_nil (.last (.test .absent hcompare)) blanks_nil⟩
  · have hleft : (Rule.operand "@.a =~ /a\\\\/".toList).result =
        .ok (some (_, " =~ /a\\\\/".toList)) := Rule.operand_complete (.path ha) fun _ => rfl
    have hop : Rule.operator? " =~ /a\\\\/".toList = some (.matchesRegex, " /a\\\\/".toList) := by
      decide
    obtain ⟨failure, hright⟩ : ∃ failure,
        (Rule.rightOperand .matchesRegex " /a\\\\/".toList).result = .error failure := ⟨_, rfl⟩
    refine read_ne_ok rfl (by decide) hleft hop fun found h => ?_
    rw [hright] at h
    cases h

/-- One group more than may be open. -/
theorem nested_derivedNotRead :
    DerivedNotRead (parenthesise (Demand.maxGroups + 1) "@.a".toList) := by
  have ha : PathText "@.a".toList _ := .segments (List.cons_ne_nil ['a'] []) (by decide)
  constructor
  · have hpath : ClausesText false 0 none "@.a".toList _ := .last (.test .absent (.lone ha))
    have hnested := clausesText_nest hpath (Demand.maxGroups + 1)
    have hquery := QueryText.whole blanks_nil hnested blanks_nil
    rw [List.append_nil] at hquery
    exact ⟨_, _, hquery⟩
  · intro f hread
    obtain ⟨rest, hread⟩ := exists_formula_of_read hread
    exact formula_ne_ok_of_opens Demand.maxGroups _ _ hread

/-- Each way to be derived and not read occurs. -/
theorem derivedNotRead_occurs :
    DerivedNotRead "@.a == 1or @.b".toList ∧ DerivedNotRead "@.a =~ /a\\\\/".toList ∧
      DerivedNotRead (parenthesise (Demand.maxGroups + 1) "@.a".toList) :=
  ⟨touching_derivedNotRead, backslash_derivedNotRead, nested_derivedNotRead⟩

end Formula
end DocFilter
