import DocFilter.Proofs.Equality
import DocFilter.Proofs.Reading.Formula
import DocFilter.Query

/-!
# A query can be read back from its rendering

A formula is *writable* if all its parts can be written: keys of paths that do not end early,
strings that leave a quote free, patterns that leave the closing slash alone, connectives where there
is something to join, and no more groups open than allowed.  What a text denotes is writable, and a
writable formula is denoted by its rendering.  So a query that was read once is read again from its
rendering, unchanged.
-/

namespace DocFilter

/-! ### What can be written -/

namespace Path

/-- Whether there is a key and the keys can be told apart in a query. -/
def Writable (p : Path) : Prop :=
  p.segments ≠ [] ∧ ∀ segment ∈ p.segments, Grammar.IsSegment segment.toList

end Path

namespace Operand

/-- Whether a list may hold the operand: a string that leaves a quote free, a number or null. -/
def WritableElement : Operand → Prop
  | string s => '\'' ∉ s.toList ∨ '"' ∉ s.toList
  | number _ | null => True
  | _ => False

/-- Whether the operand can be written. -/
def Writable : Operand → Prop
  | path p => p.Writable
  | list xs => ∀ x ∈ xs, x.WritableElement
  | regex p => p.source.toList.getLast? ≠ some '\\'
  | x => x.WritableElement

end Operand

/-- Whether the predicate can be written: its sides can, there is a right one exactly if there is an
operator, and they fit it. -/
structure Predicate.Writable (p : Predicate) : Prop where
  left : p.left.Writable
  right : ∀ x ∈ p.right, x.Writable
  complete : p.operator.isSome = p.right.isSome
  fits : p.validate = .ok ()

namespace Clause

mutual

/-- Whether the clause can be written where `levels` groups may still be opened. -/
def Writable : (levels : Nat) → Clause → Prop
  | _, test _ _ p => p.Writable
  | 0, group _ _ _ => False
  | levels + 1, group _ _ body => WritableBody levels body
termination_by structural _ c => c

/-- Whether the clauses can be written as a formula: there is a first one, without a connective. -/
def WritableBody : (levels : Nat) → List Clause → Prop
  | _, [] => False
  | levels, c :: cs => c.link = none ∧ Writable levels c ∧ WritableMore levels cs
termination_by structural _ cs => cs

/-- Whether the clauses can be written after another one: each has a connective. -/
def WritableMore : (levels : Nat) → List Clause → Prop
  | _, [] => True
  | levels, c :: cs => c.link.isSome ∧ Writable levels c ∧ WritableMore levels cs
termination_by structural _ cs => cs

end

end Clause

/-- Whether the formula can be written with at most `levels` groups open at once. -/
def Formula.Writable (levels : Nat) (f : Formula) : Prop := Clause.WritableBody levels f

namespace Grammar

/-! ### What a text denotes is writable -/

theorem PathText.writable {w : List Char} {p : Path} (h : PathText w p) : p.Writable := by
  obtain ⟨hne, hn⟩ := h
  refine ⟨by simpa using hne, ?_⟩
  intro segment hsegment
  obtain ⟨name, hname, rfl⟩ := List.mem_map.1 hsegment
  rw [String.toList_ofList]
  exact hn name hname

theorem ElementText.writableElement {w : List Char} {x : Operand} (h : ElementText w x) :
    x.WritableElement := by
  cases h with
  | string h =>
    obtain ⟨rfl | rfl, hw⟩ := h
    · exact .inl (by rwa [String.toList_ofList])
    · exact .inr (by rwa [String.toList_ofList])
  | number h => trivial
  | null => trivial

theorem ElementsText.writableElement {w : List Char} {xs : List Operand} (h : ElementsText w xs) :
    ∀ x ∈ xs, x.WritableElement := by
  induction h with
  | last _ hx _ => simpa using hx.writableElement
  | cons _ hx _ _ ih => exact List.forall_mem_cons.2 ⟨hx.writableElement, ih⟩

theorem OperandText.writable {w : List Char} {x : Operand} (h : OperandText w x) : x.Writable := by
  cases h with
  | path h => exact h.writable
  | list h =>
    cases h with
    | empty => exact fun x hx => absurd hx List.not_mem_nil
    | elements h => exact h.writableElement
  | element h =>
    have hx := h.writableElement
    cases h <;> exact hx

theorem RightText.writable {w : List Char} {x : Operand} (h : RightText true w x) :
    x.Writable := by
  cases h with
  | operand h => exact h.writable
  | regex h => exact h.getLast?_source

theorem PredicateText.writable {w : List Char} {p : Predicate} (h : PredicateText true w p) :
    p.Writable := by
  have hfits := h.validate
  cases h with
  | lone h => exact ⟨h.writable, by simp [Predicate.exists?], rfl, hfits⟩
  | compare hl _ _ _ _ hr _ =>
    exact ⟨hl.writable, by simpa [Predicate.compare] using hr.writable, rfl, hfits⟩

mutual

theorem ClauseText.writable {levels : Nat} {link : Option Connective} {w : List Char} {c : Clause}
    (h : ClauseText true levels link w c) : c.link = link ∧ c.Writable levels := by
  cases h with
  | test _ hp => exact ⟨rfl, hp.writable⟩
  | group _ _ hbody _ =>
    obtain ⟨c, cs, rfl, hlink, hc, hcs⟩ := hbody.writable
    exact ⟨rfl, hlink, hc, hcs⟩

theorem ClausesText.writable {levels : Nat} {link : Option Connective} {w : List Char} {f : Formula}
    (h : ClausesText true levels link w f) :
    ∃ c cs, f = c :: cs ∧ c.link = link ∧ c.Writable levels ∧ Clause.WritableMore levels cs := by
  cases h with
  | last hc => exact ⟨_, [], rfl, hc.writable.1, hc.writable.2, trivial⟩
  | cons hc _ _ _ _ _ hcs =>
    obtain ⟨d, ds, rfl, hlink, hd, hds⟩ := hcs.writable
    exact ⟨_, d :: ds, rfl, hc.writable.1, hc.writable.2, by rw [hlink]; rfl, hd, hds⟩

end

theorem QueryText.writable {levels : Nat} {text : List Char} {f : Formula}
    (h : QueryText true levels text f) : f.Writable levels := by
  obtain ⟨_, hf, _⟩ := h
  obtain ⟨c, cs, rfl, hc⟩ := hf.writable
  exact hc

/-! ### What is writable is denoted by its rendering -/

theorem pathText_render {p : Path} (h : p.Writable) : PathText p.render p := by
  obtain ⟨segments⟩ := p
  obtain ⟨hne, hn⟩ := h
  have hnames : segments.map String.toList ≠ [] := by simpa using hne
  have hpath := PathText.segments hnames (by simpa using hn)
  simpa [Path.render, List.flatMap_map, Function.comp_def] using hpath

theorem stringText_render {s : String} (h : '\'' ∉ s.toList ∨ '"' ∉ s.toList) :
    StringText (Operand.string s).render s := by
  have hquote : Operand.quoteFor s.toList ∉ s.toList := by
    unfold Operand.quoteFor
    split
    -- A string that holds the first quote leaves the other one free.
    · next hmem => exact h.resolve_left fun hno => hno (List.contains_iff_mem.1 hmem)
    · next hno => exact fun hmem => hno (List.contains_iff_mem.2 hmem)
  have heither : Operand.quoteFor s.toList = '\'' ∨ Operand.quoteFor s.toList = '"' := by
    unfold Operand.quoteFor
    split
    · exact .inr rfl
    · exact .inl rfl
  have hstring := StringText.quoted heither hquote
  rwa [String.ofList_toList] at hstring

theorem elementText_render {x : Operand} (h : x.WritableElement) : ElementText x.render x := by
  cases x with
  | string s => exact .string (stringText_render h)
  | number d => exact .number d.numberText_plain
  | null => exact .null
  | path p => cases h
  | list xs => cases h
  | regex p => cases h

/-- The elements of a list after blanks, as the comma before them asks for one. -/
theorem elementsText_renderItems {u : List Char} (hu : Blanks u) (x : Operand) (xs : List Operand)
    (h : ∀ y ∈ x :: xs, y.WritableElement) :
    ElementsText (u ++ Operand.renderItems (x :: xs)) (x :: xs) := by
  induction xs generalizing u x with
  | nil =>
    have hlast := ElementsText.last hu (elementText_render (h x List.mem_cons_self)) blanks_nil
    rwa [List.append_nil] at hlast
  | cons y ys ih =>
    obtain ⟨hx, hys⟩ := List.forall_mem_cons.1 h
    exact .cons hu (elementText_render hx) blanks_nil (ih (u := [' ']) (by decide) y hys)

theorem listText_render {xs : List Operand} (h : ∀ x ∈ xs, x.WritableElement) :
    ListText (Operand.list xs).render xs := by
  cases xs with
  | nil => exact .empty blanks_nil
  | cons x xs => exact .elements (elementsText_renderItems blanks_nil x xs h)

theorem operandText_render {x : Operand} (h : x.Writable) (hregex : x.isRegex = false) :
    OperandText x.render x := by
  cases x with
  | path p => exact .path (pathText_render h)
  | list xs => exact .list (listText_render h)
  | regex p => cases hregex
  | string s => exact .element (elementText_render h)
  | number d => exact .element (elementText_render h)
  | null => exact .element (elementText_render h)

theorem rightText_render {x : Operand} (h : x.Writable) : RightText true x.render x := by
  cases hregex : x.isRegex with
  | false => exact .operand (operandText_render h hregex)
  | true =>
    cases x with
    | regex p => exact .regex (regexText_render h)
    | _ => cases hregex

theorem predicateText_render {p : Predicate} (h : p.Writable) : PredicateText true p.render p := by
  obtain ⟨left, operator, right⟩ := p
  obtain ⟨hleft, hright, hcomplete, hfits⟩ := h
  match operator, right, hcomplete with
  | none, none, _ =>
    obtain ⟨path, rfl⟩ := Predicate.validate_lone_iff.1 hfits
    have hlone : PredicateText true path.render ⟨.path path, none, none⟩ :=
      .lone (pathText_render hleft)
    simpa [Predicate.render, Predicate.renderOperator, Predicate.renderRight, Operand.render]
      using hlone
  | some op, some x, _ =>
    have hregex := Predicate.left_isRegex_of_operandsFit (Predicate.validate_compare_iff.1 hfits)
    have hcompare : PredicateText true _ ⟨left, some op, some x⟩ :=
      .spaced (operandText_render hleft hregex) (rightText_render (hright x rfl)) hfits
    simpa [Predicate.render, Predicate.renderOperator, Predicate.renderRight] using hcompare

theorem bangText_render (negated : Bool) : BangText (Clause.renderNegation negated) negated := by
  cases negated with
  | false => exact .absent
  | true => exact .present blanks_nil

theorem word_mem_spellings (next : Connective) : (next.word, next) ∈ Connective.spellings := by
  cases next <;> decide

mutual

theorem clauseText_render {levels : Nat} (c : Clause) (h : c.Writable levels) :
    ClauseText true levels c.link c.render c := by
  cases c with
  | test link negated p =>
    rw [Clause.render]
    exact .test (bangText_render negated) (predicateText_render h)
  | group link negated body =>
    cases levels with
    | zero => cases h
    | succ levels =>
      cases body with
      | nil => cases h
      | cons c cs =>
        obtain ⟨hlink, hc, hcs⟩ := h
        have hbody := clausesText_render cs (clauseText_render c hc) hcs
        rw [hlink] at hbody
        have hgroup : ClauseText true (levels + 1) link _ (.group link negated (c :: cs)) :=
          .group (bangText_render negated) blanks_nil hbody blanks_nil
        simpa [Clause.render, Clause.renderBody, Clause.link] using hgroup

theorem clausesText_render {levels : Nat} {link : Option Connective} {w : List Char} {c : Clause}
    (cs : List Clause) (hc : ClauseText true levels link w c)
    (hcs : Clause.WritableMore levels cs) :
    ClausesText true levels link (w ++ Clause.renderMore cs) (c :: cs) := by
  cases cs with
  | nil =>
    rw [Clause.renderMore, List.append_nil]
    exact .last hc
  | cons d ds =>
    obtain ⟨hlink, hd, hds⟩ := hcs
    -- The connective is written as its word, which is one of its spellings.
    obtain ⟨next, hnext⟩ := Option.isSome_iff_exists.1 hlink
    have hmore := clausesText_render ds (clauseText_render d hd) hds
    rw [hnext] at hmore
    have hclauses := ClausesText.spaced hc (word_mem_spellings next) hmore
    simpa [Clause.renderMore, Clause.renderLink, hnext] using hclauses

end

/-- A writable formula is denoted by its rendering. -/
theorem queryText_render {levels : Nat} {f : Formula} (h : f.Writable levels) :
    QueryText true levels f.render f := by
  cases f with
  | nil => cases h
  | cons c cs =>
    obtain ⟨hlink, hc, hcs⟩ := h
    have hf := clausesText_render cs (clauseText_render c hc) hcs
    rw [hlink] at hf
    have hquery := QueryText.whole blanks_nil hf blanks_nil
    rwa [List.append_nil] at hquery

end Grammar

namespace Query

open Grammar

/-! ### The round trip -/

theorem compile_eq_ok_iff {text : List Char} {q : Query} :
    (compile text).result = .ok q ↔
      QueryText true Demand.maxGroups text q.formula ∧ q.options = .standard := by
  have hread : (Formula.read text).result = .ok q.formula ↔
      QueryText true Demand.maxGroups text q.formula :=
    Logged.result_mapReason_eq_ok_iff.trans Demand.whole_eq_ok_iff
  rw [← hread]
  show ((Formula.read text).result.map fun f => (⟨f, .standard⟩ : Query)) = .ok q ↔ _
  obtain ⟨f, options⟩ := q
  cases (Formula.read text).result with
  | error e => simp [Except.map]
  | ok g => simp [Except.map, eq_comm]

/-- A query that was read is read again from its rendering, unchanged. -/
theorem compile_render_eq {text : List Char} {q : Query} (h : (compile text).result = .ok q) :
    (compile q.render).result = .ok q := by
  obtain ⟨hderived, hoptions⟩ := compile_eq_ok_iff.1 h
  exact compile_eq_ok_iff.2 ⟨queryText_render hderived.writable, hoptions⟩

/-- Reading the rendering of a query that was read gives an equal query, with the same rendering and
the same verdict on every document by all options. -/
theorem compile_render {text : List Char} {q : Query} (h : (compile text).result = .ok q) :
    ∃ q', (compile q.render).result = .ok q' ∧ q'.formula.equiv q.formula = true ∧
      q'.render = q.render ∧
      ∀ options document,
        (q'.withOptions options).run document = (q.withOptions options).run document :=
  ⟨q, compile_render_eq h, Clause.equivBody_refl q.formula, rfl, fun _ _ => rfl⟩

/-- The rendering puts one blank between words, writes `or` and `and`, drops a superfluous zero and
keeps the quotes and the escaped slash. -/
theorem compile_render_of_group :
    ∃ q, (compile
        "!( @.a =~ /x\\/y/s || \"it's\"in @.b.c )&& @.n in [-07.50 ,null]".toList).result = .ok q ∧
      q.render = "!(@.a =~ /x\\/y/s or \"it's\" in @.b.c) and @.n in [-7.50, null]".toList ∧
      ∃ q', (compile q.render).result = .ok q' ∧ q'.formula.equiv q.formula = true ∧
        q'.render = q.render ∧ ∀ options document,
          (q'.withOptions options).run document = (q.withOptions options).run document := by
  have ha : PathText "@.a".toList _ := .segments (List.cons_ne_nil ['a'] []) (by decide)
  have hbc : PathText "@.b.c".toList _ := .segments (List.cons_ne_nil ['b'] [['c']]) (by decide)
  have hn : PathText "@.n".toList _ := .segments (List.cons_ne_nil ['n'] []) (by decide)
  obtain ⟨program, hcompile⟩ : ∃ program, Pattern.compile "x/y" "s" = .ok program := ⟨_, rfl⟩
  have hpattern : Pattern.ofSource "x/y" "s" = .ok ⟨_, _, program, hcompile⟩ :=
    Pattern.ofSource_eq_ok_iff.2 ⟨rfl, rfl⟩
  have hregex : RegexText true ('/' :: (escape "x/y".toList ++ '/' :: ['s'])) _ :=
    .slashed (by decide) (slashesEscaped_escape _) (by decide) hpattern
  have hits : StringText ('"' :: ("it's".toList ++ ['"'])) _ := .quoted (.inr rfl) (by decide)
  have hnumber : NumberText (minus true ++ ("07".toList ++ '.' :: "50".toList)) _ :=
    .fraction (by decide) (by decide)
  have hlist : ListText _ _ := .elements (.cons (v := [' ']) blanks_nil (.number hnumber)
    (by decide) (.last blanks_nil .null blanks_nil))
  have hor : ("||", Connective.or) ∈ Connective.spellings := by decide
  have hand : ("&&", Connective.and) ∈ Connective.spellings := by decide
  have hmatches : PredicateText true _ (.compare _ .matchesRegex _) :=
    .spaced (.path ha) (.regex hregex) rfl
  have hmember : PredicateText true _ (.compare _ .isIn _) := .compare (u := []) (v := [' '])
    (.element (.string hits)) (by decide) (fun _ h => by cases h) (by decide) (by decide)
    (.operand (.path hbc)) rfl
  have hlisted : PredicateText true _ (.compare _ .isIn _) :=
    .spaced (.path hn) (.operand (.list hlist)) rfl
  have hbody : ClausesText true 63 none _ _ :=
    .spaced (.test .absent hmatches) hor (.last (.test .absent hmember))
  have hgroup : ClauseText true 64 none _ _ := .group (u := [' ']) (v := [' '])
    (.present blanks_nil) (by decide) hbody (by decide)
  have hclauses : ClausesText true 64 none _ _ := .cons (u := []) (v := [' ']) hgroup (by decide)
    (fun _ h => by cases h) hand (by decide) (by decide) (.last (.test .absent hlisted))
  have hread := compile_eq_ok_iff (q := ⟨_, .standard⟩).2
    ⟨.whole blanks_nil hclauses blanks_nil, rfl⟩
  have hescaped : Pattern.render ⟨"x/y", "s", program, hcompile⟩ = "/x\\/y/s".toList := by
    show '/' :: (escape "x/y".toList ++ '/' :: "s".toList) = _
    decide
  refine ⟨_, hread, ?_, compile_render hread⟩
  simp only [Query.render, Formula.render, Clause.renderBody, Clause.render, Clause.renderMore,
    Predicate.render, Predicate.compare, Predicate.renderRight, Operand.render, hescaped]
  decide

end Query
end DocFilter
