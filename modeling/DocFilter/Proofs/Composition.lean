import DocFilter.Proofs.Logged
import DocFilter.Proofs.Rendering

/-!
# Queries put together as texts

Texts that are queries can be put into parentheses and joined by a connective, or negated, without a
look at what they say: the outcome is a query, and its verdict is that of its parts joined or
negated.  What a text denotes does not depend on how many groups may be open around it, as long as
its own are few enough.
-/

namespace DocFilter

/-! ### Nesting -/

namespace Clause

mutual

/-- How many groups are open at once in the clause. -/
def depth : Clause → Nat
  | test _ _ _ => 0
  | group _ _ body => depthBody body + 1
termination_by structural c => c

/-- How many groups are open at once in the clauses. -/
def depthBody : List Clause → Nat
  | [] => 0
  | c :: cs => max (depth c) (depthBody cs)
termination_by structural cs => cs

end

end Clause

/-- How many groups are open at once in the formula. -/
def Formula.depth (f : Formula) : Nat := Clause.depthBody f

namespace Grammar

mutual

/-- A clause can stand wherever its own groups may be opened. -/
theorem ClauseText.of_depth_le {apart : Bool} {levels n : Nat} {link : Option Connective}
    {w : List Char} {c : Clause} (h : ClauseText apart levels link w c) (hn : c.depth ≤ n) :
    ClauseText apart n link w c := by
  cases h with
  | test hb hp => exact .test hb hp
  | group hb hu hbody hv =>
    cases n with
    | zero => exact absurd hn (Nat.not_succ_le_zero _)
    | succ n => exact .group hb hu (hbody.of_depth_le (Nat.le_of_succ_le_succ hn)) hv

theorem ClausesText.of_depth_le {apart : Bool} {levels n : Nat} {link : Option Connective}
    {w : List Char} {f : Formula} (h : ClausesText apart levels link w f)
    (hn : Clause.depthBody f ≤ n) : ClausesText apart n link w f := by
  cases h with
  | last hc => exact .last (hc.of_depth_le ((Nat.le_max_left _ _).trans hn))
  | cons hc hu hapart hs hv hne hcs =>
    exact .cons (hc.of_depth_le ((Nat.le_max_left _ _).trans hn)) hu hapart hs hv hne
      (hcs.of_depth_le ((Nat.le_max_right _ _).trans hn))

end

/-! ### Texts in parentheses -/

/-- A text in parentheses. -/
def inGroup (t : List Char) : List Char := '(' :: (t ++ [')'])

/-- Two texts in parentheses with a connective between them. -/
def joinedText (link : Connective) (t u : List Char) : List Char :=
  inGroup t ++ ' ' :: (link.word.toList ++ ' ' :: inGroup u)

/-- A text in parentheses under a `!`. -/
def negatedText (t : List Char) : List Char := '!' :: inGroup t

/-- A whole text, blanks around it included, can be put into a group. -/
theorem QueryText.inGroup {apart : Bool} {levels n : Nat} {t : List Char} {f : Formula}
    (h : QueryText apart levels t f) (hn : f.depth ≤ n) {b : List Char} {negated : Bool}
    (hb : BangText b negated) (link : Option Connective) :
    ClauseText apart (n + 1) link (b ++ inGroup t) (.group link negated f) := by
  obtain ⟨hu, hf, hv⟩ := h
  have hgroup : ClauseText apart (n + 1) link _ (.group link negated f) :=
    .group hb hu (hf.of_depth_le hn) hv
  simpa [Grammar.inGroup] using hgroup

theorem QueryText.joined {apart : Bool} {levels n : Nat} {t u : List Char} {f g : Formula}
    (hf : QueryText apart levels t f) (hg : QueryText apart levels u g) (hfn : f.depth ≤ n)
    (hgn : g.depth ≤ n) (link : Connective) :
    QueryText apart (n + 1) (joinedText link t u)
      [.group none false f, .group (some link) false g] := by
  have hfirst := hf.inGroup hfn .absent none
  have hsecond := hg.inGroup hgn .absent (some link)
  have hclauses := ClausesText.spaced hfirst (word_mem_spellings link) (.last hsecond)
  have hquery := QueryText.whole blanks_nil hclauses blanks_nil
  rwa [List.append_nil] at hquery

theorem QueryText.negated {apart : Bool} {levels n : Nat} {t : List Char} {f : Formula}
    (hf : QueryText apart levels t f) (hfn : f.depth ≤ n) :
    QueryText apart (n + 1) (negatedText t) [.group none true f] := by
  have hgroup := hf.inGroup hfn (.present blanks_nil) none
  have hquery := QueryText.whole blanks_nil (.last hgroup) blanks_nil
  rwa [List.append_nil] at hquery

end Grammar

/-! ### Verdicts -/

namespace Matching

/-- The verdict of two formulas joined by a connective: the second one counts unless the first one
fails, or is false before an `and`. -/
def joinedVerdict (link : Connective) : (x y : Except MatchFault Bool) → Except MatchFault Bool
  | .error fault, _ => .error fault
  | .ok v, y =>
    match link with
    | .and => if v then y else .ok false
    | .or => y.map (v || ·)

/-- The verdict of a negated formula, by options that may ignore the negation. -/
def negatedVerdict (options : MatchOptions) : Except MatchFault Bool → Except MatchFault Bool
  | .error fault => .error fault
  | .ok v => .ok (if options.applyNegation then !v else v)

variable {options : MatchOptions} {document : Json}

theorem result_clauseVerdict_group (link : Option Connective) (negated : Bool) (f : Formula) :
    (clauseVerdict options document (.group link negated f)).result =
      (evaluate options document f).result.map (applyNegation options negated) := by
  rw [clauseVerdict, Logged.result_map]

theorem result_evaluateMore_group (link : Connective) (g : Formula) (v : Bool) :
    (evaluateMore options document [.group (some link) false g] v).result =
      joinedVerdict link (.ok v) (evaluate options document g).result := by
  have hlooked : (clauseVerdict options document (.group (some link) false g) >>= fun w =>
      evaluateMore options document [] (join (some link) v w)).result =
      (evaluate options document g).result.map (join (some link) v) := by
    rw [Logged.result_bind, result_clauseVerdict_group]
    cases (evaluate options document g).result <;> rfl
  cases link with
  | or =>
    rw [evaluateMore]
    refine hlooked.trans ?_
    cases (evaluate options document g).result <;> rfl
  | and =>
    cases v with
    | false => rfl
    | true =>
      rw [evaluateMore]
      refine hlooked.trans ?_
      cases (evaluate options document g).result <;> rfl

theorem result_evaluate_joined (link : Connective) (f g : Formula) :
    (evaluate options document [.group none false f, .group (some link) false g]).result =
      joinedVerdict link (evaluate options document f).result
        (evaluate options document g).result := by
  rw [evaluate, Logged.result_bind, result_clauseVerdict_group]
  cases (evaluate options document f).result with
  | error fault => cases link <;> rfl
  | ok v => exact result_evaluateMore_group link g v

theorem result_evaluate_negated (f : Formula) :
    (evaluate options document [.group none true f]).result =
      negatedVerdict options (evaluate options document f).result := by
  rw [evaluate, Logged.result_bind, result_clauseVerdict_group]
  cases (evaluate options document f).result with
  | error fault => rfl
  | ok v => rfl

end Matching

namespace Query

open Grammar Matching

/-- Two queries with a group less than may be open can be joined and negated as texts.  The verdict
of the joined texts is that of the first one if it fails or decides, and else both count; that of
the negated text is the opposite one, if negation is applied at all. -/
theorem compile_joined_negated {t u : List Char} {p q : Query} (ht : (compile t).result = .ok p)
    (hu : (compile u).result = .ok q) (hp : p.formula.depth < Demand.maxGroups)
    (hq : q.formula.depth < Demand.maxGroups) :
    (∀ link, ∃ r, (compile (joinedText link t u)).result = .ok r ∧ ∀ options document,
        ((r.withOptions options).run document).result =
          joinedVerdict link ((p.withOptions options).run document).result
            ((q.withOptions options).run document).result) ∧
      ∃ r, (compile (negatedText t)).result = .ok r ∧ ∀ options document,
        ((r.withOptions options).run document).result =
          negatedVerdict options ((p.withOptions options).run document).result := by
  obtain ⟨hf, _⟩ := compile_eq_ok_iff.1 ht
  obtain ⟨hg, _⟩ := compile_eq_ok_iff.1 hu
  have hfn := Nat.le_of_lt_succ hp
  have hgn := Nat.le_of_lt_succ hq
  constructor
  · intro link
    exact ⟨⟨_, .standard⟩, compile_eq_ok_iff.2 ⟨hf.joined hg hfn hgn link, rfl⟩,
      fun _ _ => result_evaluate_joined link p.formula q.formula⟩
  · exact ⟨⟨_, .standard⟩, compile_eq_ok_iff.2 ⟨hf.negated hfn, rfl⟩,
      fun _ _ => result_evaluate_negated p.formula⟩

/-- A number before the closing parenthesis, and a group in a group. -/
theorem compile_joined_negated_of_number :
    ∃ p q, (compile "@.a == 1".toList).result = .ok p ∧ (compile "!( @.b)".toList).result = .ok q ∧
      p.formula.depth < Demand.maxGroups ∧ q.formula.depth < Demand.maxGroups ∧
      ∃ r, (compile "(@.a == 1) and (!( @.b))".toList).result = .ok r ∧ ∀ options document,
        ((r.withOptions options).run document).result =
          joinedVerdict .and ((p.withOptions options).run document).result
            ((q.withOptions options).run document).result := by
  have ha : PathText "@.a".toList _ := .segments (List.cons_ne_nil ['a'] []) (by decide)
  have hb : PathText "@.b".toList _ := .segments (List.cons_ne_nil ['b'] []) (by decide)
  have hone : NumberText (minus false ++ ['1']) _ := .integer (by decide)
  have hequal : PredicateText true _ (.compare _ .equal _) :=
    .spaced (.path ha) (.operand (.element (.number hone))) rfl
  have hbody : ClausesText true 63 none _ _ := .last (.test .absent (.lone hb))
  have hgroup : ClauseText true Demand.maxGroups none _ _ := .group (u := [' ']) (v := [])
    (.present blanks_nil) (by decide) hbody blanks_nil
  have hclauses : ClausesText true Demand.maxGroups none _ _ := .last (.test .absent hequal)
  have ht := compile_eq_ok_iff (q := ⟨_, .standard⟩).2
    ⟨.whole blanks_nil hclauses blanks_nil, rfl⟩
  have hu := compile_eq_ok_iff (q := ⟨_, .standard⟩).2
    ⟨.whole blanks_nil (.last hgroup) blanks_nil, rfl⟩
  exact ⟨_, _, ht, hu, by decide, by decide,
    (compile_joined_negated ht hu (by decide) (by decide)).1 .and⟩

end Query

end DocFilter
