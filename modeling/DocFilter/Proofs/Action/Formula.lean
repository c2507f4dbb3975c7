import DocFilter.Proofs.Action.Operand
import DocFilter.Proofs.Reading.Again

/-!
# Formulas read with a cursor

Predicates, clauses and formulas as actions of a reader.  A clause remembers its start, which is
where a group too deep is reported, and the right side of a predicate remembers its own.  Nothing
that is read depends on what is remembered when it begins, so these actions do what the demands of
their names say, but for the position the reader remembers afterwards.
-/

namespace DocFilter

namespace Action

variable {α β : Type} {r r' : Reader} {s : List Char}

/-! ### Words -/

/-- The first of the words that comes next, as a word of its own. -/
def firstWord : List (String × α) → Action (Option α)
  | [] => pure none
  | (word, a) :: words => do
    if ← readWord word.toList [')'] then pure (some a) else firstWord words

/-- The operator that comes next after any blanks. -/
def operator : Action (Option Operator) := do
  let mark ← position
  skipBlanks
  match ← firstWord (Operator.all.map fun op => (op.token, op)) with
  | some op => pure (some op)
  | none => nothing mark

/-- The connective that comes next after any blanks.  The blanks are taken also where there is
none. -/
def connective : Action (Option Connective) := do
  skipBlanks
  if (← peek?).isNone then pure none else firstWord Connective.spellings

/-- What was found is one of the words and stands at the front. -/
def wordOutcome (r : Reader) (s : List Char) (found : Option (α × List Char)) :
    Logged Notice SyntaxError (Option α) × Reader :=
  match found with
  | some (a, rest) => (pure (some a), r.moveTo rest)
  | none => (pure none, r.moveTo s)

theorem firstWord_moveTo (words : List (String × α)) (hs : s <:+ r.cursor.text) :
    firstWord words (r.moveTo s) = wordOutcome r s
      (words.findSome? fun word => (afterWord? [')'] word.1.toList s).map (word.2, ·)) := by
  induction words with
  | nil => rfl
  | cons word words ih =>
    obtain ⟨word, a⟩ := word
    rw [firstWord, List.findSome?_cons, readWord_bind _ _ _ hs]
    cases afterWord? [')'] word.toList s with
    | some rest => rfl
    | none => exact ih

/-- What is found without a failure or a notice. -/
def found (find : List Char → Option (α × List Char)) : Rule α := fun s => pure (find s)

theorem operator?_advances : (found Rule.operator?).Advances := by
  intro s op rest h
  have hfound : Rule.operator? s = some (op, rest) := Except.ok.inj h
  obtain ⟨_, o, _, _, hword, _⟩ := List.findSome?_eq_some_iff.1 hfound
  obtain ⟨_, hafter, heq⟩ := Option.map_eq_some_iff.1 hword
  obtain ⟨rfl, rfl⟩ := Prod.mk.inj heq
  have htoken : 0 < o.token.toList.length := by cases o <;> decide
  have hlength := congrArg List.length (afterWord?_eq_some_iff.1 hafter).1
  rw [List.length_append] at hlength
  have := length_skipBlanks_le s
  exact ⟨Rule.operator?_suffix hfound, by omega⟩

theorem operator_does : operator.Does (found Rule.operator?).demand := by
  intro r
  have hs := r.cursor.skipBlanks_unread_suffix
  have hwords : firstWord (Operator.all.map fun op => (op.token, op))
      (r.moveTo (DocFilter.skipBlanks r.cursor.unread)) =
        wordOutcome r (DocFilter.skipBlanks r.cursor.unread)
          (Rule.operator? r.cursor.unread) := by
    rw [firstWord_moveTo _ hs, List.findSome?_map]
    rfl
  rw [operator, position_bind, skipBlanks_bind]
  cases hfound : Rule.operator? r.cursor.unread with
  | some found =>
    rw [hfound] at hwords
    rw [Rule.perform_of_some (congrArg pure hfound)]
    exact bind_of_pure hwords _
  | none =>
    rw [hfound] at hwords
    rw [Rule.perform_of_none (congrArg pure hfound)]
    exact (bind_of_pure hwords _).trans (nothing_apply r _)

theorem connective_moveTo (hs : s <:+ r.cursor.text) :
    connective (r.moveTo s) = wordOutcome r (DocFilter.skipBlanks s)
      (Rule.connective? (DocFilter.skipBlanks s)) := by
  have hblanks := (skipBlanks_suffix s).trans hs
  rw [connective, skipBlanks_bind, r.unread_moveTo hs]
  refine (peek?_bind _ hblanks).trans ?_
  cases hend : DocFilter.skipBlanks s with
  | nil => rfl
  | cons c t =>
    rw [hend] at hblanks
    exact firstWord_moveTo Connective.spellings hblanks

theorem connective_eq (r : Reader) :
    connective r = wordOutcome r (DocFilter.skipBlanks r.cursor.unread)
      (Rule.connective? (DocFilter.skipBlanks r.cursor.unread)) := by
  rw [← connective_moveTo r.cursor.unread_suffix, connective, skipBlanks_bind, skipBlanks_bind,
    r.unread_moveTo r.cursor.unread_suffix]
  rfl

end Action

/-! ### What is remembered -/

namespace Reader

variable {α : Type} {r r' : Reader} {s : List Char}

theorem exists_start_of_samePlace (h : SamePlace r r') : ∃ start, r = r'.startingAt start := by
  obtain ⟨⟨text, position, start⟩, depth⟩ := r
  obtain ⟨htext, hposition, hdepth⟩ := h
  refine ⟨start, ?_⟩
  subst htext hposition hdepth
  rfl

/-- The same outcome, and readers that differ at most in the position remembered as a start. -/
structure Meets (p q : Logged Notice SyntaxError α × Reader) : Prop where
  outcome_eq : p.1 = q.1
  place : SamePlace p.2 q.2

theorem Meets.refl (p : Logged Notice SyntaxError α × Reader) : Meets p p :=
  ⟨rfl, SamePlace.refl _⟩

theorem Meets.of_eq {p q : Logged Notice SyntaxError α × Reader} (h : p = q) : Meets p q :=
  h ▸ Meets.refl p

theorem Meets.trans {p q q' : Logged Notice SyntaxError α × Reader} (h : Meets p q)
    (h' : Meets q q') : Meets p q' :=
  ⟨h.outcome_eq.trans h'.outcome_eq, h.place.trans h'.place⟩

theorem perform_startingAt (r : Reader) (start : Nat) (x : Reading (α × List Char)) :
    Meets ((r.startingAt start).perform x) (r.perform x) := by
  unfold perform
  cases x.result <;> exact ⟨rfl, rfl, rfl, rfl⟩

end Reader

namespace Action

open Reader (Meets)

variable {α β : Type} {r r' : Reader} {s : List Char}

/-- Whether the action does what the demand says at the count of open groups, but for what the
reader remembers. -/
def Reads (act : Action α) (demand : (depth : Nat) → Demand α) : Prop :=
  ∀ r, Meets (act r) (r.perform (demand r.depth r.cursor.unread))

theorem Does.reads {act : Action α} {demand : Demand α} (h : act.Does demand) :
    act.Reads fun _ => demand := fun r => .of_eq (h r)

/-- Where the reader was taken to before only says what is left to read. -/
theorem meets_moveTo (demand : Demand α) {p : Logged Notice SyntaxError α × Reader} {start : Nat}
    (h : Meets p (((r.startingAt start).moveTo s).perform
      (demand ((r.startingAt start).moveTo s).cursor.unread))) (hs : s <:+ r.cursor.text) :
    Meets p (r.perform (demand s)) := by
  rw [(r.startingAt start).unread_moveTo hs, Reader.perform_moveTo] at h
  exact h.trans (r.perform_startingAt start _)

theorem Reads.moveTo {act : Action α} {demand : Nat → Demand α} (h : act.Reads demand)
    (start : Nat) (hs : s <:+ r.cursor.text) :
    Meets (act ((r.startingAt start).moveTo s)) (r.perform (demand r.depth s)) :=
  meets_moveTo (demand r.depth) (h ((r.startingAt start).moveTo s)) hs

theorem Reads.shortens {act : Action α} {demand : Nat → Demand α} (h : act.Reads demand)
    (hd : ∀ depth, (demand depth).Advances) : act.Shortens fun _ => true := by
  intro r a _ ha
  obtain ⟨houtcome, hplace⟩ := h r
  rw [houtcome] at ha
  rw [hplace.unread_eq]
  exact Reader.unread_perform_lt r.cursor.unread_suffix (fun _ h => hd r.depth h) ha

/-- What goes on from a value, wherever the reader was to remember its start. -/
theorem bind_meets {x : Action α} {f : α → Action β} {y : Reading (α × List Char)}
    {g : α × List Char → Reading (β × List Char)} (hx : Meets (x r') (r.perform y))
    (hf : ∀ a rest start, y.result = .ok (a, rest) →
      Meets (f a ((r.startingAt start).moveTo rest)) (r.perform (g (a, rest)))) :
    Meets ((x >>= f) r') (r.perform (y >>= g)) := by
  obtain ⟨houtcome, hplace⟩ := hx
  cases hy : y.result with
  | error e =>
    rw [Reader.perform_of_error hy] at houtcome hplace
    rw [bind_of_error (by rw [houtcome]), houtcome,
      Reader.perform_of_error (by rw [Logged.result_bind, hy])]
    exact ⟨by simp only [Logged.notes_bind, hy], hplace⟩
  | ok found =>
    obtain ⟨a, rest⟩ := found
    rw [Reader.perform_of_ok hy] at houtcome hplace
    obtain ⟨start, hstart⟩ := Reader.exists_start_of_samePlace hplace
    have hgoes := hf a rest start hy
    rw [bind_of_ok (by rw [houtcome]), houtcome, hstart, Reader.perform_bind_of_ok hy]
    exact ⟨congrArg (fun x : Logged _ _ _ => (⟨y.notes ++ x.notes, x.result⟩ : Logged _ _ _))
      hgoes.outcome_eq, hgoes.place⟩

theorem pure_meets (a : α) (start : Nat) (rest : List Char) :
    Meets ((pure a : Action α) ((r.startingAt start).moveTo rest)) (r.perform (pure (a, rest))) :=
  ⟨rfl, rfl, rfl, rfl⟩

theorem failAt_meets (fault : SyntaxFault) (start : Nat) (hs : s <:+ r.cursor.text)
    (stop : List Char) :
    Meets ((failAt fault (r.cursor.moveTo s).position : Action α) ((r.startingAt start).moveTo stop))
      (r.perform (Reading.failAt fault s stop)) :=
  (Meets.of_eq (failAt_moveTo (r := r.startingAt start) fault hs stop)).trans
    (r.perform_startingAt start _)

theorem failHere_meets (fault : SyntaxFault) (start : Nat) (hs : s <:+ r.cursor.text) :
    Meets ((failHere fault : Action α) ((r.startingAt start).moveTo s))
      (r.perform (Reading.failAt fault s s)) :=
  failAt_meets fault start hs s

theorem markStart_bind (f : Unit → Action β) (r : Reader) (s : List Char) :
    (markStart >>= f) (r.moveTo s) =
      f () ((r.startingAt (r.cursor.moveTo s).position).moveTo s) := rfl

theorem startingAt_startingAt (r : Reader) (start start' : Nat) :
    (r.startingAt start).startingAt start' = r.startingAt start' := rfl

/-! ### Predicates -/

/-- An operand, and if an operator follows the operand to the right of it. -/
def predicate : Action (Option Predicate) := do
  match ← operand with
  | none => pure none
  | some left =>
    match ← operator with
    | none => pure (some (.exists? left))
    | some op =>
      markStart
      match ← rightOperand op with
      | none => failHere (.valueExpected op)
      | some right => pure (some (.compare left op right))

/-- A predicate whose operands fit its operator. -/
def fittingPredicate : Action Predicate := do
  let mark ← position
  match ← predicate with
  | none => failHere .clauseExpected
  | some p =>
    match p.validate with
    | .error why => failAt (.misfit why) mark
    | .ok () => pure p

theorem predicate_demand_eq (s : List Char) :
    Rule.predicate.demand s = Rule.operand.demand s >>= fun left =>
      match left.1 with
      | none => pure (none, left.2)
      | some x => (found Rule.operator?).demand left.2 >>= fun op =>
        match op.1 with
        | none => pure (some (.exists? x), op.2)
        | some o => (Rule.rightOperand o).demand op.2 >>= fun right =>
          match right.1 with
          | none => Reading.failAt (.valueExpected o) right.2 right.2
          | some y => pure (some (.compare x o y), right.2) := by
  rw [Rule.demand, Rule.predicate, bind_assoc, Rule.demand_bind]
  refine bind_congr fun left => ?_
  obtain _ | ⟨x, rest⟩ := left
  · rfl
  · simp only [Rule.demand_bind, found, pure_bind]
    cases Rule.operator? rest with
    | none => rfl
    | some op =>
      refine (bind_assoc _ _ _).trans (bind_congr fun right => ?_)
      obtain _ | ⟨y, rest⟩ := right
      · rfl
      · rfl

theorem predicate_reads : predicate.Reads fun _ => Rule.predicate.demand := by
  intro r
  have hs := r.cursor.unread_suffix
  simp only [predicate_demand_eq]
  rw [predicate]
  refine bind_meets (operand_does.reads r) fun left rest start hleft => ?_
  cases left with
  | none => exact pure_meets none start rest
  | some x =>
    have hrest := (Rule.operand_advances (Rule.demand_eq_some_iff.1 hleft)).1.trans hs
    refine bind_meets (operator_does.reads.moveTo start hrest) fun op rest' start' hop => ?_
    cases op with
    | none => exact pure_meets _ start' rest'
    | some o =>
      have hfound := Rule.demand_eq_some_iff.1 hop
      have hrest' := (Rule.operator?_suffix (Except.ok.inj hfound)).trans hrest
      show Meets ((markStart >>= _) ((r.startingAt start').moveTo rest')) _
      rw [markStart_bind, startingAt_startingAt]
      refine bind_meets ((rightOperand_does o).reads.moveTo _ hrest')
        fun right rest'' start'' hright => ?_
      cases right with
      | none =>
        rw [(Rule.demand_eq_none_iff.1 hright).2]
        exact failHere_meets (.valueExpected o) start'' hrest'
      | some y => exact pure_meets _ start'' rest''

theorem fittingPredicate_meets (start : Nat) (hs : s <:+ r.cursor.text) :
    Meets (fittingPredicate ((r.startingAt start).moveTo s))
      (r.perform (Demand.fittingPredicate s)) := by
  have hdemand : Demand.fittingPredicate s = Rule.predicate.demand s >>= fun found =>
      match found.1 with
      | none => Reading.failAt .clauseExpected found.2 found.2
      | some p =>
        match p.validate with
        | .error why => Reading.failAt (.misfit why) s found.2
        | .ok () => pure (p, found.2) := by
    rw [Rule.demand_bind]
    refine bind_congr fun found => ?_
    obtain _ | ⟨p, rest⟩ := found
    · rfl
    · rfl
  rw [hdemand, fittingPredicate, position_moveTo_bind]
  refine bind_meets (predicate_reads.moveTo start hs) fun found rest start' hfound => ?_
  cases found with
  | none =>
    rw [(Rule.demand_eq_none_iff.1 hfound).2]
    exact failHere_meets .clauseExpected start' hs
  | some p =>
    simp only
    cases p.validate with
    | error why => exact failAt_meets (.misfit why) start' hs rest
    | ok _ => exact pure_meets p start' rest

/-! ### Clauses -/

/-- A `!` and the blanks after it, if it is there. -/
def negation : Action Bool := do
  if ← readToken ['!'] then
    skipBlanks
    pure true
  else pure false

/-- What is read while one more group is open. -/
def insideGroup (act : Action α) : Action α := do
  changeDepth (· + 1)
  let a ← act
  changeDepth (· - 1)
  pure a

/-- A formula and the parenthesis that closes it. -/
def closed (formula : Action Formula) : Action Formula := do
  let body ← insideGroup formula
  if ← readDelim [')'] then pure body else failHere .closeExpected

/-- What follows an opening parenthesis.  At the limit of open groups it is refused; where there is
no action for what a group holds the limit is reached. -/
def group (inner : Option (Action Formula)) : Action Formula := do
  let opened ← depth
  let clauseStart ← start
  match inner.filter fun _ => opened < Demand.maxGroups with
  | none => failAt (.tooDeep Demand.maxGroups) clauseStart
  | some formula => closed formula

/-- A group in parentheses, or a predicate. -/
def condition (inner : Option (Action Formula)) (link : Option Connective) (negated : Bool) :
    Action Clause := do
  if ← readDelim ['('] then
    let body ← group inner
    pure (.group link negated body)
  else
    let p ← fittingPredicate
    pure (.test link negated p)

/-- A clause, which begins after the blanks. -/
def clause (inner : Option (Action Formula)) (link : Option Connective) : Action Clause := do
  skipBlanks
  markStart
  let negated ← negation
  condition inner link negated

/-- A clause and the connective after it. -/
def clauseRound (inner : Option (Action Formula)) (link : Option Connective) :
    Action (Clause × Option (Option Connective)) := do
  let c ← clause inner link
  let next ← connective
  pure (c, next.map some)

theorem negation_moveTo (hs : s <:+ r.cursor.text) :
    negation (r.moveTo s) = (pure (Demand.negation s).1, r.moveTo (Demand.negation s).2) := by
  rw [negation, readToken_bind _ _ hs]
  by_cases hbang : s.head? = some '!'
  · obtain ⟨t, rfl⟩ := List.head?_eq_some_iff.1 hbang
    show (skipBlanks >>= _) (r.moveTo t) = _
    rw [skipBlanks_bind, r.unread_moveTo ((List.suffix_cons _ _).trans hs)]
    rfl
  · have hnegation : Demand.negation s = (false, s) := by
      unfold Demand.negation
      split
      · exact absurd rfl hbang
      · rfl
    rw [afterToken?_of_head hbang, hnegation]
    rfl

theorem changeDepth_bind (f : Nat → Nat) (g : Unit → Action β) (r : Reader) :
    (changeDepth f >>= g) r = g () { r with depth := f r.depth } := rfl

/-- What a group holds is read with one more group open, which stays open where it fails. -/
theorem insideGroup_meets {act : Action α} {x : Reading (α × List Char)}
    (h : Meets (act { r' with depth := r'.depth + 1 })
      (({ r with depth := r.depth + 1 } : Reader).perform x)) :
    Meets (insideGroup act r') (r.perform x.insideGroup) := by
  obtain ⟨houtcome, hplace⟩ := h
  rw [insideGroup, changeDepth_bind]
  cases hx : x.result with
  | error f =>
    have hgroup : x.insideGroup.result = .error { f with openGroups := f.openGroups + 1 } := by
      rw [Reading.insideGroup, Logged.result_mapReason, hx]
      rfl
    -- After a failure the count is not taken back, so the group stays open.
    rw [Reader.perform_of_error hx] at houtcome hplace
    rw [bind_of_error (by rw [houtcome]), houtcome, Reader.perform_of_error hgroup]
    exact ⟨rfl, hplace.text_eq, hplace.position_eq,
      hplace.depth_eq.trans (Nat.add_right_comm r.depth 1 f.openGroups)⟩
  | ok found =>
    obtain ⟨a, rest⟩ := found
    have hgroup : x.insideGroup.result = .ok (a, rest) := by
      rw [Reading.insideGroup, Logged.result_mapReason, hx]
      rfl
    rw [Reader.perform_of_ok hx] at houtcome hplace
    rw [bind_of_ok (by rw [houtcome]), houtcome, Reader.perform_of_ok hgroup]
    exact ⟨Logged.ext (List.append_nil _) rfl, hplace.text_eq, hplace.position_eq,
      congrArg (· - 1) hplace.depth_eq⟩

/-- Whether the action reads formulas inside which at most `levels` groups are open at once, and no
more than the limit allows. -/
def ReadsFormula (act : Action Formula) (levels : Nat) : Prop :=
  act.Reads fun depth => Demand.formula (min levels (Demand.maxGroups - depth))

/-- Whether there is an action for what a group holds where `levels` groups may still be opened. -/
def InnerReads (inner : Option (Action Formula)) : (levels : Nat) → Prop
  | 0 => inner = none
  | levels + 1 => ∃ formula, inner = some formula ∧ formula.ReadsFormula levels

theorem closed_meets {formula : Action Formula} {demand : Nat → Demand Formula}
    (h : formula.Reads demand) (hd : (demand (r.depth + 1)).Advances) (start : Nat)
    (hs : s <:+ r.cursor.text) :
    Meets (closed formula ((r.startingAt start).moveTo s))
      (r.perform (Demand.closed (demand (r.depth + 1)) s)) := by
  have hinside := h.moveTo (r := { r with depth := r.depth + 1 }) start hs
  refine bind_meets (insideGroup_meets hinside) fun body rest start' hbody => ?_
  have hrest : rest <:+ r.cursor.text :=
    (hd (Logged.result_mapReason_eq_ok_iff.1 hbody)).1.trans hs
  rw [readDelim_bind (r := r.startingAt start') _ _ hrest]
  by_cases hclose : (DocFilter.skipBlanks rest).head? = some ')'
  · obtain ⟨rest', hrest'⟩ := List.head?_eq_some_iff.1 hclose
    simp only [hrest', afterToken?, if_true]
    exact pure_meets body start' rest'
  · rw [afterToken?_of_head hclose]
    simp only [Bool.false_eq_true, if_false]
    split
    · next rest' hrest' =>
      rw [hrest'] at hclose
      exact absurd rfl hclose
    · exact failHere_meets .closeExpected start' hrest

/-- What a group is after its parenthesis, where a clause that opens too much began at `opening`. -/
def groupDemand (inner : Option (Demand Formula)) (opening : List Char) : Demand Formula := fun s =>
  match inner with
  | none => Reading.failAt (.tooDeep Demand.maxGroups) opening s
  | some formula => Demand.closed formula s

/-- What a clause is after its negation. -/
def conditionDemand (inner : Option (Demand Formula)) (link : Option Connective) (negated : Bool)
    (opening : List Char) : Demand Clause
  | '(' :: body => groupDemand inner opening body >>= fun found =>
    pure (.group link negated found.1, found.2)
  | s => Demand.fittingPredicate s >>= fun found => pure (.test link negated found.1, found.2)

theorem conditionDemand_of_head {inner : Option (Demand Formula)} {link : Option Connective}
    {negated : Bool} {opening : List Char} (h : s.head? ≠ some '(') :
    conditionDemand inner link negated opening s = Demand.fittingPredicate s >>= fun found =>
      pure (.test link negated found.1, found.2) := by
  unfold conditionDemand
  split
  · exact absurd rfl h
  · rfl

theorem clause_eq (inner : Option (Demand Formula)) (link : Option Connective) (s : List Char) :
    Demand.clause inner link s =
      conditionDemand inner link (Demand.negation (DocFilter.skipBlanks s)).1
        (DocFilter.skipBlanks s) (Demand.negation (DocFilter.skipBlanks s)).2 := by
  simp only [Demand.clause]
  split
  · next body hbody =>
    rw [hbody]
    cases inner <;> rfl
  · next hopen =>
    rw [conditionDemand_of_head fun hhead => (List.head?_eq_some_iff.1 hhead).elim hopen]

theorem depth_bind_start_bind (f : Nat → Nat → Action β) (opening s : List Char) :
    (depth >>= fun d => start >>= fun m => f d m)
      ((r.startingAt (r.cursor.moveTo opening).position).moveTo s) =
    f r.depth (r.cursor.moveTo opening).position
      ((r.startingAt (r.cursor.moveTo opening).position).moveTo s) := rfl

section Clauses

variable {inner : Option (Action Formula)} {levels : Nat}

theorem group_meets (h : InnerReads inner levels) {opening : List Char}
    (hopening : opening <:+ r.cursor.text) (hs : s <:+ r.cursor.text) :
    Meets (group inner ((r.startingAt (r.cursor.moveTo opening).position).moveTo s))
      (r.perform (groupDemand (Demand.inner (min levels (Demand.maxGroups - r.depth))) opening s))
      := by
  rw [group, depth_bind_start_bind]
  cases levels with
  | zero =>
    obtain rfl : inner = none := h
    rw [Nat.zero_min]
    exact failAt_meets (.tooDeep Demand.maxGroups) _ hopening s
  | succ levels =>
    obtain ⟨formula, rfl, hformula⟩ := h
    -- Levels may be left where the limit is reached: groups may have been open from the beginning.
    by_cases hdepth : r.depth < Demand.maxGroups
    · have hleft : min (levels + 1) (Demand.maxGroups - r.depth) =
          min levels (Demand.maxGroups - (r.depth + 1)) + 1 := by omega
      rw [hleft, Option.filter_some, if_pos (decide_eq_true hdepth)]
      exact closed_meets hformula (Demand.formulaRule _).2 _ hs
    · have hleft : min (levels + 1) (Demand.maxGroups - r.depth) = 0 := by omega
      rw [hleft, Option.filter_some, if_neg (by simpa using hdepth)]
      exact failAt_meets (.tooDeep Demand.maxGroups) _ hopening s

theorem condition_meets (h : InnerReads inner levels) (link : Option Connective) (negated : Bool)
    {opening : List Char} (hopening : opening <:+ r.cursor.text) (hs : s <:+ r.cursor.text)
    (hblank : DocFilter.skipBlanks s = s) :
    Meets (condition inner link negated
        ((r.startingAt (r.cursor.moveTo opening).position).moveTo s))
      (r.perform (conditionDemand (Demand.inner (min levels (Demand.maxGroups - r.depth))) link
        negated opening s)) := by
  rw [condition, readDelim_bind (r := r.startingAt (r.cursor.moveTo opening).position) _ _ hs,
    hblank]
  by_cases hopen : s.head? = some '('
  · obtain ⟨body, rfl⟩ := List.head?_eq_some_iff.1 hopen
    have hbody := (List.suffix_cons '(' body).trans hs
    exact bind_meets (group_meets h hopening hbody) fun found rest start _ => pure_meets _ start rest
  · rw [afterToken?_of_head hopen, conditionDemand_of_head hopen]
    exact bind_meets (fittingPredicate_meets _ hs) fun p rest start _ => pure_meets _ start rest

theorem skipBlanks_negation (s : List Char) :
    DocFilter.skipBlanks (Demand.negation (DocFilter.skipBlanks s)).2 =
      (Demand.negation (DocFilter.skipBlanks s)).2 := by
  unfold Demand.negation
  split <;> simp only [skipBlanks_skipBlanks]

theorem clause_reads (h : InnerReads inner levels) (link : Option Connective) :
    (clause inner link).Reads fun depth =>
      Demand.clause (Demand.inner (min levels (Demand.maxGroups - depth))) link := by
  intro r
  have hopening := r.cursor.skipBlanks_unread_suffix
  have hnegation := negation_moveTo (r := r.startingAt
    (r.cursor.moveTo (DocFilter.skipBlanks r.cursor.unread)).position) hopening
  simp only [clause_eq]
  rw [clause, skipBlanks_bind, markStart_bind, bind_of_pure hnegation]
  exact condition_meets h link _ hopening ((Demand.negation_suffix _).trans hopening)
    (skipBlanks_negation _)

/-! ### Formulas -/

/-- What a round takes: a clause and the connective after it. -/
def roundDemand (demand : Demand Clause) : Demand (Clause × Option (Option Connective)) := fun s =>
  demand s >>= fun found =>
    match Rule.connective? (DocFilter.skipBlanks found.2) with
    | none => pure ((found.1, none), DocFilter.skipBlanks found.2)
    | some (next, rest) => pure ((found.1, some (some next)), rest)

theorem clauses_eq (clause : Option Connective → Demand Clause)
    (advances : ∀ link, (clause link).Advances) (link : Option Connective) (s : List Char) :
    Demand.clauses clause advances link s = roundDemand (clause link) s >>= fun found =>
      match found.1.2 with
      | none => pure ([found.1.1], found.2)
      | some next => Demand.clauses clause advances next found.2 >>= fun more =>
        pure (found.1.1 :: more.1, more.2) := by
  rw [Demand.clauses, roundDemand, bind_assoc]
  refine Eq.trans (bind_congr fun found => ?_) (Logged.attach_bind _ _)
  obtain ⟨⟨c, rest⟩, h⟩ := found
  simp only
  split
  · next hnone =>
    rw [hnone]
    rfl
  · next next rest' hsome =>
    rw [hsome]
    rfl

theorem roundDemand_advances {demand : Demand Clause} (hd : demand.Advances) :
    (roundDemand demand).Advances := by
  intro s a rest h
  rw [roundDemand, Logged.result_bind] at h
  cases hclause : (demand s).result with
  | error f =>
    rw [hclause] at h
    cases h
  | ok found =>
    obtain ⟨c, rest'⟩ := found
    have hrest' := hd hclause
    have hblanks := skipBlanks_suffix rest'
    have hlength := hblanks.length_le
    rw [hclause] at h
    simp only at h
    split at h
    · obtain ⟨-, rfl⟩ := Prod.mk.inj (Except.ok.inj h)
      exact ⟨hblanks.trans hrest'.1, by omega⟩
    · next next rest'' hnext =>
      obtain ⟨-, rfl⟩ := Prod.mk.inj (Except.ok.inj h)
      have hrest'' := Rule.connective?_suffix hnext
      have := hrest''.length_le
      exact ⟨hrest''.trans (hblanks.trans hrest'.1), by omega⟩

theorem demandInner_advances (levels : Nat) : ∀ formula ∈ Demand.inner levels, formula.Advances := by
  intro formula hformula
  cases levels with
  | zero => cases hformula
  | succ levels =>
    obtain rfl := Option.some.inj hformula
    exact (Demand.formulaRule levels).2

theorem clauseRound_reads (h : InnerReads inner levels) (link : Option Connective) :
    (clauseRound inner link).Reads fun depth =>
      roundDemand
        (Demand.clause (Demand.inner (min levels (Demand.maxGroups - depth))) link) := by
  intro r
  rw [clauseRound]
  refine bind_meets (clause_reads h link r) fun c rest start hc => ?_
  have hrest : rest <:+ r.cursor.text :=
    (Demand.clause_advances (demandInner_advances _) link hc).1.trans r.cursor.unread_suffix
  have hconnective := connective_moveTo (r := r.startingAt start) hrest
  cases hnext : Rule.connective? (DocFilter.skipBlanks rest) with
  | none =>
    rw [hnext] at hconnective
    refine (Meets.of_eq (bind_of_pure hconnective _)).trans ?_
    exact pure_meets _ start _
  | some next =>
    rw [hnext] at hconnective
    refine (Meets.of_eq (bind_of_pure hconnective _)).trans ?_
    exact pure_meets _ start _

theorem clauseRound_shortens (h : InnerReads inner levels) (link : Option Connective) :
    (clauseRound inner link).Shortens fun _ => true :=
  (clauseRound_reads h link).shortens fun _ =>
    roundDemand_advances (Demand.clause_advances (demandInner_advances _) link)

/-- Clauses up to where no connective follows. -/
def clauses (inner : Option (Action Formula)) (levels : Nat) (h : InnerReads inner levels) :
    Action Formula := rounds (clauseRound inner) (clauseRound_shortens h) none

theorem rounds_clauseRound_meets (h : InnerReads inner levels) (r : Reader)
    (advances : ∀ link, (Demand.clause
      (Demand.inner (min levels (Demand.maxGroups - r.depth))) link).Advances)
    (link : Option Connective) :
    Meets (rounds (clauseRound inner) (clauseRound_shortens h) link r)
      (r.perform (Demand.clauses
        (Demand.clause (Demand.inner (min levels (Demand.maxGroups - r.depth)))) advances link
        r.cursor.unread)) := by
  -- Each further round begins where less is left of the text.
  induction hn : r.cursor.unread.length using Nat.strongRecOn generalizing r link with
  | ind n ih =>
    subst hn
    rw [rounds_eq, clauses_eq]
    refine bind_meets (clauseRound_reads h link r) fun found rest start hfound => ?_
    obtain ⟨c, _ | next⟩ := found
    · exact pure_meets [c] start rest
    · have hrest := roundDemand_advances (advances link) hfound
      have hs := hrest.1.trans r.cursor.unread_suffix
      have hshorter : ((r.startingAt start).moveTo rest).cursor.unread.length <
          r.cursor.unread.length := by
        rw [(r.startingAt start).unread_moveTo hs]
        exact hrest.2
      have hmore := ih _ hshorter ((r.startingAt start).moveTo rest) advances next rfl
      refine bind_meets ?_ fun more rest' start' _ => pure_meets _ start' rest'
      exact meets_moveTo (Demand.clauses _ advances next) hmore hs

theorem clauses_readsFormula (h : InnerReads inner levels) :
    (clauses inner levels h).ReadsFormula levels := by
  intro r
  obtain ⟨advances, hformula⟩ := Demand.formula_eq (min levels (Demand.maxGroups - r.depth))
  simp only [hformula]
  exact rounds_clauseRound_meets h r advances none

end Clauses

/-- An action for formulas inside which at most `levels` groups are open at once. -/
def formulaAction : (levels : Nat) → { act : Action Formula // act.ReadsFormula levels }
  | 0 => ⟨clauses none 0 rfl, clauses_readsFormula (show InnerReads none 0 from rfl)⟩
  | levels + 1 =>
    let inner := formulaAction levels
    have h : InnerReads (some inner.1) (levels + 1) := ⟨_, rfl, inner.2⟩
    ⟨clauses (some inner.1) (levels + 1) h, clauses_readsFormula h⟩

/-- A formula inside which at most `levels` groups are open at once. -/
def formula (levels : Nat) : Action Formula := (formulaAction levels).1

/-- The action for what a group holds, where at most `levels` groups may still be opened. -/
def inner : (levels : Nat) → Option (Action Formula)
  | 0 => none
  | levels + 1 => some (formula levels)

theorem innerReads_inner (levels : Nat) : InnerReads (inner levels) levels := by
  cases levels with
  | zero => rfl
  | succ levels => exact ⟨_, rfl, (formulaAction levels).2⟩

/-- A formula is read clause by clause. -/
theorem formula_eq (levels : Nat) :
    formula levels =
      rounds (clauseRound (inner levels)) (clauseRound_shortens (innerReads_inner levels)) none := by
  cases levels <;> rfl

/-- A formula that fills the rest of the text. -/
def whole (levels : Nat) : Action Formula := do
  let f ← formula levels
  skipBlanks
  match ← peek? with
  | none => pure f
  | some c => if c = ')' then failHere .unmatchedClose else failHere .trailingText

theorem read_eq_perform (r : Reader) :
    r.read = r.perform (r.outcome >>= fun f => pure (f, [])) := by
  rw [Reader.read]
  cases hresult : r.outcome.result with
  | error f =>
    rw [Reader.after_of_error hresult,
      Reader.perform_of_error (f := f) (by rw [Logged.result_bind, hresult])]
    simp only [Logged.mapReason, Logged.notes_bind, hresult]
    rfl
  | ok f =>
    rw [Reader.after_of_ok hresult,
      Reader.perform_of_ok (show (r.outcome >>= fun f => pure (f, [])).result = .ok (f, []) by
        rw [Logged.result_bind, hresult]
        rfl)]
    simp only [Logged.mapReason, Logged.notes_bind, hresult, Logged.notes_pure, List.append_nil]
    rfl

/-- Reading with a cursor is reading by rules: the outcome is the same, and the reader stands at the
same place with the same groups open. -/
theorem whole_meets (r : Reader) (levels : Nat) (h : Demand.maxGroups ≤ levels + r.depth) :
    Meets (whole levels r) r.read := by
  have hleft : min levels (Demand.maxGroups - r.depth) = Demand.maxGroups - r.depth := by omega
  have hformula := (formulaAction levels).2 r
  simp only [hleft] at hformula
  rw [read_eq_perform, Reader.outcome, Demand.whole, bind_assoc]
  refine bind_meets hformula fun f rest start hf => ?_
  have hrest : rest <:+ r.cursor.text :=
    ((Demand.formulaRule _).2 hf).1.trans r.cursor.unread_suffix
  have hblanks := (skipBlanks_suffix rest).trans hrest
  rw [skipBlanks_bind, (r.startingAt start).unread_moveTo hrest]
  refine (Meets.of_eq (peek?_bind (r := r.startingAt start) _ hblanks)).trans ?_
  simp only
  cases hend : DocFilter.skipBlanks rest with
  | nil => exact pure_meets f start []
  | cons c t =>
    rw [hend] at hblanks
    by_cases hclose : c = ')'
    · simp only [List.head?_cons, if_pos hclose]
      exact failHere_meets .unmatchedClose start hblanks
    · simp only [List.head?_cons, if_neg hclose]
      exact failHere_meets .trailingText start hblanks

end Action

end DocFilter
