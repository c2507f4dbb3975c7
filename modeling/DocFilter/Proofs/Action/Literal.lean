import DocFilter.Proofs.Action.Basic
import DocFilter.Proofs.Json.NumberText
import DocFilter.Proofs.Reading.Operand

/-!
# Literals read with a cursor

Strings, numbers and `null` as actions of a reader: the position is noted first, and where the
literal turns out not to be there the reader goes back to it.  White space, the characters of a
number that is spoiled late or a `null` that goes on as another word have been read by then.  Each
action does what the rule of its name says.
-/

namespace DocFilter
namespace Action

variable {α : Type} {r : Reader} {s : List Char}

/-! ### What goes back, and what opens -/

/-- Finds nothing, and goes back to the mark. -/
def nothing (mark : Nat) : Action (Option α) := do
  returnTo mark
  pure none

theorem nothing_apply (r : Reader) (s : List Char) :
    (nothing r.cursor.position : Action (Option α)) (r.moveTo s) =
      (pure none, r.moveTo r.cursor.unread) :=
  returnTo_bind _ r s

theorem nothing_moveTo (hs : s <:+ r.cursor.text) (t : List Char) :
    (nothing (r.cursor.moveTo s).position : Action (Option α)) (r.moveTo t) =
      (pure none, r.moveTo s) :=
  returnTo_moveTo_bind _ hs t

/-- What comes after blanks and the token, which is told where the blanks and the token begin. -/
def opened (token : List Char) (body : (mark start : Nat) → Action (Option α)) :
    Action (Option α) := do
  let mark ← position
  skipBlanks
  let start ← position
  if ← readToken token then body mark start else nothing mark

theorem opened_does {token : List Char} {body : (mark start : Nat) → Action (Option α)}
    {rule : Rule α}
    (hnone : ∀ {s}, afterToken? token (DocFilter.skipBlanks s) = none → rule s = pure none)
    (hsome : ∀ {r : Reader} {rest}, token ++ rest <:+ r.cursor.text →
      DocFilter.skipBlanks r.cursor.unread = token ++ rest →
      body r.cursor.position (r.cursor.moveTo (token ++ rest)).position (r.moveTo rest) =
        r.perform (rule.demand r.cursor.unread)) :
    (opened token body).Does rule.demand := by
  intro r
  have hs := r.cursor.skipBlanks_unread_suffix
  rw [opened, position_bind, skipBlanks_bind, position_bind, readToken_bind _ _ hs]
  cases htoken : afterToken? token (DocFilter.skipBlanks r.cursor.unread) with
  | none =>
    rw [Rule.perform_of_none (hnone htoken)]
    exact nothing_apply r _
  | some rest =>
    have hrest := afterToken?_eq_some_iff.1 htoken
    have hbody := hsome (hrest ▸ hs) hrest
    rw [← hrest] at hbody
    exact hbody

/-! ### Strings -/

/-- Text between two quotes of one kind. -/
def string : Action (Option String) := do
  let mark ← position
  skipBlanks
  let start ← position
  let next ← peek?
  match next.filter fun c => c = '\'' ∨ c = '"' with
  | some quote =>
    skip
    if ← readUntil quote then
      let stop ← position
      let text ← slice (start + 1) stop
      skip
      pure (some (String.ofList text))
    else failAt .openString start
  | none => nothing mark

theorem string_does : string.Does Rule.string.demand := by
  intro r
  have hs := r.cursor.skipBlanks_unread_suffix
  rw [string, position_bind, skipBlanks_bind, position_moveTo_bind, peek?_bind _ hs]
  cases hquote : (DocFilter.skipBlanks r.cursor.unread).head?.filter
      fun c => decide (c = '\'' ∨ c = '"') with
  | none =>
    have hrule : Rule.string r.cursor.unread = pure none := by
      unfold Rule.string
      split
      · rfl
      · next quote t ht =>
        rw [ht, List.head?_cons, Option.filter_some, ite_eq_right_iff] at hquote
        refine if_neg fun hq => ?_
        cases hquote (decide_eq_true hq)
    rw [Rule.perform_of_none hrule]
    exact nothing_apply r _
  | some quote =>
    obtain ⟨hhead, hq⟩ := Option.filter_eq_some_iff.1 hquote
    obtain ⟨t, ht⟩ := List.head?_eq_some_iff.1 hhead
    rw [ht] at hs ⊢
    have hts : t <:+ r.cursor.text := (List.suffix_cons _ _).trans hs
    have hsplit := List.takeWhile_append_dropWhile (p := (· != quote)) (l := t)
    have hclosing : t.dropWhile (· != quote) <:+ r.cursor.text :=
      (List.dropWhile_suffix _).trans hts
    refine (skip_bind _ hs).trans ?_
    rw [readUntil_bind _ _ hts]
    cases hclose : t.dropWhile (· != quote) with
    | nil =>
      have hrule : Rule.string r.cursor.unread = Reading.failAt .openString (quote :: t) [] := by
        simp only [Rule.string, ht, if_pos (of_decide_eq_true hq), hclose]
      rw [Rule.perform_of_failAt hrule]
      exact failAt_moveTo .openString hs []
    | cons d rest =>
      rw [hclose] at hclosing hsplit
      have hrule : Rule.string r.cursor.unread =
          pure (some (String.ofList (t.takeWhile (· != quote)), rest)) := by
        simp only [Rule.string, ht, if_pos (of_decide_eq_true hq), hclose]
      rw [Rule.perform_of_some hrule, Cursor.position_moveTo_cons hs]
      rw [List.isEmpty_cons, Bool.not_false, if_pos rfl, position_moveTo_bind,
        slice_bind _ hts hsplit]
      exact skip_bind _ hclosing

/-! ### Numbers -/

/-- Whether a number may end just before `c`. -/
def stopsNumber (inList : Bool) (c : Char) : Bool :=
  isBlank c || c == ')' || (inList && (c == ',' || c == ']'))

/-- Whether a text is a minus or none, digits, and a point with further digits or none. -/
def isLiteral (s : List Char) : Bool :=
  let unsigned := (Decimal.splitSign s).2
  let whole := unsigned.takeWhile (· != '.')
  match unsigned.dropWhile (· != '.') with
  | [] => Decimal.isDigits whole
  | _ :: fraction => Decimal.isDigits whole && Decimal.isDigits fraction

/-- A number.  A minus belongs to it at its start only. -/
def number (inList : Bool) : Action (Option Decimal) := do
  let mark ← position
  skipBlanks
  let start ← position
  readWhile fun p c => Rule.inNumber c || (c == '-' && p == start)
  let next ← peek?
  match next.filter (!stopsNumber inList ·) with
  | some c =>
    note (.strayInNumber c)
    nothing mark
  | none =>
    let stop ← position
    let text ← slice start stop
    if isLiteral text then
      match Decimal.ofText? text with
      | some d => pure (some d)
      | none => failAt (.badNumber (String.ofList text)) start
    else nothing mark

theorem endsNumber_eq (inList : Bool) (s : List Char) :
    Rule.endsNumber inList s = (s.head?.filter (!stopsNumber inList ·)).isNone := by
  cases s with
  | nil => rfl
  | cons c s =>
    have hstops : Rule.endsNumber inList (c :: s) = stopsNumber inList c := by
      cases inList <;> simp [Rule.endsNumber, endsWord, stopsNumber, Bool.or_assoc, beq_eq_decide]
    rw [hstops, List.head?_cons, Option.filter_some]
    cases stopsNumber inList c <;> rfl

theorem ne_point_of_isDigit {c : Char} (h : c.isDigit = true) : (c != '.') = true := by
  rw [bne_iff_ne]
  rintro rfl
  cases h

/-- The check for the shape of a literal lets through what has a value. -/
theorem isLiteral_iff {s : List Char} :
    isLiteral s = true ↔ ∃ d, Decimal.ofLiteral? s = some d := by
  simp only [isLiteral, Decimal.ofLiteral?]
  generalize Decimal.splitSign s = sign
  obtain ⟨negative, unsigned⟩ := sign
  simp only [Decimal.ofUnsigned?_eq_some_iff]
  constructor
  · intro h
    have hsplit := List.takeWhile_append_dropWhile (p := (· != '.')) (l := unsigned)
    cases hdrop : unsigned.dropWhile (· != '.') with
    | nil =>
      rw [hdrop, List.append_nil] at hsplit
      rw [hdrop, hsplit] at h
      exact ⟨_, .inl ⟨Decimal.isDigits_iff.1 h, rfl⟩⟩
    | cons c fraction =>
      have hpoint : (c != '.') = false :=
        head_dropWhile (s := unsigned) c (by rw [hdrop]; rfl)
      obtain rfl : c = '.' := by simpa using hpoint
      rw [hdrop] at h hsplit
      obtain ⟨hw, hf⟩ := Bool.and_eq_true_iff.1 h
      exact ⟨_, .inr ⟨_, fraction, hsplit.symm, Decimal.isDigits_iff.1 hw,
        Decimal.isDigits_iff.1 hf, rfl⟩⟩
  · rintro ⟨d, ⟨hd, -⟩ | ⟨whole, fraction, rfl, hw, hf, -⟩⟩
    · have hall : ∀ c ∈ unsigned, (c != '.') = true := fun c hc => ne_point_of_isDigit (hd.2 c hc)
      rw [List.dropWhile_eq_nil_iff.2 hall, List.takeWhile_eq_self_iff.2 hall]
      exact Decimal.isDigits_iff.2 hd
    · have hall : ∀ c ∈ whole, (c != '.') = true := fun c hc => ne_point_of_isDigit (hw.2 c hc)
      have hstop : ∀ c ∈ ('.' :: fraction).head?, (c != '.') = false := by
        intro c hc
        obtain rfl : '.' = c := Option.some.inj hc
        rfl
      rw [dropWhile_append_stop hall hstop, takeWhile_append_stop hall hstop]
      exact Bool.and_eq_true_iff.2 ⟨Decimal.isDigits_iff.2 hw, Decimal.isDigits_iff.2 hf⟩

/-- A minus is read past at the start only. -/
theorem readNumeral_moveTo (hs : s <:+ r.cursor.text) :
    readWhile (fun p c => Rule.inNumber c || (c == '-' && p == (r.cursor.moveTo s).position))
      (r.moveTo s) = (pure (), r.moveTo (Rule.splitNumeral s).2) := by
  cases s with
  | nil => exact readWhile_of_nil _ r
  | cons c t =>
    have ht : t <:+ r.cursor.text := (List.suffix_cons _ _).trans hs
    have hposition := Cursor.position_moveTo_cons hs
    -- From the second character on the position is past the start.
    have htail : readWhile
        (fun p c' => Rule.inNumber c' || (c' == '-' && p == (r.cursor.moveTo (c :: t)).position))
        (r.moveTo t) = (pure (), r.moveTo (t.dropWhile Rule.inNumber)) := by
      refine readWhile_moveTo ht fun p c' hp => ?_
      have hne : p ≠ (r.cursor.moveTo (c :: t)).position := by omega
      rw [beq_eq_false_iff_ne.2 hne, Bool.and_false, Bool.or_false]
    rw [readWhile_of_cons hs, htail]
    by_cases hc : c = '-'
    · subst hc
      rw [beq_self_eq_true, beq_self_eq_true, Bool.and_true, Bool.or_true, if_pos rfl]
      rfl
    · rw [Rule.splitNumeral_of_ne hc, beq_eq_false_iff_ne.2 hc, Bool.false_and, Bool.or_false,
        List.dropWhile_cons]
      split <;> rfl

theorem number_of_ends {inList : Bool} {numeral rest : List Char}
    (hsplit : Rule.splitNumeral (DocFilter.skipBlanks s) = (numeral, rest))
    (hends : Rule.endsNumber inList rest = true) :
    Rule.number inList s = pure ((Decimal.ofLiteral? numeral).map (·, rest)) := by
  simp only [Rule.number, hsplit, hends, if_true]

theorem number_of_stray {inList : Bool} {numeral rest : List Char} {c : Char}
    (hsplit : Rule.splitNumeral (DocFilter.skipBlanks s) = (numeral, c :: rest))
    (hends : Rule.endsNumber inList (c :: rest) = false) :
    Rule.number inList s =
      Logged.note (.strayInNumber c (c :: rest)) >>= fun _ => pure none := by
  simp only [Rule.number, hsplit, hends, Bool.false_eq_true, if_false]

theorem number_does (inList : Bool) : (number inList).Does (Rule.number inList).demand := by
  intro r
  have hs := r.cursor.skipBlanks_unread_suffix
  have happ := Rule.splitNumeral_append (DocFilter.skipBlanks r.cursor.unread)
  have hread := readNumeral_moveTo hs
  cases hsplit : Rule.splitNumeral (DocFilter.skipBlanks r.cursor.unread) with
  | mk numeral rest =>
    rw [hsplit] at happ hread
    have hrest : rest <:+ r.cursor.text := List.IsSuffix.trans ⟨numeral, happ⟩ hs
    have hends := endsNumber_eq inList rest
    rw [number, position_bind, skipBlanks_bind, position_moveTo_bind, bind_of_pure hread,
      peek?_bind _ hrest]
    cases hstray : rest.head?.filter (!stopsNumber inList ·) with
    | some c =>
      obtain ⟨rest', rfl⟩ := List.head?_eq_some_iff.1 (Option.filter_eq_some_iff.1 hstray).1
      rw [hstray, Option.isNone_some] at hends
      have hrule : (Rule.number inList).demand r.cursor.unread =
          Logged.note (.strayInNumber c (c :: rest')) >>= fun _ =>
            pure (none, r.cursor.unread) := by
        rw [Rule.demand, number_of_stray hsplit hends]
        rfl
      rw [hrule]
      refine note_bind_perform hrest ?_
      exact nothing_apply r _
    | none =>
      rw [hstray, Option.isNone_none] at hends
      have hrule := number_of_ends hsplit hends
      refine (position_moveTo_bind _ r rest).trans ((slice_bind _ hs happ rest).trans ?_)
      by_cases hliteral : isLiteral numeral
      · obtain ⟨d, hd⟩ := isLiteral_iff.1 hliteral
        rw [hd] at hrule
        rw [if_pos hliteral, Decimal.ofText?_literal (Decimal.ofLiteral?_eq_some_iff.1 hd),
          Rule.perform_of_some hrule]
        rfl
      · have hnone : Decimal.ofLiteral? numeral = none :=
          Option.eq_none_iff_forall_ne_some.2 fun d hd => hliteral (isLiteral_iff.2 ⟨d, hd⟩)
        rw [hnone] at hrule
        rw [if_neg hliteral, Rule.perform_of_none hrule]
        exact nothing_apply r _

/-! ### Null -/

/-- The word `null`. -/
def null : Action (Option Unit) :=
  opened "null".toList fun mark _ => do
    let next ← peek?
    if next.all fun c => isBlank c || [',', ']', ')'].contains c then pure (some ())
    else nothing mark

theorem null_does : null.Does Rule.null.demand := by
  refine opened_does ?_ ?_
  · intro s htoken
    rw [Rule.null, afterWord?, htoken]
    rfl
  · intro r rest hrest hunread
    have hs : rest <:+ r.cursor.text := (List.suffix_append _ _).trans hrest
    have hends : endsWord [',', ']', ')'] rest =
        rest.head?.all fun c => isBlank c || [',', ']', ')'].contains c := by
      cases rest <;> rfl
    have htoken := afterToken?_eq_some_iff.2 hunread
    rw [peek?_bind _ hs, ← hends]
    cases hword : endsWord [',', ']', ')'] rest with
    | true =>
      have hrule : Rule.null r.cursor.unread = pure (some ((), rest)) := by
        rw [Rule.null, afterWord?_eq_some_iff.2 ⟨hunread, hword⟩]
        rfl
      rw [if_pos rfl, Rule.perform_of_some hrule]
      rfl
    | false =>
      have hrule : Rule.null r.cursor.unread = pure none := by
        simp only [Rule.null, afterWord?, htoken, hword, Bool.false_eq_true, if_false]
        rfl
      rw [if_neg Bool.false_ne_true, Rule.perform_of_none hrule]
      exact nothing_apply r _

end Action
end DocFilter
