import DocFilter.Proofs.Action.Literal

/-!
# Operands read with a cursor

Paths, lists and patterns as actions of a reader, and the operands that are put together from them
and from literals.  Like a literal, an operand that turns out not to be there leaves the reader where
it was, after an `@` without a segment too.  Each action does what the rule of its name says, and the
loops over the segments of a path and the elements of a list take less than is left in every round.
-/

namespace DocFilter
namespace Action

variable {α : Type} {r : Reader} {s : List Char}

/-! ### Paths -/

/-- A point and a key. -/
def segment : Action (Option String) := do
  let mark ← position
  if ← readToken ['.'] then
    if (← peek?) = some '.' then failAt .deepScan mark
    else
      let start ← position
      readWhile fun _ => Rule.inSegment
      let next ← peek?
      if next = some '[' then failAt .bracketInPath mark
      else if next = some '(' then failAt .callInPath mark
      else
        let stop ← position
        if stop = start then nothing mark
        else
          let name ← slice start stop
          pure (some (String.ofList name))
  else pure none

theorem segment_moveTo (hs : s <:+ r.cursor.text) :
    segment (r.moveTo s) = r.perform (Rule.segment.demand s) := by
  rw [segment, position_moveTo_bind, readToken_bind _ _ hs]
  by_cases hdot : s.head? = some '.'
  · obtain ⟨t, rfl⟩ := List.head?_eq_some_iff.1 hdot
    have ht : t <:+ r.cursor.text := (List.suffix_cons '.' t).trans hs
    have hrest := (List.dropWhile_suffix Rule.inSegment).trans ht
    have hsplit := List.takeWhile_append_dropWhile (p := Rule.inSegment) (l := t)
    show (peek? >>= _) (r.moveTo t) = _
    rw [peek?_bind _ ht]
    by_cases hscan : t.head? = some '.'
    · rw [if_pos hscan, Rule.perform_of_failAt (by rw [Rule.segment, if_pos hscan])]
      exact failAt_moveTo .deepScan hs t
    rw [if_neg hscan, position_moveTo_bind,
      readWhile_bind Rule.inSegment _ ht fun _ _ _ => rfl, peek?_bind _ hrest]
    by_cases hbracket : (t.dropWhile Rule.inSegment).head? = some '['
    · rw [if_pos hbracket, Rule.perform_of_failAt
        (by simp only [Rule.segment, if_neg hscan, if_pos hbracket]; rfl)]
      exact failAt_moveTo .bracketInPath hs _
    rw [if_neg hbracket]
    by_cases hcall : (t.dropWhile Rule.inSegment).head? = some '('
    · rw [if_pos hcall, Rule.perform_of_failAt
        (by simp only [Rule.segment, if_neg hscan, if_neg hbracket, if_pos hcall]; rfl)]
      exact failAt_moveTo .callInPath hs _
    rw [if_neg hcall, position_moveTo_bind]
    have hstop : (r.cursor.moveTo (t.dropWhile Rule.inSegment)).position =
        (r.cursor.moveTo t).position ↔ (t.takeWhile Rule.inSegment).isEmpty := by
      rw [Cursor.position_moveTo_eq_iff hrest ht, List.isEmpty_iff]
      nth_rewrite 2 [← hsplit]
      rw [List.self_eq_append_left]
    by_cases hname : (t.takeWhile Rule.inSegment).isEmpty
    · rw [if_pos (hstop.2 hname), Rule.perform_of_none (by
        simp only [Rule.segment, if_neg hscan, if_neg hbracket, if_neg hcall, if_pos hname])]
      exact nothing_moveTo hs _
    · rw [if_neg fun h => hname (hstop.1 h), slice_bind _ ht hsplit, Rule.perform_of_some (by
        simp only [Rule.segment, if_neg hscan, if_neg hbracket, if_neg hcall, if_neg hname]; rfl)]
      rfl
  · have hrule : Rule.segment s = pure none := by
      unfold Rule.segment
      split
      · exact absurd rfl hdot
      · rfl
    rw [afterToken?_of_head hdot, Rule.perform_of_none hrule]
    rfl

theorem segment_shortens : segment.Shortens Option.isSome := by
  intro r a hfound ha
  cases hunread : r.cursor.unread with
  | nil =>
    -- Past the end nothing is read, not even the way back to the end.
    have hsegment : segment r = (pure none, r) := by
      rw [segment, position_bind, readToken_bind_of_head _ (by rw [hunread]; nofun)]
      rfl
    rw [hsegment] at ha
    cases ha
    cases hfound
  | cons c s =>
    have hinside : r.cursor.Inside := Nat.le_of_lt (Cursor.position_lt_of_unread hunread)
    have hs : c :: s <:+ r.cursor.text := hunread ▸ r.cursor.unread_suffix
    rw [← Reader.moveTo_unread hinside, hunread, segment_moveTo hs] at ha ⊢
    obtain ⟨name, rfl⟩ := Option.isSome_iff_exists.1 hfound
    exact Reader.unread_perform_lt hs
      (fun _ h => Rule.segment_advances (Rule.demand_eq_some_iff.1 h)) ha

/-- As many segments as there are. -/
def segments : Action (List String) := many segment segment_shortens

/-- `@` and at least one segment. -/
def path : Action (Option Path) :=
  opened ['@'] fun mark _ => do
    let names ← segments
    if names.isEmpty then
      note .bareAt
      nothing mark
    else pure (some ⟨names⟩)

theorem segments_eq (s : List Char) :
    Rule.segments s = Rule.segment.demand s >>= fun found =>
      match found.1 with
      | none => pure ([], found.2)
      | some name => Rule.segments found.2 >>= fun more => pure (name :: more.1, more.2) := by
  rw [Rule.segments, Rule.demand_bind]
  refine Eq.trans (bind_congr fun found => ?_) (Logged.attach_bind _ _)
  obtain ⟨_ | ⟨name, rest⟩, h⟩ := found
  · rfl
  · rfl

theorem segments_moveTo (hs : s <:+ r.cursor.text) :
    segments (r.moveTo s) = r.perform (Rule.segments s) := by
  induction hn : s.length using Nat.strongRecOn generalizing s with
  | ind n ih =>
    subst hn
    rw [segments, many_eq, segments_eq]
    refine bind_perform (segment_moveTo hs) fun found rest hfound => ?_
    cases found with
    | none => rfl
    | some name =>
      have hrest := Rule.segment_advances (Rule.demand_eq_some_iff.1 hfound)
      refine bind_perform (ih _ hrest.2 (hrest.1.trans hs) rfl) fun more rest' _ => rfl

theorem path_does : path.Does Rule.path.demand := by
  refine opened_does ?_ ?_
  · intro s htoken
    unfold Rule.path
    split
    · next t ht =>
      rw [ht] at htoken
      cases htoken
    · rfl
  · intro r rest hrest hunread
    have hrule : Rule.path.demand r.cursor.unread = Rule.segments rest >>= fun found =>
        if found.1.isEmpty then
          Logged.note (.bareAt found.2) >>= fun _ => pure (none, r.cursor.unread)
        else pure (some ⟨found.1⟩, found.2) := by
      rw [Rule.demand, Rule.path, hunread]
      refine (bind_assoc _ _ _).trans (bind_congr fun found => ?_)
      obtain ⟨_ | ⟨name, names⟩, rest'⟩ := found
      · rfl
      · rfl
    have hs : rest <:+ r.cursor.text := (List.suffix_append _ _).trans hrest
    rw [hrule]
    refine bind_perform (segments_moveTo hs) fun names rest' hnames => ?_
    split
    · refine note_bind_perform ((Rule.segments_suffix hnames).trans hs) ?_
      exact nothing_apply r _
    · rfl

/-! ### Elements and separators -/

/-- What may stand in a list. -/
def element : Action (Option Operand) :=
  (string.mapFound .string).orElse <| ((number true).mapFound .number).orElse <|
    null.mapFound fun _ => .null

theorem element_does : element.Does Rule.element.demand :=
  (string_does.mapFound _).orElse
    (((number_does true).mapFound _).orElse (null_does.mapFound _))

/-- What separates an element from the next, or ends the list. -/
def separator : Action (Option Unit) := do
  skipBlanks
  let next ← peek?
  if next = some ',' then
    skip
    pure (some ())
  else if next = some ']' then
    skip
    pure none
  else failHere .listSeparator

/-- A comma or a closing bracket, and whether it is a comma. -/
def separatorDemand : Demand (Option Unit) := fun s =>
  match DocFilter.skipBlanks s with
  | ',' :: rest => pure (some (), rest)
  | ']' :: rest => pure (none, rest)
  | rest => Reading.failAt .listSeparator rest rest

theorem separatorDemand_of_head (hcomma : (DocFilter.skipBlanks s).head? ≠ some ',')
    (hclose : (DocFilter.skipBlanks s).head? ≠ some ']') :
    separatorDemand s =
      Reading.failAt .listSeparator (DocFilter.skipBlanks s) (DocFilter.skipBlanks s) := by
  unfold separatorDemand
  split
  · next rest hrest => exact absurd (congrArg List.head? hrest) hcomma
  · next rest hrest => exact absurd (congrArg List.head? hrest) hclose
  · rfl

theorem separator_moveTo (hs : s <:+ r.cursor.text) :
    separator (r.moveTo s) = r.perform (separatorDemand s) := by
  have hblanks := (skipBlanks_suffix s).trans hs
  rw [separator, skipBlanks_bind, r.unread_moveTo hs]
  refine (peek?_bind _ hblanks).trans ?_
  by_cases hcomma : (DocFilter.skipBlanks s).head? = some ','
  · obtain ⟨rest, hrest⟩ := List.head?_eq_some_iff.1 hcomma
    rw [if_pos hcomma, separatorDemand, hrest]
    exact skip_bind _ (hrest ▸ hblanks)
  rw [if_neg hcomma]
  by_cases hclose : (DocFilter.skipBlanks s).head? = some ']'
  · obtain ⟨rest, hrest⟩ := List.head?_eq_some_iff.1 hclose
    rw [if_pos hclose, separatorDemand, hrest]
    exact skip_bind _ (hrest ▸ hblanks)
  rw [if_neg hclose, separatorDemand_of_head hcomma hclose]
  exact failHere_moveTo .listSeparator hblanks

theorem separatorDemand_suffix {rest : List Char} {next : Option Unit}
    (h : (separatorDemand s).result = .ok (next, rest)) : rest <:+ s := by
  have hblanks := skipBlanks_suffix s
  unfold separatorDemand at h
  split at h
  · next rest' hrest =>
    obtain ⟨-, rfl⟩ := Prod.mk.inj (Except.ok.inj h)
    exact (List.suffix_cons _ _).trans (hrest ▸ hblanks)
  · next rest' hrest =>
    obtain ⟨-, rfl⟩ := Prod.mk.inj (Except.ok.inj h)
    exact (List.suffix_cons _ _).trans (hrest ▸ hblanks)
  · cases h

/-! ### Lists -/

/-- An element and what comes after it. -/
def listRound : Action (Operand × Option Unit) := do
  match ← element with
  | none => failHere .listElement
  | some x =>
    let next ← separator
    pure (x, next)

/-- What a round takes: an element and the separator or bracket after it. -/
def listDemand : Demand (Operand × Option Unit) := fun s =>
  Rule.element.demand s >>= fun found =>
    match found.1 with
    | none => Reading.failAt .listElement found.2 found.2
    | some x => separatorDemand found.2 >>= fun next => pure ((x, next.1), next.2)

theorem listDemand_advances : listDemand.Advances := by
  intro s a rest h
  rw [listDemand, Logged.result_bind] at h
  cases helement : (Rule.element.demand s).result with
  | error f =>
    rw [helement] at h
    cases h
  | ok found =>
    obtain ⟨_ | x, rest'⟩ := found
    · rw [helement] at h
      cases h
    · have hrest' := Rule.element_advances (Rule.demand_eq_some_iff.1 helement)
      rw [helement] at h
      simp only [Logged.result_bind] at h
      split at h
      · cases h
      · next next hnext =>
        obtain ⟨-, rfl⟩ := Prod.mk.inj (Except.ok.inj h)
        have hrest := separatorDemand_suffix hnext
        have := hrest.length_le
        exact ⟨hrest.trans hrest'.1, by omega⟩

theorem listRound_does : listRound.Does listDemand := by
  intro r
  rw [listRound]
  refine bind_perform (element_does r) fun found rest hfound => ?_
  cases found with
  | none =>
    rw [(Rule.demand_eq_none_iff.1 hfound).2]
    exact failHere_moveTo .listElement r.cursor.unread_suffix
  | some x =>
    have hrest := (Rule.element_advances (Rule.demand_eq_some_iff.1 hfound)).1
    exact bind_perform (separator_moveTo (hrest.trans r.cursor.unread_suffix)) fun _ _ _ => rfl

theorem listRound_shortens (u : Unit) : ((fun _ => listRound) u).Shortens fun _ => true :=
  listRound_does.shortens listDemand_advances

/-- The elements of a list and its closing bracket. -/
def elements : Action (List Operand) := rounds (fun _ : Unit => listRound) listRound_shortens ()

/-- A list in brackets. -/
def list : Action (Option (List Operand)) :=
  opened ['['] fun _ _ => do
    if ← readDelim [']'] then pure (some [])
    else
      let items ← elements
      pure (some items)

theorem elements_eq (s : List Char) :
    Rule.elements s = listDemand s >>= fun found =>
      match found.1.2 with
      | none => pure ([found.1.1], found.2)
      | some _ => Rule.elements found.2 >>= fun more => pure (found.1.1 :: more.1, more.2) := by
  rw [Rule.elements, listDemand, Rule.demand_bind, bind_assoc]
  refine Eq.trans (bind_congr fun found => ?_) (Logged.attach_bind _ _)
  obtain ⟨_ | ⟨x, rest⟩, h⟩ := found
  · rfl
  · simp only
    split
    · next rest' hrest =>
      rw [separatorDemand, hrest]
      rfl
    · next rest' hrest =>
      rw [separatorDemand, hrest]
      rfl
    · next hcomma hclose =>
      rw [separatorDemand_of_head]
      · rfl
      · exact fun hhead => (List.head?_eq_some_iff.1 hhead).elim hcomma
      · exact fun hhead => (List.head?_eq_some_iff.1 hhead).elim hclose

theorem elements_moveTo (hs : s <:+ r.cursor.text) :
    elements (r.moveTo s) = r.perform (Rule.elements s) := by
  induction hn : s.length using Nat.strongRecOn generalizing s with
  | ind n ih =>
    subst hn
    rw [elements, rounds_eq, elements_eq]
    refine bind_perform (listRound_does.moveTo hs) fun found rest hfound => ?_
    obtain ⟨x, _ | _⟩ := found
    · rfl
    · have hrest := listDemand_advances hfound
      exact bind_perform (ih _ hrest.2 (hrest.1.trans hs) rfl) fun _ _ _ => rfl

theorem list_does : list.Does Rule.list.demand := by
  refine opened_does ?_ ?_
  · intro s htoken
    unfold Rule.list
    split
    · next t ht =>
      rw [ht] at htoken
      cases htoken
    · rfl
  · intro r rest hrest hunread
    have hs : rest <:+ r.cursor.text := (List.suffix_append _ _).trans hrest
    rw [readDelim_bind _ _ hs]
    cases hempty : afterToken? [']'] (DocFilter.skipBlanks rest) with
    | some rest' =>
      have hrule : Rule.list r.cursor.unread = pure (some ([], rest')) := by
        rw [Rule.list, hunread]
        simp only [List.cons_append, List.nil_append, afterToken?_eq_some_iff.1 hempty]
      rw [Rule.perform_of_some hrule]
      rfl
    | none =>
      have hrule : Rule.list.demand r.cursor.unread = Rule.elements rest >>= fun found =>
          pure (some found.1, found.2) := by
        rw [Rule.demand, Rule.list, hunread]
        simp only [List.cons_append, List.nil_append]
        split
        · next rest' hclose =>
          rw [hclose] at hempty
          cases hempty
        · rw [bind_assoc]
          rfl
      rw [hrule]
      exact bind_perform (elements_moveTo hs) fun _ _ _ => rfl

/-! ### Patterns -/

/-- The source of a pattern and the slash that closes it.  What was read so far stands last
character first; a slash after a backslash takes the place of the backslash. -/
def source (soFar : List Char) (last : Char) : Action (Option (List Char)) := fun r =>
  match _ : r.cursor.unread with
  | [] => (pure none, r)
  | c :: _ =>
    let r' := { r with cursor := r.cursor.read.2 }
    if c = '/' then
      if last = '\\' then source (c :: soFar.tail) c r' else (pure (some soFar.reverse), r')
    else source (c :: soFar) c r'
termination_by r => r.cursor.unread.length
decreasing_by all_goals exact Cursor.length_unread_read_lt ‹_›

theorem source_of_cons {soFar : List Char} {c last : Char} (hs : c :: s <:+ r.cursor.text) :
    source soFar last (r.moveTo (c :: s)) =
      if c = '/' then
        if last = '\\' then source (c :: soFar.tail) c (r.moveTo s)
        else (pure (some soFar.reverse), r.moveTo s)
      else source (c :: soFar) c (r.moveTo s) := by
  rw [source, ← Reader.read_moveTo hs]
  split
  · next hnil =>
    rw [r.unread_moveTo hs] at hnil
    cases hnil
  · next hcons =>
    rw [r.unread_moveTo hs] at hcons
    cases hcons
    rfl

/-- Where the reader is when the source goes on as it is split off what is left. -/
def sourceOutcome (r : Reader) (before : List Char) (found : Option (List Char × List Char)) :
    Logged Notice SyntaxError (Option (List Char)) × Reader :=
  match found with
  | none => (pure none, r.moveTo [])
  | some (source, rest) => (pure (some (before ++ source)), r.moveTo rest)

theorem sourceOutcome_map (r : Reader) (before : List Char) (c : Char)
    (found : Option (List Char × List Char)) :
    sourceOutcome r before (found.map fun (source, rest) => (c :: source, rest)) =
      sourceOutcome r (before ++ [c]) found := by
  cases found with
  | none => rfl
  | some found => simp [sourceOutcome]

/-- A backslash that was read last waits for the next character: a slash takes its place. -/
theorem source_moveTo (hs : s <:+ r.cursor.text) (soFar : List Char) :
    (∀ last, last ≠ '\\' → source soFar last (r.moveTo s) =
      sourceOutcome r soFar.reverse (Rule.splitSource s)) ∧
    source ('\\' :: soFar) '\\' (r.moveTo s) =
      sourceOutcome r soFar.reverse (Rule.splitSource ('\\' :: s)) := by
  induction s generalizing soFar with
  | nil =>
    have hend : ∀ before last, source before last (r.moveTo []) = (pure none, r.moveTo []) := by
      intro before last
      rw [source]
      split
      · rfl
      · next hcons =>
        rw [r.unread_moveTo List.nil_suffix] at hcons
        cases hcons
    exact ⟨fun last _ => hend _ _, hend _ _⟩
  | cons c s ih =>
    have ih := ih ((List.suffix_cons c s).trans hs)
    by_cases hslash : c = '/'
    · subst hslash
      refine ⟨fun last hlast => ?_, ?_⟩
      · rw [source_of_cons hs, if_pos rfl, if_neg hlast, Rule.splitSource, if_pos rfl,
          sourceOutcome, List.append_nil]
        intro t hback
        exact absurd hback (by decide)
      · rw [source_of_cons hs, if_pos rfl, if_pos rfl, List.tail_cons, (ih _).1 '/' (by decide),
          Rule.splitSource, sourceOutcome_map, List.reverse_cons]
    -- Any other character is kept, and so is a backslash before it.
    have hkept := Rule.splitSource_cons (c := '\\') (s := c :: s)
      (fun t _ h => hslash (List.cons.inj h).1) (by decide)
    by_cases hback : c = '\\'
    · subst hback
      refine ⟨fun last _ => ?_, ?_⟩
      · rw [source_of_cons hs, if_neg hslash, (ih soFar).2]
      · rw [source_of_cons hs, if_neg hslash, (ih ('\\' :: soFar)).2, hkept, sourceOutcome_map,
          List.reverse_cons]
    · have hsplit := Rule.splitSource_cons (s := s) (fun t h => absurd h hback) hslash
      refine ⟨fun last _ => ?_, ?_⟩
      · rw [source_of_cons hs, if_neg hslash, (ih _).1 c hback, hsplit, sourceOutcome_map,
          List.reverse_cons]
      · rw [source_of_cons hs, if_neg hslash, (ih _).1 c hback, hkept, hsplit, sourceOutcome_map,
          sourceOutcome_map, List.reverse_cons, List.reverse_cons]

/-- A pattern between slashes, and its flags. -/
def regex : Action (Option Pattern) :=
  opened ['/'] fun _ start => do
    match ← source [] '/' with
    | none => failAt .openRegex start
    | some source =>
      let flagsStart ← position
      readWhile fun _ => Rule.inFlags
      let flagsStop ← position
      let flags ← slice flagsStart flagsStop
      match Pattern.ofSource (String.ofList source) (String.ofList flags) with
      | .ok p => pure (some p)
      | .error why => failAt (.badPattern why) start

theorem regex_does : regex.Does Rule.regex.demand := by
  refine opened_does ?_ ?_
  · intro s htoken
    unfold Rule.regex
    split
    · next t ht =>
      rw [ht] at htoken
      cases htoken
    · rfl
  · intro r rest hrest hunread
    have hs : rest <:+ r.cursor.text := (List.suffix_append _ _).trans hrest
    have hsource := (source_moveTo hs []).1 '/' (by decide)
    cases hsplit : Rule.splitSource rest with
    | none =>
      have hrule : Rule.regex r.cursor.unread = Reading.failAt .openRegex ('/' :: rest) [] := by
        rw [Rule.regex, hunread]
        simp only [List.cons_append, List.nil_append, hsplit]
      rw [hsplit] at hsource
      rw [bind_of_pure hsource, Rule.perform_of_failAt hrule]
      exact failAt_moveTo .openRegex hrest []
    | some found =>
      obtain ⟨body, after⟩ := found
      have hafter := (Rule.splitSource_suffix hsplit).trans hs
      have hflags := List.takeWhile_append_dropWhile (p := Rule.inFlags) (l := after)
      rw [hsplit, sourceOutcome, List.reverse_nil, List.nil_append] at hsource
      rw [bind_of_pure hsource]
      refine (position_moveTo_bind _ r after).trans ?_
      rw [readWhile_bind Rule.inFlags _ hafter fun _ _ _ => rfl, position_moveTo_bind,
        slice_bind _ hafter hflags]
      cases hpattern : Pattern.ofSource (String.ofList body)
          (String.ofList (after.takeWhile Rule.inFlags)) with
      | error why =>
        have hrule : Rule.regex r.cursor.unread = Reading.failAt (.badPattern why) ('/' :: rest)
            (after.dropWhile Rule.inFlags) := by
          rw [Rule.regex, hunread]
          simp only [List.cons_append, List.nil_append, hsplit, hpattern]
        rw [Rule.perform_of_failAt hrule]
        exact failAt_moveTo (.badPattern why) hrest _
      | ok p =>
        have hrule : Rule.regex r.cursor.unread =
            pure (some (p, after.dropWhile Rule.inFlags)) := by
          rw [Rule.regex, hunread]
          simp only [List.cons_append, List.nil_append, hsplit, hpattern]
        rw [Rule.perform_of_some hrule]
        rfl

/-! ### Operands -/

/-- A path, a list or a literal. -/
def operand : Action (Option Operand) :=
  (path.mapFound .path).orElse <| (list.mapFound .list).orElse <|
    (string.mapFound .string).orElse <| ((number false).mapFound .number).orElse <|
      null.mapFound fun _ => .null

/-- What stands to the right of an operator: for `=~` a pattern if there is one. -/
def rightOperand (op : Operator) : Action (Option Operand) :=
  if op = .matchesRegex then (regex.mapFound .regex).orElse operand else operand

theorem operand_does : operand.Does Rule.operand.demand :=
  (path_does.mapFound _).orElse <| (list_does.mapFound _).orElse <|
    (string_does.mapFound _).orElse <| ((number_does false).mapFound _).orElse <|
      null_does.mapFound _

theorem rightOperand_does (op : Operator) :
    (rightOperand op).Does (Rule.rightOperand op).demand := by
  unfold rightOperand Rule.rightOperand
  split
  · exact (regex_does.mapFound _).orElse operand_does
  · exact operand_does

end Action
end DocFilter
