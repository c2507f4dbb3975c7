import DocFilter.Proofs.Cursor
import DocFilter.Proofs.Logged
import DocFilter.Query.Reader

/-!
# Actions of a reader

Rules take what they read off the front of a text and know nothing of what came before.  A reader
that works on its cursor does the same by moving: it notes positions, reads on character by
character or token by token, and goes back to a position noted earlier when it does not find what it
was looking for.  An `Action` is such a program.  Where it ends the reader stands is part of its
outcome, after a failure too.

What a rule takes and leaves can be said of a reader (`Reader.perform`), and an action that does what
a rule says is shown to do so step by step, along the lines of its program.
-/

namespace DocFilter

/-- What a reader does: the outcome, and the reader as it stands then. -/
abbrev Action (α : Type) := Reader → Logged Notice SyntaxError α × Reader

namespace Action

variable {α β σ : Type}

/-- Nothing is done after a failure. -/
instance : Monad Action where
  pure a := fun r => (pure a, r)
  bind x f := fun r =>
    match (x r).1.result with
    | .error e => (⟨(x r).1.notes, .error e⟩, (x r).2)
    | .ok a =>
      (⟨(x r).1.notes ++ (f a (x r).2).1.notes, (f a (x r).2).1.result⟩, (f a (x r).2).2)

/-! ### Steps -/

/-- Looks at the cursor. -/
def look (f : Cursor → α) : Action α := fun r => (pure (f r.cursor), r)

/-- Moves the cursor. -/
def move (f : Cursor → Cursor) : Action Unit := fun r => (pure (), { r with cursor := f r.cursor })

/-- Moves the cursor and hands out what it met. -/
def take (f : Cursor → α × Cursor) : Action α := fun r =>
  (pure (f r.cursor).1, { r with cursor := (f r.cursor).2 })

/-- Leaves a notice on what is left to read. -/
def note (n : List Char → Notice) : Action Unit := fun r => (Logged.note (n r.cursor.unread), r)

/-- Fails with the fault at a position. -/
def failAt (fault : SyntaxFault) (position : Nat) : Action α := fun r =>
  (Logged.fail ⟨fault, position, r.cursor.fragmentFrom position⟩, r)

/-- How many groups are open. -/
def depth : Action Nat := fun r => (pure r.depth, r)

/-- Changes the number of groups that are open. -/
def changeDepth (f : Nat → Nat) : Action Unit := fun r =>
  (pure (), { r with depth := f r.depth })

/-- The current position. -/
def position : Action Nat := look Cursor.position

/-- The position remembered as a start. -/
def start : Action Nat := look Cursor.start

/-- The next character. -/
def peek? : Action (Option Char) := look Cursor.peek?

/-- The text between two positions. -/
def slice (lo hi : Nat) : Action (List Char) := look (·.slice lo hi)

/-- Past any white space. -/
def skipBlanks : Action Unit := move Cursor.skipBlanks

/-- Past the next character. -/
def skip : Action Unit := move fun c => c.read.2

/-- Remembers the current position as the start. -/
def markStart : Action Unit := move Cursor.markStart

/-- Back to a position noted earlier. -/
def returnTo (mark : Nat) : Action Unit := move (·.returnTo mark)

/-- Up to the next `stop`, or to the end when there is none. -/
def readUntil (stop : Char) : Action Bool := take (·.readUntil stop)

/-- Past the token, if it comes next. -/
def readToken (token : List Char) : Action Bool := take (·.readToken token)

/-- Past the token, if it comes next as a word of its own. -/
def readWord (token delims : List Char) : Action Bool := take (·.readWord token delims)

/-- Fails with the fault at the current position. -/
def failHere (fault : SyntaxFault) : Action α := do failAt fault (← position)

/-- Past blanks and the token, if it comes next after them. -/
def readDelim (token : List Char) : Action Bool := do
  let mark ← position
  skipBlanks
  if ← readToken token then pure true
  else
    returnTo mark
    pure false

/-! ### Actions that may find nothing -/

/-- The first action, and where it finds nothing the second. -/
def orElse (first second : Action (Option α)) : Action (Option α) := do
  match ← first with
  | some a => pure (some a)
  | none => second

/-- The same action, with `f` applied to what it finds. -/
def mapFound (f : α → β) (act : Action (Option α)) : Action (Option β) := do
  match ← act with
  | some a => pure (some (f a))
  | none => pure none

/-! ### Loops -/

/-- Whether less is left to read whenever the outcome is one that counts. -/
def Shortens (counts : α → Bool) (act : Action α) : Prop :=
  ∀ ⦃r : Reader⦄ ⦃a : α⦄, counts a = true → (act r).1.result = .ok a →
    (act r).2.cursor.unread.length < r.cursor.unread.length

/-- Reads on while `goesOn` holds of the position and the character there. -/
def readWhile (goesOn : Nat → Char → Bool) : Action Unit := fun r =>
  match _ : r.cursor.unread with
  | [] => (pure (), r)
  | c :: _ =>
    if goesOn r.cursor.position c then
      readWhile goesOn { r with cursor := r.cursor.read.2 }
    else (pure (), r)
termination_by r => r.cursor.unread.length
decreasing_by exact Cursor.length_unread_read_lt ‹_›

/-- What the action finds, again and again until it finds nothing. -/
def many (act : Action (Option α)) (shortens : act.Shortens Option.isSome) : Action (List α) :=
  fun r =>
    match _ : (act r).1.result with
    | .error e => (⟨(act r).1.notes, .error e⟩, (act r).2)
    | .ok none => (⟨(act r).1.notes, .ok []⟩, (act r).2)
    | .ok (some a) =>
      let (more, r') := many act shortens (act r).2
      (⟨(act r).1.notes ++ more.notes, more.result.map (a :: ·)⟩, r')
termination_by r => r.cursor.unread.length
decreasing_by exact shortens rfl ‹_›

/-- What the rounds of a loop yield.  Each is told by the one before it how to go on, and the loop
ends with a round that does not say so. -/
def rounds (round : σ → Action (α × Option σ)) (shortens : ∀ x, (round x).Shortens fun _ => true)
    (x : σ) : Action (List α) := fun r =>
  match _ : (round x r).1.result with
  | .error e => (⟨(round x r).1.notes, .error e⟩, (round x r).2)
  | .ok (a, none) => (⟨(round x r).1.notes, .ok [a]⟩, (round x r).2)
  | .ok (a, some y) =>
    let (more, r') := rounds round shortens y (round x r).2
    (⟨(round x r).1.notes ++ more.notes, more.result.map (a :: ·)⟩, r')
termination_by r => r.cursor.unread.length
decreasing_by exact shortens x rfl ‹_›

end Action

/-! ### What rules say of a reader -/

namespace Reader

variable {α β : Type} {r : Reader} {s : List Char}

/-- To where `rest` is what is left to read. -/
def moveTo (r : Reader) (rest : List Char) : Reader := { r with cursor := r.cursor.moveTo rest }

/-- The outcome and the reader after it, when what is read and what is left are given. -/
def perform (r : Reader) (x : Reading (α × List Char)) : Logged Notice SyntaxError α × Reader :=
  match x.result with
  | .error f =>
    (⟨x.notes, .error (.ofFailure r.cursor.text f)⟩,
      ⟨r.cursor.moveTo f.stop, r.depth + f.openGroups⟩)
  | .ok (a, rest) => (⟨x.notes, .ok a⟩, r.moveTo rest)

theorem unread_moveTo (h : s <:+ r.cursor.text) : (r.moveTo s).cursor.unread = s :=
  Cursor.unread_moveTo h

/-- One character on. -/
theorem read_moveTo {c : Char} (hs : c :: s <:+ r.cursor.text) :
    { r.moveTo (c :: s) with cursor := (r.moveTo (c :: s)).cursor.read.2 } = r.moveTo s := by
  rw [Cursor.read_of_cons (r.unread_moveTo hs)]
  rfl

theorem moveTo_unread (h : r.cursor.Inside) : r.moveTo r.cursor.unread = r := by
  rw [moveTo, Cursor.moveTo_unread, Cursor.settle_of_inside h]

theorem perform_of_ok {x : Reading (α × List Char)} {a : α} {rest : List Char}
    (h : x.result = .ok (a, rest)) : r.perform x = (⟨x.notes, .ok a⟩, r.moveTo rest) := by
  rw [perform, h]

theorem perform_of_error {x : Reading (α × List Char)} {f : Failure} (h : x.result = .error f) :
    r.perform x = (⟨x.notes, .error (.ofFailure r.cursor.text f)⟩,
      ⟨r.cursor.moveTo f.stop, r.depth + f.openGroups⟩) := by
  rw [perform, h]

/-- Where a value comes of it, the reader was moved past it. -/
theorem exists_rest_of_perform {x : Reading (α × List Char)} {a : α}
    (h : (r.perform x).1.result = .ok a) :
    ∃ rest, x.result = .ok (a, rest) ∧ (r.perform x).2 = r.moveTo rest := by
  cases hresult : x.result with
  | error f =>
    rw [perform_of_error hresult] at h
    cases h
  | ok found =>
    obtain ⟨b, rest⟩ := found
    rw [perform_of_ok hresult] at h ⊢
    obtain rfl : b = a := Except.ok.inj h
    exact ⟨rest, rfl, rfl⟩

/-- What was taken is no longer left to read. -/
theorem unread_perform_lt {x : Reading (α × List Char)} {a : α} (hs : s <:+ r.cursor.text)
    (hx : ∀ ⦃rest⦄, x.result = .ok (a, rest) → rest <:+ s ∧ rest.length < s.length)
    (h : (r.perform x).1.result = .ok a) :
    (r.perform x).2.cursor.unread.length < s.length := by
  obtain ⟨rest, hresult, hmoved⟩ := exists_rest_of_perform h
  have hrest := hx hresult
  rw [hmoved, unread_moveTo (hrest.1.trans hs)]
  exact hrest.2

theorem perform_bind_of_ok {x : Reading (α × List Char)} {a : α} {rest : List Char}
    (h : x.result = .ok (a, rest)) (f : α × List Char → Reading (β × List Char)) :
    r.perform (x >>= f) = (⟨x.notes ++ (r.perform (f (a, rest))).1.notes,
      (r.perform (f (a, rest))).1.result⟩, (r.perform (f (a, rest))).2) := by
  simp only [perform, Logged.result_bind, Logged.notes_bind, h]
  cases (f (a, rest)).result <;> rfl

/-- Only the text and the open groups of the reader have a part in it. -/
theorem perform_moveTo (r : Reader) (s : List Char) (x : Reading (α × List Char)) :
    (r.moveTo s).perform x = r.perform x := by
  unfold perform
  cases x.result <;> rfl

end Reader

/-- A rule as one that must find its value, which may be that nothing is there. -/
def Rule.demand {α : Type} (rule : Rule α) : Demand (Option α) := fun s => do
  match ← rule s with
  | some (a, rest) => pure (some a, rest)
  | none => pure (none, s)

theorem Rule.demand_bind {α β : Type} (rule : Rule α) (s : List Char)
    (f : Option α × List Char → Reading β) :
    rule.demand s >>= f = rule s >>= fun found =>
      match found with
      | some (a, rest) => f (some a, rest)
      | none => f (none, s) := by
  rw [Rule.demand, bind_assoc]
  refine bind_congr fun found => ?_
  cases found with
  | none => rfl
  | some found => rfl

theorem Rule.demand_eq_error_iff {α : Type} {rule : Rule α} {s : List Char} {f : Failure} :
    (rule.demand s).result = .error f ↔ (rule s).result = .error f := by
  rw [Rule.demand, Logged.result_bind]
  rcases (rule s).result with f | (_ | found) <;> simp

theorem Rule.demand_eq_none_iff {α : Type} {rule : Rule α} {s rest : List Char} :
    (rule.demand s).result = .ok (none, rest) ↔ (rule s).result = .ok none ∧ rest = s := by
  rw [Rule.demand, Logged.result_bind]
  rcases (rule s).result with f | (_ | found)
  · simp
  · simp [eq_comm]
  · simp

theorem Rule.demand_eq_some_iff {α : Type} {rule : Rule α} {s rest : List Char} {a : α} :
    (rule.demand s).result = .ok (some a, rest) ↔ (rule s).result = .ok (some (a, rest)) := by
  rw [Rule.demand, Logged.result_bind]
  rcases (rule s).result with f | (_ | found) <;> simp [Prod.ext_iff]

namespace Rule

variable {α : Type} {rule : Rule α} {r : Reader} {s rest : List Char}

theorem perform_of_none (h : rule s = pure none) :
    r.perform (rule.demand s) = (pure none, r.moveTo s) := by
  rw [demand, h]
  rfl

theorem perform_of_some {a : α} (h : rule s = pure (some (a, rest))) :
    r.perform (rule.demand s) = (pure (some a), r.moveTo rest) := by
  rw [demand, h]
  rfl

theorem perform_of_failAt {fault : SyntaxFault} {place stop : List Char}
    (h : rule s = Reading.failAt fault place stop) :
    r.perform (rule.demand s) = r.perform (Reading.failAt fault place stop) := by
  rw [demand, h]
  rfl

end Rule

namespace Action

variable {α β σ : Type} {r : Reader} {s t w : List Char}

/-- Whether the action does what the demand says, wherever the reader stands. -/
def Does (act : Action α) (demand : Demand α) : Prop :=
  ∀ r, act r = r.perform (demand r.cursor.unread)

theorem Does.moveTo {act : Action α} {demand : Demand α} (h : act.Does demand)
    (hs : s <:+ r.cursor.text) : act (r.moveTo s) = r.perform (demand s) := by
  rw [h (r.moveTo s), r.unread_moveTo hs, r.perform_moveTo]

theorem Does.shortens {act : Action α} {demand : Demand α} (h : act.Does demand)
    (hd : demand.Advances) : act.Shortens fun _ => true := by
  intro r a _ ha
  rw [h r] at ha ⊢
  exact Reader.unread_perform_lt r.cursor.unread_suffix (fun _ h => hd h) ha

/-! ### Going on -/

theorem bind_of_ok {x : Action α} {a : α} (h : (x r).1.result = .ok a) (f : α → Action β) :
    (x >>= f) r = (⟨(x r).1.notes ++ (f a (x r).2).1.notes, (f a (x r).2).1.result⟩,
      (f a (x r).2).2) := by
  show (match (x r).1.result with
    | .error e => _
    | .ok a => _) = _
  rw [h]

theorem bind_of_error {x : Action α} {e : SyntaxError} (h : (x r).1.result = .error e)
    (f : α → Action β) : (x >>= f) r = (⟨(x r).1.notes, .error e⟩, (x r).2) := by
  show (match (x r).1.result with
    | .error e => _
    | .ok a => _) = _
  rw [h]

theorem bind_of_pure {x : Action α} {r' : Reader} {a : α} (h : x r = (pure a, r'))
    (f : α → Action β) : (x >>= f) r = f a r' := by
  rw [bind_of_ok (by rw [h]; rfl), h]
  rfl

/-- What goes on from two actions that do the same goes on alike. -/
theorem bind_congr_at {x y : Action α} (h : x r = y r) (f : α → Action β) :
    (x >>= f) r = (y >>= f) r := by
  cases hresult : (y r).1.result with
  | error e => rw [bind_of_error (h ▸ hresult), bind_of_error hresult, h]
  | ok a => rw [bind_of_ok (h ▸ hresult), bind_of_ok hresult, h]

theorem pure_apply (a : α) (r : Reader) : (pure a : Action α) r = (pure a, r) := rfl

theorem bind_pure_apply (x : Action α) (f : α → β) (r : Reader) :
    (x >>= fun a => pure (f a)) r = (⟨(x r).1.notes, (x r).1.result.map f⟩, (x r).2) := by
  cases h : (x r).1.result with
  | error e => exact bind_of_error h _
  | ok a =>
    rw [bind_of_ok h, pure_apply, Logged.notes_pure, List.append_nil]
    rfl

theorem position_bind (f : Nat → Action β) (r : Reader) :
    (position >>= f) r = f r.cursor.position r := rfl

theorem position_moveTo_bind (f : Nat → Action β) (r : Reader) (s : List Char) :
    (position >>= f) (r.moveTo s) = f (r.cursor.moveTo s).position (r.moveTo s) := rfl

theorem skipBlanks_bind (f : Unit → Action β) (r : Reader) :
    (skipBlanks >>= f) r = f () (r.moveTo (DocFilter.skipBlanks r.cursor.unread)) := rfl

theorem peek?_bind (f : Option Char → Action β) (hs : s <:+ r.cursor.text) :
    (peek? >>= f) (r.moveTo s) = f s.head? (r.moveTo s) := by
  show f (r.moveTo s).cursor.peek? (r.moveTo s) = _
  rw [Cursor.peek?, r.unread_moveTo hs]

/-- What is sliced between two places is what was read on the way. -/
theorem slice_bind (f : List Char → Action β) (hs : s <:+ r.cursor.text) (hw : w ++ t = s)
    (u : List Char) :
    (slice (r.cursor.moveTo s).position (r.cursor.moveTo t).position >>= f) (r.moveTo u) =
      f w (r.moveTo u) := by
  subst hw
  show f ((r.moveTo u).cursor.slice _ _) _ = _
  exact congrArg (f · (r.moveTo u)) (Cursor.slice_moveTo hs)

theorem skip_bind {c : Char} (f : Unit → Action β) (hs : c :: s <:+ r.cursor.text) :
    (skip >>= f) (r.moveTo (c :: s)) = f () (r.moveTo s) :=
  congrArg (f ()) (Reader.read_moveTo hs)

/-- Where a mark is returned to, only what was read before it is read again. -/
theorem returnTo_bind (f : Unit → Action β) (r : Reader) (s : List Char) :
    (returnTo r.cursor.position >>= f) (r.moveTo s) = f () (r.moveTo r.cursor.unread) := by
  show f () { r with cursor := (r.cursor.moveTo s).returnTo r.cursor.position } = _
  rw [Reader.moveTo, Cursor.moveTo_unread]
  rfl

theorem returnTo_moveTo_bind (f : Unit → Action β) (hs : s <:+ r.cursor.text) (t : List Char) :
    (returnTo (r.cursor.moveTo s).position >>= f) (r.moveTo t) = f () (r.moveTo s) := by
  have hreturn := returnTo_bind f (r.moveTo s) t
  rw [r.unread_moveTo hs] at hreturn
  exact hreturn

theorem taking_bind (taken? : List Char → Option (List Char)) (f : Bool → Action β)
    (hs : s <:+ r.cursor.text) :
    (take (·.taking taken?) >>= f) (r.moveTo s) =
      match taken? s with
      | some rest => f true (r.moveTo rest)
      | none => f false (r.moveTo s) := by
  show f ((r.moveTo s).cursor.taking taken?).1
    { r with cursor := ((r.moveTo s).cursor.taking taken?).2 } = _
  rw [Cursor.taking, r.unread_moveTo hs]
  cases taken? s <;> rfl

theorem readToken_bind (token : List Char) (f : Bool → Action β) (hs : s <:+ r.cursor.text) :
    (readToken token >>= f) (r.moveTo s) =
      match afterToken? token s with
      | some rest => f true (r.moveTo rest)
      | none => f false (r.moveTo s) :=
  taking_bind (afterToken? token) f hs

theorem readWord_bind (token delims : List Char) (f : Bool → Action β)
    (hs : s <:+ r.cursor.text) :
    (readWord token delims >>= f) (r.moveTo s) =
      match afterWord? delims token s with
      | some rest => f true (r.moveTo rest)
      | none => f false (r.moveTo s) :=
  taking_bind (afterWord? delims token) f hs

theorem readToken_bind_of_head {c : Char} (f : Bool → Action β)
    (h : r.cursor.unread.head? ≠ some c) : (readToken [c] >>= f) r = f false r := by
  have htoken := Cursor.readToken_of_head h
  show f (r.cursor.readToken [c]).1 { r with cursor := (r.cursor.readToken [c]).2 } = _
  rw [htoken]

theorem readUntil_bind (stop : Char) (f : Bool → Action β) (hs : s <:+ r.cursor.text) :
    (readUntil stop >>= f) (r.moveTo s) =
      f (!(s.dropWhile (· != stop)).isEmpty) (r.moveTo (s.dropWhile (· != stop))) := by
  show f ((r.moveTo s).cursor.readUntil stop).1
    { r with cursor := ((r.moveTo s).cursor.readUntil stop).2 } = _
  rw [Cursor.readUntil, r.unread_moveTo hs]
  rfl

theorem readDelim_bind (token : List Char) (f : Bool → Action β) (hs : s <:+ r.cursor.text) :
    (readDelim token >>= f) (r.moveTo s) =
      match afterToken? token (DocFilter.skipBlanks s) with
      | some rest => f true (r.moveTo rest)
      | none => f false (r.moveTo s) := by
  have hblanks := (skipBlanks_suffix s).trans hs
  -- The way back is part of the action, so what goes on does not see that blanks were read.
  have hread : readDelim token (r.moveTo s) =
      match afterToken? token (DocFilter.skipBlanks s) with
      | some rest => (pure true, r.moveTo rest)
      | none => (pure false, r.moveTo s) := by
    rw [readDelim, position_moveTo_bind, skipBlanks_bind, r.unread_moveTo hs]
    refine (readToken_bind token _ hblanks).trans ?_
    cases afterToken? token (DocFilter.skipBlanks s) with
    | some rest => rfl
    | none => exact returnTo_moveTo_bind _ hs _
  cases htoken : afterToken? token (DocFilter.skipBlanks s) with
  | some rest =>
    rw [htoken] at hread
    exact bind_of_pure hread f
  | none =>
    rw [htoken] at hread
    exact bind_of_pure hread f

/-- A failure at a place is one with the text from there on. -/
theorem failAt_moveTo (fault : SyntaxFault) (hs : s <:+ r.cursor.text) (stop : List Char) :
    (failAt fault (r.cursor.moveTo s).position : Action α) (r.moveTo stop) =
      r.perform (Reading.failAt fault s stop) := by
  show ((⟨[], .error ⟨fault, _, r.cursor.fragmentFrom _⟩⟩, _) :
    Logged Notice SyntaxError α × Reader) = _
  rw [Cursor.fragmentFrom_position hs]
  rfl

theorem failHere_moveTo (fault : SyntaxFault) (hs : s <:+ r.cursor.text) :
    (failHere fault : Action α) (r.moveTo s) = r.perform (Reading.failAt fault s s) :=
  failAt_moveTo fault hs s

/-! ### Going on from what was performed -/

/-- What goes on from a value, when it does what the rule does that goes on from it. -/
theorem bind_perform {x : Action α} {f : α → Action β} {y : Reading (α × List Char)}
    {g : α × List Char → Reading (β × List Char)} {r' : Reader} (hx : x r' = r.perform y)
    (hf : ∀ a rest, y.result = .ok (a, rest) → f a (r.moveTo rest) = r.perform (g (a, rest))) :
    (x >>= f) r' = r.perform (y >>= g) := by
  cases hy : y.result with
  | error e =>
    rw [Reader.perform_of_error hy] at hx
    rw [bind_of_error (by rw [hx]), hx, Reader.perform_of_error (by rw [Logged.result_bind, hy])]
    simp only [Logged.notes_bind, hy]
  | ok found =>
    obtain ⟨a, rest⟩ := found
    rw [Reader.perform_of_ok hy] at hx
    rw [bind_of_ok (by rw [hx]), hx, Reader.perform_bind_of_ok hy, hf a rest hy]

theorem note_bind_perform {n : List Char → Notice} {f : Unit → Action β}
    {y : Reading (β × List Char)} (hs : s <:+ r.cursor.text)
    (hf : f () (r.moveTo s) = r.perform y) :
    (note n >>= f) (r.moveTo s) = r.perform (Logged.note (n s) >>= fun _ => y) := by
  have hnote : note n (r.moveTo s) = (Logged.note (n s), r.moveTo s) := by
    rw [note, r.unread_moveTo hs]
  rw [bind_of_ok (a := ()) (by rw [hnote]; rfl), hnote]
  simp only [hf, Reader.perform, Logged.result_bind, Logged.notes_bind, Logged.result_note]
  cases y.result <;> rfl

theorem Does.orElse {first second : Action (Option α)} {rule rule' : Rule α}
    (hf : first.Does rule.demand) (hs : second.Does rule'.demand) :
    (first.orElse second).Does (rule.orElse rule').demand := by
  intro r
  have heq : (rule.orElse rule').demand r.cursor.unread =
      rule.demand r.cursor.unread >>= fun found =>
        match found.1 with
        | some a => pure (some a, found.2)
        | none => rule'.demand r.cursor.unread := by
    rw [Rule.demand_bind, Rule.demand, Rule.orElse, bind_assoc]
    refine bind_congr fun found => ?_
    cases found with
    | none => rfl
    | some found => rfl
  rw [heq]
  refine bind_perform (hf r) fun a rest ha => ?_
  cases a with
  | some a => rfl
  | none =>
    -- Where nothing was found all is left to read that was there before.
    rw [(Rule.demand_eq_none_iff.1 ha).2]
    exact hs.moveTo r.cursor.unread_suffix

theorem Does.mapFound {act : Action (Option α)} {rule : Rule α} (h : act.Does rule.demand)
    (f : α → β) : (act.mapFound f).Does (rule.map f).demand := by
  intro r
  have heq : (rule.map f).demand r.cursor.unread =
      rule.demand r.cursor.unread >>= fun found => pure (found.1.map f, found.2) := by
    rw [Rule.demand_bind, Rule.demand, Rule.map, bind_assoc]
    refine bind_congr fun found => ?_
    cases found with
    | none => rfl
    | some found => rfl
  rw [heq]
  refine bind_perform (h r) fun a rest _ => ?_
  cases a with
  | none => rfl
  | some a => rfl

/-! ### Loops, round by round -/

theorem readWhile_of_nil (goesOn : Nat → Char → Bool) (r : Reader) :
    readWhile goesOn (r.moveTo []) = (pure (), r.moveTo []) := by
  rw [readWhile]
  split
  · rfl
  · next hcons =>
    rw [r.unread_moveTo List.nil_suffix] at hcons
    cases hcons

theorem readWhile_of_cons {goesOn : Nat → Char → Bool} {c : Char} (hs : c :: s <:+ r.cursor.text) :
    readWhile goesOn (r.moveTo (c :: s)) =
      if goesOn (r.cursor.moveTo (c :: s)).position c then readWhile goesOn (r.moveTo s)
      else (pure (), r.moveTo (c :: s)) := by
  rw [readWhile, ← Reader.read_moveTo hs]
  split
  · next hnil =>
    rw [r.unread_moveTo hs] at hnil
    cases hnil
  · next hcons =>
    rw [r.unread_moveTo hs] at hcons
    cases hcons
    rfl

/-- A loop that reads on for as long as `q` holds takes the reader past all such characters. -/
theorem readWhile_moveTo {goesOn : Nat → Char → Bool} {q : Char → Bool} (hs : s <:+ r.cursor.text)
    (hq : ∀ p c, (r.cursor.moveTo s).position ≤ p → goesOn p c = q c) :
    readWhile goesOn (r.moveTo s) = (pure (), r.moveTo (s.dropWhile q)) := by
  induction s with
  | nil => exact readWhile_of_nil goesOn r
  | cons c s ih =>
    have hpositions := r.cursor.position_moveTo_cons hs
    rw [readWhile_of_cons hs, hq _ c (Nat.le_refl _), List.dropWhile_cons]
    split
    · exact ih ((List.suffix_cons c s).trans hs) fun p d hp => hq p d (by omega)
    · rfl

theorem readWhile_bind {goesOn : Nat → Char → Bool} (q : Char → Bool) (f : Unit → Action β)
    (hs : s <:+ r.cursor.text)
    (hq : ∀ p c, (r.cursor.moveTo s).position ≤ p → goesOn p c = q c) :
    (readWhile goesOn >>= f) (r.moveTo s) = f () (r.moveTo (s.dropWhile q)) :=
  bind_of_pure (readWhile_moveTo hs hq) f

/-- What is found goes in front of what is found after it. -/
theorem many_eq (act : Action (Option α)) (shortens : act.Shortens Option.isSome) :
    many act shortens = act >>= fun found =>
      match found with
      | none => pure []
      | some a => many act shortens >>= fun more => pure (a :: more) := by
  funext r
  rw [many]
  split
  · next h => exact (bind_of_error h _).symm
  · next h =>
    rw [bind_of_ok h]
    simp only [pure_apply, Logged.notes_pure, List.append_nil]
    rfl
  · next a h =>
    rw [bind_of_ok h]
    simp only [bind_pure_apply]

/-- What a round yields goes in front of what the rounds after it yield. -/
theorem rounds_eq (round : σ → Action (α × Option σ))
    (shortens : ∀ x, (round x).Shortens fun _ => true) (x : σ) :
    rounds round shortens x = round x >>= fun found =>
      match found.2 with
      | none => pure [found.1]
      | some y => rounds round shortens y >>= fun more => pure (found.1 :: more) := by
  funext r
  rw [rounds]
  split
  · next h => exact (bind_of_error h _).symm
  · next h =>
    rw [bind_of_ok h]
    simp only [pure_apply, Logged.notes_pure, List.append_nil]
    rfl
  · next a h =>
    rw [bind_of_ok h]
    simp only [bind_pure_apply]

end Action

end DocFilter
