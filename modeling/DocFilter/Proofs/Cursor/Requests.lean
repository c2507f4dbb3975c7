import DocFilter.Proofs.Cursor

/-!
# Whatever is asked of a cursor

A cursor may be asked for anything in any order and with any arguments: to go back over a character
at the front of the text, past a token without characters, to a mark beyond the end, to a start that
was remembered long ago.  A position beyond the end counts as the end wherever text is cut out,
which would hide a cursor that had gone astray.  None does: after any requests the text is the one
it was given, and the position and the remembered start are in it or at its end.  What is already
read and what is left to read are the two parts of the text, and the mark in the rendering stands
between them.

A request for a token either finds it, and then the cursor has moved past the characters of the
token and no others, or it changes nothing.  A request to skip blanks, or to read up to a character,
moves past all characters of that kind that come next, and stops before the first other one.
-/

namespace DocFilter
namespace Cursor

/-- What may be asked of a cursor. -/
inductive Request where
  | peek
  | read
  | stepBack
  | atEnd
  | skipBlanks
  | peekIsAny (chars : List Char)
  | readToken (token : List Char)
  | readWord (token delims : List Char)
  | readUntil (stop : Char)
  | position
  | start
  | markStart
  | returnToStart
  | returnTo (position : Nat)
  | slice (lo hi : Nat)
  | unread
  | fragmentFrom (lo : Nat)
  | render
  deriving DecidableEq, Repr

/-- What a cursor answers. -/
inductive Reply where
  | done
  | character (ch : Option Char)
  | verdict (b : Bool)
  | offset (n : Nat)
  | text (s : List Char)
  deriving DecidableEq, Repr

/-- The answer to a request, and the cursor afterwards. -/
def perform (c : Cursor) : Request → Reply × Cursor
  | .peek => (.character c.peek?, c)
  | .read => (.character c.read.1, c.read.2)
  | .stepBack => (.done, c.stepBack)
  | .atEnd => (.verdict c.atEnd, c)
  | .skipBlanks => (.done, c.skipBlanks)
  | .peekIsAny chars => (.verdict (c.peekIsAny chars), c)
  | .readToken token => (.verdict (c.readToken token).1, (c.readToken token).2)
  | .readWord token delims => (.verdict (c.readWord token delims).1, (c.readWord token delims).2)
  | .readUntil stop => (.verdict (c.readUntil stop).1, (c.readUntil stop).2)
  | .position => (.offset c.position, c)
  | .start => (.offset c.start, c)
  | .markStart => (.done, c.markStart)
  | .returnToStart => (.done, c.returnToStart)
  | .returnTo position => (.done, c.returnTo position)
  | .slice lo hi => (.text (c.slice lo hi), c)
  | .unread => (.text c.unread, c)
  | .fragmentFrom lo => (.text (c.fragmentFrom lo), c)
  | .render => (.text c.render, c)

/-- The cursor after requests that were made one after the other. -/
def after (c : Cursor) (requests : List Request) : Cursor :=
  requests.foldl (fun c request => (c.perform request).2) c

variable {c : Cursor} {text token : List Char} {mayEnd : List Char → Bool}

/-! ### Staying in the text -/

/-- Whether the cursor has `text` for its text, and both of its positions in it or at its end. -/
structure StandsIn (text : List Char) (c : Cursor) : Prop where
  text_eq : c.text = text
  position_le : c.position ≤ text.length
  start_le : c.start ≤ text.length

theorem standsIn_ofList (text : List Char) : (ofList text).StandsIn text :=
  ⟨rfl, Nat.zero_le _, Nat.zero_le _⟩

namespace StandsIn

theorem inside (h : c.StandsIn text) : c.Inside := by
  show c.position ≤ c.text.length
  rw [h.text_eq]
  exact h.position_le

theorem withPosition (h : c.StandsIn text) {p : Nat} (hp : p ≤ text.length) :
    ({ c with position := p } : Cursor).StandsIn text :=
  ⟨h.text_eq, hp, h.start_le⟩

theorem moveTo (h : c.StandsIn text) (rest : List Char) : (c.moveTo rest).StandsIn text := by
  refine h.withPosition ?_
  rw [h.text_eq]
  exact Nat.sub_le _ _

theorem taking (h : c.StandsIn text) (taken? : List Char → Option (List Char)) :
    (c.taking taken?).2.StandsIn text := by
  unfold Cursor.taking
  cases taken? c.unread with
  | none => exact h
  | some rest => exact h.moveTo rest

theorem read (h : c.StandsIn text) : c.read.2.StandsIn text := by
  cases hunread : c.unread with
  | nil =>
    rw [read_of_nil hunread]
    exact h
  | cons ch s =>
    rw [read_of_cons hunread]
    exact h.moveTo s

/-- One request leaves the cursor in its text. -/
theorem perform (h : c.StandsIn text) (request : Request) :
    (c.perform request).2.StandsIn text := by
  cases request with
  | read => exact h.read
  | stepBack => exact h.withPosition ((Nat.sub_le _ _).trans h.position_le)
  | skipBlanks => exact h.moveTo _
  | readToken token => exact h.taking _
  | readWord token delims => exact h.taking _
  | readUntil stop => exact h.moveTo _
  | markStart => exact ⟨h.text_eq, h.position_le, h.position_le⟩
  | returnToStart => exact h.withPosition h.start_le
  | returnTo position => exact h.withPosition (h.text_eq ▸ Nat.min_le_right _ _)
  | peek | atEnd | peekIsAny | position | start | slice | unread | fragmentFrom | render => exact h

/-- Any number of requests leave the cursor in its text. -/
theorem after (h : c.StandsIn text) (requests : List Request) :
    (c.after requests).StandsIn text := by
  induction requests generalizing c with
  | nil => exact h
  | cons request requests ih => exact ih (h.perform request)

end StandsIn

/-! ### Moving past a token -/

/-- What comes of a request for a token that may only end before certain texts.  It is found where
the text left to read begins with it and goes on so, and then the cursor moves past its characters.
Where it is not found the cursor does not change. -/
structure Takes (token : List Char) (mayEnd : List Char → Bool) (c : Cursor)
    (served : Reply × Cursor) : Prop where
  found_iff : served.1 = .verdict true ↔ ∃ rest, c.unread = token ++ rest ∧ mayEnd rest = true
  stays : served.1 ≠ .verdict true → served = (.verdict false, c)
  moves : served.1 = .verdict true → served.2 = { c with position := c.position + token.length }
  passes : served.1 = .verdict true → c.slice c.position served.2.position = token

theorem takes_taking (hc : c.Inside) {taken? : List Char → Option (List Char)}
    (htaken : ∀ rest, taken? c.unread = some rest ↔ c.unread = token ++ rest ∧ mayEnd rest = true) :
    Takes token mayEnd c (.verdict (c.taking taken?).1, (c.taking taken?).2) := by
  rw [taking]
  cases hfound : taken? c.unread with
  | none =>
    have hverdict : Reply.verdict false ≠ .verdict true := by decide
    have hnot : ¬ ∃ rest, c.unread = token ++ rest ∧ mayEnd rest = true := by
      rintro ⟨rest, hrest⟩
      rw [(htaken rest).2 hrest] at hfound
      cases hfound
    exact ⟨iff_of_false hverdict hnot, fun _ => rfl, fun h => absurd h hverdict,
      fun h => absurd h hverdict⟩
  | some rest =>
    have hrest := (htaken rest).1 hfound
    have hmoved := moveTo_of_append hc hrest.1
    refine ⟨iff_of_true rfl ⟨rest, hrest⟩, fun h => absurd rfl h, fun _ => hmoved, ?_⟩
    intro _
    show c.slice c.position (c.moveTo rest).position = token
    rw [hmoved]
    exact slice_of_append hrest.1

theorem takes_readToken (hc : c.Inside) (token : List Char) :
    Takes token (fun _ => true) c (c.perform (.readToken token)) := by
  apply takes_taking hc
  intro rest
  rw [afterToken?_eq_some_iff]
  exact (and_iff_left rfl).symm

theorem takes_readWord (hc : c.Inside) (token delims : List Char) :
    Takes token (endsWord delims) c (c.perform (.readWord token delims)) := by
  apply takes_taking hc
  intro rest
  exact afterWord?_eq_some_iff

/-! ### Moving past a run of characters -/

/-- What comes of moving past characters of one kind.  The position moves on by as many characters
as are passed, all of which are of that kind, and the next one, if there is one, is not. -/
structure PassesRun (kind : Char → Bool) (c c' : Cursor) : Prop where
  moves : c' = { c with position := c.position + (c.slice c.position c'.position).length }
  passed : ∀ ch ∈ c.slice c.position c'.position, kind ch = true
  stops : ∀ ch ∈ c'.peek?, kind ch = false

theorem passesRun_takeWhile {kind : Char → Bool} {c' : Cursor}
    (h : c' = { c with position := c.position + (c.unread.takeWhile kind).length }) :
    PassesRun kind c c' := by
  have hsplit : c.unread = c.unread.takeWhile kind ++ c.unread.dropWhile kind :=
    List.takeWhile_append_dropWhile.symm
  have hslice : c.slice c.position c'.position = c.unread.takeWhile kind := by
    rw [h]
    exact slice_of_append hsplit
  have hunread : c'.unread = c.unread.dropWhile kind := by
    rw [h]
    exact unread_of_append hsplit
  refine ⟨?_, ?_, ?_⟩
  · rw [hslice]
    exact h
  · rw [hslice]
    exact fun ch hch => List.mem_takeWhile_imp hch
  · rw [peek?, hunread]
    exact head_dropWhile

/-- After any requests the cursor is still in its text, which is cut in two where the cursor stands.
A token that is asked for next is moved past if it is there, and a run of characters that is to be
passed is passed to its end. -/
theorem requests_stay_in_text (text : List Char) (requests : List Request) :
    let c := (ofList text).after requests
    c.StandsIn text ∧
    (∀ token, Takes token (fun _ => true) c (c.perform (.readToken token)) ∧
      ∀ delims, Takes token (endsWord delims) c (c.perform (.readWord token delims))) ∧
    PassesRun isBlank c (c.perform .skipBlanks).2 ∧
    (∀ stop, PassesRun (· != stop) c (c.perform (.readUntil stop)).2 ∧
      ((c.perform (.readUntil stop)).1 = .verdict true ↔
        (c.perform (.readUntil stop)).2.peek? = some stop)) ∧
    ∃ before rest, before ++ rest = text ∧ before.length = c.position ∧
      c.perform (.slice 0 c.position) = (.text before, c) ∧
      c.perform .unread = (.text rest, c) ∧
      c.perform .render = (.text (before ++ "<HERE>".toList ++ rest), c) := by
  intro c
  have hstands : c.StandsIn text := (standsIn_ofList text).after requests
  have hinside := hstands.inside
  have htext : c.consumed ++ c.unread = text := by
    rw [← hstands.text_eq]
    exact List.take_append_drop _ _
  refine ⟨hstands, fun token => ⟨takes_readToken hinside token, takes_readWord hinside token⟩,
    passesRun_takeWhile (skipBlanks_eq hinside), fun stop => ⟨?_, ?_⟩, ?_⟩
  · exact passesRun_takeWhile (readUntil_eq hinside stop)
  · show Reply.verdict (c.readUntil stop).1 = .verdict true ↔ _
    rw [Reply.verdict.injEq]
    exact readUntil_eq_true_iff c stop
  · exact ⟨c.consumed, c.unread, htext, length_consumed hinside, rfl, rfl, rfl⟩

example : (ofList "ab".toList).after [.returnTo 10, .markStart, .stepBack, .returnToStart, .read] =
    ⟨"ab".toList, 2, 2⟩ := by decide

end Cursor
end DocFilter
