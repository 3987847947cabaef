import Rewind.Buffer.Basic
import Rewind.Location
import Rewind.Matcher

/-!
# Cursors: looking

A cursor is a head over a buffer: an index, a mark that says whether a move ever failed because
the source ran out, and, for a cursor that keeps lines, the position of the head. A cursor made
over an empty source has the index `-1` and stays there.

The actions of this module only look. They take the cursor they look from as an argument and act
on the buffer alone, so **looking cannot move a head**; it may pull, and so it may fail with a
failure of the source.
-/

namespace Rewind

/-- A head over a buffer. -/
structure Cursor where
  index : Int
  /-- Whether a move ever failed because the source ran out. -/
  reachedEnd : Bool
  /-- The line and the column of the head, if this cursor keeps them. -/
  position : Option Position := none
  deriving DecidableEq

namespace Cursor

variable {α : Type}

/-- A new cursor on the first element that the buffer holds, or on `-1` if it holds none. -/
def atStart (b : Buffer α) (position : Option Position) : Cursor :=
  if b.items.isEmpty then ⟨-1, true, position⟩ else ⟨0, false, position⟩

/-- The same head without its line and column. -/
def plain (c : Cursor) : Cursor :=
  { c with position := none }

/-- What to keep in order to seek the head again. -/
def location (c : Cursor) : Location :=
  ⟨c.index, c.position⟩

/-- Whether the source was empty when the cursor was made. -/
def sourceIsEmpty (c : Cursor) : Bool :=
  c.index < 0

/-- The index as a place in the buffer; none over an empty source. -/
def slot? (c : Cursor) : Option Nat :=
  if c.index < 0 then none else some c.index.toNat

/-- Whether no element lies behind the head. -/
def isAtStart (c : Cursor) : Bool :=
  c.index ≤ 0

/-- Whether the head stands at the start of a line; none for a cursor that keeps no lines. -/
def isStartOfLine? (c : Cursor) : Option Bool :=
  c.position.map fun p => p.column = 0

/-! ### Looking at elements -/

/-- The element `offset` places from the head: ahead for a positive offset, behind for a negative
one. None before the start and past the end of the source. -/
def peek (c : Cursor) (offset : Int) : Peeking α (Option α) :=
  match Offset.add? c.index offset with
  | none => pure none
  | some target => if target < 0 then pure none else Buffer.fetch target.toNat

/-- The element under the head. Over an empty source there is none to ask for. -/
def current (c : Cursor) : Peeking α α :=
  if c.sourceIsEmpty then throw (.misuse .emptySource)
  else do
    match ← c.peek 0 with
    | some x => pure x
    | none => throw (.unbuffered c.index)

/-- The element just behind the head. -/
def previous (c : Cursor) : Peeking α (Option α) :=
  c.peek (-1)

/-- The element just ahead of the head. -/
def next (c : Cursor) : Peeking α (Option α) :=
  c.peek 1

/-- Whether no element follows the head; looking one element ahead decides. -/
def isAtEnd (c : Cursor) : Peeking α Bool :=
  if c.sourceIsEmpty then pure true
  else do return (← c.next (α := α)).isNone

/-! ### Matching a sequence -/

/-- Whether the rest of a pattern, whose first `matched` elements are behind, follows from
`offset + matched` on. Looking stops at the first element that differs. -/
def matchesFrom [DecidableEq α] (c : Cursor) (offset : Int) : Nat → List α → Peeking α Bool
  | _, [] => pure true
  | matched, x :: rest => do
    match Offset.add? offset (← Offset.orOverflow (Offset.ofCount? matched)) with
    | none => pure false
    | some ahead =>
      match ← c.peek ahead with
      | none => pure false
      | some y => if y = x then c.matchesFrom offset (matched + 1) rest else pure false

/-- Whether a pattern stands at `offset` places from the head. A pattern has elements. -/
def matchesAt [DecidableEq α] (c : Cursor) (offset : Int) (pattern : List α) : Peeking α Bool :=
  if pattern.isEmpty then throw (.misuse .zeroLengthMatch) else c.matchesFrom offset 0 pattern

end Cursor

end Rewind
