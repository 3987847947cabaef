import Rewind.Buffer.Reach
import Rewind.Cursor.Basic

/-!
# Cursors: moving

A `View` is one cursor together with the buffer it stands over, and moving is an action on views.
A move is given as a distance (`moveBy`) or as a saved place and a distance from there (`moveTo`).
It answers whether the head moved; a head that cannot move stays where it is. Only a forward move
that fails because the source runs out leaves the mark `reachedEnd`.

**A cursor that keeps lines** moves like any other and then walks its line and column along, over
the elements between the old head and the new one. `moveTo` has a short cut: when the saved place
and the target are in the buffer, a plain cursor goes straight to the target, and one that keeps
lines takes the line and column of the saved place and walks from there. Before it does, it
checks that they can belong to the place at all (`Buffer.admits`).

A walk that would take a line or a column below zero, and a saved place that cannot belong to
the text, are misuse, and the head stays.
-/

namespace Rewind

/-- A cursor and the buffer it stands over. -/
structure View (α : Type) where
  buffer : Buffer α
  cursor : Cursor
  deriving DecidableEq

/-- An action on a cursor and its buffer. -/
abbrev Moving (α β : Type) := Action (View α) β

/-- Whether a line and a column can belong to the place `place` of the buffer: neither is larger
than the place, the start has both zero, and elsewhere the column is zero exactly behind a line
feed. -/
def Buffer.admits {α : Type} [LineElement α] (b : Buffer α) (place : Nat) (p : Position) : Bool :=
  p.line ≤ place && p.column ≤ place &&
    match place with
    | 0 => p.line = 0 && p.column = 0
    | before + 1 => b.items[before]?.any b.feeds == decide (p.column = 0)

/-- The position that the head of a walk from `start` to `stop` ends with. -/
def Buffer.walk? {α : Type} [LineElement α] (b : Buffer α) (start stop : Int) (p : Position) :
    Option Position :=
  p.walk? b.feeds b.items start.toNat stop.toNat

namespace Cursor

variable {α β : Type}

/-- The head as it is now. -/
def head : Moving α Cursor :=
  return (← get).cursor

/-- Look from where the head is now. -/
def look (f : Cursor → Peeking α β) : Moving α β := fun v =>
  match (f v.cursor).run v.buffer with
  | .ok x b => .ok x { v with buffer := b }
  | .error fault b => .error fault { v with buffer := b }

/-- Put the head on a place of the buffer. -/
def jump (target : Int) : Moving α Bool := do
  modify fun v => { v with cursor.index := target }
  return true

/-- Stay, and remember that the source ran out. -/
def stopAtEnd : Moving α Bool := do
  modify fun v => { v with cursor.reachedEnd := true }
  return false

@[simp] theorem run_head (v : View α) : (head : Moving α Cursor).run v = .ok v.cursor v := rfl

@[simp] theorem run_jump (target : Int) (v : View α) :
    (jump target).run v = .ok true { v with cursor.index := target } := rfl

/-- Move the head by a distance, with no thought for lines. Not moving at all always succeeds. -/
def shift (offset : Int) : Moving α Bool :=
  if offset = 0 then pure true
  else do
    let c ← head
    let target ← Offset.orOverflow (Offset.add? c.index offset)
    if c.index < 0 ∨ target < 0 then pure false
    else if offset < 0 then jump target
    else if ← look fun _ => Buffer.ensure target.toNat then jump target
    else stopAtEnd

variable [LineElement α]

/-- Walk the line and the column along behind a head that has moved away from `c`; where that
fails, the head goes back. -/
def follow (c : Cursor) : Moving α Bool := fun v =>
  match c.position with
  | none => .ok true v
  | some p =>
    match v.buffer.walk? c.index v.cursor.index p with
    | some q => .ok true { v with cursor.position := some q }
    | none => .error (.misuse .locationMismatch) { v with cursor.index := c.index }

/-- Move the head by a distance. -/
def moveBy (offset : Int) : Moving α Bool := do
  let c ← head
  if ← shift offset then follow c else pure false

/-- Move the head onto a place by the distance to it. -/
def approach (target : Int) : Moving α Bool := do
  let c ← head
  moveBy (← Offset.orOverflow (Offset.sub? target c.index))

/-- Put a head that keeps lines onto `target`, with the line and column that a walk from the
place `start` ends with, where they are `p`. -/
def restore (start : Int) (p : Position) (target : Int) : Moving α Bool := fun v =>
  if v.buffer.admits start.toNat p then
    match v.buffer.walk? start target p with
    | some q => .ok true { v with cursor.index := target, cursor.position := some q }
    | none => .error (.misuse .locationMismatch) v
  else .error (.misuse .locationMismatch) v

/-- Move the head onto the place `offset` away from a saved one. A head that is there already
stays, whatever else was saved. -/
def moveTo (place : Location) (offset : Int) : Moving α Bool := do
  let target ← Offset.orOverflow (Offset.add? place.index offset)
  let v ← get
  if target = v.cursor.index then pure true
  else
    match v.cursor.position, place.position with
    | none, _ => if v.buffer.holds target then jump target else approach target
    | some _, none => approach target
    | some _, some p =>
      if v.buffer.holds place.index && v.buffer.holds target then restore place.index p target
      else approach target

/-- Move the head back onto a saved place. -/
def reset (place : Location) : Moving α Bool :=
  moveTo place 0

/-- Move the head forward over `count` elements. -/
def skip (count : Nat) : Moving α Bool := do
  moveBy (← Offset.orOverflow (Offset.ofCount? count))

/-- Move the head back over `count` elements. -/
def rewind (count : Nat) : Moving α Bool := do
  moveBy (-(← Offset.orOverflow (Offset.ofCount? count)))

end Cursor

end Rewind
