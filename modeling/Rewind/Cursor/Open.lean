import Rewind.Cursor.Move

/-!
# Opening and comparing cursors

A cursor is opened over a source or over a sequence that cannot fail. Either way exactly one pull
is made, and the head stands on what it brought, or on `-1` if it brought nothing. A source that
fails at this pull opens no cursor.

**Comparing.** Two cursors are compared by their heads, and only over one buffer: cursors over
different buffers are unequal and have no order, however alike the buffers are.
-/

namespace Rewind.View

variable {α : Type}

/-- The position a new cursor starts with: that of the start of a text, if it is to keep lines. -/
def initial (keepsLines : Bool) : Option Position :=
  if keepsLines then some {} else none

/-- Open a cursor over a source. -/
def open? (key : Nat) (source : Source α) (config : Config) (keepsLines : Bool) :
    Except Fault (View α) :=
  match (Buffer.ensure 0).run (Buffer.ofSource key source config) with
  | .ok _ b => .ok ⟨b, Cursor.atStart b (initial keepsLines)⟩
  | .error fault _ => .error fault

/-- Open a cursor over a sequence that cannot fail. -/
def ofSequence (key : Nat) (xs : List (Option α)) (config : Config) (keepsLines : Bool) : View α :=
  let b := Buffer.seeded key xs config
  ⟨b, Cursor.atStart b (initial keepsLines)⟩

/-- A cursor over a string, which keeps lines. -/
def ofString (key : Nat) (s : String) (config : Config) : View Char :=
  ofSequence key (s.toList.map some) config true

/-- Whether two cursors stand on one place of one buffer. -/
def sameHead (a b : View α) : Bool :=
  a.buffer.key == b.buffer.key && a.cursor.index == b.cursor.index

/-- Which of two cursors over one buffer is ahead. -/
def order? (a b : View α) : Option Ordering :=
  if a.buffer.key = b.buffer.key then some (compare a.cursor.index b.cursor.index) else none

end Rewind.View
