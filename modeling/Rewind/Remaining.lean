import Rewind.Cursor.Basic

/-!
# What remains ahead of a head

A cursor can be asked for the elements from its head onwards: with or without the one under the
head, and with or without the one just behind it. The answer is a remainder: a place to go on
from. What was asked for then comes one element at a time (`Remaining.next?`), pulled as it is
needed. The cursor is not involved any more, and no head moves.

With the element behind the head and without the one under it, **the head is a place to jump
over**: that is all there is to remember besides where to go on.
-/

namespace Rewind

/-- Where a remainder goes on. -/
structure Remaining where
  /-- The place of the next element. -/
  slot : Nat
  /-- A place to leave out. -/
  skipped : Option Nat
  deriving DecidableEq

/-- The elements from the head onwards: `withPrevious` starts with the one behind the head if there
is one, `withCurrent` takes in the one under it. -/
def Cursor.remaining (c : Cursor) (withPrevious withCurrent : Bool) : Remaining :=
  let head := c.index.toNat
  if withPrevious ∧ 0 < c.index then ⟨head - 1, if withCurrent then none else some head⟩
  else if withCurrent then ⟨head, none⟩
  else ⟨(c.index + 1).toNat, none⟩

namespace Remaining

variable {α : Type}

/-- The place of the next element once a place left out has been jumped over. -/
def landing (r : Remaining) : Nat :=
  if r.skipped = some r.slot then r.slot + 1 else r.slot

/-- The next element and what remains after it; nothing at the end of the source. After a failure
of the source the same element is still the next one. -/
def next? (r : Remaining) : Peeking α (Option (α × Remaining)) := do
  return (← Buffer.fetch r.landing).map fun x => (x, { r with slot := r.landing + 1 })

end Remaining

end Rewind
