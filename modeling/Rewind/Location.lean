import Rewind.Position

/-!
# Saved places

A location is what a head leaves behind to be sought again: its index, and for a head that keeps
a line and a column, these too. It refers to no buffer, so a caller may also make one up.

Locations are **ordered by their index alone**, since on the places of one text the index decides
the rest; they are **equal when all they hold is equal**.
-/

namespace Rewind

/-- A snapshot of a head: the index `-1` is that of a head over an empty source. -/
structure Location where
  index : Int
  /-- The line and column that came with the index. -/
  position : Option Position := none
  deriving DecidableEq

namespace Location

/-- The same place without its line and column. -/
def plain (l : Location) : Location :=
  ⟨l.index, none⟩

instance : Ord Location where
  compare a b := compare a.index b.index

/-- The later of two places; of two at one index, the second. -/
def latest (a b : Location) : Location :=
  if b.index < a.index then a else b

/-- The earlier of two places; of two at one index, the first. -/
def earliest (a b : Location) : Location :=
  if b.index < a.index then b else a

/-- Places in the order of their indices; those at one index keep their order. -/
def sort (places : List Location) : List Location :=
  places.mergeSort fun a b => a.index ≤ b.index

/-- The line and the column as readers count them, from one; a place without them shows
nothing. -/
def display (l : Location) : String :=
  match l.position with
  | some p => s!"{p.line + 1}:{p.column + 1}"
  | none => ""

end Location

end Rewind
