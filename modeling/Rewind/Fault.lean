/-!
# What can go wrong

Two kinds of failure reach a caller. A **misuse** breaks the contract of an operation: there is
no current element, no pattern to match, no room for the place asked for, or a saved location
that cannot belong to this text. A **source failure** comes from outside, with a message of its
own, and is passed on unchanged.

Failing to move or to look past a boundary is neither: operations answer that with `false` or
`none`.
-/

namespace Rewind

/-- The ways in which a caller can break the contract of an operation. -/
inductive Misuse where
  /-- The current element was asked for, and the source was empty from the start. -/
  | emptySource
  /-- A pattern without elements was to be matched. -/
  | zeroLengthMatch
  /-- A place or a distance left the range that places and distances keep to. -/
  | seekOverflow
  /-- A line and column that cannot belong to this text. -/
  | locationMismatch
  deriving DecidableEq

/-- The sentence that reports a misuse. -/
def Misuse.message : Misuse → String
  | emptySource => "Cursor has no current element, the source was empty at construction"
  | zeroLengthMatch => "Cannot match a zero-length pattern"
  | seekOverflow => "Cannot execute seek, would overflow position"
  | locationMismatch => "Location line and column do not fit the text under this cursor"

/-- Everything an operation can raise. -/
inductive Fault where
  | misuse (kind : Misuse)
  /-- The source failed with this message. -/
  | source (message : String)
  /-- The head stands on a place that holds no element. -/
  | unbuffered (index : Int)
  deriving DecidableEq

namespace Fault

/-- The sentence that reports a fault; a source speaks for itself. -/
def message : Fault → String
  | misuse kind => kind.message
  | source text => text
  | unbuffered index => s!"Head at {index} does not refer to a buffered element"

/-- The misuse behind a fault, if it is one. -/
def misuse? : Fault → Option Misuse
  | misuse kind => some kind
  | _ => none

end Fault

end Rewind
