import Rewind.Cursor.Scan
import Rewind.Unicode.Identifier
import Rewind.Unicode.WhiteSpace

/-!
# Cursors over characters

Reads for texts: blanks, runs that are handed out as strings, and identifiers. Each is one of the
general reads at characters; `skipBlank` is stated for any notion of blank.
-/

namespace Rewind.Cursor

/-! ### Blanks -/

section Blank

variable {α : Type} [LineElement α] [DecidableEq α]

/-- Skip blanks; whether there were any. With `endCounts`, the end of the source counts as a
blank too: an empty source, or a last element that is blank and cannot be left. -/
def skipBlank (blank : α → Bool) (endCounts : Bool) : Moving α Bool := do
  if ← skipWhile (.satisfying blank) then pure true
  else if !endCounts then pure false
  else if (← head).sourceIsEmpty then pure true
  else
    match ← look (·.peek 0) with
    | none => pure false
    | some x => if blank x then look (·.isAtEnd) else pure false

end Blank

/-! ### Strings -/

/-- Consume characters while they pass a test, as a string. -/
def readStringWhile (m : Matcher Char) : Moving Char String := do
  return String.ofList (← readWhile m)

/-- Consume an identifier. -/
def readIdentifier : Moving Char (Option String) := do
  return (← readWord Unicode.isIdentifierStart Unicode.isIdentifierContinue).map String.ofList

end Rewind.Cursor
