import Rewind.Cursor.Words

/-!
# Operations as values

Everything a caller can ask of one cursor, as a type of values, so that sequences of operations
can be written down and reasoned about. `Operation.run` gives each its meaning. The operations on
texts are the general ones at characters, under names of their own.
-/

namespace Rewind

/-- Something to ask of one cursor. -/
inductive Operation (α : Type) where
  | current
  | previous
  | next
  | peek (offset : Int)
  | slot
  | location
  | sourceIsEmpty
  | isAtStart
  | isAtEnd
  | isStartOfLine
  | matchesAt (offset : Int) (pattern : List α)
  | text
  | moveBy (offset : Int)
  | moveTo (place : Location) (offset : Int)
  | reset (place : Location)
  | skip (count : Nat)
  | rewind (count : Nat)
  | read
  | readIf (m : Matcher α)
  | readSeq (pattern : List α)
  | readNext
  | readNextIf (m : Matcher α)
  | readNextSeq (pattern : List α)
  | readWhile (m : Matcher α)
  | readNextWhile (m : Matcher α)
  | skipWhile (m : Matcher α)
  | skipUntil (m : Matcher α)
  | skipBlank (blank : α → Bool) (endCounts : Bool)
  | readWord (starts continues : α → Bool)

/-- What an operation answers. -/
inductive Reply (α : Type) where
  | element (x : Option α)
  | run (xs : List α)
  | word (xs : Option (List α))
  | verdict (holds : Bool)
  | place (l : Location)
  | slot (place : Option Nat)
  /-- The number of a cursor or of a remainder just made. -/
  | number (n : Nat)
  /-- There is nothing to answer. -/
  | absent
  deriving DecidableEq

namespace Operation

variable {α : Type} [LineElement α] [DecidableEq α]

open Cursor in
/-- What an operation does and answers. -/
def run : Operation α → Moving α (Reply α)
  | current => return .element (some (← look (·.current)))
  | previous => return .element (← look (·.previous))
  | next => return .element (← look (·.next))
  | peek offset => return .element (← look (·.peek offset))
  | slot => return .slot (← head).slot?
  | location => return .place (← head).location
  | sourceIsEmpty => return .verdict (← head).sourceIsEmpty
  | isAtStart => return .verdict (← head).isAtStart
  | isAtEnd => return .verdict (← look (·.isAtEnd))
  | isStartOfLine => return ((← head).isStartOfLine?.map .verdict).getD .absent
  | matchesAt offset pattern => return .verdict (← look (·.matchesAt offset pattern))
  | text => return .run (← look fun _ => Buffer.text)
  | moveBy offset => return .verdict (← Cursor.moveBy offset)
  | moveTo place offset => return .verdict (← Cursor.moveTo place offset)
  | reset place => return .verdict (← Cursor.reset place)
  | skip count => return .verdict (← Cursor.skip count)
  | rewind count => return .verdict (← Cursor.rewind count)
  | read => return .element (← Cursor.read)
  | readIf m => return .element (← Cursor.readIf m)
  | readSeq pattern => return .verdict (← Cursor.readSeq pattern)
  | readNext => return .element (← Cursor.readNext)
  | readNextIf m => return .element (← Cursor.readNextIf m)
  | readNextSeq pattern => return .verdict (← Cursor.readNextSeq pattern)
  | readWhile m => return .run (← Cursor.readWhile m)
  | readNextWhile m => return .run (← Cursor.readNextWhile m)
  | skipWhile m => return .verdict (← Cursor.skipWhile m)
  | skipUntil m => return .verdict (← Cursor.skipUntil m)
  | skipBlank blank endCounts => return .verdict (← Cursor.skipBlank blank endCounts)
  | readWord starts continues => return .word (← Cursor.readWord starts continues)

/-! ### Operations on texts -/

/-- Whether a string starts at the head. -/
def startsWith (s : String) : Operation Char :=
  .matchesAt 0 s.toList

/-- Consume a string that starts at the head. -/
def readString (s : String) : Operation Char :=
  .readSeq s.toList

/-- Step onto the last character of a string that starts right ahead of the head. -/
def readNextString (s : String) : Operation Char :=
  .readNextSeq s.toList

/-- Skip white space. -/
def skipWhiteSpace (endCounts : Bool) : Operation Char :=
  .skipBlank Unicode.isWhiteSpace endCounts

/-- Consume an identifier. -/
def readIdentifier : Operation Char :=
  .readWord Unicode.isIdentifierStart Unicode.isIdentifierContinue

end Operation

end Rewind
