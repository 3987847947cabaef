import Rewind.Cursor.Move

/-!
# Cursors: reading

A read consumes elements, or nothing: when the elements do not match, or the head cannot advance
over all of them, the head stays where it is.

There are two styles. The **reads** start at the element under the head and leave the head on the
element behind the match. The head never leaves the last element, so that element can be matched
but not consumed. The **reads of the next** start at the element ahead of the head and leave the
head on the last matched element, so a match that ends the source can be consumed; the element
under the head cannot.
-/

namespace Rewind.Cursor

variable {α : Type} [LineElement α]

/-- Answer `x` if the head advances by one. -/
def advanceWith (x : α) : Moving α (Option α) := do
  return if ← moveBy 1 then some x else none

/-- Consume the element under the head. -/
def read : Moving α (Option α) := do
  match ← look (·.peek 0) with
  | none => pure none
  | some x => advanceWith x

/-- Step onto the next element and answer it. -/
def readNext : Moving α (Option α) := do
  if ← moveBy 1 then look (·.peek 0) else pure none

variable [DecidableEq α]

/-- Consume the element under the head if it passes a test. -/
def readIf (m : Matcher α) : Moving α (Option α) := do
  match ← look (·.peek 0) with
  | none => pure none
  | some x => if m.accepts x then advanceWith x else pure none

/-- Step onto the next element if it passes a test. -/
def readNextIf (m : Matcher α) : Moving α (Option α) := do
  match ← look (·.peek 1) with
  | none => pure none
  | some x => if m.accepts x then advanceWith x else pure none

/-- Consume a pattern that starts at the element under the head. -/
def readSeq (pattern : List α) : Moving α Bool := do
  if ← look (·.matchesAt 0 pattern) then skip pattern.length else pure false

/-- Step onto the last element of a pattern that starts at the next element. -/
def readNextSeq (pattern : List α) : Moving α Bool := do
  if ← look (·.matchesAt 1 pattern) then skip pattern.length else pure false

end Rewind.Cursor
