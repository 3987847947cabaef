import Rewind.Proofs.Fill
import Rewind.Session

/-!
# The eager machine

What cursors would be if nothing had to be pulled. **The whole text is there from the start**, in a
`Text`, and a cursor is its head alone: looking is a lookup in the text, a move compares its target
with the length of the text, and a line and a column are counted anew from the start wherever the
head arrives. There is no buffer that could be shared, so nothing that is asked of one cursor can
be noticed by another.

Each operation of a cursor has its meaning here, `Text.run`, and so has each command of a session,
`Text.perform`, over the heads and the remainders alone. Places and distances that leave their
range are refused as they are anywhere.
-/

namespace Rewind

variable {α β : Type}

/-- A text that is all there, with the decision which of its elements end a line. -/
structure Text (α : Type) where
  elements : List α
  feeds : α → Bool

namespace Text

variable (t : Text α)

/-- The line and the column of a place, counted from the start of the text. -/
def position (i : Int) : Position :=
  .ofBehind t.feeds (t.elements.take i.toNat).reverse

/-! ### Looking -/

/-- The element `offset` places from a head, if that is a place of the text. -/
def seen (c : Cursor) (offset : Int) : Option α :=
  (Offset.add? c.index offset).bind (elementAt? t.elements)

/-- The element `offset` places from the head. -/
def peek (offset : Int) : Action Cursor (Option α) :=
  return t.seen (← get) offset

/-- The element under the head. -/
def current : Action Cursor α := do
  match ← t.peek 0 with
  | some x => pure x
  | none => throw (.misuse .emptySource)

/-- Whether no element follows the head. -/
def isAtEnd : Action Cursor Bool :=
  return (← t.peek 1).isNone

/-- Whether the rest of a pattern, whose first `matched` elements are behind, follows from
`offset + matched` on. -/
def matchesFrom [DecidableEq α] (offset : Int) : Nat → List α → Action Cursor Bool
  | _, [] => pure true
  | matched, x :: rest => do
    match Offset.add? offset (← Offset.orOverflow (Offset.ofCount? matched)) with
    | none => pure false
    | some ahead => do
      let y ← t.peek ahead
      if y = some x then matchesFrom offset (matched + 1) rest else pure false

/-- Whether a pattern stands at `offset` places from the head. -/
def matchesAt [DecidableEq α] (offset : Int) (pattern : List α) : Action Cursor Bool :=
  if pattern.isEmpty then throw (.misuse .zeroLengthMatch) else t.matchesFrom offset 0 pattern

/-- Look at the elements from `offset` on while they pass a test, at `most` so many of them. -/
def scan (p : α → Bool) : (most : Nat) → (offset : Int) → Action Cursor (Scanned α)
  | 0, _ => pure ⟨[], none⟩
  | most + 1, offset => do
    match ← t.peek offset with
    | none => pure ⟨[], none⟩
    | some x =>
      if p x then do
        let following ← Offset.orOverflow (Offset.add? offset 1)
        let scanned ← scan p most following
        pure { scanned with passed := x :: scanned.passed }
      else pure ⟨[], some x⟩

/-! ### Moving -/

/-- Put the head on a place of the text. -/
def put (target : Int) : Action Cursor Bool := do
  modify fun c => { c with
    index := target
    position := c.position.map fun _ => t.position target }
  return true

/-- Move the head by a distance. -/
def moveBy (offset : Int) : Action Cursor Bool :=
  if offset = 0 then pure true
  else do
    let c ← get
    let target ← Offset.orOverflow (Offset.add? c.index offset)
    if c.index < 0 ∨ target < 0 then pure false
    else if target < t.elements.length then t.put target
    else do
      set { c with reachedEnd := true }
      return false

/-- Move the head onto the place `offset` away from a saved one. -/
def moveTo (place : Location) (offset : Int) : Action Cursor Bool := do
  let target ← Offset.orOverflow (Offset.add? place.index offset)
  let c ← get
  if target = c.index then pure true
  else if 0 ≤ target ∧ target < t.elements.length then t.put target
  else t.moveBy (← Offset.orOverflow (Offset.sub? target c.index))

/-- Move the head forward over `count` elements. -/
def skip (count : Nat) : Action Cursor Bool := do
  t.moveBy (← Offset.orOverflow (Offset.ofCount? count))

/-- Move the head back over `count` elements. -/
def rewind (count : Nat) : Action Cursor Bool := do
  t.moveBy (-(← Offset.orOverflow (Offset.ofCount? count)))

/-! ### Reading -/

/-- Answer `x` if the head advances by one. -/
def advanceWith (x : α) : Action Cursor (Option α) :=
  return if ← t.moveBy 1 then some x else none

/-- Advance by one if the element `offset` places from the head passes a test. -/
def advanceIf (p : α → Bool) (offset : Int) : Action Cursor (Option α) := do
  match ← t.peek offset with
  | none => pure none
  | some x => if p x then t.advanceWith x else pure none

/-- Step onto the next element. -/
def readNext : Action Cursor (Option α) := do
  if ← t.moveBy 1 then t.peek 0 else pure none

/-- Advance over a pattern that stands at `offset` places from the head. -/
def advanceOver [DecidableEq α] (pattern : List α) (offset : Int) : Action Cursor Bool := do
  if ← t.matchesAt offset pattern then t.skip pattern.length else pure false

/-- Repeat a read, at `most` so many times. -/
def many (read : Action Cursor (Option β)) : (most : Nat) → Action Cursor (List β)
  | 0 => pure []
  | most + 1 => do
    match ← read with
    | none => pure []
    | some x => return x :: (← many read most)

/-- Advance while the elements `offset` places from the head pass a test. -/
def advanceWhile (p : α → Bool) (offset : Int) : Action Cursor (List α) :=
  many (t.advanceIf p offset) t.elements.length

/-- Advance past elements while they pass a test; whether there were any. -/
def skipWhile (p : α → Bool) : Action Cursor Bool :=
  return !(← t.advanceWhile p 0).isEmpty

/-- Move the head onto the first element, the one under it included, that passes a test. -/
def skipUntil (p : α → Bool) : Action Cursor Bool := do
  let scanned ← t.scan (fun x => !p x) t.elements.length 0
  if scanned.stop.isSome then t.skip scanned.passed.length else pure false

/-- Skip blanks; whether there were any. -/
def skipBlank (blank : α → Bool) (endCounts : Bool) : Action Cursor Bool := do
  if ← t.skipWhile blank then pure true
  else if !endCounts then pure false
  else if (← get).sourceIsEmpty then pure true
  else
    match ← t.peek 0 with
    | none => pure false
    | some x => if blank x then t.isAtEnd else pure false

/-- Consume a word. -/
def readWord (starts continues : α → Bool) : Action Cursor (Option (List α)) := do
  match ← t.peek 0 with
  | none => pure none
  | some x =>
    if starts x then do
      let scanned ← t.scan continues t.elements.length 1
      return if ← t.skip (scanned.passed.length + 1) then some (x :: scanned.passed) else none
    else pure none

/-! ### Operations and commands -/

/-- What an operation does to a head and answers. -/
def run [DecidableEq α] : Operation α → Action Cursor (Reply α)
  | .current => return .element (some (← t.current))
  | .previous => return .element (← t.peek (-1))
  | .next => return .element (← t.peek 1)
  | .peek offset => return .element (← t.peek offset)
  | .slot => return .slot (← get).slot?
  | .location => return .place (← get).location
  | .sourceIsEmpty => return .verdict (← get).sourceIsEmpty
  | .isAtStart => return .verdict (← get).isAtStart
  | .isAtEnd => return .verdict (← t.isAtEnd)
  | .isStartOfLine => return ((← get).isStartOfLine?.map .verdict).getD .absent
  | .matchesAt offset pattern => return .verdict (← t.matchesAt offset pattern)
  | .text => return .run t.elements
  | .moveBy offset => return .verdict (← t.moveBy offset)
  | .moveTo place offset => return .verdict (← t.moveTo place offset)
  | .reset place => return .verdict (← t.moveTo place 0)
  | .skip count => return .verdict (← t.skip count)
  | .rewind count => return .verdict (← t.rewind count)
  | .read => return .element (← t.advanceIf (fun _ => true) 0)
  | .readIf m => return .element (← t.advanceIf m.accepts 0)
  | .readSeq pattern => return .verdict (← t.advanceOver pattern 0)
  | .readNext => return .element (← t.readNext)
  | .readNextIf m => return .element (← t.advanceIf m.accepts 1)
  | .readNextSeq pattern => return .verdict (← t.advanceOver pattern 1)
  | .readWhile m => return .run (← t.advanceWhile m.accepts 0)
  | .readNextWhile m => return .run (← t.advanceWhile m.accepts 1)
  | .skipWhile m => return .verdict (← t.skipWhile m.accepts)
  | .skipUntil m => return .verdict (← t.skipUntil m.accepts)
  | .skipBlank blank endCounts => return .verdict (← t.skipBlank blank endCounts)
  | .readWord starts continues => return .word (← t.readWord starts continues)

end Text

/-- The heads and the remainders of a session. -/
structure Heads where
  cursors : List Cursor
  remainders : List Remaining := []
  deriving DecidableEq

/-- A session without its buffer. -/
def Session.heads (s : Session α) : Heads :=
  ⟨s.cursors, s.remainders⟩

namespace Text

variable [DecidableEq α] (t : Text α)

/-- Carry out a command over a text that is all there. -/
def perform (s : Heads) : Command α → Outcome α × Heads
  | .apply i operation =>
    match s.cursors[i]? with
    | none => (.answered .absent, s)
    | some c =>
      match (t.run operation).run c with
      | .ok reply d => (.answered reply, { s with cursors := s.cursors.set i d })
      | .error fault d => (.failed fault, { s with cursors := s.cursors.set i d })
  | .fork i =>
    match s.cursors[i]? with
    | none => (.answered .absent, s)
    | some c => (.answered (.number s.cursors.length), { s with cursors := s.cursors ++ [c] })
  | .forkPlain i =>
    match s.cursors[i]? with
    | none => (.answered .absent, s)
    | some c => (.answered (.number s.cursors.length), { s with cursors := s.cursors ++ [c.plain] })
  | .remaining i withPrevious withCurrent =>
    match s.cursors[i]? with
    | none => (.answered .absent, s)
    | some c =>
      (.answered (.number s.remainders.length),
        { s with remainders := s.remainders ++ [c.remaining withPrevious withCurrent] })
  | .advance j =>
    match s.remainders[j]? with
    | none => (.answered .absent, s)
    | some r =>
      match t.elements[r.landing]? with
      | none => (.answered (.element none), s)
      | some x =>
        (.answered (.element (some x)),
          { s with remainders := s.remainders.set j { r with slot := r.landing + 1 } })

/-- Carry out commands one after the other. -/
def performAll (s : Heads) : List (Command α) → List (Outcome α) × Heads
  | [] => ([], s)
  | command :: rest =>
    let (outcome, s') := t.perform s command
    let (outcomes, final) := performAll s' rest
    (outcome :: outcomes, final)

/-- The heads that a cursor opened over the text starts with. -/
def start (keepsLines : Bool) : Heads where
  cursors := [{
    index := if t.elements.isEmpty then -1 else 0
    reachedEnd := t.elements.isEmpty
    position := if keepsLines then some (t.position 0) else none }]

end Text

end Rewind
