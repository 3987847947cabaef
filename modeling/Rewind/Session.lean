import Rewind.Cursor.Open
import Rewind.Operation
import Rewind.Remaining

/-!
# Sessions

A session is one buffer with all the cursors and all the remainders that were ever made over it,
each known by its number. A command is one step of it: an operation on one cursor, a fork, a new
remainder, or one more element of a remainder. What a step changes is the buffer and at most one
cursor or one remainder; nothing else in a session can tell that the step was made, except by
what the buffer holds.
-/

namespace Rewind

/-- A buffer and everything that looks at it. -/
structure Session (α : Type) where
  buffer : Buffer α
  cursors : List Cursor
  remainders : List Remaining := []
  deriving DecidableEq

/-- One step of a session. -/
inductive Command (α : Type) where
  /-- Ask something of a cursor. -/
  | apply (cursor : Nat) (operation : Operation α)
  /-- Make a cursor with the same head. -/
  | fork (cursor : Nat)
  /-- Make a cursor with the same head that keeps no lines. -/
  | forkPlain (cursor : Nat)
  /-- Start a remainder at a head. -/
  | remaining (cursor : Nat) (withPrevious withCurrent : Bool)
  /-- Take the next element of a remainder. -/
  | advance (remainder : Nat)

/-- What a command came to. -/
inductive Outcome (α : Type) where
  | answered (reply : Reply α)
  | failed (fault : Fault)
  deriving DecidableEq

namespace Session

variable {α : Type}

/-- The session that an opened cursor starts. -/
def start (v : View α) : Session α :=
  { buffer := v.buffer, cursors := [v.cursor] }

/-- A cursor with the buffer it stands over. -/
def view? (s : Session α) (cursor : Nat) : Option (View α) :=
  s.cursors[cursor]?.map fun c => ⟨s.buffer, c⟩

/-- Act on one cursor of a session. -/
def onCursor (cursor : Nat) (act : Moving α (Reply α)) : Action (Session α) (Reply α) :=
  fun ⟨buffer, cursors, remainders⟩ =>
    match cursors[cursor]? with
    | none => .ok .absent ⟨buffer, cursors, remainders⟩
    | some c =>
      match act.run ⟨buffer, c⟩ with
      | .ok reply v => .ok reply ⟨v.buffer, cursors.set cursor v.cursor, remainders⟩
      | .error fault v => .error fault ⟨v.buffer, cursors.set cursor v.cursor, remainders⟩

/-- Add a fork of a cursor, changed by `change`, and log that it was forked. -/
def addFork (cursor : Nat) (change : Cursor → Cursor) : Action (Session α) (Reply α) := do
  let s ← get
  match s.cursors[cursor]? with
  | none => return .absent
  | some c =>
    set { s with
      buffer := s.buffer.record (.forked c.index)
      cursors := s.cursors ++ [change c] }
    return .number s.cursors.length

/-- Add a remainder that starts at a head. -/
def addRemainder (cursor : Nat) (withPrevious withCurrent : Bool) :
    Action (Session α) (Reply α) := do
  let s ← get
  match s.cursors[cursor]? with
  | none => return .absent
  | some c =>
    set { s with remainders := s.remainders ++ [c.remaining withPrevious withCurrent] }
    return .number s.remainders.length

/-- Take the next element of a remainder, which then goes on behind it. -/
def advance (remainder : Nat) : Action (Session α) (Reply α) :=
  fun ⟨buffer, cursors, remainders⟩ =>
    match remainders[remainder]? with
    | none => .ok .absent ⟨buffer, cursors, remainders⟩
    | some r =>
      match r.next?.run buffer with
      | .ok none b => .ok (.element none) ⟨b, cursors, remainders⟩
      | .ok (some (x, r')) b => .ok (.element (some x)) ⟨b, cursors, remainders.set remainder r'⟩
      | .error fault b => .error fault ⟨b, cursors, remainders⟩

variable [LineElement α] [DecidableEq α]

/-- What a command does and answers. -/
def step : Command α → Action (Session α) (Reply α)
  | .apply cursor operation => onCursor cursor operation.run
  | .fork cursor => addFork cursor id
  | .forkPlain cursor => addFork cursor Cursor.plain
  | .remaining cursor withPrevious withCurrent => addRemainder cursor withPrevious withCurrent
  | .advance remainder => advance remainder

/-- Carry out a command: its answer or its fault, and the session it leaves. -/
def perform (s : Session α) (command : Command α) : Outcome α × Session α :=
  match (step command).run s with
  | .ok reply t => (.answered reply, t)
  | .error fault t => (.failed fault, t)

/-- Carry out commands one after the other; a command that fails does not keep the next one from
being carried out. All answers and faults in order, and the session they end with. -/
def run (s : Session α) : List (Command α) → List (Outcome α) × Session α
  | [] => ([], s)
  | command :: rest =>
    let (outcome, t) := s.perform command
    let (outcomes, final) := t.run rest
    (outcome :: outcomes, final)

end Session

end Rewind
