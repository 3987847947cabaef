import Rewind.Log.Logger

/-!
# What is worth a log line

Three things that happen to a buffer and its cursors are logged: the source runs out, a cursor is
forked, and reading the whole text pulls what nobody had asked for yet.
-/

namespace Rewind

/-- Something that is logged. -/
inductive Event where
  /-- The source ran out after this many elements. -/
  | exhausted (count : Nat)
  /-- A cursor whose head is at this index was forked. -/
  | forked (index : Int)
  /-- Reading the whole text pulled this many elements. -/
  | materialised (count : Nat)
  deriving DecidableEq

namespace Event

/-- How severe an event is. -/
def level : Event → Level
  | exhausted _ => .debug
  | forked _ => .verbose
  | materialised _ => .warn

/-- The sentence that reports an event. -/
def message : Event → String
  | exhausted count => s!"source exhausted after {count} elements"
  | forked index => s!"forking cursor at {index}"
  | materialised count =>
    s!"materialising text pulled {count} unread characters from the source"

/-- The line that a logger writes for an event. -/
def line (logger : Logger) (event : Event) : String :=
  logger.render event.level event.message

end Event

end Rewind
