/-!
# Tests on single elements

What an element must be for a read to consume it: equal to a given one, equal to one of several,
or accepted by a decision.
-/

namespace Rewind

/-- A test on one element. -/
inductive Matcher (α : Type) where
  | exact (x : α)
  /-- Equal to one of these; an empty list accepts nothing. -/
  | oneOf (set : List α)
  | satisfying (decision : α → Bool)

/-- Whether an element passes the test. -/
def Matcher.accepts {α : Type} [DecidableEq α] : Matcher α → α → Bool
  | exact x, y => x = y
  | oneOf set, y => set.contains y
  | satisfying decision, y => decision y

/-- An element used as a test accepts itself alone. -/
instance {α : Type} : Coe α (Matcher α) where
  coe := Matcher.exact

end Rewind
