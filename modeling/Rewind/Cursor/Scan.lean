import Rewind.Cursor.Run

/-!
# Cursors: scanning ahead

A scan looks at one element after the other from some offset on, for as long as they pass a test,
and hands out what passed together with the element that did not. Nothing moves while it looks,
so a failure of the source in the middle leaves the head where it was, and a caller moves once,
by the length of what was scanned.

Two operations are scans followed by a move: `skipUntil` goes to the first element that passes a
test, and `readWord` consumes an element that can start a word and all that go on with it.
-/

namespace Rewind

/-- What a scan saw: the elements that passed, and the first that did not, if there was one. -/
structure Scanned (α : Type) where
  passed : List α
  stop : Option α

namespace Cursor

variable {α : Type}

/-- Past an element that was looked at, less lies ahead. -/
theorem lt_of_peek_of_add {c : Cursor} {offset following : Int} {b b' : Buffer α} {x : α}
    (h : (c.peek offset).run b = .ok (some x) b') (hf : Offset.add? offset 1 = some following) :
    (b'.reach - (c.index + following)).toNat < (b.reach - (c.index + offset)).toNat := by
  obtain ⟨-, rfl⟩ := Offset.add?_eq_some_iff.1 hf
  obtain ⟨hreach, hlt⟩ := reach_le_of_peek h
  have := b'.size_le_reach
  omega

/-- Look at the elements from `offset` on while they pass a test. -/
def scan (p : α → Bool) (c : Cursor) (offset : Int) : Peeking α (Scanned α) := fun b =>
  match h : (c.peek offset).run b with
  | .error fault b' => .error fault b'
  | .ok none b' => .ok ⟨[], none⟩ b'
  | .ok (some x) b' =>
    if p x then
      match hf : Offset.add? offset 1 with
      | none => .error (.misuse .seekOverflow) b'
      | some following =>
        have := lt_of_peek_of_add h hf
        match c.scan p following b' with
        | .ok scanned b'' => .ok { scanned with passed := x :: scanned.passed } b''
        | .error fault b'' => .error fault b''
    else .ok ⟨[], some x⟩ b'
termination_by b => (b.reach - (c.index + offset)).toNat

/-- One step of a scan: the end, an element that passes and the rest of the scan, an element that
does not, or a failure. -/
theorem run_scan (p : α → Bool) (c : Cursor) (offset : Int) (b : Buffer α) :
    (c.scan p offset).run b =
      match (c.peek offset).run b with
      | .error fault b' => .error fault b'
      | .ok none b' => .ok ⟨[], none⟩ b'
      | .ok (some x) b' =>
        if p x then
          match Offset.add? offset 1 with
          | none => .error (.misuse .seekOverflow) b'
          | some following =>
            match (c.scan p following).run b' with
            | .ok scanned b'' => .ok { scanned with passed := x :: scanned.passed } b''
            | .error fault b'' => .error fault b''
        else .ok ⟨[], some x⟩ b' := by
  change c.scan p offset b = _
  rw [scan]
  split
  · next h => rw [h]
  · next h => rw [h]
  · next x b' h =>
    conv => rhs; rw [h]
    by_cases hp : p x
    · rw [if_pos hp]
      conv => rhs; simp only [if_pos hp]
      split
      · next hf => rw [hf]
      · next following hf =>
        conv => rhs; rw [hf]
        rfl
    · rw [if_neg hp]
      conv => rhs; simp only [if_neg hp]

variable [LineElement α]

/-- Move the head onto the first element, the one under it included, that passes a test. The head
stays if the source runs out before one does. -/
def skipUntil [DecidableEq α] (m : Matcher α) : Moving α Bool := do
  let scanned ← look (·.scan (fun x => !m.accepts x) 0)
  if scanned.stop.isSome then skip scanned.passed.length else pure false

/-- Consume a word: an element that `starts` accepts, and all following ones up to the first that
`continues` refuses. A word that ends the source cannot be consumed and the head stays. -/
def readWord (starts continues : α → Bool) : Moving α (Option (List α)) := do
  match ← look (·.peek 0) with
  | none => pure none
  | some x =>
    if starts x then do
      let scanned ← look (·.scan continues 1)
      return if ← skip (scanned.passed.length + 1) then some (x :: scanned.passed) else none
    else pure none

end Cursor

end Rewind
