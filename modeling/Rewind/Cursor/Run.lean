import Rewind.Cursor.Read

/-!
# Cursors: reading runs

A run is what a read gives when it is repeated until it gives nothing. `Reader.many` repeats any
read that makes progress, and a read makes progress when each element it gives leaves less
ahead of the head: the bound `Buffer.reach` does not grow and the head comes nearer to it.

A failure in the middle of a run ends it: what was read is lost, and the head stays as far as it
got.
-/

namespace Rewind

variable {α β : Type}

/-- A bound on the number of elements ahead of the head, the one under it included. -/
def View.ahead (v : View α) : Nat :=
  ((v.buffer.reach : Int) - v.cursor.index).toNat

/-- A read that makes progress. -/
structure Reader (α β : Type) where
  read : Moving α (Option β)
  /-- Whatever is read leaves less ahead of the head. -/
  ahead_lt : ∀ {v v' : View α} {x : β}, read.run v = .ok (some x) v' → v'.ahead < v.ahead

/-- Read until nothing is read; what was read, in order. -/
def Reader.many (reader : Reader α β) : Moving α (List β) := fun v =>
  match h : reader.read.run v with
  | .ok none v' => .ok [] v'
  | .ok (some x) v' =>
    have := reader.ahead_lt h
    match reader.many v' with
    | .ok xs v'' => .ok (x :: xs) v''
    | .error fault v'' => .error fault v''
  | .error fault v' => .error fault v'
termination_by v => v.ahead

/-- One step of a run: nothing more, or one element and the rest of the run, or a failure. -/
theorem Reader.run_many (reader : Reader α β) (v : View α) :
    reader.many.run v =
      match reader.read.run v with
      | .ok none v' => .ok [] v'
      | .ok (some x) v' =>
        match reader.many.run v' with
        | .ok xs v'' => .ok (x :: xs) v''
        | .error fault v'' => .error fault v''
      | .error fault v' => .error fault v' := by
  change reader.many v = _
  rw [many]
  split
  · next h => rw [h]
  · next h =>
    conv => rhs; rw [h]
    rfl
  · next h => rw [h]

namespace Cursor

/-! ### A head that advances has less ahead of it -/

/-- Looking leaves the head where it is. -/
theorem run_look_eq_ok {f : Cursor → Peeking α β} {v v' : View α} {x : β} :
    (look f).run v = .ok x v' ↔
      (f v.cursor).run v.buffer = .ok x v'.buffer ∧ v'.cursor = v.cursor := by
  simp only [EStateM.run, look]
  cases (f v.cursor) v.buffer <;> cases v <;> cases v' <;> grind

/-- Nothing that was looked at is further away than the bound allows. -/
theorem reach_le_of_peek {c : Cursor} {offset : Int} {b b' : Buffer α} {x : α}
    (h : (c.peek offset).run b = .ok (some x) b') :
    b'.reach ≤ b.reach ∧ c.index + offset < b'.items.size := by
  unfold peek at h
  split at h
  · cases h
  · next target ht =>
    obtain ⟨-, rfl⟩ := Offset.add?_eq_some_iff.1 ht
    split at h
    · cases h
    · obtain ⟨hreach, hlt⟩ := Buffer.lt_size_of_fetch h
      exact ⟨hreach, by omega⟩

/-- A forward move that succeeds ends on an element of the buffer, and nothing is gained ahead. -/
theorem index_of_shift {offset : Int} (hpos : 0 < offset) {v v' : View α}
    (h : (shift offset).run v = .ok true v') :
    v'.cursor.index = v.cursor.index + offset ∧ v'.buffer.reach ≤ v.buffer.reach ∧
      v'.cursor.index < v'.buffer.items.size := by
  rw [shift, if_neg (by omega)] at h
  simp only [head, Action.run_bind_eq_ok, EStateM.run_get, EStateM.run_pure,
    Action.run_orOverflow_eq_ok] at h
  obtain ⟨_, _, ⟨_, _, ⟨⟩, ⟨⟩⟩, target, _, ⟨ht, rfl⟩, h⟩ := h
  obtain ⟨-, rfl⟩ := Offset.add?_eq_some_iff.1 ht
  split at h
  · cases h
  · rw [if_neg (by omega)] at h
    simp only [Action.run_bind_eq_ok, run_look_eq_ok] at h
    obtain ⟨found, v₁, ⟨h₁, hc⟩, h⟩ := h
    obtain ⟨hreach, hfound⟩ := Buffer.reach_le_of_ensure h₁
    split at h
    · next hf =>
      rw [hf] at hfound
      cases h
      simp only [decide_eq_true_eq, eq_comm (a := true)] at hfound
      exact ⟨rfl, hreach, by simp only; omega⟩
    · cases h

variable [LineElement α]

/-- The same for a move that also walks the line and the column along. -/
theorem index_of_moveBy {offset : Int} (hpos : 0 < offset) {v v' : View α}
    (h : (moveBy offset).run v = .ok true v') :
    v'.cursor.index = v.cursor.index + offset ∧ v'.buffer.reach ≤ v.buffer.reach ∧
      v'.cursor.index < v'.buffer.items.size := by
  simp only [moveBy, head, Action.run_bind_eq_ok, EStateM.run_get, EStateM.run_pure] at h
  obtain ⟨_, _, ⟨_, _, ⟨⟩, ⟨⟩⟩, moved, v₁, h₁, h⟩ := h
  split at h
  · next hm =>
    subst hm
    have := index_of_shift hpos h₁
    simp only [EStateM.run, follow] at h
    split at h
    · cases h; exact this
    · split at h <;> cases h
      exact this
  · cases h

/-- **Advancing by one makes progress.** -/
theorem ahead_lt_of_advanceWith {v v' : View α} {x y : α}
    (h : (advanceWith x).run v = .ok (some y) v') : v'.ahead < v.ahead := by
  simp only [advanceWith, Action.run_bind_eq_ok, EStateM.run_pure] at h
  obtain ⟨moved, v₁, h₁, h⟩ := h
  split at h
  · next hm =>
    subst hm
    cases h
    obtain ⟨hindex, hreach, hlt⟩ := index_of_moveBy (by decide) h₁
    have := v'.buffer.size_le_reach
    simp only [View.ahead]
    omega
  · cases h

/-- Look at the element `offset` places from the head and advance by one if it passes a test. Both
reads of one element under a condition are this. -/
def advanceIf (p : α → Bool) (offset : Int) : Moving α (Option α) := do
  match ← look (·.peek offset) with
  | none => pure none
  | some x => if p x then advanceWith x else pure none

/-- Such a read makes progress. -/
theorem ahead_lt_of_advanceIf {p : α → Bool} {offset : Int} {v v' : View α} {x : α}
    (h : (advanceIf p offset).run v = .ok (some x) v') : v'.ahead < v.ahead := by
  simp only [advanceIf, Action.run_bind_eq_ok, run_look_eq_ok] at h
  obtain ⟨_ | y, v₁, ⟨h₁, hc⟩, h⟩ := h
  · cases h
  · simp only at h
    split at h
    · have hlt := ahead_lt_of_advanceWith h
      have := (reach_le_of_peek h₁).1
      simp only [View.ahead, hc] at hlt ⊢
      omega
    · cases h

/-! ### Runs -/

variable [DecidableEq α]

theorem readIf_eq (m : Matcher α) : readIf m = advanceIf m.accepts 0 := rfl

theorem readNextIf_eq (m : Matcher α) : readNextIf m = advanceIf m.accepts 1 := rfl

/-- Reading one element that passes a test, as a step of a run. -/
def readerIf (m : Matcher α) : Reader α α where
  read := readIf m
  ahead_lt h := ahead_lt_of_advanceIf (readIf_eq m ▸ h)

/-- Reading the next element if it passes a test, as a step of a run. -/
def readerNextIf (m : Matcher α) : Reader α α where
  read := readNextIf m
  ahead_lt h := ahead_lt_of_advanceIf (readNextIf_eq m ▸ h)

/-- Consume elements while they pass a test; those the head advanced past. The head stops on the
last element of the source even if that passes, and does not count it. -/
def readWhile (m : Matcher α) : Moving α (List α) :=
  (readerIf m).many

/-- Step forward while the next element passes a test; the elements the head moved onto. -/
def readNextWhile (m : Matcher α) : Moving α (List α) :=
  (readerNextIf m).many

/-- Advance past elements while they pass a test; whether there were any. -/
def skipWhile (m : Matcher α) : Moving α Bool := do
  return !(← readWhile m).isEmpty

end Cursor

end Rewind
