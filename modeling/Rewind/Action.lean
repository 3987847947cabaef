import Rewind.Fault
import Rewind.Offset

/-!
# Actions that may fail

An operation on a buffer or on a cursor is an action: from a state it makes an answer or a fault,
**and in either case a new state**. A fault therefore does not undo what came before it, and what
an operation leaves behind when it fails is part of its meaning.
-/

namespace Rewind

/-- An action on states of type `σ` that answers with a `β` or fails. -/
abbrev Action (σ β : Type) := EStateM Fault σ β

/-- Go on with a place or distance that fits, and raise `Misuse.seekOverflow` for one that does
not. -/
def Offset.orOverflow {σ : Type} : Option Int → Action σ Int
  | some i => pure i
  | none => throw (.misuse .seekOverflow)

namespace Action

variable {σ β γ : Type}

/-- Raising a fault leaves the state as it is. -/
@[simp] theorem run_throw (fault : Fault) (s : σ) :
    (throw fault : Action σ β).run s = .error fault s := rfl

/-- Two actions in a row succeed when the first does and the second does from where it left. -/
theorem run_bind_eq_ok {x : Action σ β} {f : β → Action σ γ} {s t : σ} {c : γ} :
    (x >>= f).run s = .ok c t ↔ ∃ b u, x.run s = .ok b u ∧ (f b).run u = .ok c t := by
  rw [EStateM.run_bind]
  cases x.run s with
  | ok b u =>
    constructor
    · exact fun h => ⟨b, u, rfl, h⟩
    · rintro ⟨_, _, ⟨⟩, h⟩
      exact h
  | error e u => simp

/-- A fit place or distance goes through, and the state stays. -/
theorem run_orOverflow_eq_ok {i : Option Int} {s t : σ} {j : Int} :
    (Offset.orOverflow i).run s = .ok j t ↔ i = some j ∧ s = t := by
  cases i with
  | some i => simp [Offset.orOverflow]
  | none => simp [Offset.orOverflow]

end Action

end Rewind
