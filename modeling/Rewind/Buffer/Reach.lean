import Rewind.Buffer.Basic

/-!
# How far a buffer can reach

The elements a buffer holds and the entries left in its source bound every place that can ever
hold an element. **No pull raises this bound** (`reach_le_of_fill`): an entry that turns into an
element moves from the one side of the sum to the other, and every other entry is lost to it.

So an action that steps from element to element comes to an end, and this is the measure by which
the loops over a buffer are seen to terminate.
-/

namespace Rewind.Buffer

variable {α : Type}

/-- The number of elements the buffer holds or can still come to hold. -/
def reach (b : Buffer α) : Nat :=
  b.items.size + b.source.elim 0 List.length

theorem size_le_reach (b : Buffer α) : b.items.size ≤ b.reach :=
  Nat.le_add_right ..

theorem reach_close_le (b : Buffer α) : b.close.reach ≤ b.reach := by
  simp [reach]

/-- What a haul brings was in the script before. -/
theorem reach_absorb_draw_le {b : Buffer α} {script : Source α} (h : b.source = some script)
    (limit : Option Nat) : (b.absorb (script.draw limit)).reach ≤ b.reach := by
  have := script.length_elements_add_length_rest_le limit
  simp only [reach, absorb, h, Option.elim_some, Array.size_append,
    List.size_toArray]
  omega

/-- Filling a buffer does not raise its bound. -/
theorem reach_le_of_fill {limit : Option Nat} {b b' : Buffer α} {u : Unit}
    (h : (fill limit).run b = .ok u b') : b'.reach ≤ b.reach := by
  simp only [EStateM.run, fill] at h
  split at h
  · cases h
    exact Nat.le_refl _
  · next script hs =>
    have := reach_absorb_draw_le hs limit
    split at h <;> cases h
    · exact this
    · exact Nat.le_trans (reach_close_le _) this

/-- Asking for a place does not raise the bound. -/
theorem reach_le_of_ensure {target : Nat} {b b' : Buffer α} {found : Bool}
    (h : (ensure target).run b = .ok found b') :
    b'.reach ≤ b.reach ∧ found = decide (target < b'.items.size) := by
  simp only [ensure, Action.run_bind_eq_ok, EStateM.run_get, EStateM.run_pure] at h
  obtain ⟨_, _, ⟨⟩, _, b₁, h₁, _, _, ⟨⟩, ⟨⟩⟩ := h
  exact ⟨reach_le_of_fill h₁, rfl⟩

/-- A place that answers with an element lies within what the buffer holds afterwards. -/
theorem lt_size_of_fetch {target : Nat} {b b' : Buffer α} {x : α}
    (h : (fetch target).run b = .ok (some x) b') :
    b'.reach ≤ b.reach ∧ target < b'.items.size := by
  simp only [fetch, Action.run_bind_eq_ok, EStateM.run_get, EStateM.run_pure] at h
  obtain ⟨_, b₁, h₁, _, _, ⟨⟩, h₂⟩ := h
  simp only [EStateM.Result.ok.injEq] at h₂
  obtain ⟨h₂, rfl⟩ := h₂
  exact ⟨(reach_le_of_ensure h₁).1, (Array.getElem?_eq_some_iff.1 h₂).1⟩

end Rewind.Buffer
