import Rewind.Proofs.Fill
import Rewind.Session

/-!
# Opening a cursor

A cursor is opened over a script, or over a sequence that cannot fail with its first answer taken
in by hand. `Opening` holds either, and **the two ways agree** (`Opening.open?_eq`): whatever is
proved of cursors opened over scripts is proved of all.

Opening makes one pull. Where that pull fails, its failure is all that is opened
(`View.open?_eq_error_iff`).
-/

namespace Rewind

variable {α : Type}

/-- What a cursor may be opened over. -/
inductive Opening (α : Type) where
  | source (script : Source α)
  /-- A sequence that cannot fail; `none` is an answer without an element. -/
  | sequence (xs : List (Option α))

namespace Opening

/-- What the pulls of the cursor are answered with. -/
def script : Opening α → Source α
  | source script => script
  | sequence xs => .ofElements xs

/-- Open a cursor. -/
def open? (key : Nat) (config : Config) (keepsLines : Bool) : Opening α → Except Fault (View α)
  | source script => View.open? key script config keepsLines
  | sequence xs => .ok (View.ofSequence key xs config keepsLines)

end Opening

namespace Buffer

theorem run_ensure_ofSource (key : Nat) (script : Source α) (config : Config) :
    (ensure 0).run (ofSource key script config) =
      match script with
      | [] | .exhaustion :: _ =>
        .ok false { ofSource key script config with source := some script.tail, pulls := 1 }.close
      | .element x :: rest =>
        .ok true { ofSource key script config with
          items := #[x], source := some rest, pulls := 1 }
      | .failure m :: rest =>
        .error (.source m) { ofSource key script config with source := some rest, pulls := 1 } := by
  rw [run_ensure, run_fill_of_some rfl]
  rcases script with _ | ⟨_ | m | _, rest⟩
  · simp [ofSource, Source.draw, absorb]
  · simp [ofSource, Source.draw, absorb, Haul.after]
  · simp [ofSource, Source.draw, absorb]
  · simp [ofSource, Source.draw, absorb]

end Buffer

namespace View

variable {key : Nat} {script : Source α} {config : Config} {keepsLines : Bool} {v : View α}
  {fault : Fault}

/-- **Opening fails only with the failure of the first pull**, and always then. -/
theorem open?_eq_error_iff : open? key script config keepsLines = .error fault ↔
    ∃ m rest, script = .failure m :: rest ∧ fault = .source m := by
  rw [open?, Buffer.run_ensure_ofSource]
  rcases script with _ | ⟨_ | m | _, rest⟩
  · simp
  · simp
  · simp [eq_comm]
  · simp

/-- A cursor that is opened stands at the start of a buffer that has taken in one answer without
a failure, and that knows whether there is a first element. -/
theorem of_open? (h : open? key script config keepsLines = .ok v) :
    (∃ told, (Buffer.ofSource key script config).Takes told v.buffer ∧
      Source.failures told = []) ∧ v.buffer.Settles 0 ∧
      v.cursor = Cursor.atStart v.buffer (initial keepsLines) := by
  rw [open?] at h
  split at h
  · next b hrun =>
    cases h
    obtain ⟨htakes, hsettles, -⟩ := Buffer.of_run_ensure hrun
    exact ⟨htakes, hsettles, rfl⟩
  · cases h

end View

/-- **The two ways to open a cursor agree.** -/
theorem Opening.open?_eq (o : Opening α) (key : Nat) (config : Config) (keepsLines : Bool) :
    o.open? key config keepsLines = View.open? key o.script config keepsLines := by
  rcases o with script | xs
  · rfl
  · rw [View.open?, Buffer.run_ensure_ofSource]
    rcases xs with _ | ⟨_ | x, rest⟩ <;> rfl

end Rewind
