import Rewind.Proofs.Moves
import Rewind.Proofs.Opening
import Rewind.Proofs.Sessions

/-!
# A logger only listens

Whatever is asked of the cursors and the remainders over a buffer **comes out alike with any logger
and with none**, and leaves them alike but for the log and the setting itself
(`Session.unseen_muted`). An action does not see what it does not look at, so it is enough that none
of the steps that operations are made of looks at either: with the logger taken away before or
after, each comes to the same.

A session with a logger is therefore the session without one, and a log. What can be told from the
one can be told of all (`Session.run_muted`).
-/

namespace Rewind

variable {α β : Type}

open Cursor

/-! ### Buffers without a logger -/

namespace Buffer

/-- The same buffer without its logger and its log. -/
def muted (b : Buffer α) : Buffer α :=
  { b with config.logger := none, log := #[] }

@[simp] theorem muted_record (b : Buffer α) (event : Event) : (b.record event).muted = b.muted := by
  unfold record
  split <;> rfl

/-- Without a logger nothing is logged. -/
@[simp] theorem record_muted (b : Buffer α) (event : Event) : b.muted.record event = b.muted :=
  if_neg (Bool.false_ne_true)

theorem close_muted (b : Buffer α) : b.muted.close = b.close.muted := by
  rw [close, close, muted_record]
  exact record_muted { b with source := none } _

/-- **Actions on a buffer that do not see its logger.** -/
def muting : Judgement (Buffer α) :=
  .blindTo muted

theorem muting_fill (limit : Option Nat) (b : Buffer α) : muting.Holds (fill limit) b := by
  rcases hb : b.source with _ | script
  · exact (run_fill_of_none (b := b.muted) hb limit).trans
      (congrArg (Action.onState muted) (run_fill_of_none hb limit)).symm
  · refine Judgement.blindTo_iff.2 ?_
    rw [run_fill_of_some hb, run_fill_of_some (b := b.muted) hb]
    rcases (script.draw limit).stop with _ | m | _
    · rfl
    · rfl
    · exact congrArg (EStateM.Result.ok ()) (close_muted (b.absorb (script.draw limit)))

theorem muting_record (event : Event) (b : Buffer α) :
    muting.Holds (modify (·.record event) : Peeking α Unit) b := by
  refine Judgement.blindTo_iff.2 ?_
  simp only [EStateM.run_modify, record_muted, Action.onState, muted_record]

theorem muting_ensure (target : Nat) (b : Buffer α) : muting.Holds (ensure target) b :=
  Judgement.blindTo_get rfl (muting.seq (muting_fill _ b) fun _ t _ =>
    Judgement.blindTo_get rfl (muting.done _ t))

theorem muting_fetch (target : Nat) (b : Buffer α) : muting.Holds (fetch target) b :=
  muting.seq (muting_ensure target b) fun _ t _ => Judgement.blindTo_get rfl (muting.done _ t)

theorem muting_drain (b : Buffer α) : muting.Holds drain b :=
  Judgement.blindTo_get rfl (muting.seq (muting_fill _ b) fun _ t _ =>
    Judgement.blindTo_get rfl (muting.done _ t))

theorem muting_text (b : Buffer α) : muting.Holds text b := by
  have htell (t : Buffer α) : muting.Holds (do return (← get).items.toList : Peeking α _) t :=
    Judgement.blindTo_get rfl (muting.done _ t)
  exact muting.seq (muting_drain b) fun pulled t _ => muting.ite
    (fun _ => muting.seq (muting_record _ t) fun _ u _ => htell u) fun _ => htell t

end Buffer

/-! ### Operations do not see the logger -/

namespace View

/-- The same view without a logger. -/
def muted (v : View α) : View α :=
  { v with buffer := v.buffer.muted }

/-- **Actions on a cursor that do not see the logger of its buffer.** -/
def muting : Judgement (View α) :=
  .blindTo muted

theorem muting_look {f : Cursor → Peeking α β} {v : View α}
    (hf : Buffer.muting.Holds (f v.cursor) v.buffer) : muting.Holds (look f) v := by
  refine Judgement.blindTo_iff.2 ?_
  have hmuted : (f v.muted.cursor).run v.muted.buffer =
    Action.onState Buffer.muted ((f v.cursor).run v.buffer) := Judgement.blindTo_iff.1 hf
  rw [run_look, run_look, hmuted]
  rcases (f v.cursor).run v.buffer with ⟨b, t⟩ | ⟨fault, t⟩ <;> rfl

theorem muting_shift (offset : Int) (v : View α) : muting.Holds (shift offset) v := by
  refine muting.ite (fun _ => muting.done true v) fun _ => ?_
  refine muting.seq rfl fun c t _ => muting.seq (muting.orOverflow rfl _) fun target u _ => ?_
  refine muting.ite (fun _ => muting.done false u) fun _ => muting.ite (fun _ => rfl) fun _ => ?_
  refine muting.seq (muting_look (Buffer.muting_ensure _ u.buffer)) fun found w _ => ?_
  exact muting.ite (fun _ => rfl) fun _ => rfl

variable [LineElement α]

theorem muting_follow (c : Cursor) (v : View α) : muting.Holds (follow c) v := by
  refine Judgement.blindTo_iff.2 ?_
  obtain ⟨i, r, _ | p⟩ := c
  · rfl
  have hwalk : v.muted.buffer.walk? i v.muted.cursor.index p =
    v.buffer.walk? i v.cursor.index p := rfl
  rcases h : v.buffer.walk? i v.cursor.index p with _ | q
  · simp only [EStateM.run, follow, hwalk, h]
    rfl
  · simp only [EStateM.run, follow, hwalk, h]
    rfl

theorem muting_moveBy (offset : Int) (v : View α) : muting.Holds (moveBy offset) v :=
  muting.seq rfl fun c t _ => muting.seq (muting_shift offset t) fun _ u _ =>
    muting.ite (fun _ => muting_follow c u) fun _ => muting.done false u

theorem muting_moveTo (place : Location) (offset : Int) (v : View α) :
    muting.Holds (moveTo place offset) v := by
  refine blindTo_moveTo rfl rfl rfl rfl rfl (fun p => ?_) fun i => muting_moveBy i v
  have hwalk (target : Int) :
      v.muted.buffer.walk? place.index target p = v.buffer.walk? place.index target p := rfl
  rw [arrive, arrive, hwalk]
  rcases v.buffer.walk? place.index (place.index + offset) p with _ | q <;> rfl

theorem muting_covers : Judgement.Covers (muting (α := α)) where
  raise _ _ _ := rfl
  sourceIsEmpty _ := rfl
  peek offset v :=
    muting_look (Judgement.peek_of_fetch Buffer.muting_fetch v.cursor offset v.buffer)
  current v := muting_look
    (Judgement.current_of_fetch Buffer.muting_fetch (fun _ _ _ => rfl) v.cursor v.buffer)
  text v := muting_look (Buffer.muting_text v.buffer)
  moveBy := muting_moveBy

/-- **No operation sees the logger.** -/
theorem muting_run [DecidableEq α] (operation : Operation α) (v : View α) :
    muting.Holds operation.run v := by
  refine muting_covers.run operation v (fun hglance => ?_) fun place offset _ =>
    muting_moveTo place offset v
  cases operation with
  | slot | location | sourceIsEmpty | isAtStart | isStartOfLine => rfl
  | _ => exact hglance.elim

end View

/-! ### Sessions do not see the logger -/

namespace Session

/-- The same session without a logger. -/
def muted (s : Session α) : Session α :=
  { s with buffer := s.buffer.muted }

theorem muted_eq_mapped (s : Session α) : s.muted = s.mapped Buffer.muted id := by
  rw [muted, mapped, List.map_id]

variable [LineElement α] [DecidableEq α]

/-- **No command sees the logger.** -/
theorem unseen_muted : Unseen (Buffer.muted (α := α)) id where
  operation := View.muting_run
  fetch := Buffer.muting_fetch
  record b event := by rw [Buffer.record_muted, Buffer.muted_record]
  index _ := rfl
  plain _ := rfl

theorem perform_muted (s : Session α) (command : Command α) :
    s.muted.perform command = ((s.perform command).1, (s.perform command).2.muted) := by
  rw [muted_eq_mapped, muted_eq_mapped, unseen_muted.perform]

/-- **A run comes out alike without a logger.** -/
theorem run_muted (s : Session α) (commands : List (Command α)) :
    s.muted.run commands = ((s.run commands).1, (s.run commands).2.muted) := by
  rw [muted_eq_mapped, muted_eq_mapped, unseen_muted.run]

end Session

/-- A cursor is opened alike without a logger. -/
theorem View.open?_muted (key : Nat) (script : Source α) (config : Config) (keepsLines : Bool) :
    View.open? key script (config.withLogger none) keepsLines =
      (View.open? key script config keepsLines).map View.muted := by
  have hmuted : (Buffer.ensure 0).run (Buffer.ofSource key script (config.withLogger none)) =
      Action.onState Buffer.muted ((Buffer.ensure 0).run (Buffer.ofSource key script config)) :=
    Buffer.muting_ensure 0 (Buffer.ofSource key script config)
  rw [View.open?, View.open?, hmuted]
  rcases (Buffer.ensure 0).run (Buffer.ofSource key script config) with ⟨_, b⟩ | ⟨fault, b⟩ <;> rfl

end Rewind
