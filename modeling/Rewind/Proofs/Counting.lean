import Rewind.Proofs.Drift

/-!
# Lines and columns are counted without overflow

A line and a column are machine words, and a walk ahead adds to them without a check. Both are taken
from saved places that may be made up, so neither need be small because the text is. Still **no
addition overflows as long as the buffer holds fewer than `2 ^ 63` elements**, and what the line and
the column come to is bounded in every reached session (`lines_and_columns_stay_bounded`).

To say so, the walks are written down once more with every addition checked (`Position.step?`): a
line or a column that does not fit a word is refused. **From a sound head the tracker that walks so
cannot be told from the way in which cursors walk**, in any move and in any operation that leaves a
small buffer (`Tracker.agrees_counted`).
-/

namespace Rewind

open Cursor

variable {α β : Type}

/-! ### Walks with checked additions -/

namespace Position

variable (feeds : α → Bool)

/-- The position after one element more, if its line and its column fit a word. -/
def step? (p : Position) (x : α) : Option Position :=
  let q := p.step feeds x
  if q.line < UInt64.size ∧ q.column < UInt64.size then some q else none

/-- Walk forward, every addition checked. -/
def forward? (p : Position) (passed : List α) : Option Position :=
  passed.foldlM (step? feeds) p

/-- Where the line and the column leave room for the whole way, they are counted to its end. -/
theorem forward?_eq {p : Position} {passed : List α}
    (hline : p.line + passed.length < UInt64.size)
    (hcolumn : p.column + passed.length < UInt64.size) :
    forward? feeds p passed = some (p.forward feeds passed) := by
  induction passed generalizing p with
  | nil => rfl
  | cons x passed ih =>
    rw [List.length_cons] at hline hcolumn
    have hstep : (p.step feeds x).line ≤ p.line + 1 ∧ (p.step feeds x).column ≤ p.column + 1 := by
      unfold step
      split
      · exact ⟨Nat.le_refl _, Nat.zero_le _⟩
      · exact ⟨Nat.le_succ _, Nat.le_refl _⟩
    have hchecked : step? feeds p x = some (p.step feeds x) := if_pos ⟨by omega, by omega⟩
    rw [forward?, List.foldlM_cons, hchecked]
    exact ih (by omega) (by omega)

end Position

namespace Buffer

variable [LineElement α]

/-- The walk from one place to another, every addition checked. Walking back only subtracts, but for
the columns that are counted anew. -/
def walkCounted (b : Buffer α) (start stop : Int) (p : Position) : Except Fault Position :=
  if start.toNat ≤ stop.toNat then
    match p.forward? b.feeds (b.items.extract start.toNat stop.toNat).toList with
    | some q => .ok q
    | none => .error (.misuse .seekOverflow)
  else
    match b.walk? start stop p with
    | some q => .ok q
    | none => .error (.misuse .locationMismatch)

/-- **In a buffer that is not too large no walk from a measured line and column overflows.** -/
theorem walkCounted_eq {b : Buffer α} {start stop : Int} {p : Position}
    (hp : p.Measured b.feeds b.items start.toNat) (hstop : stop.toNat ≤ b.items.size)
    (hsmall : Fits b.items.size) :
    b.walkCounted start stop p =
      match b.walk? start stop p with
      | some q => .ok q
      | none => .error (.misuse .locationMismatch) := by
  rw [walkCounted]
  by_cases hle : start.toNat ≤ stop.toNat
  -- The true line of the place is at most its index, and the way from there ends in the buffer.
  · have hlength : (b.items.extract start.toNat stop.toNat).toList.length =
        stop.toNat - start.toNat := by
      rw [Array.length_toList, Array.size_extract, Nat.min_eq_left hstop]
    have hline := hp.line_le
    have hcolumn := hp.column_le
    have hfeeds := Position.feedsBefore_le b.feeds b.items start.toNat
    have hword : UInt64.size = 18446744073709551616 := rfl
    obtain ⟨-, hsize⟩ := hsmall
    rw [if_pos hle, Position.forward?_eq, walk?, Position.walk?, if_pos hle]
    · omega
    · omega
  · rw [if_neg hle]

end Buffer

/-! ### Moves with checked additions -/

namespace Cursor

variable [LineElement α]

/-- Walk the line and the column along behind a head that has moved away from `c`, every addition
checked; where that fails, the head goes back. -/
def followCounted (c : Cursor) : Moving α Bool := fun v =>
  match c.position with
  | none => .ok true v
  | some p =>
    match v.buffer.walkCounted c.index v.cursor.index p with
    | .ok q => .ok true { v with cursor.position := some q }
    | .error fault => .error fault { v with cursor.index := c.index }

/-- Put a head that keeps lines onto `target`, with the line and column that a walk from the
place `start` ends with, where they are `p`. -/
def restoreCounted (start : Int) (p : Position) (target : Int) : Moving α Bool := fun v =>
  if v.buffer.admits start.toNat p then
    match v.buffer.walkCounted start target p with
    | .ok q => .ok true { v with cursor.index := target, cursor.position := some q }
    | .error fault => .error fault v
  else .error (.misuse .locationMismatch) v

/-- Following leaves the head where it is, unless it fails. -/
theorem eq_of_run_followCounted {c : Cursor} {v w : View α}
    (h : (followCounted c).run v = .ok true w) :
    w.buffer = v.buffer ∧ w.cursor.index = v.cursor.index := by
  change followCounted c v = _ at h
  rw [followCounted] at h
  split at h
  · cases h
    exact ⟨rfl, rfl⟩
  · split at h
    · cases h
      exact ⟨rfl, rfl⟩
    · cases h

end Cursor

/-- **Counting lines and columns without an overflow**: one that does not fit a word is refused. -/
def Tracker.counted [LineElement α] : Tracker α :=
  ⟨followCounted, restoreCounted, eq_of_run_followCounted⟩

namespace View

/-- Whether the buffer holds fewer than `2 ^ 63` elements: its size is an integer that a place may
be. -/
def Small (v : View α) : Prop :=
  Fits v.buffer.items.size

variable [LineElement α] {v : View α}

theorem run_followCounted {c : Cursor} (hc : c.MeasuredIn v.buffer)
    (hstop : v.cursor.index.toNat ≤ v.buffer.items.size) (hsmall : v.Small) :
    (followCounted c).run v = (follow c).run v := by
  change followCounted c v = follow c v
  rw [followCounted, follow]
  rcases hp : c.position with _ | p
  · rfl
  · simp only [Buffer.walkCounted_eq (hc p hp) hstop hsmall]
    rcases v.buffer.walk? c.index v.cursor.index p with _ | q <;> rfl

theorem run_restoreCounted {start target : Int} {p : Position}
    (hstart : v.buffer.holds start = true) (htarget : v.buffer.holds target = true)
    (hsmall : v.Small) :
    (restoreCounted start p target).run v = (restore start p target).run v := by
  rw [Buffer.holds_iff] at hstart htarget
  have hplace : start.toNat ≤ v.buffer.items.size := by omega
  have hstop : target.toNat ≤ v.buffer.items.size := by omega
  change restoreCounted start p target v = restore start p target v
  rw [restoreCounted, restore]
  rcases hadmits : v.buffer.admits start.toNat p
  · rfl
  · simp only [Buffer.walkCounted_eq (Buffer.measured_of_admits hplace hadmits) hstop hsmall]
    rcases v.buffer.walk? start target p with _ | q <;> rfl

/-- Following leaves the buffer. -/
theorem buffer_follow (c : Cursor) (v : View α) :
    Action.Ends (fun _ w => w.buffer = v.buffer) ((follow c).run v) := by
  change Action.Ends _ (follow c v)
  rw [follow]
  split
  · rfl
  · split <;> rfl

theorem buffer_restore (start : Int) (p : Position) (target : Int) (v : View α) :
    Action.Ends (fun _ w => w.buffer = v.buffer) ((restore start p target).run v) := by
  rw [run_restore, arrive]
  split
  · split <;> rfl
  · rfl

/-- **Heads go on being sound, and buffers that are small in the end have been small before.** -/
def counting : Judgement (View α) :=
  .ofRelation (fun v _ w => (v.Sound → w.Sound) ∧ (w.Small → v.Small)) (fun _ => ⟨id, id⟩)
    fun _ _ _ _ h h' => ⟨h'.1 ∘ h.1, h.2 ∘ h'.2⟩

/-- Buffers only grow. -/
theorem counting_of {x : Moving α β} (hsounding : sounding.Holds x v)
    (hpulling : pulling.Holds x v) : counting.Holds x v := by
  refine Judgement.ofRelation_iff.2 (((Judgement.ofRelation_iff.1 hsounding).and
    (Judgement.ofRelation_iff.1 hpulling)).imp fun _ w hw => ⟨hw.1, fun hsmall => ?_⟩)
  obtain ⟨told, hb, -⟩ := hw.2
  have hsize := hb.size_le
  obtain ⟨hneg, hlt⟩ := hsmall
  exact ⟨by omega, by omega⟩

theorem counting_covers : Judgement.Covers (counting (α := α)) where
  raise kind hkind v := counting_of (sounding_covers.raise kind hkind v)
    (pulling_covers.raise kind hkind v)
  sourceIsEmpty v := counting_of (sounding_covers.sourceIsEmpty v) (pulling_covers.sourceIsEmpty v)
  peek offset v := counting_of (sounding_covers.peek offset v) (pulling_covers.peek offset v)
  current v := counting_of (sounding_covers.current v) (pulling_covers.current v)
  text v := counting_of (sounding_covers.text v) (pulling_covers.text v)
  moveBy offset v := counting_of (sounding_covers.moveBy offset v) (pulling_moveBy offset v)

/-- Behind a sound head that has been put down the walk does not overflow. -/
theorem Sound.run_followCounted (h : v.Sound) {u : View α} {offset : Int}
    (hu : (shift offset).run v = .ok true u)
    (hends : Action.Ends (fun _ w => w.Small) ((follow v.cursor).run u)) :
    (followCounted v.cursor).run u = (follow v.cursor).run u := by
  have hwalks := h.stands.walks_moveBy offset
  rw [run_moveBy_of_shift hu] at hwalks
  -- The buffer that is walked over is the one the move ends in.
  obtain ⟨_, w, ⟨hwalk, hsmall⟩, hbuffer⟩ :=
    ((hwalks.and hends).and (u.buffer_follow v.cursor)).exists
  obtain ⟨told, hb⟩ := hwalk.takes
  rw [Small, hbuffer] at hsmall
  rw [hbuffer] at hb
  have hsize := hb.size_le
  have hstart := h.stands.toNat_le
  have hstop : u.cursor.index.toNat ≤ u.buffer.items.size := by
    rcases h.stands.holds_of_shift hu with hsame | ⟨-, hheld⟩
    · rw [← hsame]
      omega
    · rw [Buffer.holds_iff] at hheld
      omega
  exact View.run_followCounted (fun p hp => hb.measured hstart (h.measured p hp)) hstop hsmall

end View

/-- **No operation that starts from a sound head counts beyond a word**, if it leaves a small
buffer. -/
theorem Tracker.agrees_counted [LineElement α] :
    counted.Agrees View.counting View.Sound (View.Small (α := α)) where
  covers := View.counting_covers
  glance {operation} _ h v := by
    obtain ⟨reply, hrun⟩ := h.run_eq v
    exact Judgement.ofRelation_of_run hrun ⟨id, id⟩
  seek place offset v := View.counting_of (View.sounding_moveTo place offset v)
    (View.pulling_moveTo place offset v)
  lasts h := Judgement.ofRelation_iff.1 h
  follow hv hu hends := hv.run_followCounted hu hends
  restore {v start target p} _ hstart htarget hends := by
    obtain ⟨_, w, hsmall, hbuffer⟩ := (hends.and (v.buffer_restore start p target)).exists
    rw [View.Small, hbuffer] at hsmall
    exact View.run_restoreCounted hstart htarget hsmall

/-! ### What becomes of lines and columns -/

namespace View

/-- What an action makes of a line and a column: they are carried from the old head to the new
one. -/
def CarriesAlong (v : View Char) (x : Moving Char β) : Prop :=
  ∀ p, v.cursor.position = some p → Action.Ends (fun _ w =>
    ∃ q, w.cursor.position = some q ∧
      p.Carried w.buffer.config.lineFeed w.buffer.items.toList v.cursor.index.toNat
        w.cursor.index.toNat q) (x.run v)

/-- What walks carries along. -/
theorem carriesAlong_of_walks {v : View Char} {x : Moving Char β}
    (h : Action.Ends (fun _ w => v.Walks w) (x.run v)) : v.CarriesAlong x := by
  refine fun p hp => h.imp fun _ w hwalks => ?_
  obtain ⟨q, hq, hwalk⟩ := hwalks.walked p hp
  exact ⟨q, hq, Position.carried_of_walk? w.buffer hwalks.start_le_size hwalks.stop_le hwalk⟩

/-- A move by a distance that does not overflow in a small buffer and carries along. -/
structure MovesTruly (v : View Char) (offset : Int) : Prop where
  counted : Action.Ends (fun _ w => w.Small) ((moveBy offset).run v) →
    (Tracker.counted.moveBy offset).run v = (moveBy offset).run v
  carried : v.CarriesAlong (moveBy offset)

/-- A move to a place that does not overflow in a small buffer, and carries along unless it takes
over the line and the column that were saved. -/
structure SeeksTruly (v : View Char) (place : Location) (offset : Int) : Prop where
  counted : Action.Ends (fun _ w => w.Small) ((moveTo place offset).run v) →
    (Tracker.counted.moveTo place offset).run v = (moveTo place offset).run v
  carried : ¬ v.TakesOver place offset → v.CarriesAlong (moveTo place offset)

/-- An operation that does not overflow on its way to a small buffer, and carries along unless it
takes over a saved line and column. -/
structure RunsTruly (v : View Char) (operation : Operation Char) : Prop where
  counted : Action.Ends (fun _ w => w.Small) (operation.run.run v) →
    (Tracker.counted.run operation).run v = operation.run.run v
  carried : (∀ place offset, operation.seeks? = some (place, offset) →
    ¬ v.TakesOver place offset) → v.CarriesAlong operation.run

namespace Sound

variable {v : View Char} (h : v.Sound)

include h

theorem movesTruly (offset : Int) : v.MovesTruly offset where
  counted := (Tracker.agrees_counted.moveBy offset v).run_eq h
  carried := carriesAlong_of_walks (h.stands.walks_moveBy offset)

theorem seeksTruly (place : Location) (offset : Int) : v.SeeksTruly place offset where
  counted := (Tracker.agrees_counted.moveTo place offset v).run_eq h
  carried hnot := carriesAlong_of_walks (h.stands.walks_moveTo hnot)

theorem runsTruly (operation : Operation Char) : v.RunsTruly operation where
  counted := (Tracker.agrees_counted.run operation v).run_eq h
  carried hnot := carriesAlong_of_walks (h.stands.walks_run hnot)

end Sound

end View

/-! ### Sessions -/

/-- What there is to say of the lines and columns in a session, whatever places were made up. -/
structure Session.Bounded (s : Session Char) : Prop where
  /-- The column is bounded by the index, the line by the size of the buffer. -/
  bounds : ∀ c ∈ s.cursors, ∀ p, c.position = some p → 0 ≤ c.index →
    p.column ≤ c.index ∧ p.line ≤ 2 * s.buffer.items.size
  /-- No addition overflows in a move by a distance, and the line and the column are carried
  along. -/
  moves : ∀ c ∈ s.cursors, ∀ offset, View.MovesTruly ⟨s.buffer, c⟩ offset
  /-- So it is in a move onto a place, unless the line and the column that were saved are taken
  over. -/
  seeks : ∀ c ∈ s.cursors, ∀ place offset, View.SeeksTruly ⟨s.buffer, c⟩ place offset
  /-- So it is in all the moves that an operation makes on its way. -/
  operations : ∀ c ∈ s.cursors, ∀ operation, View.RunsTruly ⟨s.buffer, c⟩ operation
  /-- A line drifts away from the true one only where a saved line is restored. -/
  drift : ∀ command k c, s.cursors[k]? = some c → ¬ s.Restores k command →
    (s.perform command).2.cursors[k]?.map (·.driftIn (s.perform command).2.buffer) =
      some (c.driftIn s.buffer)
  /-- A fork has drifted as far as the cursor it is made from. -/
  fork : ∀ i c, s.cursors[i]? = some c →
    (s.perform (.fork i)).2.cursors[s.cursors.length]?.map
      (·.driftIn (s.perform (.fork i)).2.buffer) = some (c.driftIn s.buffer)

/-- **Lines and columns stay bounded.** Open a cursor over any source and carry it and everything
made from it through any commands, any of them sent to any place with any line and column. No column
is larger than the index and no line more than twice as large as the buffer. No walk adds to them
beyond a word while the buffer is smaller than half of that. Every move that succeeds changes the
line by the line feeds it passes, ahead or back, and past a line feed the column is the true one,
except for a line and a column that are taken over; and only these make a difference to how far a
line is from the true one. -/
theorem lines_and_columns_stay_bounded (o : Opening Char) (key : Nat) (config : Config)
    (keepsLines : Bool) {v : View Char} (hopen : o.open? key config keepsLines = .ok v)
    (commands : List (Command Char)) :
    ((Session.start v).run commands).2.Bounded := by
  have hsound := (Session.Sound.start hopen).run commands
  have hstands := ((Session.Stands.start hopen).run commands).1
  refine ⟨fun c hc p hp hindex => ?_, fun c hc => (hsound c hc).movesTruly,
    fun c hc => (hsound c hc).seeksTruly, fun c hc => (hsound c hc).runsTruly, ?_, ?_⟩
  · have hmeasured := (hsound c hc).measured p hp
    have hplace := (hsound c hc).stands.toNat_le
    have hcolumn := hmeasured.column_le
    exact ⟨by simp only at hcolumn; omega, hmeasured.line_le_size hplace⟩
  · exact fun command k c hc hnot => Session.driftIn_perform hstands hc hnot
  · exact fun i c hc => Session.driftIn_fork hstands hc

/-- A head that is sent to a made-up line, and a fork that takes it along past a line feed. -/
theorem lines_and_columns_stay_bounded_misled :
    ∃ (v : View Char) (commands : List (Command Char)) (s : Session Char),
      commands = [.apply 0 (.moveBy 4), .apply 0 (.moveBy 4),
        .apply 0 (.moveTo ⟨2, some ⟨2, 0⟩⟩ 1), .fork 0, .apply 1 (.moveBy 1)] ∧
      (Opening.source [.element 'a', .element '\n', .failure "lost", .element 'b', .element '\n',
        .element 'c']).open? 0 .quiet true = .ok v ∧
      ((Session.start v).run commands).2 = s ∧
      s.cursors = [⟨3, false, some ⟨2, 1⟩⟩, ⟨4, false, some ⟨3, 0⟩⟩] ∧
      s.cursors.map (·.driftIn s.buffer) = [some 1, some 1] ∧ s.Bounded :=
  ⟨_, _, _, rfl, rfl, rfl, by decide +kernel, by decide +kernel,
    lines_and_columns_stay_bounded (.source [.element 'a', .element '\n', .failure "lost",
      .element 'b', .element '\n', .element 'c']) 0 .quiet true rfl _⟩

end Rewind
