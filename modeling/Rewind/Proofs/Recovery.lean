import Rewind.Proofs.Moves
import Rewind.Proofs.Refilling

/-!
# Operations that can be asked again

An operation that looks first and moves at most once, at its end, is **atomic on a failure of the
source and transparent to asking again** (`single_shots_recover`): when the source fails, the head
is as it was and the buffer has only grown, and asking again until the source no longer fails
comes to what asking once would have come to without the failures, buffer included.

Looks repeat their answers (`View.repeating_looks`), so they may stand before anything that
recovers. A move recovers, for it asks the buffer for its target before it does anything else; a
seek does, because a failure leaves its target unheld, and so the seek goes the same way the next
time. The reads that repeat a move for as long as a test passes are not among these operations: a
failure of the source finds them halfway.
-/

namespace Rewind

variable {α β γ : Type}

open Cursor

namespace View

/-- Whether a view is another one after some more pulls, with its head where it was. -/
structure Extends (v w : View α) : Prop where
  cursor_eq : w.cursor = v.cursor
  buffer : v.buffer.Extends w.buffer

theorem Extends.refl (v : View α) : v.Extends v :=
  ⟨rfl, .refl v.buffer⟩

theorem Extends.trans (v w u : View α) (h : v.Extends w) (h' : w.Extends u) : v.Extends u :=
  ⟨h'.cursor_eq.trans h.cursor_eq, .trans _ _ _ h.buffer h'.buffer⟩

/-- Whether a view is another one with the failures left out that are still to come. -/
structure Clears (v d : View α) : Prop where
  cursor_eq : d.cursor = v.cursor
  buffer : v.buffer.Clears d.buffer

/-- A view whose source will not fail any more. -/
def purged (v : View α) : View α :=
  { v with buffer.source := v.buffer.source.map Source.purged }

theorem clears_purged (v : View α) : v.Clears v.purged :=
  ⟨rfl, rfl, rfl, rfl, rfl⟩

/-! ### Looks repeat their answers -/

/-- Actions on a view that repeat their answers. -/
def repeating : Judgement (View α) :=
  Action.repeating Extends Extends.refl Extends.trans

/-- A look repeats its answer when it does on the buffer. -/
theorem repeats_look {f : Cursor → Peeking α β} {v : View α}
    (hf : (f v.cursor).Repeats Buffer.Extends v.buffer) : (look f).Repeats Extends v := by
  intro x w hrun
  obtain ⟨hbuffer, hcursor⟩ := run_look_eq_ok.1 hrun
  obtain ⟨hgrown, hagain⟩ := hf x w.buffer hbuffer
  refine ⟨⟨hcursor, hgrown⟩, fun u hu => ?_⟩
  have hu' : u.cursor = v.cursor := hu.cursor_eq.trans hcursor
  rw [run_look_eq_ok, hu']
  exact ⟨hagain u.buffer hu.buffer, rfl⟩

theorem repeats_head (v : View α) : (head : Moving α Cursor).Repeats Extends v := by
  intro c w hrun
  cases hrun
  exact ⟨.refl v, fun u hu => by rw [run_head, hu.cursor_eq]⟩

/-- **All that only looks repeats its answer.** -/
theorem repeating_looks : Judgement.Looks (repeating (α := α)) where
  raise _ _ _ := .raise _
  sourceIsEmpty v := repeating.map (repeats_head v) _
  peek offset v := repeats_look (repeats_peek v.cursor offset v.buffer)
  current v := repeats_look (repeats_current v.cursor v.buffer)
  text v := repeats_look (Buffer.repeats_text v.buffer)

/-! ### Looks recover -/

variable {d : View α}

/-- A look recovers when it does on the buffer. -/
theorem recovers_look {f : Cursor → Peeking α β}
    (hf : (f d.cursor).Recovers Buffer.Extends Buffer.Clears d.buffer) :
    (look f).Recovers Extends Clears d := by
  rintro ⟨b, c⟩ ⟨hcursor, hbuffer⟩
  obtain ⟨b', c'⟩ := d
  obtain rfl : c' = c := hcursor
  refine hf.finish (View.mk · c') (fun _ x t => .ok x ⟨t, c'⟩) ?_ ?_
    (fun _ _ h => ⟨rfl, h⟩) (fun _ _ h => ⟨rfl, h⟩) (fun _ _ t e _ _ ht => ?_) hbuffer
  · intro b x t hrun
    rw [run_look, hrun]
  · intro b fault t hrun
    rw [run_look, hrun]
  · exact ⟨trivial, ⟨e, c'⟩, rfl, rfl, ht⟩

theorem recovers_head (d : View α) : (head : Moving α Cursor).Recovers Extends Clears d :=
  .of_settled fun v hv => ⟨trivial, d, by rw [run_head, hv.cursor_eq], hv⟩

/-- A first look, and then anything that recovers. -/
theorem recovers_look_bind {f : Cursor → Peeking α β} {g : β → Moving α γ}
    (hrep : ∀ v, (look f).Repeats Extends v)
    (hf : (f d.cursor).Recovers Buffer.Extends Buffer.Clears d.buffer)
    (hg : ∀ x e, (g x).Recovers Extends Clears e) : (look f >>= g).Recovers Extends Clears d :=
  .seq Extends.trans hrep (recovers_look hf) fun x e _ => hg x e

end View

namespace Cursor

open View (Extends Clears)

variable [LineElement α] {v d : View α}

/-! ### Moves recover -/

/-- A head arrives alike with and without the failures to come. -/
theorem recovered_arrive (h : v.Clears d) (start : Int) (p : Position) (target : Int) :
    Action.Settled (v.arrive start p target) ∧
      Action.Recovered Clears (v.arrive start p target) (d.arrive start p target) := by
  have hwalk : d.buffer.walk? start target p = v.buffer.walk? start target p := by
    rw [Buffer.walk?, Buffer.walk?, Buffer.feeds, Buffer.feeds, h.buffer.items_eq,
      h.buffer.config_eq]
  rw [View.arrive, View.arrive, hwalk]
  rcases v.buffer.walk? start target p with _ | q
  · exact ⟨rfl, d, rfl, h⟩
  · exact ⟨trivial, _, rfl, by simp only [h.cursor_eq], h.buffer⟩

theorem recovered_land (h : v.Clears d) (target : Int) :
    Action.Settled (v.land target) ∧
      Action.Recovered Clears (v.land target) (d.land target) := by
  rw [View.land, View.land, h.cursor_eq]
  rcases v.cursor.position with _ | p
  · exact ⟨trivial, _, rfl, rfl, h.buffer⟩
  · exact recovered_arrive h _ p target

/-- A move that asks the buffer for nothing comes out at once, alike with and without the failures
to come. -/
theorem moveBy_settles (h : v.Clears d) {offset : Int}
    (hasks : ¬ (0 < offset ∧ Fits (v.cursor.index + offset) ∧ 0 ≤ v.cursor.index)) :
    Action.Settled ((moveBy offset).run v) ∧
      Action.Recovered Clears ((moveBy offset).run v) ((moveBy offset).run d) := by
  rw [run_moveBy offset v, run_moveBy offset d, h.cursor_eq]
  by_cases h0 : offset = 0
  · rw [if_pos h0, if_pos h0]
    exact ⟨trivial, d, rfl, h⟩
  rw [if_neg h0, if_neg h0]
  by_cases hfits : ¬ Fits (v.cursor.index + offset)
  · rw [if_pos hfits, if_pos hfits]
    exact ⟨rfl, d, rfl, h⟩
  rw [if_neg hfits, if_neg hfits]
  rw [Decidable.not_not] at hfits
  by_cases hneg : v.cursor.index < 0 ∨ v.cursor.index + offset < 0
  · rw [if_pos hneg, if_pos hneg]
    exact ⟨trivial, d, rfl, h⟩
  have hback : offset < 0 :=
    Int.not_le.1 fun hforward => hasks ⟨by omega, hfits, by omega⟩
  rw [if_neg hneg, if_neg hneg, if_pos hback, if_pos hback]
  exact recovered_land h (v.cursor.index + offset)

/-- **A move by a distance recovers**: it asks for its target first, and arrives or stops at what
the buffer then holds. -/
theorem recovers_moveBy (offset : Int) (d : View α) :
    (moveBy offset).Recovers Extends Clears d := by
  rintro ⟨b, c⟩ ⟨hcursor, hbuffer⟩
  obtain ⟨b', c'⟩ := d
  obtain rfl : c' = c := hcursor
  have hclears : View.Clears ⟨b, c'⟩ ⟨b', c'⟩ := ⟨rfl, hbuffer⟩
  by_cases hasks : ¬ (0 < offset ∧ Fits (c'.index + offset) ∧ 0 ≤ c'.index)
  · obtain ⟨hsettled, hsame⟩ := moveBy_settles hclears hasks
    exact ⟨_, .of_settled rfl hsettled, hsame⟩
  obtain ⟨hpos, hfits, hindex⟩ := Decidable.not_not.1 hasks
  have hneg : ¬ (c'.index < 0 ∨ c'.index + offset < 0) := by omega
  -- The buffer is asked for the target, and only then does the head move or stop.
  refine (Buffer.recovers_ensure (c'.index + offset).toNat b').finish (View.mk · c')
    (fun _ found t => if found then View.land ⟨t, c'⟩ (c'.index + offset)
      else .ok false ⟨t, { c' with reachedEnd := true }⟩) ?_ ?_
    (fun _ _ h => ⟨rfl, h⟩) (fun _ _ h => ⟨rfl, h⟩) (fun _ found t e _ _ ht => ?_) hbuffer
  · intro t found t' hensure
    rw [run_moveBy, if_neg (by omega), if_neg (not_not_intro hfits), if_neg hneg,
      if_neg (by omega), hensure]
    rcases found <;> rfl
  · intro t fault t' hensure
    rw [run_moveBy, if_neg (by omega), if_neg (not_not_intro hfits), if_neg hneg,
      if_neg (by omega), hensure]
  · rcases found
    · exact ⟨trivial, _, rfl, rfl, ht⟩
    · exact recovered_land (v := ⟨t, c'⟩) (d := ⟨e, c'⟩) ⟨rfl, ht⟩ (c'.index + offset)

theorem recovers_skip (count : Nat) (d : View α) : (skip count).Recovers Extends Clears d :=
  .orOverflow_bind fun i _ => recovers_moveBy i d

theorem recovers_rewind (count : Nat) (d : View α) : (rewind count).Recovers Extends Clears d :=
  .orOverflow_bind fun i _ => recovers_moveBy (-i) d

/-! ### Seeks recover -/

theorem recovers_approach (target : Int) (d : View α) :
    (approach target).Recovers Extends Clears d := by
  rw [approach]
  refine .seq View.Extends.trans View.repeats_head (View.recovers_head d) fun c e _ => ?_
  exact .orOverflow_bind fun i _ => recovers_moveBy i e

/-- A source that fails under a move leaves the head where it is and the target unheld. -/
theorem of_run_moveBy_failed {offset : Int} {m : String} {w : View α}
    (h : (moveBy offset).run v = .error (.source m) w) :
    0 ≤ v.cursor.index ∧ 0 < offset ∧ w.cursor = v.cursor ∧
      (w.buffer.items.size : Int) ≤ v.cursor.index + offset := by
  -- Once the buffer has been asked, nothing can fail with the source any more.
  have hland {t : View α} {i : Int} : t.land i ≠ .error (.source m) w := by
    intro ht
    have hsettled := (recovered_land t.clears_purged i).1
    rw [ht] at hsettled
    cases hsettled
  revert h
  refine moveBy_cases (P := fun r => r = .error (.source m) w → _) _ v (fun _ => nofun)
    (fun _ => nofun) (fun _ => nofun) ?back ?ahead (fun _ _ _ _ => nofun) ?failed
  case back => exact fun _ _ _ h => (hland h).elim
  case ahead => exact fun _ _ _ _ _ h => (hland h).elim
  case failed =>
    intro fault b hindex hpos hensure h
    cases h
    have hsize := Buffer.size_le_of_run_ensure hensure
    refine ⟨hindex, hpos, rfl, ?_⟩
    simp only
    omega

/-- A source that fails under an approach leaves the head away from the target, and the target
unheld. -/
theorem of_run_approach_failed {target : Int} {m : String} {w : View α}
    (h : (approach target).run v = .error (.source m) w) :
    target ≠ w.cursor.index ∧ w.buffer.holds target = false := by
  rw [run_approach] at h
  by_cases hfits : ¬ Fits (target - v.cursor.index)
  · rw [if_neg hfits] at h
    cases h
  rw [if_pos (Decidable.not_not.1 hfits)] at h
  obtain ⟨hindex, hpos, hcursor, hsize⟩ := of_run_moveBy_failed h
  refine ⟨by rw [hcursor]; omega, ?_⟩
  simp only [Buffer.holds, Bool.and_eq_false_iff, decide_eq_false_iff_not]
  omega

/-- A place that is neither held nor under the head is approached. -/
theorem run_moveTo_of_unheld {place : Location} {offset : Int} (hfits : Fits (place.index + offset))
    (hindex : place.index + offset ≠ v.cursor.index)
    (hheld : v.buffer.holds (place.index + offset) = false) :
    (moveTo place offset).run v = (approach (place.index + offset)).run v := by
  rw [run_moveTo, if_neg (not_not_intro hfits), if_neg hindex]
  rcases v.cursor.position with _ | q
  · simp [hheld]
  · rcases place.position with _ | p
    · rfl
    · simp [hheld]

/-- A seek comes out at once, alike with and without the failures to come, or else approaches its
target with as well as without them. -/
theorem moveTo_settles_or_approaches (h : v.Clears d) (place : Location) (offset : Int) :
    (Action.Settled ((moveTo place offset).run v) ∧
      Action.Recovered Clears ((moveTo place offset).run v) ((moveTo place offset).run d)) ∨
    (Fits (place.index + offset) ∧
      (moveTo place offset).run v = (approach (place.index + offset)).run v ∧
      (moveTo place offset).run d = (approach (place.index + offset)).run d) := by
  -- All that a seek decides on is the same on both sides.
  have hholds (i : Int) : d.buffer.holds i = v.buffer.holds i := by
    rw [Buffer.holds, Buffer.holds, h.buffer.items_eq]
  have hadmits (i : Nat) (p : Position) : d.buffer.admits i p = v.buffer.admits i p := by
    simp only [Buffer.admits, Buffer.feeds, h.buffer.items_eq, h.buffer.config_eq]
  rw [run_moveTo place offset v, run_moveTo place offset d, h.cursor_eq]
  simp only [hholds]
  by_cases hfits : ¬ Fits (place.index + offset)
  · simp only [if_pos hfits]
    exact .inl ⟨rfl, d, rfl, h⟩
  simp only [if_neg hfits]
  by_cases hthere : place.index + offset = v.cursor.index
  · simp only [if_pos hthere]
    exact .inl ⟨trivial, d, rfl, h⟩
  simp only [if_neg hthere]
  rcases v.cursor.position with _ | q
  · by_cases hheld : v.buffer.holds (place.index + offset)
    · simp only [if_pos hheld]
      exact .inl ⟨trivial, _, rfl, rfl, h.buffer⟩
    · simp only [if_neg hheld]
      exact .inr ⟨Decidable.not_not.1 hfits, trivial, trivial⟩
  rcases place.position with _ | p
  · exact .inr ⟨Decidable.not_not.1 hfits, rfl, rfl⟩
  by_cases hheld : v.buffer.holds place.index && v.buffer.holds (place.index + offset)
  · simp only [if_pos hheld, run_restore, hadmits]
    by_cases hfit : v.buffer.admits place.index.toNat p
    · simp only [if_pos hfit]
      exact .inl (recovered_arrive h place.index p (place.index + offset))
    · simp only [if_neg hfit]
      exact .inl ⟨rfl, d, rfl, h⟩
  · simp only [if_neg hheld]
    exact .inr ⟨Decidable.not_not.1 hfits, trivial, trivial⟩

/-- **A seek recovers.** Where it does not come out at once it approaches its target, and after a
failure it still does: the target has not been reached. -/
theorem recovers_moveTo (place : Location) (offset : Int) (d : View α) :
    (moveTo place offset).Recovers Extends Clears d := by
  intro v hv
  rcases moveTo_settles_or_approaches hv place offset with ⟨hsettled, hsame⟩ | ⟨hfits, hrun, hd⟩
  · exact ⟨_, .of_settled rfl hsettled, hsame⟩
  -- After a failure the target is still unheld, so the short cut stays closed.
  · obtain ⟨r, hpersists, hsame⟩ := recovers_approach (place.index + offset) d v hv
    refine ⟨r, hpersists.of_agree hrun fun s m w hfailed => ?_, by rwa [hd]⟩
    obtain ⟨hindex, hheld⟩ := of_run_approach_failed hfailed
    exact run_moveTo_of_unheld hfits hindex hheld

/-! ### Reads recover -/

theorem recovers_advanceWith (x : α) (d : View α) :
    (advanceWith x).Recovers Extends Clears d :=
  (recovers_moveBy 1 d).map _

/-- A read that looks at one element and steps over it if it passes a test. -/
theorem recovers_advanceIf (p : α → Bool) (offset : Int) (d : View α) :
    (advanceIf p offset).Recovers Extends Clears d := by
  refine View.recovers_look_bind (View.repeating_looks.peek offset) (recovers_peek _ offset _)
    fun x e => ?_
  rcases x with _ | x
  · exact .done none
  · exact .ite (fun _ => recovers_advanceWith x e) fun _ => .done none

theorem recovers_read (d : View α) : (read (α := α)).Recovers Extends Clears d := by
  refine View.recovers_look_bind (View.repeating_looks.peek 0) (recovers_peek _ 0 _) fun x e => ?_
  rcases x with _ | x
  · exact .done none
  · exact recovers_advanceWith x e

/-- A head that has stepped on has an element under it, and so is shown one without a pull. -/
theorem run_peek_of_moveBy {v w : View α} (h : (moveBy 1).run v = .ok true w) :
    ∃ x, (look (·.peek 0)).run w = .ok x w := by
  obtain ⟨-, -, hlt⟩ := index_of_moveBy Int.zero_lt_one h
  rw [run_look, run_peek]
  rcases hadd : Offset.add? w.cursor.index 0 with _ | target
  · exact ⟨none, rfl⟩
  obtain ⟨-, rfl⟩ := Offset.add?_eq_some_iff.1 hadd
  by_cases hneg : w.cursor.index + 0 < 0
  · simp only [if_pos hneg]
    exact ⟨none, rfl⟩
  · simp only [if_neg hneg]
    rw [Buffer.run_fetch_of_settles (.inl (by omega))]
    exact ⟨_, rfl⟩

/-- Stepping on and then looking recovers although the step cannot be repeated: once the head has
stepped on, the look does not fail. -/
theorem recovers_readNext (d : View α) : (readNext (α := α)).Recovers Extends Clears d := by
  refine (recovers_moveBy 1 d).conclude
    (fun _ moved w => (if moved then look (·.peek 0) else pure none : Moving α (Option α)).run w)
    (fun _ _ _ h => Action.run_bind_of_ok h) (fun _ _ _ h => Action.run_bind_of_error h)
    fun v moved w e hv hd hw => ?_
  rcases moved
  · exact ⟨trivial, e, rfl, hw⟩
  -- The head has moved, so the look answers at once and cannot make the caller ask again.
  · obtain ⟨x, hx⟩ := run_peek_of_moveBy hv
    have hsame := (View.recovers_look (recovers_peek _ 0 _)).recovered_of_ok hw hx
    simp only [if_true, hx]
    exact ⟨trivial, hsame⟩

section Matching

variable [DecidableEq α]

theorem recovers_readSeq (pattern : List α) (d : View α) :
    (readSeq pattern).Recovers Extends Clears d :=
  View.recovers_look_bind (View.repeating_looks.matchesAt 0 pattern)
    (recovers_matchesAt _ 0 pattern _) fun _ e =>
      .ite (fun _ => recovers_skip _ e) fun _ => .done false

theorem recovers_readNextSeq (pattern : List α) (d : View α) :
    (readNextSeq pattern).Recovers Extends Clears d :=
  View.recovers_look_bind (View.repeating_looks.matchesAt 1 pattern)
    (recovers_matchesAt _ 1 pattern _) fun _ e =>
      .ite (fun _ => recovers_skip _ e) fun _ => .done false

theorem recovers_skipUntil (m : Matcher α) (d : View α) :
    (skipUntil m).Recovers Extends Clears d :=
  View.recovers_look_bind (View.repeating_looks.scan _ 0) (recovers_scan _ _ 0 _)
    fun _ e => .ite (fun _ => recovers_skip _ e) fun _ => .done false

end Matching

theorem recovers_readWord (starts continues : α → Bool) (d : View α) :
    (readWord starts continues).Recovers Extends Clears d := by
  refine View.recovers_look_bind (View.repeating_looks.peek 0) (recovers_peek _ 0 _) fun x e => ?_
  rcases x with _ | x
  · exact .done none
  · refine .ite (fun _ => ?_) fun _ => .done none
    exact View.recovers_look_bind (View.repeating_looks.scan continues 1) (recovers_scan _ _ 1 _)
      fun _ t => (recovers_skip _ t).map _

end Cursor

namespace Operation

open View (Extends Clears)

/-- The operations that move at most once, at their end. -/
def IsSingleShot : Operation α → Prop
  | .readWhile _ | .readNextWhile _ | .skipWhile _ | .skipBlank _ _ => False
  | _ => True

variable [LineElement α] [DecidableEq α]

/-- **Every single-shot operation recovers.** -/
theorem recovers_run {operation : Operation α} (h : operation.IsSingleShot) (d : View α) :
    operation.run.Recovers Extends Clears d := by
  cases operation with
  | slot | location | sourceIsEmpty | isAtStart | isStartOfLine =>
    exact (View.recovers_head d).map _
  | current => exact (View.recovers_look (recovers_current _ _)).map _
  | previous => exact (View.recovers_look (recovers_peek _ (-1) _)).map _
  | next => exact (View.recovers_look (recovers_peek _ 1 _)).map _
  | peek offset => exact (View.recovers_look (recovers_peek _ offset _)).map _
  | isAtEnd => exact (View.recovers_look (recovers_isAtEnd _ _)).map _
  | matchesAt offset pattern =>
    exact (View.recovers_look (recovers_matchesAt _ offset pattern _)).map _
  | text => exact (View.recovers_look (Buffer.recovers_text _)).map _
  | moveBy offset => exact (recovers_moveBy offset d).map _
  | moveTo place offset => exact (recovers_moveTo place offset d).map _
  | reset place => exact (recovers_moveTo place 0 d).map _
  | skip count => exact (recovers_skip count d).map _
  | rewind count => exact (recovers_rewind count d).map _
  | read => exact (recovers_read d).map _
  | readIf m => exact (recovers_advanceIf m.accepts 0 d).map _
  | readSeq pattern => exact (recovers_readSeq pattern d).map _
  | readNext => exact (recovers_readNext d).map _
  | readNextIf m => exact (recovers_advanceIf m.accepts 1 d).map _
  | readNextSeq pattern => exact (recovers_readNextSeq pattern d).map _
  | skipUntil m => exact (recovers_skipUntil m d).map _
  | readWord starts continues => exact (recovers_readWord starts continues d).map _
  | readWhile | readNextWhile | skipWhile | skipBlank => exact h.elim

end Operation

/-- **A failure of the source can be asked over.** When the source fails under a single-shot
operation, the head is as it was and the buffer has only been extended. Asking for the operation
again until the source no longer fails has an end, and one outcome: the answer or the fault, the
head and the buffer, whether it is exhausted included, that asking once has when the failures are
left out of the script. -/
theorem single_shots_recover [LineElement α] [DecidableEq α] (operation : Operation α)
    (h : operation.IsSingleShot) (v : View α) :
    (∀ m w, operation.run.run v = .error (.source m) w → v.Extends w) ∧
      ∃ r, (∀ r', operation.run.Persists View.Extends v r' ↔ r' = r) ∧
        Action.Recovered View.Clears r (operation.run.run v.purged) := by
  obtain ⟨r, hpersists, hsame⟩ := Operation.recovers_run h v.purged v v.clears_purged
  refine ⟨fun m w => hpersists.extends_of_source, r, fun r' => ⟨fun h' => h'.unique hpersists, ?_⟩,
    hsame⟩
  rintro rfl
  exact hpersists

/-- A pattern whose match fails once and whose move fails once, and that is then consumed. -/
theorem single_shots_recover_match :
    (Operation.readString "ab").IsSingleShot ∧
      ∃ v w : View Char,
        v = ⟨{ key := 0, items := #['a'], config := .quiet, source := some [.failure "lost",
          .element 'b', .failure "lost again", .element 'c'] }, ⟨0, false, some ⟨0, 0⟩⟩⟩ ∧
        (Operation.readString "ab").run.Persists View.Extends v (.ok (.verdict true) w) ∧
        w.cursor = ⟨2, false, some ⟨0, 2⟩⟩ ∧ w.buffer.items = #['a', 'b', 'c'] := by
  refine ⟨trivial, ?_⟩
  obtain ⟨-, r, hpersists, hsame⟩ := single_shots_recover (Operation.readString "ab") trivial
    ⟨{ key := 0, items := #['a'], config := .quiet, source := some [.failure "lost",
      .element 'b', .failure "lost again", .element 'c'] }, ⟨0, false, some ⟨0, 0⟩⟩⟩
  rcases r with ⟨b, w⟩ | ⟨fault, w⟩
  · obtain ⟨e, hrun, hclears⟩ := hsame
    cases hrun
    exact ⟨_, w, rfl, (hpersists _).2 rfl, hclears.cursor_eq.symm, hclears.buffer.items_eq.symm⟩
  · obtain ⟨e, hrun, -⟩ := hsame
    cases hrun

end Rewind
