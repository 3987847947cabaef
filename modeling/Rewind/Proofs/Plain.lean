import Rewind.Proofs.Heads

/-!
# Keeping lines changes nothing else

A cursor that keeps lines is a plain cursor with a line and a column beside. **It comes out of every
operation as the plain cursor would, or the operation is refused because the line and the column do
not fit, and nothing has changed** (`keeping_lines_changes_nothing_else`).

Looking does not see the line and the column, and neither does a move ahead: a walk forward always
goes through. So all that only looks and moves ahead comes out alike (`View.blind_advances`), and a
move back comes out alike unless its walk is refused (`View.moveBy_plain`).

Seeking a place is different code for the two: a plain cursor goes straight to every target in the
buffer, one that keeps lines also asks that the saved place be there. Where they part, the one goes
straight to a target that the other approaches. **From a head that stands, approaching a target in
the buffer is going there** (`View.Stands.run_approach_of_holds`), so they meet again.
-/

namespace Rewind

variable {α β γ : Type}

open Cursor

/-! ### Without lines -/

/-- The same view with a cursor that keeps no lines. -/
def View.plain (v : View α) : View α :=
  { v with cursor := v.cursor.plain }

/-- The same answer from a cursor that keeps no lines. -/
def Reply.plain : Reply α → Reply α
  | .place l => .place l.plain
  | reply => reply

namespace Operation

/-- The same thing asked of a cursor that keeps no lines. -/
def plain : Operation α → Operation α
  | .moveTo place offset => .moveTo place.plain offset
  | .reset place => .reset place.plain
  | operation => operation

/-- The operations that may send a head back. -/
def GoesBack : Operation α → Prop
  | .moveTo _ _ | .reset _ | .rewind _ => True
  | .moveBy offset => offset < 0
  | _ => False

end Operation

namespace View

/-! ### What does not see the line and the column -/

/-- **Actions on a cursor that do not see its line and its column.** -/
def blind : Judgement (View α) :=
  .blindTo plain

theorem blind_look {f : Cursor → Peeking α β} {v : View α} (hf : f v.cursor.plain = f v.cursor) :
    blind.Holds (look f) v :=
  Cursor.blindTo_look hf

variable [LineElement α]

/-- A head that keeps lines lands where a plain one does, or is refused where it is. -/
theorem land_plain (v : View α) (target : Int) :
    v.land target = .error (.misuse .locationMismatch) v ∨
      v.plain.land target = Action.onState plain (v.land target) := by
  rw [land]
  rcases hq : v.cursor.position with _ | q
  · exact .inr rfl
  · simp only [arrive]
    rcases v.buffer.walk? v.cursor.index target q with _ | p
    · exact .inl rfl
    · exact .inr rfl

/-- **A move comes out alike, or is a move back that is refused.** -/
theorem moveBy_plain (offset : Int) (v : View α) :
    ((moveBy offset).run v = .error (.misuse .locationMismatch) v ∧ offset < 0) ∨
      blind.Holds (moveBy offset) v := by
  by_cases hrefused : (moveBy offset).run v = .error (.misuse .locationMismatch) v ∧ offset < 0
  · exact .inl hrefused
  refine .inr (Cursor.blindTo_moveBy rfl rfl (fun hback hland => ?_) fun hpos b => ?_)
  · exact (v.land_plain (v.cursor.index + offset)).resolve_left fun h =>
      hrefused ⟨hland.trans h, hback⟩
  -- A head that goes ahead lands.
  · have hle : v.cursor.index ≤ v.cursor.index + offset := by omega
    refine (land_plain ⟨b, v.cursor⟩ (v.cursor.index + offset)).resolve_left fun h => ?_
    cases (View.land_ahead_eq ⟨b, v.cursor⟩ hle).symm.trans h

theorem rewind_plain (count : Nat) (v : View α) :
    (rewind count).run v = .error (.misuse .locationMismatch) v ∨
      blind.Holds (rewind count) v := by
  rw [rewind]
  rcases Offset.ofCount? count with _ | i
  · exact .inr rfl
  · exact (moveBy_plain (-i) v).imp_left And.left

/-- **What only looks and moves ahead comes out alike.** -/
theorem blind_advances : Judgement.Advances (blind (α := α)) where
  raise _ _ _ := rfl
  sourceIsEmpty _ := rfl
  peek _ _ := blind_look rfl
  current _ := blind_look rfl
  moveAhead offset hoffset v := (moveBy_plain offset v).resolve_left fun h => by omega

/-! ### Seeking a place -/

/-- A move by the distance to a target comes out alike, or is refused where the head is. -/
theorem approach_plain (target : Int) (v : View α) :
    (approach target).run v = .error (.misuse .locationMismatch) v ∨
      blind.Holds (approach target) v := by
  rw [blind, Judgement.blindTo_iff, Cursor.run_approach, Cursor.run_approach target v.plain]
  change _ ∨ (if Fits (target - v.cursor.index) then _ else _) = _
  by_cases hfits : Fits (target - v.cursor.index)
  · rw [if_pos hfits, if_pos hfits]
    exact (moveBy_plain _ v).imp_left And.left
  · rw [if_neg hfits, if_neg hfits]
    exact .inr rfl

/-- Going straight to a target in the buffer is what approaching it from a head that stands comes
to, but for the line and the column. -/
theorem Stands.approach_plain {v : View α} (h : v.Stands) {target : Int} (hfits : Fits target)
    (hheld : v.buffer.holds target = true) (hne : target ≠ v.cursor.index) :
    (approach target).run v = .error (.misuse .locationMismatch) v ∨
      .ok true { v.plain with cursor.index := target } =
        Action.onState plain ((approach target).run v) := by
  rw [h.run_approach_of_holds hfits hheld hne]
  exact v.land_plain target

/-- A head that goes to a target in the buffer from a saved place arrives there as a plain one
would, or is refused where it is. -/
theorem restore_plain (start : Int) (p : Position) (target : Int) (v : View α) :
    (restore start p target).run v = .error (.misuse .locationMismatch) v ∨
      .ok true { v.plain with cursor.index := target } =
        Action.onState plain ((restore start p target).run v) := by
  rw [run_restore]
  by_cases hadmits : v.buffer.admits start.toNat p
  · rw [if_pos hadmits, arrive]
    rcases v.buffer.walk? start target p with _ | q
    · exact .inl rfl
    · exact .inr rfl
  · exact .inl (if_neg hadmits)

/-- A plain cursor seeks a place by its index. -/
theorem run_moveTo_plain (place : Location) (offset : Int) (v : View α) :
    (moveTo place.plain offset).run v.plain =
      if ¬ Fits (place.index + offset) then .error (.misuse .seekOverflow) v.plain
      else if place.index + offset = v.cursor.index then .ok true v.plain
      else if v.buffer.holds (place.index + offset) then
        .ok true { v.plain with cursor.index := place.index + offset }
      else (approach (place.index + offset)).run v.plain :=
  run_moveTo place.plain offset v.plain

/-- **Seeking a place comes out alike, or is refused where the head is.** -/
theorem Stands.moveTo_plain {v : View α} (h : v.Stands) (place : Location) (offset : Int) :
    (moveTo place offset).run v = .error (.misuse .locationMismatch) v ∨
      (moveTo place.plain offset).run v.plain =
        Action.onState plain ((moveTo place offset).run v) := by
  by_cases hfits : ¬ Fits (place.index + offset)
  · rw [run_moveTo_plain, run_moveTo, if_pos hfits, if_pos hfits]
    exact .inr rfl
  by_cases hthere : place.index + offset = v.cursor.index
  · rw [run_moveTo_plain, run_moveTo, if_neg hfits, if_neg hfits, if_pos hthere, if_pos hthere]
    exact .inr rfl
  rw [run_moveTo_plain, if_neg hfits, if_neg hthere]
  by_cases hheld : v.buffer.holds (place.index + offset)
  -- A plain head goes straight to the target. One that keeps lines takes those of the saved place,
  -- or approaches it.
  · rw [if_pos hheld, run_moveTo, if_neg hfits, if_neg hthere]
    have happroach := h.approach_plain (Decidable.not_not.1 hfits) hheld hthere
    rcases v.cursor.position with _ | q
    · simp only [if_pos hheld]
      exact .inr rfl
    rcases place.position with _ | p
    · exact happroach
    by_cases hplace : v.buffer.holds place.index && v.buffer.holds (place.index + offset)
    · simp only [if_pos hplace]
      exact v.restore_plain place.index p (place.index + offset)
    · simp only [if_neg hplace]
      exact happroach
  -- A target that is not in the buffer is approached by both.
  · rw [if_neg hheld, run_moveTo, if_neg hfits, if_neg hthere]
    have happroach := v.approach_plain (place.index + offset)
    rcases v.cursor.position with _ | q
    · simp only [if_neg hheld]
      exact happroach
    rcases place.position with _ | p
    · exact happroach
    · have hplace : ¬ (v.buffer.holds place.index && v.buffer.holds (place.index + offset)) := by
        rw [Bool.and_eq_true]
        exact fun hboth => hheld hboth.2
      simp only [if_neg hplace]
      exact happroach

/-! ### Operations -/

/-- A head that stands tells the truth when it says nothing of lines. -/
theorem Stands.plain_truthful {v : View α} (h : v.Stands) : v.plain.Truthful := by
  refine ⟨h.fits, ?_, nofun⟩
  rcases h.place with hheld | ⟨hindex, -, hitems, hsource⟩
  · exact .inl hheld
  · exact .inr ⟨hindex, hitems, hsource⟩

/-- So it is never refused for its line and column. -/
theorem Stands.run_plain_ne_mismatch [DecidableEq α] {v : View α} (h : v.Stands)
    (operation : Operation α) (w : View α) :
    operation.run.run v.plain ≠ .error (.misuse .locationMismatch) w := by
  intro hrun
  have htruth : truth.Holds operation.run v.plain := truth_run nofun
  obtain ⟨-, -, hexpected⟩ :=
    (Judgement.ofRelation_iff.1 htruth).of_error hrun h.plain_truthful
  exact hexpected _ rfl

end View

namespace Operation

/-- How an operation comes out for the plain cursor, from how it comes out for one that keeps
lines. -/
def plainResult : EStateM.Result Fault (View α) (Reply α) → EStateM.Result Fault (View α) (Reply α)
  | .ok reply w => .ok reply.plain w.plain
  | .error fault w => .error fault w.plain

variable [LineElement α] [DecidableEq α]

/-- Only when it is asked where it is does a head answer with a place. -/
theorem run_ne_place {operation : Operation α} (h : operation ≠ .location) (v w : View α)
    (l : Location) : operation.run.run v ≠ .ok (.place l) w := by
  intro hrun
  cases operation with
  | location => exact h rfl
  | isStartOfLine =>
    simp only [run, bind_pure_comp, Action.run_map_eq_ok] at hrun
    obtain ⟨c, -, hreply⟩ := hrun
    rcases hs : c.isStartOfLine? with _ | starts <;> simp [hs] at hreply
  | _ =>
    simp only [run, bind_pure_comp, Action.run_map_eq_ok, reduceCtorEq, and_false,
      exists_false] at hrun

theorem plainResult_run {operation : Operation α} (h : operation ≠ .location) (v : View α) :
    plainResult (operation.run.run v) = Action.onState View.plain (operation.run.run v) := by
  rcases hrun : operation.run.run v with ⟨reply, w⟩ | ⟨fault, w⟩
  · cases reply with
    | place l => exact absurd hrun (run_ne_place h v w l)
    | _ => rfl
  · rfl

omit [LineElement α] [DecidableEq α] in
/-- A verdict on a step that comes out alike or is refused does so, too. -/
theorem verdict_plain {x y : Moving α Bool} {v : View α}
    (h : x.run v = .error (.misuse .locationMismatch) v ∨
      y.run v.plain = Action.onState View.plain (x.run v)) :
    (do return .verdict (← x) : Moving α (Reply α)).run v =
        .error (.misuse .locationMismatch) v ∨
      (do return .verdict (← y) : Moving α (Reply α)).run v.plain =
        Action.onState View.plain ((do return .verdict (← x) : Moving α (Reply α)).run v) := by
  rcases h with hrefused | halike
  · exact .inl (Action.run_bind_of_error hrefused)
  · rcases hx : x.run v with ⟨moved, w⟩ | ⟨fault, w⟩
    · rw [hx] at halike
      rw [Action.run_bind_of_ok hx, Action.run_bind_of_ok halike]
      exact .inr rfl
    · rw [hx] at halike
      rw [Action.run_bind_of_error hx, Action.run_bind_of_error halike]
      exact .inr rfl

/-- **Every operation comes out as for the plain cursor, or is one that goes back and is refused
where the head is.** -/
theorem run_plain {v : View α} (h : v.Stands) {operation : Operation α}
    (hshared : operation ≠ .isStartOfLine) :
    (operation.run.run v = .error (.misuse .locationMismatch) v ∧ operation.GoesBack) ∨
      operation.plain.run.run v.plain = plainResult (operation.run.run v) := by
  by_cases hlocation : operation = .location
  · subst hlocation
    exact .inr rfl
  rw [plainResult_run hlocation]
  cases operation with
  | location | isStartOfLine => contradiction
  | slot | sourceIsEmpty | isAtStart => exact .inr rfl
  | text => exact .inr (View.blind.map (View.blind_look rfl) _)
  | moveBy offset =>
    rcases View.moveBy_plain offset v with ⟨hrefused, hback⟩ | halike
    · exact .inl ⟨Action.run_bind_of_error hrefused, hback⟩
    · exact .inr (View.blind.map halike _)
  | rewind count => exact (verdict_plain (v.rewind_plain count)).imp_left (⟨·, trivial⟩)
  | moveTo place offset =>
    exact (verdict_plain (h.moveTo_plain place offset)).imp_left (⟨·, trivial⟩)
  | reset place => exact (verdict_plain (h.moveTo_plain place 0)).imp_left (⟨·, trivial⟩)
  | _ => exact .inr (View.blind_advances.run (by trivial) v)

end Operation

/-- **Keeping lines changes nothing else.** Ask anything of a cursor of a reached session, wherever
it has been sent before and whatever place is named. It is refused because a line and a column do
not fit, which only happens where it may go back, and then everything is as it was; or it is not,
and the answer or the fault, the head and the buffer are those that the plain cursor at the same
head comes out with. -/
theorem keeping_lines_changes_nothing_else [LineElement α] [DecidableEq α] {script : Source α}
    {s : Session α} (hs : s.Reached script) {i : Nat} {c : Cursor} (hc : s.cursors[i]? = some c)
    {operation : Operation α} (hshared : operation ≠ .isStartOfLine) :
    (operation.run.run ⟨s.buffer, c⟩ = .error (.misuse .locationMismatch) ⟨s.buffer, c⟩ ∧
        operation.GoesBack) ∨
      ((∀ w, operation.run.run ⟨s.buffer, c⟩ ≠ .error (.misuse .locationMismatch) w) ∧
        operation.plain.run.run ⟨s.buffer, c.plain⟩ =
          Operation.plainResult (operation.run.run ⟨s.buffer, c⟩)) := by
  have hstands : View.Stands ⟨s.buffer, c⟩ := hs.stands c (List.mem_of_getElem? hc)
  rcases Operation.run_plain hstands hshared with hrefused | halike
  · exact .inl hrefused
  · refine .inr ⟨fun w hw => ?_, halike⟩
    rw [hw] at halike
    exact hstands.run_plain_ne_mismatch operation.plain _ halike

/-- A head that was sent to a place with a made-up column cannot walk back to the start. Sent on
past the end, it comes out as a plain one. -/
theorem keeping_lines_changes_nothing_else_misled :
    ∃ (s : Session Char) (c : Cursor),
      s.Reached [.element 'a', .element 'b', .element 'c'] ∧ s.cursors[0]? = some c ∧
      c = ⟨2, false, some ⟨0, 1⟩⟩ ∧
      (Operation.rewind 2).run.run ⟨s.buffer, c⟩ =
        .error (.misuse .locationMismatch) ⟨s.buffer, c⟩ ∧
      (Operation.moveTo ⟨9, none⟩ (-2)).run.run ⟨s.buffer, c.plain⟩ =
        Operation.plainResult ((Operation.moveTo ⟨9, some ⟨4, 4⟩⟩ (-2)).run.run ⟨s.buffer, c⟩) := by
  have hreached : (((Session.start (View.ofString 0 "abc" .quiet)).run [.apply 0 (.moveBy 2),
      .apply 0 (.rewind 1), .apply 0 (.moveTo ⟨2, some ⟨0, 1⟩⟩ 0)]).2).Reached
      [.element 'a', .element 'b', .element 'c'] :=
    ⟨.sequence [some 'a', some 'b', some 'c'], 0, .quiet, true, _, _, rfl, rfl, rfl⟩
  have hcursor : (((Session.start (View.ofString 0 "abc" .quiet)).run [.apply 0 (.moveBy 2),
      .apply 0 (.rewind 1), .apply 0 (.moveTo ⟨2, some ⟨0, 1⟩⟩ 0)]).2).cursors[0]? =
      some ⟨2, false, some ⟨0, 1⟩⟩ := by decide
  refine ⟨_, _, hreached, hcursor, rfl, rfl, ?_⟩
  have halike := @keeping_lines_changes_nothing_else Char _ _ _ _ hreached 0 _ hcursor
    (.moveTo ⟨9, some ⟨4, 4⟩⟩ (-2)) nofun
  exact (halike.resolve_left nofun).2

end Rewind
