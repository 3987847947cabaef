import Rewind.Proofs.Heads

/-!
# Seeking is moving

There are two ways to send a head to a target: a saved place and a distance from there, or the
distance from the head. **They come to the same** (`seeking_is_moving`), the line and the column
included, although a head that seeks goes straight there or walks from the saved place, and one that
moves walks from where it is.

For a plain head this holds from anywhere and for any place. For one that keeps lines, the head and
the saved place must tell the truth: then a walk from either ends with the line and the column of
the target, and the walks cannot be told apart.
-/

namespace Rewind

open Cursor

namespace View

variable {α : Type} [LineElement α] {v : View α} {place : Location} {offset : Int}

/-- Approaching the place the head is on is no move. -/
theorem run_approach_self (v : View α) : (approach v.cursor.index).run v = .ok true v := by
  rw [run_approach, Int.sub_self, if_pos (by decide), run_moveBy, if_pos rfl]

/-- A head and a saved place that tell the truth: walking from the place or from the head, the line
and the column at the target are the same. -/
theorem Truthful.run_restore {p q : Position} (hv : v.Truthful) (hplace : place.TrueIn v.buffer)
    (hq : v.cursor.position = some q) (hp : place.position = some p) (target : Int) :
    (restore place.index p target).run v = v.land target := by
  have hadmits : v.buffer.admits place.index.toNat p = true := by
    rw [hplace.position_eq p hp]
    exact v.buffer.admits_ofBehind hplace.bears.toNat_le
  rw [Cursor.run_restore, if_pos hadmits, arrive_eq hq hplace hp, hv.land_eq]

/-- **A target is sought as it is approached.** -/
theorem Stands.run_moveTo_eq_approach (h : v.Stands)
    (htrue : v.cursor.position.isSome → v.Truthful ∧ place.TrueIn v.buffer)
    (hfits : Fits (place.index + offset)) :
    (moveTo place offset).run v = (approach (place.index + offset)).run v := by
  rw [run_moveTo, if_neg (not_not_intro hfits)]
  by_cases hthere : place.index + offset = v.cursor.index
  · rw [if_pos hthere, hthere, run_approach_self]
  rw [if_neg hthere]
  rcases hq : v.cursor.position with _ | q
  · by_cases hheld : v.buffer.holds (place.index + offset)
    · rw [h.run_approach_of_holds hfits hheld hthere, land, hq]
      simp only [if_pos hheld]
    · simp only [if_neg hheld]
  rcases hp : place.position with _ | p
  · rfl
  by_cases hheld : v.buffer.holds place.index && v.buffer.holds (place.index + offset)
  · obtain ⟨hv, hplace⟩ := htrue (by rw [hq]; rfl)
    simp only [if_pos hheld]
    rw [Bool.and_eq_true] at hheld
    rw [hv.run_restore hplace hq hp, h.run_approach_of_holds hfits hheld.2 hthere]
  · simp only [if_neg hheld]

/-- **Seeking a place is moving by the distance to it**, and it is refused without a change exactly
when the target or the distance does not fit. -/
theorem Stands.run_moveTo_eq_moveBy (h : v.Stands)
    (htrue : v.cursor.position.isSome → v.Truthful ∧ place.TrueIn v.buffer) :
    (moveTo place offset).run v =
      if Fits (place.index + offset) ∧ Fits (place.index + offset - v.cursor.index) then
        (moveBy (place.index + offset - v.cursor.index)).run v
      else .error (.misuse .seekOverflow) v := by
  by_cases hfits : Fits (place.index + offset)
  · rw [h.run_moveTo_eq_approach htrue hfits, run_approach]
    simp only [hfits, true_and]
  · rw [run_moveTo, if_pos hfits, if_neg fun hboth => hfits hboth.1]

end View

/-- **Seeking is moving.** Send any cursor of a session to a place and a distance from there: if
both the target and the distance to it from the head fit, all comes out as when the head moves by
that distance; otherwise this is refused and nothing changes. A cursor that keeps lines must, as all
before it, be sent to a place that was reported. -/
theorem seeking_is_moving {α : Type} [LineElement α] [DecidableEq α] (o : Opening α) (key : Nat)
    (config : Config) (keepsLines : Bool) {v : View α}
    (hopen : o.open? key config keepsLines = .ok v) (commands : List (Command α)) :
    ∀ outcomes s, (Session.start v).run commands = (outcomes, s) →
      ∀ (i : Nat) (c : Cursor), s.cursors[i]? = some c →
      ∀ (place : Location) (offset : Int),
        (c.position.isSome → (Session.start v).Faithful [] commands ∧
          place ∈ outcomes.filterMap Outcome.place?) →
        s.perform (.apply i (.moveTo place offset)) =
          if Fits (place.index + offset) ∧ Fits (place.index + offset - c.index) then
            s.perform (.apply i (.moveBy (place.index + offset - c.index)))
          else (.failed (.misuse .seekOverflow), s) := by
  intro outcomes s hrun i c hc place offset hknown
  obtain ⟨hstands, -⟩ := (Session.Stands.start hopen).run commands
  rw [hrun] at hstands
  have hview : View.Stands ⟨s.buffer, c⟩ := hstands c (List.mem_of_getElem? hc)
  have htrue : c.position.isSome → View.Truthful ⟨s.buffer, c⟩ ∧ place.TrueIn s.buffer := by
    intro hkeeps
    obtain ⟨hfaithful, hplace⟩ := hknown hkeeps
    obtain ⟨htruthful, -⟩ := (Session.Truthful.start hopen).run hfaithful
    rw [hrun] at htruthful
    exact ⟨htruthful.cursor c (List.mem_of_getElem? hc),
      htruthful.known place (by simpa using hplace)⟩
  have hmove : (moveTo place offset).run ⟨s.buffer, c⟩ =
      if Fits (place.index + offset) ∧ Fits (place.index + offset - c.index) then
        (moveBy (place.index + offset - c.index)).run ⟨s.buffer, c⟩
      else .error (.misuse .seekOverflow) ⟨s.buffer, c⟩ := hview.run_moveTo_eq_moveBy htrue
  rw [Session.perform_apply hc, Session.perform_apply hc, Operation.run, Operation.run]
  by_cases hfits : Fits (place.index + offset) ∧ Fits (place.index + offset - c.index)
  · rw [if_pos hfits] at hmove ⊢
    rw [EStateM.run_bind, EStateM.run_bind, hmove]
  · rw [if_neg hfits] at hmove ⊢
    rw [Action.run_bind_of_error hmove]
    -- The cursor that is put back is the one that was there.
    obtain ⟨hlt, rfl⟩ := List.getElem?_eq_some_iff.1 hc
    simp only [List.set_getElem_self]

/-- A head that seeks walks from the end of the first line onto the second one, and a head that
moves walks back there from the end of the text. -/
theorem seeking_is_moving_back :
    ∃ (v : View Char) (commands : List (Command Char)),
      commands = [.apply 0 (.moveBy 2), .apply 0 .location, .apply 0 (.moveBy 3),
        .apply 0 (.moveBy 2)] ∧
      (Opening.source [.element 'a', .element 'b', .element '\n', .failure "lost", .element 'c',
        .element 'd']).open? 0 .quiet true = .ok v ∧
      ((Session.start v).run commands).2.cursors[0]? = some ⟨4, false, some ⟨1, 1⟩⟩ ∧
      (Session.start v).Faithful [] commands ∧
      ⟨2, some ⟨0, 2⟩⟩ ∈ ((Session.start v).run commands).1.filterMap Outcome.place? ∧
      ((Session.start v).run commands).2.perform (.apply 0 (.moveTo ⟨2, some ⟨0, 2⟩⟩ 1)) =
        ((Session.start v).run commands).2.perform (.apply 0 (.moveBy (-1))) := by
  refine ⟨_, _, rfl, rfl, by decide +kernel, by decide +kernel, by decide +kernel, ?_⟩
  have hmoves := seeking_is_moving
    (.source [.element 'a', .element 'b', .element '\n', .failure "lost", .element 'c',
      .element 'd']) 0 .quiet true rfl [.apply 0 (.moveBy 2), .apply 0 .location,
      .apply 0 (.moveBy 3), .apply 0 (.moveBy 2)] _ _ (Prod.eta _).symm 0
      ⟨4, false, some ⟨1, 1⟩⟩ (by decide +kernel) ⟨2, some ⟨0, 2⟩⟩ 1
    fun _ => ⟨by decide +kernel, by decide +kernel⟩
  exact hmoves.trans (if_pos (by decide))

end Rewind
