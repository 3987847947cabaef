import Rewind.Proofs.Plain
import Rewind.Proofs.Walks

/-!
# Saved places are taken on trust

A head that keeps lines and is sent to a saved place takes over its line and column, and walks on
from there. The check that is made before (`Buffer.admits`) looks at one element, so it admits lines
and columns that are not those of the place: **the head is then on the target with a line or a
column that is not the one counted in the text**.

How far the trust goes is told exactly (`saved_places_are_taken_on_trust`). A head that tells the
truth goes on doing so when the saved place is not used, which is when the head is there already or
when the place or the target is not in the buffer yet; when the saved place tells the truth; and
when it has the true line and a line feed lies between it and the target, since the column is then
counted anew. Otherwise it does not. A place that is refused leaves everything as it is.
-/

namespace Rewind

open Cursor

/-! ### Seeking a place -/

namespace View

variable {α : Type} {v w : View α} {place : Location} {offset : Int} {p : Position}

/-- Whether a head that is sent to a saved place takes over its line and column. -/
def TakesOver (v : View α) (place : Location) (offset : Int) : Prop :=
  place.index + offset ≠ v.cursor.index ∧ v.buffer.holds place.index = true ∧
    v.buffer.holds (place.index + offset) = true

instance (v : View α) (place : Location) (offset : Int) : Decidable (v.TakesOver place offset) :=
  inferInstanceAs (Decidable (_ ∧ _))

variable [LineElement α]

/-- **A head that does not take over a saved line and column goes on telling the truth.** -/
theorem Truthful.of_run_moveTo {q : Position} (hv : v.Truthful) (hq : v.cursor.position = some q)
    (hp : place.position = some p) (hnot : ¬ v.TakesOver place offset) {moved : Bool}
    (hrun : (moveTo place offset).run v = .ok moved w) :
    w.Truthful ∧ w.cursor.position.isSome = true := by
  rw [run_moveTo] at hrun
  by_cases hfits : ¬ Fits (place.index + offset)
  · rw [if_pos hfits] at hrun
    cases hrun
  rw [if_neg hfits] at hrun
  by_cases hthere : place.index + offset = v.cursor.index
  · rw [if_pos hthere] at hrun
    cases hrun
    exact ⟨hv, by rw [hq]; rfl⟩
  -- The saved place or the target is not in the buffer, so the head moves from where it is.
  have hunheld : ¬ (v.buffer.holds place.index && v.buffer.holds (place.index + offset)) := by
    rw [Bool.and_eq_true]
    exact fun hheld => hnot ⟨hthere, hheld⟩
  simp only [if_neg hthere, hq, hp, if_neg hunheld, run_approach] at hrun
  split at hrun
  · obtain ⟨hw, hkeeps, -⟩ := (Judgement.ofRelation_iff.1 (truth_moveBy _ v)).of_ok hrun hv
    exact ⟨hw, by rw [hkeeps, hq]; rfl⟩
  · cases hrun

/-- **A head that takes over a saved line and column** arrives in the same buffer with what the walk
from the saved place makes of them. -/
theorem TakesOver.of_run_moveTo {q : Position} (h : v.TakesOver place offset)
    (hq : v.cursor.position = some q) (hp : place.position = some p) {moved : Bool}
    (hrun : (moveTo place offset).run v = .ok moved w) :
    ∃ q', v.buffer.walk? place.index (place.index + offset) p = some q' ∧
      w = { v with cursor.index := place.index + offset, cursor.position := some q' } := by
  obtain ⟨hthere, hheld⟩ := h
  rw [← Bool.and_eq_true] at hheld
  rw [run_moveTo] at hrun
  by_cases hfits : ¬ Fits (place.index + offset)
  · rw [if_pos hfits] at hrun
    cases hrun
  simp only [if_neg hfits, if_neg hthere, hq, hp, if_pos hheld, run_restore, arrive] at hrun
  rcases hwalk : v.buffer.walk? place.index (place.index + offset) p with _ | q'
  · simp only [hwalk, ite_self] at hrun
    cases hrun
  · simp only [hwalk] at hrun
    split at hrun
    · cases hrun
      exact ⟨q', rfl, rfl⟩
    · cases hrun

/-- A place that is refused leaves everything as it is. -/
theorem Stands.eq_of_run_moveTo_mismatch (h : v.Stands)
    (hrun : (moveTo place offset).run v = .error (.misuse .locationMismatch) w) : w = v := by
  rcases h.moveTo_plain place offset with hrefused | halike
  · rw [hrefused] at hrun
    cases hrun
    rfl
  -- A plain head is never refused.
  · rw [hrun] at halike
    have hplace : v.plain.cursor.position.isSome → place.plain.TrueIn v.plain.buffer := nofun
    have htruth : truth.Holds (moveTo place.plain offset) v.plain := truth_moveTo hplace offset
    obtain ⟨-, -, hexpected⟩ :=
      (Judgement.ofRelation_iff.1 htruth).of_error halike h.plain_truthful
    exact (hexpected _ rfl).elim

end View

/-- **Saved places are taken on trust.** A head of a reached session that tells the truth is sent to
a saved place and a distance from there. If this is refused because the line and the column do not
fit, everything is as it was. If the head arrives, then with its true line and column exactly if it
does not take over those that were saved, or they are true, or the line is true and a line feed lies
between the saved place and the target. -/
theorem saved_places_are_taken_on_trust {script : Source Char} {s : Session Char}
    (hs : s.Reached script) {i : Nat} {c : Cursor} (hc : s.cursors[i]? = some c) {q : Position}
    (hq : c.position = some q)
    (htrue : q.TrueAt s.buffer.config.lineFeed s.buffer.items.toList c.index.toNat)
    {place : Location} {p : Position} (hp : place.position = some p) (offset : Int) :
    (∀ w, (moveTo place offset).run ⟨s.buffer, c⟩ = .error (.misuse .locationMismatch) w →
      w = ⟨s.buffer, c⟩) ∧
    ∀ w, (moveTo place offset).run ⟨s.buffer, c⟩ = .ok true w →
      ∃ q', w.cursor.position = some q' ∧
        (q'.TrueAt s.buffer.config.lineFeed w.buffer.items.toList w.cursor.index.toNat ↔
          ¬ View.TakesOver ⟨s.buffer, c⟩ place offset ∨
          p.TrueAt s.buffer.config.lineFeed s.buffer.items.toList place.index.toNat ∨
          p.line = (s.buffer.items.toList.take place.index.toNat).count s.buffer.config.lineFeed ∧
            s.buffer.config.lineFeed ∈
              s.buffer.items.extract (min place.index.toNat (place.index + offset).toNat)
                (max place.index.toNat (place.index + offset).toNat)) := by
  have hstands : View.Stands ⟨s.buffer, c⟩ := hs.stands c (List.mem_of_getElem? hc)
  refine ⟨fun w hrun => hstands.eq_of_run_moveTo_mismatch hrun, fun w hrun => ?_⟩
  by_cases htakes : View.TakesOver ⟨s.buffer, c⟩ place offset
  · obtain ⟨q', hwalk, rfl⟩ := htakes.of_run_moveTo hq hp hrun
    obtain ⟨-, hplace, htarget⟩ := id htakes
    rw [Buffer.holds_iff] at hplace htarget
    refine ⟨q', rfl, ?_⟩
    have hstart : place.index.toNat ≤ s.buffer.items.size := by simp only at hplace; omega
    have hstop : (place.index + offset).toNat ≤ s.buffer.items.size := by
      simp only at htarget
      omega
    have hline := (Position.trueAt_ofBehind s.buffer.config s.buffer.items _ hstart).line_eq
    have hiff := Position.walk?_true_iff s.buffer.config.feeds hstart hwalk
    rw [Config.any_feeds_iff] at hiff
    rw [Position.trueAt_iff s.buffer.config hstop, Position.trueAt_iff s.buffer.config hstart,
      ← hline, hiff, Position.eq_iff]
    constructor
    · rintro ⟨hpline, hcrossed | hpcolumn⟩
      · exact .inr (.inr ⟨hpline, hcrossed⟩)
      · exact .inr (.inl ⟨hpline, hpcolumn⟩)
    · rintro (hnot | ⟨hpline, hpcolumn⟩ | ⟨hpline, hcrossed⟩)
      · exact absurd htakes hnot
      · exact ⟨hpline, .inr hpcolumn⟩
      · exact ⟨hpline, .inl hcrossed⟩
  -- The head moves from where it is, and the buffer may grow on the way.
  · have hbears := hstands.plain_truthful.bears
    have hv : View.Truthful ⟨s.buffer, c⟩ := by
      refine ⟨hstands.fits, hbears, fun p' hp' => ?_⟩
      cases hq.symm.trans hp'
      exact (Position.trueAt_iff s.buffer.config hbears.toNat_le q).1 htrue
    obtain ⟨hw, hkeeps⟩ := hv.of_run_moveTo hq hp htakes hrun
    obtain ⟨q', hq'⟩ := Option.isSome_iff_exists.1 hkeeps
    obtain ⟨told, hgrown, -⟩ :=
      (Judgement.ofRelation_iff.1 (View.pulling_moveTo place offset ⟨s.buffer, c⟩)).of_ok hrun
    refine ⟨q', hq', iff_of_true ?_ (.inl htakes)⟩
    rw [hw.position_eq q' hq', ← hgrown.config_eq]
    exact Position.trueAt_ofBehind w.buffer.config w.buffer.items _ hw.bears.toNat_le

/-- A saved column that is not the true one, and a walk from there past a line feed. -/
theorem saved_places_are_taken_on_trust_past_feed :
    ∃ (s : Session Char) (c : Cursor) (w : View Char),
      s.Reached [.element 'a', .element 'b', .element '\n', .element 'c', .element 'd'] ∧
      s.cursors[0]? = some c ∧ c = ⟨4, false, some ⟨1, 1⟩⟩ ∧
      Position.TrueAt '\n' s.buffer.items.toList 4 ⟨1, 1⟩ ∧
      ¬ Position.TrueAt '\n' s.buffer.items.toList 2 ⟨0, 1⟩ ∧
      (moveTo ⟨2, some ⟨0, 1⟩⟩ 1).run ⟨s.buffer, c⟩ = .ok true w ∧
      ∃ q', w.cursor.position = some q' ∧
        q'.TrueAt '\n' w.buffer.items.toList w.cursor.index.toNat := by
  have hreached : (((Session.start (View.ofString 0 "ab\ncd" .quiet)).run
      [.apply 0 (.moveBy 4)]).2).Reached
      [.element 'a', .element 'b', .element '\n', .element 'c', .element 'd'] :=
    ⟨.sequence ("ab\ncd".toList.map some), 0, .quiet, true, _, _, rfl, rfl, rfl⟩
  have hcursor : (((Session.start (View.ofString 0 "ab\ncd" .quiet)).run
      [.apply 0 (.moveBy 4)]).2).cursors[0]? = some ⟨4, false, some ⟨1, 1⟩⟩ := by decide
  have htrue := (Position.trueAt_iff .quiet (show 4 ≤ #['a', 'b', '\n', 'c', 'd'].size by decide)
    ⟨1, 1⟩).2 (by decide)
  have hfalse : ¬ Position.TrueAt '\n' ['a', 'b', '\n', 'c', 'd'] 2 ⟨0, 1⟩ := by
    intro h
    exact absurd (h.column_eq_of_none (by decide)) (by decide)
  refine ⟨_, _, _, hreached, hcursor, rfl, htrue, hfalse, rfl, ?_⟩
  obtain ⟨q', hq', hiff⟩ := (saved_places_are_taken_on_trust hreached hcursor rfl htrue
    (show Location.position ⟨2, some ⟨0, 1⟩⟩ = some ⟨0, 1⟩ from rfl) 1).2 _ rfl
  exact ⟨q', hq', hiff.2 (.inr (.inr ⟨by decide, by decide +kernel⟩))⟩

/-- A line that no element before the place ends, in a text without line feeds: the head takes it
over. -/
theorem made_up_lines_are_taken_over :
    ∃ (s : Session Char) (c : Cursor) (w : View Char),
      s.Reached [.element 'a', .element 'b', .element 'c'] ∧
      s.cursors[0]? = some c ∧ c = ⟨2, false, some ⟨0, 2⟩⟩ ∧
      Position.TrueAt '\n' s.buffer.items.toList 2 ⟨0, 2⟩ ∧
      (moveTo ⟨1, some ⟨1, 1⟩⟩ 0).run ⟨s.buffer, c⟩ = .ok true w ∧
      w.cursor = ⟨1, false, some ⟨1, 1⟩⟩ ∧
      ¬ Position.TrueAt '\n' w.buffer.items.toList 1 ⟨1, 1⟩ := by
  have hreached : (((Session.start (View.ofString 0 "abc" .quiet)).run
      [.apply 0 (.skip 2)]).2).Reached [.element 'a', .element 'b', .element 'c'] :=
    ⟨.sequence ("abc".toList.map some), 0, .quiet, true, _, _, rfl, rfl, rfl⟩
  refine ⟨_, _, _, hreached, by decide, rfl, ?_, rfl, rfl, fun h => ?_⟩
  · exact (Position.trueAt_iff .quiet (show 2 ≤ #['a', 'b', 'c'].size by decide) ⟨0, 2⟩).2
      (by decide)
  · exact absurd h.line_eq (by decide)

end Rewind
