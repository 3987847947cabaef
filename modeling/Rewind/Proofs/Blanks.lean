import Rewind.Proofs.Resuming
import Rewind.Proofs.Runs

/-!
# Blanks

Skipping blanks moves the head as skipping any elements does, and then **answers for the end of the
text as well**, if it is asked to: for an empty text, or for a last element that is blank and that
the head cannot leave (`blanks_are_skipped_once`).

Whether the end counts shows in the answer and nowhere else, because all there is to look at after
skipping has been seen by then (`View.Stands.run_skipBlank`). For the same reason there is nothing
left to skip a second time: where a run of reads has stopped it stops at once
(`View.Stands.run_readWhile_again`), be the source exhausted or not, and be it reliable or not.
-/

namespace Rewind

variable {α : Type} [LineElement α]

open Cursor

namespace View

variable {v w : View α}

/-! ### Stopping for good -/

/-- A move that has found no element ahead finds none again, and changes nothing. -/
theorem run_moveBy_again {offset : Int} (hpos : 0 < offset) (hindex : 0 ≤ v.cursor.index)
    (hrun : (moveBy offset).run v = .ok false w) : (moveBy offset).run w = .ok false w := by
  have hsame : w.cursor.index = v.cursor.index := by
    rw [(moveBy_ended hpos hindex hrun).1]
  rw [run_moveBy, if_neg (by omega)] at hrun ⊢
  rw [hsame]
  by_cases hfits : ¬ Fits (v.cursor.index + offset)
  · rw [if_pos hfits] at hrun
    cases hrun
  rw [if_neg hfits, if_neg (by omega), if_neg (by omega)] at hrun ⊢
  rcases hensure : (Buffer.ensure (v.cursor.index + offset).toNat).run v.buffer with
    ⟨_ | _, b⟩ | ⟨fault, b⟩
  · simp only [hensure] at hrun
    cases hrun
    rw [Buffer.run_ensure_again hensure]
  · have hle : v.cursor.index ≤ v.cursor.index + offset := by omega
    simp only [hensure, View.land_ahead_eq ⟨b, v.cursor⟩ hle] at hrun
    cases hrun
  · simp only [hensure] at hrun
    cases hrun

namespace Stands

variable [DecidableEq α] {m : Matcher α}

/-- A read that has given nothing gives nothing again. -/
theorem run_readIf_again (hv : v.Stands) (hrun : (Cursor.readIf m).run v = .ok none w) :
    (Cursor.readIf m).run w = .ok none w := by
  rcases Int.lt_or_le v.cursor.index 0 with hneg | hindex
  · have hnone : (Cursor.readIf m).run v = .ok none v :=
      Action.run_bind_of_ok (hv.run_peek_of_neg hneg 0)
    cases hnone.symm.trans hrun
    exact hnone
  obtain ⟨x, hpeek⟩ := hv.run_peek_zero hindex
  have hstanding := Judgement.ofRelation_iff.1 (standing_run (.readIf m) v)
  have hw : w.Stands := ((hstanding.of_ok (Action.run_bind_of_ok hrun)) hv).1
  have hread := hrun
  rw [Cursor.readIf, Action.run_bind_of_ok hpeek] at hread
  rcases hm : m.accepts x
  · simp only [hm] at hread
    cases hread
    exact hrun
  simp only [hm, if_true] at hread
  obtain ⟨_ | _, t, hmove, hnone⟩ := Action.run_bind_eq_ok.1 hread
  · cases hnone
    have hcursor := (moveBy_ended Int.zero_lt_one hindex hmove).1
    obtain ⟨y, hpeek'⟩ := hw.run_peek_zero (by rw [hcursor]; exact hindex)
    have hmove' := run_moveBy_again Int.zero_lt_one hindex hmove
    rw [Cursor.readIf, Action.run_bind_of_ok hpeek']
    by_cases hy : m.accepts y
    · simp only [if_pos hy]
      exact Action.run_bind_of_ok hmove'
    · simp only [if_neg hy]
      rfl
  · cases hnone

/-- **A run that has stopped stops at once the next time**, whatever stopped it; by induction on
what lies ahead. -/
theorem run_readWhile_again (hv : v.Stands) {xs : List α}
    (hrun : (Cursor.readWhile m).run v = .ok xs w) :
    (Cursor.readWhile m).run w = .ok [] w := by
  induction hn : v.ahead using Nat.strongRecOn generalizing v xs with
  | ind n ih =>
    have hread : (readerIf m).read = Cursor.readIf m := rfl
    rw [Cursor.readWhile, Reader.many_eq, hread] at hrun
    obtain ⟨_ | x, t, hfirst, hrest⟩ := Action.run_bind_eq_ok.1 hrun
    · cases hrest
      rw [Cursor.readWhile, Reader.many_eq, hread]
      exact Action.run_bind_of_ok (hv.run_readIf_again hfirst)
    · obtain ⟨ys, u, hmany, hys⟩ := Action.run_bind_eq_ok.1 hrest
      cases hys
      have hstanding := Judgement.ofRelation_iff.1 (standing_run (.readIf m) v)
      have ht : t.Stands := ((hstanding.of_ok (Action.run_bind_of_ok hfirst)) hv).1
      exact ih _ (hn ▸ (readerIf m).ahead_lt hfirst) ht hmany rfl

/-- So does skipping. -/
theorem run_skipWhile_again (hv : v.Stands) {skipped : Bool}
    (hrun : (Cursor.skipWhile m).run v = .ok skipped w) :
    (Cursor.skipWhile m).run w = .ok false w := by
  obtain ⟨xs, t, hread, hskipped⟩ := Action.run_bind_eq_ok.1 hrun
  cases hskipped
  exact Action.run_bind_of_ok (hv.run_readWhile_again hread)

/-- Before an empty text there is nothing to skip but the end. -/
theorem run_skipBlank_of_neg (hv : v.Stands) (hneg : v.cursor.index < 0) (blank : α → Bool)
    (endCounts : Bool) : (Cursor.skipBlank blank endCounts).run v = .ok endCounts v := by
  have hskip := (hv.run_none (.satisfying blank) hneg).2.2.1
  have hempty : v.cursor.sourceIsEmpty = true := decide_eq_true hneg
  rw [Cursor.skipBlank, Action.run_bind_of_ok hskip, if_neg Bool.false_ne_true]
  rcases endCounts
  · rfl
  · exact (Action.run_bind_of_ok (run_head v)).trans (by rw [hempty]; rfl)

/-- **Skipping blanks leaves what skipping leaves**: whether the end counts shows in the answer
alone. -/
theorem run_skipBlank_alike (hv : v.Stands) (blank : α → Bool) :
    (∃ skipped w, (Cursor.skipWhile (.satisfying blank)).run v = .ok skipped w ∧
        ∀ endCounts, ∃ holds, (Cursor.skipBlank blank endCounts).run v = .ok holds w) ∨
      ∃ fault w, ∀ endCounts, (Cursor.skipBlank blank endCounts).run v = .error fault w := by
  rcases Int.lt_or_le v.cursor.index 0 with hneg | hindex
  · exact .inl ⟨false, v, (hv.run_none _ hneg).2.2.1,
      fun endCounts => ⟨endCounts, hv.run_skipBlank_of_neg hneg blank endCounts⟩⟩
  rcases hskip : (Cursor.skipWhile (.satisfying blank)).run v with ⟨skipped, w⟩ | ⟨fault, w⟩
  · exact .inl ⟨skipped, w, rfl, hv.run_skipBlank hindex hskip⟩
  · exact .inr ⟨fault, w, fun _ => Action.run_bind_of_error hskip⟩

/-- After skipping blanks there are none left to skip. -/
theorem run_skipBlank_again (hv : v.Stands) {blank : α → Bool} {endCounts holds : Bool}
    (hrun : (Cursor.skipBlank blank endCounts).run v = .ok holds w) :
    (Cursor.skipBlank blank false).run w = .ok false w := by
  rcases hv.run_skipBlank_alike blank with ⟨skipped, t, hskip, hok⟩ | ⟨fault, t, herror⟩
  · obtain ⟨_, hrun'⟩ := hok endCounts
    cases hrun'.symm.trans hrun
    exact Action.run_bind_of_ok (hv.run_skipWhile_again hskip)
  · cases (herror endCounts).symm.trans hrun

end Stands

omit [LineElement α] in
/-- A head stands before the text only if that is empty. -/
theorem Stands.neg_iff (hv : v.Stands) : v.cursor.index < 0 ↔ v.buffer.whole = [] := by
  constructor
  · intro hneg
    obtain ⟨-, -, hitems, hsource⟩ := hv.place.resolve_left fun hheld =>
      Int.not_lt.2 (Buffer.holds_iff.1 hheld).1 hneg
    rw [Buffer.whole, hitems, hsource]
    rfl
  · intro hempty
    refine Int.not_le.1 fun hindex => ?_
    have hheld := Buffer.holds_iff.1 (hv.holds hindex)
    have hsize := v.buffer.size_le_whole
    rw [hempty, List.length_nil] at hsize
    omega

end View

/-! ### How far blanks are skipped -/

namespace View.OnPlace

variable [DecidableEq α] {v : View α} {text : List α} {h stop : Nat} {blank : α → Bool}

omit [LineElement α] [DecidableEq α] in
/-- A head on a place of the text stands. -/
theorem stands (hv : v.OnPlace text h) : v.Stands where
  fits := hv.index_eq ▸ fits_natCast.2 hv.le_lastPlace
  place := by
    have hindex := hv.index_eq
    have hheld := hv.held
    exact .inl (Buffer.holds_iff.2 ⟨by omega, by omega⟩)

/-- Where nothing has been skipped, the end counts if it is right behind the head, which is on a
blank then. -/
theorem run_skipBlank_of_stay {w : View α} (hw : w.OnPlace text h)
    (hskip : (Cursor.skipWhile (.satisfying blank)).run v = .ok false w)
    (hstop : firstRefused blank text h = stop) (hstay : min stop (text.length - 1) = h) :
    ∃ u, (Cursor.skipBlank blank true).run v = .ok (decide (h < stop)) u := by
  have hlt := hw.lt_length
  have hindex := hw.index_eq
  have hopen : w.cursor.sourceIsEmpty = false := decide_eq_false (by omega)
  obtain ⟨x, hx⟩ : ∃ x, text[h]? = some x := ⟨_, List.getElem?_eq_getElem hlt⟩
  obtain ⟨b, hpeek, hb⟩ := hw.run_peek_zero
  rw [hx] at hpeek
  rw [Cursor.skipBlank, Action.run_bind_of_ok hskip, if_neg Bool.false_ne_true, Bool.not_true,
    if_neg Bool.false_ne_true, Action.run_bind_of_ok (run_head w), hopen,
    if_neg Bool.false_ne_true, Action.run_bind_of_ok hpeek]
  rcases hblank : blank x
  · rw [firstRefused_of_refused hx hblank] at hstop
    simp only [hblank]
    exact ⟨_, by rw [decide_eq_false (by omega)]; rfl⟩
  · rw [firstRefused_of_passed hx hblank] at hstop
    have hle : h + 1 ≤ firstRefused blank text (h + 1) := le_firstRefused
    have hend : (place? (h + 1)).bind (text[·]?) = none := by
      rcases hplace : place? (h + 1) with _ | place
      · rfl
      · rw [Option.bind_some, List.getElem?_eq_none]
        have := (place?_eq_some_iff.1 hplace).1
        omega
    obtain ⟨b', hisAtEnd, -⟩ := View.OnPlace.run_isAtEnd (v := ⟨b, w.cursor⟩) (hw.asked hb rfl)
    rw [hend] at hisAtEnd
    simp only [hblank, if_true]
    exact ⟨_, by rw [decide_eq_true (by omega)]; exact hisAtEnd⟩

/-- **Blanks are skipped up to the first element that is none, or to the last element of the text**;
only the answer tells whether the end counts. -/
theorem run_skipBlank (hv : v.OnPlace text h) (hstop : firstRefused blank text h = stop)
    (hlast : stop ≤ lastPlace) :
    ∃ w, w.OnPlace text (min stop (text.length - 1)) ∧
      w.cursor.reachedEnd = (v.cursor.reachedEnd || decide (stop = text.length)) ∧
      ∀ endCounts, (Cursor.skipBlank blank endCounts).run v =
        .ok (decide (h < stop ∧
          (stop < text.length ∨ h + 1 < text.length ∨ endCounts = true))) w := by
  have hlt := hv.lt_length
  have hle : h ≤ stop := hstop ▸ le_firstRefused
  have hend : stop ≤ text.length := hstop ▸ firstRefused_le (Nat.le_of_lt hlt)
  obtain ⟨w, hskip, hw, hmark⟩ := hv.run_skipWhile_of_le (.satisfying blank) hstop hlast
  refine ⟨w, hw, hmark, fun endCounts => ?_⟩
  obtain ⟨holds, hok⟩ := hv.stands.run_skipBlank (by rw [hv.index_eq]; omega) hskip endCounts
  rw [hok]
  congr 1
  by_cases hstay : min stop (text.length - 1) = h
  · rw [hstay] at hw hskip
    rw [decide_eq_false (by omega)] at hskip
    rcases endCounts
    · have hfalse : (Cursor.skipBlank blank false).run v = .ok false w :=
        Action.run_bind_of_ok hskip
      have hnone : ¬ (h < stop ∧ (stop < text.length ∨ h + 1 < text.length)) := by omega
      cases hok.symm.trans hfalse
      simpa only [Bool.false_eq_true, or_false] using (decide_eq_false hnone).symm
    · obtain ⟨u, hrun⟩ := hw.run_skipBlank_of_stay hskip hstop hstay
      cases hok.symm.trans hrun
      simp only [or_true, and_true]
  · have hpassed : h < stop ∧ h + 1 < text.length := by omega
    rw [decide_eq_true hstay] at hskip
    have htrue : (Cursor.skipBlank blank endCounts).run v = .ok true w :=
      Action.run_bind_of_ok hskip
    cases hok.symm.trans htrue
    exact (decide_eq_true ⟨hpassed.1, .inr (.inl hpassed.2)⟩).symm

end View.OnPlace

/-! ### Sessions -/

variable [DecidableEq α]

/-- What skipping blanks comes to on the cursor `c` of a session, which is on place `h` of a text:
`stop` is the first place from there on whose element is not blank. -/
structure Session.BlanksFrom (text : List α) (h stop : Nat) (s : Session α) (i : Nat) (c : Cursor)
    (blank : α → Bool) : Prop where
  /-- The head goes to the first element that is not blank, or to the last one of the text. There
  were blanks if it has left one behind, or is on one and the end counts. -/
  skipBlank : stop ≤ lastPlace → ∀ endCounts,
    s.Answers i (.skipBlank blank endCounts)
      (.verdict (decide (h < stop ∧
        (stop < text.length ∨ h + 1 < text.length ∨ endCounts = true))))
      (·.IsAt (min stop (text.length - 1)) (c.reachedEnd || decide (stop = text.length)))
  /-- Whether the end counts matters to a head that is on a last element that is blank. -/
  differs_iff : stop ≤ lastPlace →
    ((s.perform (.apply i (.skipBlank blank true))).1 ≠
        (s.perform (.apply i (.skipBlank blank false))).1 ↔
      h + 1 = text.length ∧ text[h]?.any blank = true)
  /-- More blanks than there are places are refused. -/
  beyond : lastPlace < stop → ∀ endCounts,
    (s.perform (.apply i (.skipBlank blank endCounts))).1 = .failed (.misuse .seekOverflow)

namespace Session

variable {s : Session α} {i : Nat} {c : Cursor}

/-- **A session whose head is on a place of the text skips blanks from there as told.** -/
theorem blanksFrom (hc : s.cursors[i]? = some c) {text : List α} {h : Nat}
    (hv : View.OnPlace ⟨s.buffer, c⟩ text h) (blank : α → Bool) :
    s.BlanksFrom text h (firstRefused blank text h) i c blank := by
  have hlt := hv.lt_length
  refine ⟨fun hlast endCounts => ?skipBlank, fun hlast => ?differs_iff,
    fun hfar endCounts => ?beyond⟩
  case skipBlank =>
    obtain ⟨w, hw, hmark, hrun⟩ := hv.run_skipBlank rfl hlast
    exact answers_of_run hc (Action.run_bind_of_ok (hrun endCounts)) ⟨hw.index_eq, hmark⟩
  case differs_iff =>
    obtain ⟨w, -, -, hrun⟩ := hv.run_skipBlank rfl hlast
    have hend : firstRefused blank text h ≤ text.length := firstRefused_le (Nat.le_of_lt hlt)
    obtain ⟨x, hx⟩ : ∃ x, text[h]? = some x := ⟨_, List.getElem?_eq_getElem hlt⟩
    have hreply (endCounts : Bool) :
        (s.perform (.apply i (.skipBlank blank endCounts))).1 =
          .answered (.verdict (decide (h < firstRefused blank text h ∧
            (firstRefused blank text h < text.length ∨ h + 1 < text.length ∨
              endCounts = true)))) := by
      rw [perform_apply hc, Operation.run, Action.run_bind_of_ok (hrun endCounts)]
      rfl
    have hblank : text[h]?.any blank = true ↔ h < firstRefused blank text h := by
      rw [hx, Option.any_some]
      rcases hx' : blank x
      · rw [firstRefused_of_refused hx hx']
        exact iff_of_false Bool.false_ne_true (Nat.lt_irrefl h)
      · rw [firstRefused_of_passed hx hx']
        exact iff_of_true rfl le_firstRefused
    rw [hreply, hreply, hblank]
    simp only [ne_eq, Outcome.answered.injEq, Reply.verdict.injEq, decide_eq_decide, or_true,
      and_true, Bool.false_eq_true, or_false]
    omega
  case beyond =>
    rcases hv.run_readWhile (.satisfying blank) with ⟨xs, w, hnear, -⟩ | ⟨w, -, hrun, -⟩
    · exact absurd hfar (Nat.not_lt.2 hnear)
    have hskip : (Cursor.skipBlank blank endCounts).run ⟨s.buffer, c⟩ =
        .error (.misuse .seekOverflow) w :=
      Action.run_bind_of_error (Action.run_bind_of_error hrun)
    rw [perform_apply hc, Operation.run, Action.run_bind_of_error hskip]

end Session

/-- **Blanks are skipped once.** Over whatever source, whether the end counts shows in the answer
alone, and after an answer there is nothing left to skip. The answer itself is as told, over an
empty source and, if it never fails, over any other. White space is blank. -/
theorem blanks_are_skipped_once {script : Source α} {s : Session α} (hs : s.Reached script)
    {i : Nat} {c : Cursor} (hc : s.cursors[i]? = some c) (blank : α → Bool) :
    (s.perform (.apply i (.skipBlank blank true))).2 =
      (s.perform (.apply i (.skipBlank blank false))).2 ∧
    (∀ endCounts reply t, s.perform (.apply i (.skipBlank blank endCounts)) = (.answered reply, t) →
      t.perform (.apply i (.skipBlank blank false)) = (.answered (.verdict false), t)) ∧
    (script.yield = [] → ∀ endCounts,
      s.perform (.apply i (.skipBlank blank endCounts)) = (.answered (.verdict endCounts), s)) ∧
    (script.yield ≠ [] → Source.failures script = [] → ∃ h : Nat, c.index = h ∧
      s.BlanksFrom script.yield h (firstRefused blank script.yield h) i c blank) ∧
    ∀ endCounts,
      Operation.skipWhiteSpace endCounts = .skipBlank Unicode.isWhiteSpace endCounts := by
  have hmem := List.mem_of_getElem? hc
  have hstands : View.Stands ⟨s.buffer, c⟩ := hs.stands c hmem
  have hempty : c.index < 0 ↔ script.yield = [] := hs.whole_eq ▸ hstands.neg_iff
  refine ⟨?alike, fun endCounts reply t hfirst => ?again, fun hnil endCounts => ?nothing,
    fun hne hscript => ?exactly, fun _ => rfl⟩
  case alike =>
    rw [Session.perform_apply hc, Session.perform_apply hc, Operation.run, Operation.run]
    rcases hstands.run_skipBlank_alike blank with ⟨-, w, -, hrun⟩ | ⟨fault, w, hrun⟩
    · obtain ⟨holds, htrue⟩ := hrun true
      obtain ⟨holds', hfalse⟩ := hrun false
      rw [Action.run_bind_of_ok htrue, Action.run_bind_of_ok hfalse]
      rfl
    · rw [Action.run_bind_of_error (hrun true), Action.run_bind_of_error (hrun false)]
  case again =>
    rw [Session.perform_apply hc, Operation.run] at hfirst
    rcases hrun : (Cursor.skipBlank blank endCounts).run ⟨s.buffer, c⟩ with ⟨holds, w⟩ | ⟨fault, w⟩
    · rw [Action.run_bind_of_ok hrun] at hfirst
      cases hfirst
      have hlt := (List.getElem?_eq_some_iff.1 hc).1
      exact Session.perform_apply_stay (List.getElem?_set_self hlt)
        (Action.run_bind_of_ok (hstands.run_skipBlank_again hrun))
    · rw [Action.run_bind_of_error hrun] at hfirst
      cases hfirst
  case nothing =>
    have hrun := hstands.run_skipBlank_of_neg (hempty.2 hnil) blank endCounts
    exact Session.perform_apply_stay hc (Action.run_bind_of_ok hrun)
  case exactly =>
    have hindex : 0 ≤ c.index := Int.not_lt.1 (mt hempty.1 hne)
    exact ⟨c.index.toNat, (Int.toNat_of_nonneg hindex).symm,
      Session.blanksFrom hc (hs.onPlace hscript hmem hindex) blank⟩

/-- A space that ends the text: it cannot be left, and counts as skipped only if the end does. -/
theorem blanks_are_skipped_once_at_end :
    ∃ s : Session Char,
      s.Reached [.element ' '] ∧ s.cursors[0]? = some ⟨0, false, none⟩ ∧
      s.Answers 0 (.skipWhiteSpace true) (.verdict true) (·.IsAt 0 true) ∧
      s.Answers 0 (.skipWhiteSpace false) (.verdict false) (·.IsAt 0 true) := by
  have hreached : Session.Reached [.element ' ']
      { buffer := {
          key := 0
          items := #[' ']
          source := some []
          config := .quiet
          pulls := 1 }
        cursors := [⟨0, false, none⟩] } :=
    ⟨.source _, 0, .quiet, false, _, [], rfl, rfl, by decide +kernel⟩
  obtain ⟨h, hindex, hblanks⟩ := (blanks_are_skipped_once hreached (i := 0) rfl
    Unicode.isWhiteSpace).2.2.2.1 (by decide +kernel) rfl
  obtain rfl : h = 0 := (Int.natCast_eq_zero.1 hindex.symm)
  exact ⟨_, hreached, rfl, hblanks.skipBlank (by decide +kernel) true,
    hblanks.skipBlank (by decide +kernel) false⟩

end Rewind
