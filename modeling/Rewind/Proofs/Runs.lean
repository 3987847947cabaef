import Rewind.Proofs.Consumption
import Rewind.Proofs.HighWater

/-!
# How far a run goes

Over a source that never fails, where a run stops is told by the text alone: at the first place
from the head on whose element does not pass, `firstRefused`, or at the end. **What the operations
that walk ahead make of that place differs** (`runs_go_as_far_as_elements_pass`).

* A read leaves the head on it and hands out what lies before. Where everything passes up to the end
  the head cannot go there: it stops on the last element, does not hand it out, and has found that
  the source has run out.
* A read of the next looks one element ahead. Its head ends on the last element that passes, which
  it hands out, be it the last one of the text or not.
* `skipUntil` looks before it moves. Where it does not find what it is after it leaves the head
  alone.

A run is followed read by read, by induction on what lies ahead of the head; that it hands out what
the head has passed is known (`View.passes_of_run_many`). Only a head on the last place that there
can be may have to stop before.
-/

namespace Rewind

variable {α : Type}

open Cursor

/-- Whether a head is on a place, with this mark of having found the source to run out. -/
structure Cursor.IsAt (place : Nat) (reachedEnd : Bool) (c : Cursor) : Prop where
  index_eq : c.index = place
  reachedEnd_eq : c.reachedEnd = reachedEnd

/-- A walk ends in the text. -/
theorem firstRefused_le {p : α → Bool} {text : List α} {i : Nat} (h : i ≤ text.length) :
    firstRefused p text i ≤ text.length := by
  have hle := (List.takeWhile_sublist (l := text.drop i) p).length_le
  rw [List.length_drop] at hle
  rw [firstRefused]
  omega

namespace View

variable [LineElement α] {v : View α} {text : List α} {h : Nat}

namespace OnPlace

/-! ### One step -/

/-- A head that steps ahead arrives, or finds that there is no next element, or is on the last place
there can be. -/
theorem run_advanceWith (hv : v.OnPlace text h) (x : α) :
    lastPlace = h ∧ (advanceWith x).run v = .error (.misuse .seekOverflow) v ∨
      ∃ w, h < lastPlace ∧
        (text.length = h + 1 ∧ w.OnPlace text h ∧
            w.cursor = { v.cursor with reachedEnd := true } ∧
            (advanceWith x).run v = .ok none w ∨
          w.OnPlace text (h + 1) ∧ w.cursor.reachedEnd = v.cursor.reachedEnd ∧
            (advanceWith x).run v = .ok (some x) w) := by
  have hlast := hv.le_lastPlace
  have hlt := hv.lt_length
  have hindex := hv.index_eq
  rcases hv.run_ahead 1 Nat.zero_lt_one with
    ⟨hfar, hrun⟩ | ⟨w, hnear, -, ⟨hend, hw, hrun⟩ | ⟨hw, hrun⟩⟩
  · exact .inl ⟨by omega, Action.run_bind_of_error hrun⟩
  · have hcursor := (moveBy_ended Int.zero_lt_one (by omega) hrun).1
    exact .inr ⟨w, by omega, .inl ⟨by omega, hw, hcursor, Action.run_bind_of_ok hrun⟩⟩
  · have hmark := congrArg Cursor.reachedEnd (moveBy_ahead Int.zero_lt_one hrun).2
    exact .inr ⟨w, by omega, .inr ⟨hw, hmark, Action.run_bind_of_ok hrun⟩⟩

variable [DecidableEq α] (m : Matcher α)

/-- A read of one element stays on one that does not pass; past one that does it goes ahead, if it
can. -/
theorem run_readIf (hv : v.OnPlace text h) :
    (firstRefused m.accepts text h = h ∧
        ∃ w, w.OnPlace text h ∧ w.cursor = v.cursor ∧ (Cursor.readIf m).run v = .ok none w) ∨
      firstRefused m.accepts text h = firstRefused m.accepts text (h + 1) ∧ ∃ w,
        (lastPlace = h ∧ w.OnPlace text h ∧ w.cursor = v.cursor ∧
            (Cursor.readIf m).run v = .error (.misuse .seekOverflow) w ∨
          h < lastPlace ∧ text.length = h + 1 ∧ w.OnPlace text h ∧
            w.cursor = { v.cursor with reachedEnd := true } ∧
            (Cursor.readIf m).run v = .ok none w ∨
          h < lastPlace ∧ w.OnPlace text (h + 1) ∧
            w.cursor.reachedEnd = v.cursor.reachedEnd ∧
            ∃ x, (Cursor.readIf m).run v = .ok (some x) w) := by
  obtain ⟨b, hpeek, hb⟩ := hv.run_peek_zero
  have hw : View.OnPlace ⟨b, v.cursor⟩ text h := hv.asked hb rfl
  obtain ⟨x, hx⟩ : ∃ x, text[h]? = some x := ⟨_, List.getElem?_eq_getElem hv.lt_length⟩
  rw [hx] at hpeek
  rw [Cursor.readIf, Action.run_bind_of_ok hpeek]
  rcases hm : m.accepts x
  · simp only [hm]
    exact .inl ⟨firstRefused_of_refused hx hm, _, hw, rfl, rfl⟩
  · simp only [hm, if_true]
    refine .inr ⟨firstRefused_of_passed hx hm, ?_⟩
    rcases hw.run_advanceWith x with
      ⟨hfar, hrun⟩ | ⟨u, hnear, ⟨hend, hu, hcursor, hrun⟩ | ⟨hu, hmark, hrun⟩⟩
    · exact ⟨_, .inl ⟨hfar, hw, rfl, hrun⟩⟩
    · exact ⟨u, .inr (.inl ⟨hnear, hend, hu, hcursor, hrun⟩)⟩
    · exact ⟨u, .inr (.inr ⟨hnear, hu, hmark, x, hrun⟩)⟩

/-- A read of the next steps onto the next element if there is one and it passes. -/
theorem run_readNextIf (hv : v.OnPlace text h) :
    (min (firstRefused m.accepts text (h + 1)) (lastPlace + 1) = h + 1 ∧
        ∃ w, w.OnPlace text h ∧ w.cursor = v.cursor ∧ (Cursor.readNextIf m).run v = .ok none w) ∨
      firstRefused m.accepts text (h + 1) = firstRefused m.accepts text (h + 1 + 1) ∧
        ∃ w x, w.OnPlace text (h + 1) ∧ w.cursor.reachedEnd = v.cursor.reachedEnd ∧
          (Cursor.readNextIf m).run v = .ok (some x) w := by
  have hle : h + 1 ≤ firstRefused m.accepts text (h + 1) := le_firstRefused
  have hlast := hv.le_lastPlace
  obtain ⟨b, hpeek, hb⟩ := hv.run_peek 1
  have hw : View.OnPlace ⟨b, v.cursor⟩ text h := hv.asked hb rfl
  rw [Cursor.readNextIf, Action.run_bind_of_ok hpeek]
  rcases Nat.lt_or_ge lastPlace (h + 1) with hfar | hnear
  · have hnowhere : place? (h + 1) = none := place?_add_beyond hfar
    rw [hnowhere]
    exact .inl ⟨by omega, _, hw, rfl, rfl⟩
  have hplace : place? (h + 1) = some (h + 1) := place?_add hnear
  rw [hplace, Option.bind_some]
  rcases hx : text[h + 1]? with _ | x
  · rw [firstRefused_of_none hx]
    exact .inl ⟨by omega, _, hw, rfl, rfl⟩
  rcases hm : m.accepts x
  · simp only [hm]
    rw [firstRefused_of_refused hx hm]
    exact .inl ⟨by omega, _, hw, rfl, rfl⟩
  · simp only [hm, if_true]
    refine .inr ⟨firstRefused_of_passed hx hm, ?_⟩
    have hlt : h + 1 < text.length := (List.getElem?_eq_some_iff.1 hx).1
    rcases hw.run_advanceWith x with ⟨hfar, -⟩ | ⟨u, -, ⟨hend, -⟩ | ⟨hu, hmark, hrun⟩⟩
    · omega
    · omega
    · exact ⟨u, x, hu, hmark, hrun⟩

/-! ### Runs -/

/-- **A run of reads stops where an element does not pass, or on the last element**, by induction on
what lies ahead. -/
theorem run_readWhile (hv : v.OnPlace text h) :
    (∃ xs w, firstRefused m.accepts text h ≤ lastPlace ∧ (Cursor.readWhile m).run v = .ok xs w ∧
        w.OnPlace text (min (firstRefused m.accepts text h) (text.length - 1)) ∧
        w.cursor.reachedEnd =
          (v.cursor.reachedEnd || decide (firstRefused m.accepts text h = text.length))) ∨
      ∃ w, lastPlace < firstRefused m.accepts text h ∧
        (Cursor.readWhile m).run v = .error (.misuse .seekOverflow) w ∧ w.OnPlace text lastPlace ∧
        w.cursor.reachedEnd = v.cursor.reachedEnd := by
  induction hn : text.length - h using Nat.strongRecOn generalizing v h with
  | ind n ih =>
    have hlt := hv.lt_length
    have hread : (readerIf m).read = Cursor.readIf m := rfl
    rw [Cursor.readWhile, Reader.many_eq, hread]
    rcases hv.run_readIf m with ⟨hstop, w, hw, hcursor, hrun⟩ | ⟨hpassed, w, hstep⟩
    · refine .inl ⟨[], w, hstop.symm ▸ hv.le_lastPlace, Action.run_bind_of_ok hrun, ?_, ?_⟩
      · rw [hstop, Nat.min_eq_left (by omega)]
        exact hw
      · rw [hstop, hcursor, decide_eq_false (by omega), Bool.or_false]
    have hle : h + 1 ≤ firstRefused m.accepts text (h + 1) := le_firstRefused
    rw [hpassed]
    rcases hstep with ⟨hfar, hw, hcursor, hrun⟩ | ⟨hnear, hend, hw, hcursor, hrun⟩ |
      ⟨hnear, hw, hmark, x, hrun⟩
    · exact .inr ⟨w, by omega, Action.run_bind_of_error hrun, hfar ▸ hw, congrArg _ hcursor⟩
    -- The element under the head is the last one, and cannot be left.
    · have hall : firstRefused m.accepts text (h + 1) = text.length := by
        rw [firstRefused_of_none (List.getElem?_eq_none (Nat.le_of_eq hend)), hend]
      refine .inl ⟨[], w, by omega, Action.run_bind_of_ok hrun, ?_, ?_⟩
      · rw [hall, Nat.min_eq_right (by omega), hend]
        exact hw
      · rw [hall, hcursor, decide_eq_true rfl, Bool.or_true]
    · rw [Action.run_bind_of_ok hrun]
      rcases ih _ (by omega) hw rfl with
        ⟨xs, u, hle, hrest, hu, hmark'⟩ | ⟨u, hfar, hrest, hu, hmark'⟩
      · exact .inl ⟨x :: xs, u, hle, Action.run_bind_of_ok hrest, hu, by rw [hmark', hmark]⟩
      · exact .inr ⟨u, hfar, Action.run_bind_of_error hrest, hu, hmark'.trans hmark⟩

/-- **A run of reads of the next ends on the last element that passes**, by induction on what lies
ahead. -/
theorem run_readNextWhile (hv : v.OnPlace text h) :
    ∃ xs w, (Cursor.readNextWhile m).run v = .ok xs w ∧
      w.OnPlace text (min (firstRefused m.accepts text (h + 1)) (lastPlace + 1) - 1) ∧
      w.cursor.reachedEnd = v.cursor.reachedEnd := by
  induction hn : text.length - h using Nat.strongRecOn generalizing v h with
  | ind n ih =>
    have hlt := hv.lt_length
    have hread : (readerNextIf m).read = Cursor.readNextIf m := rfl
    rw [Cursor.readNextWhile, Reader.many_eq, hread]
    rcases hv.run_readNextIf m with
      ⟨hstop, w, hw, hcursor, hrun⟩ | ⟨hpassed, w, x, hw, hmark, hrun⟩
    · rw [hstop]
      exact ⟨[], w, Action.run_bind_of_ok hrun, hw, congrArg _ hcursor⟩
    · obtain ⟨xs, u, hrest, hu, hmark'⟩ := ih _ (by omega) hw rfl
      rw [hpassed, Action.run_bind_of_ok hrun]
      exact ⟨x :: xs, u, Action.run_bind_of_ok hrest, hu, hmark'.trans hmark⟩

omit [LineElement α] [DecidableEq α] in
/-- What a head passes on its way between two places is what the text has there. -/
theorem eq_extract {place ahead : Nat} {xs : List α} {w : View α} (hv : v.OnPlace text h)
    (hw : w.OnPlace text place) (hpasses : v.Passes ahead xs w) :
    xs = text.extract (h + ahead) (place + ahead) := by
  have hextract := hpasses.eq_extract
  have hstart : (v.cursor.index + ahead).toNat = h + ahead := by
    rw [hv.index_eq]
    rfl
  have hstop : (w.cursor.index + ahead).toNat = place + ahead := by
    rw [hw.index_eq]
    rfl
  rwa [hstart, hstop, hv.whole_eq] at hextract

/-- A run that does not stop beyond the last place reads what lies before it stops, -/
theorem run_readWhile_of_le (hv : v.OnPlace text h) {stop : Nat}
    (hstop : firstRefused m.accepts text h = stop) (hlast : stop ≤ lastPlace) :
    ∃ w, (Cursor.readWhile m).run v = .ok (text.extract h (min stop (text.length - 1))) w ∧
      w.OnPlace text (min stop (text.length - 1)) ∧
      w.cursor.reachedEnd = (v.cursor.reachedEnd || decide (stop = text.length)) := by
  rcases hv.run_readWhile m with ⟨xs, w, -, hrun, hw, hmark⟩ | ⟨w, hfar, -⟩
  · rw [hstop] at hw hmark
    have hxs := hv.eq_extract hw (passes_of_run_many (consumes_advanceIf m.accepts 0) hrun)
    exact ⟨w, hxs ▸ hrun, hw, hmark⟩
  · omega

/-- and skips it. -/
theorem run_skipWhile_of_le (hv : v.OnPlace text h) {stop : Nat}
    (hstop : firstRefused m.accepts text h = stop) (hlast : stop ≤ lastPlace) :
    ∃ w, (Cursor.skipWhile m).run v = .ok (decide (min stop (text.length - 1) ≠ h)) w ∧
      w.OnPlace text (min stop (text.length - 1)) ∧
      w.cursor.reachedEnd = (v.cursor.reachedEnd || decide (stop = text.length)) := by
  obtain ⟨w, hrun, hw, hmark⟩ := hv.run_readWhile_of_le m hstop hlast
  have hle : h ≤ stop := hstop ▸ le_firstRefused
  have hlt := hv.lt_length
  have hlength : (text.extract h (min stop (text.length - 1))).length =
      min stop (text.length - 1) - h := by
    rw [List.extract_eq_take_drop, List.length_take, List.length_drop]
    omega
  have hverdict : (!(text.extract h (min stop (text.length - 1))).isEmpty) =
      decide (min stop (text.length - 1) ≠ h) := by
    rw [Bool.eq_iff_iff, Bool.not_eq_true', decide_eq_true_iff, ← Bool.not_eq_true,
      List.isEmpty_iff_length_eq_zero, hlength]
    omega
  exact ⟨w, hverdict ▸ Action.run_bind_of_ok hrun, hw, hmark⟩

/-! ### Looking first -/

omit [DecidableEq α] in
/-- Moving ahead by a count, to a place that there can be. -/
theorem run_skip (hv : v.OnPlace text h) {count : Nat} (hlast : h + count ≤ lastPlace) :
    (h + count < text.length ∧ ∃ w, (skip count).run v = .ok true w ∧ w.OnPlace text (h + count) ∧
        w.cursor.reachedEnd = v.cursor.reachedEnd) ∨
      text.length ≤ h + count ∧ ∃ w, (skip count).run v = .ok false w ∧ w.OnPlace text h ∧
        w.cursor = { v.cursor with reachedEnd := true } := by
  have hlt := hv.lt_length
  have hindex := hv.index_eq
  have hskip : skip (α := α) count = moveBy count := by
    rw [skip, Offset.ofCount?_eq_some_iff.2 ⟨fits_natCast.2 (by omega), rfl⟩]
    rfl
  rw [hskip]
  rcases Nat.eq_zero_or_pos count with rfl | hpos
  · refine .inl ⟨hlt, v, ?_, hv, rfl⟩
    rw [run_moveBy, if_pos Int.natCast_zero]
  rcases hv.run_ahead count hpos with ⟨hfar, -⟩ | ⟨w, -, -, ⟨hend, hw, hrun⟩ | ⟨hw, hrun⟩⟩
  · omega
  · exact .inr ⟨hend, w, hrun, hw, (moveBy_ended (by omega) (by omega) hrun).1⟩
  · have hmark := congrArg Cursor.reachedEnd (moveBy_ahead (by omega) hrun).2
    exact .inl ⟨hw.lt_length, w, hrun, hw, hmark⟩

/-- **Looking for an element moves the head there or not at all.** -/
theorem run_skipUntil (hv : v.OnPlace text h) {found : Nat}
    (hfound : firstRefused (fun x => !m.accepts x) text h = found) :
    (∃ w, found < text.length ∧ found ≤ lastPlace ∧ (Cursor.skipUntil m).run v = .ok true w ∧
        w.OnPlace text found ∧ w.cursor.reachedEnd = v.cursor.reachedEnd) ∨
      ∃ w, w.cursor = v.cursor ∧ (found = text.length ∨ lastPlace < found) ∧
        ((Cursor.skipUntil m).run v = .ok false w ∨
          lastPlace < found ∧ ∃ fault, (Cursor.skipUntil m).run v = .error fault w) := by
  have hle : h ≤ found := hfound ▸ le_firstRefused
  have hend : found ≤ text.length := hfound ▸ firstRefused_le (Nat.le_of_lt hv.lt_length)
  have hscan := hv.run_scan (fun x => !m.accepts x) (e := 0) (Nat.le_succ_of_le hv.le_lastPlace)
    (Nat.le_of_lt hv.held)
  rw [Nat.add_zero, hfound] at hscan
  obtain ⟨w, hw, hcursor, ⟨hfar, hrun⟩ | ⟨scanned, hrun, hlength, hstop⟩⟩ := hscan
  · exact .inr ⟨w, hcursor, .inr hfar, .inr ⟨hfar, _, Action.run_bind_of_error hrun⟩⟩
  have hplace := hv.asked hw (congrArg Cursor.index hcursor)
  have hthen : (Cursor.skipUntil m).run v = (if scanned.stop.isSome then
      skip scanned.passed.length else Pure.pure false : Moving α Bool).run w :=
    Action.run_bind_of_ok hrun
  rw [hthen, hstop]
  by_cases hthere : found < text.length ∧ found ≤ lastPlace
  · obtain ⟨hlt, hlast⟩ := hthere
    rw [place?_natCast hlast, Option.bind_some, List.getElem?_eq_getElem hlt, Option.isSome_some,
      if_pos rfl]
    have hcount : h + scanned.passed.length = found := by omega
    rcases hplace.run_skip (hcount ▸ hlast) with ⟨-, u, hskip, hu, hmark⟩ | ⟨hend, -⟩
    · exact .inl ⟨u, hlt, hlast, hskip, hcount ▸ hu, by rw [hmark, hcursor]⟩
    · omega
  · have hnone : (place? (found : Nat)).bind (text[·]?) = none := by
      rcases Nat.lt_or_ge lastPlace found with hfar | hnear
      · rw [place?_beyond hfar, Option.bind_none]
      · rw [place?_natCast hnear, Option.bind_some, List.getElem?_eq_none (by omega)]
    rw [hnone, Option.isSome_none, if_neg Bool.false_ne_true]
    exact .inr ⟨w, hcursor, by omega, .inl rfl⟩

end OnPlace

/-! ### Before an empty text -/

variable [DecidableEq α] (m : Matcher α)

/-- Before an empty text nothing is read, skipped or found, and nothing is done. -/
theorem Stands.run_none (hv : v.Stands) (hneg : v.cursor.index < 0) :
    (Cursor.readWhile m).run v = .ok [] v ∧ (Cursor.readNextWhile m).run v = .ok [] v ∧
      (Cursor.skipWhile m).run v = .ok false v ∧ (Cursor.skipUntil m).run v = .ok false v := by
  have hnone : (readerIf m).read.run v = .ok none v :=
    Action.run_bind_of_ok (hv.run_peek_of_neg hneg 0)
  have hnone' : (readerNextIf m).read.run v = .ok none v :=
    Action.run_bind_of_ok (hv.run_peek_of_neg hneg 1)
  have hread : (Cursor.readWhile m).run v = .ok [] v := by
    rw [Cursor.readWhile, Reader.many_eq]
    exact Action.run_bind_of_ok hnone
  have hnext : (Cursor.readNextWhile m).run v = .ok [] v := by
    rw [Cursor.readNextWhile, Reader.many_eq]
    exact Action.run_bind_of_ok hnone'
  have hscan : (look (·.scan (fun x => !m.accepts x) 0)).run v = .ok ⟨[], none⟩ v := by
    have hstep := funext fun c => scan_eq (fun x => !m.accepts x) c 0
    rw [hstep, look_bind]
    exact Action.run_bind_of_ok (hv.run_peek_of_neg hneg 0)
  exact ⟨hread, hnext, Action.run_bind_of_ok hread, Action.run_bind_of_ok hscan⟩

end View

/-! ### Sessions -/

variable [LineElement α] [DecidableEq α]

/-- What the operations that walk ahead come to on the cursor `c` of a session, which is on the
place `h` of a text: `stop` and `next` are the first places whose element does not pass, from there
on and from the next place on, and `found` is the first from there on whose element does. -/
structure Session.RunsFrom (text : List α) (h stop next found : Nat) (s : Session α) (i : Nat)
    (c : Cursor) (m : Matcher α) : Prop where
  /-- All elements up to the first that does not pass are read, except the last one of the text. -/
  readWhile : stop ≤ lastPlace →
    s.Answers i (.readWhile m) (.run (text.extract h (min stop (text.length - 1))))
      (·.IsAt (min stop (text.length - 1)) (c.reachedEnd || decide (stop = text.length)))
  /-- Skipping goes as far as reading. -/
  skipWhile : stop ≤ lastPlace →
    s.Answers i (.skipWhile m) (.verdict (decide (min stop (text.length - 1) ≠ h)))
      (·.IsAt (min stop (text.length - 1)) (c.reachedEnd || decide (stop = text.length)))
  /-- A read of the next goes on to the last element that passes and reads that as well. -/
  readNextWhile :
    s.Answers i (.readNextWhile m) (.run (text.extract (h + 1) (min next (lastPlace + 1))))
      (·.IsAt (min next (lastPlace + 1) - 1) c.reachedEnd)
  /-- The head goes to the first element that passes, -/
  skipUntil : found < text.length → found ≤ lastPlace →
    s.Answers i (.skipUntil m) (.verdict true) (·.IsAt found c.reachedEnd)
  /-- and stays where it is if there is none. -/
  skipUntil_none : found = text.length → found ≤ lastPlace →
    s.Answers i (.skipUntil m) (.verdict false) (· = c)
  /-- A run of more elements than there are places is refused, and nothing is found out there. -/
  beyond : lastPlace < stop →
    (s.perform (.apply i (.readWhile m))).1 = .failed (.misuse .seekOverflow) ∧
      (s.perform (.apply i (.skipWhile m))).1 = .failed (.misuse .seekOverflow)
  found_beyond : lastPlace < found →
    (s.perform (.apply i (.skipUntil m))).1 ≠ .answered (.verdict true) ∧
      (s.perform (.apply i (.skipUntil m))).2.cursors = s.cursors

/-- **A session whose head is on a place of the text walks ahead from there as told.** -/
theorem Session.runsFrom {s : Session α} {i : Nat} {c : Cursor} (hc : s.cursors[i]? = some c)
    {text : List α} {h : Nat} (hv : View.OnPlace ⟨s.buffer, c⟩ text h) (m : Matcher α) :
    s.RunsFrom text h (firstRefused m.accepts text h) (firstRefused m.accepts text (h + 1))
      (firstRefused (fun x => !m.accepts x) text h) i c m := by
  have hlt := hv.lt_length
  refine ⟨fun hstop => ?readWhile, fun hstop => ?skipWhile, ?readNextWhile,
    fun hlt hfound => ?skipUntil, fun hend hfound => ?skipUntil_none, fun hfar => ?beyond,
    fun hfar => ?found_beyond⟩
  case readWhile =>
    obtain ⟨w, hrun, hw, hmark⟩ := hv.run_readWhile_of_le m rfl hstop
    exact answers_of_run hc (Action.run_bind_of_ok hrun) ⟨hw.index_eq, hmark⟩
  case skipWhile =>
    obtain ⟨w, hrun, hw, hmark⟩ := hv.run_skipWhile_of_le m rfl hstop
    exact answers_of_run hc (Action.run_bind_of_ok hrun) ⟨hw.index_eq, hmark⟩
  case readNextWhile =>
    obtain ⟨xs, w, hrun, hw, hmark⟩ := hv.run_readNextWhile m
    have hle : h + 1 ≤ firstRefused m.accepts text (h + 1) := le_firstRefused
    have hlast := hv.le_lastPlace
    have hpasses := View.passes_of_run_many (View.consumes_advanceIf m.accepts 1) hrun
    have hxs := hv.eq_extract hw hpasses
    rw [Nat.sub_add_cancel (by omega)] at hxs
    exact answers_of_run hc (hxs ▸ Action.run_bind_of_ok hrun) ⟨hw.index_eq, hmark⟩
  case skipUntil =>
    rcases hv.run_skipUntil m rfl with ⟨w, -, -, hrun, hw, hmark⟩ | ⟨w, -, hnone, -⟩
    · exact answers_of_run hc (Action.run_bind_of_ok hrun) ⟨hw.index_eq, hmark⟩
    · omega
  case skipUntil_none =>
    rcases hv.run_skipUntil m rfl with ⟨w, hlt, -⟩ | ⟨w, hcursor, -, hrun | ⟨hfar, -⟩⟩
    · omega
    · exact answers_of_run hc (Action.run_bind_of_ok hrun) hcursor
    · omega
  case beyond =>
    rcases hv.run_readWhile m with ⟨xs, w, hnear, -⟩ | ⟨w, -, hrun, -⟩
    · omega
    have hskip : (Cursor.skipWhile m).run ⟨s.buffer, c⟩ = .error (.misuse .seekOverflow) w :=
      Action.run_bind_of_error hrun
    rw [perform_apply hc, perform_apply hc, Operation.run, Operation.run,
      Action.run_bind_of_error hrun, Action.run_bind_of_error hskip]
    exact ⟨rfl, rfl⟩
  case found_beyond =>
    rcases hv.run_skipUntil m rfl with ⟨w, -, hnear, -⟩ | ⟨w, hcursor, -, hrun | ⟨-, fault, hrun⟩⟩
    · omega
    · rw [perform_apply hc, Operation.run, Action.run_bind_of_ok hrun]
      refine ⟨by simp, ?_⟩
      simp only [EStateM.run_pure, hcursor]
      exact congrArg Session.cursors (set_cursor_self hc)
    · rw [perform_apply hc, Operation.run, Action.run_bind_of_error hrun]
      refine ⟨by simp, ?_⟩
      simp only [hcursor]
      exact congrArg Session.cursors (set_cursor_self hc)

/-- **Runs go as far as elements pass.** -/
theorem runs_go_as_far_as_elements_pass {script : Source α}
    (hscript : Source.failures script = []) {s : Session α} (hs : s.Reached script) {i : Nat}
    {c : Cursor} (hc : s.cursors[i]? = some c) (m : Matcher α) :
    (∀ h : Nat, c.index = h →
      s.RunsFrom script.yield h (firstRefused m.accepts script.yield h)
        (firstRefused m.accepts script.yield (h + 1))
        (firstRefused (fun x => !m.accepts x) script.yield h) i c m) ∧
    (c.index < 0 →
      s.perform (.apply i (.readWhile m)) = (.answered (.run []), s) ∧
      s.perform (.apply i (.readNextWhile m)) = (.answered (.run []), s) ∧
      s.perform (.apply i (.skipWhile m)) = (.answered (.verdict false), s) ∧
      s.perform (.apply i (.skipUntil m)) = (.answered (.verdict false), s)) ∧
    ∀ (m : Matcher Char) (v : View Char),
      (Cursor.readStringWhile m).run v = match (Cursor.readWhile m).run v with
        | .ok xs w => .ok (String.ofList xs) w
        | .error fault w => .error fault w := by
  have hmem := List.mem_of_getElem? hc
  refine ⟨fun h hindex => ?_, fun hneg => ?_, fun m v => ?_⟩
  · have hv := hs.onPlace hscript hmem (by omega)
    rw [hindex, Int.toNat_natCast] at hv
    exact Session.runsFrom hc hv m
  · have hstands : View.Stands ⟨s.buffer, c⟩ := hs.stands c hmem
    obtain ⟨hread, hnext, hskip, huntil⟩ := hstands.run_none m hneg
    exact ⟨Session.perform_apply_stay hc (Action.run_bind_of_ok hread),
      Session.perform_apply_stay hc (Action.run_bind_of_ok hnext),
      Session.perform_apply_stay hc (Action.run_bind_of_ok hskip),
      Session.perform_apply_stay hc (Action.run_bind_of_ok huntil)⟩
  · exact Cursor.run_readStringWhile m v

/-- Two letters and the end: a read keeps off the last one and finds the end, a read of the next
takes it and does not, and no digit is found. -/
theorem runs_go_as_far_as_elements_pass_to_end :
    ∃ s : Session Char,
      s.Reached [.element 'a', .element 'b'] ∧ s.cursors[0]? = some ⟨0, false, none⟩ ∧
      s.Answers 0 (.readWhile (.satisfying Char.isAlpha)) (.run ['a']) (·.IsAt 1 true) ∧
      s.Answers 0 (.readNextWhile (.satisfying Char.isAlpha)) (.run ['b']) (·.IsAt 1 false) ∧
      s.Answers 0 (.skipUntil (.satisfying Char.isDigit)) (.verdict false)
        (· = ⟨0, false, none⟩) := by
  have hreached : Session.Reached [.element 'a', .element 'b']
      { buffer := {
          key := 0
          items := #['a']
          source := some [.element 'b']
          config := .quiet
          pulls := 1 }
        cursors := [⟨0, false, none⟩] } :=
    ⟨.source _, 0, .quiet, false, _, [], rfl, rfl, by decide +kernel⟩
  have hruns (m : Matcher Char) :=
    (runs_go_as_far_as_elements_pass (α := Char) rfl hreached (i := 0) rfl m).1 0 rfl
  exact ⟨_, hreached, rfl, (hruns _).readWhile (by decide +kernel), (hruns _).readNextWhile,
    (hruns _).skipUntil_none (by decide +kernel) (by decide +kernel)⟩

end Rewind
