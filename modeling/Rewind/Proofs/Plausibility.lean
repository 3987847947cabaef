import Rewind.Proofs.Trust

/-!
# Which saved places are taken

A head that keeps lines and takes over a saved line and column checks them first, and then walks
from the saved place to the target. Both can refuse. What they let through is told here **in
closed form** (`Position.Plausible`), and so is what becomes of a line and a column that pass
(`Position.Carried`): `plausible_places_are_taken_over`.

The check bounds the line and the column by the place, and compares the column with one element. A
walk ahead refuses nothing. A walk back counts the line down at each line feed it passes, so the
line must be at least their number. It counts the column down **only until it passes a line feed**:
from there on the column is the true one, which is never too small. So the column must reach back to
the first line feed passed, or over the whole way if there is none (`Position.back?_isSome_iff`).
-/

namespace Rewind

open Cursor

variable {α : Type}

namespace Position

/-! ### Walks that can be made -/

section Walks

variable (feeds : α → Bool)

/-- What lies close by is not farther away than the nearest line feed there is. -/
theorem columnOf_le_append (near far : List α) :
    columnOf feeds near ≤ columnOf feeds (near ++ far) := by
  rcases hany : near.any feeds
  · have hlength : columnOf feeds near ≤ near.length := (List.takeWhile_sublist _).length_le
    rw [columnOf_append_of_none feeds hany]
    omega
  · exact Nat.le_of_eq (columnOf_append_of_any feeds hany far).symm

/-- **A walk back can be made exactly if the line and the column last**: the line for all line feeds
on the way, the column up to the first of them. -/
theorem back?_isSome_iff (near far : List α) (p : Position) :
    (back? feeds near.length (near ++ far) p).isSome = true ↔
      near.countP feeds ≤ p.line ∧ columnOf feeds near ≤ p.column := by
  induction near generalizing p with
  | nil => exact iff_of_true rfl ⟨Nat.zero_le _, Nat.zero_le _⟩
  | cons x near ih =>
    rw [List.length_cons, List.cons_append, back?]
    by_cases hx : feeds x
    -- Behind a line feed the column is the true one, and lasts.
    · have hcolumn : columnOf feeds (x :: near) = 0 := by simp [columnOf, hx]
      have htrue := columnOf_le_append feeds near far
      rw [if_pos hx, List.countP_cons_of_pos hx, hcolumn]
      by_cases hline : p.line = 0
      · rw [if_pos hline]
        exact iff_of_false Bool.false_ne_true (by omega)
      · rw [if_neg hline, ih]
        simp only
        omega
    · have hcolumn : columnOf feeds (x :: near) = columnOf feeds near + 1 := by
        simp [columnOf, hx]
      rw [if_neg hx, List.countP_cons_of_neg hx, hcolumn]
      by_cases hzero : p.column = 0
      · rw [if_pos hzero]
        exact iff_of_false Bool.false_ne_true (by omega)
      · rw [if_neg hzero, ih]
        simp only
        omega

/-- A walk ahead can always be made, and a walk back if the line and the column last. -/
theorem walk?_isSome_iff {text : Array α} {start stop : Nat} (hstart : start ≤ text.size)
    (p : Position) :
    (walk? feeds text start stop p).isSome = true ↔
      (stop < start → (text.extract stop start).toList.countP feeds ≤ p.line ∧
        columnOf feeds (text.extract stop start).toList.reverse ≤ p.column) := by
  rw [walk?]
  by_cases hle : start ≤ stop
  · rw [if_pos hle]
    exact iff_of_true rfl fun hlt => absurd hle (Nat.not_le.2 hlt)
  · have hlt : stop < start := Nat.not_le.1 hle
    have hlength : start - stop = (text.extract stop start).toList.reverse.length := by
      rw [List.length_reverse, Array.length_toList, Array.size_extract, Nat.min_eq_left hstart]
    rw [if_neg hle, behind_append text (Nat.le_of_lt hlt), hlength, back?_isSome_iff,
      List.countP_reverse]
    exact ⟨fun h _ => h, fun h => h hlt⟩

/-- **What a walk makes of a line and a column**, in whichever direction it goes: one of the two
counts of line feeds is zero. -/
theorem of_walk? {text : Array α} {start stop : Nat} {p q : Position} (hstart : start ≤ text.size)
    (hstop : stop ≤ text.size) (h : walk? feeds text start stop p = some q) :
    q.line + (text.extract stop start).toList.countP feeds =
        p.line + (text.extract start stop).toList.countP feeds ∧
      if (text.extract (min start stop) (max start stop)).toList.any feeds then
        q.column = columnOf feeds (behind text stop)
      else q.column + start = p.column + stop := by
  have hempty {i j : Nat} (hle : i ≤ j) : (text.extract j i).toList = [] := by
    rw [Array.toList_extract, List.extract_eq_take_drop, Nat.sub_eq_zero_of_le hle,
      List.take_zero]
  rw [walk?] at h
  split at h
  · next hle =>
    cases h
    have hlength : (text.extract start stop).toList.length = stop - start := by
      rw [Array.length_toList, Array.size_extract, Nat.min_eq_left hstop]
    rw [forward_eq, Nat.min_eq_left hle, Nat.max_eq_right hle, hempty hle]
    refine ⟨rfl, ?_⟩
    split
    · next hany =>
      have hreverse : (text.extract start stop).toList.reverse.any feeds = true := by
        rwa [List.any_reverse]
      rw [behind_append text hle, columnOf_append_of_any feeds hreverse]
    · next hany =>
      simp only [hlength]
      omega
  · next hlt =>
    have hle : stop ≤ start := by omega
    have hlength : (text.extract stop start).toList.reverse.length = start - stop := by
      rw [List.length_reverse, Array.length_toList, Array.size_extract, Nat.min_eq_left hstart]
    rw [behind_append text hle, ← hlength] at h
    obtain ⟨hline, hcolumn⟩ := of_back? feeds h
    rw [List.any_reverse, hlength] at hcolumn
    rw [List.countP_reverse] at hline
    rw [Nat.min_eq_right hle, Nat.max_eq_left hle, hempty hle]
    refine ⟨hline.symm, ?_⟩
    split
    · next hany => rwa [if_pos hany] at hcolumn
    · next hany =>
      rw [if_neg hany] at hcolumn
      omega

end Walks

/-! ### Lines and columns that pass -/

/-- Whether a line and a column saved for a place may be taken over on the way from there to a
target. -/
structure Plausible (lineFeed : Char) (text : List Char) (place target : Nat) (p : Position) :
    Prop where
  line_le : p.line ≤ place
  column_le : p.column ≤ place
  start : place = 0 → p.line = 0 ∧ p.column = 0
  column_eq_zero_iff : 0 < place → (p.column = 0 ↔ text[place - 1]? = some lineFeed)
  /-- On the way back, the line lasts for all line feeds. -/
  feeds_le : target < place → (text.extract target place).count lineFeed ≤ p.line
  /-- On the way back, the column lasts up to the first line feed. -/
  column_ge_of_feed : target < place → ∀ feed, target ≤ feed → feed < place →
    text[feed]? = some lineFeed → (∀ k < place, feed < k → text[k]? ≠ some lineFeed) →
    place - 1 - feed ≤ p.column
  /-- On the way back, the column lasts to the target if there is no line feed. -/
  column_ge_of_none : target < place →
    (∀ k < place, target ≤ k → text[k]? ≠ some lineFeed) → place - target ≤ p.column

/-- What a line and a column become on the way from a place to a target. -/
structure Carried (lineFeed : Char) (text : List Char) (place target : Nat) (p q : Position) :
    Prop where
  /-- The line feeds on the way are added if it leads ahead, and taken off if it leads back. -/
  line_eq : q.line + (text.extract target place).count lineFeed =
    p.line + (text.extract place target).count lineFeed
  /-- Past a line feed the column is that of the target. -/
  column_eq_of_feed : lineFeed ∈ text.extract (min place target) (max place target) →
    ∃ line, TrueAt lineFeed text target ⟨line, q.column⟩
  /-- Otherwise it has changed by the distance. -/
  column_eq_of_none : lineFeed ∉ text.extract (min place target) (max place target) →
    q.column + place = p.column + target

/-- The line feeds among some characters, counted as elements that end a line. -/
theorem countP_feeds (config : Config) (chars : List Char) :
    chars.countP config.feeds = chars.count config.lineFeed := rfl

/-- Among characters, the line feed itself is what ends a line. -/
theorem any_feeds_iff_mem (config : Config) (chars : List Char) :
    chars.any config.feeds = true ↔ config.lineFeed ∈ chars := by
  simpa using Config.any_feeds_iff config chars.toArray

theorem mem_extract_iff {x : α} {text : List α} {start stop : Nat} :
    x ∈ text.extract start stop ↔ ∃ k, start ≤ k ∧ k < stop ∧ text[k]? = some x := by
  rw [List.extract_eq_take_drop, List.mem_iff_getElem?]
  constructor
  · rintro ⟨k, hk⟩
    rw [List.getElem?_take, List.getElem?_drop] at hk
    split at hk
    · exact ⟨start + k, by omega, by omega, hk⟩
    · cases hk
  · rintro ⟨k, hle, hlt, hk⟩
    refine ⟨k - start, ?_⟩
    rw [List.getElem?_take, if_pos (by omega), List.getElem?_drop, Nat.add_sub_cancel' hle, hk]

/-- The nearest line feed on the way back from a place to a target, if there is one, and how far
away it is. -/
theorem exists_feed_or_columnOf_eq (config : Config) {text : Array Char} {place target : Nat}
    (hplace : place ≤ text.size) (hle : target ≤ place) :
    (∃ feed, target ≤ feed ∧ feed < place ∧ text.toList[feed]? = some config.lineFeed ∧
      (∀ k < place, feed < k → text.toList[k]? ≠ some config.lineFeed) ∧
      columnOf config.feeds (text.extract target place).toList.reverse = place - 1 - feed) ∨
    (∀ k < place, target ≤ k → text.toList[k]? ≠ some config.lineFeed) ∧
      columnOf config.feeds (text.extract target place).toList.reverse = place - target := by
  have hany := any_feeds_iff_mem config (text.extract target place).toList.reverse
  rw [List.mem_reverse, Array.toList_extract, mem_extract_iff, ← Array.toList_extract] at hany
  by_cases hfeed : ∃ k, target ≤ k ∧ k < place ∧ text.toList[k]? = some config.lineFeed
  -- The last line feed before the place is then on the way.
  · obtain ⟨k, hk, hkplace, hkat⟩ := hfeed
    rcases exists_last_feed config.lineFeed text.toList place with
      hnone | ⟨feed, hlt, hat, hlast⟩
    · exact absurd hkat (hnone k hkplace)
    have hkfeed : k ≤ feed := Nat.not_lt.1 fun hlt => hlast k hkplace hlt hkat
    have htrue := (trueAt_ofBehind config text place hplace).column_eq_of_feed feed hlt hat hlast
    rw [behind_append text hle, ofBehind,
      columnOf_append_of_any _ (hany.2 ⟨k, hk, hkplace, hkat⟩)] at htrue
    exact .inl ⟨feed, by omega, hlt, hat, hlast, by simp only at htrue; omega⟩
  · have hnone := columnOf_append_of_none config.feeds
      (Bool.eq_false_iff.2 fun h => hfeed (hany.1 h)) []
    rw [List.append_nil, List.length_reverse, Array.length_toList, Array.size_extract,
      Nat.min_eq_left hplace] at hnone
    exact .inr ⟨fun k hk hle hat => hfeed ⟨k, hle, hk, hat⟩, hnone⟩

/-- How far a column must reach on the way back from a place to a target. -/
theorem columnOf_extract_le_iff (config : Config) {text : Array Char} {place target : Nat}
    (hplace : place ≤ text.size) (hle : target ≤ place) (column : Nat) :
    columnOf config.feeds (text.extract target place).toList.reverse ≤ column ↔
      (∀ feed, target ≤ feed → feed < place → text.toList[feed]? = some config.lineFeed →
        (∀ k < place, feed < k → text.toList[k]? ≠ some config.lineFeed) →
        place - 1 - feed ≤ column) ∧
      ((∀ k < place, target ≤ k → text.toList[k]? ≠ some config.lineFeed) →
        place - target ≤ column) := by
  rcases exists_feed_or_columnOf_eq config hplace hle with
    ⟨feed, hfrom, hlt, hat, hlast, hcolumn⟩ | ⟨hnone, hcolumn⟩
  · rw [hcolumn]
    refine ⟨fun h => ⟨fun other _ hother hotherat hotherlast => ?_, fun hnone => ?_⟩,
      fun h => h.1 feed hfrom hlt hat hlast⟩
    · have hsame : feed = other := by
        rcases Nat.lt_trichotomy feed other with hlt' | rfl | hlt'
        · exact absurd hotherat (hlast other hother hlt')
        · rfl
        · exact absurd hat (hotherlast feed hlt hlt')
      rwa [← hsame]
    · exact absurd hat (hnone feed hlt hfrom)
  · rw [hcolumn]
    refine ⟨fun h => ⟨fun feed hfrom hlt hat _ => ?_, fun _ => h⟩, fun h => h.2 hnone⟩
    exact absurd hat (hnone feed hlt hfrom)

end Position

/-! ### Seeking a place -/

/-- The check of a line and a column, in the order in which it is made. -/
theorem Buffer.admits_iff (b : Buffer Char) (place : Nat) (p : Position) :
    b.admits place p = true ↔ p.line ≤ place ∧ p.column ≤ place ∧
      (place = 0 → p.line = 0 ∧ p.column = 0) ∧
      (0 < place → (p.column = 0 ↔ b.items.toList[place - 1]? = some b.config.lineFeed)) := by
  rcases place with _ | before
  · simp [admits]
    omega
  · have hfeed : b.items[before]?.any b.feeds = true ↔
        b.items.toList[before]? = some b.config.lineFeed := by
      rw [Array.getElem?_toList]
      rcases b.items[before]? with _ | x
      · simp
      · rw [Option.some.injEq]
        exact decide_eq_true_iff
    rw [admits, Bool.and_eq_true, Bool.and_eq_true, decide_eq_true_eq, decide_eq_true_eq,
      beq_iff_eq, Bool.eq_iff_iff, hfeed, decide_eq_true_eq, and_assoc]
    simp [iff_comm]

namespace Position

variable {p q : Position}

/-- **What passes the check and the walk is what is plausible.** -/
theorem plausible_iff (b : Buffer Char) {place : Nat} (hplace : place ≤ b.items.size)
    (target : Nat) :
    p.Plausible b.config.lineFeed b.items.toList place target ↔
      b.admits place p = true ∧ (walk? b.feeds b.items place target p).isSome = true := by
  have hfeeds : b.feeds = b.config.feeds := rfl
  have hcount : (b.items.extract target place).toList.countP b.config.feeds =
      (b.items.toList.extract target place).count b.config.lineFeed := by
    rw [countP_feeds, Array.toList_extract]
  rw [b.admits_iff, walk?_isSome_iff b.feeds hplace, hfeeds, hcount]
  constructor
  · intro h
    refine ⟨⟨h.line_le, h.column_le, h.start, h.column_eq_zero_iff⟩,
      fun hlt => ⟨h.feeds_le hlt, ?_⟩⟩
    rw [columnOf_extract_le_iff b.config hplace (Nat.le_of_lt hlt)]
    exact ⟨h.column_ge_of_feed hlt, h.column_ge_of_none hlt⟩
  · rintro ⟨⟨hline, hcolumn, hstart, hzero⟩, hwalk⟩
    have hreach (hlt : target < place) :=
      (columnOf_extract_le_iff b.config hplace (Nat.le_of_lt hlt) p.column).1 (hwalk hlt).2
    exact ⟨hline, hcolumn, hstart, hzero, fun hlt => (hwalk hlt).1, fun hlt => (hreach hlt).1,
      fun hlt => (hreach hlt).2⟩

/-- A walk carries a line and a column to the target. -/
theorem carried_of_walk? (b : Buffer Char) {place target : Nat} (hplace : place ≤ b.items.size)
    (htarget : target ≤ b.items.size) (h : walk? b.feeds b.items place target p = some q) :
    p.Carried b.config.lineFeed b.items.toList place target q := by
  have hany := any_feeds_iff_mem b.config
    (b.items.extract (min place target) (max place target)).toList
  rw [Array.toList_extract] at hany
  obtain ⟨hline, hcolumn⟩ := of_walk? b.config.feeds hplace htarget h
  rw [countP_feeds, countP_feeds, Array.toList_extract, Array.toList_extract] at hline
  rw [Array.toList_extract] at hcolumn
  refine ⟨hline, fun hfeed => ?_, fun hnone => ?_⟩
  · rw [if_pos (hany.2 hfeed)] at hcolumn
    have htrue := trueAt_ofBehind b.config b.items target htarget
    rw [ofBehind, ← hcolumn] at htrue
    exact ⟨_, htrue⟩
  · rwa [if_neg (mt hany.1 hnone)] at hcolumn

end Position

namespace View

variable {v : View Char} {place : Location} {offset : Int} {p q : Position}

/-- **A plausible line and column are carried to the target, and others are refused.** -/
theorem TakesOver.run_moveTo (h : v.TakesOver place offset) (hq : v.cursor.position = some q)
    (hp : place.position = some p) (hfits : Fits (place.index + offset)) :
    (p.Plausible v.buffer.config.lineFeed v.buffer.items.toList place.index.toNat
        (place.index + offset).toNat →
      ∃ q', p.Carried v.buffer.config.lineFeed v.buffer.items.toList place.index.toNat
          (place.index + offset).toNat q' ∧
        (moveTo place offset).run v =
          .ok true { v with cursor.index := place.index + offset, cursor.position := some q' }) ∧
    (¬ p.Plausible v.buffer.config.lineFeed v.buffer.items.toList place.index.toNat
        (place.index + offset).toNat →
      (moveTo place offset).run v = .error (.misuse .locationMismatch) v) := by
  obtain ⟨hthere, hheld⟩ := h
  have hboth := hheld
  rw [← Bool.and_eq_true] at hboth
  rw [Buffer.holds_iff, Buffer.holds_iff] at hheld
  have hplace : place.index.toNat ≤ v.buffer.items.size := by omega
  have htarget : (place.index + offset).toNat ≤ v.buffer.items.size := by omega
  have hrun : (moveTo place offset).run v =
      if v.buffer.admits place.index.toNat p then v.arrive place.index p (place.index + offset)
      else .error (.misuse .locationMismatch) v := by
    rw [Cursor.run_moveTo, if_neg (not_not_intro hfits), if_neg hthere]
    simp only [hq, hp, if_pos hboth]
    exact run_restore ..
  rw [Position.plausible_iff v.buffer hplace, hrun, arrive, Buffer.walk?]
  rcases hwalk : Position.walk? v.buffer.feeds v.buffer.items place.index.toNat
    (place.index + offset).toNat p with _ | q'
  · refine ⟨fun hplausible => absurd hplausible.2 Bool.false_ne_true, fun _ => ?_⟩
    exact ite_self _
  · refine ⟨fun hplausible => ?_, fun hrefused => ?_⟩
    · rw [if_pos hplausible.1]
      exact ⟨q', Position.carried_of_walk? v.buffer hplace htarget hwalk, rfl⟩
    · rw [if_neg fun hadmits => hrefused ⟨hadmits, rfl⟩]

end View

/-- **Exactly the plausible lines and columns are taken over.** Send a cursor that keeps lines to a
target other than the place it is on, from a saved place, both in the buffer. If the line and the
column that were saved are plausible, the head arrives with what the way makes of them; otherwise
this is refused and nothing has changed. Either way the buffer is left alone. -/
theorem plausible_places_are_taken_over {s : Session Char} {i : Nat} {c : Cursor}
    (hc : s.cursors[i]? = some c) {q : Position} (hq : c.position = some q) {place : Location}
    {p : Position} (hp : place.position = some p) (offset : Int)
    (hfits : Fits (place.index + offset)) (htakes : View.TakesOver ⟨s.buffer, c⟩ place offset) :
    (p.Plausible s.buffer.config.lineFeed s.buffer.items.toList place.index.toNat
        (place.index + offset).toNat →
      ∃ q', p.Carried s.buffer.config.lineFeed s.buffer.items.toList place.index.toNat
          (place.index + offset).toNat q' ∧
        s.perform (.apply i (.moveTo place offset)) =
          (.answered (.verdict true),
            { s with
              cursors := s.cursors.set i
                { c with index := place.index + offset, position := some q' } })) ∧
    (¬ p.Plausible s.buffer.config.lineFeed s.buffer.items.toList place.index.toNat
        (place.index + offset).toNat →
      s.perform (.apply i (.moveTo place offset)) = (.failed (.misuse .locationMismatch), s)) := by
  obtain ⟨htaken, hrefused⟩ := htakes.run_moveTo hq hp hfits
  refine ⟨fun hplausible => ?_, fun hplausible => ?_⟩
  · obtain ⟨q', hcarried, hrun⟩ := htaken hplausible
    refine ⟨q', hcarried, ?_⟩
    rw [Session.perform_apply hc, Operation.run, Action.run_bind_of_ok hrun]
    rfl
  · exact Session.perform_apply_refused hc (Action.run_bind_of_error (hrefused hplausible))

/-- A made-up line and column that last all the way back: past the line feed, the column is the
true one. -/
theorem plausible_places_are_taken_over_backward :
    ∃ (s t : Session Char) (c : Cursor),
      s.Reached [.element 'a', .element 'b', .element '\n', .element 'c', .element 'd'] ∧
      s.cursors[0]? = some c ∧ View.TakesOver ⟨s.buffer, c⟩ ⟨4, some ⟨3, 2⟩⟩ (-3) ∧
      ¬ Position.TrueAt '\n' s.buffer.items.toList 4 ⟨3, 2⟩ ∧
      s.perform (.apply 0 (.moveTo ⟨4, some ⟨3, 2⟩⟩ (-3))) = (.answered (.verdict true), t) ∧
      t.cursors = [⟨1, false, some ⟨2, 1⟩⟩] := by
  let s : Session Char :=
    ((Session.start (View.ofString 0 "ab\ncd" .quiet)).run [.apply 0 (.moveBy 4)]).2
  have hreached : s.Reached
      [.element 'a', .element 'b', .element '\n', .element 'c', .element 'd'] :=
    ⟨.sequence ("ab\ncd".toList.map some), 0, .quiet, true, _, _, rfl, rfl, rfl⟩
  have hcursor : s.cursors[0]? = some ⟨4, false, some ⟨1, 1⟩⟩ := by decide
  have htakes : View.TakesOver ⟨s.buffer, ⟨4, false, some ⟨1, 1⟩⟩⟩ ⟨4, some ⟨3, 2⟩⟩ (-3) := by
    decide
  have hheld : 4 ≤ s.buffer.items.size := by decide
  have hplausible := (Position.plausible_iff s.buffer (p := ⟨3, 2⟩) hheld 1).2 (by decide)
  obtain ⟨q', hcarried, hperform⟩ := (plausible_places_are_taken_over hcursor rfl rfl (-3)
    (by decide) htakes).1 hplausible
  have hline : q'.line + 1 = 3 := hcarried.line_eq
  obtain ⟨_, htrue⟩ := hcarried.column_eq_of_feed (by decide)
  have hcolumn : q'.column = 1 := htrue.column_eq_of_none (by decide)
  have hq' : q' = ⟨2, 1⟩ := Position.eq_iff.2 ⟨Nat.succ.inj hline, hcolumn⟩
  subst hq'
  exact ⟨_, _, _, hreached, hcursor, htakes,
    fun h => absurd h.line_eq (by decide), hperform, rfl⟩

end Rewind
