import Rewind.Proofs.Resuming
import Rewind.Proofs.Runs
import Rewind.Proofs.Strides

/-!
# Words

A word is an element that may start one and all that follow it for as long as they go on with it.
Over a source that never fails, a word is read **as far as it goes, and as a whole or not at all**
(`words_are_read_whole`).

The end of a word is looked for before the head moves, and the head then moves once, by the length
of what has been seen. It goes to the element behind the word. Where the word ends the text there is
no such element: the head stays, and has found that the source has run out. A run of reads, which
moves as it goes, would have consumed all of that word but its last element.

Everywhere else the two ways come to the same. Reading the first element and then a run hands out
the word in two pieces, and leaves the cursor exactly as reading the word does. Its line and column
are no exception: whatever goes ahead walks them along over the elements it passes, in one stride or
in many (`View.Strides`).
-/

namespace Rewind

variable {α β : Type}

open Cursor

/-! ### Reading a word -/

variable [LineElement α]

namespace View.OnPlace

variable {v : View α} {text : List α} {h stop : Nat} {x : α}

/-- Beyond the last place a move ahead is refused, and does nothing. -/
theorem run_skip_beyond (hv : v.OnPlace text h) {count : Nat} (hfar : lastPlace < h + count) :
    (skip count).run v = .error (.misuse .seekOverflow) v := by
  rw [skip]
  by_cases hfits : Fits count
  · have hcount := fits_natCast.1 hfits
    have hlast := hv.le_lastPlace
    rw [Offset.ofCount?_eq_some_iff.2 ⟨hfits, rfl⟩]
    rcases hv.run_ahead count (by omega) with ⟨-, hrun⟩ | ⟨w, hnear, -⟩
    · exact hrun
    · omega
  · rw [Offset.ofCount?_eq_none_iff.2 hfits]
    rfl

/-- An element that may not start a word is left alone. -/
theorem run_readWord_of_refused (hv : v.OnPlace text h) {starts : α → Bool}
    (continues : α → Bool) (hx : text[h]? = some x) (hstarts : starts x = false) :
    ∃ w, (Cursor.readWord starts continues).run v = .ok none w ∧ w.cursor = v.cursor := by
  obtain ⟨b, hpeek, -⟩ := hv.run_peek_zero
  rw [hx] at hpeek
  refine ⟨⟨b, v.cursor⟩, (Action.run_bind_of_ok hpeek).trans ?_, rfl⟩
  simp only [hstarts]
  rfl

/-- **A word is read as a whole or not at all**: one that the head cannot be moved behind is left
alone. -/
theorem run_readWord (hv : v.OnPlace text h) {starts continues : α → Bool}
    (hx : text[h]? = some x) (hstarts : starts x = true)
    (hstop : firstRefused continues text (h + 1) = stop) :
    ∃ w,
      (stop ≤ lastPlace ∧ stop < text.length ∧
          (Cursor.readWord starts continues).run v = .ok (some (text.extract h stop)) w ∧
          w.OnPlace text stop ∧ w.cursor.reachedEnd = v.cursor.reachedEnd) ∨
        (stop ≤ lastPlace ∧ stop = text.length ∧
          (Cursor.readWord starts continues).run v = .ok none w ∧
          w.cursor = { v.cursor with reachedEnd := true }) ∨
        lastPlace < stop ∧
          (Cursor.readWord starts continues).run v = .error (.misuse .seekOverflow) w ∧
          w.cursor = v.cursor := by
  have hheld := hv.held
  have hend : stop ≤ text.length := hstop ▸ firstRefused_le hv.lt_length
  have hle : h + 1 ≤ stop := hstop ▸ le_firstRefused
  obtain ⟨b, hpeek, hb⟩ := hv.run_peek_zero
  have hw : View.OnPlace ⟨b, v.cursor⟩ text h := hv.asked hb rfl
  rw [hx] at hpeek
  have hrest : (Cursor.readWord starts continues).run v = (do
      let scanned ← look (·.scan continues 1)
      return if ← skip (scanned.passed.length + 1) then some (x :: scanned.passed)
        else none : Moving α (Option (List α))).run ⟨b, v.cursor⟩ := by
    refine (Action.run_bind_of_ok hpeek).trans ?_
    simp only [hstarts, if_true]
  have hscan := hw.run_scan continues (e := 1) (Nat.succ_le_succ hv.le_lastPlace) hw.held
  rw [hstop, show ((1 : Nat) : Int) = 1 from rfl] at hscan
  obtain ⟨t, ht, hcursor, ⟨hfar, hrun⟩ | ⟨scanned, hrun, hlength, -⟩⟩ := hscan
  · exact ⟨t, .inr (.inr ⟨hfar, hrest.trans (Action.run_bind_of_error hrun), hcursor⟩)⟩
  have hplace : t.OnPlace text h := hw.asked ht (congrArg Cursor.index hcursor)
  rw [hrest, Action.run_bind_of_ok hrun]
  rcases Nat.lt_or_ge lastPlace stop with hfar | hlast
  -- More has been scanned than a head can move over.
  · have hcount : lastPlace < h + (scanned.passed.length + 1) := by omega
    have hskip : (skip (scanned.passed.length + 1)).run t = .error (.misuse .seekOverflow) t :=
      hplace.run_skip_beyond hcount
    exact ⟨t, .inr (.inr ⟨hfar, Action.run_bind_of_error hskip, hcursor⟩)⟩
  have hcount : h + (scanned.passed.length + 1) = stop := by omega
  rcases hplace.run_skip (hcount ▸ hlast) with ⟨hlt, u, hskip, hu, hmark⟩ | ⟨hge, u, hskip, -, hu⟩
  · have hword := (consumes_readWord starts continues v).of_ok
      (hrest.trans ((Action.run_bind_of_ok hrun).trans (Action.run_bind_of_ok hskip)))
    rw [hcount] at hlt hu
    have hextract := hv.eq_extract hu hword
    refine ⟨u, .inl ⟨hlast, hlt, ?_, hu, hmark.trans (congrArg _ hcursor)⟩⟩
    rw [Action.run_bind_of_ok hskip, ← show x :: scanned.passed = text.extract h stop from hextract]
    rfl
  · refine ⟨u, .inr (.inl ⟨hlast, by omega, Action.run_bind_of_ok hskip, ?_⟩)⟩
    rw [hu, hcursor]

end View.OnPlace

namespace View.OnPlace

variable [DecidableEq α] {v : View α} {text : List α} {h stop : Nat} {starts continues : α → Bool}
  {x : α}

/-- **A word that something follows can be read in two pieces**, the first element and a run of the
others; the cursor ends as one does that has gone straight behind the word. -/
theorem run_pieces (hv : v.OnPlace text h) (hx : text[h]? = some x) (hstarts : starts x = true)
    (hstop : firstRefused continues text (h + 1) = stop) (hlt : stop < text.length)
    (hlast : stop ≤ lastPlace) :
    ∃ y ys w u, y :: ys = text.extract h stop ∧
      (Cursor.readIf (.satisfying starts)).run v = .ok (some y) w ∧
      (Cursor.readWhile (.satisfying continues)).run w = .ok ys u ∧
      v.Strides u ∧ u.cursor.IsAt stop v.cursor.reachedEnd := by
  have hle : h + 1 ≤ stop := hstop ▸ le_firstRefused
  have hpassed : firstRefused starts text h = firstRefused starts text (h + 1) :=
    firstRefused_of_passed hx hstarts
  have hahead : h + 1 ≤ firstRefused starts text (h + 1) := le_firstRefused
  rcases hv.run_readIf (.satisfying starts) with ⟨hrefused, -⟩ | ⟨-, w, hstep⟩
  · change firstRefused starts text h = h at hrefused
    omega
  obtain ⟨-, hw, hmark, y, hfirst⟩ := hstep.resolve_left (by omega) |>.resolve_left (by omega)
  obtain ⟨u, hrest, hu, hmark'⟩ := hw.run_readWhile_of_le (.satisfying continues) hstop hlast
  rw [Nat.min_eq_left (by omega)] at hrest hu
  rw [decide_eq_false (by omega), Bool.or_false] at hmark'
  have hy : [y] = text.extract h (h + 1) :=
    hv.eq_extract hw ((consumes_advanceIf starts 0 v).of_ok hfirst)
  have hstride := Judgement.ofRelation_iff.1 (striding_advances.advanceIf starts 0 v)
  have hstrides :=
    Judgement.ofRelation_iff.1 (striding_advances.readWhile (.satisfying continues) w)
  refine ⟨y, text.extract (h + 1) stop, w, u, ?_, hfirst, hrest,
    (hstride.of_ok hfirst).trans (hstrides.of_ok hrest), ⟨hu.index_eq, hmark'.trans hmark⟩⟩
  rw [← extract_append_extract text (Nat.le_succ h) hle, ← hy]
  rfl

end View.OnPlace

/-! ### Sessions -/

variable [DecidableEq α]

/-- What reading a word comes to on the cursor `c` of a session, which is on place `h` of a text:
`stop` is the first place behind that one whose element does not go on with a word. -/
structure Session.WordsFrom (text : List α) (h stop : Nat) (s : Session α) (i : Nat) (c : Cursor)
    (starts continues : α → Bool) : Prop where
  /-- A word that something follows is read as far as it goes; the line and the column walk along
  over it. -/
  word : text[h]?.any starts = true → stop < text.length → stop ≤ lastPlace →
    s.Answers i (.readWord starts continues) (.word (some (text.extract h stop))) fun d =>
      d.IsAt stop c.reachedEnd ∧
        d.position = c.position.map (·.forward s.buffer.feeds (text.extract h stop))
  /-- Reading its first element and a run of the others hands out the same elements and leaves the
  same cursor. -/
  pieces : text[h]?.any starts = true → stop < text.length → stop ≤ lastPlace →
    ∃ x xs, x :: xs = text.extract h stop ∧
      (s.run [.apply i (.readIf (.satisfying starts)),
          .apply i (.readWhile (.satisfying continues))]).1 =
        [.answered (.element (some x)), .answered (.run xs)] ∧
      (s.run [.apply i (.readIf (.satisfying starts)),
          .apply i (.readWhile (.satisfying continues))]).2.cursors =
        (s.perform (.apply i (.readWord starts continues))).2.cursors
  /-- A word that ends the text is left alone, and the source has run out; -/
  unfinished : text[h]?.any starts = true → stop = text.length → stop ≤ lastPlace →
    s.Answers i (.readWord starts continues) (.word none) (· = { c with reachedEnd := true })
  /-- an element that may not start a word is left alone, and that is all. -/
  none : text[h]?.any starts = false →
    s.Answers i (.readWord starts continues) (.word none) (· = c)
  /-- A word of more elements than there are places is refused. -/
  beyond : text[h]?.any starts = true → lastPlace < stop →
    (s.perform (.apply i (.readWord starts continues))).1 = .failed (.misuse .seekOverflow) ∧
      (s.perform (.apply i (.readWord starts continues))).2.cursors = s.cursors

namespace Session

variable {s : Session α} {i : Nat} {c : Cursor}

/-- Asking two things of one cursor, one after the other. -/
theorem run_pair (hc : s.cursors[i]? = some c) (operation operation' : Operation α)
    {reply reply' : Reply α} {w u : View α} (hrun : operation.run.run ⟨s.buffer, c⟩ = .ok reply w)
    (hrun' : operation'.run.run w = .ok reply' u) :
    s.run [.apply i operation, .apply i operation'] =
      ([.answered reply, .answered reply'],
        { s with buffer := u.buffer, cursors := s.cursors.set i u.cursor }) := by
  have hlt := (List.getElem?_eq_some_iff.1 hc).1
  have hset : (s.cursors.set i w.cursor)[i]? = some w.cursor := List.getElem?_set_self hlt
  have hsecond := perform_apply (s := ⟨w.buffer, s.cursors.set i w.cursor, s.remainders⟩) hset
    operation'
  rw [hrun'] at hsecond
  rw [run_cons, run_cons, run_nil, perform_apply hc, hrun, hsecond]
  simp only [List.set_set]

/-- **A session whose head is on a place of the text reads words from there as told.** -/
theorem wordsFrom (hc : s.cursors[i]? = some c) {text : List α} {h : Nat}
    (hv : View.OnPlace ⟨s.buffer, c⟩ text h) (starts continues : α → Bool) :
    s.WordsFrom text h (firstRefused continues text (h + 1)) i c starts continues := by
  obtain ⟨x, hx⟩ : ∃ x, text[h]? = some x := ⟨_, List.getElem?_eq_getElem hv.lt_length⟩
  have hread (hstarts : starts x = true) :=
    hv.run_readWord hx hstarts (rfl : firstRefused continues text (h + 1) = _)
  have hstrides := Judgement.ofRelation_iff.1
    (View.striding_advances.readWord starts continues ⟨s.buffer, c⟩)
  refine ⟨fun hstarts hlt hlast => ?word, fun hstarts hlt hlast => ?pieces,
    fun hstarts hend hlast => ?unfinished, fun hrefused => ?none, fun hstarts hfar => ?beyond⟩
  case word =>
    rw [hx] at hstarts
    obtain ⟨w, hresult⟩ := hread hstarts
    obtain ⟨-, -, hrun, hw, hmark⟩ := hresult.resolve_right (by omega)
    refine answers_of_run hc (Action.run_bind_of_ok hrun) ⟨⟨hw.index_eq, hmark⟩, ?_⟩
    have hposition := (hstrides.of_ok hrun).position_eq
    rwa [hv.index_eq, hw.index_eq, hv.whole_eq, Int.toNat_natCast, Int.toNat_natCast] at hposition
  case pieces =>
    rw [hx] at hstarts
    obtain ⟨w, hresult⟩ := hread hstarts
    obtain ⟨-, -, hrun, hw, hmark⟩ := hresult.resolve_right (by omega)
    obtain ⟨y, ys, t, u, hword, hfirst, hrest, hu, hat⟩ := hv.run_pieces hx hstarts rfl hlt hlast
    have hcursor : u.cursor = w.cursor := hu.cursor_eq (hstrides.of_ok hrun)
      (hat.index_eq.trans hw.index_eq.symm) (hat.reachedEnd_eq.trans hmark.symm)
    have hpair := run_pair hc (.readIf (.satisfying starts)) (.readWhile (.satisfying continues))
      (Action.run_bind_of_ok hfirst) (Action.run_bind_of_ok hrest)
    refine ⟨y, ys, hword, by rw [hpair], ?_⟩
    rw [hpair, perform_apply hc, Operation.run, Action.run_bind_of_ok hrun]
    simp only [EStateM.run_pure, hcursor]
  case unfinished =>
    rw [hx] at hstarts
    obtain ⟨w, hresult⟩ := hread hstarts
    obtain ⟨-, -, hrun, hcursor⟩ := hresult.resolve_left (by omega) |>.resolve_right (by omega)
    exact answers_of_run hc (Action.run_bind_of_ok hrun) hcursor
  case none =>
    rw [hx] at hrefused
    obtain ⟨w, hrun, hcursor⟩ := hv.run_readWord_of_refused continues hx hrefused
    exact answers_of_run hc (Action.run_bind_of_ok hrun) hcursor
  case beyond =>
    rw [hx] at hstarts
    obtain ⟨w, hresult⟩ := hread hstarts
    obtain ⟨-, hrun, hcursor⟩ := hresult.resolve_left (by omega) |>.resolve_left (by omega)
    rw [perform_apply hc, Operation.run, Action.run_bind_of_error hrun]
    refine ⟨rfl, ?_⟩
    simp only [hcursor]
    exact congrArg Session.cursors (set_cursor_self hc)

end Session

/-- **Words are read as far as they go, and as a whole or not at all.** Over a source that never
fails, every cursor reads a word from its place in the text as told; one over an empty source reads
nothing. An identifier is such a word as a string, and a run of characters can be read as a string
too. -/
theorem words_are_read_whole {script : Source α} (hscript : Source.failures script = [])
    {s : Session α} (hs : s.Reached script) {i : Nat} {c : Cursor} (hc : s.cursors[i]? = some c)
    (starts continues : α → Bool) :
    (∀ h : Nat, c.index = h →
      s.WordsFrom script.yield h (firstRefused continues script.yield (h + 1)) i c starts
        continues) ∧
    (c.index < 0 →
      s.perform (.apply i (.readWord starts continues)) = (.answered (.word none), s)) ∧
    ∀ v : View Char,
      (Cursor.readIdentifier.run v =
        match (Cursor.readWord Unicode.isIdentifierStart Unicode.isIdentifierContinue).run v with
        | .ok xs w => .ok (xs.map String.ofList) w
        | .error fault w => .error fault w) ∧
      ∀ m, (Cursor.readStringWhile m).run v =
        match (Cursor.readWhile m).run v with
        | .ok xs w => .ok (String.ofList xs) w
        | .error fault w => .error fault w := by
  have hmem := List.mem_of_getElem? hc
  refine ⟨fun h hindex => ?_, fun hneg => ?_, fun v => ⟨?_, fun m => run_readStringWhile m v⟩⟩
  · have hv := hs.onPlace hscript hmem (by omega)
    rw [hindex, Int.toNat_natCast] at hv
    exact Session.wordsFrom hc hv starts continues
  · have hstands : View.Stands ⟨s.buffer, c⟩ := hs.stands c hmem
    have hrun : (Cursor.readWord starts continues).run ⟨s.buffer, c⟩ = .ok none ⟨s.buffer, c⟩ :=
      Action.run_bind_of_ok (hstands.run_peek_of_neg hneg 0)
    exact Session.perform_apply_stay hc (Action.run_bind_of_ok hrun)
  · rw [Cursor.readIdentifier, EStateM.run_bind]
    rcases (Cursor.readWord Unicode.isIdentifierStart Unicode.isIdentifierContinue).run v with
      ⟨xs, w⟩ | ⟨fault, w⟩ <;> rfl

/-- A word of a letter and a digit, with a space behind it, is read, and its column with it. Where
there is nothing behind it, it is not. -/
theorem words_are_read_whole_with_digit :
    (∃ s : Session Char,
      s.Reached [.element 'a', .element '1', .element ' '] ∧
      s.cursors[0]? = some ⟨0, false, some {}⟩ ∧
      s.Answers 0 .readIdentifier (.word (some ['a', '1']))
        fun d => d.IsAt 2 false ∧ d.position = some ⟨0, 2⟩) ∧
    ∃ s : Session Char,
      s.Reached [.element 'a', .element '1'] ∧ s.cursors[0]? = some ⟨0, false, some {}⟩ ∧
      s.Answers 0 .readIdentifier (.word none) (· = ⟨0, true, some {}⟩) := by
  have hreached : Session.Reached [.element 'a', .element '1', .element ' ']
      { buffer := {
          key := 0
          items := #['a']
          source := some [.element '1', .element ' ']
          config := .quiet
          pulls := 1 }
        cursors := [⟨0, false, some {}⟩] } :=
    ⟨.source _, 0, .quiet, true, _, [], rfl, rfl, by decide +kernel⟩
  have hreached' : Session.Reached [.element 'a', .element '1']
      { buffer := {
          key := 0
          items := #['a']
          source := some [.element '1']
          config := .quiet
          pulls := 1 }
        cursors := [⟨0, false, some {}⟩] } :=
    ⟨.source _, 0, .quiet, true, _, [], rfl, rfl, by decide +kernel⟩
  have hwords := (words_are_read_whole rfl hreached (i := 0) rfl Unicode.isIdentifierStart
    Unicode.isIdentifierContinue).1 0 rfl
  have hwords' := (words_are_read_whole rfl hreached' (i := 0) rfl Unicode.isIdentifierStart
    Unicode.isIdentifierContinue).1 0 rfl
  exact ⟨⟨_, hreached, rfl,
      hwords.word (by decide +kernel) (by decide +kernel) (by decide +kernel)⟩,
    ⟨_, hreached', rfl, hwords'.unfinished (by decide +kernel) (by decide +kernel)
      (by decide +kernel)⟩⟩

end Rewind
