import Rewind.Proofs.Demand

/-!
# The buffer is a high-water mark

Moves and reads over a source that never fails ask for no more than they have to, and so does every
operation (`View.OnPlace.asks_run`). Hence **the buffer holds, at any time, what has been asked for
and nothing else**: its size is the largest number of places anyone has asked for, or the whole
text, and the source is exhausted exactly when someone asked for more than there is
(`buffers_are_high_water_marks`).

A run is followed read by read: each asks for the place it looks at and for the one it moves to, and
where it stops the two are not beyond the first place that does not pass. The other walks look first
and move once, to a place that looking has asked for already.
-/

namespace Rewind

variable {α β γ : Type}

open Cursor

namespace View

variable {v w : View α} {text : List α} {h n m : Nat}

namespace OnPlace

/-! ### Moving -/

variable [LineElement α]

/-- **A move ahead by some elements asks for the place it goes to**, and reaches it if the text goes
that far. -/
theorem run_ahead (hv : v.OnPlace text h) (count : Nat) (hpos : 0 < count) :
    (lastPlace < h + count ∧ (moveBy count).run v = .error (.misuse .seekOverflow) v) ∨
      ∃ w, h + count ≤ lastPlace ∧ v.buffer.Asked (h + count + 1) w.buffer ∧
        (text.length ≤ h + count ∧ w.OnPlace text h ∧ (moveBy count).run v = .ok false w ∨
          w.OnPlace text (h + count) ∧ (moveBy count).run v = .ok true w) := by
  have hindex := hv.index_eq
  have htarget : v.cursor.index + (count : Int) = (h + count : Nat) := by omega
  rw [run_moveBy, if_neg (by omega), htarget]
  by_cases hlast : h + count ≤ lastPlace
  · rw [if_neg (Decidable.not_not.2 (fits_natCast.2 hlast)), if_neg (by omega),
      if_neg (by omega), Int.toNat_natCast]
    obtain ⟨b, hensure, hb⟩ := hv.reliable.run_ensure (h + count)
    rw [hensure, hv.whole_eq]
    refine .inr ?_
    by_cases hthere : h + count < text.length
    · have hahead : v.cursor.index ≤ (h + count : Nat) := by omega
      obtain ⟨w, hland, hbuffer, hw⟩ := land_ahead ⟨b, v.cursor⟩ hahead
      have hheld := hb.min_le_size
      rw [hv.whole_eq] at hheld
      simp only [decide_eq_true hthere, hland]
      refine ⟨w, hlast, hbuffer ▸ hb, .inr ⟨⟨?_, ?_, hw, ?_, hlast⟩, rfl⟩⟩
      · exact hbuffer ▸ hb.reliable
      · exact hbuffer ▸ hb.whole_eq.trans hv.whole_eq
      · rw [hbuffer]
        simp only
        omega
    · simp only [decide_eq_false hthere]
      exact ⟨⟨b, { v.cursor with reachedEnd := true }⟩, hlast, hb,
        .inl ⟨Nat.not_lt.1 hthere, hv.asked hb rfl, rfl⟩⟩
  · rw [if_pos (mt fits_natCast.1 hlast)]
    exact .inl ⟨Nat.not_le.1 hlast, rfl⟩

/-- **A move by a distance asks for the place it goes to**, if there can be one. -/
theorem asks_moveBy (hv : v.OnPlace text h) (offset : Int) :
    Asks (places (place? (h + offset))) (moveBy offset) v := by
  rcases Int.lt_or_le 0 offset with hpos | hback
  · obtain ⟨count, rfl⟩ := Int.eq_ofNat_of_zero_le (Int.le_of_lt hpos)
    have hpos : 0 < count := by omega
    rcases hv.run_ahead count hpos with ⟨hlast, hrun⟩ | ⟨w, hlast, hw, ⟨-, -, hrun⟩ | ⟨-, hrun⟩⟩
    · rw [place?_add_beyond hlast]
      exact .of_error hrun (hv.asked_of_le (Nat.zero_le _))
    · rw [place?_add hlast]
      exact .of_run hrun hw
    · rw [place?_add hlast]
      exact .of_run hrun hw
  · have hplaces : places (place? (h + offset)) ≤ h + 1 := by
      rw [place?]
      split
      · simp only [places, Option.elim_some]
        omega
      · exact Nat.zero_le _
    have hstay := buffer_moveBy_of_nonpos hback v
    rcases hrun : (moveBy offset).run v with ⟨moved, w⟩ | ⟨fault, w⟩
    · exact .of_run hrun (hstay.of_ok hrun ▸ hv.asked_of_le hplaces)
    · exact .of_error hrun (hstay.of_error hrun ▸ hv.asked_of_le hplaces)

/-- Moving ahead by a count asks for the place it goes to. -/
theorem asks_skip (hv : v.OnPlace text h) (count : Nat) :
    Asks (places (place? (h + count))) (skip count) v := by
  refine ⟨?_⟩
  rw [skip]
  by_cases hfits : Fits count
  · rw [Offset.ofCount?_eq_some_iff.2 ⟨hfits, rfl⟩]
    exact (hv.asks_moveBy count).ends
  · have hbeyond : lastPlace < h + count :=
      Nat.lt_of_lt_of_le (Nat.not_le.1 (mt fits_natCast.2 hfits)) (Nat.le_add_left ..)
    rw [Offset.ofCount?_eq_none_iff.2 hfits, place?_add_beyond hbeyond]
    exact hv.asked_of_le (Nat.zero_le _)

/-- Moving back by a count asks for the place it goes to, which is held. -/
theorem asks_rewind (hv : v.OnPlace text h) (count : Nat) :
    Asks (places (place? (h - count))) (rewind count) v := by
  refine ⟨?_⟩
  rw [rewind]
  by_cases hfits : Fits count
  · rw [Offset.ofCount?_eq_some_iff.2 ⟨hfits, rfl⟩]
    exact (hv.asks_moveBy (-count)).ends
  · have hbeyond : lastPlace < count := Nat.not_le.1 (mt fits_natCast.2 hfits)
    have hlast := hv.le_lastPlace
    have hplace : place? (h - count) = none := place?_eq_none fun ⟨hle, _⟩ => by omega
    rw [Offset.ofCount?_eq_none_iff.2 hfits, hplace]
    exact hv.asked_of_le (Nat.zero_le _)

/-- Seeking a place by the distance to it asks for it. -/
theorem asks_approach (hv : v.OnPlace text h) {target : Int} (hfits : Fits target) :
    Asks (places (place? target)) (approach target) v := by
  refine ⟨?_⟩
  rw [run_approach, hv.index_eq]
  by_cases hdistance : Fits (target - h)
  · have hmove := hv.asks_moveBy (target - h)
    rw [show (h : Int) + (target - h) = target by omega] at hmove
    rw [if_pos hdistance]
    exact hmove.ends
  · have hlast := hv.le_lastPlace
    have hplace : place? target = none := by
      refine place?_eq_none fun ⟨hle, _⟩ => hdistance ?_
      unfold lastPlace at hlast
      unfold Fits at hfits ⊢
      omega
    rw [if_neg hdistance, hplace]
    exact hv.asked_of_le (Nat.zero_le _)

/-- **Seeking a place asks for it**, whatever is said of its line and column. -/
theorem asks_moveTo (hv : v.OnPlace text h) (place : Location) (offset : Int) :
    Asks (places (place? (place.index + offset))) (moveTo place offset) v := by
  refine ⟨?_⟩
  rw [run_moveTo]
  by_cases hfits : ¬ Fits (place.index + offset)
  · rw [if_pos hfits, place?_eq_none fun hplace => hfits hplace.2]
    exact hv.asked_of_le (Nat.zero_le _)
  rw [if_neg hfits]
  have happroach := (hv.asks_approach (Decidable.not_not.1 hfits)).ends
  -- A place that is held needs no pull.
  have hheld (hheld : v.buffer.holds (place.index + offset) = true) :
      v.buffer.Asked (places (place? (place.index + offset))) v.buffer := by
    obtain ⟨hindex, hlt⟩ := Buffer.holds_iff.1 hheld
    rw [place?, if_pos ⟨hindex, Decidable.not_not.1 hfits⟩]
    exact .of_le hv.reliable (by simp only [places, Option.elim_some]; omega)
  by_cases hthere : place.index + offset = v.cursor.index
  · have hindex := hv.index_eq
    have hlt := hv.held
    rw [if_pos hthere]
    exact hheld (Buffer.holds_iff.2 ⟨by omega, by omega⟩)
  rw [if_neg hthere]
  rcases v.cursor.position with _ | q
  · by_cases htarget : v.buffer.holds (place.index + offset) = true
    · simp only [if_pos htarget]
      exact hheld htarget
    · simp only [if_neg htarget]
      exact happroach
  rcases place.position with _ | p
  · exact happroach
  by_cases hboth : (v.buffer.holds place.index && v.buffer.holds (place.index + offset)) = true
  · simp only [if_pos hboth, run_restore, arrive]
    have hstay := hheld (Bool.and_eq_true_iff.1 hboth).2
    split
    · split
      · exact hstay
      · exact hstay
    · exact hstay
  · simp only [if_neg hboth]
    exact happroach

/-! ### Reading one element -/

theorem asks_advanceWith (hv : v.OnPlace text h) (x : α) :
    Asks (places (walkTo (h + 1))) (advanceWith x) v :=
  .map (hv.asks_next (hv.asks_moveBy 1)) _

theorem asks_read (hv : v.OnPlace text h) : Asks (places (walkTo (h + 1))) Cursor.read v := by
  obtain ⟨b, hpeek, hb⟩ := hv.run_peek_zero
  have hw : View.OnPlace ⟨b, v.cursor⟩ text h := hv.asked hb rfl
  obtain ⟨x, hx⟩ : ∃ x, text[h]? = some x := ⟨_, List.getElem?_eq_getElem hv.lt_length⟩
  rw [hx] at hpeek
  have hlast := hv.le_lastPlace
  refine (Asks.bind hpeek hb (hw.asks_advanceWith x)).congr ?_
  rw [places_walkTo]
  omega

theorem asks_readNext (hv : v.OnPlace text h) :
    Asks (places (walkTo (h + 1))) Cursor.readNext v := by
  rw [Cursor.readNext, places_walkTo]
  have hlast := hv.le_lastPlace
  have hheld := hv.held
  rcases hv.run_ahead 1 Nat.zero_lt_one with
    ⟨hbeyond, hrun⟩ | ⟨w, hnext, hw, ⟨-, -, hrun⟩ | ⟨hplace, hrun⟩⟩
  · exact .of_error (Action.run_bind_of_error hrun) (hv.asked_of_le (by omega))
  · rw [Nat.min_eq_left hnext]
    exact .of_run (Action.run_bind_of_ok hrun) hw
  · obtain ⟨b, hpeek, hb⟩ := hplace.run_peek_zero
    rw [Nat.min_eq_left hnext]
    exact (Asks.bind hrun hw (.of_run hpeek hb)).congr (by omega)

/-- Looking at the element `e` places ahead and advancing if it passes a test: the walk stops at
that place, or it goes on from the next one. -/
theorem run_advanceIf (hv : v.OnPlace text h) (p : α → Bool) {e : Nat} (he : e ≤ 1) :
    (∃ w, v.buffer.Asked (places (walkTo (firstRefused p text (h + e)))) w.buffer ∧
        (w.OnPlace text h ∧ (advanceIf p e).run v = .ok none w ∨
          ∃ fault, (advanceIf p e).run v = .error fault w)) ∨
      ∃ w x, w.OnPlace text (h + 1) ∧ v.buffer.Asked (h + 2) w.buffer ∧
        firstRefused p text (h + e) = firstRefused p text (h + 1 + e) ∧
        (advanceIf p e).run v = .ok (some x) w := by
  have hheld := hv.held
  have hlast := hv.le_lastPlace
  have hle : h + e ≤ firstRefused p text (h + e) := le_firstRefused
  rw [places_walkTo]
  by_cases hfar : lastPlace < h + e
  -- There is no place to look at, and the head is on the last one.
  · obtain ⟨b, hpeek, hb⟩ := hv.run_peek e
    rw [place?_add_beyond hfar] at hpeek hb
    refine .inl ⟨⟨b, v.cursor⟩, hb.congr ?_, .inl ⟨hv.asked hb rfl, Action.run_bind_of_ok hpeek⟩⟩
    simp only [places, Option.elim_none]
    omega
  obtain ⟨b, hpeek, hb⟩ := hv.run_peek_ahead (Nat.not_lt.1 hfar)
  have hw : View.OnPlace ⟨b, v.cursor⟩ text h := hv.asked hb rfl
  rcases hx : text[h + e]? with _ | x
  · rw [firstRefused_of_none hx, Nat.min_eq_left (Nat.not_lt.1 hfar)]
    rw [hx] at hpeek
    exact .inl ⟨⟨b, v.cursor⟩, hb, .inl ⟨hw, Action.run_bind_of_ok hpeek⟩⟩
  rw [hx] at hpeek
  rcases hp : p x
  · rw [firstRefused_of_refused hx hp, Nat.min_eq_left (Nat.not_lt.1 hfar)]
    refine .inl ⟨⟨b, v.cursor⟩, hb, .inl ⟨hw, (Action.run_bind_of_ok hpeek).trans ?_⟩⟩
    simp only [hp]
    rfl
  · have hstep : (advanceIf p e).run v = (advanceWith x).run ⟨b, v.cursor⟩ := by
      refine (Action.run_bind_of_ok hpeek).trans ?_
      simp only [hp, if_true]
    have hpassed := firstRefused_of_passed hx hp
    have hle' : h + e + 1 ≤ firstRefused p text (h + e + 1) := le_firstRefused
    rw [hstep]
    rcases hw.run_ahead 1 Nat.zero_lt_one with
      ⟨hbeyond, hrun⟩ | ⟨w, hnext, hasked, ⟨hend, hstay, hrun⟩ | ⟨hplace, hrun⟩⟩
    · refine .inl ⟨⟨b, v.cursor⟩, hb.congr ?_, .inr ⟨_, Action.run_bind_of_error hrun⟩⟩
      omega
    -- The element under the head is the last one.
    · have hlt : h + e < text.length := (List.getElem?_eq_some_iff.1 hx).1
      have hend : text[h + e + 1]? = none := List.getElem?_eq_none (by omega)
      have hboth := hb.trans hasked
      refine .inl ⟨w, hboth.congr ?_, .inl ⟨hstay, Action.run_bind_of_ok hrun⟩⟩
      rw [hpassed, firstRefused_of_none hend]
      -- Of the last place only its order among the others matters.
      generalize lastPlace = last at *
      omega
    · have hboth := hb.trans hasked
      refine .inr ⟨w, x, hplace, hboth.congr (by omega), ?_, Action.run_bind_of_ok hrun⟩
      rw [hpassed, Nat.add_right_comm]

/-! ### Walking ahead -/

/-- **A run asks for all places up to the one it stops at**, by induction on what lies ahead. -/
theorem asks_many (hv : v.OnPlace text h) (reader : Reader α α) {p : α → Bool} {e : Nat}
    (he : e ≤ 1) (hread : reader.read = advanceIf p e) :
    Asks (places (walkTo (firstRefused p text (h + e)))) reader.many v := by
  induction hn : text.length - h using Nat.strongRecOn generalizing v h with
  | ind n ih =>
    have hlt := hv.lt_length
    rw [reader.many_eq, hread]
    rcases hv.run_advanceIf p he with
      ⟨w, hw, ⟨-, hrun⟩ | ⟨fault, hrun⟩⟩ | ⟨w, x, hplace, hw, hsame, hrun⟩
    · exact .of_run (Action.run_bind_of_ok hrun) hw
    · exact .of_error (Action.run_bind_of_error hrun) hw
    · have hrest := ih _ (by omega) hplace rfl
      have hle : h + 1 + e ≤ firstRefused p text (h + 1 + e) := le_firstRefused
      have hlast := hplace.le_lastPlace
      refine (Asks.bind hrun hw (hrest.map (x :: ·))).congr ?_
      rw [hsame, places_walkTo]
      generalize lastPlace = last at *
      omega

section Reading

variable [DecidableEq α]

theorem asks_readWhile (hv : v.OnPlace text h) (m : Matcher α) :
    Asks (places (walkTo (firstRefused m.accepts text h))) (Cursor.readWhile m) v :=
  hv.asks_many (readerIf m) (e := 0) (Nat.zero_le _) rfl

theorem asks_readNextWhile (hv : v.OnPlace text h) (m : Matcher α) :
    Asks (places (walkTo (firstRefused m.accepts text (h + 1)))) (Cursor.readNextWhile m) v :=
  hv.asks_many (readerNextIf m) (e := 1) (Nat.le_refl _) rfl

theorem asks_readIf (hv : v.OnPlace text h) (m : Matcher α) :
    Asks (places (if text[h]?.any m.accepts then walkTo (h + 1) else none)) (Cursor.readIf m) v :=
  hv.asks_underHead m.accepts (Nat.le_add_right h 1) none fun x _ hw => hw.asks_advanceWith x

theorem asks_readNextIf (hv : v.OnPlace text h) (m : Matcher α) :
    Asks (places (walkTo (h + 1))) (Cursor.readNextIf m) v := by
  refine hv.asks_next ?_
  obtain ⟨b, hpeek, hb⟩ := hv.run_peek 1
  have hw : View.OnPlace ⟨b, v.cursor⟩ text h := hv.asked hb rfl
  rcases hx : (place? (h + 1)).bind (text[·]?) with _ | x
  · rw [hx] at hpeek
    exact .of_run (Action.run_bind_of_ok hpeek) hb
  · rw [hx] at hpeek
    by_cases hm : m.accepts x
    · have hadvance : Asks (places (place? (h + 1))) (advanceWith x) ⟨b, v.cursor⟩ :=
        .map (hw.asks_moveBy 1) _
      refine (Asks.bind hpeek hb (m := places (place? (h + 1))) ?_).congr (by omega)
      simp only [if_pos hm]
      exact hadvance
    · refine (Asks.bind hpeek hb (m := 0) ?_).congr (by omega)
      simp only [if_neg hm]
      exact .pure hw (Nat.zero_le _) none

theorem asks_skipWhile (hv : v.OnPlace text h) (m : Matcher α) :
    Asks (places (walkTo (firstRefused m.accepts text h))) (Cursor.skipWhile m) v :=
  (hv.asks_readWhile m).map _

/-- A head that has skipped nothing is where it was. -/
theorem onPlace_of_skipWhile (hv : v.OnPlace text h) {m : Matcher α}
    (hrun : (Cursor.skipWhile m).run v = .ok false w) : w.OnPlace text h := by
  simp only [Cursor.skipWhile, bind_pure_comp, Action.run_map_eq_ok] at hrun
  obtain ⟨xs, hmany, hempty⟩ := hrun
  rw [Cursor.readWhile, Reader.run_many] at hmany
  rcases hv.run_advanceIf m.accepts (e := 0) (Nat.zero_le _) with
    ⟨t, -, ⟨ht, hstep⟩ | ⟨fault, hstep⟩⟩ | ⟨t, x, -, -, -, hstep⟩
  · have hread : (readerIf m).read.run v = .ok none t := hstep
    rw [hread] at hmany
    cases hmany
    exact ht
  · have hread : (readerIf m).read.run v = .error fault t := hstep
    rw [hread] at hmany
    cases hmany
  · have hread : (readerIf m).read.run v = .ok (some x) t := hstep
    simp only [hread] at hmany
    split at hmany
    · cases hmany
      cases hempty
    · cases hmany

/-- That the end of the source may count as a blank asks for nothing more: it has been met if the
element under the head is blank and could not be skipped. -/
theorem asks_skipBlank (hv : v.OnPlace text h) (blank : α → Bool) (endCounts : Bool) :
    Asks (places (walkTo (firstRefused blank text h))) (Cursor.skipBlank blank endCounts) v := by
  have hskip : Asks (places (walkTo (firstRefused blank text h)))
      (Cursor.skipWhile (.satisfying blank)) v := hv.asks_skipWhile (.satisfying blank)
  rcases hrun : (Cursor.skipWhile (.satisfying blank)).run v with ⟨_ | _, w⟩ | ⟨fault, w⟩
  -- Nothing was skipped, so the head is where it was.
  · have hw := hv.onPlace_of_skipWhile hrun
    have hasked := hskip.ends.of_ok hrun
    rcases endCounts
    · exact .of_run (Action.run_bind_of_ok hrun) hasked
    have hindex : w.cursor.sourceIsEmpty = false := by
      rw [sourceIsEmpty, hw.index_eq, decide_eq_false_iff_not]
      omega
    have hend := hw.asks_underHead blank (Nat.le_add_right h 1)
      (y := fun _ => look (·.isAtEnd)) false fun _ _ hu => hu.asks_isAtEnd
    refine (Asks.bind hrun hasked (.of_run_eq ?_ hend)).congr ?_
    · have hopen : ¬ w.cursor.sourceIsEmpty = true := by
        rw [hindex]
        exact Bool.false_ne_true
      exact (Action.run_bind_of_ok (run_head w)).trans (congrArg (EStateM.run · w) (if_neg hopen))
    -- What lies behind a blank is no nearer than the next place.
    · have hnext : places (if text[h]?.any blank then walkTo (h + 1) else none) ≤
          places (walkTo (firstRefused blank text h)) := by
        obtain ⟨x, hx⟩ : ∃ x, text[h]? = some x := ⟨_, List.getElem?_eq_getElem hv.lt_length⟩
        rw [hx, Option.any_some]
        split
        · next hblank =>
          have hle : h + 1 ≤ firstRefused blank text (h + 1) := le_firstRefused
          rw [firstRefused_of_passed hx hblank, places_walkTo, places_walkTo]
          omega
        · exact Nat.zero_le _
      omega
  · exact .of_run (Action.run_bind_of_ok hrun) (hskip.ends.of_ok hrun)
  · exact .of_error (Action.run_bind_of_error hrun) (hskip.ends.of_error hrun)

theorem asks_readSeq (hv : v.OnPlace text h) (pattern : List α) :
    Asks (places (if pattern.isEmpty then none else walkTo (h + common pattern (text.drop h))))
      (Cursor.readSeq pattern) v := by
  by_cases hempty : pattern.isEmpty
  · rw [if_pos hempty, List.isEmpty_iff.1 hempty]
    exact .of_error rfl (hv.asked_of_le (Nat.zero_le _))
  have hne : pattern ≠ [] := mt List.isEmpty_iff.2 hempty
  have hlength : 0 < pattern.length := List.length_pos_iff.2 hne
  have hplace : place? (h + 0) = some h := place?_add (e := 0) hv.le_lastPlace
  obtain ⟨w, hw, hcursor, hresult⟩ := hv.run_matchesAt 0 pattern
  rw [Operation.matchDemand?, hplace, if_neg hempty, Option.bind_some, places_walkTo] at hw
  rw [if_neg hempty, places_walkTo]
  rcases hresult with ⟨hrun, i, hi, hall⟩ | ⟨hrun, hshort⟩
  · cases hplace.symm.trans hi
    have hskip := (hv.asked hw (congrArg Cursor.index hcursor)).asks_skip pattern.length
    rw [places_place?_add] at hskip
    refine (Asks.bind_true hrun hw hskip).congr ?_
    rw [hall]
    generalize lastPlace = last at *
    split <;> omega
  · have hfew : common pattern (text.drop h) ≤ pattern.length := common_le
    have hdecided := (hshort h hplace).resolve_left hne
    have hasked :
        v.buffer.Asked (min (h + common pattern (text.drop h)) lastPlace + 1) w.buffer := by
      refine hw.congr ?_
      generalize lastPlace = last at *
      omega
    rcases hrun with hrun | ⟨-, fault, hrun⟩
    · exact .of_run (Action.run_bind_of_ok hrun) hasked
    · exact .of_error (Action.run_bind_of_error hrun) hasked

/-- Where the pattern is there, its last element is where the head goes. -/
theorem asks_readNextSeq (hv : v.OnPlace text h) (pattern : List α) :
    Asks (places (Operation.matchDemand? text (h + 1) pattern)) (Cursor.readNextSeq pattern) v := by
  by_cases hempty : pattern.isEmpty
  · rw [Operation.matchDemand?, if_pos hempty, List.isEmpty_iff.1 hempty]
    exact .of_error rfl (hv.asked_of_le (Nat.zero_le _))
  obtain ⟨w, hw, hcursor, ⟨hrun, i, hi, hall⟩ | ⟨hrun | ⟨-, fault, hrun⟩, -⟩⟩ :=
    hv.run_matchesAt 1 pattern
  · obtain ⟨hnext, -⟩ := place?_eq_some_iff.1 hi
    have hlength : 0 < pattern.length := List.length_pos_iff.2 (mt List.isEmpty_iff.2 hempty)
    have hskip := (hv.asked hw (congrArg Cursor.index hcursor)).asks_skip pattern.length
    rw [places_place?_add] at hskip
    refine (Asks.bind_true hrun hw hskip).congr ?_
    rw [Operation.matchDemand?, if_neg hempty, hi, Option.bind_some, places_walkTo, hall]
    generalize lastPlace = last at *
    split <;> omega
  · exact .of_run (Action.run_bind_of_ok hrun) hw
  · exact .of_error (Action.run_bind_of_error hrun) hw

theorem asks_skipUntil (hv : v.OnPlace text h) (m : Matcher α) :
    Asks (places (walkTo (firstRefused (fun x => !m.accepts x) text h))) (Cursor.skipUntil m)
      v := by
  have hscan := hv.run_scan (fun x => !m.accepts x) (e := 0) (Nat.le_succ_of_le hv.le_lastPlace)
    (Nat.le_of_lt hv.held)
  rw [Nat.add_zero] at hscan
  obtain ⟨w, hw, hcursor, ⟨-, hrun⟩ | ⟨scanned, hrun, hlength, -⟩⟩ := hscan
  · exact .of_error (Action.run_bind_of_error hrun) hw
  · by_cases hstop : scanned.stop.isSome
    · have hskip := (hv.asked hw (congrArg Cursor.index hcursor)).asks_skip scanned.passed.length
      rw [places_place?_add] at hskip
      have hboth := Asks.bind (f := fun scanned : Scanned α =>
        if scanned.stop.isSome then skip scanned.passed.length else Pure.pure false) hrun hw
        (m := if h + scanned.passed.length ≤ lastPlace then h + scanned.passed.length + 1 else 0)
        (by simp only [if_pos hstop]; exact hskip)
      refine hboth.congr ?_
      rw [places_walkTo]
      generalize lastPlace = last at *
      split <;> omega
    · have hstay : (Cursor.skipUntil m).run v = .ok false w := by
        refine (Action.run_bind_of_ok hrun).trans ?_
        rw [if_neg hstop]
        rfl
      exact .of_run hstay hw

end Reading

/-- The rest of a word is scanned up to the element that does not go on with it, and that is where
the head is to go. -/
theorem asks_restOfWord (hv : v.OnPlace text h) (continues : α → Bool) (x : α) :
    Asks (places (walkTo (firstRefused continues text (h + 1))))
      (do
        let scanned ← look (·.scan continues 1)
        return if ← skip (scanned.passed.length + 1) then some (x :: scanned.passed) else none)
      v := by
  have hscan := hv.run_scan continues (e := 1) (Nat.succ_le_succ hv.le_lastPlace) hv.held
  obtain ⟨w, hw, hcursor, ⟨-, hrun⟩ | ⟨scanned, hrun, hlength, -⟩⟩ := hscan
  · exact .of_error (Action.run_bind_of_error hrun) hw
  · have hle : h + 1 ≤ firstRefused continues text (h + 1) := le_firstRefused
    have hskip := (hv.asked hw (congrArg Cursor.index hcursor)).asks_skip
      (scanned.passed.length + 1)
    rw [places_place?_add] at hskip
    refine (Asks.bind hrun hw (hskip.map _)).congr ?_
    have hheld := hv.held
    rw [places_walkTo]
    generalize lastPlace = last at *
    split <;> omega

theorem asks_readWord (hv : v.OnPlace text h) (starts continues : α → Bool) :
    Asks
      (places
        (if text[h]?.any starts then walkTo (firstRefused continues text (h + 1)) else some h))
      (Cursor.readWord starts continues) v := by
  have hle : h ≤ firstRefused continues text (h + 1) :=
    Nat.le_trans (Nat.le_succ h) le_firstRefused
  have hheld := hv.held
  refine (hv.asks_underHead starts hle none fun x w hw => hw.asks_restOfWord continues x).congr ?_
  split
  · rfl
  · simp only [places, Option.elim_none, Option.elim_some]
    omega

/-! ### Operations -/

omit [LineElement α] in
theorem asks_text (hv : v.OnPlace text h) :
    Asks (places (some text.length)) (look fun _ => Buffer.text) v := by
  obtain ⟨b, htext, hb⟩ := hv.reliable.run_text
  rw [hv.whole_eq] at hb
  have hrun : (look fun _ => Buffer.text).run v = .ok v.buffer.whole ⟨b, v.cursor⟩ :=
    run_look_eq_ok.2 ⟨htext, rfl⟩
  exact .of_run hrun hb

/-- **Every operation asks for the places up to the farthest one it demands.** -/
theorem asks_run [DecidableEq α] (hv : v.OnPlace text h) (operation : Operation α) :
    Asks (places (operation.demand? text h)) operation.run v := by
  have hpeek (offset : Int) : Asks (places (place? (h + offset))) (look (·.peek offset)) v := by
    obtain ⟨b, hrun, hb⟩ := hv.run_peek offset
    exact .of_run hrun hb
  have hglance (hglance : operation.IsGlance) : Asks 0 operation.run v := by
    obtain ⟨reply, hrun⟩ := hglance.run_eq v
    exact .of_run hrun (hv.asked_of_le (Nat.zero_le _))
  cases operation with
  | slot | location | sourceIsEmpty | isAtStart | isStartOfLine => exact hglance trivial
  | current => exact hv.asks_current.map _
  | previous => exact (hpeek (-1)).map _
  | next => exact (hpeek 1).map _
  | peek offset => exact (hpeek offset).map _
  | isAtEnd => exact hv.asks_isAtEnd.map _
  | matchesAt offset pattern => exact (hv.asks_matchesAt offset pattern).map _
  | text => exact hv.asks_text.map _
  | moveBy offset => exact (hv.asks_moveBy offset).map _
  | moveTo place offset => exact (hv.asks_moveTo place offset).map _
  | reset place =>
    have hreset := hv.asks_moveTo place 0
    rw [Int.add_zero] at hreset
    exact hreset.map _
  | skip count => exact (hv.asks_skip count).map _
  | rewind count => exact (hv.asks_rewind count).map _
  | read => exact hv.asks_read.map _
  | readIf m => exact (hv.asks_readIf m).map _
  | readSeq pattern => exact (hv.asks_readSeq pattern).map _
  | readNext => exact hv.asks_readNext.map _
  | readNextIf m => exact (hv.asks_readNextIf m).map _
  | readNextSeq pattern => exact (hv.asks_readNextSeq pattern).map _
  | readWhile m => exact (hv.asks_readWhile m).map _
  | readNextWhile m => exact (hv.asks_readNextWhile m).map _
  | skipWhile m => exact (hv.asks_skipWhile m).map _
  | skipUntil m => exact (hv.asks_skipUntil m).map _
  | skipBlank blank endCounts => exact (hv.asks_skipBlank blank endCounts).map _
  | readWord starts continues => exact (hv.asks_readWord starts continues).map _

end OnPlace

end View

/-! ### Sessions -/

/-- What there is to say of a buffer over a source without failures that holds the beginning of
`text`, once the places up to the farthest one of a demand were asked for. -/
structure Buffer.RisesTo (text : List α) (demand : Option Nat) (b b' : Buffer α) : Prop where
  /-- The buffer holds the places asked for, as far as there are any, and nothing that it did not
  hold before and that was not asked for. -/
  size_eq : b'.items.size = max b.items.size (min (places demand) text.length)
  items_eq : b'.items.toList = text.take b'.items.size
  /-- Its source is exhausted if it was, or if a place was asked for that the text has not got. -/
  exhausted_iff : b'.exhausted = true ↔
    b.exhausted = true ∨ ∃ place ∈ demand, text.length ≤ place
  /-- Each pull has brought an element, or has exhausted the source. -/
  pulls_eq : b'.pulls = b'.items.size + b'.exhausted.toNat

/-- That a walk goes no farther than the last place there can be makes no difference in a text that
goes no farther either. -/
theorem Buffer.risesTo_walkTo_iff {text : List α} (hlength : text.length ≤ lastPlace) {place : Nat}
    {b b' : Buffer α} : RisesTo text (walkTo place) b b' ↔ RisesTo text (some place) b b' := by
  have hplaces :
      min (places (walkTo place)) text.length = min (places (some place)) text.length := by
    have hstop : places (some place) = place + 1 := rfl
    rw [places_walkTo, hstop]
    omega
  have hend : (∃ stop ∈ walkTo place, text.length ≤ stop) ↔
      ∃ stop ∈ some place, text.length ≤ stop := by
    simp only [walkTo, Option.mem_def, Option.some.injEq, exists_eq_left']
    omega
  constructor
  · rintro ⟨hsize, hitems, hexhausted, hpulls⟩
    exact ⟨hplaces ▸ hsize, hitems, hexhausted.trans (or_congr_right hend), hpulls⟩
  · rintro ⟨hsize, hitems, hexhausted, hpulls⟩
    exact ⟨hplaces ▸ hsize, hitems, hexhausted.trans (or_congr_right hend.symm), hpulls⟩

namespace Session.Reached

variable [LineElement α] [DecidableEq α] {script : Source α} {s : Session α}

theorem reliable (hs : s.Reached script) (hscript : Source.failures script = []) :
    s.buffer.Reliable := by
  obtain ⟨key, config, told, hb⟩ := hs.takes
  exact hb.tells.failures_left hscript

/-- Over a source without failures there have been as many pulls as there are elements, and one more
if the source is exhausted. -/
theorem pulls_eq (hs : s.Reached script) (hscript : Source.failures script = []) :
    s.buffer.pulls = s.buffer.items.size + s.buffer.exhausted.toNat := by
  obtain ⟨key, config, told, hb⟩ := hs.takes
  have hlength := hb.tells.length_eq rfl
  have hitems := congrArg List.length hb.items_eq
  rw [hb.tells.failures_eq_nil hscript, List.length_nil, Nat.add_zero] at hlength
  rw [List.length_append, Array.length_toList] at hitems
  have hnew : (Buffer.ofSource key script config).pulls = 0 ∧
      (Buffer.ofSource key script config).items.toList.length = 0 := ⟨rfl, rfl⟩
  have hpulls := hb.pulls_eq
  rw [Buffer.exhausted]
  omega

/-- A head with an element under it is on a place of the text. -/
theorem onPlace (hs : s.Reached script) (hscript : Source.failures script = []) {c : Cursor}
    (hc : c ∈ s.cursors) (hindex : 0 ≤ c.index) :
    View.OnPlace ⟨s.buffer, c⟩ script.yield c.index.toNat := by
  have hstands := hs.stands c hc
  have hheld := Buffer.holds_iff.1 (hstands.holds hindex)
  have hfits := hstands.fits
  have hplace : (c.index.toNat : Int) = c.index := Int.toNat_of_nonneg hindex
  rw [← hplace, fits_natCast] at hfits
  exact ⟨hs.reliable hscript, hs.whole_eq, hplace.symm, by simp only; omega, hfits⟩

end Session.Reached

/-- **The buffer is a high-water mark.** Over a source that never fails, every operation pulls
exactly as far as the farthest place it demands, whatever has been done before and by whom. -/
theorem buffers_are_high_water_marks [LineElement α] [DecidableEq α] {script : Source α}
    (hscript : Source.failures script = []) {s : Session α} (hs : s.Reached script) {i : Nat}
    {c : Cursor} (hc : s.cursors[i]? = some c) (hindex : 0 ≤ c.index) (operation : Operation α) :
    Buffer.RisesTo script.yield (operation.demand? script.yield c.index.toNat) s.buffer
      (s.perform (.apply i operation)).2.buffer := by
  have ht : (s.perform (.apply i operation)).2.Reached script := hs.run [.apply i operation]
  have hplace := hs.onPlace hscript (List.mem_of_getElem? hc) hindex
  have hasks := (hplace.asks_run operation).ends
  have hasked : s.buffer.Asked (places (operation.demand? script.yield c.index.toNat))
      (s.perform (.apply i operation)).2.buffer := by
    rw [Session.perform, Session.step, Session.run_onCursor, hc]
    rcases hrun : operation.run.run ⟨s.buffer, c⟩ with ⟨reply, w⟩ | ⟨fault, w⟩
    · simp only [hrun]
      exact hasks.of_ok hrun
    · simp only [hrun]
      exact hasks.of_error hrun
  refine ⟨?size_eq, ?items_eq, ?exhausted_iff, ht.pulls_eq hscript⟩
  case size_eq =>
    rw [hasked.size_eq, hs.whole_eq]
  case items_eq =>
    rw [← ht.whole_eq, Buffer.whole, ← Array.length_toList, List.take_left]
  case exhausted_iff =>
    have hdemand : script.yield.length < places (operation.demand? script.yield c.index.toNat) ↔
        ∃ place ∈ operation.demand? script.yield c.index.toNat, script.yield.length ≤ place := by
      rcases operation.demand? script.yield c.index.toNat with _ | place
      · simp [places]
      · simp only [places, Option.elim_some, Option.mem_def, Option.some.injEq, exists_eq_left']
        omega
    rw [← hdemand, Buffer.exhausted, Buffer.exhausted, Option.isNone_iff_eq_none,
      Option.isNone_iff_eq_none, hasked.source_iff, hs.whole_eq]

/-- A run of letters is read up to the first character that is none, and the two behind that are
left in the source. -/
theorem buffers_are_high_water_marks_at_run_end :
    ∃ s : Session Char,
      s.Reached [.element 'a', .element 'b', .element '1', .element 'c', .element 'd'] ∧
      s.cursors[0]? = some ⟨0, false, none⟩ ∧ s.buffer.items = #['a'] ∧
      (s.perform (.apply 0 (.readWhile (.satisfying Char.isAlpha)))).2.buffer.items =
        #['a', 'b', '1'] ∧
      Buffer.RisesTo ['a', 'b', '1', 'c', 'd'] (some 2) s.buffer
        (s.perform (.apply 0 (.readWhile (.satisfying Char.isAlpha)))).2.buffer := by
  have hreached : Session.Reached
      [.element 'a', .element 'b', .element '1', .element 'c', .element 'd']
      { buffer := {
          key := 0
          items := #['a']
          source := some [.element 'b', .element '1', .element 'c', .element 'd']
          config := .quiet
          pulls := 1 }
        cursors := [⟨0, false, none⟩] } :=
    ⟨.source _, 0, .quiet, false, _, [], rfl, rfl, by decide +kernel⟩
  exact ⟨_, hreached, rfl, rfl, by decide +kernel, buffers_are_high_water_marks rfl hreached
    (i := 0) rfl (by decide) (.readWhile (.satisfying Char.isAlpha))⟩

end Rewind
