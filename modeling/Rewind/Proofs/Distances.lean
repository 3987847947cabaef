import Rewind.Proofs.Registers

/-!
# Distances are exact

A head can look at any place and move onto any place, and the two are told apart only by what they
come out as: a look that sees nothing, a move that answers no, a move that is refused. This module
relates them, from one state of a cursor and over any source, also one that fails on the way.

* **A move is refused exactly when its target is no place** (`Session.ReckonsDistances`). Before
  anything is asked of the source that is decided by the index and the distance alone, and so is
  whether a move leads before the first element.
* **A cursor sees an element exactly where its head can go** (`Session.LooksAsMoves`): both look at
  the same place, pull the same and fail alike, and a head that has gone there is on what was seen.

The integers of all this are registers of 64 bits to a machine, which comes to the same
(`View.Reckons`).
-/

namespace Rewind

variable {α : Type}

open Cursor

/-! ### One look and one move -/

/-- How a look at the place `offset` away and a move of the head onto it come out together. -/
inductive View.LooksAsMoves (v : View α) (offset : Int) :
    EStateM.Result Fault (View α) (Option α) → EStateM.Result Fault (View α) Bool → Prop
  /-- There is an element, and the head moves onto it. -/
  | there (x : α) (b : Buffer α) (fits : Fits (v.cursor.index + offset))
      (held : b.holds (v.cursor.index + offset) = true)
      (hx : b.items[(v.cursor.index + offset).toNat]? = some x) :
      v.LooksAsMoves offset (.ok (some x) ⟨b, v.cursor⟩)
        (.ok true ⟨b, { v.cursor with index := v.cursor.index + offset }⟩)
  /-- There is no such place. -/
  | beyond (unfit : ¬ Fits (v.cursor.index + offset)) :
      v.LooksAsMoves offset (.ok none v) (.error (.misuse .seekOverflow) v)
  /-- The place is before the first element, or the source runs out before it. -/
  | missing (b : Buffer α) (mark : Bool) :
      v.LooksAsMoves offset (.ok none ⟨b, v.cursor⟩)
        (.ok false ⟨b, { v.cursor with reachedEnd := mark }⟩)
  /-- The source fails. -/
  | failed (message : String) (b : Buffer α) :
      v.LooksAsMoves offset (.error (.source message) ⟨b, v.cursor⟩)
        (.error (.source message) ⟨b, v.cursor⟩)

variable [LineElement α]

/-- **A head sees what it can move onto.** -/
theorem View.Stands.looks_as_moves {v : View α} (hv : v.Stands)
    (hplain : v.cursor.position = none) (hindex : 0 ≤ v.cursor.index) (offset : Int) :
    v.LooksAsMoves offset ((look (·.peek offset)).run v) ((moveBy offset).run v) := by
  have hsize := (Buffer.holds_iff.1 (hv.holds hindex)).2
  rw [run_look, run_peek]
  by_cases hfits : Fits (v.cursor.index + offset)
  case neg =>
    have h0 : offset ≠ 0 := fun h0 => hfits (by rw [h0, Int.add_zero]; exact hv.fits)
    rw [Offset.add?_eq_none_iff.2 hfits, run_moveBy, if_neg h0, if_pos hfits]
    exact .beyond hfits
  rw [Offset.add?_eq_some_iff.2 ⟨hfits, rfl⟩]
  by_cases hbefore : v.cursor.index + offset < 0
  · simp only [if_pos hbefore]
    rw [run_moveBy, if_neg (by omega), if_neg (not_not_intro hfits), if_pos (.inr hbefore)]
    exact .missing v.buffer v.cursor.reachedEnd
  simp only [if_neg hbefore]
  by_cases hheld : v.buffer.holds (v.cursor.index + offset) = true
  · obtain ⟨-, hlt⟩ := Buffer.holds_iff.1 hheld
    have hplace : (v.cursor.index + offset).toNat < v.buffer.items.size := by omega
    have hx := Array.getElem?_eq_getElem hplace
    rw [Buffer.run_fetch_of_settles (.inl hplace), hx,
      Register.run_moveBy_of_holds hplain hindex hfits hheld]
    exact .there _ _ hfits hheld hx
  -- What is not held is ahead of what is, so it is asked of the source either way.
  rw [Buffer.holds_iff] at hheld
  rw [Buffer.run_fetch, run_moveBy, if_neg (by omega), if_neg (not_not_intro hfits),
    if_neg (by omega), if_neg (by omega)]
  rcases hensure : (Buffer.ensure (v.cursor.index + offset).toNat).run v.buffer with
    ⟨found, b⟩ | ⟨fault, b⟩
  · obtain ⟨⟨told, hb, -⟩, hsettles, hfound⟩ := Buffer.of_run_ensure hensure
    rw [← hb.whole_eq] at hfound
    rcases found
    · have hge := of_decide_eq_false hfound.symm
      rw [hsettles.lt_iff] at hge
      simp only [Array.getElem?_eq_none (Nat.not_lt.1 hge)]
      exact .missing b true
    · have hlt := of_decide_eq_true hfound.symm
      rw [hsettles.lt_iff] at hlt
      have hx := Array.getElem?_eq_getElem hlt
      simp only [hx, Register.land_of_plain (v := ⟨b, v.cursor⟩) hplain]
      exact .there _ b hfits (Buffer.holds_iff.2 (by omega)) hx
  · obtain ⟨message, rfl⟩ := Buffer.fault_of_run_ensure hensure
    exact .failed message b

/-! ### When a move is refused -/

section Refusals

variable {v : View α}

/-- A plain head is refused a move exactly when there is no place for it to go to. -/
theorem run_moveBy_overflow_iff (hplain : v.cursor.position = none) {offset : Int}
    (h0 : offset ≠ 0) :
    (∃ w, (moveBy offset).run v = .error (.misuse .seekOverflow) w) ↔
      ¬ Fits (v.cursor.index + offset) := by
  rw [run_moveBy, if_neg h0]
  by_cases hfits : Fits (v.cursor.index + offset)
  case neg =>
    rw [if_pos hfits]
    exact iff_of_true ⟨v, rfl⟩ hfits
  rw [if_neg (not_not_intro hfits)]
  refine iff_of_false ?_ (not_not_intro hfits)
  rintro ⟨w, hrun⟩
  split at hrun
  · cases hrun
  split at hrun
  · cases Register.land_of_plain hplain _ ▸ hrun
  rcases hensure : (Buffer.ensure (v.cursor.index + offset).toNat).run v.buffer with
    ⟨_ | _, b⟩ | ⟨fault, b⟩
  · rw [hensure] at hrun
    cases hrun
  · simp only [hensure, Register.land_of_plain (v := ⟨b, v.cursor⟩) hplain] at hrun
    cases hrun
  · obtain ⟨message, rfl⟩ := Buffer.fault_of_run_ensure hensure
    rw [hensure] at hrun
    cases hrun

/-- A count may be too large for a distance, and its distance too large for the place. -/
theorem run_skip_overflow_iff (hfits : Fits v.cursor.index) (hplain : v.cursor.position = none)
    (count : Nat) :
    (∃ w, (skip count).run v = .error (.misuse .seekOverflow) w) ↔
      lastPlace < count ∨ lastPlace < v.cursor.index + count := by
  rw [skip]
  by_cases hcount : Fits count
  case neg =>
    rw [Offset.ofCount?_eq_none_iff.2 hcount]
    exact iff_of_true ⟨v, rfl⟩ (.inl (Nat.not_le.1 (mt fits_natCast.2 hcount)))
  rw [Offset.ofCount?_eq_some_iff.2 ⟨hcount, rfl⟩]
  have hnear := fits_natCast.1 hcount
  by_cases h0 : (count : Int) = 0
  · refine iff_of_false ?_ ?_
    · rintro ⟨w, hrun⟩
      rw [h0] at hrun
      cases (run_moveBy 0 v).symm.trans hrun
    · unfold Fits lastPlace at *
      omega
  · refine (run_moveBy_overflow_iff hplain h0).trans ?_
    unfold Fits lastPlace at *
    omega

/-- From no place is the start of the range out of reach of a distance back. -/
theorem run_rewind_overflow_iff (hv : v.Stands) (hplain : v.cursor.position = none)
    (count : Nat) :
    (∃ w, (rewind count).run v = .error (.misuse .seekOverflow) w) ↔ lastPlace < count := by
  rw [rewind]
  by_cases hcount : Fits count
  case neg =>
    rw [Offset.ofCount?_eq_none_iff.2 hcount]
    exact iff_of_true ⟨v, rfl⟩ (Nat.not_le.1 (mt fits_natCast.2 hcount))
  rw [Offset.ofCount?_eq_some_iff.2 ⟨hcount, rfl⟩]
  have hnear := fits_natCast.1 hcount
  by_cases h0 : -(count : Int) = 0
  · refine iff_of_false ?_ (Nat.not_lt.2 hnear)
    rintro ⟨w, hrun⟩
    simp only [Offset.orOverflow, pure_bind, h0] at hrun
    cases (run_moveBy 0 v).symm.trans hrun
  · refine (run_moveBy_overflow_iff hplain h0).trans ?_
    have hindex : -1 ≤ v.cursor.index := by
      rcases hv.place with hheld | ⟨hindex, -⟩
      · exact Int.le_trans (by decide) (Buffer.holds_iff.1 hheld).1
      · exact Int.le_of_eq hindex.symm
    have hfits := hv.fits
    unfold Fits lastPlace at *
    omega

/-- A head that does not move is where it was. -/
theorem index_of_run_moveBy (offset : Int) (v : View α) :
    match (moveBy offset).run v with
    | .ok true _ => True
    | .ok false w | .error _ w => w.cursor.index = v.cursor.index := by
  have hland (u : View α) (target : Int) (hu : u.cursor.index = v.cursor.index) :
      match u.land target with
      | .ok true _ => True
      | .ok false w | .error _ w => w.cursor.index = v.cursor.index := by
    rcases hp : u.cursor.position with _ | p
    · simp only [View.land, hp]
    · rcases hwalk : u.buffer.walk? u.cursor.index target p with _ | q
      · simpa only [View.land, hp, View.arrive, hwalk] using hu
      · simp only [View.land, hp, View.arrive, hwalk]
  refine moveBy_cases (P := fun r => match r with
    | .ok true _ => True
    | .ok false w | .error _ w => w.cursor.index = v.cursor.index)
    offset v ?stay ?overflow ?outside ?back ?ahead ?ended ?failed
  case stay => exact fun _ => trivial
  case overflow => exact fun _ => rfl
  case outside => exact fun _ => rfl
  case back => exact fun _ _ _ => hland v _ rfl
  case ahead => exact fun b _ _ _ _ => hland ⟨b, v.cursor⟩ _ rfl
  case ended => exact fun _ _ _ _ => rfl
  case failed => exact fun _ _ _ _ _ => rfl

end Refusals

/-! ### Sessions -/

variable [DecidableEq α]

namespace Session

/-- What there is to say of the distances that the plain cursor `c`, number `i` of a session, is
moved by and looks over. -/
structure ReckonsDistances (s : Session α) (i : Nat) (c : Cursor) : Prop where
  /-- Not moving always succeeds. -/
  stays : s.perform (.apply i (.moveBy 0)) = (.answered (.verdict true), s)
  /-- Any other move is refused exactly when its target is no place, -/
  overflow_iff (offset : Int) : offset ≠ 0 →
    ((s.perform (.apply i (.moveBy offset))).1 = .failed (.misuse .seekOverflow) ↔
      ¬ Fits (c.index + offset))
  /-- and if it is not refused, it is not made over an empty text or to before the first element. -/
  outside (offset : Int) : offset ≠ 0 → Fits (c.index + offset) →
    c.index = -1 ∨ c.index + offset < 0 →
    s.perform (.apply i (.moveBy offset)) = (.answered (.verdict false), s)
  /-- A move that is not made leaves the head where it is. -/
  unmoved (offset : Int) :
    (s.perform (.apply i (.moveBy offset))).1 ≠ .answered (.verdict true) →
    ∃ d, (s.perform (.apply i (.moveBy offset))).2.cursors[i]? = some d ∧ d.index = c.index
  skip_iff (count : Nat) :
    (s.perform (.apply i (.skip count))).1 = .failed (.misuse .seekOverflow) ↔
      lastPlace < count ∨ lastPlace < c.index + count
  rewind_iff (count : Nat) :
    (s.perform (.apply i (.rewind count))).1 = .failed (.misuse .seekOverflow) ↔ lastPlace < count
  /-- Looking is never refused, -/
  peek (offset : Int) :
    (s.perform (.apply i (.peek offset))).1 ≠ .failed (.misuse .seekOverflow)
  /-- nor is looking for an element, while the buffer holds no more than there are places. -/
  skipUntil (m : Matcher α) :
    (s.perform (.apply i (.skipUntil m))).2.buffer.items.size ≤ lastPlace →
    (s.perform (.apply i (.skipUntil m))).1 ≠ .failed (.misuse .seekOverflow)
  /-- And nothing wraps around. -/
  reckons : View.Reckons ⟨s.buffer, c⟩

/-- Whether the cursor `c`, number `i` of a session, sees at a place what it finds there when it is
moved onto it. -/
structure LooksAsMoves (s : Session α) (i : Nat) (c : Cursor) (offset : Int) : Prop where
  /-- An element is seen exactly where the head can go, -/
  sees_iff : (∃ x, (s.perform (.apply i (.peek offset))).1 = .answered (.element (some x))) ↔
    (s.perform (.apply i (.moveBy offset))).1 = .answered (.verdict true)
  /-- and that is where it goes and what is under it then, to be had without a pull. -/
  arrives (x : α) : (s.perform (.apply i (.peek offset))).1 = .answered (.element (some x)) →
    ∃ t, s.perform (.apply i (.moveBy offset)) = (.answered (.verdict true), t) ∧
      t.cursors[i]? = some { c with index := c.index + offset } ∧
      t.perform (.apply i .current) = (.answered (.element (some x)), t)
  fails_iff (message : String) :
    (s.perform (.apply i (.peek offset))).1 = .failed (.source message) ↔
      (s.perform (.apply i (.moveBy offset))).1 = .failed (.source message)
  misses_iff : (s.perform (.apply i (.peek offset))).1 = .answered (.element none) ↔
    (s.perform (.apply i (.moveBy offset))).1 = .answered (.verdict false) ∨
      (s.perform (.apply i (.moveBy offset))).1 = .failed (.misuse .seekOverflow)

variable {s : Session α} {i : Nat} {c : Cursor}

/-- A command to a cursor fails with the fault that its operation ends with. -/
theorem failed_iff (hc : s.cursors[i]? = some c) {operation : Operation α} {fault : Fault} :
    (s.perform (.apply i operation)).1 = .failed fault ↔
      ∃ w, operation.run.run ⟨s.buffer, c⟩ = .error fault w := by
  rw [perform_apply hc]
  rcases operation.run.run ⟨s.buffer, c⟩ with ⟨reply, w⟩ | ⟨fault', w⟩
  · exact iff_of_false nofun nofun
  · simp

/-- What a look and a move come out as together is what their commands do. -/
theorem looks_as_moves (hc : s.cursors[i]? = some c) {offset : Int}
    {peeked : EStateM.Result Fault (View α) (Option α)}
    {moved : EStateM.Result Fault (View α) Bool}
    (hpeek : (look (·.peek offset)).run ⟨s.buffer, c⟩ = peeked)
    (hmove : (moveBy offset).run ⟨s.buffer, c⟩ = moved)
    (h : View.LooksAsMoves ⟨s.buffer, c⟩ offset peeked moved) : s.LooksAsMoves i c offset := by
  have hlooked := perform_apply hc (.peek offset)
  have hmoved := perform_apply hc (.moveBy offset)
  rw [Operation.run, EStateM.run_bind, hpeek] at hlooked
  rw [Operation.run, EStateM.run_bind, hmove] at hmoved
  refine ⟨?sees, ?arrives, ?fails, ?misses⟩
  case arrives =>
    intro y hy
    cases h with
    | there x b fits held hx =>
      obtain ⟨hlt, -⟩ := List.getElem?_eq_some_iff.1 hc
      obtain ⟨z, hz, hcurrent⟩ :=
        run_current_of_holds (c := { c with index := c.index + offset }) fits held
      cases hx.symm.trans hz
      rw [hlooked] at hy
      cases hy
      have hc' := List.getElem?_set_self (a := { c with index := c.index + offset }) hlt
      exact ⟨_, hmoved, hc',
        perform_apply_stay hc' (Action.run_bind_of_ok (run_look_of_ok hcurrent))⟩
    | _ => simp [hlooked] at hy
  all_goals cases h <;> simp [hlooked, hmoved]

/-- What there is to say of its distances can be said of every plain cursor that stands. -/
theorem reckonsDistances (hc : s.cursors[i]? = some c) (hstands : c.StandsIn s.buffer)
    (hplain : c.position = none) : s.ReckonsDistances i c := by
  have hv : View.Stands ⟨s.buffer, c⟩ := hstands
  have hfailed {operation : Operation α} {β : Type} {x : Moving α β} {reply : β → Reply α}
      (hoperation : operation.run = (do return reply (← x))) (fault : Fault) :
      (s.perform (.apply i operation)).1 = .failed fault ↔
        ∃ w, x.run ⟨s.buffer, c⟩ = .error fault w := by
    rw [failed_iff hc, hoperation]
    simp only [bind_pure_comp, Action.run_map_eq_error]
  refine ⟨?stays, fun offset h0 => ?overflow, fun offset h0 hfits hout => ?outside,
    fun offset hmoved => ?unmoved, fun count => ?skip, fun count => ?rewind,
    fun offset hpeek => ?peek, fun m hsize huntil => ?skipUntil, hv.reckons hplain⟩
  case stays =>
    refine perform_apply_stay hc (Action.run_bind_of_ok ?_)
    rw [run_moveBy, if_pos rfl]
  case overflow => exact (hfailed rfl _).trans (run_moveBy_overflow_iff hplain h0)
  case outside =>
    refine perform_apply_stay hc (Action.run_bind_of_ok ?_)
    rw [run_moveBy, if_neg h0, if_neg (not_not_intro hfits), if_pos]
    exact hout.imp_left fun hneg => show c.index < 0 by omega
  case unmoved =>
    have hindex := index_of_run_moveBy offset ⟨s.buffer, c⟩
    obtain ⟨hlt, -⟩ := List.getElem?_eq_some_iff.1 hc
    rw [perform_apply hc, Operation.run] at hmoved ⊢
    rcases hrun : (moveBy offset).run ⟨s.buffer, c⟩ with ⟨_ | _, w⟩ | ⟨fault, w⟩
    · rw [hrun] at hindex
      rw [Action.run_bind_of_ok hrun]
      exact ⟨w.cursor, List.getElem?_set_self hlt, hindex⟩
    · rw [Action.run_bind_of_ok hrun] at hmoved
      exact absurd rfl hmoved
    · rw [hrun] at hindex
      rw [Action.run_bind_of_error hrun]
      exact ⟨w.cursor, List.getElem?_set_self hlt, hindex⟩
  case skip => exact (hfailed rfl _).trans (run_skip_overflow_iff hv.fits hplain count)
  case rewind => exact (hfailed rfl _).trans (run_rewind_overflow_iff hv hplain count)
  case peek =>
    obtain ⟨w, hrun⟩ := (hfailed rfl _).1 hpeek
    obtain ⟨message, hfault⟩ := fault_of_run_peek (run_look_eq_error.1 hrun).1
    cases hfault
  case skipUntil =>
    obtain ⟨w, hrun⟩ := (hfailed rfl _).1 huntil
    rw [perform_apply hc, Operation.run, Action.run_bind_of_error hrun] at hsize
    have hleaves : Action.Ends (fun _ w => w.buffer.items.size ≤ lastPlace)
        ((skipUntil m).run ⟨s.buffer, c⟩) := by
      rw [hrun]
      exact hsize
    exact (Register.skipUntil_eq hv hplain m (Nat.le_refl _) (Nat.lt_succ_self _) hleaves).2 w hrun

end Session

/-- **Distances are exact, and looking agrees with moving.** From every state that a plain cursor
can be brought to over any source, a move is refused exactly when its target is no place, whatever
its distance; nothing that is reckoned wraps around; and where the text is not empty, the cursor
sees at every distance what its head finds when it is moved there. -/
theorem distances_are_exact {script : Source α} {s : Session α} (hs : s.Reached script) {i : Nat}
    {c : Cursor} (hc : s.cursors[i]? = some c) (hplain : c.position = none) :
    s.ReckonsDistances i c ∧ (0 ≤ c.index → ∀ offset, s.LooksAsMoves i c offset) := by
  have hstands := hs.stands c (List.mem_of_getElem? hc)
  refine ⟨Session.reckonsDistances hc hstands hplain, fun hindex offset => ?_⟩
  have hv : View.Stands ⟨s.buffer, c⟩ := hstands
  exact Session.looks_as_moves hc rfl rfl (hv.looks_as_moves hplain hindex offset)

/-- One letter before a source that fails: a count that no distance is of is refused, and moving
ahead fails with what looking ahead fails with. -/
theorem distances_are_exact_where_source_fails :
    ∃ s : Session Char,
      s.Reached [.element 'a', .failure "cut", .element 'b'] ∧
      s.cursors[0]? = some ⟨0, false, none⟩ ∧
      (s.perform (.apply 0 (.skip 9223372036854775808))).1 = .failed (.misuse .seekOverflow) ∧
      (s.perform (.apply 0 (.moveBy 1))).1 = .failed (.source "cut") := by
  have hreached : Session.Reached [.element 'a', .failure "cut", .element 'b']
      { buffer := {
          key := 0
          items := #['a']
          source := some [.failure "cut", .element 'b']
          config := .quiet
          pulls := 1 }
        cursors := [⟨0, false, none⟩] } :=
    ⟨.source _, 0, .quiet, false, _, [], rfl, rfl, by decide +kernel⟩
  obtain ⟨hreckons, hlooks⟩ := distances_are_exact hreached (i := 0) rfl rfl
  exact ⟨_, hreached, rfl, (hreckons.skip_iff _).2 (.inl (by decide)),
    ((hlooks (by decide) 1).fails_iff "cut").1 (by decide +kernel)⟩

end Rewind
