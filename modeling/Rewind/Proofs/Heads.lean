import Rewind.Proofs.Lines
import Rewind.Proofs.Tracking

/-!
# Heads stand on elements

A saved place is taken on trust, and a caller may make one up: with any index, any line and any
column, and with any distance to go from there. Lines and columns can be made wrong in this way,
but no head can be put where there is nothing. **Every head is on an element of the buffer, or
before an empty text for ever** (`heads_stand_on_elements`).

The head is put down without a look at the buffer in several ways, and a walk takes elements from
the buffer by their place. What would happen at a place that holds no element is told by the
tracker `Tracker.within`: it raises `Fault.unbuffered` there, and before a head is put down where it
may not be. **From a head that stands it cannot be told from the way in which cursors walk**, in any
move and in any operation (`Tracker.agrees_within`), so nothing is ever taken from such a place.
-/

namespace Rewind

variable {α β γ : Type}

open Cursor

/-! ### Standing -/

/-- Whether a head is on an element of the buffer or before an empty text, which is where it has
reached the end. -/
structure Cursor.StandsIn (c : Cursor) (b : Buffer α) : Prop where
  fits : Fits c.index
  place : b.holds c.index = true ∨
    c.index = -1 ∧ c.reachedEnd = true ∧ b.items = #[] ∧ b.source = none

namespace Cursor.StandsIn

variable {c : Cursor} {b b' : Buffer α}

/-- A head goes on standing where it is while the buffer grows. -/
theorem mono (h : c.StandsIn b) {told : List (Entry α)} (hb : b.Takes told b') :
    c.StandsIn b' where
  fits := h.fits
  place := by
    rcases h.place with hheld | ⟨hindex, hend, hitems, hsource⟩
    · exact .inl (hb.holds hheld)
    · obtain ⟨-, hitems', hsource'⟩ := hb.eq_of_exhausted hsource
      exact .inr ⟨hindex, hend, hitems'.trans hitems, hsource'⟩

/-- A head with an element behind it stands on one. -/
theorem holds (h : c.StandsIn b) (hindex : 0 ≤ c.index) : b.holds c.index = true := by
  rcases h.place with hheld | ⟨hempty, -⟩
  · exact hheld
  · omega

end Cursor.StandsIn

/-- Whether the head of a view stands. -/
def View.Stands (v : View α) : Prop :=
  v.cursor.StandsIn v.buffer

namespace Cursor

/-- The element under a head that stands on one is there to be had without a pull. -/
theorem run_current_of_holds {c : Cursor} {b : Buffer α} (hfits : Fits c.index)
    (hheld : b.holds c.index = true) :
    ∃ x, b.items[c.index.toNat]? = some x ∧ c.current.run b = .ok x b := by
  obtain ⟨hindex, hlt⟩ := Buffer.holds_iff.1 hheld
  have hplace : c.index.toNat < b.items.size := by omega
  have hadd : Offset.add? c.index 0 = some c.index := by
    rw [Offset.add?_eq_some_iff, Int.add_zero]
    exact ⟨hfits, rfl⟩
  have hpeek : (c.peek 0).run b = .ok b.items[c.index.toNat]? b := by
    rw [run_peek, hadd]
    simp only [if_neg (Int.not_lt.2 hindex)]
    exact Buffer.run_fetch_of_settles (.inl hplace)
  have hx := Array.getElem?_eq_getElem hplace
  refine ⟨_, hx, ?_⟩
  rw [current, sourceIsEmpty, decide_eq_false (Int.not_lt.2 hindex)]
  rw [if_neg Bool.false_ne_true, Action.run_bind_of_ok hpeek, hx]
  rfl

/-- Over an empty text there is no element to ask for. -/
theorem run_current_of_neg {c : Cursor} (b : Buffer α) (hindex : c.index < 0) :
    c.current.run b = .error (.misuse .emptySource) b := by
  rw [current, sourceIsEmpty, decide_eq_true hindex]
  rfl

end Cursor

/-! ### Taking elements only where there are some -/

namespace Buffer

/-- The element at a place. A place that holds none is a fault. -/
def element (b : Buffer α) (place : Nat) : Except Fault α :=
  match b.items[place]? with
  | some x => .ok x
  | none => .error (.unbuffered place)

theorem element_of_lt {b : Buffer α} {place : Nat} (h : place < b.items.size) :
    b.element place = .ok b.items[place] := by
  rw [element, Array.getElem?_eq_getElem h]

variable [LineElement α]

/-- Walk forward over `count` elements, the first of them at `place`. -/
def strideAhead (b : Buffer α) : (count place : Nat) → Position → Except Fault Position
  | 0, _, p => .ok p
  | count + 1, place, p => do
    let x ← b.element place
    b.strideAhead count (place + 1) (p.step b.feeds x)

/-- Walk backward from `place` over `count` elements. -/
def strideBack (b : Buffer α) : (count place : Nat) → Position → Except Fault Position
  | count + 1, place + 1, p => do
    let x ← b.element place
    if b.feeds x then
      if p.line = 0 then throw (.misuse .locationMismatch)
      else
        b.strideBack count place
          ⟨p.line - 1, Position.columnOf b.feeds (Position.behind b.items place)⟩
    else
      if p.column = 0 then throw (.misuse .locationMismatch)
      else b.strideBack count place ⟨p.line, p.column - 1⟩
  | _, _, p => .ok p

/-- The walk from one place to another. Both must be places of the buffer, unless they are one. -/
def walkWithin (b : Buffer α) (start stop : Int) (p : Position) : Except Fault Position :=
  if start = stop then .ok p
  else if start < 0 ∨ stop < 0 then .error (.unbuffered (min start stop))
  else if start ≤ stop then b.strideAhead (stop - start).toNat start.toNat p
  else b.strideBack (start - stop).toNat start.toNat p

/-- The check whether a line and a column can belong to a place. -/
def admitsWithin (b : Buffer α) (place : Nat) (p : Position) : Except Fault Bool :=
  if p.line ≤ place && p.column ≤ place then
    match place with
    | 0 => .ok (p.line = 0 && p.column = 0)
    | before + 1 => do return b.feeds (← b.element before) == decide (p.column = 0)
  else .ok false

variable {b : Buffer α}

/-- Where there are elements, walking forward takes them. -/
theorem strideAhead_eq {count place : Nat} (p : Position) (h : place + count ≤ b.items.size) :
    b.strideAhead count place p =
      .ok (p.forward b.feeds ((b.items.toList.drop place).take count)) := by
  induction count generalizing place p with
  | zero => rfl
  | succ count ih =>
    have hlt : place < b.items.toList.length := by
      rw [Array.length_toList]
      omega
    have hrest := ih (p.step b.feeds b.items[place]) (show place + 1 + count ≤ _ by omega)
    rw [List.drop_eq_getElem_cons hlt, List.take_succ_cons, strideAhead, element_of_lt (by omega)]
    exact hrest

/-- Where there are elements, walking backward takes them. -/
theorem strideBack_eq {count place : Nat} (p : Position) (h : place ≤ b.items.size) :
    b.strideBack count place p =
      match Position.back? b.feeds count (Position.behind b.items place) p with
      | some q => .ok q
      | none => .error (.misuse .locationMismatch) := by
  induction place generalizing count p with
  | zero =>
    have hbehind : Position.behind b.items 0 = [] := by simp [Position.behind]
    rw [hbehind]
    rcases count with _ | count <;> rfl
  | succ place ih =>
    have hx : b.items[place]? = some b.items[place] := Array.getElem?_eq_getElem (by omega)
    rw [Position.behind_succ hx]
    rcases count with _ | count
    · rfl
    rw [strideBack, element_of_lt (by omega), Position.back?]
    simp only [bind, Except.bind]
    by_cases hfeed : b.feeds b.items[place]
    · simp only [if_pos hfeed]
      split
      · rfl
      · exact ih _ (by omega)
    · simp only [if_neg hfeed]
      split
      · rfl
      · exact ih _ (by omega)

/-- **A walk between places of the buffer takes elements only where there are some.** -/
theorem walkWithin_eq {start stop : Int} (p : Position)
    (h : start = stop ∨ b.holds start = true ∧ b.holds stop = true) :
    b.walkWithin start stop p =
      match b.walk? start stop p with
      | some q => .ok q
      | none => .error (.misuse .locationMismatch) := by
  rcases h with rfl | ⟨hstart, hstop⟩
  · rw [walkWithin, if_pos rfl, walk?_self]
  rw [holds_iff] at hstart hstop
  rw [walkWithin, walk?, Position.walk?]
  by_cases hsame : start = stop
  · subst hsame
    simp [Position.forward]
  rw [if_neg hsame, if_neg (by omega)]
  by_cases hle : start ≤ stop
  · have hextract : (b.items.extract start.toNat stop.toNat).toList =
        (b.items.toList.drop start.toNat).take (stop - start).toNat := by
      rw [Array.toList_extract, List.extract_eq_take_drop]
      congr 1
      omega
    rw [if_pos hle, if_pos (by omega), strideAhead_eq p (by omega), hextract]
  · have hcount : (start - stop).toNat = start.toNat - stop.toNat := by omega
    rw [if_neg hle, if_neg (by omega), strideBack_eq p (by omega), hcount]

/-- **So does the check of a line and a column.** -/
theorem admitsWithin_eq {place : Nat} (p : Position) (h : place ≤ b.items.size) :
    b.admitsWithin place p = .ok (b.admits place p) := by
  unfold admitsWithin admits
  by_cases hbound : p.line ≤ place && p.column ≤ place
  · rw [if_pos hbound, hbound, Bool.true_and]
    rcases place with _ | before
    · rfl
    · have hx : b.items[before]? = some b.items[before] := Array.getElem?_eq_getElem (by omega)
      simp only [element_of_lt (show before < b.items.size by omega), hx, Option.any_some]
      rfl
  · rw [Bool.not_eq_true] at hbound
    rw [hbound, if_neg Bool.false_ne_true, Bool.false_and]

end Buffer

/-! ### Moves that take elements only where there are some -/

namespace Cursor

/-- Put the head on a place, which must hold an element. -/
def jumpWithin (target : Int) : Moving α Bool := fun v =>
  if v.buffer.holds target then (jump target).run v else .error (.unbuffered target) v

variable [LineElement α]

/-- Walk the line and the column along behind a head that has moved away from `c`; where the line
and the column do not fit, the head goes back. -/
def followWithin (c : Cursor) : Moving α Bool := fun v =>
  match c.position with
  | none => .ok true v
  | some p =>
    match v.buffer.walkWithin c.index v.cursor.index p with
    | .ok q => .ok true { v with cursor.position := some q }
    | .error (.misuse kind) =>
      (jumpWithin c.index >>= fun _ => (throw (.misuse kind) : Moving α Bool)).run v
    | .error fault => .error fault v

/-- Put a head that keeps lines onto `target`, with the line and column that a walk from the
place `start` ends with, where they are `p`. -/
def restoreWithin (start : Int) (p : Position) (target : Int) : Moving α Bool := fun v =>
  match v.buffer.admitsWithin start.toNat p with
  | .error fault => .error fault v
  | .ok false => .error (.misuse .locationMismatch) v
  | .ok true =>
    match v.buffer.walkWithin start target p with
    | .error fault => .error fault v
    | .ok q =>
      match (jumpWithin target).run v with
      | .ok moved w => .ok moved { w with cursor.position := some q }
      | .error fault w => .error fault w

omit [LineElement α] in
theorem run_jumpWithin {target : Int} {v : View α} (h : v.buffer.holds target = true) :
    (jumpWithin target).run v = .ok true { v with cursor.index := target } := by
  change jumpWithin target v = _
  rw [jumpWithin, if_pos h, run_jump]

/-- Between two places of the buffer, or where the head has stayed, following takes elements only
where there are some. -/
theorem run_followWithin {c : Cursor} {v : View α} (h : c.index = v.cursor.index ∨
    v.buffer.holds c.index = true ∧ v.buffer.holds v.cursor.index = true) :
    (followWithin c).run v = (follow c).run v := by
  change followWithin c v = follow c v
  rw [followWithin, follow]
  rcases c.position with _ | p
  · rfl
  simp only [Buffer.walkWithin_eq p h]
  rcases hwalk : v.buffer.walk? c.index v.cursor.index p with _ | q
  -- Only a walk that leads somewhere can fail to fit, so the head goes back to where it stood.
  · have hheld : v.buffer.holds c.index = true := by
      rcases h with hsame | ⟨hheld, -⟩
      · rw [hsame, walk?_self] at hwalk
        cases hwalk
      · exact hheld
    exact Action.run_bind_of_ok (run_jumpWithin hheld)
  · rfl

theorem run_restoreWithin {start target : Int} {p : Position} {v : View α}
    (hstart : v.buffer.holds start = true) (htarget : v.buffer.holds target = true) :
    (restoreWithin start p target).run v = (restore start p target).run v := by
  have hle : start.toNat ≤ v.buffer.items.size := by
    rw [Buffer.holds_iff] at hstart
    omega
  change restoreWithin start p target v = restore start p target v
  rw [restoreWithin, restore, Buffer.admitsWithin_eq p hle]
  rcases v.buffer.admits start.toNat p
  · rfl
  simp only [Buffer.walkWithin_eq p (.inr ⟨hstart, htarget⟩)]
  rcases v.buffer.walk? start target p with _ | q
  · rfl
  · simp only [run_jumpWithin htarget]
    rfl

/-- Following leaves the head where it is, unless it fails. -/
theorem eq_of_run_followWithin {c : Cursor} {v w : View α}
    (h : (followWithin c).run v = .ok true w) :
    w.buffer = v.buffer ∧ w.cursor.index = v.cursor.index := by
  change followWithin c v = _ at h
  rw [followWithin] at h
  split at h
  · cases h
    exact ⟨rfl, rfl⟩
  · split at h
    · cases h
      exact ⟨rfl, rfl⟩
    · obtain ⟨_, _, -, hthrow⟩ := Action.run_bind_eq_ok.1 h
      cases hthrow
    · cases h

end Cursor

/-- **Walking over the buffer alone**: no element is taken from a place that holds none, and no head
is put down there. -/
def Tracker.within [LineElement α] : Tracker α :=
  ⟨followWithin, restoreWithin, eq_of_run_followWithin⟩

namespace View.Stands

variable [LineElement α] {v : View α}

omit [LineElement α] in
/-- **From before an empty text there is nothing to be seen**, and nothing is pulled to see it. -/
theorem run_peek_of_neg (h : v.Stands) (hneg : v.cursor.index < 0) (offset : Int) :
    (look (·.peek offset)).run v = .ok none v := by
  obtain ⟨hindex, -, hitems, hsource⟩ := h.place.resolve_left fun hheld =>
    Int.not_lt.2 (Buffer.holds_iff.1 hheld).1 hneg
  refine run_look_eq_ok.2 ⟨?_, rfl⟩
  rw [Cursor.run_peek]
  split
  · rfl
  · next target _ =>
    split
    · rfl
    · rw [Buffer.run_fetch_of_settles (.inr hsource), hitems, Array.getElem?_empty]

omit [LineElement α] in
/-- A head that stands and then moves goes from one place of the buffer to another, or stays. -/
theorem holds_of_shift (h : v.Stands) {offset : Int} {w : View α}
    (hrun : (shift offset).run v = .ok true w) : v.cursor.index = w.cursor.index ∨
      w.buffer.holds v.cursor.index = true ∧ w.buffer.holds w.cursor.index = true := by
  by_cases h0 : offset = 0
  · rw [shift, if_pos h0] at hrun
    cases hrun
    exact .inl rfl
  rw [run_shift h0] at hrun
  split at hrun
  · cases hrun
  split at hrun
  · cases hrun
  next hinside =>
  have hheld : v.buffer.holds v.cursor.index = true := h.holds (by omega)
  split at hrun
  · next hback =>
    cases hrun
    refine .inr ⟨hheld, ?_⟩
    rw [Buffer.holds_iff] at hheld ⊢
    simp only
    omega
  next hforward =>
  rcases hensure : (Buffer.ensure (v.cursor.index + offset).toNat).run v.buffer with
    ⟨_ | _, b⟩ | ⟨fault, b⟩
  · rw [hensure] at hrun
    cases hrun
  · rw [hensure] at hrun
    cases hrun
    obtain ⟨⟨told, hb, -⟩, hsettles, hfound⟩ := Buffer.of_run_ensure hensure
    have hlt := of_decide_eq_true hfound.symm
    rw [← hb.whole_eq, hsettles.lt_iff] at hlt
    refine .inr ⟨hb.holds hheld, ?_⟩
    rw [Buffer.holds_iff]
    simp only
    omega
  · rw [hensure] at hrun
    cases hrun

/-- **From a head that stands, approaching a target in the buffer is going there.** -/
theorem run_approach_of_holds (h : v.Stands) {target : Int} (hfits : Fits target)
    (hheld : v.buffer.holds target = true) (hne : target ≠ v.cursor.index) :
    (approach target).run v = v.land target := by
  obtain ⟨hzero, hlt⟩ := Buffer.holds_iff.1 hheld
  -- Over an empty text no target is in the buffer.
  have hindex : 0 ≤ v.cursor.index := by
    rcases h.place with hplace | ⟨-, -, hitems, -⟩
    · exact (Buffer.holds_iff.1 hplace).1
    · rw [hitems] at hlt
      exact absurd hlt (Int.not_lt.2 hzero)
  have hdistance : Fits (target - v.cursor.index) := by
    have := h.fits
    unfold Fits at hfits this ⊢
    omega
  have hsum : v.cursor.index + (target - v.cursor.index) = target := by omega
  rw [run_approach, if_pos hdistance, run_moveBy, hsum, if_neg (by omega),
    if_neg (not_not_intro hfits), if_neg (by omega)]
  by_cases hback : target - v.cursor.index < 0
  · rw [if_pos hback]
  · rw [if_neg hback, Buffer.run_ensure_of_settles (.inl (by omega)), decide_eq_true (by omega)]

end View.Stands

/-! ### Operations -/

namespace View

/-- An action leaves a head standing that stood, and does not find it on no element. -/
def KeepsStanding (v : View α) (fault : Option Fault) (w : View α) : Prop :=
  v.Stands → w.Stands ∧ ∀ i, fault ≠ some (.unbuffered i)

/-- Heads that stand go on standing. -/
def standing : Judgement (View α) :=
  .ofRelation KeepsStanding (fun _ h => ⟨h, nofun⟩) fun _ _ _ _ h h' hv => h' (h hv).1

/-- Where the head stays and the buffer grows, only the fault is in question. -/
theorem KeepsStanding.of_takes {v w : View α} {told : List (Entry α)} {fault : Option Fault}
    (hb : v.buffer.Takes told w.buffer) (hcursor : w.cursor = v.cursor)
    (hfault : v.Stands → ∀ i, fault ≠ some (.unbuffered i)) : v.KeepsStanding fault w := by
  intro hv
  refine ⟨?_, hfault hv⟩
  rw [Stands, hcursor]
  exact Cursor.StandsIn.mono hv hb

/-- A head put onto a place that is held stands. -/
theorem KeepsStanding.of_holds {v w : View α} (hfits : Fits w.cursor.index)
    (hheld : w.buffer.holds w.cursor.index = true) : v.KeepsStanding none w :=
  fun _ => ⟨⟨hfits, .inl hheld⟩, nofun⟩

/-- A look leaves the head, so only its faults are in question. -/
theorem standing_look {f : Cursor → Peeking α β} {v : View α}
    (hpulling : Buffer.pulling.Holds (f v.cursor) v.buffer)
    (hfault : v.Stands → ∀ i b, (f v.cursor).run v.buffer ≠ .error (.unbuffered i) b) :
    standing.Holds (look f) v := by
  have hends := Judgement.ofRelation_iff.1 hpulling
  refine Judgement.ofRelation_of_run (run_look f v) ?_
  rcases hrun : (f v.cursor).run v.buffer with ⟨x, b⟩ | ⟨fault, b⟩
  · obtain ⟨told, hb, -⟩ := hends.of_ok hrun
    exact .of_takes hb rfl nofun
  · obtain ⟨told, hb, -⟩ := hends.of_error hrun
    refine .of_takes hb rfl fun hv i hi => hfault hv i b ?_
    cases hi
    exact hrun

variable [LineElement α]

/-- A head that arrives stands where it arrives, and one that cannot arrive stands where it was. -/
theorem keepsStanding_arrive {v w : View α} {told : List (Entry α)}
    (hb : v.buffer.Takes told w.buffer) (hcursor : w.cursor = v.cursor) (start : Int)
    (p : Position) {target : Int} (hfits : Fits target) (hheld : w.buffer.holds target = true) :
    Action.Ends (KeepsStanding v) (w.arrive start p target) := by
  rw [arrive]
  split
  · exact .of_holds hfits hheld
  · refine .of_takes hb hcursor fun _ _ hunbuffered => ?_
    cases hunbuffered

theorem keepsStanding_land {v w : View α} {told : List (Entry α)}
    (hb : v.buffer.Takes told w.buffer) (hcursor : w.cursor = v.cursor) {target : Int}
    (hfits : Fits target) (hheld : w.buffer.holds target = true) :
    Action.Ends (KeepsStanding v) (w.land target) := by
  rw [land]
  split
  · exact .of_holds hfits hheld
  · exact keepsStanding_arrive hb hcursor _ _ hfits hheld

omit [LineElement α] in
/-- Only heads that stand need to be looked at. -/
theorem standing_of_stands {x : Moving α β} {v : View α}
    (h : v.Stands → Action.Ends (KeepsStanding v) (x.run v)) : standing.Holds x v := by
  refine Judgement.ofRelation_iff.2 ?_
  by_cases hv : v.Stands
  · exact h hv
  · rcases x.run v with ⟨_, w⟩ | ⟨_, w⟩
    · exact fun hv' => absurd hv' hv
    · exact fun hv' => absurd hv' hv

theorem standing_moveBy (offset : Int) (v : View α) : standing.Holds (moveBy offset) v := by
  refine standing_of_stands fun hv => ?_
  have hends := Judgement.ofRelation_iff.1
    (Buffer.pulling_ensure (v.cursor.index + offset).toNat v.buffer)
  refine moveBy_cases offset v ?stay ?overflow ?outside ?back ?ahead ?ended ?failed
  case stay =>
    exact fun _ => .of_takes (.refl _) rfl nofun
  case overflow =>
    exact fun _ => .of_takes (.refl _) rfl nofun
  case outside =>
    exact fun _ => .of_takes (.refl _) rfl nofun
  -- Backward, everything is held already.
  case back =>
    intro hfits hback hzero
    have hheld : v.buffer.holds v.cursor.index = true := hv.holds (by omega)
    refine keepsStanding_land (.refl _) rfl hfits ?_
    rw [Buffer.holds_iff] at hheld ⊢
    omega
  -- Forward, the place has been found.
  case ahead =>
    intro b hfits hindex hpos hrun
    obtain ⟨⟨told, hb, -⟩, hsettles, hfound⟩ := Buffer.of_run_ensure hrun
    have hlt := of_decide_eq_true hfound.symm
    rw [← hb.whole_eq, hsettles.lt_iff] at hlt
    have hheld : b.holds (v.cursor.index + offset) = true := by
      rw [Buffer.holds_iff]
      omega
    exact keepsStanding_land (w := ⟨b, v.cursor⟩) hb rfl hfits hheld
  case ended =>
    intro b hindex hpos hrun _
    obtain ⟨told, hb, -⟩ := hends.of_ok hrun
    exact ⟨⟨hv.fits, .inl (hb.holds (hv.holds hindex))⟩, nofun⟩
  case failed =>
    intro fault b _ _ hrun
    obtain ⟨told, hb, -⟩ := hends.of_error hrun
    obtain ⟨m, rfl⟩ := Buffer.fault_of_run_ensure hrun
    exact .of_takes hb rfl nofun

/-- **Seeking any place leaves a head standing**, whatever is said of its line and column. -/
theorem standing_moveTo (place : Location) (offset : Int) (v : View α) :
    standing.Holds (moveTo place offset) v := by
  refine Judgement.ofRelation_iff.2 (moveTo_cases place offset v
    ?overflow ?there ?straight ?restored ?unfit ?distant)
  case overflow =>
    exact .of_takes (.refl _) rfl nofun
  case there =>
    exact fun _ => .of_takes (.refl _) rfl nofun
  case straight =>
    exact fun hfits _ hheld => .of_holds hfits hheld
  case restored =>
    exact fun _ p hfits _ _ _ hheld _ => keepsStanding_arrive (.refl _) rfl _ p hfits hheld
  case unfit =>
    exact fun _ _ _ _ _ _ => .of_takes (.refl _) rfl nofun
  case distant =>
    exact Judgement.ofRelation_iff.1 (standing_moveBy _ v)

theorem standing_covers : Judgement.Covers (standing (α := α)) where
  raise _ _ v := Judgement.ofRelation_of_run rfl (.of_takes (.refl v.buffer) rfl nofun)
  sourceIsEmpty v := Judgement.ofRelation_of_run rfl (.of_takes (.refl v.buffer) rfl nofun)
  peek offset v := by
    refine standing_look (pulling_peek v.cursor offset v.buffer) fun _ i b hrun => ?_
    obtain ⟨m, hm⟩ := Cursor.fault_of_run_peek hrun
    cases hm
  current v := by
    refine standing_look (pulling_current v.cursor v.buffer) fun hv i b hrun => ?_
    by_cases hindex : v.cursor.index < 0
    · rw [Cursor.run_current_of_neg _ hindex] at hrun
      cases hrun
    · obtain ⟨x, -, hok⟩ := Cursor.run_current_of_holds hv.fits (hv.holds (by omega))
      rw [hok] at hrun
      cases hrun
  text v := by
    refine standing_look (Buffer.pulling_text v.buffer) fun _ i b hrun => ?_
    obtain ⟨m, hm⟩ := Buffer.fault_of_run_text hrun
    cases hm
  moveBy := standing_moveBy

theorem standing_glance [DecidableEq α] {operation : Operation α} (h : operation.IsGlance)
    (v : View α) : standing.Holds operation.run v := by
  obtain ⟨reply, hrun⟩ := h.run_eq v
  exact Judgement.ofRelation_of_run hrun (.of_takes (.refl v.buffer) rfl nofun)

/-- **Every operation leaves a head standing.** -/
theorem standing_run [DecidableEq α] (operation : Operation α) (v : View α) :
    standing.Holds operation.run v :=
  standing_covers.run operation v (standing_glance · v) fun place offset _ =>
    standing_moveTo place offset v

end View

/-- **No operation that starts from a head that stands leaves the buffer on the way.** -/
theorem Tracker.agrees_within [LineElement α] :
    within.Agrees View.standing View.Stands fun _ : View α => True where
  covers := View.standing_covers
  glance := View.standing_glance
  seek := View.standing_moveTo
  lasts h := (Judgement.ofRelation_iff.1 h).imp fun _ _ hw =>
    ⟨fun hv => (hw hv).1, fun _ => trivial⟩
  follow hv hu _ := run_followWithin (hv.holds_of_shift hu)
  restore _ hstart htarget _ := run_restoreWithin hstart htarget

/-! ### Sessions -/

namespace Session

/-- Whether every head of a session stands. -/
def Stands (s : Session α) : Prop :=
  ∀ c ∈ s.cursors, c.StandsIn s.buffer

/-- Whether a session is one over an empty text: nothing was or will be pulled, and every cursor is
before the text and has reached its end. -/
structure Vacant (s : Session α) : Prop where
  items_eq : s.buffer.items = #[]
  exhausted : s.buffer.exhausted = true
  cursor : ∀ c ∈ s.cursors, c.index = -1 ∧ c.reachedEnd = true

variable {s : Session α}

/-- While the buffer grows all heads go on standing. -/
theorem Stands.mono (h : s.Stands) {b : Buffer α} {told : List (Entry α)}
    (hb : s.buffer.Takes told b) (remainders : List Remaining) :
    Stands ⟨b, s.cursors, remainders⟩ :=
  fun c hc => (h c hc).mono hb

/-- While the buffer grows and one cursor is replaced by another that stands, all do. -/
theorem Stands.set (h : s.Stands) {b : Buffer α} {told : List (Entry α)}
    (hb : s.buffer.Takes told b) {c : Cursor} (hc : c.StandsIn b) (i : Nat)
    (remainders : List Remaining) : Stands ⟨b, s.cursors.set i c, remainders⟩ := by
  intro d hd
  rcases List.mem_or_eq_of_mem_set hd with hd | rfl
  · exact (h d hd).mono hb
  · exact hc

/-- Heads that stand over a buffer without elements are before an empty text. -/
theorem Stands.vacant (h : s.Stands) (hitems : s.buffer.items = #[])
    (hsource : s.buffer.source = none) : s.Vacant where
  items_eq := hitems
  exhausted := by rw [Buffer.exhausted, hsource]; rfl
  cursor c hc := by
    rcases (h c hc).place with hheld | ⟨hindex, hend, -⟩
    · rw [Buffer.holds_iff, hitems] at hheld
      exact absurd hheld.2 (Int.not_lt.2 hheld.1)
    · exact ⟨hindex, hend⟩

variable [LineElement α] [DecidableEq α]

/-- **Every command leaves all heads standing**, and finds none on no element. -/
theorem Stands.perform (h : s.Stands) (command : Command α) :
    (s.perform command).2.Stands ∧ ∀ i, (s.perform command).1 ≠ .failed (.unbuffered i) := by
  have hoperation (operation : Operation α) (c : Cursor) :=
    Judgement.ofRelation_iff.1 (View.standing_run operation ⟨s.buffer, c⟩)
  have hpulls (operation : Operation α) (c : Cursor) :=
    Judgement.ofRelation_iff.1 (View.pulling_run operation ⟨s.buffer, c⟩)
  have hfetch (r : Remaining) :=
    Judgement.ofRelation_iff.1 (Buffer.pulling_fetch r.landing s.buffer)
  refine perform_cases (P := fun r => r.2.Stands ∧ ∀ i, r.1 ≠ .failed (.unbuffered i)) s command
    ?absent ?applied ?failed ?forked ?begun ?advanced ?ended ?broken
  case absent =>
    exact fun _ => ⟨h, nofun⟩
  case applied =>
    intro i operation c reply w _ hc hrun
    obtain ⟨hw, -⟩ := (hoperation operation c).of_ok hrun (h c (List.mem_of_getElem? hc))
    obtain ⟨told, hb, -⟩ := (hpulls operation c).of_ok hrun
    exact ⟨h.set hb hw i _, nofun⟩
  case failed =>
    intro i operation c fault w _ hc hrun
    obtain ⟨hw, hfault⟩ := (hoperation operation c).of_error hrun (h c (List.mem_of_getElem? hc))
    obtain ⟨told, hb, -⟩ := (hpulls operation c).of_error hrun
    refine ⟨h.set hb hw i _, fun k hk => hfault k ?_⟩
    cases hk
    rfl
  case forked =>
    intro i c change hcommand hc
    have hb : s.buffer.Takes [] (s.buffer.record (.forked c.index)) := .of_record (.refl _) _
    have hstands := h c (List.mem_of_getElem? hc)
    -- Without its lines a head is where it was.
    have hchange : (change c).StandsIn s.buffer := by
      rcases hcommand with ⟨-, rfl⟩ | ⟨-, rfl⟩
      · exact hstands
      · exact ⟨hstands.fits, hstands.place⟩
    refine ⟨fun d hd => ?_, nofun⟩
    rw [List.mem_append, List.mem_singleton] at hd
    rcases hd with hd | rfl
    · exact (h d hd).mono hb
    · exact hchange.mono hb
  case begun =>
    exact fun _ _ _ _ _ _ => ⟨h, nofun⟩
  case advanced =>
    intro j r x b _ _ hrun
    obtain ⟨told, hb, -⟩ := (hfetch r).of_ok hrun
    exact ⟨h.mono hb _, nofun⟩
  case ended =>
    intro j r b _ _ hrun
    obtain ⟨told, hb, -⟩ := (hfetch r).of_ok hrun
    exact ⟨h.mono hb _, nofun⟩
  case broken =>
    intro j r fault b _ _ hrun
    obtain ⟨told, hb, -⟩ := (hfetch r).of_error hrun
    obtain ⟨m, rfl⟩ := Buffer.fault_of_run_fetch hrun
    exact ⟨h.mono hb _, nofun⟩

/-- **Every run leaves all heads standing.** -/
theorem Stands.run (h : s.Stands) (commands : List (Command α)) :
    (s.run commands).2.Stands ∧ ∀ i, .failed (.unbuffered i) ∉ (s.run commands).1 := by
  induction commands generalizing s with
  | nil => exact ⟨h, fun _ => List.not_mem_nil⟩
  | cons command rest ih =>
    obtain ⟨hfirst, hfault⟩ := h.perform command
    obtain ⟨hrest, hfaults⟩ := ih hfirst
    refine ⟨hrest, fun i hi => ?_⟩
    rw [run_cons, List.mem_cons] at hi
    rcases hi with hi | hi
    · exact hfault i hi.symm
    · exact hfaults i hi

omit [LineElement α] [DecidableEq α] in
/-- The head of a cursor that has just been opened stands. -/
theorem Stands.start {o : Opening α} {key : Nat} {config : Config} {keepsLines : Bool}
    {v : View α} (hopen : o.open? key config keepsLines = .ok v) : (start v).Stands := by
  intro c hc
  rw [o.open?_eq] at hopen
  obtain ⟨-, hsettles, hcursor⟩ := View.of_open? hopen
  simp only [Session.start, List.mem_singleton] at hc ⊢
  rw [hc, hcursor, Cursor.atStart]
  by_cases hempty : v.buffer.items.isEmpty
  · have hitems := Array.isEmpty_iff.1 hempty
    have hsource : v.buffer.source = none := by
      rcases hsettles with hlt | hsource
      · rw [hitems] at hlt
        exact absurd hlt (Nat.not_lt_zero _)
      · exact hsource
    rw [if_pos hempty]
    exact ⟨show Fits (-1) by decide, .inr ⟨rfl, rfl, hitems, hsource⟩⟩
  · have hheld : v.buffer.holds 0 = true := by
      rw [Array.isEmpty_iff_size_eq_zero] at hempty
      rw [Buffer.holds_iff]
      omega
    rw [if_neg hempty]
    exact ⟨show Fits 0 by decide, .inl hheld⟩

/-- All heads of a reached session stand. -/
theorem Reached.stands {script : Source α} (h : s.Reached script) : s.Stands := by
  obtain ⟨o, key, config, keepsLines, v, commands, rfl, hopen, rfl⟩ := h
  exact ((Stands.start hopen).run commands).1

/-- What there is to say of where the heads of a session are, once commands have come to
`outcomes`. -/
structure Grounded (outcomes : List (Outcome α)) (s : Session α) : Prop where
  /-- The session is over an empty text and stays so, or each head is on an element. -/
  place : (∀ later, (s.run later).2.Vacant) ∨
    ∀ c ∈ s.cursors, 0 ≤ c.index ∧ c.index < s.buffer.items.size
  /-- The element under a head is there to be had without a pull, unless the text is empty. -/
  current : ∀ c ∈ s.cursors,
    c.index = -1 ∧ c.current.run s.buffer = .error (.misuse .emptySource) s.buffer ∨
      0 ≤ c.index ∧ ∃ x, s.buffer.items[c.index.toNat]? = some x ∧
        c.current.run s.buffer = .ok x s.buffer
  /-- No command found a head on no element. -/
  buffered : ∀ i, .failed (.unbuffered i) ∉ outcomes
  /-- A move by a distance takes no element from a place that holds none, and puts the head down on
  no such place: it comes to the same as the move that refuses this. -/
  moveBy : ∀ c ∈ s.cursors, ∀ offset,
    (Tracker.within.moveBy offset).run ⟨s.buffer, c⟩ = (Cursor.moveBy offset).run ⟨s.buffer, c⟩
  /-- Nor does a move onto a place, made up or not. -/
  moveTo : ∀ c ∈ s.cursors, ∀ place offset,
    (Tracker.within.moveTo place offset).run ⟨s.buffer, c⟩ =
      (Cursor.moveTo place offset).run ⟨s.buffer, c⟩
  /-- Nor does any other move that an operation makes on its way. -/
  operation : ∀ c ∈ s.cursors, ∀ operation : Operation α,
    (Tracker.within.run operation).run ⟨s.buffer, c⟩ = operation.run.run ⟨s.buffer, c⟩

theorem Stands.place (h : s.Stands) : (∀ later, (s.run later).2.Vacant) ∨
    ∀ c ∈ s.cursors, 0 ≤ c.index ∧ c.index < s.buffer.items.size := by
  by_cases hall : ∃ c ∈ s.cursors, ¬ s.buffer.holds c.index = true
  -- One head is before an empty text, so the buffer is closed without elements, and stays so.
  · obtain ⟨c, hc, hunheld⟩ := hall
    obtain ⟨-, -, hitems, hsource⟩ := (h c hc).place.resolve_left hunheld
    refine .inl fun later => ?_
    obtain ⟨told, hb, -⟩ := s.run_takes later
    obtain ⟨-, hitems', hsource'⟩ := hb.eq_of_exhausted hsource
    exact (h.run later).1.vacant (hitems'.trans hitems) hsource'
  · refine .inr fun c hc => Buffer.holds_iff.1 (Decidable.not_not.1 fun hunheld => ?_)
    exact hall ⟨c, hc, hunheld⟩

omit [LineElement α] [DecidableEq α] in
theorem Stands.current (h : s.Stands) {c : Cursor} (hc : c ∈ s.cursors) :
    c.index = -1 ∧ c.current.run s.buffer = .error (.misuse .emptySource) s.buffer ∨
      0 ≤ c.index ∧ ∃ x, s.buffer.items[c.index.toNat]? = some x ∧
        c.current.run s.buffer = .ok x s.buffer := by
  have hstands := h c hc
  rcases hstands.place with hheld | ⟨hindex, -⟩
  · exact .inr ⟨(Buffer.holds_iff.1 hheld).1, run_current_of_holds hstands.fits hheld⟩
  · exact .inl ⟨hindex, run_current_of_neg s.buffer (by omega)⟩

end Session

/-- **Every head is on an element.** A cursor that has been opened and everything made from it,
carried through any commands, any of them sent to any place with any line and column: its head is
on an element of the buffer, or the text is empty and all heads stay before it. -/
theorem heads_stand_on_elements [LineElement α] [DecidableEq α] (o : Opening α) (key : Nat)
    (config : Config) (keepsLines : Bool) {v : View α}
    (hopen : o.open? key config keepsLines = .ok v) (commands : List (Command α)) :
    ((Session.start v).run commands).2.Grounded ((Session.start v).run commands).1 := by
  obtain ⟨hstands, hbuffered⟩ := (Session.Stands.start hopen).run commands
  refine ⟨hstands.place, fun c hc => hstands.current hc, hbuffered, ?moveBy, ?moveTo, ?operation⟩
  case moveBy =>
    intro c hc offset
    exact (Tracker.agrees_within.moveBy offset _).run_eq_of_forall (hstands c hc) fun _ => trivial
  case moveTo =>
    intro c hc place offset
    exact (Tracker.agrees_within.moveTo place offset _).run_eq_of_forall (hstands c hc)
      fun _ => trivial
  case operation =>
    intro c hc operation
    exact (Tracker.agrees_within.run operation _).run_eq_of_forall (hstands c hc) fun _ => trivial

/-- A head that is sent to a made-up line and walks back from there to the start, and a fork that is
refused another made-up line and then sent to a place far outside. -/
theorem heads_stand_on_elements_misled :
    ∃ (v : View Char) (commands : List (Command Char)),
      commands = [.apply 0 (.moveBy 2), .apply 0 (.moveBy 2),
        .apply 0 (.moveTo ⟨2, some ⟨2, 0⟩⟩ (-2)), .fork 0,
        .apply 1 (.moveTo ⟨2, some ⟨0, 0⟩⟩ (-1)), .apply 1 (.moveTo ⟨-7, some ⟨3, 9⟩⟩ 90)] ∧
      (Opening.source [.element 'a', .failure "lost", .element '\n', .element 'b']).open? 0 .quiet
        true = .ok v ∧
      ((Session.start v).run commands).1 = [.failed (.source "lost"), .answered (.verdict true),
        .answered (.verdict true), .answered (.number 1), .failed (.misuse .locationMismatch),
        .answered (.verdict false)] ∧
      ((Session.start v).run commands).2.cursors =
        [⟨0, false, some ⟨1, 0⟩⟩, ⟨0, true, some ⟨1, 0⟩⟩] ∧
      ((Session.start v).run commands).2.Grounded ((Session.start v).run commands).1 :=
  ⟨_, _, rfl, rfl, by decide +kernel, by decide +kernel, heads_stand_on_elements
    (.source [.element 'a', .failure "lost", .element '\n', .element 'b']) 0 .quiet true rfl _⟩

end Rewind
