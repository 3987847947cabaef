import Rewind.Proofs.Moves

/-!
# Other ways to walk lines and columns along

A head is put down without a thought for lines, and its line and column are then walked there. What
such a walk may rely on is best told by another one, which checks that before every step. A
`Tracker` is a way to walk, and `Tracker.run` is what an operation does when **all its moves, those
in the middle of runs included, walk in that way**. Walking as cursors do, it does what the
operation does (`Tracker.run_plain`).

A tracker agrees with cursors when it walks as they do from every head that can be met on the way,
and then **no operation can tell it from them** (`Tracker.Agrees.run`). Which heads can be met is
for a judgement to say, and it may be assumed of what an operation leaves that it is within bounds.
-/

namespace Rewind

variable {α β γ : Type}

open Cursor

/-- A way to walk lines and columns along. -/
structure Tracker (α : Type) where
  /-- Walk along behind a head that has moved away from a cursor. -/
  follow (c : Cursor) : Moving α Bool
  /-- Put the head onto `target`, with the line and column that a walk from the place `start` ends
  with, where they are `p`. -/
  restore (start : Int) (p : Position) (target : Int) : Moving α Bool
  /-- Who follows a head does not move it. -/
  stays {c : Cursor} {v w : View α} (h : (follow c).run v = .ok true w) :
    w.buffer = v.buffer ∧ w.cursor.index = v.cursor.index

namespace Tracker

/-! ### Moves -/

section Moves

variable (t : Tracker α)

/-- Move the head by a distance. -/
def moveBy (offset : Int) : Moving α Bool := do
  let c ← head
  if ← shift offset then t.follow c else pure false

/-- Move the head onto a place by the distance to it. -/
def approach (target : Int) : Moving α Bool := do
  let c ← head
  t.moveBy (← Offset.orOverflow (Offset.sub? target c.index))

/-- Move the head onto the place `offset` away from a saved one. -/
def moveTo (place : Location) (offset : Int) : Moving α Bool := do
  let target ← Offset.orOverflow (Offset.add? place.index offset)
  let v ← get
  if target = v.cursor.index then pure true
  else
    match v.cursor.position, place.position with
    | none, _ => if v.buffer.holds target then jump target else t.approach target
    | some _, none => t.approach target
    | some _, some p =>
      if v.buffer.holds place.index && v.buffer.holds target then t.restore place.index p target
      else t.approach target

/-- Move the head forward over `count` elements. -/
def skip (count : Nat) : Moving α Bool := do
  t.moveBy (← Offset.orOverflow (Offset.ofCount? count))

/-- Move the head back over `count` elements. -/
def rewind (count : Nat) : Moving α Bool := do
  t.moveBy (-(← Offset.orOverflow (Offset.ofCount? count)))

end Moves

/-! ### Reads -/

section Reads

variable (t : Tracker α)

/-- Answer `x` if the head advances by one. -/
def advanceWith (x : α) : Moving α (Option α) := do
  return if ← t.moveBy 1 then some x else none

/-- Consume the element under the head. -/
def read : Moving α (Option α) := do
  match ← look (·.peek 0) with
  | none => pure none
  | some x => t.advanceWith x

/-- Step onto the next element and answer it. -/
def readNext : Moving α (Option α) := do
  if ← t.moveBy 1 then look (·.peek 0) else pure none

/-- Look at the element `offset` places from the head and advance by one if it passes a test. -/
def advanceIf (p : α → Bool) (offset : Int) : Moving α (Option α) := do
  match ← look (·.peek offset) with
  | none => pure none
  | some x => if p x then t.advanceWith x else pure none

variable {t}

/-- Advancing by one makes progress. -/
theorem ahead_lt_of_moveBy {v w : View α} (h : (t.moveBy 1).run v = .ok true w) :
    w.ahead < v.ahead := by
  rw [moveBy, Action.run_bind_of_ok (run_head v), Action.run_bind_eq_ok] at h
  obtain ⟨_ | _, u, hshift, hfollow⟩ := h
  · cases hfollow
  obtain ⟨hbuffer, hindex⟩ := t.stays hfollow
  obtain ⟨hahead, hreach, hlt⟩ := index_of_shift (by decide) hshift
  have hsize := u.buffer.size_le_reach
  simp only [View.ahead, hbuffer, hindex]
  omega

/-- So does looking at one element and advancing. -/
theorem ahead_lt_of_advanceIf {p : α → Bool} {offset : Int} {v w : View α} {x : α}
    (h : (t.advanceIf p offset).run v = .ok (some x) w) : w.ahead < v.ahead := by
  rw [advanceIf, Action.run_bind_eq_ok] at h
  obtain ⟨_ | y, u, hpeek, hadvance⟩ := h
  · cases hadvance
  by_cases hp : p y
  · simp only [if_pos hp, advanceWith, Action.run_bind_eq_ok] at hadvance
    obtain ⟨_ | _, w', hmove, hsome⟩ := hadvance
    · cases hsome
    cases hsome
    obtain ⟨hlook, hcursor⟩ := run_look_eq_ok.1 hpeek
    have hlt := ahead_lt_of_moveBy hmove
    have hreach := (reach_le_of_peek hlook).1
    simp only [View.ahead, hcursor] at hlt ⊢
    omega
  · simp only [if_neg hp] at hadvance
    cases hadvance

variable (t)

/-- Looking at one element and advancing, as a step of a run. -/
def reader (p : α → Bool) (offset : Int) : Reader α α where
  read := t.advanceIf p offset
  ahead_lt := ahead_lt_of_advanceIf

variable [DecidableEq α]

/-- Advance over a pattern that starts `offset` places from the head. -/
def consume (offset : Int) (pattern : List α) : Moving α Bool := do
  if ← look (·.matchesAt offset pattern) then t.skip pattern.length else pure false

/-- Advance past elements while they pass a test; whether there were any. -/
def skipWhile (m : Matcher α) : Moving α Bool := do
  return !(← (t.reader m.accepts 0).many).isEmpty

/-- Move the head onto the first element, the one under it included, that passes a test. -/
def skipUntil (m : Matcher α) : Moving α Bool := do
  let scanned ← look (·.scan (fun x => !m.accepts x) 0)
  if scanned.stop.isSome then t.skip scanned.passed.length else pure false

/-- Skip blanks; whether there were any. -/
def skipBlank (blank : α → Bool) (endCounts : Bool) : Moving α Bool := do
  if ← t.skipWhile (.satisfying blank) then pure true
  else if !endCounts then pure false
  else if (← head).sourceIsEmpty then pure true
  else
    match ← look (·.peek 0) with
    | none => pure false
    | some x => if blank x then look (·.isAtEnd) else pure false

omit [DecidableEq α] in
/-- Consume a word. -/
def readWord (starts continues : α → Bool) : Moving α (Option (List α)) := do
  match ← look (·.peek 0) with
  | none => pure none
  | some x =>
    if starts x then do
      let scanned ← look (·.scan continues 1)
      return if ← t.skip (scanned.passed.length + 1) then some (x :: scanned.passed) else none
    else pure none

variable [LineElement α]

/-- What an operation does when its moves walk lines and columns along in this way. -/
def run : Operation α → Moving α (Reply α)
  | .moveBy offset => return .verdict (← t.moveBy offset)
  | .moveTo place offset => return .verdict (← t.moveTo place offset)
  | .reset place => return .verdict (← t.moveTo place 0)
  | .skip count => return .verdict (← t.skip count)
  | .rewind count => return .verdict (← t.rewind count)
  | .read => return .element (← t.read)
  | .readIf m => return .element (← t.advanceIf m.accepts 0)
  | .readSeq pattern => return .verdict (← t.consume 0 pattern)
  | .readNext => return .element (← t.readNext)
  | .readNextIf m => return .element (← t.advanceIf m.accepts 1)
  | .readNextSeq pattern => return .verdict (← t.consume 1 pattern)
  | .readWhile m => return .run (← (t.reader m.accepts 0).many)
  | .readNextWhile m => return .run (← (t.reader m.accepts 1).many)
  | .skipWhile m => return .verdict (← t.skipWhile m)
  | .skipUntil m => return .verdict (← t.skipUntil m)
  | .skipBlank blank endCounts => return .verdict (← t.skipBlank blank endCounts)
  | .readWord starts continues => return .word (← t.readWord starts continues)
  | operation => operation.run

end Reads

/-! ### As cursors walk -/

section Plain

variable [LineElement α]

/-- The way in which cursors walk. -/
def plain : Tracker α where
  follow := Cursor.follow
  restore := Cursor.restore
  stays {c v w} h := by
    change Cursor.follow c v = _ at h
    rw [Cursor.follow] at h
    split at h
    · cases h
      exact ⟨rfl, rfl⟩
    · split at h
      · cases h
        exact ⟨rfl, rfl⟩
      · cases h

/-- **Walking as cursors do, operations are what they are.** -/
theorem run_plain [DecidableEq α] (operation : Operation α) :
    plain.run operation = operation.run := by
  cases operation <;> rfl

end Plain

/-! ### Trackers that agree with cursors -/

section Agreement

/-- Two actions that come to the same from a view of which `I` holds, if `S` holds of what is left.
The first is one of which a judgement holds. -/
structure Same (J : Judgement (View α)) (I S : View α → Prop) (x y : Moving α β) (v : View α) :
    Prop where
  holds : J.Holds x v
  run_eq : I v → Action.Ends (fun _ w => S w) (x.run v) → y.run v = x.run v

/-- A tracker that walks as cursors do wherever `I` holds, if `S` holds of what is left. A judgement
that holds of all operations says where that is: `I` lasts, and `S` has held before. -/
structure Agrees [LineElement α] (t : Tracker α) (J : Judgement (View α)) (I S : View α → Prop) :
    Prop where
  covers : J.Covers
  glance {operation : Operation α} [DecidableEq α] (h : operation.IsGlance) (v : View α) :
    J.Holds operation.run v
  seek (place : Location) (offset : Int) (v : View α) : J.Holds (Cursor.moveTo place offset) v
  lasts {β : Type} {x : Moving α β} {v : View α} (h : J.Holds x v) :
    Action.Ends (fun _ w => (I v → I w) ∧ (S w → S v)) (x.run v)
  follow {v u : View α} {offset : Int} (hv : I v) (hu : (shift offset).run v = .ok true u)
    (hends : Action.Ends (fun _ w => S w) ((Cursor.follow v.cursor).run u)) :
    (t.follow v.cursor).run u = (Cursor.follow v.cursor).run u
  restore {v : View α} {start target : Int} {p : Position} (hv : I v)
    (hstart : v.buffer.holds start = true) (htarget : v.buffer.holds target = true)
    (hends : Action.Ends (fun _ w => S w) ((Cursor.restore start p target).run v)) :
    (t.restore start p target).run v = (Cursor.restore start p target).run v

namespace Same

variable {J : Judgement (View α)} {I S : View α → Prop} {x y x' y' : Moving α β} {v : View α}

theorem refl (h : J.Holds x v) : Same J I S x x v :=
  ⟨h, fun _ _ => rfl⟩

/-- Where nothing is asked of what is left, the two come to the same from every view of which `I`
holds. -/
theorem run_eq_of_forall (h : Same J I S x y v) (hv : I v) (hleft : ∀ w, S w) :
    y.run v = x.run v :=
  h.run_eq hv (.of_forall (fun _ w => hleft w) _)

theorem ite {p : Prop} [Decidable p] (hx : p → Same J I S x x' v) (hy : ¬ p → Same J I S y y' v) :
    Same J I S (if p then x else y) (if p then x' else y') v := by
  split
  · next hp => exact hx hp
  · next hp => exact hy hp

end Same

namespace Agrees

variable [LineElement α] {t : Tracker α} {J : Judgement (View α)} {I S : View α → Prop}
  (h : t.Agrees J I S)

include h

theorem seq {x x' : Moving α β} {f f' : β → Moving α γ} {v : View α} (hx : Same J I S x x' v)
    (hf : ∀ b w, x.run v = .ok b w → Same J I S (f b) (f' b) w) :
    Same J I S (x >>= f) (x' >>= f') v := by
  refine ⟨J.seq hx.holds fun b w hrun => (hf b w hrun).holds, fun hv hends => ?_⟩
  rcases hrun : x.run v with ⟨b, w⟩ | ⟨fault, w⟩
  · rw [Action.run_bind_of_ok hrun] at hends ⊢
    have hw := hf b w hrun
    -- What holds in the end has held before the second action.
    obtain ⟨-, u, ⟨-, hbefore⟩, hu⟩ := ((h.lasts hw.holds).and hends).exists
    have hfirst : x'.run v = x.run v := hx.run_eq hv (by rw [hrun]; exact hbefore hu)
    rw [Action.run_bind_of_ok (hfirst.trans hrun)]
    exact hw.run_eq (((h.lasts hx.holds).of_ok hrun).1 hv) hends
  · rw [Action.run_bind_of_error hrun] at hends ⊢
    have hfirst : x'.run v = x.run v := hx.run_eq hv (by rw [hrun]; exact hends)
    exact Action.run_bind_of_error (hfirst.trans hrun)

theorem map {x x' : Moving α β} {v : View α} (hx : Same J I S x x' v) (g : β → γ) :
    Same J I S (do return g (← x)) (do return g (← x')) v :=
  h.seq hx fun _ w _ => .refl (J.done _ w)

/-! ### Moves -/

theorem moveBy (offset : Int) (v : View α) :
    Same J I S (Cursor.moveBy offset) (t.moveBy offset) v := by
  refine ⟨h.covers.moveBy offset v, fun hv hends => ?_⟩
  refine Action.run_bind_congr fun c w hc => Action.run_bind_congr fun moved u hu => ?_
  cases hc
  rcases moved
  · rfl
  rw [run_moveBy_of_shift hu] at hends
  exact h.follow hv hu hends

theorem run_approach {v : View α} {target : Int} (hv : I v)
    (hends : Action.Ends (fun _ w => S w) ((Cursor.approach target).run v)) :
    (t.approach target).run v = (Cursor.approach target).run v := by
  refine Action.run_bind_congr fun c w hc => Action.run_bind_congr fun offset u hu => ?_
  cases hc
  have happroach : (Cursor.approach target).run v = (Cursor.moveBy offset).run u := by
    rw [Cursor.approach, Action.run_bind_of_ok (run_head v), Action.run_bind_of_ok hu]
  obtain ⟨-, rfl⟩ := Action.run_orOverflow_eq_ok.1 hu
  rw [happroach] at hends
  exact (h.moveBy offset v).run_eq hv hends

theorem moveTo (place : Location) (offset : Int) (v : View α) :
    Same J I S (Cursor.moveTo place offset) (t.moveTo place offset) v := by
  refine ⟨h.seek place offset v, fun hv hends => ?_⟩
  refine Action.run_bind_congr fun target w hw => Action.run_bind_congr fun u u' hu => ?_
  rw [Cursor.moveTo, Action.run_bind_of_ok hw] at hends
  obtain ⟨-, rfl⟩ := Action.run_orOverflow_eq_ok.1 hw
  cases hu
  rw [Action.run_bind_of_ok (EStateM.run_get v)] at hends
  by_cases hthere : target = v.cursor.index
  · simp only [if_pos hthere]
  simp only [if_neg hthere] at hends ⊢
  rcases hq : v.cursor.position with _ | q
  · rw [hq] at hends
    by_cases hheld : v.buffer.holds target
    · simp only [if_pos hheld]
    · simp only [if_neg hheld] at hends ⊢
      exact h.run_approach hv hends
  rw [hq] at hends
  rcases hp : place.position with _ | p
  · rw [hp] at hends
    exact h.run_approach hv hends
  rw [hp] at hends
  by_cases hheld : v.buffer.holds place.index && v.buffer.holds target
  · simp only [if_pos hheld] at hends ⊢
    rw [Bool.and_eq_true] at hheld
    exact h.restore hv hheld.1 hheld.2 hends
  · simp only [if_neg hheld] at hends ⊢
    exact h.run_approach hv hends

theorem skip (count : Nat) (v : View α) : Same J I S (plain.skip count) (t.skip count) v :=
  h.seq (.refl (h.covers.orOverflow _ v)) fun i w _ => h.moveBy i w

theorem rewind (count : Nat) (v : View α) : Same J I S (plain.rewind count) (t.rewind count) v :=
  h.seq (.refl (h.covers.orOverflow _ v)) fun i w _ => h.moveBy (-i) w

/-! ### Reads -/

theorem advanceWith (x : α) (v : View α) :
    Same J I S (plain.advanceWith x) (t.advanceWith x) v :=
  h.map (h.moveBy 1 v) _

theorem read (v : View α) : Same J I S plain.read t.read v := by
  refine h.seq (.refl (h.covers.peek 0 v)) fun x w _ => ?_
  rcases x with _ | x
  · exact .refl (J.done none w)
  · exact h.advanceWith x w

theorem readNext (v : View α) : Same J I S plain.readNext t.readNext v :=
  h.seq (h.moveBy 1 v) fun _ w _ =>
    .ite (fun _ => .refl (h.covers.peek 0 w)) fun _ => .refl (J.done none w)

theorem advanceIf (p : α → Bool) (offset : Int) (v : View α) :
    Same J I S (plain.advanceIf p offset) (t.advanceIf p offset) v := by
  refine h.seq (.refl (h.covers.peek offset v)) fun x w _ => ?_
  rcases x with _ | x
  · exact .refl (J.done none w)
  · exact .ite (fun _ => h.advanceWith x w) fun _ => .refl (J.done none w)

/-- A run comes to the same, by induction on what lies ahead of the head. -/
theorem many (p : α → Bool) (offset : Int) (v : View α) :
    Same J I S (plain.reader p offset).many (t.reader p offset).many v := by
  induction hn : v.ahead using Nat.strongRecOn generalizing v with
  | ind n ih =>
    rw [Reader.many_eq (plain.reader p offset), Reader.many_eq (t.reader p offset)]
    refine h.seq (h.advanceIf p offset v) fun x w hw => ?_
    rcases x with _ | x
    · exact .refl (J.done [] w)
    · exact h.map (ih _ (hn ▸ ahead_lt_of_advanceIf hw) w rfl) (x :: ·)

theorem readWord (starts continues : α → Bool) (v : View α) :
    Same J I S (plain.readWord starts continues) (t.readWord starts continues) v := by
  refine h.seq (.refl (h.covers.peek 0 v)) fun x w _ => ?_
  rcases x with _ | x
  · exact .refl (J.done none w)
  refine .ite (fun _ => ?_) fun _ => .refl (J.done none w)
  exact h.seq (.refl (h.covers.scan continues 1 w)) fun scanned u _ => h.map (h.skip _ u) _

variable [DecidableEq α]

theorem consume (offset : Int) (pattern : List α) (v : View α) :
    Same J I S (plain.consume offset pattern) (t.consume offset pattern) v :=
  h.seq (.refl (h.covers.matchesAt offset pattern v)) fun _ w _ =>
    .ite (fun _ => h.skip _ w) fun _ => .refl (J.done false w)

theorem skipWhile (m : Matcher α) (v : View α) : Same J I S (plain.skipWhile m) (t.skipWhile m) v :=
  h.map (h.many m.accepts 0 v) _

theorem skipUntil (m : Matcher α) (v : View α) : Same J I S (plain.skipUntil m) (t.skipUntil m) v :=
  h.seq (.refl (h.covers.scan _ 0 v)) fun _ w _ =>
    .ite (fun _ => h.skip _ w) fun _ => .refl (J.done false w)

theorem skipBlank (blank : α → Bool) (endCounts : Bool) (v : View α) :
    Same J I S (plain.skipBlank blank endCounts) (t.skipBlank blank endCounts) v :=
  h.seq (h.skipWhile _ v) fun _ w _ => .ite (fun _ => .refl (J.done true w)) fun _ =>
    .refl (h.covers.blankEnd blank endCounts w)

/-- **Operations cannot tell such a tracker from cursors**, for all the moves that they make. -/
theorem run (operation : Operation α) (v : View α) :
    Same J I S operation.run (t.run operation) v := by
  have hsame : Same J I S operation.run operation.run v :=
    .refl (h.covers.run operation v (h.glance · v) fun place offset _ => h.seek place offset v)
  rw [← run_plain operation] at hsame ⊢
  cases operation with
  | moveBy offset => exact h.map (h.moveBy offset v) _
  | moveTo place offset => exact h.map (h.moveTo place offset v) _
  | reset place => exact h.map (h.moveTo place 0 v) _
  | skip count => exact h.map (h.skip count v) _
  | rewind count => exact h.map (h.rewind count v) _
  | read => exact h.map (h.read v) _
  | readIf m => exact h.map (h.advanceIf m.accepts 0 v) _
  | readSeq pattern => exact h.map (h.consume 0 pattern v) _
  | readNext => exact h.map (h.readNext v) _
  | readNextIf m => exact h.map (h.advanceIf m.accepts 1 v) _
  | readNextSeq pattern => exact h.map (h.consume 1 pattern v) _
  | readWhile m => exact h.map (h.many m.accepts 0 v) _
  | readNextWhile m => exact h.map (h.many m.accepts 1 v) _
  | skipWhile m => exact h.map (h.skipWhile m v) _
  | skipUntil m => exact h.map (h.skipUntil m v) _
  | skipBlank blank endCounts => exact h.map (h.skipBlank blank endCounts v) _
  | readWord starts continues => exact h.map (h.readWord starts continues v) _
  | _ => exact hsame

end Agrees

end Agreement

end Tracker

end Rewind
