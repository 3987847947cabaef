import Rewind.Proofs.Demand
import Rewind.Proofs.Heads

/-!
# Arithmetic in registers

The places and distances of a cursor are integers, and where one would leave the signed 64-bit range
it is refused. A machine has registers of 64 bits instead, in which **sums, differences, negations
and counts wrap around**, and it has to see from what it holds that a sum has left the range.

This module writes the looks and moves of a plain cursor with registers. Sums and differences that
may leave the range are checked; the negation of a count, the successor of a count and the successor
of a distance are not. It proves that nothing is lost by that: each comes out as the one on integers
does (`View.Stands.reckons`), so that nothing that is not checked ever wraps around.

That a distance can be counted up without a check is due to the buffer. What is looked at is in it,
and it holds no more elements than there are places (`Register.run_find`).
-/

namespace Rewind

variable {α σ : Type}

open Cursor

namespace Register

/-! ### Checked arithmetic -/

/-- A count as a distance, unless its highest bit is set. -/
def ofCount? (n : UInt64) : Option Int64 :=
  if n.toInt64 < 0 then none else some n.toInt64

/-- The sum, unless it has left the range: adding makes smaller exactly what is added a negative
number to. -/
def add? (i j : Int64) : Option Int64 :=
  if i + j < i ↔ j < 0 then some (i + j) else none

/-- The difference, unless it has left the range: subtracting makes smaller exactly what a positive
number is subtracted from. -/
def sub? (i j : Int64) : Option Int64 :=
  if i - j < i ↔ 0 < j then some (i - j) else none

/-- A place of the buffer, unless it is before the first one. -/
def place? (i : Int64) : Option UInt64 :=
  if i < 0 then none else some i.toUInt64

/-- Go on with a register, and refuse to go on without one. -/
def orOverflow : Option Int64 → Action σ Int64
  | some i => pure i
  | none => throw (.misuse .seekOverflow)

theorem fits_toInt (i : Int64) : Fits i.toInt := by
  have hle := i.le_toInt
  have hlt := i.toInt_lt
  unfold Fits
  omega

theorem toInt_ofInt {i : Int} (h : Fits i) : (Int64.ofInt i).toInt = i := by
  unfold Fits at h
  exact Int64.toInt_ofInt_of_le (by omega) (by omega)

/-- Within the range nothing wraps around. -/
theorem bmod_of_fits {i : Int} (h : Fits i) : i.bmod UInt64.size = i := by
  unfold Fits at h
  unfold UInt64.size
  exact Int.bmod_eq_of_le (by omega) (by omega)

theorem lt_zero_iff {i : Int64} : i < 0 ↔ i.toInt < 0 := by
  rw [Int64.lt_iff_toInt_lt, Int64.toInt_zero]

/-- A register that may have wrapped around and is given out only if it is known not to have is as
good as a check on integers. -/
theorem map_toInt_ite {p : Prop} [Decidable p] {k : Int64} {i : Int} (hp : p ↔ Fits i)
    (hk : Fits i → k.toInt = i) :
    (if p then some k else none).map Int64.toInt = Offset.checked? i := by
  rw [Offset.checked?]
  by_cases h : Fits i
  · rw [if_pos (hp.2 h), if_pos h, Option.map_some, hk h]
  · rw [if_neg (mt hp.1 h), if_neg h, Option.map_none]

/-- **A checked sum is exact.** -/
theorem map_toInt_add? (i j : Int64) :
    (add? i j).map Int64.toInt = Offset.add? i.toInt j.toInt := by
  have hi := fits_toInt i
  have hj := fits_toInt j
  refine map_toInt_ite ?_ fun h => (Int64.toInt_add i j).trans (bmod_of_fits h)
  rw [lt_zero_iff, Int64.lt_iff_toInt_lt, Int64.toInt_add, Int.bmod_def]
  unfold Fits at *
  split <;> omega

/-- **A checked difference is exact.** -/
theorem map_toInt_sub? (i j : Int64) :
    (sub? i j).map Int64.toInt = Offset.sub? i.toInt j.toInt := by
  have hi := fits_toInt i
  have hj := fits_toInt j
  refine map_toInt_ite ?_ fun h => (Int64.toInt_sub i j).trans (bmod_of_fits h)
  rw [Int64.lt_iff_toInt_lt, Int64.lt_iff_toInt_lt, Int64.toInt_sub, Int64.toInt_zero,
    Int.bmod_def]
  unfold Fits at *
  split <;> omega

/-- A count read as a signed number loses what is beyond the range. -/
theorem toInt_toInt64 (n : UInt64) :
    n.toInt64.toInt = if n.toNat ≤ lastPlace then (n.toNat : Int) else n.toNat - UInt64.size := by
  have hcond : n.toInt64.toInt = if 2 * n.toNat < UInt64.size then (n.toNat : Int)
      else n.toNat - UInt64.size := BitVec.toInt_eq_toNat_cond n.toBitVec
  rw [hcond]
  unfold lastPlace UInt64.size
  split <;> split <;> omega

/-- **A count as a distance is exact.** -/
theorem map_toInt_ofCount? (n : UInt64) :
    (ofCount? n).map Int64.toInt = Offset.ofCount? n.toNat := by
  have hlt := n.toNat_lt
  have htoInt := toInt_toInt64 n
  rw [ofCount?, ← ite_not]
  refine map_toInt_ite ?_ fun h => htoInt.trans (if_pos (fits_natCast.1 h))
  rw [lt_zero_iff, htoInt]
  unfold Fits lastPlace UInt64.size
  split <;> omega

/-- A place of the buffer is the number it is read from. -/
theorem map_toNat_place? (i : Int64) :
    (place? i).map UInt64.toNat = if i.toInt < 0 then none else some i.toInt.toNat := by
  rw [place?]
  by_cases h : i.toInt < 0
  · rw [if_pos (lt_zero_iff.2 h), if_pos h, Option.map_none]
  · have hle : 0 ≤ i := Int64.le_iff_toInt_le.2 (Int.not_lt.1 h)
    rw [if_neg (mt lt_zero_iff.1 h), if_neg h, Option.map_some, Int64.toNat_toUInt64_of_le hle]
    rfl

/-- What goes on with a register goes on with the integer in it. -/
theorem orOverflow_bind {β : Type} {i : Option Int64} {j : Option Int}
    (hij : i.map Int64.toInt = j) {f : Int → Action σ β} {g : Int64 → Action σ β}
    (hfg : ∀ k, f k.toInt = g k) : Offset.orOverflow j >>= f = orOverflow i >>= g := by
  subst hij
  rcases i with _ | i
  · rfl
  · exact hfg i

/-! ### Looking -/

/-- The element `offset` places from a register that holds the index of a head. -/
def peek (index offset : Int64) : Peeking α (Option α) :=
  match add? index offset with
  | none => pure none
  | some target =>
    match place? target with
    | none => pure none
    | some place => Buffer.fetch place.toNat

/-- Whether the rest of a pattern follows. How much of it is behind is counted without a check. -/
def matchesFrom [DecidableEq α] (index offset : Int64) : UInt64 → List α → Peeking α Bool
  | _, [] => pure true
  | matched, x :: rest => do
    match add? offset (← orOverflow (ofCount? matched)) with
    | none => pure false
    | some ahead =>
      match ← peek index ahead with
      | none => pure false
      | some y => if y = x then matchesFrom index offset (matched + 1) rest else pure false

/-- Whether a pattern stands at `offset` places from the head. -/
def matchesAt [DecidableEq α] (index offset : Int64) (pattern : List α) : Peeking α Bool :=
  if pattern.isEmpty then throw (.misuse .zeroLengthMatch) else matchesFrom index offset 0 pattern

/-- The distance from `offset` on to the first element that passes a test, looking at no more than
`steps` elements. The distance is counted up without a check. -/
def find (p : α → Bool) (index : Int64) : (steps : Nat) → (offset : Int64) →
    Peeking α (Option Int64)
  | 0, _ => pure none
  | steps + 1, offset => do
    match ← peek index offset with
    | none => pure none
    | some x => if p x then pure (some offset) else find p index steps (offset + 1)

section Looking

variable {c : Cursor} {index : Int64}

theorem peek_eq (hindex : index.toInt = c.index) (offset : Int64) :
    c.peek offset.toInt = (peek index offset : Peeking α (Option α)) := by
  have hadd := map_toInt_add? index offset
  rw [hindex] at hadd
  rw [Cursor.peek, ← hadd, peek]
  rcases add? index offset with _ | target
  · rfl
  · have hplace := map_toNat_place? target
    rw [Option.map_some]
    by_cases hneg : target.toInt < 0
    · rw [if_pos hneg, Option.map_eq_none_iff] at hplace
      simp only [if_pos hneg, hplace]
    · rw [if_neg hneg, Option.map_eq_some_iff] at hplace
      obtain ⟨place, hplace, htoNat⟩ := hplace
      simp only [if_neg hneg, hplace, htoNat]

theorem matchesFrom_eq [DecidableEq α] (hindex : index.toInt = c.index) (offset : Int64)
    (matched : UInt64) (pattern : List α) (hlength : matched.toNat + pattern.length < UInt64.size) :
    c.matchesFrom offset.toInt matched.toNat pattern =
      matchesFrom index offset matched pattern := by
  induction pattern generalizing matched with
  | nil => rfl
  | cons x rest ih =>
    rw [List.length_cons] at hlength
    rw [Cursor.matchesFrom, matchesFrom]
    refine orOverflow_bind (map_toInt_ofCount? matched) fun k => ?_
    rw [← map_toInt_add?]
    rcases add? offset k with _ | ahead
    · rfl
    simp only [Option.map_some, peek_eq hindex]
    refine congrArg _ (funext fun y => ?_)
    rcases y with _ | y
    · rfl
    by_cases hy : y = x
    -- The pattern is not longer than a count can tell, so the count does not wrap around.
    · have hnext : (matched + 1).toNat = matched.toNat + 1 := by
        rw [UInt64.toNat_add, UInt64.toNat_one]
        exact Nat.mod_eq_of_lt (show _ < UInt64.size by omega)
      have hrest := ih (matched + 1) (by omega)
      rw [hnext] at hrest
      simp only [if_pos hy, hrest]
    · simp only [if_neg hy]

theorem matchesAt_eq [DecidableEq α] (hindex : index.toInt = c.index) (offset : Int64)
    {pattern : List α} (hlength : pattern.length < UInt64.size) :
    c.matchesAt offset.toInt pattern = matchesAt index offset pattern := by
  have hfrom := matchesFrom_eq hindex offset 0 pattern
  rw [UInt64.toNat_zero, Nat.zero_add] at hfrom
  rw [Cursor.matchesAt, matchesAt, hfrom hlength]

end Looking

/-! ### Moving -/

/-- The index of a cursor in a register. -/
def index (c : Cursor) : Int64 :=
  .ofInt c.index

/-- Move the head of a plain cursor by a distance. -/
def moveBy (offset : Int64) : Moving α Bool :=
  if offset = 0 then pure true
  else do
    let c ← head
    let target ← orOverflow (add? (index c) offset)
    if index c < 0 ∨ target < 0 then pure false
    else if offset < 0 then jump target.toInt
    else if ← look fun _ => Buffer.ensure target.toUInt64.toNat then jump target.toInt
    else stopAtEnd

/-- Move the head of a plain cursor onto the place `offset` away from a saved one. -/
def moveTo (place offset : Int64) : Moving α Bool := do
  let target ← orOverflow (add? place offset)
  let v ← get
  if target = index v.cursor then pure true
  else if (place? target).any (·.toNat < v.buffer.items.size) then jump target.toInt
  else moveBy (← orOverflow (sub? target (index v.cursor)))

/-- Move the head forward over `count` elements. -/
def skip (count : UInt64) : Moving α Bool := do
  moveBy (← orOverflow (ofCount? count))

/-- Move the head back over `count` elements. The count is negated without a check. -/
def rewind (count : UInt64) : Moving α Bool := do
  moveBy (-(← orOverflow (ofCount? count)))

/-- Move the head onto the first element that passes a test, looking at no more than `steps`. -/
def skipUntil [DecidableEq α] (m : Matcher α) (steps : Nat) : Moving α Bool := do
  match ← look (fun c => find m.accepts (index c) steps 0) with
  | none => pure false
  | some offset => moveBy offset

section Moving

variable {v : View α}

theorem toInt_index {c : Cursor} (h : Fits c.index) : (index c).toInt = c.index :=
  toInt_ofInt h

theorem shift_eq (hfits : Fits v.cursor.index) (offset : Int64) :
    (shift offset.toInt).run v = (moveBy offset).run v := by
  have hindex := toInt_index hfits
  have hzero : offset.toInt = 0 ↔ offset = 0 := by
    rw [← Int64.toInt_inj, Int64.toInt_zero]
  rw [shift, moveBy]
  by_cases h0 : offset = 0
  · rw [if_pos (hzero.2 h0), if_pos h0]
  rw [if_neg (mt hzero.1 h0), if_neg h0, Action.run_bind_of_ok (run_head v),
    Action.run_bind_of_ok (run_head v)]
  have hadd := map_toInt_add? (index v.cursor) offset
  rw [hindex] at hadd
  refine congrArg (EStateM.run · v) (orOverflow_bind hadd fun target => ?_)
  simp only [lt_zero_iff, hindex]
  by_cases hneg : v.cursor.index < 0 ∨ target.toInt < 0
  · rw [if_pos hneg, if_pos hneg]
  rw [if_neg hneg, if_neg hneg]
  have hplace : target.toUInt64.toNat = target.toInt.toNat :=
    Int64.toNat_toUInt64_of_le (Int64.le_iff_toInt_le.2 (Int.not_lt.1 fun h => hneg (.inr h)))
  rw [hplace]

variable [LineElement α]

/-- A plain cursor has no line and column to bring along. -/
theorem run_moveBy_of_plain (hplain : v.cursor.position = none) (offset : Int) :
    (Cursor.moveBy offset).run v = (shift offset).run v := by
  rw [Cursor.moveBy, Action.run_bind_of_ok (run_head v)]
  rcases hshift : (shift offset).run v with ⟨_ | _, w⟩ | ⟨fault, w⟩
  · exact Action.run_bind_of_ok hshift
  · refine (Action.run_bind_of_ok hshift).trans ?_
    simp only [if_true, EStateM.run, follow, hplain]
  · exact Action.run_bind_of_error hshift

theorem moveBy_eq (hplain : v.cursor.position = none) (hfits : Fits v.cursor.index)
    (offset : Int64) : (Cursor.moveBy offset.toInt).run v = (moveBy offset).run v :=
  (run_moveBy_of_plain hplain offset.toInt).trans (shift_eq hfits offset)

theorem skip_eq (hplain : v.cursor.position = none) (hfits : Fits v.cursor.index)
    (count : UInt64) : (Cursor.skip count.toNat).run v = (skip count).run v := by
  rw [Cursor.skip, skip, ← map_toInt_ofCount?]
  rcases ofCount? count with _ | offset
  · rfl
  · exact moveBy_eq hplain hfits offset

/-- A count that is a distance can be negated: it is not negative. -/
theorem toInt_neg_of_ofCount? {count : UInt64} {offset : Int64} (h : ofCount? count = some offset) :
    (-offset).toInt = -offset.toInt := by
  have hcount := map_toInt_ofCount? count
  rw [h, Option.map_some] at hcount
  obtain ⟨hfits, hoffset⟩ := Offset.ofCount?_eq_some_iff.1 hcount.symm
  rw [Int64.toInt_neg, ← hoffset]
  refine bmod_of_fits ?_
  unfold Fits at hfits ⊢
  omega

theorem rewind_eq (hplain : v.cursor.position = none) (hfits : Fits v.cursor.index)
    (count : UInt64) : (Cursor.rewind count.toNat).run v = (rewind count).run v := by
  rw [Cursor.rewind, rewind, ← map_toInt_ofCount?]
  rcases hcount : ofCount? count with _ | offset
  · rfl
  · have hmove := moveBy_eq hplain hfits (-offset)
    rw [toInt_neg_of_ofCount? hcount] at hmove
    exact hmove

omit [LineElement α] in
/-- Whether a place is held is seen in a register. -/
theorem any_place?_eq (b : Buffer α) (target : Int64) :
    (place? target).any (·.toNat < b.items.size) = b.holds target.toInt := by
  have hplace := map_toNat_place? target
  rw [Bool.eq_iff_iff, Buffer.holds_iff]
  by_cases hneg : target.toInt < 0
  · rw [if_pos hneg, Option.map_eq_none_iff] at hplace
    rw [hplace]
    exact iff_of_false Bool.false_ne_true fun h => by omega
  · rw [if_neg hneg, Option.map_eq_some_iff] at hplace
    obtain ⟨place, hplace, htoNat⟩ := hplace
    rw [hplace, Option.any_some, decide_eq_true_iff, htoNat]
    omega

theorem approach_eq (hplain : v.cursor.position = none) (hfits : Fits v.cursor.index)
    (target : Int64) :
    (approach target.toInt).run v =
      (orOverflow (sub? target (index v.cursor)) >>= moveBy : Moving α Bool).run v := by
  have hsub := map_toInt_sub? target (index v.cursor)
  rw [toInt_index hfits] at hsub
  rw [approach, Action.run_bind_of_ok (run_head v), ← hsub]
  rcases sub? target (index v.cursor) with _ | offset
  · rfl
  · exact moveBy_eq hplain hfits offset

theorem moveTo_eq (hplain : v.cursor.position = none) (hfits : Fits v.cursor.index)
    {place : Location} (hplace : Fits place.index) (offset : Int64) :
    (Cursor.moveTo place offset.toInt).run v = (moveTo (.ofInt place.index) offset).run v := by
  have hadd := map_toInt_add? (.ofInt place.index) offset
  rw [toInt_ofInt hplace] at hadd
  rw [Cursor.moveTo, moveTo, ← hadd]
  rcases add? (.ofInt place.index) offset with _ | target
  · rfl
  have hthere : target.toInt = v.cursor.index ↔ target = index v.cursor := by
    rw [← Int64.toInt_inj, toInt_index hfits]
  simp only [Option.map_some, Offset.orOverflow, orOverflow, pure_bind]
  rw [Action.run_bind_of_ok (EStateM.run_get v), Action.run_bind_of_ok (EStateM.run_get v),
    any_place?_eq]
  by_cases htarget : target = index v.cursor
  · rw [if_pos (hthere.2 htarget), if_pos htarget]
  rw [if_neg (mt hthere.1 htarget), if_neg htarget, hplain]
  by_cases hheld : v.buffer.holds target.toInt
  · simp only [if_pos hheld]
  · simp only [if_neg hheld]
    exact approach_eq hplain hfits target

end Moving

/-! ### Counting up a distance -/

section Counting

variable {c : Cursor} {b : Buffer α} {p : α → Bool} {e n steps : Nat}

/-- What an action starts with is still there when it ends. -/
theorem size_le_of_pulling {β : Type} {x : Moving α β} {v : View α} (hx : View.pulling.Holds x v)
    (hleaves : Action.Ends (fun _ w => w.buffer.items.size ≤ n) (x.run v)) :
    v.buffer.items.size ≤ n := by
  have hends := Judgement.ofRelation_iff.1 hx
  rcases hrun : x.run v with ⟨y, w⟩ | ⟨fault, w⟩
  · obtain ⟨told, hw, -⟩ := hends.of_ok hrun
    exact Nat.le_trans hw.size_le (hleaves.of_ok hrun)
  · obtain ⟨told, hw, -⟩ := hends.of_error hrun
    exact Nat.le_trans hw.size_le (hleaves.of_error hrun)

theorem size_le_of_run_scan {offset : Int}
    (hleaves : Action.Ends (fun _ b' => b'.items.size ≤ n) ((c.scan p offset).run b)) :
    b.items.size ≤ n := by
  refine size_le_of_pulling (Buffer.serves_pulled.peeks.scan p offset ⟨b, c⟩) ?_
  rcases hrun : (c.scan p offset).run b with ⟨scanned, b'⟩ | ⟨fault, b'⟩
  · rw [run_look_of_ok hrun]
    exact hleaves.of_ok hrun
  · rw [run_look_of_error hrun]
    exact hleaves.of_error hrun

/-- Past an element that passes, a scan goes on from the next place, -/
theorem run_scan_of_passed {x : α} {b' : Buffer α} (hpeek : (c.peek e).run b = .ok (some x) b')
    (hp : p x = true) (hfits : Fits (e + 1 : Nat)) :
    (c.scan p e).run b =
      (do
        let scanned ← c.scan p (e + 1 : Nat)
        return { scanned with passed := x :: scanned.passed } : Peeking α (Scanned α)).run b' := by
  have hadd : Offset.add? e 1 = some (e + 1 : Nat) := Offset.add?_eq_some_iff.2 ⟨hfits, rfl⟩
  rw [scan_eq, Action.run_bind_of_ok hpeek]
  simp only [if_pos hp, hadd]
  rfl

/-- if there is a place to go on from. -/
theorem run_scan_of_unfit {x : α} {b' : Buffer α} (hpeek : (c.peek e).run b = .ok (some x) b')
    (hp : p x = true) (hfits : ¬ Fits (e + 1 : Nat)) :
    (c.scan p e).run b = .error (.misuse .seekOverflow) b' := by
  have hadd : Offset.add? e 1 = none := Offset.add?_eq_none_iff.2 hfits
  rw [scan_eq, Action.run_bind_of_ok hpeek]
  simp only [if_pos hp, hadd]
  rfl

theorem ofInt_add_one (hfits : Fits (e + 1 : Nat)) :
    Int64.ofInt e + 1 = .ofInt (e + 1 : Nat) := by
  have hfits' : Fits e := by
    unfold Fits at *
    omega
  rw [← Int64.toInt_inj, Int64.toInt_add, toInt_ofInt hfits, toInt_ofInt hfits', Int64.toInt_one]
  exact bmod_of_fits hfits

/-- **Counting up a distance comes to what scanning does**, if no more elements are looked at than
there are places: the distance to each of them is less than their number. By induction on the steps
that may still be made. -/
theorem run_find (hindex : 0 ≤ c.index) (hfits : Fits c.index) (hnear : c.index + e ≤ b.items.size)
    (hlast : n ≤ lastPlace) (hsteps : n < steps + (c.index + e))
    (hleaves : Action.Ends (fun _ b' => b'.items.size ≤ n) ((c.scan (fun x => !p x) e).run b)) :
    (∃ m b', (c.scan (fun x => !p x) e).run b = .error (.source m) b' ∧
        (find p (index c) steps (.ofInt e)).run b = .error (.source m) b') ∨
      ∃ scanned b', (c.scan (fun x => !p x) e).run b = .ok scanned b' ∧
        (scanned.stop = none ∧ (find p (index c) steps (.ofInt e)).run b = .ok none b' ∨
          scanned.stop.isSome = true ∧ c.index + (e + scanned.passed.length : Nat) < b'.items.size ∧
            (find p (index c) steps (.ofInt e)).run b =
              .ok (some (.ofInt (e + scanned.passed.length : Nat))) b') := by
  have hsize := size_le_of_run_scan hleaves
  induction steps generalizing e b with
  | zero => omega
  | succ steps ih =>
    have hpeek : c.peek e = (peek (index c) (.ofInt e) : Peeking α (Option α)) := by
      have heq := peek_eq (α := α) (toInt_index hfits) (.ofInt e)
      rwa [toInt_ofInt (fits_natCast.2 (by omega))] at heq
    rw [find]
    rcases hrun : (c.peek e : Peeking α (Option α)).run b with ⟨_ | x, b'⟩ | ⟨fault, b'⟩
    · have hrun' := hpeek ▸ hrun
      refine .inr ⟨⟨[], none⟩, b', ?_, .inl ⟨rfl, Action.run_bind_of_ok hrun'⟩⟩
      rw [scan_eq, Action.run_bind_of_ok hrun]
      rfl
    · have hrun' := hpeek ▸ hrun
      obtain ⟨-, hlt⟩ := reach_le_of_peek hrun
      rw [Action.run_bind_of_ok hrun']
      rcases hp : p x
      · have hpassed : (!p x) = true := by rw [hp, Bool.not_false]
        have hnext : Fits (e + 1 : Nat) := by
          refine Decidable.by_contra fun hunfit => hunfit (fits_natCast.2 ?_)
          have hsize' := hleaves.of_error (run_scan_of_unfit (p := (!p ·)) hrun hpassed hunfit)
          omega
        have hstep := run_scan_of_passed (p := (!p ·)) hrun hpassed hnext
        rw [hstep] at hleaves ⊢
        simp only [hp, Bool.false_eq_true, if_false, ofInt_add_one hnext]
        have hleaves' : Action.Ends (fun _ b'' => b''.items.size ≤ n)
            ((c.scan (fun x => !p x) (e + 1 : Nat)).run b') := by
          rcases hrest : (c.scan (fun x => !p x) (e + 1 : Nat)).run b' with
            ⟨scanned, b''⟩ | ⟨fault, b''⟩
          · exact hleaves.of_ok (Action.run_bind_of_ok hrest)
          · exact hleaves.of_error (Action.run_bind_of_error hrest)
        rcases ih (e := e + 1) (b := b') (by omega) (by omega) hleaves'
            (size_le_of_run_scan hleaves') with
          ⟨m, b'', hscan, hfind⟩ | ⟨scanned, b'', hscan, hresult⟩
        · exact .inl ⟨m, b'', Action.run_bind_of_error hscan, hfind⟩
        · refine .inr ⟨_, b'', Action.run_bind_of_ok hscan, ?_⟩
          rw [show e + 1 + scanned.passed.length = e + (x :: scanned.passed).length by
            rw [List.length_cons]; omega] at hresult
          exact hresult
      · have hscan : (c.scan (fun x => !p x) e).run b = .ok ⟨[], some x⟩ b' := by
          rw [scan_eq, Action.run_bind_of_ok hrun]
          simp only [hp, Bool.not_true, Bool.false_eq_true, if_false]
          rfl
        refine .inr ⟨⟨[], some x⟩, b', hscan, .inr ⟨rfl, hlt, ?_⟩⟩
        simp only [if_pos hp]
        rfl
    · have hrun' := hpeek ▸ hrun
      obtain ⟨m, rfl⟩ := fault_of_run_peek hrun
      refine .inl ⟨m, b', ?_, Action.run_bind_of_error hrun'⟩
      rw [scan_eq, Action.run_bind_of_error hrun]

end Counting

section Seeking

variable [LineElement α] {v : View α}

/-- A plain head has nothing but its index to bring along. -/
theorem land_of_plain (hplain : v.cursor.position = none) (target : Int) :
    v.land target = .ok true { v with cursor.index := target } := by
  rw [View.land, hplain]

/-- A plain head moves onto every place that is held, and nothing is pulled for that. -/
theorem run_moveBy_of_holds (hplain : v.cursor.position = none) (hindex : 0 ≤ v.cursor.index)
    {offset : Int} (hfits : Fits (v.cursor.index + offset))
    (hheld : v.buffer.holds (v.cursor.index + offset) = true) :
    (Cursor.moveBy offset).run v =
      .ok true { v with cursor.index := v.cursor.index + offset } := by
  obtain ⟨htarget, hlt⟩ := Buffer.holds_iff.1 hheld
  rw [run_moveBy]
  by_cases h0 : offset = 0
  · rw [if_pos h0, h0, Int.add_zero]
  rw [if_neg h0, if_neg (not_not_intro hfits), if_neg (by omega)]
  by_cases hback : offset < 0
  · rw [if_pos hback, land_of_plain hplain]
  · rw [if_neg hback, Buffer.run_ensure_of_settles (.inl (by omega)), decide_eq_true (by omega)]
    exact land_of_plain hplain _

/-- Where a place is held, moving there by a count is moving there by a register. -/
theorem skip_eq_of_held (hplain : v.cursor.position = none) (hindex : 0 ≤ v.cursor.index)
    {count : Nat} (hheld : v.cursor.index + count < v.buffer.items.size)
    (hlast : v.buffer.items.size ≤ lastPlace) :
    ∃ w, (Cursor.skip count).run v = .ok true w ∧ (moveBy (.ofInt count)).run v = .ok true w := by
  have hcount : Fits count := fits_natCast.2 (by omega)
  have htarget : Fits (v.cursor.index + count) := by
    unfold Fits lastPlace at *
    omega
  have hfits : Fits v.cursor.index := by
    unfold Fits lastPlace at *
    omega
  have hmove := run_moveBy_of_holds hplain hindex htarget (Buffer.holds_iff.2 ⟨by omega, hheld⟩)
  have hregister := moveBy_eq hplain hfits (.ofInt count)
  rw [toInt_ofInt hcount, hmove] at hregister
  refine ⟨_, ?_, hregister.symm⟩
  rw [Cursor.skip, Offset.ofCount?_eq_some_iff.2 ⟨hcount, rfl⟩]
  exact hmove

variable [DecidableEq α]

/-- What a scan has brought is still there after the move that it is made for. -/
theorem scan_of_skipUntil {m : Matcher α} {n : Nat}
    (hleaves : Action.Ends (fun _ w => w.buffer.items.size ≤ n) ((Cursor.skipUntil m).run v)) :
    Action.Ends (fun _ b => b.items.size ≤ n)
      ((v.cursor.scan (fun x => !m.accepts x) (0 : Nat)).run v.buffer) := by
  rcases hscan : (v.cursor.scan (fun x => !m.accepts x) (0 : Nat)).run v.buffer with
    ⟨scanned, b⟩ | ⟨fault, b⟩
  · have hmove : View.pulling.Holds (if scanned.stop.isSome then
        Cursor.skip scanned.passed.length else Pure.pure false : Moving α Bool) ⟨b, v.cursor⟩ :=
      View.pulling.ite (fun _ => View.pulling_covers.advances.skip _ _) fun _ =>
        View.pulling.done _ _
    rw [Cursor.skipUntil, Action.run_bind_of_ok (run_look_of_ok hscan)] at hleaves
    exact size_le_of_pulling hmove hleaves
  · exact hleaves.of_error (Action.run_bind_of_error (run_look_of_error hscan))

/-- From before an empty text nothing is looked for. -/
theorem skipUntil_eq_of_neg (hv : v.Stands) (hneg : v.cursor.index < 0) (m : Matcher α)
    {steps : Nat} (hsteps : 0 < steps) :
    (Cursor.skipUntil m).run v = .ok false v ∧ (skipUntil m steps).run v = .ok false v := by
  have hpeek := (run_look_eq_ok.1 (hv.run_peek_of_neg hneg 0)).1
  have hscan : (v.cursor.scan (fun x => !m.accepts x) 0).run v.buffer =
      .ok ⟨[], none⟩ v.buffer := by
    rw [scan_eq, Action.run_bind_of_ok hpeek]
    rfl
  have hfind : (find m.accepts (index v.cursor) steps 0).run v.buffer = .ok none v.buffer := by
    obtain ⟨steps, rfl⟩ := Nat.exists_eq_succ_of_ne_zero (Nat.ne_of_gt hsteps)
    rw [← Int64.toInt_zero, peek_eq (toInt_index hv.fits)] at hpeek
    exact Action.run_bind_of_ok hpeek
  rw [Cursor.skipUntil, skipUntil, Action.run_bind_of_ok (run_look_of_ok hscan),
    Action.run_bind_of_ok (run_look_of_ok hfind)]
  exact ⟨rfl, rfl⟩

theorem skipUntil_eq (hv : v.Stands) (hplain : v.cursor.position = none) (m : Matcher α)
    {n steps : Nat} (hlast : n ≤ lastPlace) (hsteps : n < steps)
    (hleaves : Action.Ends (fun _ w => w.buffer.items.size ≤ n) ((Cursor.skipUntil m).run v)) :
    (Cursor.skipUntil m).run v = (skipUntil m steps).run v ∧
      ∀ w, (Cursor.skipUntil m).run v ≠ .error (.misuse .seekOverflow) w := by
  by_cases hneg : v.cursor.index < 0
  · obtain ⟨hrun, hregister⟩ := skipUntil_eq_of_neg hv hneg m (Nat.zero_lt_of_lt hsteps)
    rw [hrun, hregister]
    exact ⟨rfl, nofun⟩
  have hindex := Int.not_lt.1 hneg
  have hheld := Buffer.holds_iff.1 (hv.holds hindex)
  have hscanned := scan_of_skipUntil hleaves
  have hreach : n < steps + (v.cursor.index + (0 : Nat)) := by omega
  rw [Cursor.skipUntil, skipUntil]
  rcases run_find hindex hv.fits (by omega) hlast hreach hscanned with
    ⟨message, b, hscan, hfind⟩ | ⟨scanned, b, hscan, ⟨hstop, hfind⟩ | ⟨hstop, hlt, hfind⟩⟩
  · rw [Action.run_bind_of_error (run_look_of_error hscan),
      Action.run_bind_of_error (run_look_of_error hfind)]
    exact ⟨rfl, nofun⟩
  · rw [Action.run_bind_of_ok (run_look_of_ok hscan),
      Action.run_bind_of_ok (run_look_of_ok hfind), hstop]
    exact ⟨rfl, nofun⟩
  · rw [Nat.zero_add] at hlt hfind
    have hsize := hscanned.of_ok hscan
    obtain ⟨w, hskip, hmove⟩ := skip_eq_of_held (v := ⟨b, v.cursor⟩) hplain hindex hlt
      (Nat.le_trans hsize hlast)
    rw [Action.run_bind_of_ok (run_look_of_ok hscan),
      Action.run_bind_of_ok (run_look_of_ok hfind), if_pos hstop, hskip, hmove]
    exact ⟨rfl, nofun⟩

end Seeking

end Register

variable [LineElement α] [DecidableEq α]

/-- Whether all looks and moves of a cursor come out in registers as they do on integers. -/
structure View.Reckons (v : View α) : Prop where
  peek (offset : Int64) :
    v.cursor.peek (α := α) offset.toInt = Register.peek (Register.index v.cursor) offset
  /-- The length of a pattern is a count. -/
  matchesAt (offset : Int64) (pattern : List α) : pattern.length < UInt64.size →
    v.cursor.matchesAt offset.toInt pattern =
      Register.matchesAt (Register.index v.cursor) offset pattern
  moveBy (offset : Int64) : (Cursor.moveBy offset.toInt).run v = (Register.moveBy offset).run v
  /-- The saved place may be made up. -/
  moveTo (place : Location) (offset : Int64) : Fits place.index →
    (Cursor.moveTo place offset.toInt).run v = (Register.moveTo (.ofInt place.index) offset).run v
  skip (count : UInt64) : (Cursor.skip count.toNat).run v = (Register.skip count).run v
  rewind (count : UInt64) : (Cursor.rewind count.toNat).run v = (Register.rewind count).run v
  /-- No more elements are looked at than the buffer is left with, which are no more than there are
  places. -/
  skipUntil (m : Matcher α) (held steps : Nat) : held ≤ lastPlace → held < steps →
    Action.Ends (fun _ w => w.buffer.items.size ≤ held) ((Cursor.skipUntil m).run v) →
    (Cursor.skipUntil m).run v = (Register.skipUntil m steps).run v

/-- **A plain cursor needs no more than registers.** -/
theorem View.Stands.reckons {v : View α} (hv : v.Stands) (hplain : v.cursor.position = none) :
    v.Reckons where
  peek := Register.peek_eq (Register.toInt_index hv.fits)
  matchesAt offset _ := Register.matchesAt_eq (Register.toInt_index hv.fits) offset
  moveBy := Register.moveBy_eq hplain hv.fits
  moveTo _ offset hplace := Register.moveTo_eq hplain hv.fits hplace offset
  skip := Register.skip_eq hplain hv.fits
  rewind := Register.rewind_eq hplain hv.fits
  skipUntil m _ _ hlast hsteps hleaves :=
    (Register.skipUntil_eq hv hplain m hlast hsteps hleaves).1

end Rewind
