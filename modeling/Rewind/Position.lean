/-!
# Lines and columns

The line and the column of a place are both counted from zero. The line is the number of line
feeds that lie behind the place, the column the number of elements since the last of them. So a
position is a function of what lies behind the place, `Position.ofBehind`; lists of what lies
behind a place start with the nearest element.

A head that moves does not count from the start again. It walks: **forward** over each element
it passes (`forward`), **backward** over each one (`back?`), and only a line feed passed
backward makes it look further behind, for the column at the end of the line it returns to.
Walking backward fails when it would take the line or the column below zero, which cannot happen
from the true position (`back?_ofBehind`).

What ends a line is a decision on elements, `feeds`.
-/

namespace Rewind

/-- Two pieces of a text that meet. -/
theorem extract_append_extract {α : Type} (text : List α) {start mid stop : Nat}
    (hstart : start ≤ mid) (hstop : mid ≤ stop) :
    text.extract start mid ++ text.extract mid stop = text.extract start stop := by
  obtain ⟨near, rfl⟩ := Nat.exists_eq_add_of_le hstart
  obtain ⟨far, rfl⟩ := Nat.exists_eq_add_of_le hstop
  simp only [List.extract_eq_take_drop, Nat.add_assoc, Nat.add_sub_cancel_left]
  rw [← Nat.add_assoc, Nat.add_sub_cancel_left, ← List.drop_drop, ← List.take_add]

/-- A line and a column, both counted from zero. -/
structure Position where
  line : Nat := 0
  column : Nat := 0
  deriving DecidableEq

namespace Position

variable {α : Type} (feeds : α → Bool)

/-- How many elements lie between a place and the nearest line feed behind it, or the start. -/
def columnOf (behind : List α) : Nat :=
  (behind.takeWhile fun x => !feeds x).length

/-- The position of a place from what lies behind it, nearest element first. -/
def ofBehind (behind : List α) : Position :=
  ⟨behind.countP feeds, columnOf feeds behind⟩

/-- The position after one element more. -/
def step (p : Position) (x : α) : Position :=
  if feeds x then ⟨p.line + 1, 0⟩ else ⟨p.line, p.column + 1⟩

/-- Walk forward over the elements `passed`, in the order of the text. -/
def forward (p : Position) (passed : List α) : Position :=
  passed.foldl (step feeds) p

/-- Walk backward over the `count` nearest elements of `behind`. -/
def back? : (count : Nat) → (behind : List α) → Position → Option Position
  | 0, _, p => some p
  | _ + 1, [], p => some p
  | count + 1, x :: behind, p =>
    if feeds x then
      if p.line = 0 then none else back? count behind ⟨p.line - 1, columnOf feeds behind⟩
    else
      if p.column = 0 then none else back? count behind ⟨p.line, p.column - 1⟩

/-- What lies behind a place of a text, nearest element first. -/
def behind (text : Array α) (place : Nat) : List α :=
  (text.extract 0 place).toList.reverse

/-- Walk from the place `start` of a text to its place `stop`. -/
def walk? (text : Array α) (start stop : Nat) (p : Position) : Option Position :=
  if start ≤ stop then some (p.forward feeds (text.extract start stop).toList)
  else back? feeds (start - stop) (behind text start) p

/-- A walk over two pieces of a text is a walk over the one and then over the other. -/
theorem forward_append (p : Position) (xs ys : List α) :
    p.forward feeds (xs ++ ys) = (p.forward feeds xs).forward feeds ys :=
  List.foldl_append

/-! ### Walking keeps the position true -/

@[simp] theorem ofBehind_nil : ofBehind feeds [] = {} := rfl

/-- One element more lies behind after a step forward. -/
theorem step_ofBehind (behind : List α) (x : α) :
    (ofBehind feeds behind).step feeds x = ofBehind feeds (x :: behind) := by
  by_cases h : feeds x <;> simp [step, ofBehind, columnOf, h]

/-- Walking forward puts the elements passed behind the place, the last one nearest. -/
theorem forward_ofBehind (behind passed : List α) :
    (ofBehind feeds behind).forward feeds passed = ofBehind feeds (passed.reverse ++ behind) := by
  induction passed generalizing behind with
  | nil => rfl
  | cons x passed ih =>
    have := ih (x :: behind)
    simp_all [forward, step_ofBehind]

/-- **Walking backward from a true position never fails** and uncovers what lay behind. -/
theorem back?_ofBehind (count : Nat) (behind : List α) :
    back? feeds count behind (ofBehind feeds behind) =
      some (ofBehind feeds (behind.drop count)) := by
  induction behind generalizing count with
  | nil => cases count <;> simp [back?]
  | cons x behind ih =>
    cases count with
    | zero => simp [back?]
    | succ count =>
      rw [← step_ofBehind, List.drop_succ_cons, ← ih count]
      by_cases h : feeds x <;> simp [back?, h, step, ofBehind]

/-- What lies behind a place, in the order of the text. -/
theorem behind_eq (text : Array α) (place : Nat) :
    behind text place = (text.toList.take place).reverse := by
  simp [behind, List.extract_eq_take_drop]

/-- **Walking between two places of a text** takes the true position of the one to the true
position of the other. -/
theorem walk?_ofBehind (text : Array α) (start stop : Nat) (h : start ≤ text.size) :
    walk? feeds text start stop (ofBehind feeds (behind text start))
      = some (ofBehind feeds (behind text stop)) := by
  unfold walk?
  split
  · next hle =>
    rw [forward_ofBehind, behind_eq, behind_eq, ← List.reverse_append]
    congr 3
    simp only [Array.toList_extract, List.extract_eq_take_drop]
    rw [← List.take_add, Nat.add_sub_cancel' hle]
  · next hlt =>
    rw [back?_ofBehind, behind_eq, behind_eq]
    congr 2
    rw [List.drop_reverse, List.take_take, List.length_take, Array.length_toList]
    congr 2
    omega

end Position

end Rewind
