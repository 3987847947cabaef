/-!
# Places and distances

A place in a sequence and a distance between two places are integers. Both are kept within the
signed 64-bit range, and a sum or a difference that leaves it is refused rather than wrapped:
the operations below answer `none` exactly there, and are exact integer arithmetic elsewhere.

Counts of elements are natural numbers; `Offset.ofCount?` turns one into a distance.
-/

namespace Rewind

/-- The integers that a place or a distance may be: the signed 64-bit range. -/
def Fits (i : Int) : Prop :=
  -9223372036854775808 ≤ i ∧ i ≤ 9223372036854775807

instance (i : Int) : Decidable (Fits i) :=
  inferInstanceAs (Decidable (_ ∧ _))

namespace Offset

/-- The integer itself when it fits. -/
def checked? (i : Int) : Option Int :=
  if Fits i then some i else none

/-- The exact sum, when it fits. -/
def add? (i j : Int) : Option Int :=
  checked? (i + j)

/-- The exact difference, when it fits. -/
def sub? (i j : Int) : Option Int :=
  checked? (i - j)

/-- A count read as a distance forward, when it fits. -/
def ofCount? (n : Nat) : Option Int :=
  checked? n

/-! ### When arithmetic is refused -/

theorem checked?_eq_some_iff {i j : Int} : checked? i = some j ↔ Fits i ∧ i = j := by
  unfold checked?
  split <;> simp [*]

theorem checked?_eq_none_iff {i : Int} : checked? i = none ↔ ¬ Fits i := by
  unfold checked?
  split <;> simp [*]

theorem add?_eq_some_iff {i j k : Int} : add? i j = some k ↔ Fits (i + j) ∧ i + j = k :=
  checked?_eq_some_iff

theorem add?_eq_none_iff {i j : Int} : add? i j = none ↔ ¬ Fits (i + j) :=
  checked?_eq_none_iff

theorem sub?_eq_some_iff {i j k : Int} : sub? i j = some k ↔ Fits (i - j) ∧ i - j = k :=
  checked?_eq_some_iff

theorem sub?_eq_none_iff {i j : Int} : sub? i j = none ↔ ¬ Fits (i - j) :=
  checked?_eq_none_iff

theorem ofCount?_eq_some_iff {n : Nat} {i : Int} : ofCount? n = some i ↔ Fits n ∧ (n : Int) = i :=
  checked?_eq_some_iff

theorem ofCount?_eq_none_iff {n : Nat} : ofCount? n = none ↔ ¬ Fits n :=
  checked?_eq_none_iff

end Offset

end Rewind
