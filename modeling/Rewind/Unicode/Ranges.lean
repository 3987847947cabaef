/-!
# Sets of code points

A property of characters is given as the list of the maximal runs of code points that have it,
each by its first and last member, in increasing order. `Ranges.contains` walks that list and
stops at the first run that starts beyond the character it looks for, so early characters cost
little whatever the length of the list.

Stopping early is harmless on a list in order, and every table carries the proof that it is in
order: **a table contains what one of its runs holds** (`Ranges.contains_iff`).
-/

namespace Rewind.Unicode

/-- Runs of code points, each with its first and last member. No run is empty, the first starts at
`bound` or later, and each next one leaves a gap after the one before. -/
def IncreasingFrom (bound : Nat) : List (Nat × Nat) → Prop
  | [] => True
  | (first, last) :: rest => bound ≤ first ∧ first ≤ last ∧ IncreasingFrom (last + 2) rest

instance decidableIncreasingFrom : (bound : Nat) → DecidablePred (IncreasingFrom bound)
  | _, [] => isTrue trivial
  | bound, (first, last) :: rest =>
    have := decidableIncreasingFrom (last + 2) rest
    inferInstanceAs (Decidable (bound ≤ first ∧ first ≤ last ∧ IncreasingFrom (last + 2) rest))

/-- All runs in order start at their bound or later. -/
theorem IncreasingFrom.bound_le {bound : Nat} {runs : List (Nat × Nat)}
    (h : IncreasingFrom bound runs) : ∀ r ∈ runs, bound ≤ r.1 := by
  induction runs generalizing bound with
  | nil => simp
  | cons r rest ih =>
    obtain ⟨hfirst, hlast, hrest⟩ := h
    intro s hs
    rcases List.mem_cons.1 hs with rfl | hs
    · exact hfirst
    · exact Nat.le_trans (by omega) (ih hrest s hs)

/-- Whether one of some runs in increasing order holds a code point. -/
def holds : List (Nat × Nat) → Nat → Bool
  | [], _ => false
  | (first, last) :: rest, c => first ≤ c && (c ≤ last || holds rest c)

/-- Among runs that are in order, stopping early loses nothing. -/
theorem IncreasingFrom.holds_iff {bound : Nat} {runs : List (Nat × Nat)}
    (h : IncreasingFrom bound runs) {c : Nat} :
    holds runs c = true ↔ ∃ r ∈ runs, r.1 ≤ c ∧ c ≤ r.2 := by
  induction runs generalizing bound with
  | nil => simp [holds]
  | cons r rest ih =>
    obtain ⟨-, hlast, hrest⟩ := h
    simp only [holds, Bool.and_eq_true, Bool.or_eq_true, decide_eq_true_eq, ih hrest,
      List.mem_cons, exists_eq_or_imp]
    constructor
    · rintro ⟨hle, hin | hin⟩
      · exact .inl ⟨hle, hin⟩
      · exact .inr hin
    · rintro (⟨hle, hin⟩ | ⟨s, hs, hle, hin⟩)
      · exact ⟨hle, .inl hin⟩
      · have := hrest.bound_le s hs
        exact ⟨by omega, .inr ⟨s, hs, hle, hin⟩⟩

/-- A set of code points, as the runs it is made of in increasing order. -/
structure Ranges where
  runs : List (Nat × Nat)
  increasing : IncreasingFrom 0 runs := by decide +kernel

/-- Whether a set has a code point. -/
def Ranges.contains (table : Ranges) (c : Nat) : Bool :=
  holds table.runs c

/-- **A code point is found exactly when one of the runs holds it.** -/
theorem Ranges.contains_iff (table : Ranges) {c : Nat} :
    table.contains c = true ↔ ∃ r ∈ table.runs, r.1 ≤ c ∧ c ≤ r.2 :=
  table.increasing.holds_iff

end Rewind.Unicode
