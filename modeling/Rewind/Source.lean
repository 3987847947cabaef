/-!
# Single-pass sources

A source is a script: what each pull will answer, in order. An entry is an element, a failure or
a report of exhaustion, and every pull uses up one entry; once the script has run out, each pull
reports exhaustion. A script may hold entries after an exhaustion or a failure, so a source that
resumes is one of them.

`Source.draw` is the one loop over a script: pull until a number of elements has come, or until
something else stops it. What a run of pulls brings is a `Haul`.
-/

namespace Rewind

/-- The answer to one pull. -/
inductive Entry (α : Type) where
  | element (x : α)
  /-- The pull fails with this message; a later pull goes on with the next entry. -/
  | failure (message : String)
  | exhaustion
  deriving DecidableEq

/-- The answers to the pulls still to come; exhaustion for ever after the last of them. -/
abbrev Source (α : Type) := List (Entry α)

/-- Why a run of pulls came to its end. -/
inductive Stop where
  /-- As many elements came as were asked for. -/
  | satisfied
  | failed (message : String)
  | exhausted
  deriving DecidableEq

/-- What a run of pulls brings: the elements, the reason it stopped, how many pulls it took and
the source that is left. -/
structure Haul (α : Type) where
  elements : List α
  stop : Stop
  pulls : Nat
  rest : Source α

/-- The haul of a pull that brought an element, followed by the pulls of `h`. -/
def Haul.after {α : Type} (x : α) (h : Haul α) : Haul α :=
  { h with elements := x :: h.elements, pulls := h.pulls + 1 }

namespace Source

variable {α : Type}

/-- One pull. -/
def pull : Source α → Entry α × Source α
  | [] => (.exhaustion, [])
  | e :: rest => (e, rest)

/-- The answers to `n` pulls in a row, whatever they are. -/
def answers : Nat → Source α → List (Entry α)
  | 0, _ => []
  | n + 1, s => s.pull.1 :: answers n s.pull.2

/-- Pull until `limit` elements have come, or without a limit, stopping also at the first failure
and at the first report of exhaustion. -/
def draw : (limit : Option Nat) → Source α → Haul α
  | some 0, s => ⟨[], .satisfied, 0, s⟩
  | _, [] => ⟨[], .exhausted, 1, []⟩
  | limit, .element x :: rest => (draw (limit.map (· - 1)) rest).after x
  | _, .failure m :: rest => ⟨[], .failed m, 1, rest⟩
  | _, .exhaustion :: rest => ⟨[], .exhausted, 1, rest⟩

/-! ### Sources made from sequences

A sequence gives an answer each time it is asked, `none` when it has none to give; it may go on
after a `none`. -/

/-- The source over a sequence that cannot fail. -/
def ofElements (xs : List (Option α)) : Source α :=
  xs.map fun
    | some x => .element x
    | none => .exhaustion

/-- The source over a sequence of results: an error fails the pull with its message. -/
def ofResults (xs : List (Option (Except String α))) : Source α :=
  xs.map fun
    | some (.ok x) => .element x
    | some (.error m) => .failure m
    | none => .exhaustion

/-! ### What drawing does to the script -/

@[simp] theorem draw_zero (s : Source α) : draw (some 0) s = ⟨[], .satisfied, 0, s⟩ := by
  cases s <;> simp [draw]

/-- **A haul accounts for the script.** The elements brought and the entries left are together
no more than the script was long. -/
theorem length_elements_add_length_rest_le (limit : Option Nat) (s : Source α) :
    (draw limit s).elements.length + (draw limit s).rest.length ≤ s.length := by
  fun_induction draw limit s with
  | case3 limit x rest _ ih => simp only [Haul.after, List.length_cons]; omega
  | _ => simp

/-- A satisfied haul holds exactly as many elements as were asked for. -/
theorem length_elements_of_satisfied {n : Nat} {s : Source α}
    (h : (draw (some n) s).stop = .satisfied) : (draw (some n) s).elements.length = n := by
  induction s generalizing n with
  | nil => cases n <;> simp_all [draw]
  | cons e rest ih =>
    cases n with
    | zero => simp
    | succ n => cases e <;> simp_all [draw, Haul.after]

end Source

end Rewind
