import Rewind.Proofs.Patterns
import Rewind.Proofs.Simulation

/-!
# Running off the end

A head that is sent to where the text has no more elements stays where it is and is marked as having
reached the end. Which operations can do that cannot be seen from their answers: a read that answers
with nothing may have run off the end or not, and some operations look before they move and never
get there. `Operation.RunsOff` tells it from the text, the place of the head and what is asked.

It is proved here for heads over a text that is all there (`Text.On.marks_run`). **An operation that
is answered leaves the mark set if it was or if the operation ran off the end, and not otherwise;
one that fails leaves it as it was** (`Text.Marks`). The moves are compared with the length of the
text. A walk is followed by induction on its steps: it runs off if nothing that is left stops it.
-/

namespace Rewind

variable {α β γ : Type}

/-- Whether an operation asked of a head on the place `h` takes it off the end of the text. A move
does when it is sent to a place behind the last element, and a read when it would be: from the last
element if it takes one, or if all that is left passes the test of its walk. A pattern that ends the
text is not found if there is no place behind it. -/
def Operation.RunsOff [DecidableEq α] (text : List α) (h : Int) : Operation α → Prop
  | .moveBy offset => Fits (h + offset) ∧ text.length ≤ h + offset
  | .skip count => Fits (h + count) ∧ text.length ≤ h + count
  | .moveTo place offset => Fits (place.index + offset) ∧ text.length ≤ place.index + offset
  | .reset place => Fits place.index ∧ text.length ≤ place.index
  | .read | .readNext => h + 1 = text.length
  | .readIf m => h + 1 = text.length ∧ text[h.toNat]?.any m.accepts = true
  | .readSeq pattern =>
    Occurs pattern text h ∧ h + pattern.length = text.length ∧ Fits text.length
  | .readWhile m | .skipWhile m => ∀ x ∈ text.drop h.toNat, m.accepts x = true
  | .skipBlank blank _ => ∀ x ∈ text.drop h.toNat, blank x = true
  | .readWord starts continues =>
    text[h.toNat]?.any starts = true ∧ ∀ x ∈ text.drop (h.toNat + 1), continues x = true
  | _ => False

/-- A walk that nothing stops ends where the text does. -/
theorem firstRefused_eq_length_iff {p : α → Bool} {text : List α} {i : Nat}
    (hle : i ≤ text.length) :
    firstRefused p text i = text.length ↔ ∀ x ∈ text.drop i, p x = true := by
  have hwhole : firstRefused p text i = text.length ↔ (text.drop i).takeWhile p = text.drop i := by
    rw [firstRefused]
    constructor
    · intro hlength
      refine (List.takeWhile_sublist p).eq_of_length ?_
      rw [List.length_drop]
      omega
    · intro heq
      rw [heq, List.length_drop]
      omega
  rw [hwhole]
  constructor
  · intro heq x hx
    rw [← heq] at hx
    exact List.all_eq_true.1 List.all_takeWhile x hx
  · intro hall
    have happend : (text.drop i ++ []).takeWhile p = text.drop i ++ [].takeWhile p :=
      List.takeWhile_append_of_pos hall
    rwa [List.append_nil, List.takeWhile_nil, List.append_nil] at happend

namespace Text

/-! ### Marks -/

/-- How an action leaves the mark of a head, where `ended` tells whether it ran off the end. -/
def Marks (c : Cursor) (ended : Prop) : EStateM.Result Fault Cursor β → Prop
  | .ok _ d => d.reachedEnd = true ↔ c.reachedEnd = true ∨ ended
  | .error _ d => d.reachedEnd = c.reachedEnd

/-- Whether a head is on the place `h` of the text. -/
structure On (t : Text α) (c : Cursor) (h : Nat) : Prop where
  index_eq : c.index = h
  lt_length : h < t.elements.length
  le_lastPlace : h ≤ lastPlace

variable {t : Text α} {c d : Cursor} {h : Nat} {ended : Prop}

theorem Marks.unmarked {b : β} (hd : d.reachedEnd = c.reachedEnd) (hended : ¬ ended) :
    Marks c ended (.ok b d : EStateM.Result Fault Cursor β) := by
  rw [Marks, hd]
  exact (or_iff_left hended).symm

theorem Marks.marked {b : β} (hd : d.reachedEnd = true) (hended : ended) :
    Marks c ended (.ok b d : EStateM.Result Fault Cursor β) :=
  iff_of_true hd (.inr hended)

/-- What comes after an action and leaves the head as it is leaves the mark that the action left. -/
theorem Marks.bind {x : Action Cursor β} (hx : Marks c ended (x.run d)) {f : β → Action Cursor γ}
    (hf : ∀ b e, ∃ y, (f b).run e = .ok y e) : Marks c ended ((x >>= f).run d) := by
  rcases hrun : x.run d with ⟨b, e⟩ | ⟨fault, e⟩
  · obtain ⟨y, hy⟩ := hf b e
    rw [hrun] at hx
    rw [Action.run_bind_of_ok hrun, hy]
    exact hx
  · rw [hrun] at hx
    rw [Action.run_bind_of_error hrun]
    exact hx

/-- Answers may be changed on their way out. -/
theorem Marks.map {x : Action Cursor β} (hx : Marks c ended (x.run d)) (g : β → γ) :
    Marks c ended ((do return g (← x)).run d) :=
  hx.bind fun b _ => ⟨g b, rfl⟩

/-! ### Looking -/

/-- Actions that leave a head as it is, whether they fail or not. -/
def still : Judgement Cursor :=
  .ofRelation (fun c _ d => d = c) (fun _ => rfl) fun _ _ _ _ h h' => h'.trans h

/-- What leaves a head as it is leaves its mark. -/
theorem Marks.of_still {x : Action Cursor β} (hx : still.Holds x c) : Marks c False (x.run c) := by
  have hends := Judgement.ofRelation_iff.1 hx
  rcases hrun : x.run c with ⟨b, d⟩ | ⟨fault, d⟩
  · exact .unmarked (congrArg _ (hends.of_ok hrun)) id
  · exact congrArg Cursor.reachedEnd (hends.of_error hrun)

theorem still_peek (offset : Int) (c : Cursor) : still.Holds (t.peek offset) c :=
  Judgement.ofRelation_of_run (r := .ok (t.seen c offset) c) rfl rfl

theorem still_current (c : Cursor) : still.Holds t.current c := by
  refine still.seq (still_peek 0 c) fun x d _ => ?_
  rcases x with _ | x
  · exact Judgement.ofRelation_of_run (r := .error _ d) rfl rfl
  · exact still.done x d

theorem still_matchesAt [DecidableEq α] (offset : Int) (pattern : List α) (c : Cursor) :
    still.Holds (t.matchesAt offset pattern) c := by
  have hraise (kind : Misuse) {γ : Type} (d : Cursor) :
      still.Holds (throw (.misuse kind) : Action Cursor γ) d :=
    Judgement.ofRelation_of_run (r := .error (.misuse kind) d) rfl rfl
  have hfrom (matched : Nat) (d : Cursor) :
      still.Holds (t.matchesFrom offset matched pattern) d := by
    induction pattern generalizing matched d with
    | nil => exact still.done true d
    | cons x rest ih =>
      refine still.seq (still.orOverflow (hraise _ d) _) fun i e _ => ?_
      rcases Offset.add? offset i with _ | ahead
      · exact still.done false e
      · exact still.seq (still_peek ahead e) fun y u _ =>
          still.ite (fun _ => ih _ u) fun _ => still.done false u
  exact still.ite (fun _ => hraise _ c) fun _ => hfrom 0 c

namespace On

variable (hc : t.On c h)

include hc

/-- What is seen ahead is there in the text, if it is at a place. -/
theorem seen_eq (e : Nat) :
    t.seen c e = if h + e ≤ lastPlace then t.elements[h + e]? else none := by
  have hsum : c.index + e = (h + e : Nat) := by rw [hc.index_eq, Int.natCast_add]
  rw [seen]
  by_cases hplace : h + e ≤ lastPlace
  · rw [if_pos hplace, Offset.add?_eq_some_iff.2 ⟨hsum ▸ fits_natCast.2 hplace, hsum⟩,
      Option.bind_some, elementAt?, if_neg (Int.not_lt.2 (Int.natCast_nonneg _)), Int.toNat_natCast]
  · rw [if_neg hplace, Offset.add?_eq_none_iff.2 (hsum ▸ mt fits_natCast.1 hplace),
      Option.bind_none]

theorem run_peek (e : Nat) :
    (t.peek e).run c =
      .ok (if h + e ≤ lastPlace then t.elements[h + e]? else none) c :=
  congrArg (EStateM.Result.ok · c) (hc.seen_eq e)

theorem run_peek_zero {x : α} (hx : t.elements[h]? = some x) :
    (t.peek 0).run c = .ok (some x) c := by
  have hpeek := hc.run_peek 0
  rwa [Nat.add_zero, if_pos hc.le_lastPlace, hx] at hpeek

section Matching

variable [DecidableEq α]

/-- A pattern is found where the rest of the text begins with it. -/
theorem run_matchesFrom (offset matched : Nat) (pattern : List α) :
    match (t.matchesFrom offset matched pattern).run c with
    | .ok true d => d = c ∧ pattern <+: t.elements.drop (h + offset + matched)
    | .ok false d => d = c ∧ (h + offset + matched + pattern.length ≤ lastPlace + 1 →
        ¬ pattern <+: t.elements.drop (h + offset + matched))
    | .error _ d => d = c := by
  induction pattern generalizing matched with
  | nil => exact ⟨rfl, List.nil_prefix⟩
  | cons x rest ih =>
    rw [matchesFrom]
    by_cases hcount : Fits matched
    case neg =>
      rw [Offset.ofCount?_eq_none_iff.2 hcount]
      exact rfl
    rw [Offset.ofCount?_eq_some_iff.2 ⟨hcount, rfl⟩]
    simp only [Offset.orOverflow, pure_bind]
    by_cases hahead : offset + matched ≤ lastPlace
    case neg =>
      rw [Offset.add?_eq_none_iff.2 (mt fits_natCast.1 hahead)]
      exact ⟨rfl, fun hlast => absurd hlast (by rw [List.length_cons]; omega)⟩
    rw [Offset.add?_eq_some_iff.2 ⟨fits_natCast.2 hahead, (Int.natCast_add ..).symm⟩]
    simp only [Action.run_bind_of_ok (hc.run_peek (offset + matched)), ← Nat.add_assoc]
    by_cases hplace : h + offset + matched ≤ lastPlace
    case neg =>
      rw [if_neg hplace, if_neg (Option.some_ne_none x).symm]
      exact ⟨rfl, fun hlast => absurd hlast (by rw [List.length_cons]; omega)⟩
    rw [if_pos hplace]
    rcases hy : t.elements[h + offset + matched]? with _ | y
    · have hnil := List.drop_eq_nil_of_le (List.getElem?_eq_none_iff.1 hy)
      rw [if_neg (Option.some_ne_none x).symm, hnil]
      exact ⟨rfl, fun _ hprefix => List.cons_ne_nil x rest (List.prefix_nil.1 hprefix)⟩
    have hdrop : t.elements.drop (h + offset + matched) =
        y :: t.elements.drop (h + offset + (matched + 1)) := by
      rw [List.drop_eq_getElem?_toList_append, hy]
      rfl
    rw [hdrop, List.length_cons]
    by_cases hyx : y = x
    · subst hyx
      have hrest := ih (matched + 1)
      simp only [if_true, List.prefix_cons_inj]
      rwa [show h + offset + (matched + 1) + rest.length =
        h + offset + matched + (rest.length + 1) by omega] at hrest
    · rw [if_neg (mt Option.some.inj hyx)]
      exact ⟨rfl, fun _ hprefix => hyx (List.cons_prefix_cons.1 hprefix).1.symm⟩

/-- A pattern is found where it occurs, as far as there are places. -/
theorem run_matchesAt (offset : Nat) (pattern : List α) :
    match (t.matchesAt offset pattern).run c with
    | .ok true d => d = c ∧ 0 < pattern.length ∧ Occurs pattern t.elements (h + offset : Nat)
    | .ok false d => d = c ∧ (h + offset + pattern.length ≤ lastPlace + 1 →
        ¬ Occurs pattern t.elements (h + offset : Nat))
    | .error _ d => d = c := by
  have hfrom := hc.run_matchesFrom offset 0 pattern
  rw [matchesAt]
  by_cases hempty : pattern.isEmpty = true
  · rw [if_pos hempty]
    exact rfl
  rw [if_neg hempty]
  rw [List.isEmpty_iff] at hempty
  rw [occurs_iff_common hempty, common_eq_length_iff]
  rcases hrun : (t.matchesFrom offset 0 pattern).run c with ⟨_ | _, d⟩ | ⟨fault, d⟩
  · rw [hrun] at hfrom
    exact hfrom
  · rw [hrun] at hfrom
    exact ⟨hfrom.1, List.length_pos_iff.2 hempty, hfrom.2⟩
  · rw [hrun] at hfrom
    exact hfrom

end Matching

/-- Past an element that passes, a scan goes on from the next place, if there is one. -/
theorem run_scan_of_passed {p : α → Bool} {most e : Nat} {x : α} (hplace : h + e ≤ lastPlace)
    (hx : t.elements[h + e]? = some x) (hp : p x = true) :
    (t.scan p (most + 1) e).run c =
      if e + 1 ≤ lastPlace then
        (do
          let scanned ← t.scan p most (e + 1 : Nat)
          return { scanned with passed := x :: scanned.passed } : Action Cursor (Scanned α)).run c
      else .error (.misuse .seekOverflow) c := by
  have hpeek := hc.run_peek e
  rw [if_pos hplace, hx] at hpeek
  have hadd : Offset.add? e 1 = if e + 1 ≤ lastPlace then some ((e + 1 : Nat) : Int) else none := by
    simp only [Offset.add?, ← Int.natCast_succ, Offset.checked?, fits_natCast]
  rw [scan, Action.run_bind_of_ok hpeek]
  simp only [if_pos hp, hadd]
  by_cases hnext : e + 1 ≤ lastPlace
  · simp only [if_pos hnext]
    rfl
  · simp only [if_neg hnext]
    rfl

/-- A scan stops at the first element that is refused, or where there is no place to look at. -/
theorem run_scan (p : α → Bool) {most e : Nat} (hmost : t.elements.length ≤ most + (h + e)) :
    match (t.scan p most e).run c with
    | .ok scanned d => d = c ∧
        (h + e + scanned.passed.length = firstRefused p t.elements (h + e) ∧
            scanned.stop = t.elements[firstRefused p t.elements (h + e)]? ∨
          lastPlace < h + e + scanned.passed.length ∧ scanned.stop = none)
    | .error _ d => d = c := by
  induction most generalizing e with
  | zero =>
    have hnone := List.getElem?_eq_none (l := t.elements) (i := h + e) (by omega)
    have hfirst := firstRefused_of_none (p := p) hnone
    refine ⟨rfl, .inl ⟨hfirst.symm, ?_⟩⟩
    rw [hfirst, hnone]
  | succ most ih =>
    by_cases hplace : h + e ≤ lastPlace
    case neg =>
      rw [scan, Action.run_bind_of_ok (hc.run_peek e), if_neg hplace]
      exact ⟨rfl, .inr ⟨Nat.not_le.1 hplace, rfl⟩⟩
    rcases hx : t.elements[h + e]? with _ | x
    · have hfirst := firstRefused_of_none (p := p) hx
      rw [scan, Action.run_bind_of_ok (hc.run_peek e), if_pos hplace, hx]
      refine ⟨rfl, .inl ⟨hfirst.symm, ?_⟩⟩
      rw [hfirst, hx]
    rcases hp : p x
    · have hfirst := firstRefused_of_refused hx hp
      rw [scan, Action.run_bind_of_ok (hc.run_peek e), if_pos hplace, hx]
      simp only [hp, Bool.false_eq_true, if_false]
      refine ⟨rfl, .inl ⟨hfirst.symm, ?_⟩⟩
      rw [hfirst, hx]
    rw [hc.run_scan_of_passed hplace hx hp, firstRefused_of_passed hx hp]
    by_cases hnext : e + 1 ≤ lastPlace
    case neg => rw [if_neg hnext]
    rw [if_pos hnext]
    have hrest := ih (e := e + 1) (by omega)
    rcases hrun : (t.scan p most (e + 1 : Nat)).run c with ⟨scanned, d⟩ | ⟨fault, d⟩
    · rw [hrun] at hrest
      rw [Action.run_bind_of_ok hrun]
      have hcount : h + e + (x :: scanned.passed).length =
          h + (e + 1) + scanned.passed.length := by
        rw [List.length_cons]
        omega
      refine ⟨hrest.1, ?_⟩
      simp only [hcount]
      exact hrest.2
    · rw [hrun] at hrest
      rw [Action.run_bind_of_error hrun]
      exact hrest

/-! ### Moving -/

omit hc in
/-- A head that moves within the text is on a place of it. -/
theorem onto {i : Nat} (hlt : i < t.elements.length) (hle : i ≤ lastPlace) :
    t.On (t.onto c i) i :=
  ⟨rfl, hlt, hle⟩

theorem marks_moveBy {offset : Int}
    (hended : Fits (h + offset) → (ended ↔ t.elements.length ≤ h + offset)) :
    Marks c ended ((t.moveBy offset).run c) := by
  have hlt := hc.lt_length
  rw [run_moveBy, hc.index_eq]
  by_cases h0 : offset = 0
  · have hfits : Fits (h + offset) := by
      rw [h0, Int.add_zero]
      exact fits_natCast.2 hc.le_lastPlace
    rw [if_pos h0, hended hfits]
    exact .unmarked rfl (by omega)
  rw [if_neg h0]
  by_cases hfits : Fits (h + offset)
  case neg =>
    rw [if_pos hfits]
    exact rfl
  rw [if_neg (not_not_intro hfits), hended hfits]
  split
  · exact .unmarked rfl (by omega)
  split
  · exact .unmarked rfl (by omega)
  · exact .marked rfl (by omega)

theorem marks_skip {count : Nat}
    (hended : Fits (h + count) → (ended ↔ t.elements.length ≤ h + count)) :
    Marks c ended ((t.skip count).run c) := by
  rw [skip]
  by_cases hcount : Fits count
  · rw [Offset.ofCount?_eq_some_iff.2 ⟨hcount, rfl⟩]
    exact hc.marks_moveBy fun hfits => (hended hfits).trans (by omega)
  · rw [Offset.ofCount?_eq_none_iff.2 hcount]
    exact rfl

theorem marks_rewind (count : Nat) : Marks c False ((t.rewind count).run c) := by
  have hlt := hc.lt_length
  rw [rewind]
  by_cases hcount : Fits count
  · rw [Offset.ofCount?_eq_some_iff.2 ⟨hcount, rfl⟩]
    exact hc.marks_moveBy fun _ => iff_of_false id (by omega)
  · rw [Offset.ofCount?_eq_none_iff.2 hcount]
    exact rfl

theorem marks_moveTo {place : Location} {offset : Int}
    (hended : Fits (place.index + offset) →
      (ended ↔ t.elements.length ≤ place.index + offset)) :
    Marks c ended ((t.moveTo place offset).run c) := by
  have hlt := hc.lt_length
  rw [run_moveTo, hc.index_eq]
  by_cases hfits : Fits (place.index + offset)
  case neg =>
    rw [if_pos hfits]
    exact rfl
  rw [if_neg (not_not_intro hfits), hended hfits]
  split
  · exact .unmarked rfl (by omega)
  split
  · exact .unmarked rfl (by omega)
  split
  · exact hc.marks_moveBy fun _ => by omega
  · exact rfl

/-! ### Reading -/

/-- The head goes over a pattern that it was shown, which takes it off the end of the text if the
pattern starts at the head and ends where the text does. -/
theorem marks_advanceOver [DecidableEq α] (offset : Nat) (pattern : List α)
    (hended : ended ↔ offset = 0 ∧ Occurs pattern t.elements h ∧
      (h : Int) + pattern.length = t.elements.length ∧ Fits t.elements.length) :
    Marks c ended ((t.advanceOver pattern offset).run c) := by
  have hmatch := hc.run_matchesAt offset pattern
  rw [advanceOver]
  rcases hrun : (t.matchesAt offset pattern).run c with ⟨_ | _, d⟩ | ⟨fault, d⟩
  · rw [hrun] at hmatch
    obtain ⟨rfl, hnone⟩ := hmatch
    rw [Action.run_bind_of_ok hrun]
    refine .unmarked rfl fun h => ?_
    obtain ⟨rfl, hoccurs, hlength, hfits⟩ := hended.1 h
    have hlast := fits_natCast.1 hfits
    exact hnone (by omega) hoccurs
  · rw [hrun] at hmatch
    obtain ⟨rfl, hpos, hoccurs⟩ := hmatch
    rw [Action.run_bind_of_ok hrun, if_pos rfl]
    refine hc.marks_skip fun hfits => hended.trans ?_
    have hle := hoccurs.2.1
    constructor
    · rintro ⟨-, -, hlength, -⟩
      omega
    · intro hend
      have hzero : offset = 0 := by omega
      subst hzero
      have hlength : (h : Int) + pattern.length = t.elements.length := by omega
      exact ⟨rfl, hoccurs, hlength, hlength ▸ hfits⟩
  · rw [hrun] at hmatch
    rw [Action.run_bind_of_error hrun]
    exact congrArg Cursor.reachedEnd hmatch

/-- A head advances within the text, or finds the end, or has no place to go to. -/
theorem run_advanceWith (x : α) :
    (t.advanceWith x).run c =
      if lastPlace ≤ h then .error (.misuse .seekOverflow) c
      else if h + 1 < t.elements.length then .ok (some x) (t.onto c (h + 1 : Nat))
      else .ok none { c with reachedEnd := true } := by
  have hfits : Fits (c.index + 1) ↔ h + 1 ≤ lastPlace := by
    rw [hc.index_eq, ← Int.natCast_succ, fits_natCast]
  have hmove := run_moveBy t 1 c
  rw [if_neg Int.one_ne_zero] at hmove
  by_cases hlast : lastPlace ≤ h
  · rw [if_pos (mt hfits.1 (by omega))] at hmove
    rw [if_pos hlast]
    exact Action.run_bind_of_error hmove
  rw [if_neg (not_not_intro (hfits.2 (by omega))), hc.index_eq, ← Int.natCast_succ,
    if_neg (by omega)] at hmove
  rw [if_neg hlast]
  by_cases hlt : h + 1 < t.elements.length
  · rw [if_pos (Int.ofNat_lt.2 hlt)] at hmove
    rw [if_pos hlt]
    exact Action.run_bind_of_ok hmove
  · rw [if_neg (mt Int.ofNat_lt.1 hlt)] at hmove
    rw [if_neg hlt, hc.index_eq]
    exact Action.run_bind_of_ok hmove

/-- The element under the head is taken if it passes and another one follows. -/
theorem run_advanceIf (p : α → Bool) {x : α} (hx : t.elements[h]? = some x) :
    (t.advanceIf p 0).run c = if p x then (t.advanceWith x).run c else .ok none c := by
  rw [advanceIf, Action.run_bind_of_ok (hc.run_peek_zero hx)]
  simp only
  split <;> rfl

/-- The element ahead is looked at first, so the head goes onto an element or stays. -/
theorem run_advanceIf_ahead (p : α → Bool) :
    (t.advanceIf p 1).run c = .ok none c ∨ ∃ x, t.On (t.onto c (h + 1 : Nat)) (h + 1) ∧
      (t.advanceIf p 1).run c = .ok (some x) (t.onto c (h + 1 : Nat)) := by
  have hpeek : (t.peek 1).run c = _ := hc.run_peek 1
  rw [advanceIf, Action.run_bind_of_ok hpeek]
  by_cases hplace : h + 1 ≤ lastPlace
  case neg =>
    rw [if_neg hplace]
    exact .inl rfl
  rw [if_pos hplace]
  rcases hx : t.elements[h + 1]? with _ | x
  · exact .inl rfl
  obtain ⟨hlt, -⟩ := List.getElem?_eq_some_iff.1 hx
  by_cases hp : p x = true
  · simp only [if_pos hp]
    rw [hc.run_advanceWith, if_neg (Nat.not_le.2 hplace), if_pos hlt]
    exact .inr ⟨x, onto hlt hplace, rfl⟩
  · simp only [if_neg hp]
    exact .inl rfl

theorem marks_advanceIf {p : α → Bool} {x : α} (hx : t.elements[h]? = some x)
    (hended : ended ↔ h + 1 = t.elements.length ∧ p x = true) :
    Marks c ended ((t.advanceIf p 0).run c) := by
  have hlt := hc.lt_length
  rw [hc.run_advanceIf p hx, hended]
  split
  case isFalse hp => exact .unmarked rfl fun h => hp h.2
  case isTrue hp =>
    rw [hc.run_advanceWith]
    split
    · exact rfl
    split
    · exact .unmarked rfl (by omega)
    · exact .marked rfl ⟨by omega, hp⟩

theorem marks_advanceIf_ahead (p : α → Bool) : Marks c False ((t.advanceIf p 1).run c) := by
  rcases hc.run_advanceIf_ahead p with hrun | ⟨x, -, hrun⟩
  · rw [hrun]
    exact .unmarked rfl id
  · rw [hrun]
    exact .unmarked rfl id

theorem marks_readNext (hended : ended ↔ h + 1 = t.elements.length) :
    Marks c ended (t.readNext.run c) := by
  have hlt := hc.lt_length
  have hmove : Marks c ended ((t.moveBy 1).run c) :=
    hc.marks_moveBy fun _ => hended.trans (by omega)
  refine hmove.bind fun moved d => ?_
  rcases moved
  · exact ⟨none, rfl⟩
  · exact ⟨t.seen d 0, rfl⟩

/-! ### Walking -/

/-- **A walk runs off the end if nothing that is left stops it**, by induction on its steps. -/
theorem marks_many {p : α → Bool} {most : Nat} (hmost : t.elements.length ≤ most + h) :
    Marks c (firstRefused p t.elements h = t.elements.length)
      ((many (t.advanceIf p 0) most).run c) := by
  have hlt := hc.lt_length
  induction most generalizing c h with
  | zero => omega
  | succ most ih =>
    have hx := List.getElem?_eq_getElem hlt
    have hstep := hc.run_advanceIf p hx
    rw [many]
    rcases hp : p t.elements[h]
    · rw [hp, if_neg Bool.false_ne_true] at hstep
      rw [Action.run_bind_of_ok hstep, firstRefused_of_refused hx hp]
      exact .unmarked rfl (Nat.ne_of_lt hlt)
    rw [hp, if_pos rfl, hc.run_advanceWith] at hstep
    rw [firstRefused_of_passed hx hp]
    by_cases hlast : lastPlace ≤ h
    · rw [if_pos hlast] at hstep
      rw [Action.run_bind_of_error hstep]
      exact rfl
    rw [if_neg hlast] at hstep
    by_cases hnext : h + 1 < t.elements.length
    · rw [if_pos hnext] at hstep
      rw [Action.run_bind_of_ok hstep]
      exact .map (ih (onto (c := c) hnext (by omega)) (by omega) hnext) _
    · have hnone := List.getElem?_eq_none (Nat.not_lt.1 hnext)
      rw [if_neg hnext] at hstep
      rw [Action.run_bind_of_ok hstep, firstRefused_of_none hnone]
      exact .marked rfl (by omega)

/-- A walk that looks ahead never does. -/
theorem marks_many_ahead (p : α → Bool) (most : Nat) :
    Marks c False ((many (t.advanceIf p 1) most).run c) := by
  induction most generalizing c h with
  | zero => exact .unmarked rfl id
  | succ most ih =>
    rw [many]
    rcases hc.run_advanceIf_ahead p with hrun | ⟨x, hnext, hrun⟩
    · rw [Action.run_bind_of_ok hrun]
      exact .unmarked rfl id
    · rw [Action.run_bind_of_ok hrun]
      exact .map (ih hnext) _

/-- Looking for an element goes onto one or nowhere. -/
theorem marks_skipUntil (p : α → Bool) : Marks c False ((t.skipUntil p).run c) := by
  have hscan := hc.run_scan (fun x => !p x) (e := 0) (Nat.le_add_right t.elements.length (h + 0))
  rw [skipUntil]
  rcases hrun : (t.scan (fun x => !p x) t.elements.length 0).run c with
    ⟨scanned, d⟩ | ⟨fault, d⟩
  · rw [Int.natCast_zero, hrun] at hscan
    obtain ⟨rfl, hstop⟩ := hscan
    rw [Action.run_bind_of_ok hrun]
    split
    case isFalse => exact .unmarked rfl id
    case isTrue hsome =>
      obtain ⟨x, hx⟩ := Option.isSome_iff_exists.1 hsome
      rcases hstop with ⟨hlength, hfound⟩ | ⟨-, hnone⟩
      · obtain ⟨hlt, -⟩ := List.getElem?_eq_some_iff.1 (hfound.symm.trans hx)
        exact hc.marks_skip fun _ => iff_of_false id (by omega)
      · cases hnone.symm.trans hx
  · rw [Int.natCast_zero, hrun] at hscan
    rw [Action.run_bind_of_error hrun]
    exact congrArg Cursor.reachedEnd hscan

/-- A word runs off the end if nothing that is left stops it. -/
theorem marks_readWord {starts continues : α → Bool} {x : α} (hx : t.elements[h]? = some x)
    (hended : ended ↔ starts x = true ∧
      firstRefused continues t.elements (h + 1) = t.elements.length) :
    Marks c ended ((t.readWord starts continues).run c) := by
  have hlt := hc.lt_length
  have hscan := hc.run_scan continues (e := 1) (Nat.le_add_right t.elements.length (h + 1))
  rw [readWord, Action.run_bind_of_ok (hc.run_peek_zero hx)]
  simp only
  split
  case isFalse hstarts => exact .unmarked rfl fun hend => hstarts (hended.1 hend).1
  case isTrue hstarts =>
    rcases hrun : (t.scan continues t.elements.length 1).run c with ⟨scanned, d⟩ | ⟨fault, d⟩
    · have hscanned := hscan
      rw [Int.natCast_one, hrun] at hscanned
      obtain ⟨rfl, hstop⟩ := hscanned
      rw [Action.run_bind_of_ok hrun]
      refine .map (hc.marks_skip fun hfits => hended.trans ?_) _
      rw [and_iff_right hstarts]
      rcases hstop with ⟨hlength, -⟩ | ⟨hfar, -⟩
      · have hle : firstRefused continues t.elements (h + 1) ≤ t.elements.length :=
          firstRefused_le hlt
        omega
      · rw [← Int.natCast_add, fits_natCast] at hfits
        omega
    · rw [Int.natCast_one, hrun] at hscan
      rw [Action.run_bind_of_error hrun]
      exact congrArg Cursor.reachedEnd hscan

/-- What is asked when blanks have been skipped only looks. -/
theorem marks_skipBlank (blank : α → Bool) (endCounts : Bool) :
    Marks c (firstRefused blank t.elements h = t.elements.length)
      ((t.skipBlank blank endCounts).run c) := by
  have hskip : Marks c (firstRefused blank t.elements h = t.elements.length)
      ((t.skipWhile blank).run c) := (hc.marks_many (Nat.le_add_right ..)).map _
  refine hskip.bind fun skipped d => ?_
  split
  · exact ⟨true, rfl⟩
  split
  · exact ⟨false, rfl⟩
  rw [Action.run_bind_of_ok (EStateM.run_get d)]
  split
  · exact ⟨true, rfl⟩
  have hpeek : (t.peek 0).run d = .ok (t.seen d 0) d := rfl
  rw [Action.run_bind_of_ok hpeek]
  rcases t.seen d 0 with _ | x
  · exact ⟨false, rfl⟩
  simp only
  split
  · exact ⟨(t.seen d 1).isNone, rfl⟩
  · exact ⟨false, rfl⟩

/-! ### Operations -/

/-- **An operation marks a head exactly when it runs off the end.** -/
theorem marks_run [DecidableEq α] (operation : Operation α) :
    Marks c (operation.RunsOff t.elements c.index) ((t.run operation).run c) := by
  rw [hc.index_eq]
  have hlt := hc.lt_length
  have hx : t.elements[h]? = some t.elements[h] := List.getElem?_eq_getElem hlt
  have hwalk (p : α → Bool) : Marks c (∀ x ∈ t.elements.drop h, p x = true)
      ((many (t.advanceIf p 0) t.elements.length).run c) := by
    have hmany := hc.marks_many (p := p) (Nat.le_add_right t.elements.length h)
    rwa [firstRefused_eq_length_iff (Nat.le_of_lt hlt)] at hmany
  have hnext : (h : Int) + 1 = t.elements.length ↔ h + 1 = t.elements.length := by omega
  cases operation with
  | slot | location | sourceIsEmpty | isAtStart | isStartOfLine | text => exact .unmarked rfl id
  | previous => exact .map (.of_still (still_peek _ c)) _
  | next => exact .map (.of_still (still_peek _ c)) _
  | peek offset => exact .map (.of_still (still_peek _ c)) _
  | isAtEnd => exact .map (.of_still (still.map (still_peek _ c) _)) _
  | current => exact .map (.of_still (still_current c)) _
  | matchesAt offset pattern => exact .map (.of_still (still_matchesAt offset pattern c)) _
  | moveBy offset => exact .map (hc.marks_moveBy and_iff_right) _
  | moveTo place offset => exact .map (hc.marks_moveTo and_iff_right) _
  | reset place =>
    refine .map (hc.marks_moveTo ?_) _
    rw [Int.add_zero]
    exact and_iff_right
  | skip count =>
    refine .map (hc.marks_skip fun hfits => (and_iff_right hfits).trans ?_) _
    omega
  | rewind count => exact .map (hc.marks_rewind count) _
  | read => exact .map (hc.marks_advanceIf hx (hnext.trans (and_iff_left rfl).symm)) _
  | readIf m =>
    refine .map (hc.marks_advanceIf hx (and_congr hnext ?_)) _
    rw [Int.toNat_natCast, hx, Option.any_some]
  | readSeq pattern =>
    exact .map (hc.marks_advanceOver 0 pattern (and_iff_right rfl).symm) _
  | readNext => exact .map (hc.marks_readNext hnext) _
  | readNextIf m => exact .map (hc.marks_advanceIf_ahead _) _
  | readNextSeq pattern =>
    exact .map (hc.marks_advanceOver 1 pattern (iff_of_false id fun h => nomatch h.1)) _
  | readWhile m => exact .map (hwalk _) _
  | readNextWhile m => exact .map (hc.marks_many_ahead _ _) _
  | skipWhile m => exact .map (.map (hwalk _) _) _
  | skipUntil m => exact .map (hc.marks_skipUntil _) _
  | skipBlank blank endCounts =>
    have hblank := hc.marks_skipBlank blank endCounts
    rw [firstRefused_eq_length_iff (Nat.le_of_lt hlt)] at hblank
    exact .map hblank _
  | readWord starts continues =>
    refine .map (hc.marks_readWord hx (and_congr ?_ ?_)) _
    · rw [Int.toNat_natCast, hx, Option.any_some]
    · exact (firstRefused_eq_length_iff hlt).symm

end On

end Text

end Rewind
