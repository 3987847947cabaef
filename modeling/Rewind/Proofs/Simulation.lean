import Rewind.Proofs.Eager
import Rewind.Proofs.Lines

/-!
# Each operation matches its eager meaning

A cursor over a buffer and a head over a text that is all there are asked the same. They answer
the same, and where they fail they fail the same, unless the source fails: `Text.Agrees` compares
how the two come out, and a failure of the source compares with anything, for it has no eager
counterpart.

`Text.Matches` says that two actions agree from every view that stands over the text and tells the
truth. It passes from the parts of an action to the whole, so the operations are compared step by
step. **Only looking and moving need an argument**: what has been pulled is the first part of the
text, and what has not is pulled when it is asked for. The loops need one more: an eager loop is
bounded by the length of the text, and a lazy one is over by then (`matches_scan`,
`matches_many`).
-/

namespace Rewind

variable {α β γ : Type} [LineElement α]

open Cursor

namespace Text

/-- Whether a view stands over the text: its head tells the truth, and what its buffer holds
together with what is still to come is the text. -/
structure Ready (t : Text α) (v : View α) : Prop where
  truthful : v.Truthful
  whole_eq : v.buffer.whole = t.elements
  feeds_eq : v.buffer.feeds = t.feeds

/-- Whether an action on a cursor and its buffer comes out as an action on a head alone. A failure
of the source has no eager counterpart. -/
def Agrees (t : Text α) : EStateM.Result Fault (View α) β → EStateM.Result Fault Cursor β → Prop
  | .ok b w, r => r = .ok b w.cursor ∧ t.Ready w
  | .error fault w, r => (∃ m, fault = .source m) ∨ r = .error fault w.cursor

/-- Whether two actions agree from a view, if it stands over the text. -/
def Matches (t : Text α) (x : Moving α β) (e : Action Cursor β) (v : View α) : Prop :=
  t.Ready v → t.Agrees (x.run v) (e.run v.cursor)

variable {t : Text α} {v : View α}

/-! ### Standing over a text -/

/-- A view still stands over the text when its buffer has grown. -/
theorem Ready.mono (h : t.Ready v) {b : Buffer α} {told : List (Entry α)}
    (hb : v.buffer.Takes told b) : t.Ready ⟨b, v.cursor⟩ where
  truthful := Location.TrueIn.mono h.truthful hb
  whole_eq := hb.whole_eq.trans h.whole_eq
  feeds_eq := hb.feeds_eq.trans h.feeds_eq

/-- The buffer holds no more than the text has. -/
theorem Ready.size_le (h : t.Ready v) : v.buffer.items.size ≤ t.elements.length := by
  rw [← h.whole_eq, Buffer.whole, List.length_append, Array.length_toList]
  omega

/-- The head is on an element of the text, unless the text is empty. -/
theorem Ready.index_cases (h : t.Ready v) :
    0 ≤ v.cursor.index ∧ v.cursor.index < v.buffer.items.size ∨
      v.cursor.index = -1 ∧ t.elements = [] := by
  rcases h.truthful.bears with hheld | ⟨hindex, hitems, hsource⟩
  · exact .inl (Buffer.holds_iff.1 hheld)
  · refine .inr ⟨hindex, ?_⟩
    rw [← h.whole_eq, Buffer.whole, hitems, hsource]
    rfl

/-- The head on another place, with the line and the column of that place if it keeps them. -/
def onto (t : Text α) (c : Cursor) (target : Int) : Cursor :=
  { c with index := target, position := c.position.map fun _ => t.position target }

/-- Put on a place that is held, a cursor has the line and the column the text gives. -/
theorem Ready.onto_eq (h : t.Ready v) {target : Int}
    (htarget : target.toNat ≤ v.buffer.items.size) :
    v.cursor.onto v.buffer target = t.onto v.cursor target := by
  have hbehind : Position.behind v.buffer.items target.toNat =
      (t.elements.take target.toNat).reverse := by
    rw [Position.behind_eq, ← h.whole_eq, Buffer.whole,
      List.take_append_of_le_length (by simpa using htarget)]
  rw [Cursor.onto, onto, hbehind, h.feeds_eq]
  rfl

/-- A view whose head is put on a place that is held stands over the text. -/
theorem Ready.put (h : t.Ready v) {target : Int} (hfits : Fits target)
    (hheld : v.buffer.holds target = true) :
    t.Agrees (.ok true { v with cursor := v.cursor.onto v.buffer target })
      (.ok true (t.onto v.cursor target)) := by
  have hle : target.toNat ≤ v.buffer.items.size := by
    rw [Buffer.holds_iff] at hheld
    omega
  refine ⟨?_, v.cursor.trueIn_onto hfits hheld, h.whole_eq, h.feeds_eq⟩
  rw [h.onto_eq hle]

/-! ### Matching, put together -/

omit [LineElement α] in
variable {x : Moving α β} {f : β → Moving α γ} {e : Action Cursor β} {g : β → Action Cursor γ}

theorem Matches.done (b : β) : t.Matches (pure b) (pure b) v :=
  fun h => ⟨rfl, h⟩

theorem Matches.raise (fault : Fault) :
    t.Matches (throw fault : Moving α β) (throw fault) v :=
  fun _ => .inr rfl

/-- Two actions in a row match two others when the first do and then the second. -/
theorem Matches.seq (hx : t.Matches x e v)
    (hf : ∀ b w, x.run v = .ok b w → t.Matches (f b) (g b) w) :
    t.Matches (x >>= f) (e >>= g) v := by
  intro h
  have hagrees := hx h
  rcases hrun : x.run v with ⟨b, w⟩ | ⟨fault, w⟩
  · rw [hrun] at hagrees
    obtain ⟨heager, hw⟩ := hagrees
    rw [Action.run_bind_of_ok hrun, Action.run_bind_of_ok heager]
    exact hf b w hrun hw
  · rw [hrun] at hagrees
    rw [Action.run_bind_of_error hrun]
    rcases hagrees with hsource | heager
    · exact .inl hsource
    · exact .inr (Action.run_bind_of_error heager)

/-- Answers may be changed on their way out. -/
theorem Matches.map (hx : t.Matches x e v) (g : β → γ) :
    t.Matches (do return g (← x)) (do return g (← e)) v :=
  hx.seq fun _ _ _ => .done _

theorem Matches.ite {p : Prop} [Decidable p] {y : Moving α β} {e' : Action Cursor β}
    (hx : p → t.Matches x e v) (hy : ¬ p → t.Matches y e' v) :
    t.Matches (if p then x else y) (if p then e else e') v := by
  split
  · next hp => exact hx hp
  · next hp => exact hy hp

theorem Matches.orOverflow (i : Option Int) :
    t.Matches (Offset.orOverflow i) (Offset.orOverflow i) v := by
  rcases i with _ | i
  · exact .raise _
  · exact .done i

/-- A look put together from two. -/
theorem Matches.look_seq {f : Cursor → Peeking α β} {k : Cursor → β → Peeking α γ}
    (hf : t.Matches (look f) e v)
    (hk : ∀ b w, (look f).run v = .ok b w → t.Matches (look (k · b)) (g b) w) :
    t.Matches (look fun c => f c >>= k c) (e >>= g) v := by
  rw [look_bind]
  exact hf.seq hk

/-- Reporting the head. -/
theorem Matches.head : t.Matches Cursor.head get v :=
  fun h => ⟨rfl, h⟩

/-! ### Looking -/

theorem matches_peek (offset : Int) (v : View α) :
    t.Matches (look (·.peek offset)) (t.peek offset) v := by
  intro h
  rw [run_look]
  rcases hrun : (v.cursor.peek offset).run v.buffer with ⟨x, b⟩ | ⟨fault, b⟩
  · obtain ⟨⟨told, hb, -⟩, rfl⟩ := of_run_peek hrun
    refine ⟨?_, h.mono hb⟩
    rw [h.whole_eq]
    rfl
  · exact .inl (fault_of_run_peek hrun)

theorem matches_text (v : View α) :
    t.Matches (look fun _ => Buffer.text) (pure t.elements) v := by
  intro h
  rw [run_look]
  rcases hrun : Buffer.text.run v.buffer with ⟨xs, b⟩ | ⟨fault, b⟩
  · obtain ⟨⟨told, hb, -⟩, -, rfl⟩ := Buffer.of_run_text hrun
    refine ⟨?_, h.mono hb⟩
    rw [h.whole_eq]
    rfl
  · exact .inl (Buffer.fault_of_run_text hrun)

/-- The element under a head, where the text is not empty. -/
theorem Ready.seen_zero (h : t.Ready v) (hindex : 0 ≤ v.cursor.index) :
    ∃ x, t.seen v.cursor 0 = some x := by
  have hsize := h.size_le
  have hlt : v.cursor.index.toNat < t.elements.length := by
    rcases h.index_cases with ⟨-, hlt⟩ | ⟨hindex', -⟩
    · omega
    · omega
  have hadd : Offset.add? v.cursor.index 0 = some v.cursor.index := by
    rw [Offset.add?_eq_some_iff, Int.add_zero]
    exact ⟨h.truthful.fits, rfl⟩
  refine ⟨t.elements[v.cursor.index.toNat], ?_⟩
  rw [seen, hadd, Option.bind_some, elementAt?, if_neg (by omega), List.getElem?_eq_getElem hlt]

omit [LineElement α] in
/-- In an empty text nothing is seen. -/
theorem seen_of_nil (ht : t.elements = []) (c : Cursor) (offset : Int) :
    t.seen c offset = none := by
  have hnone (i : Int) : elementAt? t.elements i = none := by
    rw [elementAt?, ht]
    split <;> rfl
  rw [seen]
  rcases Offset.add? c.index offset with _ | target
  · rfl
  · rw [Option.bind_some, hnone]

omit [LineElement α] in
/-- Beyond its end nothing is seen of a text. -/
theorem seen_of_length_le {c : Cursor} {offset : Int} (h : t.elements.length ≤ c.index + offset) :
    t.seen c offset = none := by
  rw [seen]
  rcases hadd : Offset.add? c.index offset with _ | target
  · rfl
  · obtain ⟨-, rfl⟩ := Offset.add?_eq_some_iff.1 hadd
    rw [Option.bind_some, elementAt?, if_neg (by omega), List.getElem?_eq_none (by omega)]

omit [LineElement α] in
theorem run_current (t : Text α) (c : Cursor) :
    t.current.run c =
      match t.seen c 0 with
      | some x => .ok x c
      | none => .error (.misuse .emptySource) c := by
  change (match t.seen c 0 with
    | some x => pure x
    | none => throw (.misuse .emptySource) : Action Cursor α).run c = _
  rcases t.seen c 0 with _ | x <;> rfl

theorem matches_current (v : View α) : t.Matches (look (·.current)) t.current v := by
  intro h
  rw [run_look, run_current]
  rcases h.index_cases with ⟨hindex, -⟩ | ⟨hindex, hnil⟩
  -- Over a text that is not empty there is an element under the head.
  · obtain ⟨x, hx⟩ := h.seen_zero hindex
    have hcurrent : v.cursor.current = (do
        match ← v.cursor.peek 0 with
        | some x => pure x
        | none => throw (.unbuffered v.cursor.index) : Peeking α α) := by
      rw [Cursor.current, Cursor.sourceIsEmpty, decide_eq_false (by omega)]
      rfl
    rw [hcurrent, hx]
    rcases hrun : (v.cursor.peek 0).run v.buffer with ⟨y, b⟩ | ⟨fault, b⟩
    · obtain ⟨⟨told, hb, -⟩, hy⟩ := of_run_peek hrun
      rw [h.whole_eq] at hy
      rw [Action.run_bind_of_ok hrun, hy.trans hx]
      exact ⟨rfl, h.mono hb⟩
    · rw [Action.run_bind_of_error hrun]
      exact .inl (fault_of_run_peek hrun)
  · rw [seen_of_nil hnil, Cursor.current, Cursor.sourceIsEmpty, decide_eq_true (by omega)]
    exact .inr rfl

theorem matches_isAtEnd (v : View α) : t.Matches (look (·.isAtEnd (α := α))) t.isAtEnd v := by
  intro h
  rcases h.index_cases with ⟨hindex, -⟩ | ⟨hindex, hnil⟩
  · have hlook : (look (·.isAtEnd (α := α))).run v =
        (look fun c => do return (← c.peek (α := α) 1).isNone).run v := by
      rw [run_look, run_look, Cursor.isAtEnd, Cursor.sourceIsEmpty, decide_eq_false (by omega)]
      rfl
    rw [hlook]
    exact Matches.look_seq (matches_peek 1 v) (fun _ _ _ => .done _) h
  · have hlook : (look (·.isAtEnd (α := α))).run v = .ok true v := by
      rw [run_look, Cursor.isAtEnd, Cursor.sourceIsEmpty, decide_eq_true (by omega)]
      rfl
    have heager : t.isAtEnd.run v.cursor = .ok true v.cursor := by
      change EStateM.Result.ok (t.seen v.cursor 1).isNone v.cursor = _
      rw [seen_of_nil hnil]
      rfl
    rw [hlook, heager]
    exact ⟨rfl, h⟩

section Matching

variable [DecidableEq α]

theorem matches_matchesFrom (offset : Int) (matched : Nat) (pattern : List α) (v : View α) :
    t.Matches (look (·.matchesFrom offset matched pattern)) (t.matchesFrom offset matched pattern)
      v := by
  induction pattern generalizing matched v with
  | nil => exact .done true
  | cons x rest ih =>
    simp only [Cursor.matchesFrom, matchesFrom]
    refine Matches.look_seq (by rw [look_orOverflow]; exact .orOverflow _) fun i w _ => ?_
    rcases Offset.add? offset i with _ | ahead
    · exact .done false
    · refine Matches.look_seq (matches_peek ahead w) fun y u _ => ?_
      rcases y with _ | y
      · exact .done false
      · by_cases hy : y = x
        · simpa only [hy, if_true] using ih (matched + 1) u
        · simpa only [hy, Option.some.injEq, if_false, look_pure] using .done false

theorem matches_matchesAt (offset : Int) (pattern : List α) (v : View α) :
    t.Matches (look (·.matchesAt offset pattern)) (t.matchesAt offset pattern) v := by
  simp only [Cursor.matchesAt, matchesAt]
  by_cases hp : pattern.isEmpty
  · simp only [if_pos hp]
    exact .raise _
  · simp only [if_neg hp]
    exact matches_matchesFrom offset 0 pattern v

end Matching

/-- What a look at one element answers is what is seen of the text. -/
theorem Ready.eq_seen (h : t.Ready v) {offset : Int} {x : Option α} {w : View α}
    (hrun : (look (·.peek offset)).run v = .ok x w) : x = t.seen v.cursor offset := by
  have hagrees := matches_peek offset v h
  rw [hrun] at hagrees
  have heager : (t.peek offset).run v.cursor = .ok (t.seen v.cursor offset) v.cursor := rfl
  have hanswer := heager.symm.trans hagrees.1
  rw [EStateM.Result.ok.injEq] at hanswer
  exact hanswer.1.symm

/-- **A scan is over when the text is**: the eager one need not look at more elements than there
are. -/
theorem matches_scan (p : α → Bool) (most : Nat) (offset : Int) (v : View α)
    (hmost : t.elements.length ≤ most + (v.cursor.index + offset) ∨ t.elements = []) :
    t.Matches (look (·.scan p offset)) (t.scan p most offset) v := by
  induction most generalizing offset v with
  | zero =>
    intro h
    have hseen : t.seen v.cursor offset = none := by
      rcases hmost with hle | hnil
      · exact seen_of_length_le (by omega)
      · exact seen_of_nil hnil _ _
    have hstep := funext fun c => scan_eq p c offset
    rw [hstep]
    change t.Agrees _
      ((t.peek offset >>= fun _ => pure ⟨[], none⟩ : Action Cursor (Scanned α)).run v.cursor)
    -- The eager scan stops here without a look; the lazy one looks and sees nothing.
    refine Matches.look_seq (matches_peek offset v) (fun x w hw => ?_) h
    rw [h.eq_seen hw, hseen]
    exact .done _
  | succ most ih =>
    have hstep := funext fun c => scan_eq p c offset
    rw [hstep]
    refine Matches.look_seq (matches_peek offset v) fun x w hw => ?_
    rcases x with _ | x
    · exact .done _
    obtain ⟨-, hcursor⟩ := run_look_eq_ok.1 hw
    by_cases hp : p x
    · simp only [if_pos hp]
      refine Matches.look_seq (by rw [look_orOverflow]; exact .orOverflow _)
        fun following u hu => ?_
      rw [look_orOverflow, Action.run_orOverflow_eq_ok] at hu
      obtain ⟨hfollowing, rfl⟩ := hu
      obtain ⟨-, rfl⟩ := Offset.add?_eq_some_iff.1 hfollowing
      have hmost' : t.elements.length ≤ most + (w.cursor.index + (offset + 1)) ∨
          t.elements = [] := by
        rw [hcursor]
        rcases hmost with hle | hnil
        · exact .inl (by omega)
        · exact .inr hnil
      exact Matches.look_seq (ih _ w hmost') fun scanned u _ => .done _
    · simp only [if_neg hp]
      exact .done _

/-! ### Moving -/

omit [LineElement α] in
theorem run_moveBy (t : Text α) (offset : Int) (c : Cursor) :
    (t.moveBy offset).run c =
      if offset = 0 then .ok true c
      else if ¬ Fits (c.index + offset) then .error (.misuse .seekOverflow) c
      else if c.index < 0 ∨ c.index + offset < 0 then .ok false c
      else if c.index + offset < t.elements.length then .ok true (t.onto c (c.index + offset))
      else .ok false { c with reachedEnd := true } := by
  rw [moveBy]
  by_cases h0 : offset = 0
  · rw [if_pos h0, if_pos h0]
    rfl
  rw [if_neg h0, if_neg h0, Action.run_bind_of_ok (EStateM.run_get c)]
  by_cases hfits : ¬ Fits (c.index + offset)
  · rw [if_pos hfits, Offset.add?_eq_none_iff.2 hfits]
    rfl
  rw [if_neg hfits, Offset.add?_eq_some_iff.2 ⟨Decidable.not_not.1 hfits, rfl⟩]
  simp only [Offset.orOverflow, pure_bind]
  by_cases hneg : c.index < 0 ∨ c.index + offset < 0
  · rw [if_pos hneg, if_pos hneg]
    rfl
  rw [if_neg hneg, if_neg hneg]
  by_cases hlt : c.index + offset < t.elements.length
  · rw [if_pos hlt, if_pos hlt]
    rfl
  · rw [if_neg hlt, if_neg hlt]
    rfl

/-- A move by a distance. -/
theorem matches_moveBy (offset : Int) (v : View α) :
    t.Matches (Cursor.moveBy offset) (t.moveBy offset) v := by
  intro h
  rw [Cursor.run_moveBy, run_moveBy]
  by_cases h0 : offset = 0
  · rw [if_pos h0, if_pos h0]
    exact ⟨rfl, h⟩
  by_cases hfits : ¬ Fits (v.cursor.index + offset)
  · rw [if_neg h0, if_neg h0, if_pos hfits, if_pos hfits]
    exact .inr rfl
  by_cases hneg : v.cursor.index < 0 ∨ v.cursor.index + offset < 0
  · rw [if_neg h0, if_neg h0, if_neg hfits, if_neg hfits, if_pos hneg, if_pos hneg]
    exact ⟨rfl, h⟩
  rw [if_neg h0, if_neg h0, if_neg hfits, if_neg hfits, if_neg hneg, if_neg hneg]
  rw [Decidable.not_not] at hfits
  have hsize := h.size_le
  by_cases hback : offset < 0
  -- Backward, everything is held already.
  · have hheld : v.buffer.holds (v.cursor.index + offset) = true := by
      have := h.index_cases
      rw [Buffer.holds_iff]
      omega
    have hlt : v.cursor.index + offset < t.elements.length := by
      rw [Buffer.holds_iff] at hheld
      omega
    rw [if_pos hback, if_pos hlt, h.truthful.land_eq]
    exact h.put hfits hheld
  -- Forward, the buffer is asked for the place and answers for the whole text.
  · rw [if_neg hback]
    rcases hrun : (Buffer.ensure (v.cursor.index + offset).toNat).run v.buffer with
      ⟨found, b⟩ | ⟨fault, b⟩
    · obtain ⟨⟨told, hb, -⟩, hsettles, hfound⟩ := Buffer.of_run_ensure hrun
      have hgrown := h.mono hb
      rw [h.whole_eq] at hfound
      by_cases hlt : v.cursor.index + offset < t.elements.length
      · have hheld : b.holds (v.cursor.index + offset) = true := by
          have hsettled := hsettles.lt_iff
          rw [hgrown.whole_eq] at hsettled
          rw [Buffer.holds_iff]
          omega
        rw [hfound, decide_eq_true (by omega), if_pos hlt]
        simp only [hgrown.truthful.land_eq]
        exact hgrown.put hfits hheld
      · rw [hfound, decide_eq_false (by omega), if_neg hlt]
        refine ⟨rfl, ?_, hgrown.whole_eq, hgrown.feeds_eq⟩
        exact hgrown.truthful
    · exact .inl (Buffer.fault_of_run_ensure hrun)

omit [LineElement α] in
theorem run_moveTo (t : Text α) (place : Location) (offset : Int) (c : Cursor) :
    (t.moveTo place offset).run c =
      if ¬ Fits (place.index + offset) then .error (.misuse .seekOverflow) c
      else if place.index + offset = c.index then .ok true c
      else if 0 ≤ place.index + offset ∧ place.index + offset < t.elements.length then
        .ok true (t.onto c (place.index + offset))
      else if Fits (place.index + offset - c.index) then
        (t.moveBy (place.index + offset - c.index)).run c
      else .error (.misuse .seekOverflow) c := by
  rw [moveTo, EStateM.run_bind]
  by_cases hfits : ¬ Fits (place.index + offset)
  · rw [if_pos hfits, Offset.add?_eq_none_iff.2 hfits]
    rfl
  rw [if_neg hfits, Offset.add?_eq_some_iff.2 ⟨Decidable.not_not.1 hfits, rfl⟩]
  simp only [Offset.orOverflow, EStateM.run_pure, EStateM.run_bind, EStateM.run_get]
  by_cases hthere : place.index + offset = c.index
  · rw [if_pos hthere, if_pos hthere]
    rfl
  rw [if_neg hthere, if_neg hthere]
  by_cases hwithin : 0 ≤ place.index + offset ∧ place.index + offset < t.elements.length
  · rw [if_pos hwithin, if_pos hwithin]
    rfl
  rw [if_neg hwithin, if_neg hwithin, EStateM.run_bind]
  by_cases hsub : Fits (place.index + offset - c.index)
  · rw [if_pos hsub, Offset.sub?_eq_some_iff.2 ⟨hsub, rfl⟩]
    rfl
  · rw [if_neg hsub, Offset.sub?_eq_none_iff.2 hsub]
    rfl

/-- A head that goes to a place by the distance to it gets there if the text reaches that far, no
matter how far away it is. -/
theorem approach_agrees {target : Int} (h : t.Ready v) (hfits : Fits target)
    (hne : target ≠ v.cursor.index) :
    t.Agrees ((Cursor.approach target).run v)
      (if 0 ≤ target ∧ target < t.elements.length then .ok true (t.onto v.cursor target)
      else if Fits (target - v.cursor.index) then (t.moveBy (target - v.cursor.index)).run v.cursor
      else .error (.misuse .seekOverflow) v.cursor) := by
  have hmove := matches_moveBy (target - v.cursor.index) v h
  have htarget : v.cursor.index + (target - v.cursor.index) = target := by omega
  rw [run_approach]
  by_cases hwithin : 0 ≤ target ∧ target < t.elements.length
  · have hindex : 0 ≤ v.cursor.index := by
      rcases h.index_cases with ⟨hindex, -⟩ | ⟨-, hnil⟩
      · exact hindex
      · rw [hnil] at hwithin
        exact absurd hwithin.2 (Int.not_lt.2 hwithin.1)
    have hsub : Fits (target - v.cursor.index) := by
      have hindexFits : Fits v.cursor.index := h.truthful.fits
      simp only [Fits] at hfits hindexFits ⊢
      omega
    rw [if_pos hwithin, if_pos hsub]
    rw [run_moveBy, htarget, if_neg (by omega), if_neg (not_not_intro hfits), if_neg (by omega),
      if_pos hwithin.2] at hmove
    exact hmove
  · rw [if_neg hwithin]
    by_cases hsub : Fits (target - v.cursor.index)
    · rw [if_pos hsub, if_pos hsub]
      exact hmove
    · rw [if_neg hsub, if_neg hsub]
      exact .inr rfl

/-- Seeking a place. **Neither the short cut over the buffer nor the saved line and column can be
noticed.** -/
theorem matches_moveTo {place : Location} (offset : Int) {v : View α}
    (hplace : v.cursor.position.isSome → place.TrueIn v.buffer) :
    t.Matches (Cursor.moveTo place offset) (t.moveTo place offset) v := by
  intro h
  rw [Cursor.run_moveTo, run_moveTo]
  by_cases hfits : ¬ Fits (place.index + offset)
  · rw [if_pos hfits, if_pos hfits]
    exact .inr rfl
  rw [if_neg hfits, if_neg hfits]
  rw [Decidable.not_not] at hfits
  by_cases hthere : place.index + offset = v.cursor.index
  · rw [if_pos hthere, if_pos hthere]
    exact ⟨rfl, h⟩
  rw [if_neg hthere, if_neg hthere]
  have happroach := approach_agrees h hfits hthere
  have hsize := h.size_le
  have hstraight (hheld : v.buffer.holds (place.index + offset) = true) :
      0 ≤ place.index + offset ∧ place.index + offset < t.elements.length := by
    rw [Buffer.holds_iff] at hheld
    omega
  rcases hq : v.cursor.position with _ | q
  · by_cases hheld : v.buffer.holds (place.index + offset)
    · have honto : v.cursor.onto v.buffer (place.index + offset) =
          { v.cursor with index := place.index + offset } := by
        rw [Cursor.onto, hq, Option.map_none, ← hq]
      simp only [if_pos hheld]
      rw [if_pos (hstraight hheld), ← honto]
      exact h.put hfits hheld
    · simp only [if_neg hheld]
      exact happroach
  rcases hp : place.position with _ | p
  · exact happroach
  by_cases hheld : v.buffer.holds place.index && v.buffer.holds (place.index + offset)
  -- A true place is admitted, and the walk from there ends as the walk from the head would.
  · have htrue := hplace (by rw [hq]; rfl)
    have hadmits : v.buffer.admits place.index.toNat p = true := by
      rw [htrue.position_eq p hp]
      exact v.buffer.admits_ofBehind htrue.bears.toNat_le
    simp only [if_pos hheld, run_restore, if_pos hadmits]
    rw [Bool.and_eq_true] at hheld
    rw [if_pos (hstraight hheld.2), View.arrive_eq hq htrue hp]
    exact h.put hfits hheld.2
  · simp only [if_neg hheld]
    exact happroach

theorem matches_skip (count : Nat) (v : View α) : t.Matches (Cursor.skip count) (t.skip count) v :=
  (Matches.orOverflow _).seq fun _ w _ => matches_moveBy _ w

theorem matches_rewind (count : Nat) (v : View α) :
    t.Matches (Cursor.rewind count) (t.rewind count) v :=
  (Matches.orOverflow _).seq fun _ w _ => matches_moveBy _ w

/-! ### Reading -/

theorem matches_advanceWith (x : α) (v : View α) :
    t.Matches (Cursor.advanceWith x) (t.advanceWith x) v :=
  (matches_moveBy 1 v).map _

/-- Looking at one element and advancing if it passes a test. -/
theorem matches_advanceIf (p : α → Bool) (offset : Int) (v : View α) :
    t.Matches (Cursor.advanceIf p offset) (t.advanceIf p offset) v := by
  refine (matches_peek offset v).seq fun x w _ => ?_
  rcases x with _ | x
  · exact .done none
  · exact .ite (fun _ => matches_advanceWith x w) fun _ => .done none

theorem matches_read (v : View α) :
    t.Matches Cursor.read (t.advanceIf (fun _ => true) 0) v := by
  refine (matches_peek 0 v).seq fun x w _ => ?_
  rcases x with _ | x
  · exact .done none
  · simp only [if_true]
    exact matches_advanceWith x w

theorem matches_readNext (v : View α) : t.Matches Cursor.readNext t.readNext v :=
  (matches_moveBy 1 v).seq fun _ w _ =>
    .ite (fun _ => matches_peek 0 w) fun _ => .done none

omit [LineElement α] in
/-- A head that moves by one is one place further. -/
theorem index_of_moveBy_one {c d : Cursor} (hrun : (t.moveBy 1).run c = .ok true d) :
    0 ≤ c.index ∧ d.index = c.index + 1 := by
  rw [run_moveBy, if_neg (by decide)] at hrun
  split at hrun
  · cases hrun
  · split at hrun
    · cases hrun
    · split at hrun
      · cases hrun
        exact ⟨by omega, rfl⟩
      · cases hrun

omit [LineElement α] in
theorem index_of_advanceIf {p : α → Bool} {offset : Int} {c d : Cursor} {x : α}
    (hrun : (t.advanceIf p offset).run c = .ok (some x) d) :
    0 ≤ c.index ∧ d.index = c.index + 1 := by
  rw [advanceIf, Action.run_bind_eq_ok] at hrun
  obtain ⟨y, c', hpeek, hrun⟩ := hrun
  cases hpeek
  rcases hseen : t.seen c offset with _ | y
  · rw [hseen] at hrun
    cases hrun
  · rw [hseen] at hrun
    simp only at hrun
    split at hrun
    · rw [advanceWith, Action.run_bind_eq_ok] at hrun
      obtain ⟨moved, d', hmove, hrun⟩ := hrun
      rcases moved
      · cases hrun
      · cases hrun
        exact index_of_moveBy_one hmove
    · cases hrun

omit [LineElement α] in
/-- In an empty text no element lets a head advance. -/
theorem run_advanceIf_of_nil (ht : t.elements = []) (p : α → Bool) (offset : Int) (c : Cursor) :
    (t.advanceIf p offset).run c = .ok none c := by
  have hpeek : (t.peek offset).run c = .ok none c :=
    congrArg (EStateM.Result.ok · c) (seen_of_nil ht c offset)
  exact Action.run_bind_of_ok hpeek

/-- **A run is over when the text is**: the eager one need not repeat its read more often than
there are elements. -/
theorem matches_many {reader : Reader α α} {p : α → Bool} {offset : Int}
    (hread : ∀ v, t.Matches reader.read (t.advanceIf p offset) v) (most : Nat) (v : View α)
    (hmost : t.elements.length ≤ most + v.cursor.index.toNat) :
    t.Matches reader.many (many (t.advanceIf p offset) most) v := by
  intro h
  induction most generalizing v with
  | zero =>
    have hsize := h.size_le
    -- The head is on no element, so there are none, and the lazy read gives nothing.
    have hnil : t.elements = [] := by
      rcases h.index_cases with ⟨hindex, hlt⟩ | ⟨-, hnil⟩
      · omega
      · exact hnil
    have hagrees := hread v h
    rw [run_advanceIf_of_nil hnil] at hagrees
    rw [reader.many_eq]
    rcases hrun : reader.read.run v with ⟨x, w⟩ | ⟨fault, w⟩
    · rw [hrun] at hagrees
      obtain ⟨hanswer, hw⟩ := hagrees
      rw [EStateM.Result.ok.injEq] at hanswer
      obtain ⟨rfl, hcursor⟩ := hanswer
      rw [Action.run_bind_of_ok hrun]
      exact ⟨congrArg _ hcursor, hw⟩
    · rw [hrun] at hagrees
      rw [Action.run_bind_of_error hrun]
      rcases hagrees with hsource | hanswer
      · exact .inl hsource
      · cases hanswer
  | succ most ih =>
    have hagrees := hread v h
    rw [reader.many_eq]
    refine (hread v).seq (fun x w hw => ?_) h
    rw [hw] at hagrees
    obtain ⟨heager, hready⟩ := hagrees
    rcases x with _ | x
    · exact .done []
    · obtain ⟨hindex, hnext⟩ := index_of_advanceIf heager
      have hrest : t.Matches reader.many (many (t.advanceIf p offset) most) w :=
        ih w (by omega)
      exact hrest.map (x :: ·)

section Reading

variable [DecidableEq α]

theorem matches_readWhile (m : Matcher α) (v : View α) :
    t.Matches (Cursor.readWhile m) (t.advanceWhile m.accepts 0) v := by
  have hread (w : View α) : t.Matches (readerIf m).read (t.advanceIf m.accepts 0) w :=
    matches_advanceIf m.accepts 0 w
  exact matches_many hread _ v (Nat.le_add_right ..)

theorem matches_readNextWhile (m : Matcher α) (v : View α) :
    t.Matches (Cursor.readNextWhile m) (t.advanceWhile m.accepts 1) v := by
  have hread (w : View α) : t.Matches (readerNextIf m).read (t.advanceIf m.accepts 1) w :=
    matches_advanceIf m.accepts 1 w
  exact matches_many hread _ v (Nat.le_add_right ..)

theorem matches_skipWhile (m : Matcher α) (v : View α) :
    t.Matches (Cursor.skipWhile m) (t.skipWhile m.accepts) v :=
  (matches_readWhile m v).map _

theorem matches_readSeq (pattern : List α) (v : View α) :
    t.Matches (Cursor.readSeq pattern) (t.advanceOver pattern 0) v :=
  (matches_matchesAt 0 pattern v).seq fun _ w _ =>
    .ite (fun _ => matches_skip _ w) fun _ => .done false

theorem matches_readNextSeq (pattern : List α) (v : View α) :
    t.Matches (Cursor.readNextSeq pattern) (t.advanceOver pattern 1) v :=
  (matches_matchesAt 1 pattern v).seq fun _ w _ =>
    .ite (fun _ => matches_skip _ w) fun _ => .done false

omit [DecidableEq α] in
/-- A scan that starts at the head looks at no more elements than there are. -/
theorem Ready.length_le (h : t.Ready v) :
    t.elements.length ≤ t.elements.length + (v.cursor.index + 0) ∨ t.elements = [] := by
  rcases h.index_cases with ⟨hindex, -⟩ | ⟨-, hnil⟩
  · exact .inl (by omega)
  · exact .inr hnil

theorem matches_skipUntil (m : Matcher α) (v : View α) :
    t.Matches (Cursor.skipUntil m) (t.skipUntil m.accepts) v := by
  intro h
  refine (matches_scan _ _ 0 v h.length_le).seq (fun scanned w _ => ?_) h
  exact .ite (fun _ => matches_skip _ w) fun _ => .done false

theorem matches_skipBlank (blank : α → Bool) (endCounts : Bool) (v : View α) :
    t.Matches (Cursor.skipBlank blank endCounts) (t.skipBlank blank endCounts) v := by
  have hskip : t.Matches (Cursor.skipWhile (.satisfying blank)) (t.skipWhile blank) v :=
    matches_skipWhile (.satisfying blank) v
  refine hskip.seq fun skipped w _ => .ite (fun _ => .done true) fun _ => ?_
  refine .ite (fun _ => .done false) fun _ => ?_
  refine Matches.head.seq fun c u _ => .ite (fun _ => .done true) fun _ => ?_
  refine (matches_peek 0 u).seq fun x u' _ => ?_
  rcases x with _ | x
  · exact .done false
  · exact .ite (fun _ => matches_isAtEnd u') fun _ => .done false

end Reading

theorem matches_readWord (starts continues : α → Bool) (v : View α) :
    t.Matches (Cursor.readWord starts continues) (t.readWord starts continues) v := by
  intro h
  refine Matches.seq (matches_peek 0 v) (fun x w hw => ?_) h
  obtain ⟨-, hcursor⟩ := run_look_eq_ok.1 hw
  rcases x with _ | x
  · exact .done none
  · refine .ite (fun _ => ?_) fun _ => .done none
    have hmost : t.elements.length ≤ t.elements.length + (w.cursor.index + 1) ∨
        t.elements = [] := by
      rw [hcursor]
      rcases h.length_le with hle | hnil
      · exact .inl (by omega)
      · exact .inr hnil
    exact (matches_scan _ _ 1 w hmost).seq fun scanned u _ => (matches_skip _ u).map _

/-! ### Operations -/

/-- **Every operation matches its eager meaning**, if a head that keeps lines seeks no place but
true ones. -/
theorem matches_run [DecidableEq α] {operation : Operation α} {v : View α}
    (hseek : v.cursor.position.isSome →
      ∀ seek, operation.seeks? = some seek → seek.1.TrueIn v.buffer) :
    t.Matches operation.run (t.run operation) v := by
  cases operation with
  | slot | location | sourceIsEmpty | isAtStart | isStartOfLine => exact Matches.head.map _
  | current => exact (matches_current v).map _
  | previous => exact (matches_peek (-1) v).map _
  | next => exact (matches_peek 1 v).map _
  | peek offset => exact (matches_peek offset v).map _
  | isAtEnd => exact (matches_isAtEnd v).map _
  | matchesAt offset pattern => exact (matches_matchesAt offset pattern v).map _
  | text => exact (matches_text v).map _
  | moveBy offset => exact (matches_moveBy offset v).map _
  | moveTo place offset => exact (matches_moveTo offset fun h => hseek h _ rfl).map _
  | reset place => exact (matches_moveTo 0 fun h => hseek h _ rfl).map _
  | skip count => exact (matches_skip count v).map _
  | rewind count => exact (matches_rewind count v).map _
  | read => exact (matches_read v).map _
  | readIf m => exact (matches_advanceIf m.accepts 0 v).map _
  | readSeq pattern => exact (matches_readSeq pattern v).map _
  | readNext => exact (matches_readNext v).map _
  | readNextIf m => exact (matches_advanceIf m.accepts 1 v).map _
  | readNextSeq pattern => exact (matches_readNextSeq pattern v).map _
  | readWhile m => exact (matches_readWhile m v).map _
  | readNextWhile m => exact (matches_readNextWhile m v).map _
  | skipWhile m => exact (matches_skipWhile m v).map _
  | skipUntil m => exact (matches_skipUntil m v).map _
  | skipBlank blank endCounts => exact (matches_skipBlank blank endCounts v).map _
  | readWord starts continues => exact (matches_readWord starts continues v).map _

end Text

end Rewind
