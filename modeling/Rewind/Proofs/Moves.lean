import Rewind.Proofs.Fill
import Rewind.Proofs.Operations

/-!
# What a move can do

The two ways to move a head, each as one equation that names every way it can come out. A head
that arrives somewhere brings its line and column along, if it keeps them: `View.land` is that
arrival. `run_moveBy` and `run_moveTo` say when a head arrives, when it stays, and when the move
is refused; nothing that follows needs to look into the moves again.

The buffer is only ever asked to make sure of an element or to fetch one. So what can be said of it
after that can be said of it after any look and any move (`Buffer.Serves`).
-/

namespace Rewind

variable {α : Type} [LineElement α]

/-- Put the head on a place of the buffer, the line and column of a cursor that keeps them walked
there from `start`, where they are `p`. A walk that cannot be made leaves everything as it is. -/
def View.arrive (v : View α) (start : Int) (p : Position) (target : Int) :
    EStateM.Result Fault (View α) Bool :=
  match v.buffer.walk? start target p with
  | some q => .ok true { v with cursor.index := target, cursor.position := some q }
  | none => .error (.misuse .locationMismatch) v

/-- Put the head on a place of the buffer, with the line and column of a cursor that keeps them
walked there from where the head is. -/
def View.land (v : View α) (target : Int) : EStateM.Result Fault (View α) Bool :=
  match v.cursor.position with
  | none => .ok true { v with cursor.index := target }
  | some p => v.arrive v.cursor.index p target

/-- **A head that goes ahead arrives, whatever its line and column**, which walk along over the
elements it passes. -/
theorem View.land_ahead_eq (v : View α) {target : Int} (hle : v.cursor.index ≤ target) :
    v.land target = .ok true
      { v with
        cursor := { v.cursor with
          index := target
          position := v.cursor.position.map (·.forward v.buffer.feeds
            (v.buffer.items.extract v.cursor.index.toNat target.toNat).toList) } } := by
  rcases hp : v.cursor.position with _ | p
  · simp only [land, hp, Option.map_none]
  · have hstart : v.cursor.index.toNat ≤ target.toNat := by omega
    simp only [land, hp, arrive, Buffer.walk?, Position.walk?, if_pos hstart, Option.map_some]

theorem View.land_ahead (v : View α) {target : Int} (hle : v.cursor.index ≤ target) :
    ∃ w, v.land target = .ok true w ∧ w.buffer = v.buffer ∧ w.cursor.index = target :=
  ⟨_, v.land_ahead_eq hle, rfl, rfl⟩

/-- Arriving leaves the buffer as it is. -/
theorem View.buffer_land (v : View α) (target : Int) :
    Action.Ends (fun _ w => w.buffer = v.buffer) (v.land target) := by
  rw [land]
  split
  · rfl
  · rw [arrive]
    split <;> rfl

namespace Cursor

/-- A walk to where it starts changes nothing. -/
theorem walk?_self (b : Buffer α) (i : Int) (p : Position) : b.walk? i i p = some p := by
  simp [Buffer.walk?, Position.walk?, Position.forward]

theorem run_follow (b : Buffer α) (c : Cursor) (target : Int) :
    (follow c).run ⟨b, { c with index := target }⟩ = View.land ⟨b, c⟩ target := by
  obtain ⟨i, r, _ | p⟩ := c
  · rfl
  · rcases h : b.walk? i target p with _ | q
    · simp only [EStateM.run, follow, View.land, View.arrive, h]
    · simp only [EStateM.run, follow, View.land, View.arrive, h]

/-- A move whose head has been put down goes on with its line and column. -/
theorem run_moveBy_of_shift {offset : Int} {v u : View α} (hu : (shift offset).run v = .ok true u) :
    (moveBy offset).run v = (follow v.cursor).run u := by
  rw [moveBy, Action.run_bind_of_ok (run_head v), Action.run_bind_of_ok hu]
  rfl

omit [LineElement α] in
theorem run_shift {offset : Int} (h0 : offset ≠ 0) (v : View α) :
    (shift offset).run v =
      if ¬ Fits (v.cursor.index + offset) then .error (.misuse .seekOverflow) v
      else if v.cursor.index < 0 ∨ v.cursor.index + offset < 0 then .ok false v
      else if offset < 0 then .ok true { v with cursor.index := v.cursor.index + offset }
      else
        match (Buffer.ensure (v.cursor.index + offset).toNat).run v.buffer with
        | .ok true b => .ok true ⟨b, { v.cursor with index := v.cursor.index + offset }⟩
        | .ok false b => .ok false ⟨b, { v.cursor with reachedEnd := true }⟩
        | .error fault b => .error fault ⟨b, v.cursor⟩ := by
  rw [shift, if_neg h0, Action.run_bind_of_ok (run_head v)]
  by_cases hfits : ¬ Fits (v.cursor.index + offset)
  · rw [if_pos hfits, Offset.add?_eq_none_iff.2 hfits]
    rfl
  rw [if_neg hfits, Offset.add?_eq_some_iff.2 ⟨Decidable.not_not.1 hfits, rfl⟩]
  simp only [Offset.orOverflow, pure_bind]
  by_cases hneg : v.cursor.index < 0 ∨ v.cursor.index + offset < 0
  · rw [if_pos hneg, if_pos hneg]
    rfl
  rw [if_neg hneg, if_neg hneg]
  by_cases hback : offset < 0
  · rw [if_pos hback, if_pos hback]
    rfl
  rw [if_neg hback, if_neg hback, EStateM.run_bind, run_look]
  rcases (Buffer.ensure (v.cursor.index + offset).toNat).run v.buffer with
    ⟨_ | _, b⟩ | ⟨e, b⟩ <;> rfl

/-- **All that a move by a distance can do.** -/
theorem run_moveBy (offset : Int) (v : View α) :
    (moveBy offset).run v =
      if offset = 0 then .ok true v
      else if ¬ Fits (v.cursor.index + offset) then .error (.misuse .seekOverflow) v
      else if v.cursor.index < 0 ∨ v.cursor.index + offset < 0 then .ok false v
      else if offset < 0 then v.land (v.cursor.index + offset)
      else
        match (Buffer.ensure (v.cursor.index + offset).toNat).run v.buffer with
        | .ok true b => View.land ⟨b, v.cursor⟩ (v.cursor.index + offset)
        | .ok false b => .ok false ⟨b, { v.cursor with reachedEnd := true }⟩
        | .error fault b => .error fault ⟨b, v.cursor⟩ := by
  rw [moveBy, Action.run_bind_of_ok (run_head v), EStateM.run_bind]
  by_cases h0 : offset = 0
  · have hshift : (shift offset).run v = .ok true v := by rw [shift, if_pos h0]; rfl
    have hstay : v.land v.cursor.index = .ok true v := by
      obtain ⟨b, i, r, _ | p⟩ := v
      · rfl
      · simp only [View.land, View.arrive, walk?_self]
    rw [if_pos h0, hshift]
    exact (run_follow v.buffer v.cursor v.cursor.index).trans hstay
  rw [if_neg h0, run_shift h0]
  by_cases hfits : ¬ Fits (v.cursor.index + offset)
  · rw [if_pos hfits, if_pos hfits]
  rw [if_neg hfits, if_neg hfits]
  by_cases hneg : v.cursor.index < 0 ∨ v.cursor.index + offset < 0
  · rw [if_pos hneg, if_pos hneg]
    rfl
  rw [if_neg hneg, if_neg hneg]
  by_cases hback : offset < 0
  · rw [if_pos hback, if_pos hback]
    exact run_follow v.buffer v.cursor _
  rw [if_neg hback, if_neg hback]
  rcases (Buffer.ensure (v.cursor.index + offset).toNat).run v.buffer with ⟨_ | _, b⟩ | ⟨e, b⟩
  · rfl
  · exact run_follow b v.cursor _
  · rfl

/-- A move by a distance, case by case. -/
theorem moveBy_cases {P : EStateM.Result Fault (View α) Bool → Prop} (offset : Int) (v : View α)
    (stay : offset = 0 → P (.ok true v))
    (overflow : ¬ Fits (v.cursor.index + offset) → P (.error (.misuse .seekOverflow) v))
    (outside : v.cursor.index < 0 ∨ v.cursor.index + offset < 0 → P (.ok false v))
    (back : Fits (v.cursor.index + offset) → offset < 0 → 0 ≤ v.cursor.index + offset →
      P (v.land (v.cursor.index + offset)))
    (ahead : ∀ b, Fits (v.cursor.index + offset) → 0 ≤ v.cursor.index → 0 < offset →
      (Buffer.ensure (v.cursor.index + offset).toNat).run v.buffer = .ok true b →
      P (View.land ⟨b, v.cursor⟩ (v.cursor.index + offset)))
    (ended : ∀ b, 0 ≤ v.cursor.index → 0 < offset →
      (Buffer.ensure (v.cursor.index + offset).toNat).run v.buffer = .ok false b →
      P (.ok false ⟨b, { v.cursor with reachedEnd := true }⟩))
    (failed : ∀ fault b, 0 ≤ v.cursor.index → 0 < offset →
      (Buffer.ensure (v.cursor.index + offset).toNat).run v.buffer = .error fault b →
      P (.error fault ⟨b, v.cursor⟩)) :
    P ((moveBy offset).run v) := by
  rw [run_moveBy]
  by_cases h0 : offset = 0
  · rw [if_pos h0]
    exact stay h0
  by_cases hfits : ¬ Fits (v.cursor.index + offset)
  · rw [if_neg h0, if_pos hfits]
    exact overflow hfits
  by_cases hneg : v.cursor.index < 0 ∨ v.cursor.index + offset < 0
  · rw [if_neg h0, if_neg hfits, if_pos hneg]
    exact outside hneg
  rw [if_neg h0, if_neg hfits, if_neg hneg]
  by_cases hback : offset < 0
  · rw [if_pos hback]
    exact back (Decidable.not_not.1 hfits) hback (by omega)
  rw [if_neg hback]
  have hindex : 0 ≤ v.cursor.index := by omega
  have hpos : 0 < offset := by omega
  rcases h : (Buffer.ensure (v.cursor.index + offset).toNat).run v.buffer with ⟨_ | _, b⟩ | ⟨e, b⟩
  · exact ended b hindex hpos h
  · exact ahead b (Decidable.not_not.1 hfits) hindex hpos h
  · exact failed e b hindex hpos h

/-- A move back, or no move, leaves the buffer as it is. -/
theorem buffer_moveBy_of_nonpos {offset : Int} (hback : offset ≤ 0) (v : View α) :
    Action.Ends (fun _ w => w.buffer = v.buffer) ((moveBy offset).run v) := by
  refine moveBy_cases (P := Action.Ends fun _ w => w.buffer = v.buffer) offset v
    ?stay ?overflow ?outside ?back ?ahead ?ended ?failed
  case stay => exact fun _ => rfl
  case overflow => exact fun _ => rfl
  case outside => exact fun _ => rfl
  case back => exact fun _ _ _ => v.buffer_land _
  case ahead => exact fun _ _ _ hpos => by omega
  case ended => exact fun _ _ hpos => by omega
  case failed => exact fun _ _ _ hpos => by omega

/-- **A move ahead that succeeds** walks the line and the column along over the elements passed. -/
theorem moveBy_ahead {offset : Int} (hpos : 0 < offset) {v w : View α}
    (hrun : (moveBy offset).run v = .ok true w) :
    0 ≤ v.cursor.index ∧
      w.cursor = { v.cursor with
        index := v.cursor.index + offset
        position := v.cursor.position.map (·.forward w.buffer.feeds
          (w.buffer.items.extract v.cursor.index.toNat
            (v.cursor.index + offset).toNat).toList) } := by
  revert hrun
  refine moveBy_cases (P := fun r => r = .ok true w → _) offset v
    ?stay ?overflow ?outside ?back ?ahead ?ended ?failed
  case stay => exact fun hzero => by omega
  case back => exact fun _ hback => by omega
  case ahead =>
    intro b _ hindex _ _ hland
    have hle : v.cursor.index ≤ v.cursor.index + offset := by omega
    have hahead := View.land_ahead_eq ⟨b, v.cursor⟩ hle
    cases hahead.symm.trans hland
    exact ⟨hindex, rfl⟩
  case overflow | outside => exact fun _ => nofun
  case ended => exact fun _ _ _ _ => nofun
  case failed => exact fun _ _ _ _ _ => nofun

/-- **One that finds no element at its target** leaves the mark that the source has run out, which
it has, and nothing else. -/
theorem moveBy_ended {offset : Int} (hpos : 0 < offset) {v w : View α}
    (hindex : 0 ≤ v.cursor.index) (hrun : (moveBy offset).run v = .ok false w) :
    w.cursor = { v.cursor with reachedEnd := true } ∧ w.buffer.source = none := by
  revert hrun
  refine moveBy_cases (P := fun r => r = .ok false w → _) offset v
    ?stay ?overflow ?outside ?back ?ahead ?ended ?failed
  case stay | overflow => exact fun _ => nofun
  case outside => exact fun hneg => by omega
  case back => exact fun _ hback => by omega
  case ahead =>
    intro b _ _ _ _ hland
    have hle : v.cursor.index ≤ v.cursor.index + offset := by omega
    have hahead := View.land_ahead_eq ⟨b, v.cursor⟩ hle
    cases hahead.symm.trans hland
  case ended =>
    rintro b _ _ hensure ⟨⟩
    obtain ⟨⟨told, hb, -⟩, hsettles, hfound⟩ := Buffer.of_run_ensure hensure
    have hlt := of_decide_eq_false hfound.symm
    rw [← hb.whole_eq, hsettles.lt_iff] at hlt
    exact ⟨rfl, hsettles.resolve_left hlt⟩
  case failed => exact fun _ _ _ _ _ => nofun

/-! ### Seeking a place -/

theorem run_approach (target : Int) (v : View α) :
    (approach target).run v =
      if Fits (target - v.cursor.index) then (moveBy (target - v.cursor.index)).run v
      else .error (.misuse .seekOverflow) v := by
  rw [approach, Action.run_bind_of_ok (run_head v)]
  by_cases hfits : Fits (target - v.cursor.index)
  · rw [if_pos hfits, Offset.sub?_eq_some_iff.2 ⟨hfits, rfl⟩]
    rfl
  · rw [if_neg hfits, Offset.sub?_eq_none_iff.2 hfits]
    rfl

theorem run_restore (start : Int) (p : Position) (target : Int) (v : View α) :
    (restore start p target).run v =
      if v.buffer.admits start.toNat p then v.arrive start p target
      else .error (.misuse .locationMismatch) v := rfl

/-- **All that seeking a place can do**: stay, go straight there, go by the distance to it, or
refuse. -/
theorem run_moveTo (place : Location) (offset : Int) (v : View α) :
    (moveTo place offset).run v =
      if ¬ Fits (place.index + offset) then .error (.misuse .seekOverflow) v
      else if place.index + offset = v.cursor.index then .ok true v
      else
        match v.cursor.position, place.position with
        | none, _ =>
          if v.buffer.holds (place.index + offset) then
            .ok true { v with cursor.index := place.index + offset }
          else (approach (place.index + offset)).run v
        | some _, none => (approach (place.index + offset)).run v
        | some _, some p =>
          if v.buffer.holds place.index && v.buffer.holds (place.index + offset) then
            (restore place.index p (place.index + offset)).run v
          else (approach (place.index + offset)).run v := by
  rw [moveTo, EStateM.run_bind]
  by_cases hfits : ¬ Fits (place.index + offset)
  · rw [if_pos hfits, Offset.add?_eq_none_iff.2 hfits]
    rfl
  rw [if_neg hfits, Offset.add?_eq_some_iff.2 ⟨Decidable.not_not.1 hfits, rfl⟩]
  simp only [Offset.orOverflow, EStateM.run_pure, EStateM.run_bind, EStateM.run_get]
  by_cases hthere : place.index + offset = v.cursor.index
  · rw [if_pos hthere, if_pos hthere]
    rfl
  rw [if_neg hthere, if_neg hthere]
  obtain ⟨b, i, r, _ | _⟩ := v
  · by_cases hheld : b.holds (place.index + offset)
    · simp only [if_pos hheld]
      rfl
    · simp only [if_neg hheld]
  · rcases place.position with _ | p
    · rfl
    · by_cases hheld : b.holds place.index && b.holds (place.index + offset)
      · simp only [if_pos hheld]
      · simp only [if_neg hheld]

/-- Seeking a place, case by case. -/
theorem moveTo_cases {P : EStateM.Result Fault (View α) Bool → Prop} (place : Location)
    (offset : Int) (v : View α)
    (overflow : P (.error (.misuse .seekOverflow) v))
    (there : place.index + offset = v.cursor.index → P (.ok true v))
    (straight : Fits (place.index + offset) → v.cursor.position = none →
      v.buffer.holds (place.index + offset) = true →
      P (.ok true { v with cursor.index := place.index + offset }))
    (restored : ∀ q p, Fits (place.index + offset) →
      v.cursor.position = some q → place.position = some p →
      v.buffer.holds place.index = true → v.buffer.holds (place.index + offset) = true →
      v.buffer.admits place.index.toNat p = true →
      P (v.arrive place.index p (place.index + offset)))
    (unfit : ∀ q p, v.cursor.position = some q → place.position = some p →
      v.buffer.holds place.index = true → v.buffer.admits place.index.toNat p = false →
      P (.error (.misuse .locationMismatch) v))
    (distant : P ((moveBy (place.index + offset - v.cursor.index)).run v)) :
    P ((moveTo place offset).run v) := by
  have happroach : P ((approach (place.index + offset)).run v) := by
    rw [run_approach]
    split
    · exact distant
    · exact overflow
  rw [run_moveTo]
  by_cases hfits : ¬ Fits (place.index + offset)
  · rwa [if_pos hfits]
  by_cases hthere : place.index + offset = v.cursor.index
  · rw [if_neg hfits, if_pos hthere]
    exact there hthere
  rw [if_neg hfits, if_neg hthere]
  rcases hq : v.cursor.position with _ | q
  · by_cases hheld : v.buffer.holds (place.index + offset)
    · simpa only [if_pos hheld] using straight (Decidable.not_not.1 hfits) hq hheld
    · simpa only [if_neg hheld]
  rcases hp : place.position with _ | p
  · exact happroach
  by_cases hheld : v.buffer.holds place.index && v.buffer.holds (place.index + offset)
  · simp only [if_pos hheld, run_restore]
    rw [Bool.and_eq_true] at hheld
    rcases hadmits : v.buffer.admits place.index.toNat p
    · exact unfit q p hq hp hheld.1 hadmits
    · exact restored q p (Decidable.not_not.1 hfits) hq hp hheld.1 hheld.2 hadmits
  · simpa only [if_neg hheld]

end Cursor

/-! ### Moves that do not see a change -/

/-- The same view with a change made to its cursor. -/
def View.withCursor (change : Cursor → Cursor) (v : View α) : View α :=
  { v with cursor := change v.cursor }

namespace Cursor

variable {change : Cursor → Cursor} {v : View α}

omit [LineElement α] in
/-- A look does not see a change of the cursor that what it looks at does not see. -/
theorem blindTo_look {β : Type} {f : Cursor → Peeking α β}
    (hf : f (change v.cursor) = f v.cursor) :
    (Judgement.blindTo (View.withCursor change)).Holds (look f) v := by
  refine Judgement.blindTo_iff.2 ?_
  have hchange : (f (v.withCursor change).cursor).run (v.withCursor change).buffer =
    (f v.cursor).run v.buffer := congrArg (EStateM.run · v.buffer) hf
  rw [run_look, run_look, hchange]
  rcases (f v.cursor).run v.buffer with ⟨b, t⟩ | ⟨fault, t⟩ <;> rfl

/-- **A move does not see a change of the cursor that no arrival sees**, if the change leaves the
index and takes the mark of the end along. -/
theorem blindTo_moveBy {offset : Int} (hindex : (change v.cursor).index = v.cursor.index)
    (hmark : change { v.cursor with reachedEnd := true } =
      { change v.cursor with reachedEnd := true })
    (hback : offset < 0 → (moveBy offset).run v = v.land (v.cursor.index + offset) →
      (v.withCursor change).land (v.cursor.index + offset) =
        Action.onState (View.withCursor change) (v.land (v.cursor.index + offset)))
    (hahead : 0 < offset → ∀ b : Buffer α,
      View.land ⟨b, change v.cursor⟩ (v.cursor.index + offset) =
        Action.onState (View.withCursor change)
          (View.land ⟨b, v.cursor⟩ (v.cursor.index + offset))) :
    (Judgement.blindTo (View.withCursor change)).Holds (moveBy offset) v := by
  rw [Judgement.blindTo_iff, run_moveBy, run_moveBy]
  simp only [View.withCursor, hindex]
  by_cases h0 : offset = 0
  · rw [if_pos h0, if_pos h0]
    rfl
  rw [if_neg h0, if_neg h0]
  by_cases hfits : ¬ Fits (v.cursor.index + offset)
  · rw [if_pos hfits, if_pos hfits]
    rfl
  rw [if_neg hfits, if_neg hfits]
  by_cases hneg : v.cursor.index < 0 ∨ v.cursor.index + offset < 0
  · rw [if_pos hneg, if_pos hneg]
    rfl
  rw [if_neg hneg, if_neg hneg]
  by_cases hoffset : offset < 0
  · rw [if_pos hoffset, if_pos hoffset]
    refine hback hoffset ?_
    rw [run_moveBy, if_neg h0, if_neg hfits, if_neg hneg, if_pos hoffset]
  rw [if_neg hoffset, if_neg hoffset]
  rcases (Buffer.ensure (v.cursor.index + offset).toNat).run v.buffer with ⟨_ | _, b⟩ | ⟨e, b⟩
  · simp only [Action.onState, View.withCursor, hmark, hindex]
  · exact hahead (by omega) b
  · rfl

/-- Nor does seeking a place see a change that leaves the head where it is, if neither an arrival
nor a move by a distance does. -/
theorem blindTo_moveTo {f : View α → View α} {place : Location} {offset : Int}
    (hindex : (f v).cursor.index = v.cursor.index)
    (hposition : (f v).cursor.position = v.cursor.position)
    (hholds : (f v).buffer.holds = v.buffer.holds)
    (hadmits : (f v).buffer.admits = v.buffer.admits)
    (hjump : { f v with cursor.index := place.index + offset } =
      f { v with cursor.index := place.index + offset })
    (harrive : ∀ p, (f v).arrive place.index p (place.index + offset) =
      Action.onState f (v.arrive place.index p (place.index + offset)))
    (hmove : ∀ i, (Judgement.blindTo f).Holds (moveBy i) v) :
    (Judgement.blindTo f).Holds (moveTo place offset) v := by
  have happroach : (approach (place.index + offset)).run (f v) =
      Action.onState f ((approach (place.index + offset)).run v) := by
    rw [run_approach, run_approach, hindex]
    by_cases hfits : Fits (place.index + offset - v.cursor.index)
    · rw [if_pos hfits, if_pos hfits]
      exact Judgement.blindTo_iff.1 (hmove _)
    · rw [if_neg hfits, if_neg hfits]
      rfl
  rw [Judgement.blindTo_iff, run_moveTo, run_moveTo, hindex, hposition, hholds]
  by_cases hfits : ¬ Fits (place.index + offset)
  · rw [if_pos hfits, if_pos hfits]
    rfl
  rw [if_neg hfits, if_neg hfits]
  by_cases hthere : place.index + offset = v.cursor.index
  · rw [if_pos hthere, if_pos hthere]
    rfl
  rw [if_neg hthere, if_neg hthere]
  rcases v.cursor.position with _ | q
  · by_cases hheld : v.buffer.holds (place.index + offset)
    · simp only [if_pos hheld, hjump, Action.onState]
    · simpa only [if_neg hheld]
  rcases place.position with _ | p
  · exact happroach
  by_cases hheld : v.buffer.holds place.index && v.buffer.holds (place.index + offset)
  · simp only [if_pos hheld, run_restore, hadmits]
    by_cases hfit : v.buffer.admits place.index.toNat p
    · rw [if_pos hfit, if_pos hfit]
      exact harrive p
    · rw [if_neg hfit, if_neg hfit]
      rfl
  · simpa only [if_neg hheld]

end Cursor

/-! ### What is done to the buffer -/

namespace Buffer

/-- What can be said of the buffer before and after any look and any move, since it can be said of
what they ask of the buffer. It must allow to leave the buffer as it is, to go on, and to refuse
what is asked. -/
structure Serves (R : Buffer α → Option Fault → Buffer α → Prop) : Prop where
  refl (b : Buffer α) : R b none b
  trans (b b' b'' : Buffer α) (fault : Option Fault) (h : R b none b') (h' : R b' fault b'') :
    R b fault b''
  refuse (b : Buffer α) (fault : Fault) (hfault : fault.source? = none) : R b (some fault) b
  ensure (target : Nat) (b : Buffer α) : Action.Ends (R b) ((ensure target).run b)
  fetch (target : Nat) (b : Buffer α) : Action.Ends (R b) ((fetch target).run b)

namespace Serves

variable {R : Buffer α → Option Fault → Buffer α → Prop}

/-- The same of the buffer of a cursor. -/
def onView (h : Serves R) : Judgement (View α) :=
  .ofRelation (fun v fault w => R v.buffer fault w.buffer) (fun v => h.refl v.buffer)
    fun s t u => h.trans s.buffer t.buffer u.buffer

variable (h : Serves R)

include h

omit [LineElement α] in
/-- A look does to the buffer what it does to it as it stands. -/
theorem look {β : Type} {f : Cursor → Peeking α β} {v : View α}
    (hf : Action.Ends (R v.buffer) ((f v.cursor).run v.buffer)) :
    h.onView.Holds (Cursor.look f) v := by
  refine Judgement.ofRelation_of_run (Cursor.run_look f v) ?_
  rcases hrun : (f v.cursor).run v.buffer with ⟨b, t⟩ | ⟨fault, t⟩
  · exact hf.of_ok hrun
  · exact hf.of_error hrun

omit [LineElement α] in
theorem peeks : h.onView.Peeks where
  raise _ _ v := h.refuse v.buffer _ rfl
  sourceIsEmpty v := h.refl v.buffer
  peek offset v := h.look
    (Judgement.peek_of_fetch (J := .ofRelation R h.refl h.trans) h.fetch v.cursor offset v.buffer)
  current v := h.look (Judgement.current_of_fetch (J := .ofRelation R h.refl h.trans) h.fetch
    (fun fault b => h.refuse b fault) v.cursor v.buffer)

/-- Arriving somewhere leaves the buffer as it is. -/
theorem arrive {b : Buffer α} {v : View α} (hb : R b none v.buffer) (start : Int) (p : Position)
    (target : Int) : Action.Ends (fun fault w => R b fault w.buffer) (v.arrive start p target) := by
  rw [View.arrive]
  split
  · exact hb
  · exact h.trans _ _ _ _ hb (h.refuse v.buffer _ rfl)

theorem land {b : Buffer α} {v : View α} (hb : R b none v.buffer) (target : Int) :
    Action.Ends (fun fault w => R b fault w.buffer) (v.land target) := by
  rw [View.land]
  split
  · exact hb
  · exact h.arrive hb ..

/-- **A move does to the buffer what making sure of an element does.** -/
theorem moveBy (offset : Int) (v : View α) : h.onView.Holds (Cursor.moveBy offset) v := by
  have hensure := h.ensure (v.cursor.index + offset).toNat v.buffer
  refine Judgement.ofRelation_iff.2 (Cursor.moveBy_cases offset v
    ?stay ?overflow ?outside ?back ?ahead ?ended ?failed)
  case stay => exact fun _ => h.refl v.buffer
  case overflow => exact fun _ => h.refuse v.buffer _ rfl
  case outside => exact fun _ => h.refl v.buffer
  case back => exact fun _ _ _ => h.land (h.refl v.buffer) _
  case ahead => exact fun b _ _ _ hb => h.land (hensure.of_ok hb) _
  case ended => exact fun b _ _ hb => hensure.of_ok hb
  case failed => exact fun fault b _ _ hb => hensure.of_error hb

/-- **Seeking a place does to the buffer what a move does.** -/
theorem moveTo (place : Location) (offset : Int) (v : View α) :
    h.onView.Holds (Cursor.moveTo place offset) v := by
  refine Judgement.ofRelation_iff.2 (Cursor.moveTo_cases place offset v
    ?overflow ?there ?straight ?restored ?unfit ?distant)
  case overflow => exact h.refuse v.buffer _ rfl
  case there => exact fun _ => h.refl v.buffer
  case straight => exact fun _ _ _ => h.refl v.buffer
  case restored => exact fun _ _ _ _ _ _ _ _ => h.arrive (h.refl v.buffer) ..
  case unfit => exact fun _ _ _ _ _ _ => h.refuse v.buffer _ rfl
  case distant => exact h.moveBy _ v

end Serves

end Buffer

end Rewind
