import Rewind.Operation
import Rewind.Proofs.Judgement

/-!
# Every operation is made of a few steps

However different the operations of a cursor are, each is put together from looking at one
element, moving by a distance, seeking a place, taking the whole text, and asking whether the
source was empty. So a judgement that holds of these holds of every operation
(`Judgement.Covers.run`), runs and scans of any length included. Most operations only look at one
element after the other and move ahead; for these that much is enough (`Judgement.Advances.run`).

Looking is the part of an operation that acts on the buffer alone; `look_bind` says that looking
twice in a row is one look.
-/

namespace Rewind

variable {α β γ : Type}

/-- A run as an action: one read, and the rest of the run. -/
theorem Reader.many_eq (reader : Reader α β) :
    reader.many = do
      match ← reader.read with
      | none => pure []
      | some x => return x :: (← reader.many) := by
  funext v
  refine (reader.run_many v).trans ?_
  change _ = EStateM.run _ v
  rw [EStateM.run_bind]
  rcases reader.read.run v with ⟨_ | x, t⟩ | ⟨e, t⟩
  · rfl
  · simp only [EStateM.run_bind]
    rcases reader.many.run t with ⟨xs, u⟩ | ⟨e, u⟩ <;> rfl
  · rfl

namespace Cursor

/-! ### Looks put together -/

theorem run_look (f : Cursor → Peeking α β) (v : View α) :
    (look f).run v =
      match (f v.cursor).run v.buffer with
      | .ok b t => .ok b { v with buffer := t }
      | .error fault t => .error fault { v with buffer := t } := rfl

/-- A look brings what it looks at brings, and the head is where it was. -/
theorem run_look_of_ok {f : Cursor → Peeking α β} {v : View α} {x : β} {b : Buffer α}
    (h : (f v.cursor).run v.buffer = .ok x b) : (look f).run v = .ok x { v with buffer := b } := by
  rw [run_look, h]

theorem run_look_of_error {f : Cursor → Peeking α β} {v : View α} {fault : Fault} {b : Buffer α}
    (h : (f v.cursor).run v.buffer = .error fault b) :
    (look f).run v = .error fault { v with buffer := b } := by
  rw [run_look, h]

/-- A look fails with what it looks at, and the head is where it was. -/
theorem run_look_eq_error {f : Cursor → Peeking α β} {v w : View α} {fault : Fault} :
    (look f).run v = .error fault w ↔
      (f v.cursor).run v.buffer = .error fault w.buffer ∧ w.cursor = v.cursor := by
  obtain ⟨b, c⟩ := w
  rw [run_look]
  rcases (f v.cursor).run v.buffer with ⟨x, t⟩ | ⟨e, t⟩
  · simp
  · simp only [EStateM.Result.error.injEq, View.mk.injEq]
    constructor
    · rintro ⟨rfl, rfl, rfl⟩
      exact ⟨⟨rfl, rfl⟩, rfl⟩
    · rintro ⟨⟨rfl, rfl⟩, rfl⟩
      exact ⟨rfl, rfl, rfl⟩

theorem look_pure (b : β) : (look fun _ => pure b : Moving α β) = pure b := rfl

theorem look_throw (fault : Fault) : (look fun _ => throw fault : Moving α β) = throw fault := rfl

theorem look_orOverflow (i : Option Int) :
    (look fun _ => Offset.orOverflow i : Moving α Int) = Offset.orOverflow i := by
  rcases i with _ | i <;> rfl

/-- Two looks in a row are one look. -/
theorem look_bind (f : Cursor → Peeking α β) (g : Cursor → β → Peeking α γ) :
    (look fun c => f c >>= g c) = look f >>= fun b => look (g · b) := by
  funext v
  change (look fun c => f c >>= g c).run v = (look f >>= fun b => look (g · b)).run v
  rw [EStateM.run_bind, run_look, run_look, EStateM.run_bind]
  rcases (f v.cursor).run v.buffer with ⟨b, t⟩ | ⟨e, t⟩ <;> rfl

/-- A scan as an action on the buffer: one look, and the rest of the scan. -/
theorem scan_eq (p : α → Bool) (c : Cursor) (offset : Int) :
    c.scan p offset = (do
      match ← c.peek offset with
      | none => pure ⟨[], none⟩
      | some x =>
        if p x then do
          let following ← Offset.orOverflow (Offset.add? offset 1)
          let scanned ← c.scan p following
          pure { scanned with passed := x :: scanned.passed }
        else pure ⟨[], some x⟩) := by
  funext b
  refine (run_scan p c offset b).trans ?_
  change _ = EStateM.run _ b
  rw [EStateM.run_bind]
  rcases (c.peek offset).run b with ⟨_ | x, t⟩ | ⟨e, t⟩
  · rfl
  · by_cases hp : p x
    · simp only [if_pos hp, EStateM.run_bind]
      rcases Offset.add? offset 1 with _ | following
      · rfl
      · simp only [Offset.orOverflow, EStateM.run_pure]
        rcases (c.scan p following).run t with ⟨scanned, u⟩ | ⟨e, u⟩ <;> rfl
    · simp only [if_neg hp]
      rfl
  · rfl

/-- Looking after a decision on the head is deciding first. -/
theorem look_ite (p : Cursor → Bool) (f g : Cursor → Peeking α β) :
    (look fun c => if p c then f c else g c) =
      head >>= fun c => if p c then look f else look g := by
  funext v
  change look _ v = (if p v.cursor then look f else look g).run v
  rcases h : p v.cursor
  · simp [look, h, EStateM.run]
  · simp [look, h, EStateM.run]

/-- A run read as a string is the run that is read. -/
theorem run_readStringWhile (m : Matcher Char) (v : View Char) :
    (readStringWhile m).run v = match (readWhile m).run v with
      | .ok xs w => .ok (String.ofList xs) w
      | .error fault w => .error fault w := by
  rw [readStringWhile, EStateM.run_bind]
  rcases (readWhile m).run v with ⟨xs, w⟩ | ⟨fault, w⟩ <;> rfl

end Cursor

open Cursor

namespace Operation

/-- The operations that only report what a cursor knows of itself. -/
def IsGlance : Operation α → Prop
  | .slot | .location | .sourceIsEmpty | .isAtStart | .isStartOfLine => True
  | _ => False

/-- Reporting what a cursor knows of itself changes nothing and cannot fail. -/
theorem IsGlance.run_eq [LineElement α] [DecidableEq α] {operation : Operation α}
    (h : operation.IsGlance) (v : View α) :
    ∃ reply, operation.run.run v = .ok reply v := by
  cases operation with
  | slot | location | sourceIsEmpty | isAtStart | isStartOfLine => exact ⟨_, rfl⟩
  | _ => exact h.elim

/-- A place that an operation reports is that of the head. -/
theorem eq_location_of_place [LineElement α] [DecidableEq α] {operation : Operation α}
    {v w : View α} {l : Location} (h : operation.run.run v = .ok (.place l) w) :
    l = v.cursor.location := by
  cases operation with
  | location =>
    cases h
    rfl
  | isStartOfLine =>
    simp only [run, bind_pure_comp, Action.run_map_eq_ok] at h
    obtain ⟨c, -, hreply⟩ := h
    rcases hs : c.isStartOfLine? with _ | starts
    · simp [hs] at hreply
    · simp [hs] at hreply
  | _ =>
    simp only [run, bind_pure_comp, Action.run_map_eq_ok, reduceCtorEq, and_false,
      exists_false] at h

/-- The place an operation seeks and the distance to go from there, if it seeks one. -/
def seeks? : Operation α → Option (Location × Int)
  | .moveTo place offset => some (place, offset)
  | .reset place => some (place, 0)
  | _ => none

/-- Seeking a place is all that such an operation does. -/
theorem run_of_seeks [LineElement α] [DecidableEq α] {operation : Operation α} {place : Location}
    {offset : Int} (h : operation.seeks? = some (place, offset)) :
    operation.run = do return .verdict (← Cursor.moveTo place offset) := by
  cases operation with
  | moveTo | reset => cases h; rfl
  | _ => cases h

/-- The operations that look at one element after the other and move ahead, if they move. The others
report what a cursor knows of itself, take the whole text, seek a place, or may be sent back. -/
def IsAhead : Operation α → Prop
  | .slot | .location | .sourceIsEmpty | .isAtStart | .isStartOfLine | .text => False
  | .moveBy _ | .rewind _ | .moveTo _ _ | .reset _ => False
  | _ => True

end Operation

/-- A judgement that holds of the steps all looks at single elements are made of. -/
structure Judgement.Peeks (J : Judgement (View α)) : Prop where
  raise {β : Type} (kind : Misuse) (hkind : kind = .zeroLengthMatch ∨ kind = .seekOverflow)
    (v : View α) : J.Holds (throw (.misuse kind) : Moving α β) v
  sourceIsEmpty (v : View α) : J.Holds (do return (← head).sourceIsEmpty : Moving α Bool) v
  peek (offset : Int) (v : View α) : J.Holds (look (·.peek offset) : Moving α (Option α)) v
  current (v : View α) : J.Holds (look (·.current) : Moving α α) v

/-- A judgement that holds of the steps all looks are made of. -/
structure Judgement.Looks (J : Judgement (View α)) : Prop extends J.Peeks where
  text (v : View α) : J.Holds (look fun _ => Buffer.text : Moving α (List α)) v

/-- A judgement that holds of the steps all operations that go ahead are made of. -/
structure Judgement.Advances [LineElement α] (J : Judgement (View α)) : Prop extends J.Peeks where
  moveAhead (offset : Int) (hoffset : 0 ≤ offset) (v : View α) : J.Holds (Cursor.moveBy offset) v

/-- A judgement that holds of the steps all operations are made of. -/
structure Judgement.Covers [LineElement α] (J : Judgement (View α)) : Prop extends J.Looks where
  moveBy (offset : Int) (v : View α) : J.Holds (Cursor.moveBy offset) v

/-- What holds of all steps holds of those that go ahead. -/
theorem Judgement.Covers.advances [LineElement α] {J : Judgement (View α)} (h : J.Covers) :
    J.Advances where
  toPeeks := h.toPeeks
  moveAhead offset _ := h.moveBy offset

namespace Judgement

/-! ### Looking -/

namespace Peeks

variable {J : Judgement (View α)}

/-- A look put together from two. -/
theorem look_seq {f : Cursor → Peeking α β} {g : Cursor → β → Peeking α γ} {v : View α}
    (hf : J.Holds (look f) v)
    (hg : ∀ b t, (look f).run v = .ok b t → J.Holds (look (g · b)) t) :
    J.Holds (look fun c => f c >>= g c) v := by
  rw [look_bind]
  exact J.seq hf hg

variable (h : J.Peeks)

include h

theorem orOverflow (i : Option Int) (v : View α) : J.Holds (Offset.orOverflow i) v :=
  J.orOverflow (h.raise _ (.inr rfl) v) i

/-- Going one of two ways over an empty source and over any other. -/
theorem ite_sourceIsEmpty {x y : Moving α β} {v : View α} (hx : J.Holds x v)
    (hy : ∀ t, J.Holds y t) : J.Holds (head >>= fun c => if c.sourceIsEmpty then x else y) v := by
  have hsplit : (head >>= fun c => if c.sourceIsEmpty then x else y) =
      (do return (← head).sourceIsEmpty) >>= fun e => if e then x else y := by
    simp only [bind_assoc, pure_bind]
  rw [hsplit]
  refine J.seq (h.sourceIsEmpty v) fun e t ht => J.ite (fun _ => ?_) fun _ => hy t
  cases ht
  exact hx

theorem isAtEnd (v : View α) : J.Holds (look (·.isAtEnd (α := α)) : Moving α Bool) v := by
  have hnext (t : View α) :
      J.Holds (look fun c => do return (← c.next (α := α)).isNone : Moving α Bool) t :=
    look_seq (h.peek 1 t) fun _ u _ => J.done _ u
  have := h.ite_sourceIsEmpty (J.done true v) hnext
  rwa [← look_pure, ← look_ite] at this

/-- Whether the end of the source, or a blank that ends it, is where blanks were looked for. -/
theorem blankEnd (blank : α → Bool) (endCounts : Bool) (v : View α) :
    J.Holds (do
      if !endCounts then pure false
      else if (← head).sourceIsEmpty then pure true
      else
        match ← look (·.peek 0) with
        | none => pure false
        | some x => if blank x then look (·.isAtEnd) else pure false : Moving α Bool) v := by
  refine J.ite (fun _ => J.done false v) fun _ => ?_
  refine h.ite_sourceIsEmpty (J.done true v) fun t => J.seq (h.peek 0 t) fun x u _ => ?_
  rcases x with _ | x
  · exact J.done false u
  · exact J.ite (fun _ => h.isAtEnd u) fun _ => J.done false u

section Matching

variable [DecidableEq α]

theorem matchesFrom (offset : Int) (matched : Nat) (pattern : List α) (v : View α) :
    J.Holds (look (·.matchesFrom offset matched pattern) : Moving α Bool) v := by
  induction pattern generalizing matched v with
  | nil => exact J.done true v
  | cons x rest ih =>
    simp only [Cursor.matchesFrom]
    refine look_seq (look_orOverflow (α := α) _ ▸ h.orOverflow _ v) fun i t _ => ?_
    rcases Offset.add? offset i with _ | ahead
    · exact J.done false t
    · refine look_seq (h.peek ahead t) fun y u _ => ?_
      rcases y with _ | y
      · exact J.done false u
      · by_cases hy : y = x
        · simpa only [if_pos hy] using ih (matched + 1) u
        · simpa only [if_neg hy, look_pure] using J.done false u

theorem matchesAt (offset : Int) (pattern : List α) (v : View α) :
    J.Holds (look (·.matchesAt offset pattern) : Moving α Bool) v := by
  simp only [Cursor.matchesAt]
  by_cases hp : pattern.isEmpty
  · simpa only [if_pos hp, look_throw] using h.raise .zeroLengthMatch (.inl rfl) v
  · simpa only [if_neg hp] using h.matchesFrom offset 0 pattern v

end Matching

/-- A scan holds by induction on what lies ahead of the place it looks at. -/
theorem scan (p : α → Bool) (offset : Int) (v : View α) :
    J.Holds (look (·.scan p offset) : Moving α (Scanned α)) v := by
  induction hn : (v.buffer.reach - (v.cursor.index + offset)).toNat using Nat.strongRecOn
    generalizing offset v with
  | ind n ih =>
    have hstep := funext fun c => scan_eq p c offset
    rw [hstep]
    -- Less lies ahead of the next place, so the rest of the scan is covered by the induction.
    refine look_seq (h.peek offset v) fun x t ht => ?_
    rcases x with _ | x
    · exact J.done _ t
    obtain ⟨hpeek, hcursor⟩ := run_look_eq_ok.1 ht
    by_cases hp : p x
    · simp only [if_pos hp]
      refine look_seq (look_orOverflow (α := α) _ ▸ h.orOverflow _ t) fun following u hu => ?_
      rw [look_orOverflow, Action.run_orOverflow_eq_ok] at hu
      obtain ⟨hfollowing, rfl⟩ := hu
      have hlt := lt_of_peek_of_add hpeek hfollowing
      rw [hn, ← hcursor] at hlt
      exact look_seq (ih _ hlt following t rfl) fun scanned w _ => J.done _ w
    · simpa only [if_neg hp, look_pure] using J.done _ t

end Peeks

namespace Advances

variable [LineElement α] {J : Judgement (View α)}

omit [LineElement α] in
/-- A run holds by induction on what lies ahead of the head. -/
theorem many {reader : Reader α β} (hread : ∀ v, J.Holds reader.read v) (v : View α) :
    J.Holds reader.many v := by
  induction hn : v.ahead using Nat.strongRecOn generalizing v with
  | ind n ih =>
    rw [reader.many_eq]
    refine J.seq (hread v) fun x t ht => ?_
    rcases x with _ | x
    · exact J.done [] t
    · exact J.map (ih _ (hn ▸ reader.ahead_lt ht) t rfl) (x :: ·)

variable (h : J.Advances)

include h

/-! ### Moving and reading -/

theorem skip (count : Nat) (v : View α) : J.Holds (Cursor.skip count) v := by
  refine J.seq (h.orOverflow _ v) fun i t hi => h.moveAhead i ?_ t
  obtain ⟨-, rfl⟩ := Offset.ofCount?_eq_some_iff.1 (Action.run_orOverflow_eq_ok.1 hi).1
  exact Int.natCast_nonneg count

theorem advanceWith (x : α) (v : View α) : J.Holds (Cursor.advanceWith x) v :=
  J.map (h.moveAhead 1 Int.one_nonneg v) _

theorem read (v : View α) : J.Holds Cursor.read v := by
  refine J.seq (h.peek 0 v) fun x t _ => ?_
  rcases x with _ | x
  · exact J.done none t
  · exact h.advanceWith x t

theorem readNext (v : View α) : J.Holds Cursor.readNext v :=
  J.seq (h.moveAhead 1 Int.one_nonneg v) fun _ t _ =>
    J.ite (fun _ => h.peek 0 t) fun _ => J.done none t

/-- Looking at one element and advancing if it passes a test. -/
theorem advanceIf (p : α → Bool) (offset : Int) (v : View α) :
    J.Holds (Cursor.advanceIf p offset) v := by
  refine J.seq (h.peek offset v) fun x t _ => ?_
  rcases x with _ | x
  · exact J.done none t
  · exact J.ite (fun _ => h.advanceWith x t) fun _ => J.done none t

section Reading

variable [DecidableEq α]

theorem readSeq (pattern : List α) (v : View α) : J.Holds (Cursor.readSeq pattern) v :=
  J.seq (h.matchesAt 0 pattern v) fun _ t _ =>
    J.ite (fun _ => h.skip _ t) fun _ => J.done false t

theorem readNextSeq (pattern : List α) (v : View α) : J.Holds (Cursor.readNextSeq pattern) v :=
  J.seq (h.matchesAt 1 pattern v) fun _ t _ =>
    J.ite (fun _ => h.skip _ t) fun _ => J.done false t

theorem readWhile (m : Matcher α) (v : View α) : J.Holds (Cursor.readWhile m) v := by
  have hread (t : View α) : J.Holds (readerIf m).read t := h.advanceIf m.accepts 0 t
  exact many hread v

theorem readNextWhile (m : Matcher α) (v : View α) : J.Holds (Cursor.readNextWhile m) v := by
  have hread (t : View α) : J.Holds (readerNextIf m).read t := h.advanceIf m.accepts 1 t
  exact many hread v

theorem skipWhile (m : Matcher α) (v : View α) : J.Holds (Cursor.skipWhile m) v :=
  J.map (h.readWhile m v) _

theorem skipUntil (m : Matcher α) (v : View α) : J.Holds (Cursor.skipUntil m) v :=
  J.seq (h.scan _ 0 v) fun _ t _ => J.ite (fun _ => h.skip _ t) fun _ => J.done false t

theorem skipBlank (blank : α → Bool) (endCounts : Bool) (v : View α) :
    J.Holds (Cursor.skipBlank blank endCounts) v :=
  J.seq (h.skipWhile _ v) fun _ t _ =>
    J.ite (fun _ => J.done true t) fun _ => h.blankEnd blank endCounts t

end Reading

theorem readWord (starts continues : α → Bool) (v : View α) :
    J.Holds (Cursor.readWord starts continues) v := by
  refine J.seq (h.peek 0 v) fun x t _ => ?_
  rcases x with _ | x
  · exact J.done none t
  · refine J.ite (fun _ => J.seq (h.scan continues 1 t) fun scanned u _ => ?_)
      fun _ => J.done none t
    exact J.map (h.skip _ u) _

/-- **What holds of the steps that go ahead holds of every operation that does.** -/
theorem run [DecidableEq α] {operation : Operation α} (hahead : operation.IsAhead) (v : View α) :
    J.Holds operation.run v := by
  cases operation with
  | slot | location | sourceIsEmpty | isAtStart | isStartOfLine | text => exact hahead.elim
  | moveBy | rewind | moveTo | reset => exact hahead.elim
  | current => exact J.map (h.current v) _
  | previous => exact J.map (h.peek (-1) v) _
  | next => exact J.map (h.peek 1 v) _
  | peek offset => exact J.map (h.peek offset v) _
  | isAtEnd => exact J.map (h.isAtEnd v) _
  | matchesAt offset pattern => exact J.map (h.matchesAt offset pattern v) _
  | skip count => exact J.map (h.skip count v) _
  | read => exact J.map (h.read v) _
  | readIf m => exact J.map (h.advanceIf m.accepts 0 v) _
  | readSeq pattern => exact J.map (h.readSeq pattern v) _
  | readNext => exact J.map (h.readNext v) _
  | readNextIf m => exact J.map (h.advanceIf m.accepts 1 v) _
  | readNextSeq pattern => exact J.map (h.readNextSeq pattern v) _
  | readWhile m => exact J.map (h.readWhile m v) _
  | readNextWhile m => exact J.map (h.readNextWhile m v) _
  | skipWhile m => exact J.map (h.skipWhile m v) _
  | skipUntil m => exact J.map (h.skipUntil m v) _
  | skipBlank blank endCounts => exact J.map (h.skipBlank blank endCounts v) _
  | readWord starts continues => exact J.map (h.readWord starts continues v) _

end Advances

namespace Covers

variable [LineElement α] {J : Judgement (View α)}

theorem rewind (h : J.Covers) (count : Nat) (v : View α) : J.Holds (Cursor.rewind count) v :=
  J.seq (h.orOverflow _ v) fun _ t _ => h.moveBy _ t

/-- **What holds of the steps holds of every operation**, provided it holds of what the operation
reports of the cursor alone, and of the seek it makes. -/
theorem run [DecidableEq α] (h : J.Covers) (operation : Operation α) (v : View α)
    (hglance : operation.IsGlance → J.Holds operation.run v)
    (hseek : ∀ place offset, operation.seeks? = some (place, offset) →
      J.Holds (Cursor.moveTo place offset) v) :
    J.Holds operation.run v := by
  cases operation with
  | slot | location | sourceIsEmpty | isAtStart | isStartOfLine => exact hglance trivial
  | text => exact J.map (h.text v) _
  | moveBy offset => exact J.map (h.moveBy offset v) _
  | rewind count => exact J.map (h.rewind count v) _
  | moveTo place offset => exact J.map (hseek place offset rfl) _
  | reset place => exact J.map (hseek place 0 rfl) _
  | _ => exact h.advances.run (by trivial) v

end Covers

end Judgement

end Rewind
