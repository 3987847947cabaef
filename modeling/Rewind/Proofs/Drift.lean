import Rewind.Proofs.Plausibility
import Rewind.Proofs.Strides

/-!
# How far a line can be from the truth

A cursor that keeps lines and was sent to a made-up place may have any line and column that the
check lets through. What it cannot do is make them worse. A walk takes the line along, so **the
distance between the line and the true one, the drift of the head, stays as it is on every
way a head can go** but one: only where a saved line is taken over is there a new drift
(`Session.driftIn_perform`). And the check admits no drift that is larger than the buffer.

So the line is bounded by the true line and the size of the buffer, and the column by the index,
whichever places were made up (`Position.Measured`). That the line stays below the index is not an
invariant: a walk back takes the index down by more than the line.

What a move does is told once (`View.Walks`): the buffer has grown, and the line and the column
have been walked from the old head to the new one. All that is said of moves here follows.
-/

namespace Rewind

open Cursor

variable {α : Type}

/-! ### Lines and columns on a walk -/

namespace Position

variable (feeds : α → Bool) {text : Array α} {start stop : Nat} {p q : Position}

/-- How many line feeds lie before a place: its true line. -/
def feedsBefore (text : Array α) (place : Nat) : Nat :=
  (text.toList.take place).countP feeds

theorem feedsBefore_le (text : Array α) (place : Nat) : feedsBefore feeds text place ≤ place :=
  Nat.le_trans List.countP_le_length (List.length_take_le ..)

/-- The line feeds on the way make the difference. -/
theorem feedsBefore_add_countP (text : Array α) (h : start ≤ stop) :
    feedsBefore feeds text start + (text.extract start stop).toList.countP feeds =
      feedsBefore feeds text stop := by
  rw [feedsBefore, feedsBefore, Array.toList_extract, List.extract_eq_take_drop,
    ← List.countP_append, ← List.take_add, Nat.add_sub_cancel' h]

/-- **A walk takes the line as far as the true line goes.** -/
theorem line_of_walk? (hstart : start ≤ text.size) (hstop : stop ≤ text.size)
    (h : walk? feeds text start stop p = some q) :
    q.line + feedsBefore feeds text start = p.line + feedsBefore feeds text stop := by
  have hback {i j : Nat} (hle : i ≤ j) : (text.extract j i).toList.countP feeds = 0 := by
    rw [Array.toList_extract, List.extract_eq_take_drop, Nat.sub_eq_zero_of_le hle, List.take_zero]
    rfl
  obtain ⟨hline, -⟩ := of_walk? feeds hstart hstop h
  rcases Nat.le_total start stop with hle | hle
  · have := feedsBefore_add_countP feeds text hle
    rw [hback hle] at hline
    omega
  · have := feedsBefore_add_countP feeds text hle
    rw [hback hle] at hline
    omega

theorem columnOf_behind_le (text : Array α) (place : Nat) :
    columnOf feeds (behind text place) ≤ place := by
  have hlength : columnOf feeds (behind text place) ≤ (behind text place).length :=
    (List.takeWhile_sublist _).length_le
  rw [behind_eq, List.length_reverse, List.length_take, ← behind_eq] at hlength
  omega

/-- **A walk leaves no column further right than its place.** -/
theorem column_le_of_walk? (hstart : start ≤ text.size) (hstop : stop ≤ text.size)
    (h : walk? feeds text start stop p = some q) (hcolumn : p.column ≤ start) :
    q.column ≤ stop := by
  obtain ⟨-, hq⟩ := of_walk? feeds hstart hstop h
  split at hq
  · rw [hq]
    exact columnOf_behind_le feeds text stop
  · omega

/-- Whether a line and a column are no larger than what can come of saved places that were let
through: the column no further right than the place, the line beyond the true one by no more than
the text is long. -/
structure Measured (text : Array α) (place : Nat) (p : Position) : Prop where
  column_le : p.column ≤ place
  line_le : p.line ≤ feedsBefore feeds text place + text.size

/-- The true line and column are. -/
theorem measured_ofBehind (text : Array α) (place : Nat) :
    (ofBehind feeds (behind text place)).Measured feeds text place where
  column_le := columnOf_behind_le feeds text place
  line_le := by
    rw [ofBehind, behind_eq, List.countP_reverse]
    exact Nat.le_add_right ..

variable {feeds}

/-- **A walk keeps the measure.** -/
theorem Measured.of_walk? (hp : p.Measured feeds text start) (hstart : start ≤ text.size)
    (hstop : stop ≤ text.size) (h : walk? feeds text start stop p = some q) :
    q.Measured feeds text stop where
  column_le := column_le_of_walk? feeds hstart hstop h hp.column_le
  line_le := by
    have hline := line_of_walk? feeds hstart hstop h
    have := hp.line_le
    omega

/-- So the line is at most twice as large as the text. -/
theorem Measured.line_le_size (hp : p.Measured feeds text start) (hstart : start ≤ text.size) :
    p.line ≤ 2 * text.size := by
  have := hp.line_le
  have := feedsBefore_le feeds text start
  omega

end Position

/-! ### Buffers that grow -/

namespace Buffer

variable {b b' : Buffer α} {told : List (Entry α)} {place : Nat} {p : Position}

/-- The true line of a place stays. -/
theorem Takes.feedsBefore_eq (h : b.Takes told b') (hplace : place ≤ b.items.size)
    (feeds : α → Bool) :
    Position.feedsBefore feeds b'.items place = Position.feedsBefore feeds b.items place := by
  rw [Position.feedsBefore, Position.feedsBefore, h.items_eq,
    List.take_append_of_le_length (by rwa [Array.length_toList])]

variable [LineElement α]

/-- What is measured stays so. -/
theorem Takes.measured (h : b.Takes told b') (hplace : place ≤ b.items.size)
    (hp : p.Measured b.feeds b.items place) : p.Measured b'.feeds b'.items place where
  column_le := hp.column_le
  line_le := by
    have := hp.line_le
    have := h.size_le
    rw [h.feeds_eq, h.feedsBefore_eq hplace]
    omega

/-- **A walk ahead is made**, over the elements of the whole text that it passes. -/
theorem walk?_ahead (b : Buffer α) {start stop : Int} (hle : start ≤ stop)
    (hstop : stop.toNat ≤ b.items.size) (p : Position) :
    b.walk? start stop p =
      some (p.forward b.feeds (b.whole.extract start.toNat stop.toNat)) := by
  rw [walk?, Position.walk?, if_pos (by omega), b.toList_extract hstop]

/-- **Whatever is let through is measured.** -/
theorem measured_of_admits (hplace : place ≤ b.items.size) (h : b.admits place p = true) :
    p.Measured b.feeds b.items place := by
  unfold admits at h
  rw [Bool.and_eq_true, Bool.and_eq_true, decide_eq_true_eq, decide_eq_true_eq] at h
  exact ⟨h.1.2, by omega⟩

end Buffer

/-! ### Heads that move -/

/-- How far the line of a head is beyond the true one, if it keeps lines. -/
def Cursor.driftIn [LineElement α] (c : Cursor) (b : Buffer α) : Option Int :=
  c.position.map fun p => p.line - Position.feedsBefore b.feeds b.items c.index.toNat

/-- Whether the line and the column of a head, if it keeps them, are measured. -/
def Cursor.MeasuredIn [LineElement α] (c : Cursor) (b : Buffer α) : Prop :=
  ∀ p, c.position = some p → p.Measured b.feeds b.items c.index.toNat

namespace View

/-- A head that stands is no further than the buffer. -/
theorem Stands.toNat_le {v : View α} (h : v.Stands) :
    v.cursor.index.toNat ≤ v.buffer.items.size := by
  rcases h.place with hheld | ⟨hindex, -⟩
  · rw [Buffer.holds_iff] at hheld
    omega
  · rw [hindex]
    exact Nat.zero_le _

variable [LineElement α]

/-- **What a move does**: the buffer grows, and the line and the column of a head that keeps them
are walked from where the head was to where it is. -/
structure Walks (v w : View α) : Prop where
  takes : ∃ told, v.buffer.Takes told w.buffer
  start_le : v.cursor.index.toNat ≤ v.buffer.items.size
  stop_le : w.cursor.index.toNat ≤ w.buffer.items.size
  plain : v.cursor.position = none → w.cursor.position = none
  walked : ∀ p, v.cursor.position = some p → ∃ q, w.cursor.position = some q ∧
    w.buffer.walk? v.cursor.index w.cursor.index p = some q

namespace Walks

variable {v w : View α}

/-- A head that stays has walked nowhere. -/
theorem of_stay (h : v.Stands) {told : List (Entry α)} (hb : v.buffer.Takes told w.buffer)
    (hlocation : w.cursor.location = v.cursor.location) : v.Walks w := by
  obtain ⟨hindex, hposition⟩ := Location.mk.inj hlocation
  have hsize := hb.size_le
  have hle := h.toNat_le
  refine ⟨⟨told, hb⟩, hle, ?_, fun hnone => hposition.trans hnone, fun p hp => ?_⟩
  · rw [hindex]
    omega
  · exact ⟨p, hposition.trans hp, by rw [hindex, walk?_self]⟩

/-- The places that are walked between are those of the buffer there is in the end. -/
theorem start_le_size (h : v.Walks w) : v.cursor.index.toNat ≤ w.buffer.items.size := by
  obtain ⟨told, hb⟩ := h.takes
  exact Nat.le_trans h.start_le hb.size_le

/-- What strides ahead from a head that stands to one that does has walked there. -/
theorem of_strides (hv : v.Stands) (hw : w.Stands) {told : List (Entry α)}
    (hb : v.buffer.Takes told w.buffer) (h : v.Strides w) : v.Walks w where
  takes := ⟨told, hb⟩
  start_le := hv.toNat_le
  stop_le := hw.toNat_le
  plain hnone := by rw [h.position_eq, hnone, Option.map_none]
  walked p hp := by
    refine ⟨_, by rw [h.position_eq, hp, Option.map_some], ?_⟩
    rw [w.buffer.walk?_ahead h.index_le hw.toNat_le, h.whole_eq, h.feeds_eq]

/-- **Walking leaves the drift.** -/
theorem driftIn_eq (h : v.Walks w) : w.cursor.driftIn w.buffer = v.cursor.driftIn v.buffer := by
  obtain ⟨told, hb⟩ := h.takes
  rcases hp : v.cursor.position with _ | p
  · rw [driftIn, driftIn, hp, h.plain hp]
    rfl
  · obtain ⟨q, hq, hwalk⟩ := h.walked p hp
    have hline := Position.line_of_walk? w.buffer.feeds h.start_le_size h.stop_le hwalk
    rw [hb.feedsBefore_eq h.start_le] at hline
    rw [driftIn, driftIn, hp, hq, Option.map_some, Option.map_some, hb.feeds_eq] at *
    congr 1
    omega

/-- **Walking keeps the measure.** -/
theorem measuredIn (h : v.Walks w) (hv : v.cursor.MeasuredIn v.buffer) :
    w.cursor.MeasuredIn w.buffer := by
  obtain ⟨told, hb⟩ := h.takes
  intro q hq
  rcases hp : v.cursor.position with _ | p
  · rw [h.plain hp] at hq
    cases hq
  · obtain ⟨q', hq', hwalk⟩ := h.walked p hp
    cases hq'.symm.trans hq
    exact (hb.measured h.start_le (hv p hp)).of_walk? h.start_le_size h.stop_le hwalk

end Walks

namespace Stands

variable {v : View α}

theorem walks_look {β : Type} (h : v.Stands) {f : Cursor → Peeking α β}
    (hf : Buffer.pulling.Holds (f v.cursor) v.buffer) :
    Action.Ends (fun _ w => v.Walks w) ((look f).run v) := by
  have hends := Judgement.ofRelation_iff.1 hf
  rw [run_look]
  rcases hrun : (f v.cursor).run v.buffer with ⟨x, b⟩ | ⟨fault, b⟩
  · obtain ⟨told, hb, -⟩ := hends.of_ok hrun
    exact .of_stay h hb rfl
  · obtain ⟨told, hb, -⟩ := hends.of_error hrun
    exact .of_stay h hb rfl

/-- A head that arrives in the buffer has walked there, and one that is refused stays. -/
theorem walks_land (h : v.Stands) {b : Buffer α} {told : List (Entry α)}
    (hb : v.buffer.Takes told b) {target : Int} (htarget : target.toNat ≤ b.items.size) :
    Action.Ends (fun _ w => v.Walks w) (land ⟨b, v.cursor⟩ target) := by
  rw [land]
  rcases hp : v.cursor.position with _ | p
  · exact ⟨⟨told, hb⟩, h.toNat_le, htarget, fun _ => hp, fun p' hp' => by cases hp.symm.trans hp'⟩
  · simp only [arrive]
    rcases hwalk : b.walk? v.cursor.index target p with _ | q
    · exact .of_stay h hb rfl
    · refine ⟨⟨told, hb⟩, h.toNat_le, htarget, fun hnone => ?_, fun p' hp' => ?_⟩
      · cases hp.symm.trans hnone
      · cases hp.symm.trans hp'
        exact ⟨q, rfl, hwalk⟩

/-- **A move by a distance walks.** -/
theorem walks_moveBy (h : v.Stands) (offset : Int) :
    Action.Ends (fun _ w => v.Walks w) ((moveBy offset).run v) := by
  have hends := Judgement.ofRelation_iff.1
    (Buffer.pulling_ensure (v.cursor.index + offset).toNat v.buffer)
  have hstay : v.Walks v := .of_stay h (.refl _) rfl
  refine moveBy_cases offset v ?stay ?overflow ?outside ?back ?ahead ?ended ?failed
  case stay | overflow | outside => exact fun _ => hstay
  case back =>
    intro _ hback hzero
    have := h.toNat_le
    exact h.walks_land (.refl _) (by omega)
  case ahead =>
    intro b _ _ _ hrun
    obtain ⟨⟨told, hb, -⟩, hsettles, hfound⟩ := Buffer.of_run_ensure hrun
    have hlt := of_decide_eq_true hfound.symm
    rw [← hb.whole_eq, hsettles.lt_iff] at hlt
    exact h.walks_land hb (Nat.le_of_lt hlt)
  case ended =>
    intro b _ _ hrun
    obtain ⟨told, hb, -⟩ := hends.of_ok hrun
    exact .of_stay h hb rfl
  case failed =>
    intro fault b _ _ hrun
    obtain ⟨told, hb, -⟩ := hends.of_error hrun
    exact .of_stay h hb rfl

/-- **So does seeking a place whose line and column are not taken over.** -/
theorem walks_moveTo (h : v.Stands) {place : Location} {offset : Int}
    (hnot : ¬ v.TakesOver place offset) :
    Action.Ends (fun _ w => v.Walks w) ((moveTo place offset).run v) := by
  have hstay : v.Walks v := .of_stay h (.refl _) rfl
  have happroach :
      Action.Ends (fun _ w => v.Walks w) ((approach (place.index + offset)).run v) := by
    rw [run_approach]
    split
    · exact h.walks_moveBy _
    · exact hstay
  rw [run_moveTo]
  by_cases hfits : ¬ Fits (place.index + offset)
  · rw [if_pos hfits]
    exact hstay
  by_cases hthere : place.index + offset = v.cursor.index
  · rw [if_neg hfits, if_pos hthere]
    exact hstay
  rw [if_neg hfits, if_neg hthere]
  rcases hp : v.cursor.position with _ | p
  · by_cases hheld : v.buffer.holds (place.index + offset)
    · simp only [if_pos hheld]
      rw [Buffer.holds_iff] at hheld
      exact ⟨⟨[], .refl _⟩, h.toNat_le, by simp only; omega, fun _ => hp,
        fun p' hp' => by cases hp.symm.trans hp'⟩
    · simpa only [if_neg hheld] using happroach
  rcases place.position with _ | q
  · exact happroach
  · have hunheld : ¬ (v.buffer.holds place.index && v.buffer.holds (place.index + offset)) := by
      rw [Bool.and_eq_true]
      exact fun hheld => hnot ⟨hthere, hheld⟩
    simpa only [if_neg hunheld] using happroach

end Stands

/-! ### Operations -/

/-- **Every operation walks, unless it takes over a saved line and column.** -/
theorem Stands.walks_run [DecidableEq α] {v : View α} (h : v.Stands) {operation : Operation α}
    (hnot : ∀ place offset, operation.seeks? = some (place, offset) →
      ¬ v.TakesOver place offset) :
    Action.Ends (fun _ w => v.Walks w) (operation.run.run v) := by
  cases operation with
  | slot | location | sourceIsEmpty | isAtStart | isStartOfLine =>
    exact Walks.of_stay (w := v) h (.refl _) rfl
  | text => exact (h.walks_look (Buffer.pulling_text v.buffer)).map _
  | moveBy offset => exact (h.walks_moveBy offset).map _
  | rewind count =>
    have hrewind : Action.Ends (fun _ w => v.Walks w) ((Cursor.rewind count).run v) := by
      rw [Cursor.rewind]
      rcases Offset.ofCount? count with _ | i
      · exact Walks.of_stay (w := v) h (.refl _) rfl
      · exact h.walks_moveBy (-i)
    exact hrewind.map _
  | moveTo place offset => exact (h.walks_moveTo (hnot place offset rfl)).map _
  | reset place => exact (h.walks_moveTo (hnot place 0 rfl)).map _
  | _ =>
    -- All others go ahead, and may do so in many moves.
    refine (((Judgement.ofRelation_iff.1 (standing_run _ v)).and
      (Judgement.ofRelation_iff.1 (pulling_run _ v))).and
        (Judgement.ofRelation_iff.1 (striding_advances.run (by trivial) v))).imp ?_
    rintro fault w ⟨⟨hstanding, told, hb, -⟩, hstrides⟩
    exact .of_strides h (hstanding h).1 hb hstrides

/-- A head that stands and is measured, if it keeps lines. -/
structure Sound (v : View α) : Prop where
  stands : v.Stands
  measured : v.cursor.MeasuredIn v.buffer

/-- **Seeking any place leaves a head measured**, whatever is said of its line and column: those
that are taken over have been let through. -/
theorem Sound.measured_moveTo {v : View α} (h : v.Sound) (place : Location) (offset : Int) :
    Action.Ends (fun _ w => w.cursor.MeasuredIn w.buffer) ((moveTo place offset).run v) := by
  refine moveTo_cases place offset v ?overflow ?there ?straight ?restored ?unfit ?distant
  case overflow => exact h.measured
  case there => exact fun _ => h.measured
  case straight => exact fun _ hnone _ p hp => by cases hnone.symm.trans hp
  case restored =>
    intro q p _ _ _ hplace htarget hadmits
    rw [Buffer.holds_iff] at hplace htarget
    rw [arrive]
    rcases hwalk : v.buffer.walk? place.index (place.index + offset) p with _ | q'
    · exact h.measured
    · intro p' hp'
      cases hp'
      refine (Buffer.measured_of_admits ?_ hadmits).of_walk? ?_ ?_ hwalk
      · omega
      · omega
      · simp only
        omega
  case unfit => exact fun _ _ _ _ _ _ => h.measured
  case distant => exact (h.stands.walks_moveBy _).imp fun _ w hw => hw.measuredIn h.measured

/-- **Heads go on being sound.** -/
def sounding : Judgement (View α) :=
  .ofRelation (fun v _ w => v.Sound → w.Sound) (fun _ => id) fun _ _ _ _ h h' => h' ∘ h

/-- What leaves a head standing and walks leaves it sound. -/
theorem sounding_of_walks {β : Type} {x : Moving α β} {v : View α} (hstanding : standing.Holds x v)
    (hwalks : v.Stands → Action.Ends (fun _ w => v.Walks w) (x.run v)) : sounding.Holds x v := by
  have hends := Judgement.ofRelation_iff.1 hstanding
  refine Judgement.ofRelation_iff.2 ?_
  by_cases hv : v.Stands
  · exact (hends.and (hwalks hv)).imp fun _ w ⟨hw, hwalk⟩ hsound =>
      ⟨(hw hv).1, hwalk.measuredIn hsound.measured⟩
  · exact hends.imp fun _ _ _ hsound => absurd hsound.stands hv

theorem sounding_covers : Judgement.Covers (sounding (α := α)) where
  raise _ _ _ := Judgement.ofRelation_of_run rfl id
  sourceIsEmpty _ := Judgement.ofRelation_of_run rfl id
  peek offset v := sounding_of_walks (standing_covers.peek offset v)
    fun h => h.walks_look (pulling_peek v.cursor offset v.buffer)
  current v := sounding_of_walks (standing_covers.current v)
    fun h => h.walks_look (pulling_current v.cursor v.buffer)
  text v := sounding_of_walks (standing_covers.text v)
    fun h => h.walks_look (Buffer.pulling_text v.buffer)
  moveBy offset v := sounding_of_walks (standing_moveBy offset v) fun h => h.walks_moveBy offset

theorem sounding_moveTo (place : Location) (offset : Int) (v : View α) :
    sounding.Holds (moveTo place offset) v := by
  have hstanding := Judgement.ofRelation_iff.1 (standing_moveTo place offset v)
  refine Judgement.ofRelation_iff.2 ?_
  by_cases hv : v.Sound
  · exact (hstanding.and (hv.measured_moveTo place offset)).imp fun _ w hw _ =>
      ⟨(hw.1 hv.stands).1, hw.2⟩
  · exact hstanding.imp fun _ w _ hv' => absurd hv' hv

/-- **Every operation leaves a sound head sound.** -/
theorem sounding_run [DecidableEq α] (operation : Operation α) (v : View α) :
    sounding.Holds operation.run v := by
  refine sounding_covers.run operation v (fun hglance => ?_) fun place offset _ =>
    sounding_moveTo place offset v
  obtain ⟨reply, hrun⟩ := hglance.run_eq v
  exact Judgement.ofRelation_of_run hrun id

/-! ### Where the drift changes -/

/-- Seeking a place changes the drift only if the line and the column are taken over, and then the
head has arrived. -/
theorem Stands.driftIn_moveTo {v : View α} (h : v.Stands) (place : Location) (offset : Int) :
    (v.TakesOver place offset ∧ ∃ w, (moveTo place offset).run v = .ok true w) ∨
      Action.Ends (fun _ w => w.cursor.driftIn w.buffer = v.cursor.driftIn v.buffer)
        ((moveTo place offset).run v) := by
  by_cases htakes : v.TakesOver place offset
  · refine moveTo_cases (P := fun r => (v.TakesOver place offset ∧ ∃ w, r = .ok true w) ∨
      Action.Ends (fun _ w => w.cursor.driftIn w.buffer = v.cursor.driftIn v.buffer) r)
      place offset v ?overflow ?there ?straight ?restored ?unfit ?distant
    case overflow => exact .inr rfl
    case there => exact fun _ => .inr rfl
    case straight => exact fun _ _ _ => .inl ⟨htakes, _, rfl⟩
    case restored =>
      intro q p _ _ _ _ _ _
      rw [arrive]
      rcases v.buffer.walk? place.index (place.index + offset) p with _ | q'
      · exact .inr rfl
      · exact .inl ⟨htakes, _, rfl⟩
    case unfit => exact fun _ _ _ _ _ _ => .inr rfl
    case distant => exact .inr ((h.walks_moveBy _).imp fun _ _ hw => hw.driftIn_eq)
  · exact .inr ((h.walks_moveTo htakes).imp fun _ _ hw => hw.driftIn_eq)

/-- **An operation changes the drift only if it takes over a line and a column that were saved.** -/
theorem Stands.driftIn_run [DecidableEq α] {v : View α} (h : v.Stands) (operation : Operation α) :
    (∃ place offset, operation.seeks? = some (place, offset) ∧ v.TakesOver place offset ∧
      ∃ w, operation.run.run v = .ok (.verdict true) w) ∨
    Action.Ends (fun _ w => w.cursor.driftIn w.buffer = v.cursor.driftIn v.buffer)
      (operation.run.run v) := by
  rcases hseeks : operation.seeks? with _ | ⟨place, offset⟩
  · refine .inr ((h.walks_run fun place offset hsome => ?_).imp fun _ _ hw => hw.driftIn_eq)
    cases hseeks.symm.trans hsome
  · rw [Operation.run_of_seeks hseeks]
    rcases h.driftIn_moveTo place offset with ⟨htakes, w, hmoved⟩ | hdrift
    · exact .inl ⟨place, offset, rfl, htakes, w, Action.run_bind_of_ok hmoved⟩
    · exact .inr (hdrift.map _)

end View

/-! ### Sessions -/

namespace Session

/-- Whether every head of a session is sound. -/
def Sound [LineElement α] (s : Session α) : Prop :=
  ∀ c ∈ s.cursors, View.Sound ⟨s.buffer, c⟩

section Drift

variable [LineElement α]

/-- While the buffer grows a head goes on being sound. -/
theorem sound_grow {c : Cursor} {b b' : Buffer α} {told : List (Entry α)} (hb : b.Takes told b')
    (h : View.Sound ⟨b, c⟩) : View.Sound ⟨b', c⟩ where
  stands := Cursor.StandsIn.mono h.stands hb
  measured p hp := hb.measured h.stands.toNat_le (h.measured p hp)

/-- While it grows a head that stands keeps its drift. -/
theorem driftIn_grow {c : Cursor} {b b' : Buffer α} {told : List (Entry α)} (hb : b.Takes told b')
    (h : c.StandsIn b) : c.driftIn b' = c.driftIn b :=
  (View.Walks.of_stay (v := ⟨b, c⟩) (w := ⟨b', c⟩) h hb rfl).driftIn_eq

variable [DecidableEq α]

/-- **Every run leaves all heads sound.** -/
theorem Sound.run {s : Session α} (h : s.Sound) (commands : List (Command α)) :
    (s.run commands).2.Sound :=
  heads_run (P := fun c b => View.Sound ⟨b, c⟩) (fun _ _ _ _ hb hc => sound_grow hb hc)
    (fun _ _ hc => ⟨⟨hc.stands.fits, hc.stands.place⟩, nofun⟩)
    (fun operation v hv => (Judgement.ofRelation_iff.1 (View.sounding_run operation v)).imp
      fun _ _ hw => hw hv) h commands

omit [DecidableEq α] in
/-- So is the head of a cursor that has just been opened. -/
theorem Sound.start {o : Opening α} {key : Nat} {config : Config} {keepsLines : Bool}
    {v : View α} (hopen : o.open? key config keepsLines = .ok v) : (start v).Sound := by
  intro c hc
  refine ⟨Stands.start hopen c hc, fun p hp => ?_⟩
  have htrue := (Truthful.start hopen).cursor c hc
  rw [htrue.position_eq p hp]
  exact Position.measured_ofBehind ..

/-- Whether a command puts the cursor of a number onto a place with a line and a column that were
saved. -/
def Restores (s : Session α) (k : Nat) (command : Command α) : Prop :=
  ∃ operation c place offset, command = .apply k operation ∧ s.cursors[k]? = some c ∧
    operation.seeks? = some (place, offset) ∧ View.TakesOver ⟨s.buffer, c⟩ place offset ∧
    (s.perform command).1 = .answered (.verdict true)

/-- **Only what is restored drifts otherwise than before.** -/
theorem driftIn_perform {s : Session α} (hs : s.Stands) {command : Command α} {k : Nat} {c : Cursor}
    (hc : s.cursors[k]? = some c) (hnot : ¬ s.Restores k command) :
    (s.perform command).2.cursors[k]?.map (·.driftIn (s.perform command).2.buffer) =
      some (c.driftIn s.buffer) := by
  obtain ⟨told, htakes, -⟩ := s.perform_takes command
  have hstands := hs c (List.mem_of_getElem? hc)
  have hstay {b : Buffer α} (hb : s.buffer.Takes told b) :
      (s.cursors[k]?.map (·.driftIn b)) = some (c.driftIn s.buffer) := by
    rw [hc, Option.map_some, driftIn_grow hb hstands]
  -- The cursor that an operation is asked of has drifted only by what the operation restores.
  have hasked {i : Nat} {operation : Operation α} {c' : Cursor} {w : View α}
      (hcommand : command = .apply i operation) (hc' : s.cursors[i]? = some c')
      (hb : s.buffer.Takes told w.buffer)
      (hrun : ∀ R : View α → Prop,
        Action.Ends (fun _ w => R w) (operation.run.run ⟨s.buffer, c'⟩) → R w) :
      (s.cursors.set i w.cursor)[k]?.map (·.driftIn w.buffer) = some (c.driftIn s.buffer) := by
    by_cases hk : i = k
    · subst hk
      cases hc.symm.trans hc'
      have hlt := (List.getElem?_eq_some_iff.1 hc).1
      rw [List.getElem?_set_self hlt, Option.map_some]
      rcases View.Stands.driftIn_run (v := ⟨s.buffer, c⟩) hstands operation with
        ⟨place, offset, hseeks, hover, u, hmoved⟩ | hdrift
      · refine absurd ⟨operation, c, place, offset, hcommand, hc, hseeks, hover, ?_⟩ hnot
        rw [hcommand, perform_apply hc, hmoved]
      · exact congrArg some (hrun _ hdrift)
    · rw [List.getElem?_set_ne hk]
      exact hstay hb
  revert htakes
  refine perform_cases (P := fun r => s.buffer.Takes told r.2.buffer →
    r.2.cursors[k]?.map (·.driftIn r.2.buffer) = some (c.driftIn s.buffer)) s command
    ?absent ?applied ?failed ?forked ?begun ?advanced ?ended ?broken
  case absent | begun | advanced | ended | broken =>
    intros
    rename_i htakes
    exact hstay htakes
  case applied =>
    intro i operation c' reply w hcommand hc' hrun htakes
    exact hasked hcommand hc' htakes fun R hR => hR.of_ok hrun
  case failed =>
    intro i operation c' fault w hcommand hc' hrun htakes
    exact hasked hcommand hc' htakes fun R hR => hR.of_error hrun
  case forked =>
    intro i c' change _ _ htakes
    have hlt := (List.getElem?_eq_some_iff.1 hc).1
    rw [List.getElem?_append_left hlt]
    exact hstay htakes

/-- A fork drifts as the cursor it is made from. -/
theorem driftIn_fork {s : Session α} (hs : s.Stands) {i : Nat} {c : Cursor}
    (hc : s.cursors[i]? = some c) :
    (s.perform (.fork i)).2.cursors[s.cursors.length]?.map
        (·.driftIn (s.perform (.fork i)).2.buffer) = some (c.driftIn s.buffer) := by
  have hfork : (s.perform (.fork i)).2 =
      { s with buffer := s.buffer.record (.forked c.index), cursors := s.cursors ++ [c] } := by
    rw [perform, step, run_addFork, hc]
    rfl
  rw [hfork, List.getElem?_concat_length, Option.map_some]
  exact congrArg some (driftIn_grow (.of_record (.refl _) _) (hs c (List.mem_of_getElem? hc)))

end Drift

end Session

end Rewind
