import Rewind.Proofs.Lines

/-!
# Going ahead

Most operations only look at one element after the other and move ahead. Such an operation may move
many times, or fail in the middle, and then it has gone some of the way. Either way its line and
column have been walked along **over the elements between where it started and where it is**, in one
stride or in many (`View.striding_advances`).
-/

namespace Rewind

variable {α β : Type}

open Cursor

namespace View

/-- Whether a head has gone ahead, if it has moved, and its line and column have walked along over
the elements that it has passed. -/
structure Strides (v w : View α) [LineElement α] : Prop where
  whole_eq : w.buffer.whole = v.buffer.whole
  feeds_eq : w.buffer.feeds = v.buffer.feeds
  index_le : v.cursor.index ≤ w.cursor.index
  position_eq : w.cursor.position = v.cursor.position.map
    (·.forward v.buffer.feeds
      (v.buffer.whole.extract v.cursor.index.toNat w.cursor.index.toNat))

variable [LineElement α] {v w u : View α}

namespace Strides

/-- A head that stays strides over nothing. -/
theorem stay {told : List (Entry α)} (hb : v.buffer.Takes told w.buffer)
    (hindex : w.cursor.index = v.cursor.index) (hposition : w.cursor.position = v.cursor.position) :
    v.Strides w where
  whole_eq := hb.whole_eq
  feeds_eq := hb.feeds_eq
  index_le := Int.le_of_eq hindex.symm
  position_eq := by
    rw [hposition, hindex, List.extract_eq_take_drop, Nat.sub_self, List.take_zero]
    exact Option.map_id'.symm

/-- **Two strides in a row are one.** -/
theorem trans (h : v.Strides w) (h' : w.Strides u) : v.Strides u where
  whole_eq := h'.whole_eq.trans h.whole_eq
  feeds_eq := h'.feeds_eq.trans h.feeds_eq
  index_le := Int.le_trans h.index_le h'.index_le
  position_eq := by
    have hjoin := extract_append_extract v.buffer.whole
      (Int.toNat_le_toNat h.index_le) (Int.toNat_le_toNat h'.index_le)
    rw [h'.position_eq, h.position_eq, Option.map_map, h.whole_eq, h.feeds_eq, ← hjoin]
    congr 1
    funext p
    exact (Position.forward_append ..).symm

/-- Where a head has got to and what it has found of the end are all that may differ in cursors that
have gone ahead from one place. -/
theorem cursor_eq (h : v.Strides w) (h' : v.Strides u)
    (hindex : w.cursor.index = u.cursor.index)
    (hmark : w.cursor.reachedEnd = u.cursor.reachedEnd) : w.cursor = u.cursor := by
  have hposition : w.cursor.position = u.cursor.position := by
    rw [h.position_eq, h'.position_eq, hindex]
  rcases hw : w.cursor with ⟨i, r, p⟩
  rcases hu : u.cursor with ⟨j, q, o⟩
  simp only [hw, hu] at hindex hmark hposition
  rw [hindex, hmark, hposition]

end Strides

/-- What leaves a cursor on its place, or takes it ahead with its line and column. -/
def striding : Judgement (View α) :=
  .ofRelation (fun v _ w => v.Strides w) (fun v => .stay (.refl v.buffer) rfl rfl)
    fun _ _ _ _ h h' => h.trans h'

/-- A look moves nothing. -/
theorem striding_look {f : Cursor → Peeking α β}
    (hf : Buffer.pulling.Holds (f v.cursor) v.buffer) : striding.Holds (look f) v := by
  have hends := Judgement.ofRelation_iff.1 hf
  refine Judgement.ofRelation_of_run (run_look f v) ?_
  rcases hrun : (f v.cursor).run v.buffer with ⟨x, b⟩ | ⟨fault, b⟩
  · obtain ⟨told, hb, -⟩ := hends.of_ok hrun
    exact .stay hb rfl rfl
  · obtain ⟨told, hb, -⟩ := hends.of_error hrun
    exact .stay hb rfl rfl

/-- **A move ahead walks the line and the column along**, however far it goes. -/
theorem striding_moveAhead {offset : Int} (hoffset : 0 ≤ offset) (v : View α) :
    striding.Holds (moveBy offset) v := by
  have hpulls := Judgement.ofRelation_iff.1 (Buffer.pulling_ensure (v.cursor.index + offset).toNat
    v.buffer)
  refine Judgement.ofRelation_iff.2 (moveBy_cases
    (P := Action.Ends fun _ w => v.Strides w) offset v
    ?stay ?overflow ?outside ?back ?ahead ?ended ?failed)
  case stay => exact fun _ => .stay (.refl v.buffer) rfl rfl
  case overflow => exact fun _ => .stay (.refl v.buffer) rfl rfl
  case outside => exact fun _ => .stay (.refl v.buffer) rfl rfl
  case back => exact fun _ hback => by omega
  case ahead =>
    intro b _ hindex hpos hensure
    obtain ⟨told, hb, -⟩ := hpulls.of_ok hensure
    obtain ⟨-, hsettles, hfound⟩ := Buffer.of_run_ensure hensure
    have hheld : (v.cursor.index + offset).toNat < b.items.size := by
      have hlt := of_decide_eq_true hfound.symm
      rwa [← hb.whole_eq, hsettles.lt_iff] at hlt
    have hle : v.cursor.index ≤ v.cursor.index + offset := by omega
    rw [View.land_ahead_eq ⟨b, v.cursor⟩ hle]
    refine ⟨hb.whole_eq, hb.feeds_eq, hle, ?_⟩
    simp only
    rw [b.toList_extract (Nat.le_of_lt hheld), hb.whole_eq, hb.feeds_eq]
  case ended =>
    intro b _ _ hensure
    obtain ⟨told, hb, -⟩ := hpulls.of_ok hensure
    exact .stay hb rfl rfl
  case failed =>
    intro fault b _ _ hensure
    obtain ⟨told, hb, -⟩ := hpulls.of_error hensure
    exact .stay hb rfl rfl

/-- So does whatever is put together from looks and moves ahead. -/
theorem striding_advances : Judgement.Advances (striding (α := α)) where
  raise _ _ v := .stay (.refl v.buffer) rfl rfl
  sourceIsEmpty v := .stay (.refl v.buffer) rfl rfl
  peek offset v := striding_look (pulling_peek v.cursor offset v.buffer)
  current v := striding_look (pulling_current v.cursor v.buffer)
  moveAhead _ hoffset v := striding_moveAhead hoffset v

end View

end Rewind
