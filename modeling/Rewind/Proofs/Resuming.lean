import Rewind.Proofs.Consumption
import Rewind.Proofs.Heads

/-!
# Runs that are broken off

An operation that moves its head again and again does not start over when the source fails: what it
was to hand out is lost, **but its head stays where it got to** (`View.Interrupted`). It is then on
the last element that the buffer holds, everything it has passed is known to pass, and its line and
column have walked along.

From there a caller may ask again. `Action.Retries` leads from where an operation is first asked for
to where it is asked for the last time, and `Action.Resumes` says that it then ends where it would
have ended at once without the failures. A run resumes because its reads do, one by one; the reads
that were made before a failure are simply not made again. So what the last try hands out is what
the whole run would have, **from where that try starts** (`runs_resume`).
-/

namespace Rewind

variable {σ β γ : Type}

open Cursor

/-! ### Asking again from where a failure has left the state -/

namespace Action

/-- Whether an action that is asked for again for as long as the source fails is asked for in the
state `u` on the way. -/
inductive Retries (x : Action σ β) : σ → σ → Prop
  | here (s : σ) : Retries x s s
  | again {s t u : σ} {m : String} (hrun : x.run s = .error (.source m) t)
      (hrest : Retries x t u) : Retries x s u

/-- Answered both, or refused alike, with states that only differ by failures still to come. The
answers may differ. -/
def Alike (clears : σ → σ → Prop) : EStateM.Result Fault σ β → EStateM.Result Fault σ γ → Prop
  | .ok _ t, r => ∃ b e, r = .ok b e ∧ clears t e
  | .error fault t, r => ∃ e, r = .error fault e ∧ clears t e

/-- Asking again comes to an end, which is the one that asking once comes to in the state `d`, where
no failures are to come. -/
def Resumes (clears : σ → σ → Prop) (x : Action σ β) (s d : σ) : Prop :=
  ∃ u, x.Retries s u ∧ Settled (x.run u) ∧ Alike clears (x.run u) (x.run d)

variable {clears : σ → σ → Prop} {x : Action σ β} {s t u d : σ}

/-- There is one state in which an action is asked for the last time. -/
theorem Retries.unique {u' : σ} (h : x.Retries s u) (hu : Settled (x.run u))
    (h' : x.Retries s u') (hu' : Settled (x.run u')) : u' = u := by
  induction h with
  | here s =>
    rcases h' with _ | ⟨hrun, -⟩
    · rfl
    · rw [hrun] at hu
      cases hu
  | again hrun _ ih =>
    rcases h' with _ | ⟨hrun', hrest'⟩
    · rw [hrun] at hu'
      cases hu'
    · cases hrun.symm.trans hrun'
      exact ih hu hrest'

/-- What a failure keeps is still there the last time. -/
theorem Retries.keeps (inv : σ → Prop)
    (hkeeps : ∀ s m t, inv s → x.run s = .error (.source m) t → inv t) (h : x.Retries s u)
    (hs : inv s) : inv u := by
  induction h with
  | here => exact hs
  | again hrun _ ih => exact ih (hkeeps _ _ _ hs hrun)

/-- **An action that is another one and a last step resumes when that one does**, if the last step
neither fails nor changes the state. -/
theorem Resumes.conclude {y : Action σ γ} (inv : σ → Prop)
    (hkeeps : ∀ s m t, inv s → x.run s = .error (.source m) t → inv t)
    (hok : ∀ s b t, inv s → x.run s = .ok b t → ∃ c, y.run s = .ok c t)
    (herror : ∀ s fault t, x.run s = .error fault t → y.run s = .error fault t)
    (hs : inv s) (hd : inv d) (h : x.Resumes clears s d) : y.Resumes clears s d := by
  obtain ⟨u, hretries, hsettled, halike⟩ := h
  have hu : inv u := hretries.keeps inv hkeeps hs
  refine ⟨u, ?_, ?_⟩
  · clear hsettled halike hu
    induction hretries with
    | here s => exact .here s
    | again hrun _ ih => exact .again (herror _ _ _ hrun) (ih (hkeeps _ _ _ hs hrun))
  · rcases hrun : x.run u with ⟨b, t⟩ | ⟨fault, t⟩
    · rw [hrun] at halike
      obtain ⟨b', e, hrun', hclears⟩ := halike
      obtain ⟨c, hc⟩ := hok u b t hu hrun
      obtain ⟨c', hc'⟩ := hok d b' e hd hrun'
      rw [hc, hc']
      exact ⟨trivial, c', e, rfl, hclears⟩
    · rw [hrun] at hsettled halike
      obtain ⟨e, hrun', hclears⟩ := halike
      rw [herror u fault t hrun, herror d fault e hrun']
      exact ⟨hsettled, e, rfl, hclears⟩

/-- Changing the answers changes neither whether an action is let down -/
theorem settled_map {g : β → γ} (h : Settled (x.run s)) :
    Settled ((do return g (← x) : Action σ γ).run s) := by
  rcases hrun : x.run s with ⟨b, t⟩ | ⟨fault, t⟩
  · rw [run_bind_of_ok hrun]
    trivial
  · rw [hrun] at h
    rw [run_bind_of_error hrun]
    exact h

/-- nor what it is alike to. -/
theorem Alike.map {y : Action σ γ} {g : β → γ} (h : Alike clears (x.run s) (y.run d)) :
    Alike clears ((do return g (← x) : Action σ γ).run s) (y.run d) := by
  rcases hrun : x.run s with ⟨b, t⟩ | ⟨fault, t⟩
  · rw [hrun] at h
    rw [run_bind_of_ok hrun]
    exact h
  · rw [hrun] at h
    rw [run_bind_of_error hrun]
    exact h

theorem Alike.map_right {y : Action σ γ} {g : γ → γ} (h : Alike clears (x.run s) (y.run d)) :
    Alike clears (x.run s) ((do return g (← y) : Action σ γ).run d) := by
  rcases hrun : x.run s with ⟨b, t⟩ | ⟨fault, t⟩
  · rw [hrun] at h
    obtain ⟨c, e, hrun', hclears⟩ := h
    exact ⟨g c, e, run_bind_of_ok hrun', hclears⟩
  · rw [hrun] at h
    obtain ⟨e, hrun', hclears⟩ := h
    exact ⟨e, run_bind_of_error hrun', hclears⟩

/-- Changing the answers of an action that resumes. -/
theorem Resumes.map (h : x.Resumes clears s d) (g : β → γ) :
    (do return g (← x)).Resumes clears s d :=
  h.conclude (fun _ => True) (fun _ _ _ _ _ => trivial)
    (fun _ b _ _ hrun => ⟨g b, run_bind_of_ok hrun⟩) (fun _ _ _ hrun => run_bind_of_error hrun)
    trivial trivial

end Action

variable {α : Type}

/-- A piece of a text without its beginning. -/
theorem drop_extract (text : List α) {start mid stop : Nat} (hstart : start ≤ mid) :
    (text.extract start stop).drop (mid - start) = text.extract mid stop := by
  rw [List.extract_eq_take_drop, List.extract_eq_take_drop, List.drop_take, List.drop_drop,
    Nat.add_sub_cancel' hstart, Nat.sub_sub, Nat.add_sub_cancel' hstart]

/-- A run that has read something goes on from there. -/
theorem Reader.run_many_of_some (reader : Reader α β) {v w : View α} {x : β}
    (hrun : reader.read.run v = .ok (some x) w) :
    reader.many.run v = (do return x :: (← reader.many)).run w :=
  (congrArg (·.run v) reader.many_eq).trans (Action.run_bind_of_ok hrun)

namespace View

variable {v w d : View α}

/-- **A run of reads resumes when a single read recovers**, by induction on what lies ahead: a read
that fails is made again, and the ones before it are not. -/
theorem resumes_many {reader : Reader α α}
    (hread : ∀ d, reader.read.Recovers Extends Clears d) (hd : v.Clears d) :
    reader.many.Resumes Clears v d := by
  induction hn : d.ahead using Nat.strongRecOn generalizing v d with
  | ind n ih =>
    obtain ⟨r, hpersists, hsame⟩ := hread d v hd
    clear hd
    induction hpersists with
    | @answered v t x hrun =>
      obtain ⟨e, hrun', hclears⟩ := hsame
      rcases x with _ | x
      · have hv : reader.many.run v = .ok [] t := by
          rw [reader.many_eq, Action.run_bind_of_ok hrun]
          rfl
        have hd : reader.many.run d = .ok [] e := by
          rw [reader.many_eq, Action.run_bind_of_ok hrun']
          rfl
        refine ⟨v, .here v, ?_⟩
        rw [hv, hd]
        exact ⟨trivial, [], e, rfl, hclears⟩
      -- The rest of the run resumes, and once it is broken off the first read is done with.
      · have hv := reader.run_many_of_some hrun
        have hd := reader.run_many_of_some hrun'
        obtain ⟨u, hretries, hsettled, halike⟩ :=
          ih _ (hn ▸ reader.ahead_lt hrun') hclears rfl
        rcases hretries with _ | ⟨hfailed, hretries⟩
        · refine ⟨v, .here v, ?_⟩
          rw [hv, hd]
          exact ⟨Action.settled_map hsettled, halike.map_right.map⟩
        · refine ⟨u, .again (hv.trans (Action.run_bind_of_error hfailed)) hretries, hsettled, ?_⟩
          rw [hd]
          exact halike.map_right
    | @refused v t fault hrun hfault =>
      obtain ⟨e, hrun', hclears⟩ := hsame
      have hv : reader.many.run v = .error fault t := by
        rw [reader.many_eq, Action.run_bind_of_error hrun]
      have hd : reader.many.run d = .error fault e := by
        rw [reader.many_eq, Action.run_bind_of_error hrun']
      refine ⟨v, .here v, ?_⟩
      rw [hv, hd]
      exact ⟨hfault, e, rfl, hclears⟩
    | @again v t m r hrun _ _ ih' =>
      obtain ⟨u, hretries, hrest⟩ := ih' hsame
      have hv : reader.many.run v = .error (.source m) t := by
        rw [reader.many_eq, Action.run_bind_of_error hrun]
      exact ⟨u, .again hv hretries, hrest⟩

/-! ### Where a failure leaves a run -/

variable [LineElement α] {text : List α} {p : α → Bool} {ahead : Nat} {x : α}

/-- What is left of a run that a failure has broken off, whose next element lies `ahead` places from
the head. -/
structure Interrupted (text : List α) (p : α → Bool) (ahead : Nat) (v w : View α) : Prop where
  index_le : v.cursor.index ≤ w.cursor.index
  /-- The head is on the last element that there is in the buffer. -/
  last : w.cursor.index + 1 = w.buffer.items.size
  /-- All elements up to there have passed. -/
  passed (place : Nat) : v.cursor.index + ahead ≤ place → place ≤ w.cursor.index →
    ∃ x, text[place]? = some x ∧ p x = true
  reachedEnd_eq : w.cursor.reachedEnd = v.cursor.reachedEnd
  /-- The line and the column have walked along. -/
  position_eq : w.cursor.position = v.cursor.position.map
    (·.forward v.buffer.feeds (text.extract v.cursor.index.toNat w.cursor.index.toNat))

/-- What a read has done that has read an element `ahead` places from its head, which passes. -/
structure Advanced (p : α → Bool) (ahead : Nat) (v : View α) (x : α) (w : View α) : Prop where
  passed : p x = true
  place_eq : ∃ place : Nat, v.cursor.index + ahead = place ∧ v.buffer.whole[place]? = some x
  nonneg : 0 ≤ v.cursor.index
  held : v.cursor.index + 1 < w.buffer.items.size
  cursor_eq : w.cursor = { v.cursor with
    index := v.cursor.index + 1
    position := v.cursor.position.map (·.forward w.buffer.feeds
      (w.buffer.items.extract v.cursor.index.toNat (v.cursor.index + 1).toNat).toList) }

theorem advanced_of_run (hrun : (advanceIf p ahead).run v = .ok (some x) w) :
    v.Advanced p ahead x w := by
  obtain ⟨_ | y, u, hlook, hrest⟩ := Action.run_bind_eq_ok.1 hrun
  · cases hrest
  obtain ⟨hpeek, hcursor⟩ := run_look_eq_ok.1 hlook
  obtain ⟨place, hplace, -, hy⟩ := getElem?_of_run_peek hpeek
  by_cases hp : p y
  · simp only [if_pos hp] at hrest
    obtain ⟨_ | _, t, hmove, hx⟩ := Action.run_bind_eq_ok.1 hrest
    · cases hx
    cases hx
    obtain ⟨hindex, -, hheld⟩ := index_of_moveBy Int.zero_lt_one hmove
    obtain ⟨hnonneg, hmoved⟩ := moveBy_ahead Int.zero_lt_one hmove
    rw [hcursor] at hindex hnonneg hmoved
    exact ⟨hp, ⟨place, hplace, hy⟩, hnonneg, hindex ▸ hheld, hmoved⟩
  · simp only [if_neg hp] at hrest
    cases hrest

/-- A read that the source lets down leaves its head alone, on the last element of the buffer, and
has seen the element under it if that is what it was to read. -/
theorem interrupted_of_run {m : String} (hahead : ahead ≤ 1)
    (hheld : v.buffer.holds v.cursor.index = true)
    (hrun : (advanceIf p ahead).run v = .error (.source m) w) :
    v.Interrupted v.buffer.whole p ahead w := by
  obtain ⟨hindex, hlt⟩ := Buffer.holds_iff.1 hheld
  have hpulling := Judgement.ofRelation_iff.1 (pulling_covers.advances.advanceIf p ahead v)
  obtain ⟨told, htakes, -⟩ := hpulling.of_error hrun
  have hsize := htakes.size_le
  -- The head has stayed, so nothing but an element under it can have been read.
  have hstay (hcursor : w.cursor = v.cursor)
      (hend : (w.buffer.items.size : Int) ≤ v.cursor.index + 1)
      (hpassed : ahead = 0 → ∃ x, v.buffer.whole[v.cursor.index.toNat]? = some x ∧ p x = true) :
      v.Interrupted v.buffer.whole p ahead w := by
    refine ⟨Int.le_of_eq (congrArg _ hcursor).symm, by rw [hcursor]; omega, fun place hle hge => ?_,
      congrArg _ hcursor, ?_⟩
    · rw [hcursor] at hge
      have hplace : place = v.cursor.index.toNat := by omega
      exact hplace ▸ hpassed (by omega)
    · have hnothing (i : Nat) : v.buffer.whole.extract i i = [] := by
        rw [List.extract_eq_take_drop, Nat.sub_self, List.take_zero]
      rw [hcursor, hnothing]
      exact Option.map_id'.symm
  rcases Action.run_bind_eq_error.1 hrun with hlook | ⟨_ | x, u, hlook, hrest⟩
  · obtain ⟨hpeek, hcursor⟩ := run_look_eq_error.1 hlook
    have hunseen := size_le_of_run_peek hpeek
    exact hstay hcursor (by omega) fun hzero => by omega
  · cases hrest
  obtain ⟨hpeek, hcursor⟩ := run_look_eq_ok.1 hlook
  obtain ⟨place, hplace, -, hx⟩ := getElem?_of_run_peek hpeek
  by_cases hp : p x
  · simp only [if_pos hp] at hrest
    rw [advanceWith, bind_pure_comp, Action.run_map_eq_error] at hrest
    obtain ⟨-, -, hcursor', hend⟩ := of_run_moveBy_failed hrest
    rw [hcursor] at hcursor' hend
    refine hstay hcursor' hend fun hzero => ⟨x, ?_, hp⟩
    rwa [show v.cursor.index.toNat = place by omega]
  · simp only [if_neg hp] at hrest
    cases hrest

/-- A run that goes on after a read is left as its rest is. -/
theorem Advanced.interrupted {t : View α} (h : v.Advanced p ahead x t)
    (htakes : ∃ told, v.buffer.Takes told t.buffer)
    (hrest : t.Interrupted t.buffer.whole p ahead w) :
    v.Interrupted v.buffer.whole p ahead w := by
  obtain ⟨told, hb⟩ := htakes
  obtain ⟨hpassed, ⟨place, hplace, hx⟩, hnonneg, hheld, hcursor⟩ := h
  obtain ⟨hle, hlast, hall, hmark, hposition⟩ := hrest
  rw [hcursor] at hle hall hmark hposition
  rw [hb.whole_eq] at hall hposition
  simp only at hle hall hmark hposition
  refine ⟨by omega, hlast, fun k hk hkw => ?_, hmark, ?_⟩
  · by_cases hfirst : k = place
    · exact ⟨x, hfirst ▸ hx, hpassed⟩
    · exact hall k (by omega) hkw
  -- Of the whole way the read has walked the first step.
  · have hjoin := extract_append_extract v.buffer.whole
      (show v.cursor.index.toNat ≤ (v.cursor.index + 1).toNat by omega)
      (show (v.cursor.index + 1).toNat ≤ w.cursor.index.toNat by omega)
    rw [hposition, Option.map_map, hb.feeds_eq, t.buffer.toList_extract (by omega), hb.whole_eq,
      ← hjoin]
    congr 1
    funext q
    exact (Position.forward_append ..).symm

/-- **A run that is broken off has passed all elements that its head has got over**, by induction on
what lies ahead. -/
theorem interrupted_of_run_many {reader : Reader α α} (hahead : ahead ≤ 1)
    (hread : reader.read = advanceIf p ahead) (hheld : v.buffer.holds v.cursor.index = true)
    {m : String} (hrun : reader.many.run v = .error (.source m) w) :
    v.Interrupted v.buffer.whole p ahead w := by
  induction hn : v.ahead using Nat.strongRecOn generalizing v with
  | ind n ih =>
    rw [reader.many_eq] at hrun
    rcases Action.run_bind_eq_error.1 hrun with hfirst | ⟨_ | x, t, hfirst, hrest⟩
    · rw [hread] at hfirst
      exact interrupted_of_run hahead hheld hfirst
    · cases hrest
    · simp only [bind_pure_comp, Action.run_map_eq_error] at hrest
      have hlt := reader.ahead_lt hfirst
      rw [hread] at hfirst
      have hadvanced := advanced_of_run hfirst
      have hpulling := Judgement.ofRelation_iff.1 (pulling_covers.advances.advanceIf p ahead v)
      obtain ⟨told, htakes, -⟩ := hpulling.of_ok hfirst
      have hheld' : t.buffer.holds t.cursor.index = true := by
        rw [hadvanced.cursor_eq, Buffer.holds_iff]
        have := hadvanced.nonneg
        have := hadvanced.held
        simp only
        omega
      exact hadvanced.interrupted ⟨told, htakes⟩ (ih _ (hn ▸ hlt) hheld' hrest rfl)

/-! ### Blanks -/

omit [LineElement α] in
/-- A head that stands on an element is shown it without a pull. -/
theorem Stands.run_peek_zero (hv : v.Stands) (hindex : 0 ≤ v.cursor.index) :
    ∃ x, (look (·.peek 0)).run v = .ok (some x) v := by
  have hlt := (Buffer.holds_iff.1 (hv.holds hindex)).2
  have hplace : v.cursor.index.toNat < v.buffer.items.size := by omega
  have hadd : Offset.add? v.cursor.index 0 = some v.cursor.index :=
    Offset.add?_eq_some_iff.2 ⟨(Int.add_zero _).symm ▸ hv.fits, Int.add_zero _⟩
  refine ⟨v.buffer.items[v.cursor.index.toNat], run_look_eq_ok.2 ⟨?_, rfl⟩⟩
  rw [Cursor.run_peek, hadd]
  simp only [if_neg (Int.not_lt.2 hindex)]
  rw [Buffer.run_fetch_of_settles (.inl hplace), Array.getElem?_eq_getElem hplace]

omit [LineElement α] in
/-- Once the source has run out every look is answered without a pull, -/
theorem run_peek_of_exhausted (hsource : v.buffer.source = none) (offset : Int) :
    ∃ x, (look (·.peek offset)).run v = .ok x v := by
  rw [run_look, Cursor.run_peek]
  rcases Offset.add? v.cursor.index offset with _ | target
  · exact ⟨none, rfl⟩
  · by_cases hneg : target < 0
    · simp only [if_pos hneg]
      exact ⟨none, rfl⟩
    · simp only [if_neg hneg, Buffer.run_fetch_of_settles (.inr hsource)]
      exact ⟨_, rfl⟩

omit [LineElement α] in
/-- be it for the end. -/
theorem run_isAtEnd_of_exhausted (hsource : v.buffer.source = none) :
    ∃ ended, (look (·.isAtEnd (α := α))).run v = .ok ended v := by
  obtain ⟨x, hx⟩ := run_peek_of_exhausted hsource 1
  rw [run_look_eq_ok] at hx
  by_cases hempty : v.cursor.sourceIsEmpty
  · refine ⟨true, run_look_eq_ok.2 ⟨?_, rfl⟩⟩
    rw [Cursor.isAtEnd, if_pos hempty]
    rfl
  · refine ⟨x.isNone, run_look_eq_ok.2 ⟨?_, rfl⟩⟩
    rw [Cursor.isAtEnd, if_neg hempty]
    exact Action.run_bind_of_ok hx.1

variable [DecidableEq α]

/-- A head that has skipped nothing is as it was, on an element that does not pass, or it has found
the source to run out. -/
theorem Stands.of_run_skipWhile (hv : v.Stands) (hindex : 0 ≤ v.cursor.index) {m : Matcher α}
    (hrun : (Cursor.skipWhile m).run v = .ok false w) :
    (w = v ∧ ∃ x, (look (·.peek 0)).run v = .ok (some x) v ∧ m.accepts x = false) ∨
      w.buffer.source = none := by
  obtain ⟨x, hpeek⟩ := hv.run_peek_zero hindex
  simp only [Cursor.skipWhile, bind_pure_comp, Action.run_map_eq_ok] at hrun
  obtain ⟨xs, hmany, hempty⟩ := hrun
  have hnone : (Cursor.readIf m).run v = .ok none w := by
    rw [Cursor.readWhile, Reader.many_eq] at hmany
    obtain ⟨_ | y, t, hread, hrest⟩ := Action.run_bind_eq_ok.1 hmany
    · cases hrest
      exact hread
    · obtain ⟨ys, u, -, hys⟩ := Action.run_bind_eq_ok.1 hrest
      cases hys
      cases hempty
  rw [Cursor.readIf, Action.run_bind_of_ok hpeek] at hnone
  rcases hm : m.accepts x
  · simp only [hm] at hnone
    cases hnone
    exact .inl ⟨rfl, x, hpeek, hm⟩
  · simp only [hm, if_true] at hnone
    obtain ⟨_ | _, t, hmove, hrest⟩ := Action.run_bind_eq_ok.1 hnone
    · cases hrest
      exact .inr (moveBy_ended Int.zero_lt_one hindex hmove).2
    · cases hrest

/-- **What is asked after skipping is answered without a pull**, and changes nothing. -/
theorem Stands.run_skipBlank (hv : v.Stands) (hindex : 0 ≤ v.cursor.index) {blank : α → Bool}
    {skipped : Bool} (hrun : (Cursor.skipWhile (.satisfying blank)).run v = .ok skipped w)
    (endCounts : Bool) :
    ∃ holds, (Cursor.skipBlank blank endCounts).run v = .ok holds w := by
  rcases skipped with _ | _
  case true => exact ⟨true, Action.run_bind_of_ok hrun⟩
  rcases endCounts with _ | _
  case false => exact ⟨false, Action.run_bind_of_ok hrun⟩
  rw [Cursor.skipBlank, Action.run_bind_of_ok hrun, if_neg Bool.false_ne_true, Bool.not_true,
    if_neg Bool.false_ne_true, Action.run_bind_of_ok (run_head w)]
  by_cases hempty : w.cursor.sourceIsEmpty
  · rw [if_pos hempty]
    exact ⟨true, rfl⟩
  rw [if_neg hempty]
  rcases hv.of_run_skipWhile hindex hrun with ⟨rfl, x, hpeek, hm⟩ | hsource
  · have hblank : ¬ blank x = true := ne_true_of_eq_false hm
    refine ⟨false, (Action.run_bind_of_ok hpeek).trans ?_⟩
    simp only [if_neg hblank]
    rfl
  · obtain ⟨_ | x, hpeek⟩ := run_peek_of_exhausted hsource 0
    · exact ⟨false, Action.run_bind_of_ok hpeek⟩
    rw [Action.run_bind_of_ok hpeek]
    by_cases hblank : blank x
    · simp only [if_pos hblank]
      exact run_isAtEnd_of_exhausted hsource
    · simp only [if_neg hblank]
      exact ⟨false, rfl⟩

end View

/-! ### Operations -/

/-- A head that stands does so without the failures to come. -/
theorem View.Stands.clears {v d : View α} (hv : v.Stands) (hd : v.Clears d) : d.Stands := by
  have hholds : d.buffer.holds v.cursor.index = v.buffer.holds v.cursor.index := by
    rw [Buffer.holds, Buffer.holds, hd.buffer.items_eq]
  rw [View.Stands, hd.cursor_eq]
  refine ⟨hv.fits, hv.place.imp (fun hheld => hholds.trans hheld) ?_⟩
  rintro ⟨hneg, hend, hitems, hsource⟩
  exact ⟨hneg, hend, hd.buffer.items_eq.trans hitems, by rw [hd.buffer.source_eq, hsource]; rfl⟩

open View (Clears)

variable [LineElement α] [DecidableEq α]

namespace Operation

/-- Whether an operation walks its head on for as long as elements pass a test, of which the next
one lies `ahead` places from it. -/
inductive WalksWhile : (α → Bool) → (ahead : Nat) → Operation α → Prop
  | readWhile (m : Matcher α) : WalksWhile m.accepts 0 (.readWhile m)
  | readNextWhile (m : Matcher α) : WalksWhile m.accepts 1 (.readNextWhile m)
  | skipWhile (m : Matcher α) : WalksWhile m.accepts 0 (.skipWhile m)
  | skipBlank (blank : α → Bool) (endCounts : Bool) :
    WalksWhile blank 0 (.skipBlank blank endCounts)

variable {operation : Operation α} {p : α → Bool} {ahead : Nat} {v w d : View α} {m : String}

/-- **A walk that the source breaks off leaves its head where it got to.** -/
theorem WalksWhile.interrupted (h : operation.WalksWhile p ahead) (hv : v.Stands)
    (hindex : 0 ≤ v.cursor.index) (hrun : operation.run.run v = .error (.source m) w) :
    v.Interrupted v.buffer.whole p ahead w := by
  have hheld := hv.holds hindex
  have hskip {m' : Matcher α} (hrun : (Cursor.skipWhile m').run v = .error (.source m) w) :
      v.Interrupted v.buffer.whole m'.accepts 0 w := by
    simp only [Cursor.skipWhile, bind_pure_comp, Action.run_map_eq_error] at hrun
    exact View.interrupted_of_run_many (Nat.zero_le 1) rfl hheld hrun
  cases h with
  | readWhile m' =>
    rw [Operation.run, bind_pure_comp, Action.run_map_eq_error] at hrun
    exact View.interrupted_of_run_many (Nat.zero_le 1) rfl hheld hrun
  | readNextWhile m' =>
    rw [Operation.run, bind_pure_comp, Action.run_map_eq_error] at hrun
    exact View.interrupted_of_run_many (Nat.le_refl 1) rfl hheld hrun
  | skipWhile m' =>
    rw [Operation.run, bind_pure_comp, Action.run_map_eq_error] at hrun
    exact hskip hrun
  | skipBlank blank endCounts =>
    rw [Operation.run, bind_pure_comp, Action.run_map_eq_error] at hrun
    rcases hskipped : (Cursor.skipWhile (.satisfying p)).run v with ⟨skipped, t⟩ | ⟨fault, t⟩
    · obtain ⟨holds, hok⟩ := hv.run_skipBlank hindex hskipped endCounts
      cases hok.symm.trans hrun
    · have herror : (Cursor.skipBlank p endCounts).run v = .error fault t :=
        Action.run_bind_of_error hskipped
      cases herror.symm.trans hrun
      exact hskip hskipped

/-- What a walk that is broken off leaves as it was. -/
theorem WalksWhile.keeps (h : operation.WalksWhile p ahead) (hv : v.Stands)
    (hindex : 0 ≤ v.cursor.index) (hrun : operation.run.run v = .error (.source m) w) :
    w.Stands ∧ v.cursor.index ≤ w.cursor.index ∧ w.buffer.whole = v.buffer.whole := by
  have hstanding := Judgement.ofRelation_iff.1 (View.standing_run operation v)
  have hpulling := Judgement.ofRelation_iff.1 (View.pulling_run operation v)
  obtain ⟨told, hb, -⟩ := hpulling.of_error hrun
  exact ⟨(hstanding.of_error hrun hv).1, (h.interrupted hv hindex hrun).index_le, hb.whole_eq⟩

/-- It is still as it was the last time the walk is asked for. -/
theorem WalksWhile.keeps_retries (h : operation.WalksWhile p ahead) (hv : v.Stands)
    (hindex : 0 ≤ v.cursor.index) {u : View α} (hretries : operation.run.Retries v u) :
    u.Stands ∧ v.cursor.index ≤ u.cursor.index ∧ u.buffer.whole = v.buffer.whole := by
  refine hretries.keeps
    (fun u => u.Stands ∧ v.cursor.index ≤ u.cursor.index ∧ u.buffer.whole = v.buffer.whole)
    (fun s m t hkept hrun => ?_) ⟨hv, Int.le_refl _, rfl⟩
  obtain ⟨hs, hle, hwhole⟩ := hkept
  obtain ⟨ht, hle', hwhole'⟩ := h.keeps hs (Int.le_trans hindex hle) hrun
  exact ⟨ht, Int.le_trans hle hle', hwhole'.trans hwhole⟩

/-- **A walk that is broken off resumes.** -/
theorem WalksWhile.resumes (h : operation.WalksWhile p ahead) (hv : v.Stands)
    (hindex : 0 ≤ v.cursor.index) (hd : v.Clears d) : operation.run.Resumes Clears v d := by
  have hread (m : Matcher α) : (Cursor.readWhile m).Resumes Clears v d :=
    View.resumes_many (recovers_advanceIf m.accepts 0) hd
  cases h with
  | readWhile m => exact (hread m).map _
  | readNextWhile m => exact (View.resumes_many (recovers_advanceIf m.accepts 1) hd).map _
  | skipWhile m => exact ((hread m).map _).map _
  | skipBlank blank endCounts =>
    have hskip : (Cursor.skipWhile (.satisfying p)).Resumes Clears v d := (hread _).map _
    have hblank := hskip.conclude (y := Cursor.skipBlank p endCounts)
      (fun v => v.Stands ∧ 0 ≤ v.cursor.index) (fun s m t hs hrun => ?_)
      (fun s skipped t hs hrun => hs.1.run_skipBlank hs.2 hrun endCounts)
      (fun _ _ _ hrun => Action.run_bind_of_error hrun) ⟨hv, hindex⟩
      ⟨hv.clears hd, hd.cursor_eq ▸ hindex⟩
    · exact hblank.map _
    · obtain ⟨ht, hle, -⟩ := (WalksWhile.skipWhile (.satisfying p)).keeps hs.1 hs.2
        (Action.run_bind_of_error hrun)
      exact ⟨ht, Int.le_trans hs.2 hle⟩

omit [LineElement α] in
theorem WalksWhile.seeks?_eq_none (h : operation.WalksWhile p ahead) : operation.seeks? = none := by
  cases h <;> rfl

/-- **Two walks that end on one place have consumed the same from where the later one starts.** -/
theorem WalksWhile.consumed_eq_drop (h : operation.WalksWhile p ahead) {u t e : View α}
    {reply reply' : Reply α} (hu : operation.run.run u = .ok reply t)
    (hd : operation.run.run d = .ok reply' e) (hwhole : u.buffer.whole = d.buffer.whole)
    (hindex : 0 ≤ d.cursor.index) (hle : d.cursor.index ≤ u.cursor.index)
    (hend : e.cursor.index = t.cursor.index) :
    operation.consumed reply =
      (operation.consumed reply').drop (u.cursor.index - d.cursor.index).toNat := by
  have hreads (hconsumes : operation.ConsumesFrom ahead) : operation.consumed reply =
      (operation.consumed reply').drop (u.cursor.index - d.cursor.index).toNat := by
    have hcount : (u.cursor.index - d.cursor.index).toNat =
        (u.cursor.index + ahead).toNat - (d.cursor.index + ahead).toNat := by omega
    rw [(hconsumes.passes hu).eq_extract, (hconsumes.passes hd).eq_extract, hwhole, hend, hcount,
      drop_extract _ (by omega)]
  cases h with
  | readWhile | readNextWhile => exact hreads rfl
  | skipWhile m =>
    have hnone (reply : Reply α) : consumed (.skipWhile m) reply = [] := by cases reply <;> rfl
    rw [hnone, hnone, List.drop_nil]
  | skipBlank blank endCounts =>
    have hnone (reply : Reply α) : consumed (.skipBlank p endCounts) reply = [] := by
      cases reply <;> rfl
    rw [hnone, hnone, List.drop_nil]

end Operation

/-- **A walk that the source breaks off resumes where it was.** When the source fails under it, its
head stays where it got to, on the last element of the buffer, and tells the truth if it did. Asking
for the walk again until the source no longer fails has an end, and leaves the head, the mark and
the buffer as asking once does when the failures are left out of the script; what the last try has
consumed is what that consumes from where the last try starts. -/
theorem runs_resume {script : Source α} {s : Session α} (hs : s.Reached script) {i : Nat}
    {c : Cursor} (hc : s.cursors[i]? = some c) (hindex : 0 ≤ c.index) {operation : Operation α}
    {p : α → Bool} {ahead : Nat} (hwalks : operation.WalksWhile p ahead) :
    (∀ m w, operation.run.run ⟨s.buffer, c⟩ = .error (.source m) w →
      View.Interrupted script.yield p ahead ⟨s.buffer, c⟩ w ∧
        (View.Truthful ⟨s.buffer, c⟩ → w.Truthful)) ∧
    (∃ u, (∀ u', operation.run.Retries ⟨s.buffer, c⟩ u' ∧ Action.Settled (operation.run.run u') ↔
        u' = u) ∧
      Action.Alike Clears (operation.run.run u)
        (operation.run.run (View.purged ⟨s.buffer, c⟩)) ∧
      ∀ reply w reply' w', operation.run.run u = .ok reply w →
        operation.run.run (View.purged ⟨s.buffer, c⟩) = .ok reply' w' →
        operation.consumed reply =
          (operation.consumed reply').drop (u.cursor.index - c.index).toNat) ∧
    ∀ (m : Matcher Char) (v : View Char),
      (Cursor.readStringWhile m).run v = match (Cursor.readWhile m).run v with
        | .ok xs w => .ok (String.ofList xs) w
        | .error fault w => .error fault w := by
  have hv : View.Stands ⟨s.buffer, c⟩ := hs.stands c (List.mem_of_getElem? hc)
  have hpurged := View.clears_purged ⟨s.buffer, c⟩
  refine ⟨fun m w hrun => ⟨?interrupted, fun htrue => ?truthful⟩, ?resumes, fun m v => ?strings⟩
  case interrupted =>
    exact hs.whole_eq ▸ hwalks.interrupted hv hindex hrun
  case truthful =>
    have htruth : View.truth.Holds operation.run ⟨s.buffer, c⟩ :=
      View.truth_run fun _ seek hseek => by
        rw [hwalks.seeks?_eq_none] at hseek
        cases hseek
    exact ((Judgement.ofRelation_iff.1 htruth).of_error hrun htrue).1
  case resumes =>
    obtain ⟨u, hretries, hsettled, halike⟩ := hwalks.resumes hv hindex hpurged
    refine ⟨u, fun u' => ⟨fun h => hretries.unique hsettled h.1 h.2, ?_⟩, halike, ?_⟩
    · rintro rfl
      exact ⟨hretries, hsettled⟩
    · intro reply w reply' w' hrun hrun'
      rw [hrun, hrun'] at halike
      obtain ⟨_, e, hsame, hclears⟩ := halike
      cases hsame
      obtain ⟨-, hle, hwhole⟩ := hwalks.keeps_retries hv hindex hretries
      exact hwalks.consumed_eq_drop hrun hrun' (hwhole.trans hpurged.buffer.whole_eq.symm) hindex
        hle (congrArg Cursor.index hclears.cursor_eq)
  case strings => exact Cursor.run_readStringWhile m v

/-- Two letters and a digit, and a failure before each but the first: the last of three tries reads
what is left of the letters. -/
theorem runs_resume_twice_broken_off :
    ∃ (s : Session Char) (u : View Char) (reply : Reply Char) (w : View Char),
      s.Reached [.element 'a', .failure "lost", .element 'b', .failure "lost again", .element '1'] ∧
      s.cursors[0]? = some ⟨0, false, some ⟨0, 0⟩⟩ ∧
      (s.run (.replicate 3 (.apply 0 (.readWhile (.satisfying Char.isAlpha))))).1 =
        [.failed (.source "lost"), .failed (.source "lost again"), .answered (.run ['b'])] ∧
      (Operation.readWhile (.satisfying Char.isAlpha)).run.Retries
        ⟨s.buffer, ⟨0, false, some ⟨0, 0⟩⟩⟩ u ∧
      (Operation.readWhile (.satisfying Char.isAlpha)).run.run u = .ok reply w ∧
      (Operation.readWhile (.satisfying Char.isAlpha)).consumed reply =
        ['a', 'b'].drop u.cursor.index.toNat ∧
      w.cursor = ⟨2, false, some ⟨0, 2⟩⟩ := by
  let letters : Operation Char := .readWhile (.satisfying Char.isAlpha)
  let c : Cursor := ⟨0, false, some ⟨0, 0⟩⟩
  let s : Session Char :=
    { buffer := {
        key := 0
        items := #['a']
        source := some [.failure "lost", .element 'b', .failure "lost again", .element '1']
        config := .quiet
        pulls := 1 }
      cursors := [c] }
  let d : View Char := View.purged ⟨s.buffer, c⟩
  have hreached : s.Reached
      [.element 'a', .failure "lost", .element 'b', .failure "lost again", .element '1'] :=
    ⟨.source _, 0, .quiet, true, _, [], rfl, rfl, by decide +kernel⟩
  obtain ⟨-, ⟨u, hu, halike, hconsumed⟩, -⟩ := runs_resume hreached (i := 0) (c := c) rfl
    (by decide) (.readWhile (.satisfying Char.isAlpha))
  -- Without the failures the letters are read at once.
  have hpurged : (Session.perform ⟨d.buffer, [c], []⟩ (.apply 0 letters)).1 =
        .answered (.run ['a', 'b']) ∧
      (Session.perform ⟨d.buffer, [c], []⟩ (.apply 0 letters)).2.cursors =
        [⟨2, false, some ⟨0, 2⟩⟩] := by decide +kernel
  obtain ⟨e, hd, hcursor⟩ : ∃ e, letters.run.run d = .ok (.run ['a', 'b']) e ∧
      e.cursor = ⟨2, false, some ⟨0, 2⟩⟩ := by
    rw [Session.perform_apply (c := c) rfl] at hpurged
    rcases hrun : letters.run.run d with ⟨reply, e⟩ | ⟨fault, e⟩
    · rw [show (⟨d.buffer, c⟩ : View Char) = d from rfl, hrun] at hpurged
      obtain ⟨hreply, hcursors⟩ := hpurged
      cases hreply
      exact ⟨e, rfl, List.head_eq_of_cons_eq hcursors⟩
    · rw [show (⟨d.buffer, c⟩ : View Char) = d from rfl, hrun] at hpurged
      cases hpurged.1
  rcases hrun : letters.run.run u with ⟨reply, w⟩ | ⟨fault, w⟩
  · rw [hrun, hd] at halike
    obtain ⟨_, _, hsame, hclears⟩ := halike
    cases hsame
    have hrest := hconsumed _ _ _ _ hrun hd
    rw [show u.cursor.index - c.index = u.cursor.index from Int.sub_zero _] at hrest
    exact ⟨s, u, reply, w, hreached, rfl, by decide +kernel, ((hu u).2 rfl).1, hrun, hrest,
      hclears.cursor_eq.symm.trans hcursor⟩
  · rw [hrun, hd] at halike
    obtain ⟨_, hsame, -⟩ := halike
    cases hsame

end Rewind
