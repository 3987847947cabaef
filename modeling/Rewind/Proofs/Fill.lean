import Rewind.Cursor.Basic
import Rewind.Proofs.Pulls

/-!
# What asking for a place comes to

Whoever asks a buffer for a place either hears of a failure of the source, or gets **the answer
that the whole sequence gives**, however much of it has been pulled before: `ensure` tells whether
the sequence reaches that far, `fetch` gives its element there, `text` gives all of it. And a
buffer that can answer as it stands is not pulled (`run_ensure_of_settles`): it holds the place
already, or its source has been dropped.
-/

namespace Rewind

variable {α : Type}

/-- Without a limit there is no having enough. -/
theorem Source.stop_draw_none (script : Source α) : (script.draw none).stop ≠ .satisfied := by
  induction script with
  | nil => simp [draw]
  | cons e rest ih => cases e <;> simp [draw, Haul.after, ih]

/-- A haul that was cut short holds less than was asked for. -/
theorem Source.length_elements_lt {n : Nat} {script : Source α}
    (h : (script.draw (some n)).stop ≠ .satisfied) :
    (script.draw (some n)).elements.length < n := by
  induction script generalizing n with
  | nil => cases n <;> simp [draw] at h ⊢
  | cons e rest ih =>
    rcases n with _ | n
    · simp at h
    · rcases e with x | m' | _
      · have := ih (n := n) (by simpa [draw, Haul.after] using h)
        simpa [draw, Haul.after] using this
      · simp [draw]
      · simp [draw]

namespace Buffer

variable {b b' : Buffer α} {target : Nat}

/-- Whether the buffer can tell of a place without a pull: it holds it, or has heard of the
end. -/
def Settles (b : Buffer α) (target : Nat) : Prop :=
  target < b.items.size ∨ b.source = none

/-- What a settled place holds is what the whole sequence holds there. -/
theorem Settles.whole_eq (h : b.Settles target) : b.whole[target]? = b.items[target]? := by
  rw [whole, ← Array.getElem?_toList]
  rcases h with h | h
  · exact List.getElem?_append_left (by simpa using h)
  · simp [h, Source.yield?]

theorem Settles.lt_iff (h : b.Settles target) :
    target < b.whole.length ↔ target < b.items.size := by
  rw [whole, List.length_append, Array.length_toList]
  rcases h with h | h
  · omega
  · simp [h, Source.yield?]

/-- What settles a place still does after more pulls. -/
theorem Settles.mono (h : b.Settles target) {told : List (Entry α)} (hb : b.Takes told b') :
    b'.Settles target := by
  rcases h with h | h
  · exact .inl (Nat.lt_of_lt_of_le h hb.size_le)
  · exact .inr (hb.eq_of_exhausted h).2.2

/-! ### Filling -/

/-- A buffer that is filled without a failure has got what was asked for, or its source has been
dropped. -/
theorem size_of_fill {n : Nat} (h : (fill (some n)).run b = .ok () b') :
    b'.items.size = b.items.size + n ∨ b'.source = none := by
  cases hb : b.source with
  | none =>
    rw [run_fill_of_none hb] at h
    cases h
    exact .inr hb
  | some script =>
    rw [run_fill_of_some hb] at h
    split at h <;> cases h
    · next hs =>
      have := Source.length_elements_of_satisfied hs
      exact .inl (by simp [absorb, this])
    · exact .inr (source_close _)

/-- A buffer whose source was dropped on the way has got less than was asked for. -/
theorem size_of_fill_closed {n : Nat} (h : (fill (some n)).run b = .ok () b')
    (hopen : b.source ≠ none) (hclosed : b'.source = none) :
    b'.items.size < b.items.size + n := by
  obtain ⟨script, hb⟩ := Option.ne_none_iff_exists'.1 hopen
  rw [run_fill_of_some hb] at h
  rcases hs : (script.draw (some n)).stop with _ | m | _ <;> rw [hs] at h <;> cases h
  · cases hclosed
  · have hshort : (script.draw (some n)).elements.length < n :=
      Source.length_elements_lt (by rw [hs]; exact nofun)
    simp only [items_close, absorb, Array.size_append, List.size_toArray]
    omega

/-- A buffer that could not be filled has got less than was asked for. -/
theorem size_of_fill_error {n : Nat} {fault : Fault}
    (h : (fill (some n)).run b = .error fault b') : b'.items.size < b.items.size + n := by
  rcases hb : b.source with _ | script
  · rw [run_fill_of_none hb] at h
    cases h
  · rw [run_fill_of_some hb] at h
    rcases hs : (script.draw (some n)).stop with _ | m | _ <;> rw [hs] at h <;> cases h
    have := Source.length_elements_lt (by rw [hs]; exact nofun)
    simp only [absorb, Array.size_append, List.size_toArray]
    omega

/-- A buffer that is filled without a limit and without a failure has had its source dropped. -/
theorem source_of_fill_none (h : (fill none).run b = .ok () b') : b'.source = none := by
  cases hb : b.source with
  | none =>
    rw [run_fill_of_none hb] at h
    cases h
    exact hb
  | some script =>
    rw [run_fill_of_some hb] at h
    split at h <;> cases h
    · next hs => exact absurd hs script.stop_draw_none
    · exact source_close _

/-- Asking for nothing more changes nothing. -/
theorem run_fill_zero (b : Buffer α) : (fill (some 0)).run b = .ok () b := by
  cases hb : b.source with
  | none => exact run_fill_of_none hb _
  | some script =>
    rw [run_fill_of_some hb]
    simp [absorb, ← hb]

/-! ### Asking for a place -/

theorem run_ensure (target : Nat) (b : Buffer α) :
    (ensure target).run b =
      match (fill (some (target + 1 - b.items.size))).run b with
      | .ok _ b' => .ok (decide (target < b'.items.size)) b'
      | .error fault b' => .error fault b' := by
  change (fill _ >>= fun _ => _).run b = _
  rw [EStateM.run_bind]
  cases (fill _).run b <;> rfl

theorem run_fetch (target : Nat) (b : Buffer α) :
    (fetch target).run b =
      match (ensure target).run b with
      | .ok _ b' => .ok b'.items[target]? b'
      | .error fault b' => .error fault b' := by
  change (ensure target >>= fun _ => _).run b = _
  rw [EStateM.run_bind]
  cases (ensure target).run b <;> rfl

theorem run_text (b : Buffer α) :
    text.run b =
      match (fill none).run b with
      | .ok _ b' =>
        .ok b'.items.toList
          (if 0 < b'.items.size - b.items.size then
            b'.record (.materialised (b'.items.size - b.items.size))
          else b')
      | .error fault b' => .error fault b' := by
  have hdrain : drain.run b =
      match (fill none).run b with
      | .ok _ b' => .ok (b'.items.size - b.items.size) b'
      | .error fault b' => .error fault b' := by
    rw [drain, Action.run_bind_of_ok (EStateM.run_get b), EStateM.run_bind]
    rcases (fill none).run b with ⟨_, b'⟩ | ⟨fault, b'⟩ <;> rfl
  rw [text, EStateM.run_bind, hdrain]
  rcases (fill none).run b with ⟨_, b'⟩ | ⟨fault, b'⟩
  · by_cases hpulled : 0 < b'.items.size - b.items.size
    · simp only [if_pos hpulled, EStateM.run_bind, EStateM.run_modify, EStateM.run_get,
        EStateM.run_pure, items_record]
    · simp only [if_neg hpulled]
      rfl
  · rfl

/-- What can be told without a pull is. -/
theorem run_ensure_of_settles (h : b.Settles target) :
    (ensure target).run b = .ok (decide (target < b.items.size)) b := by
  have hfill : (fill (some (target + 1 - b.items.size))).run b = .ok () b := by
    rcases h with h | h
    · rw [show target + 1 - b.items.size = 0 by omega]
      exact run_fill_zero b
    · exact run_fill_of_none h _
  rw [run_ensure, hfill]

/-- What can be shown without a pull is. -/
theorem run_fetch_of_settles (h : b.Settles target) :
    (fetch target).run b = .ok b.items[target]? b := by
  rw [run_fetch, run_ensure_of_settles h]

/-! ### What a fault tells -/

variable {fault : Fault}

/-- A buffer that cannot be filled says so in the words of its source. -/
theorem fault_of_run_fill {limit : Option Nat} (h : (fill limit).run b = .error fault b') :
    ∃ m, fault = .source m := by
  rcases hb : b.source with _ | script
  · rw [run_fill_of_none hb] at h
    cases h
  · rw [run_fill_of_some hb] at h
    split at h <;> cases h
    exact ⟨_, rfl⟩

theorem fault_of_run_ensure (h : (ensure target).run b = .error fault b') :
    ∃ m, fault = .source m := by
  rw [run_ensure] at h
  split at h
  · cases h
  · next hfill =>
    cases h
    exact fault_of_run_fill hfill

theorem fault_of_run_fetch (h : (fetch target).run b = .error fault b') :
    ∃ m, fault = .source m := by
  rw [run_fetch] at h
  split at h
  · cases h
  · next hensure =>
    cases h
    exact fault_of_run_ensure hensure

theorem fault_of_run_text (h : text.run b = .error fault b') : ∃ m, fault = .source m := by
  rw [text, Action.run_bind_eq_error] at h
  rcases h with h | ⟨pulled, t, -, h⟩
  · rw [drain, Action.run_bind_of_ok (EStateM.run_get b), Action.run_bind_eq_error] at h
    rcases h with h | ⟨_, _, -, h⟩
    · exact fault_of_run_fill h
    · cases h
  · split at h <;> cases h

/-- A source that fails is not dropped. -/
theorem exhausted_of_run_fill_error {limit : Option Nat}
    (h : (fill limit).run b = .error fault b') : b'.exhausted = false := by
  rcases hb : b.source with _ | script
  · rw [run_fill_of_none hb] at h
    cases h
  · rw [run_fill_of_some hb] at h
    split at h <;> cases h
    rfl

theorem exhausted_of_run_fetch_error (h : (fetch target).run b = .error fault b') :
    b'.exhausted = false := by
  rw [run_fetch, run_ensure] at h
  rcases hfill : (fill (some (target + 1 - b.items.size))).run b with ⟨_, t⟩ | ⟨e, t⟩
  · rw [hfill] at h
    cases h
  · rw [hfill] at h
    cases h
    exact exhausted_of_run_fill_error hfill

/-! ### What an answer tells -/

variable {found : Bool} {x : Option α} {xs : List α}

/-- **`ensure` answers for the whole sequence**, and the place is settled from then on. -/
theorem of_run_ensure (h : (ensure target).run b = .ok found b') :
    (∃ told, b.Takes told b' ∧ Source.failures told = []) ∧ b'.Settles target ∧
      found = decide (target < b.whole.length) := by
  obtain ⟨told, htakes, hfailures⟩ := (Judgement.ofRelation_iff.1 (pulling_ensure target b)).of_ok h
  have hsettles : b'.Settles target ∧ found = decide (target < b'.items.size) := by
    rw [run_ensure] at h
    split at h
    · next t hfill =>
      cases h
      refine ⟨?_, rfl⟩
      rcases size_of_fill hfill with hsize | hsource
      · exact .inl (by omega)
      · exact .inr hsource
    · cases h
  refine ⟨⟨told, htakes, hfailures⟩, hsettles.1, ?_⟩
  rw [hsettles.2, ← htakes.whole_eq]
  exact decide_eq_decide.2 hsettles.1.lt_iff.symm

/-- What has been answered is answered again, without a pull. -/
theorem run_ensure_again (h : (ensure target).run b = .ok found b') :
    (ensure target).run b' = .ok found b' := by
  obtain ⟨⟨told, htakes, -⟩, hsettles, rfl⟩ := of_run_ensure h
  rw [run_ensure_of_settles hsettles, ← htakes.whole_eq]
  congr 1
  exact decide_eq_decide.2 hsettles.lt_iff.symm

/-- **`fetch` gives the element of the whole sequence.** -/
theorem of_run_fetch (h : (fetch target).run b = .ok x b') :
    (∃ told, b.Takes told b' ∧ Source.failures told = []) ∧ b'.Settles target ∧
      x = b.whole[target]? := by
  rw [run_fetch] at h
  split at h
  · next t hensure =>
    cases h
    obtain ⟨⟨told, htakes, hfailures⟩, hsettles, -⟩ := of_run_ensure hensure
    exact ⟨⟨told, htakes, hfailures⟩, hsettles, by rw [← htakes.whole_eq, hsettles.whole_eq]⟩
  · cases h

/-- **`text` gives the whole sequence.** -/
theorem of_run_text (h : text.run b = .ok xs b') :
    (∃ told, b.Takes told b' ∧ Source.failures told = []) ∧ b'.source = none ∧ xs = b.whole := by
  obtain ⟨told, htakes, hfailures⟩ := (Judgement.ofRelation_iff.1 (pulling_text b)).of_ok h
  have hdrained : b'.source = none ∧ xs = b'.items.toList := by
    simp only [text, drain, Action.run_bind_eq_ok, EStateM.run_get, EStateM.run_pure] at h
    obtain ⟨pulled, t, ⟨_, _, ⟨⟩, _, u, hfill, _, _, ⟨⟩, ⟨⟩⟩, h⟩ := h
    have hsource := source_of_fill_none hfill
    split at h
    · cases h
      exact ⟨by simpa using hsource, by simp⟩
    · cases h
      exact ⟨hsource, rfl⟩
  refine ⟨⟨told, htakes, hfailures⟩, hdrained.1, ?_⟩
  rw [hdrained.2, ← htakes.whole_eq, whole, hdrained.1, Source.yield?, Option.elim_none,
    List.append_nil]

end Buffer

/-! ### Looking from a head -/

/-- The element at a place of a text; none before its start. -/
def elementAt? (text : List α) (i : Int) : Option α :=
  if i < 0 then none else text[i.toNat]?

namespace Cursor

variable {c : Cursor} {offset : Int} {b b' : Buffer α} {x : Option α} {fault : Fault}

theorem run_peek (c : Cursor) (offset : Int) (b : Buffer α) :
    (c.peek offset).run b =
      match Offset.add? c.index offset with
      | none => .ok none b
      | some target => if target < 0 then .ok none b else (Buffer.fetch target.toNat).run b := by
  rw [peek]
  rcases Offset.add? c.index offset with _ | target
  · rfl
  · by_cases hneg : target < 0
    · simp only [if_pos hneg]
      rfl
    · simp only [if_neg hneg]

/-- **`peek` gives the element of the whole sequence.** -/
theorem of_run_peek (h : (c.peek offset).run b = .ok x b') :
    (∃ told, b.Takes told b' ∧ Source.failures told = []) ∧
      x = (Offset.add? c.index offset).bind (elementAt? b.whole) := by
  rw [run_peek] at h
  rcases hadd : Offset.add? c.index offset with _ | target
  · rw [hadd] at h
    cases h
    exact ⟨⟨[], .refl b, rfl⟩, rfl⟩
  · simp only [hadd] at h
    by_cases hneg : target < 0
    · rw [if_pos hneg] at h
      cases h
      exact ⟨⟨[], .refl b, rfl⟩, by simp [elementAt?, hneg]⟩
    · rw [if_neg hneg] at h
      obtain ⟨htakes, -, hx⟩ := Buffer.of_run_fetch h
      exact ⟨htakes, by simp [elementAt?, hneg, hx]⟩

theorem fault_of_run_peek (h : (c.peek offset).run b = .error fault b') :
    ∃ m, fault = .source m := by
  rw [run_peek] at h
  split at h
  · cases h
  · split at h
    · cases h
    · exact Buffer.fault_of_run_fetch h

end Cursor

namespace Judgement

variable {J : Judgement (Buffer α)} (hfetch : ∀ target b, J.Holds (Buffer.fetch target) b)

include hfetch

/-- What holds of fetching elements holds of looking for one. -/
theorem peek_of_fetch (c : Cursor) (offset : Int) (b : Buffer α) : J.Holds (c.peek offset) b := by
  rw [Cursor.peek]
  rcases Offset.add? c.index offset with _ | target
  · exact J.done none b
  · exact J.ite (fun _ => J.done none b) fun _ => hfetch _ b

/-- If it may also find none, it holds of looking at the one under the head. -/
theorem current_of_fetch
    (hraise : ∀ (fault : Fault) b, fault.source? = none → J.Holds (throw fault : Peeking α α) b)
    (c : Cursor) (b : Buffer α) : J.Holds (c.current (α := α)) b := by
  refine J.ite (fun _ => hraise _ b rfl) fun _ => ?_
  refine J.seq (peek_of_fetch hfetch c 0 b) fun x t _ => ?_
  rcases x with _ | x
  · exact hraise _ t rfl
  · exact J.done x t

end Judgement

end Rewind
