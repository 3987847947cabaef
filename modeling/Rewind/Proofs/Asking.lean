import Rewind.Proofs.Heads

/-!
# How far a buffer is filled

Over a source that never fails, what a buffer has pulled is told by one number: how many places were
ever asked for. To ask for the first `n` places leaves a buffer with as many elements as it had, or
with `n` of them, or with the whole text if that is shorter (`Buffer.Asked`); and **the source is
heard to be exhausted exactly when more was asked for than there is**. To ask for places that are
held already changes nothing, and to ask twice is to ask for the larger number, so what an operation
asks for can be told of its steps one by one.
-/

namespace Rewind

variable {α β γ : Type}

/-! ### Sources without failures -/

namespace Source.Tells

variable {s s' : Option (Source α)} {script : Source α} {told : List (Entry α)}

/-- What is left of a source without failures has none. -/
theorem failures_left (h : Tells s told s') (hs : failures (s.getD []) = []) :
    failures (s'.getD []) = [] := by
  induction h with
  | nothing => exact hs
  | element _ ih => exact ih (by simpa [failures, Entry.failure?] using hs)
  | failure _ ih => simp [failures, Entry.failure?] at hs
  | exhaustion => rfl
  | ranOut => rfl

/-- Every pull brings an element, a failure or the exhaustion that drops the source. -/
theorem length_eq (h : Tells s told s') (hs : s = some script) :
    told.length = (elements told).length + (failures told).length + s'.isNone.toNat := by
  induction h generalizing script with
  | nothing =>
    rw [hs]
    rfl
  | @element x rest told s' _ ih =>
    change told.length + 1 = (elements told).length + 1 + (failures told).length + s'.isNone.toNat
    have hrest := ih rfl
    omega
  | @failure m rest told s' _ ih =>
    change told.length + 1 = (elements told).length + ((failures told).length + 1) + s'.isNone.toNat
    have hrest := ih rfl
    omega
  | exhaustion => rfl
  | ranOut => rfl

end Source.Tells

namespace Buffer

variable {b b' b'' : Buffer α} {n m : Nat}

/-- Whether no pull of a buffer can fail. -/
def Reliable (b : Buffer α) : Prop :=
  Source.failures (b.source.getD []) = []

/-- The first `n` places of a text were asked for, which took the first buffer to the second. -/
structure Asked (b : Buffer α) (n : Nat) (b' : Buffer α) : Prop where
  reliable : b'.Reliable
  takes : ∃ told, b.Takes told b'
  /-- The buffer holds these places from now on, or all there are, and no more unless it held more
  before. -/
  size_eq : b'.items.size = max b.items.size (min n b.whole.length)
  /-- The source is dropped when one of these places turned out not to be there. -/
  source_iff : b'.source = none ↔ b.source = none ∨ b.whole.length < n

theorem size_le_whole (b : Buffer α) : b.items.size ≤ b.whole.length := by
  rw [whole, List.length_append, Array.length_toList]
  omega

/-- A buffer whose source has been dropped holds the whole text. -/
theorem size_eq_whole (h : b.source = none) : b.items.size = b.whole.length := by
  rw [whole, h, Source.yield?, Option.elim_none, List.append_nil, Array.length_toList]

namespace Asked

theorem whole_eq (h : b.Asked n b') : b'.whole = b.whole := by
  obtain ⟨told, hb⟩ := h.takes
  exact hb.whole_eq

/-- Places that are held can be asked for without a pull. -/
theorem of_le (hb : b.Reliable) (h : n ≤ b.items.size) : b.Asked n b := by
  have hle := b.size_le_whole
  refine ⟨hb, ⟨[], .refl b⟩, by omega, ?_⟩
  constructor
  · exact .inl
  · rintro (hsource | hlt)
    · exact hsource
    · omega

/-- A buffer that has heard of the end holds whatever is asked for. -/
theorem of_exhausted (hb : b.Reliable) (h : b.source = none) (n : Nat) : b.Asked n b := by
  have hsize := b.size_eq_whole h
  refine ⟨hb, ⟨[], .refl b⟩, by omega, ?_⟩
  constructor
  · exact .inl
  · exact fun _ => h

/-- **To ask twice is to ask for the larger number of places.** -/
theorem trans (h : b.Asked n b') (h' : b'.Asked m b'') : b.Asked (max n m) b'' := by
  obtain ⟨told, hb⟩ := h.takes
  obtain ⟨told', hb'⟩ := h'.takes
  have hsize := h'.size_eq
  have hsource := h'.source_iff
  rw [hb.whole_eq, h.size_eq] at hsize
  rw [hb.whole_eq, h.source_iff] at hsource
  refine ⟨h'.reliable, ⟨_, hb.trans hb'⟩, by omega, hsource.trans ?_⟩
  constructor
  · rintro ((hdropped | hlt) | hlt)
    · exact .inl hdropped
    · exact .inr (by omega)
    · exact .inr (by omega)
  · rintro (hdropped | hlt)
    · exact .inl (.inl hdropped)
    · by_cases hn : b.whole.length < n
      · exact .inl (.inr hn)
      · exact .inr (by omega)

/-- How many places that are held are asked for makes no difference. -/
theorem congr (h : b.Asked n b') (hmax : max b.items.size n = max b.items.size m) :
    b.Asked m b' := by
  have hle := b.size_le_whole
  have hsize := h.size_eq
  refine ⟨h.reliable, h.takes, by omega, h.source_iff.trans (or_congr Iff.rfl ?_)⟩
  constructor
  · intro hlt
    omega
  · intro hlt
    omega

/-- Logging is not asking. -/
theorem of_record (h : b.Asked n b') (event : Event) : b.Asked n (b'.record event) := by
  obtain ⟨told, hb⟩ := h.takes
  exact ⟨by simpa [Reliable] using h.reliable, ⟨told, hb.of_record event⟩,
    by simpa using h.size_eq, by simpa using h.source_iff⟩

/-- The places asked for are held afterwards, as far as there are any. -/
theorem min_le_size (h : b.Asked n b') : min n b.whole.length ≤ b'.items.size := by
  have hsize := h.size_eq
  omega

theorem size_le (h : b.Asked n b') : b.items.size ≤ b'.items.size := by
  have hsize := h.size_eq
  omega

end Asked

/-! ### Asking a buffer -/

/-- Filling a buffer asks for as many places as it is to hold, and without a limit for one more than
there are. -/
theorem Reliable.run_fill (hb : b.Reliable) (limit : Option Nat) :
    ∃ b', (fill limit).run b = .ok () b' ∧
      b.Asked (limit.elim (b.whole.length + 1) (b.items.size + ·)) b' := by
  rcases hsource : b.source with _ | script
  · exact ⟨b, run_fill_of_none hsource limit, .of_exhausted hb hsource _⟩
  have hopen : b.source ≠ none := by
    rw [hsource]
    exact nofun
  have hpulled := Judgement.ofRelation_iff.1 (pulling_fill limit b)
  rcases hrun : (fill limit).run b with ⟨_, b'⟩ | ⟨fault, b'⟩
  · obtain ⟨told, htakes, -⟩ := hpulled.of_ok hrun
    have hreliable : b'.Reliable := htakes.tells.failures_left hb
    have hwhole := b'.size_le_whole
    rw [htakes.whole_eq] at hwhole
    refine ⟨b', rfl, ?_⟩
    by_cases hclosed : b'.source = none
    -- The end was met before there was enough.
    · have hsize := b'.size_eq_whole hclosed
      rw [htakes.whole_eq] at hsize
      have hlt : b.whole.length < limit.elim (b.whole.length + 1) (b.items.size + ·) := by
        rcases limit with _ | n
        · exact Nat.lt_succ_self _
        · have hshort := size_of_fill_closed hrun hopen hclosed
          rwa [hsize] at hshort
      have hle := htakes.size_le
      exact ⟨hreliable, ⟨told, htakes⟩, by omega, iff_of_true hclosed (.inr hlt)⟩
    -- There was enough.
    · rcases limit with _ | n
      · exact absurd (source_of_fill_none hrun) hclosed
      have hsize := (size_of_fill hrun).resolve_right hclosed
      refine ⟨hreliable, ⟨told, htakes⟩, by simp only [Option.elim_some]; omega,
        iff_of_false hclosed ?_⟩
      rintro (hnone | hlt)
      · exact hopen hnone
      · simp only [Option.elim_some] at hlt
        omega
  · obtain ⟨told, htakes, hfailures⟩ := hpulled.of_error hrun
    obtain ⟨m, rfl⟩ := fault_of_run_fill hrun
    rw [Reliable, hsource] at hb
    have htells := htakes.tells
    rw [hsource] at htells
    rw [htells.failures_eq_nil hb] at hfailures
    cases hfailures

theorem Reliable.run_ensure (hb : b.Reliable) (target : Nat) :
    ∃ b', (ensure target).run b = .ok (decide (target < b.whole.length)) b' ∧
      b.Asked (target + 1) b' := by
  obtain ⟨b', hfill, hasked⟩ := hb.run_fill (some (target + 1 - b.items.size))
  have hasked : b.Asked (target + 1) b' := hasked.congr (by simp only [Option.elim_some]; omega)
  have hrun : (ensure target).run b = .ok (decide (target < b'.items.size)) b' := by
    rw [Buffer.run_ensure, hfill]
  have hfound : (target < b'.items.size) ↔ target < b.whole.length := by
    have hle := b.size_le_whole
    rw [hasked.size_eq]
    omega
  exact ⟨b', by rw [hrun, decide_eq_decide.2 hfound], hasked⟩

theorem Reliable.run_fetch (hb : b.Reliable) (target : Nat) :
    ∃ b', (fetch target).run b = .ok b.whole[target]? b' ∧ b.Asked (target + 1) b' := by
  obtain ⟨b', hensure, hasked⟩ := hb.run_ensure target
  have hrun : (fetch target).run b = .ok b'.items[target]? b' := by rw [Buffer.run_fetch, hensure]
  obtain ⟨-, -, hx⟩ := of_run_fetch hrun
  exact ⟨b', hrun.trans (by rw [hx]), hasked⟩

theorem Reliable.run_text (hb : b.Reliable) :
    ∃ b', text.run b = .ok b.whole b' ∧ b.Asked (b.whole.length + 1) b' := by
  obtain ⟨b', hfill, hasked⟩ := hb.run_fill none
  have hdrain : drain.run b = .ok (b'.items.size - b.items.size) b' :=
    Action.run_bind_of_ok (EStateM.run_get b) |>.trans (Action.run_bind_of_ok hfill)
  have htext : ∃ b'', text.run b = .ok b''.items.toList b'' ∧ b.Asked (b.whole.length + 1) b'' := by
    by_cases hpulled : 0 < b'.items.size - b.items.size
    · refine ⟨_, ?_, hasked.of_record (.materialised (b'.items.size - b.items.size))⟩
      rw [text, Action.run_bind_of_ok hdrain, if_pos hpulled]
      rfl
    · refine ⟨b', ?_, hasked⟩
      rw [text, Action.run_bind_of_ok hdrain, if_neg hpulled]
      rfl
  obtain ⟨b'', hrun, hasked⟩ := htext
  obtain ⟨-, -, hxs⟩ := of_run_text hrun
  exact ⟨b'', hrun.trans (by rw [hxs]), hasked⟩

end Buffer

end Rewind
