import Rewind.Proofs.Fill
import Rewind.Proofs.Operations
import Rewind.Proofs.Persistence

/-!
# Filling a buffer again

A buffer that is asked for a place **recovers from the failures of its source**
(`Buffer.recovers_ensure`), and so does every look. The script is used up entry by entry
(`Buffer.recovers_fillTo`): elements are taken in alike with and without the failures between
them, and each failure is behind the buffer the next time.

A place that has been shown is shown again without a pull (`Buffer.repeats_fetch`). So looks may
stand before anything that recovers, and a match or a scan recovers as its single looks do.
-/

namespace Rewind

variable {α : Type}

/-! ### Scripts without their failures -/

namespace Source

/-- A script with the entries left out that fail their pull. -/
def purged (script : Source α) : Source α :=
  script.filter fun e => e.failure?.isNone

/-- The failures of a script are no part of the text. -/
theorem yield_purged (script : Source α) : script.purged.yield = script.yield := by
  induction script with
  | nil => rfl
  | cons entry rest ih =>
    rcases entry with x | m | _
    · exact congrArg (x :: ·) ih
    · exact ih
    · rfl

end Source

namespace Buffer

/-- Whether a buffer is another one after some more pulls, as far as the log is not concerned. -/
def Extends (b b' : Buffer α) : Prop :=
  ∃ told, b.Takes told b'

theorem Extends.trans (b b' b'' : Buffer α) (h : b.Extends b') (h' : b'.Extends b'') :
    b.Extends b'' := by
  obtain ⟨told, hb⟩ := h
  obtain ⟨told', hb'⟩ := h'
  exact ⟨told ++ told', hb.trans hb'⟩

theorem Extends.refl (b : Buffer α) : b.Extends b :=
  ⟨[], .refl b⟩

/-- Whether a buffer is another one with the failures left out that are still to come. How often
the source was pulled and what was logged may differ. -/
structure Clears (b d : Buffer α) : Prop where
  key_eq : d.key = b.key
  config_eq : d.config = b.config
  items_eq : d.items = b.items
  source_eq : d.source = b.source.map Source.purged

variable {b d : Buffer α}

theorem Clears.whole_eq (h : b.Clears d) : d.whole = b.whole := by
  rw [whole, whole, h.items_eq, h.source_eq]
  rcases b.source with _ | script
  · rfl
  · exact congrArg _ script.yield_purged

/-- The buffer after a pull that brought an element. -/
def push (b : Buffer α) (x : α) (rest : Source α) : Buffer α :=
  { b with items := b.items.push x, source := some rest, pulls := b.pulls + 1 }

/-- The buffer after a pull that failed. -/
def pass (b : Buffer α) (rest : Source α) : Buffer α :=
  { b with source := some rest, pulls := b.pulls + 1 }

theorem extends_push {x : α} {rest : Source α} (hb : b.source = some (.element x :: rest)) :
    b.Extends (b.push x rest) :=
  ⟨[.element x], rfl, rfl, rfl, by simp [push, Source.elements, Entry.element?],
    hb ▸ .element .nothing⟩

theorem extends_pass {m : String} {rest : Source α} (hb : b.source = some (.failure m :: rest)) :
    b.Extends (b.pass rest) :=
  ⟨[.failure m], rfl, rfl, rfl, by simp [pass, Source.elements, Entry.element?],
    hb ▸ .failure .nothing⟩

/-- What a pull does to both tells no difference. -/
theorem Clears.push (h : b.Clears d) (x : α) (rest : Source α) :
    (b.push x rest).Clears (d.push x rest.purged) :=
  ⟨h.key_eq, h.config_eq, congrArg (Array.push · x) h.items_eq, rfl⟩

theorem Clears.pass_left (h : b.Clears d) {m : String} {rest : Source α}
    (hb : b.source = some (.failure m :: rest)) : (b.pass rest).Clears d :=
  ⟨h.key_eq, h.config_eq, h.items_eq, by rw [h.source_eq, hb]; rfl⟩

theorem Clears.close_pass (h : b.Clears d) (rest rest' : Source α) :
    (b.pass rest).close.Clears (d.pass rest').close where
  key_eq := by simpa [close, pass] using h.key_eq
  config_eq := by simpa [pass] using h.config_eq
  items_eq := by simpa [pass] using h.items_eq
  source_eq := by simp

/-- Filling is pulling once and filling on. -/
theorem run_fill_element {limit : Option Nat} (hlimit : limit ≠ some 0) {x : α} {rest : Source α}
    (hb : b.source = some (.element x :: rest)) :
    (fill limit).run b = (fill (limit.map (· - 1))).run (b.push x rest) := by
  have hdraw : Source.draw limit (.element x :: rest) =
      (Source.draw (limit.map (· - 1)) rest).after x := by
    rw [Source.draw]
    exact hlimit
  have habsorb (haul : Haul α) : b.absorb (haul.after x) = (b.push x rest).absorb haul := by
    simp [absorb, push, Haul.after, Nat.add_comm, Nat.add_left_comm]
  rw [run_fill_of_some hb, run_fill_of_some rfl, hdraw, habsorb]
  rfl

/-- A pull that fails ends the filling. -/
theorem run_fill_failure {limit : Option Nat} (hlimit : limit ≠ some 0) {m : String}
    {rest : Source α} (hb : b.source = some (.failure m :: rest)) :
    (fill limit).run b = .error (.source m) (b.pass rest) := by
  have hdraw : Source.draw limit (.failure m :: rest) = ⟨[], .failed m, 1, rest⟩ := by
    rw [Source.draw]
    exact hlimit
  rw [run_fill_of_some hb, hdraw]
  simp [absorb, pass]

/-- A pull that reports exhaustion, or finds the script run out, closes the buffer. -/
theorem run_fill_end {limit : Option Nat} (hlimit : limit ≠ some 0) {script : Source α}
    (hscript : script = [] ∨ script = .exhaustion :: script.tail)
    (hb : b.source = some script) :
    (fill limit).run b = .ok () (b.pass script.tail).close := by
  have hdraw : Source.draw limit script = ⟨[], .exhausted, 1, script.tail⟩ := by
    rcases hscript with rfl | hscript
    · rw [Source.draw]
      · rfl
      · exact hlimit
    · rw [hscript, Source.draw]
      · rfl
      · exact hlimit
  rw [run_fill_of_some hb, hdraw]
  simp [absorb, pass]

/-- Fill up to a size that the size there is decides on. -/
def fillTo (limit : Nat → Option Nat) : Peeking α Unit := fun b =>
  (fill (limit b.items.size)).run b

theorem run_fillTo (limit : Nat → Option Nat) (b : Buffer α) :
    (fillTo limit).run b = (fill (limit b.items.size)).run b := rfl

/-- A buffer whose script is at its end is filled at once. -/
theorem recovers_end {limit : Nat → Option Nat} (hd : b.Clears d) {script script' : Source α}
    (hb : b.source = some script) (hsource : d.source = some script')
    (hscript : script = [] ∨ script = .exhaustion :: script.tail)
    (hscript' : script' = [] ∨ script' = .exhaustion :: script'.tail) :
    ∃ r, (fillTo limit).Persists Extends b r ∧
      Action.Recovered Clears r ((fillTo limit).run d) := by
  by_cases hzero : limit b.items.size = some 0
  · have hzero' : limit d.items.size = some 0 := by rwa [hd.items_eq]
    refine ⟨.ok () b, .answered ?_, d, ?_, hd⟩
    · rw [run_fillTo, hzero, run_fill_zero]
    · rw [run_fillTo, hzero', run_fill_zero]
  · have hzero' : limit d.items.size ≠ some 0 := by rwa [hd.items_eq]
    exact ⟨_, .answered (run_fill_end hzero hscript hb), _, run_fill_end hzero' hscript' hsource,
      hd.close_pass _ _⟩

/-- **Filling a buffer recovers**, by induction on its script: elements are taken in alike with and
without failures between them, and a failure is passed over the next time. What is still to be
filled must be one less for each element. -/
theorem recovers_fillTo (limit : Nat → Option Nat)
    (hlimit : ∀ n, limit n ≠ some 0 → limit (n + 1) = (limit n).map (· - 1)) (d : Buffer α) :
    (fillTo limit).Recovers Extends Clears d := by
  intro b hd
  rcases hb : b.source with _ | script
  · have hsource : d.source = none := by rw [hd.source_eq, hb]; rfl
    exact ⟨.ok () b, .answered (run_fill_of_none hb _), d, run_fill_of_none hsource _, hd⟩
  induction script generalizing b d with
  | nil =>
    have hsource : d.source = some [] := by rw [hd.source_eq, hb]; rfl
    exact recovers_end hd hb hsource (.inl rfl) (.inl rfl)
  | cons entry rest ih =>
    by_cases hzero : limit b.items.size = some 0
    · have hzero' : limit d.items.size = some 0 := by rwa [hd.items_eq]
      refine ⟨.ok () b, .answered ?_, d, ?_, hd⟩
      · rw [run_fillTo, hzero, run_fill_zero]
      · rw [run_fillTo, hzero', run_fill_zero]
    have hzero' : limit d.items.size ≠ some 0 := by rwa [hd.items_eq]
    rcases entry with x | m | _
    -- An element comes with and without the failures, and one less is asked for then.
    · have hsource : d.source = some (.element x :: Source.purged rest) := by
        rw [hd.source_eq, hb]
        rfl
      obtain ⟨r, hpersists, hsame⟩ := ih _ _ (hd.push x rest) rfl
      refine ⟨r, hpersists.of_run_eq Extends.trans ?_ (extends_push hb), ?_⟩
      · rw [run_fillTo, run_fillTo, run_fill_element hzero hb, push, Array.size_push,
          hlimit _ hzero]
      · rw [run_fillTo, run_fill_element hzero' hsource]
        rwa [run_fillTo, push, Array.size_push, hlimit _ hzero'] at hsame
    -- A failure ends this try, and the next one goes on behind it.
    · obtain ⟨r, hpersists, hsame⟩ := ih d _ (hd.pass_left hb) rfl
      exact ⟨r, .again (run_fill_failure hzero hb) (extends_pass hb) hpersists, hsame⟩
    · have hsource : d.source = some (.exhaustion :: Source.purged rest) := by
        rw [hd.source_eq, hb]
        rfl
      exact recovers_end hd hb hsource (.inr rfl) (.inr rfl)

/-! ### Asking a buffer -/

/-- Logging on the side of the failures tells no difference. -/
theorem Clears.record_left (h : b.Clears d) (event : Event) : (b.record event).Clears d where
  key_eq := by simpa using h.key_eq
  config_eq := by simpa using h.config_eq
  items_eq := by simpa using h.items_eq
  source_eq := by simpa using h.source_eq

/-- Neither does logging on the side without them. -/
theorem Clears.record_right (h : b.Clears d) (event : Event) : b.Clears (d.record event) where
  key_eq := by simpa using h.key_eq
  config_eq := by simpa using h.config_eq
  items_eq := by simpa using h.items_eq
  source_eq := by simpa using h.source_eq

theorem recovers_ensure (target : Nat) (d : Buffer α) :
    (ensure target).Recovers Extends Clears d := by
  have hlimit (n : Nat) (_ : some (target + 1 - n) ≠ some 0) :
      some (target + 1 - (n + 1)) = (some (target + 1 - n)).map (· - 1) := rfl
  refine (recovers_fillTo (fun n => some (target + 1 - n)) hlimit d).conclude
    (fun _ _ t => .ok (decide (target < t.items.size)) t) ?_ ?_
    fun _ _ t e _ _ ht => ⟨trivial, e, ?_, ht⟩
  · intro b _ t h
    rw [run_fillTo] at h
    rw [run_ensure, h]
  · intro b fault t h
    rw [run_fillTo] at h
    rw [run_ensure, h]
  · rw [ht.items_eq]

theorem recovers_fetch (target : Nat) (d : Buffer α) :
    (fetch target).Recovers Extends Clears d := by
  refine (recovers_ensure target d).conclude (fun _ _ t => .ok t.items[target]? t) ?_ ?_
    fun _ _ t e _ _ ht => ⟨trivial, e, ?_, ht⟩
  · intro b _ t h
    rw [run_fetch, h]
  · intro b fault t h
    rw [run_fetch, h]
  · rw [ht.items_eq]

theorem recovers_text (d : Buffer α) : (text (α := α)).Recovers Extends Clears d := by
  have hlimit (n : Nat) (_ : (none : Option Nat) ≠ some 0) :
      (none : Option Nat) = (none : Option Nat).map (· - 1) := rfl
  refine (recovers_fillTo (fun _ => none) hlimit d).conclude
    (fun b _ t => .ok t.items.toList
      (if 0 < t.items.size - b.items.size then
        t.record (.materialised (t.items.size - b.items.size))
      else t)) ?_ ?_ fun b _ t e _ _ ht => ⟨trivial, _,
        congrArg (EStateM.Result.ok · _) (congrArg Array.toList ht.items_eq), ?_⟩
  · intro b _ t h
    rw [run_fillTo] at h
    rw [run_text, h]
  · intro b fault t h
    rw [run_fillTo] at h
    rw [run_text, h]
  · split <;> split
    · exact (ht.record_left _).record_right _
    · exact ht.record_left _
    · exact ht.record_right _
    · exact ht

/-- A buffer that could not be asked for a place does not hold it. -/
theorem size_le_of_run_ensure {target : Nat} {fault : Fault} {b' : Buffer α}
    (h : (ensure target).run b = .error fault b') : b'.items.size ≤ target := by
  rw [run_ensure] at h
  rcases hfill : (fill (some (target + 1 - b.items.size))).run b with ⟨_, t⟩ | ⟨fault', t⟩
  · rw [hfill] at h
    cases h
  · rw [hfill] at h
    cases h
    by_cases hheld : target < b.items.size
    · rw [show target + 1 - b.items.size = 0 by omega, run_fill_zero] at hfill
      cases hfill
    · have := size_of_fill_error hfill
      omega

theorem size_le_of_run_fetch {target : Nat} {fault : Fault} {b' : Buffer α}
    (h : (fetch target).run b = .error fault b') : b'.items.size ≤ target := by
  rw [run_fetch] at h
  rcases hensure : (ensure target).run b with ⟨found, t⟩ | ⟨fault', t⟩
  · rw [hensure] at h
    cases h
  · rw [hensure] at h
    cases h
    exact size_le_of_run_ensure hensure

/-- Actions on a buffer that repeat their answers. -/
def repeating : Judgement (Buffer α) :=
  Action.repeating Extends Extends.refl Extends.trans

/-- A buffer that has shown a place shows it again without a pull. -/
theorem repeats_fetch (target : Nat) (b : Buffer α) : (fetch target).Repeats Extends b := by
  intro x t hrun
  obtain ⟨⟨told, hb, -⟩, hsettles, rfl⟩ := of_run_fetch hrun
  refine ⟨⟨told, hb⟩, fun u ⟨told', hu⟩ => ?_⟩
  have hsettled := hsettles.mono hu
  rw [run_fetch_of_settles hsettled, ← hsettled.whole_eq, hu.whole_eq, hb.whole_eq]

/-- A buffer that has handed out all its elements is closed, and does so again without a pull. -/
theorem repeats_text (b : Buffer α) : text.Repeats Extends b := by
  intro xs t hrun
  obtain ⟨⟨told, hb, -⟩, hclosed, rfl⟩ := of_run_text hrun
  refine ⟨⟨told, hb⟩, fun u ⟨told', hu⟩ => ?_⟩
  -- A buffer that is closed is not pulled any more, so its elements are all there are.
  obtain ⟨-, -, hsource⟩ := hu.eq_of_exhausted hclosed
  have hwhole : u.items.toList = b.whole := by
    rw [← hb.whole_eq, ← hu.whole_eq, whole, hsource, Source.yield?, Option.elim_none,
      List.append_nil]
  rw [run_text, run_fill_of_none hsource]
  simp only [Nat.sub_self, Nat.lt_irrefl, if_false, hwhole]

end Buffer

namespace Cursor

open Buffer (Extends Clears)

/-! ### Looking from a head -/

theorem repeats_peek (c : Cursor) (offset : Int) (b : Buffer α) :
    (c.peek offset).Repeats Extends b :=
  Judgement.peek_of_fetch (J := Buffer.repeating) Buffer.repeats_fetch c offset b

/-- A place that could not be looked at is not held. -/
theorem size_le_of_run_peek {c : Cursor} {offset : Int} {fault : Fault} {b b' : Buffer α}
    (h : (c.peek offset).run b = .error fault b') : (b'.items.size : Int) ≤ c.index + offset := by
  rw [run_peek] at h
  rcases hadd : Offset.add? c.index offset with _ | target
  · rw [hadd] at h
    cases h
  obtain ⟨-, rfl⟩ := Offset.add?_eq_some_iff.1 hadd
  rw [hadd] at h
  simp only at h
  split at h
  · cases h
  · have hsize := Buffer.size_le_of_run_fetch h
    omega

theorem recovers_peek (c : Cursor) (offset : Int) (d : Buffer α) :
    (c.peek offset).Recovers Extends Clears d := by
  rw [peek]
  rcases Offset.add? c.index offset with _ | target
  · exact .done none
  · exact .ite (fun _ => .done none) fun _ => Buffer.recovers_fetch _ d

theorem repeats_current (c : Cursor) (b : Buffer α) :
    (c.current (α := α)).Repeats Extends b :=
  Judgement.current_of_fetch (J := Buffer.repeating) Buffer.repeats_fetch
    (fun fault _ _ => .raise fault) c b

theorem recovers_current (c : Cursor) (d : Buffer α) :
    (c.current (α := α)).Recovers Extends Clears d := by
  rw [current]
  refine .ite (fun _ => .raise rfl) fun _ => ?_
  refine .seq Buffer.Extends.trans (repeats_peek c 0) (recovers_peek c 0 d) fun x e _ => ?_
  rcases x with _ | x
  · exact .raise rfl
  · exact .done x

theorem recovers_isAtEnd (c : Cursor) (d : Buffer α) :
    (c.isAtEnd (α := α)).Recovers Extends Clears d := by
  rw [isAtEnd]
  exact .ite (fun _ => .done true) fun _ => (recovers_peek c 1 d).map _

section Matching

variable [DecidableEq α]

/-- Matching recovers by induction on what is left of the pattern. -/
theorem recovers_matchesFrom (c : Cursor) (offset : Int) (matched : Nat) (pattern : List α)
    (d : Buffer α) : (c.matchesFrom offset matched pattern).Recovers Extends Clears d := by
  induction pattern generalizing matched d with
  | nil => exact .done true
  | cons x rest ih =>
    rw [matchesFrom]
    refine .orOverflow_bind fun count _ => ?_
    rcases Offset.add? offset count with _ | ahead
    · exact .done false
    · refine .seq Buffer.Extends.trans (repeats_peek c ahead) (recovers_peek c ahead d)
        fun y e _ => ?_
      rcases y with _ | y
      · exact .done false
      · exact .ite (fun _ => ih (matched + 1) e) fun _ => .done false

theorem recovers_matchesAt (c : Cursor) (offset : Int) (pattern : List α) (d : Buffer α) :
    (c.matchesAt offset pattern).Recovers Extends Clears d := by
  rw [matchesAt]
  exact .ite (fun _ => .raise rfl) fun _ => recovers_matchesFrom c offset 0 pattern d

end Matching

/-- A scan recovers by induction on what lies ahead of the place it looks at, where no failures are
to come. -/
theorem recovers_scan (p : α → Bool) (c : Cursor) (offset : Int) (d : Buffer α) :
    (c.scan p offset).Recovers Extends Clears d := by
  induction hn : (d.reach - (c.index + offset)).toNat using Nat.strongRecOn
    generalizing offset d with
  | ind n ih =>
    rw [scan_eq]
    refine .seq Buffer.Extends.trans (repeats_peek c offset) (recovers_peek c offset d)
      fun x e hpeek => ?_
    rcases x with _ | x
    · exact .done _
    · refine .ite (fun _ => ?_) fun _ => .done _
      refine .orOverflow_bind fun following hfollowing => ?_
      -- The element that was looked at is no longer ahead.
      have hlt := lt_of_peek_of_add hpeek hfollowing
      rw [hn] at hlt
      exact (ih _ hlt following e rfl).map _

end Cursor

end Rewind
