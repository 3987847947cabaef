import Rewind.Buffer.Basic
import Rewind.Proofs.Judgement

/-!
# What the pulls of a buffer tell

Every pull is answered by one entry. `Source.Tells s told s'` says that the source `s` answers
`told.length` pulls with the entries `told` and is `s'` afterwards; a source that has been dropped
is `none`, and it is dropped exactly at the first report of exhaustion. `Buffer.Takes b told b'`
says the same of a buffer, which **keeps every element it is told of, and nothing else**, and
counts its pulls. What is logged on the way is left open.

Two consequences carry the rest of the development. A buffer never forgets (`Takes.items_eq`), and
**the sequence it will have kept in the end is fixed from the start**: `Buffer.whole` puts what is
in the buffer before what its source will still bring, and no pull changes it (`Takes.whole_eq`).
-/

namespace Rewind

variable {α β : Type}

/-- The element an entry brings, if it brings one. -/
def Entry.element? : Entry α → Option α
  | .element x => some x
  | _ => none

/-- The message of an entry that fails its pull. -/
def Entry.failure? : Entry α → Option String
  | .failure m => some m
  | _ => none

namespace Source

/-- The elements among some answers. -/
def elements (told : List (Entry α)) : List α :=
  told.filterMap Entry.element?

/-- The messages of the failures among some answers. -/
def failures (told : List (Entry α)) : List String :=
  told.filterMap Entry.failure?

/-- The elements a source brings before it first reports exhaustion, failures passed over. -/
def yield : Source α → List α
  | [] => []
  | .element x :: rest => x :: yield rest
  | .failure _ :: rest => yield rest
  | .exhaustion :: _ => []

/-- What a source that may have been dropped still brings. -/
def yield? (s : Option (Source α)) : List α :=
  s.elim [] yield

/-- Pulls answered with `told` take the first source to the second; a source is dropped when it
reports exhaustion. -/
inductive Tells : Option (Source α) → List (Entry α) → Option (Source α) → Prop
  | nothing {s : Option (Source α)} : Tells s [] s
  | element {x : α} {rest : Source α} {told : List (Entry α)} {s' : Option (Source α)}
      (h : Tells (some rest) told s') :
      Tells (some (.element x :: rest)) (.element x :: told) s'
  | failure {m : String} {rest : Source α} {told : List (Entry α)} {s' : Option (Source α)}
      (h : Tells (some rest) told s') :
      Tells (some (.failure m :: rest)) (.failure m :: told) s'
  | exhaustion {rest : Source α} : Tells (some (.exhaustion :: rest)) [.exhaustion] none
  | ranOut : Tells (some []) [.exhaustion] none

/-! ### Answers put together -/

@[simp] theorem elements_append (told told' : List (Entry α)) :
    elements (told ++ told') = elements told ++ elements told' :=
  List.filterMap_append ..

@[simp] theorem failures_append (told told' : List (Entry α)) :
    failures (told ++ told') = failures told ++ failures told' :=
  List.filterMap_append ..

namespace Tells

variable {s s' s'' : Option (Source α)} {script : Source α} {told told' : List (Entry α)}

/-- Pulls go on where the ones before them left the source. -/
theorem trans (h : Tells s told s') (h' : Tells s' told' s'') : Tells s (told ++ told') s'' := by
  induction h with
  | nothing => exact h'
  | element _ ih => exact .element (ih h')
  | failure _ ih => exact .failure (ih h')
  | exhaustion => cases h'; exact .exhaustion
  | ranOut => cases h'; exact .ranOut

/-- A source that has been dropped is not pulled. -/
theorem eq_nil_of_none (h : Tells none told s) : told = [] ∧ s = none := by
  cases h
  exact ⟨rfl, rfl⟩

/-- The answers are those of the script, in its order, each entry used once. -/
theorem eq_answers (h : Tells s told s') (hs : s = some script) :
    told = script.answers told.length := by
  induction h generalizing script with
  | nothing => rfl
  | element _ ih => cases hs; exact congrArg (_ :: ·) (ih rfl)
  | failure _ ih => cases hs; exact congrArg (_ :: ·) (ih rfl)
  | exhaustion => cases hs; rfl
  | ranOut => cases hs; rfl

/-- **Exhaustion is the last answer.** A source that is dropped was told of it by the last pull
and by no earlier one, and a source that is not dropped never told of it. -/
theorem exhaustion_last (h : Tells s told s') (hs : s = some script) :
    match s' with
    | some _ => .exhaustion ∉ told
    | none => ∃ before, told = before ++ [.exhaustion] ∧ .exhaustion ∉ before := by
  induction h generalizing script with
  | nothing => cases hs; simp
  | @element x rest told s' _ ih =>
    have := ih rfl
    cases s' with
    | some _ => simpa using this
    | none =>
      obtain ⟨before, rfl, hb⟩ := this
      exact ⟨.element x :: before, rfl, by simpa using hb⟩
  | @failure m rest told s' _ ih =>
    have := ih rfl
    cases s' with
    | some _ => simpa using this
    | none =>
      obtain ⟨before, rfl, hb⟩ := this
      exact ⟨.failure m :: before, rfl, by simpa using hb⟩
  | exhaustion => exact ⟨[], rfl, by simp⟩
  | ranOut => exact ⟨[], rfl, by simp⟩

/-- A source is dropped exactly when it has reported exhaustion. -/
theorem eq_none_iff (h : Tells (some script) told s') : s' = none ↔ .exhaustion ∈ told := by
  have := h.exhaustion_last rfl
  cases s' with
  | some _ => simpa using this
  | none =>
    obtain ⟨before, rfl, -⟩ := this
    simp

/-- What a source brings is what it has told of and then what it still brings. -/
theorem yield_eq (h : Tells s told s') : yield? s = elements told ++ yield? s' := by
  induction h with
  | nothing => rfl
  | element _ ih => exact congrArg (_ :: ·) ih
  | failure _ ih => exact ih
  | exhaustion => rfl
  | ranOut => rfl

/-- A script without failures tells of none. -/
theorem failures_eq_nil (h : Tells (some script) told s') (hscript : failures script = []) :
    failures told = [] := by
  rw [failures, List.filterMap_eq_nil_iff] at hscript ⊢
  generalize hs : some script = s at h
  induction h generalizing script with
  | nothing => simp
  | element _ ih =>
    cases hs
    simpa [Entry.failure?] using ih (fun e he => hscript e (List.mem_cons_of_mem _ he)) rfl
  | failure => cases hs; simp [Entry.failure?] at hscript
  | exhaustion => simp [Entry.failure?]
  | ranOut => simp [Entry.failure?]

end Tells

end Source

/-! ### What a haul tells -/

/-- The message of a run of pulls that stopped because the source failed. -/
def Stop.failure? : Stop → Option String
  | .failed m => some m
  | _ => none

/-- The source that a run of pulls leaves: dropped if it was exhausted. -/
def Haul.left (haul : Haul α) : Option (Source α) :=
  if haul.stop = .exhausted then none else some haul.rest

/-- **A haul accounts for its pulls**: it holds the elements the script told of, and its reason to
stop is the failure the script told of, if there was one. -/
theorem Source.tells_draw (limit : Option Nat) (script : Source α) :
    ∃ told, Tells (some script) told (script.draw limit).left ∧
      (script.draw limit).elements = elements told ∧ (script.draw limit).pulls = told.length ∧
      failures told = (script.draw limit).stop.failure?.toList := by
  fun_induction draw limit script with
  | case1 script => exact ⟨[], .nothing, rfl, rfl, rfl⟩
  | case2 => exact ⟨[.exhaustion], .ranOut, rfl, rfl, rfl⟩
  | case3 limit x rest hlimit ih =>
    obtain ⟨told, htells, helements, hpulls, hfailures⟩ := ih
    exact ⟨.element x :: told, .element htells, congrArg (x :: ·) helements,
      congrArg (· + 1) hpulls, hfailures⟩
  | case4 limit m rest => exact ⟨[.failure m], .failure .nothing, rfl, rfl, rfl⟩
  | case5 limit rest => exact ⟨[.exhaustion], .exhaustion, rfl, rfl, rfl⟩

/-! ### What a buffer takes in -/

/-- The message of a failure of the source. -/
def Fault.source? : Fault → Option String
  | .source m => some m
  | _ => none

namespace Buffer

/-- Pulls answered with `told` take the first buffer to the second, as far as the log is not
concerned. -/
structure Takes (b : Buffer α) (told : List (Entry α)) (b' : Buffer α) : Prop where
  key_eq : b'.key = b.key
  config_eq : b'.config = b.config
  pulls_eq : b'.pulls = b.pulls + told.length
  items_eq : b'.items.toList = b.items.toList ++ Source.elements told
  tells : Source.Tells b.source told b'.source

/-- What the buffer holds and what its source still brings: all it can ever come to hold. -/
def whole (b : Buffer α) : List α :=
  b.items.toList ++ Source.yield? b.source

/-- A piece of a buffer is a piece of the whole text. -/
theorem toList_extract (b : Buffer α) {start stop : Nat} (h : stop ≤ b.items.size) :
    (b.items.extract start stop).toList = b.whole.extract start stop := by
  have hlength : stop - start ≤ (b.items.toList.drop start).length := by
    rw [List.length_drop, Array.length_toList]
    omega
  rw [Array.toList_extract, List.extract_eq_take_drop, List.extract_eq_take_drop, whole,
    List.drop_append, List.take_append_of_le_length hlength]

namespace Takes

variable {b b' b'' : Buffer α} {told told' : List (Entry α)}

theorem refl (b : Buffer α) : b.Takes [] b :=
  ⟨rfl, rfl, rfl, by simp [Source.elements], .nothing⟩

theorem trans (h : b.Takes told b') (h' : b'.Takes told' b'') : b.Takes (told ++ told') b'' where
  key_eq := h'.key_eq.trans h.key_eq
  config_eq := h'.config_eq.trans h.config_eq
  pulls_eq := by rw [h'.pulls_eq, h.pulls_eq, List.length_append, Nat.add_assoc]
  items_eq := by rw [h'.items_eq, h.items_eq, Source.elements_append, List.append_assoc]
  tells := h.tells.trans h'.tells

/-- Logging is no pull. -/
theorem of_record (h : b.Takes told b') (event : Event) : b.Takes told (b'.record event) := by
  obtain ⟨hkey, hconfig, hpulls, hitems, htells⟩ := h
  exact ⟨by simpa, by simpa, by simpa, by simpa, by simpa⟩

/-- **No pull changes what the buffer holds in the end.** -/
theorem whole_eq (h : b.Takes told b') : b'.whole = b.whole := by
  rw [whole, whole, h.items_eq, h.tells.yield_eq, List.append_assoc]

theorem size_le (h : b.Takes told b') : b.items.size ≤ b'.items.size := by
  rw [← Array.length_toList, ← Array.length_toList, h.items_eq, List.length_append]
  omega

/-- A buffer whose source has been dropped stays as it is. -/
theorem eq_of_exhausted (h : b.Takes told b') (hb : b.source = none) :
    told = [] ∧ b'.items = b.items ∧ b'.source = none := by
  have htells := h.tells
  rw [hb] at htells
  obtain ⟨rfl, hsource⟩ := htells.eq_nil_of_none
  exact ⟨rfl, Array.toList_inj.1 (by simpa [Source.elements] using h.items_eq), hsource⟩

/-- Exhaustion is for good. -/
theorem exhausted (h : b.Takes told b') (hb : b.exhausted = true) : b'.exhausted = true :=
  Option.isNone_iff_eq_none.2 (h.eq_of_exhausted (Option.isNone_iff_eq_none.1 hb)).2.2

end Takes

/-- Taking in a haul is taking in what the script told. -/
theorem takes_absorb_draw {b : Buffer α} {script : Source α} (hb : b.source = some script)
    (limit : Option Nat) :
    ∃ told, b.Takes told { b.absorb (script.draw limit) with source := (script.draw limit).left } ∧
      Source.failures told = (script.draw limit).stop.failure?.toList := by
  obtain ⟨told, htells, helements, hpulls, hfailures⟩ := script.tells_draw limit
  exact ⟨told, ⟨rfl, rfl, by simp [absorb, hpulls], by simp [absorb, helements], hb ▸ htells⟩,
    hfailures⟩

/-- Any number of pulls, of which none fails but the last, and that one exactly when it is
raised. -/
def Pulled (b : Buffer α) (fault : Option Fault) (b' : Buffer α) : Prop :=
  ∃ told, b.Takes told b' ∧ Source.failures told = (fault.bind Fault.source?).toList

/-- **Every failure is delivered, once, to whoever made the pull.** -/
def pulling : Judgement (Buffer α) :=
  .ofRelation Pulled (fun b => ⟨[], .refl b, rfl⟩) fun _ _ _ _ ⟨told, h, hf⟩ ⟨told', h', hf'⟩ =>
    ⟨told ++ told', h.trans h', by rw [Source.failures_append, hf, hf']; rfl⟩

/-- A buffer whose source has been dropped is not filled. -/
theorem run_fill_of_none {b : Buffer α} (hb : b.source = none) (limit : Option Nat) :
    (fill limit).run b = .ok () b := by
  simp [fill, EStateM.run, hb]

/-- Filling takes in one haul, and ends as the haul did. -/
theorem run_fill_of_some {b : Buffer α} {script : Source α} (hb : b.source = some script)
    (limit : Option Nat) :
    (fill limit).run b =
      match (script.draw limit).stop with
      | .satisfied => .ok () (b.absorb (script.draw limit))
      | .exhausted => .ok () (b.absorb (script.draw limit)).close
      | .failed m => .error (.source m) (b.absorb (script.draw limit)) := by
  cases h : (script.draw limit).stop <;> simp only [fill, EStateM.run, hb, h]

theorem pulling_fill (limit : Option Nat) (b : Buffer α) : pulling.Holds (fill limit) b := by
  rcases hb : b.source with _ | script
  · exact Judgement.ofRelation_of_run (run_fill_of_none hb limit) ⟨[], .refl b, rfl⟩
  · obtain ⟨told, h, hf⟩ := takes_absorb_draw hb limit
    have hrun := run_fill_of_some hb limit
    rcases hs : (script.draw limit).stop with _ | m | _
    · rw [hs] at hrun hf
      exact Judgement.ofRelation_of_run hrun ⟨told, by simpa [Haul.left, hs, absorb] using h, hf⟩
    · rw [hs] at hrun hf
      exact Judgement.ofRelation_of_run hrun
        ⟨told, by simpa [Haul.left, hs, absorb] using h, hf⟩
    -- Closing the buffer logs, and logging is no pull.
    · rw [hs] at hrun hf
      have hclose : b.Takes told (b.absorb (script.draw limit)).close :=
        Takes.of_record (by simpa [Haul.left, hs] using h) _
      exact Judgement.ofRelation_of_run hrun ⟨told, hclose, hf⟩

/-- Logging is allowed at any time. -/
theorem pulling_record (event : Event) (b : Buffer α) :
    pulling.Holds (modify (·.record event) : Peeking α Unit) b :=
  Judgement.ofRelation_of_run rfl ⟨[], .of_record (.refl b) event, rfl⟩

theorem pulling_get (b : Buffer α) : pulling.Holds (get : Peeking α (Buffer α)) b :=
  Judgement.ofRelation_of_run rfl ⟨[], .refl b, rfl⟩

theorem pulling_ensure (target : Nat) (b : Buffer α) : pulling.Holds (ensure target) b :=
  pulling.seq (pulling_get b) fun _ _ _ => pulling.seq (pulling_fill _ _) fun _ t _ =>
    pulling.map (pulling_get t) _

theorem pulling_fetch (target : Nat) (b : Buffer α) : pulling.Holds (fetch target) b :=
  pulling.seq (pulling_ensure target b) fun _ t _ => pulling.map (pulling_get t) _

theorem pulling_drain (b : Buffer α) : pulling.Holds drain b :=
  pulling.seq (pulling_get b) fun _ _ _ => pulling.seq (pulling_fill _ _) fun _ t _ =>
    pulling.map (pulling_get t) _

theorem pulling_text (b : Buffer α) : pulling.Holds text b := by
  have htell (t : Buffer α) : pulling.Holds (do return (← get).items.toList : Peeking α _) t :=
    pulling.map (pulling_get t) _
  exact pulling.seq (pulling_drain b) fun pulled t _ => pulling.ite
    (fun _ => pulling.seq (pulling_record _ t) fun _ u _ => htell u) fun _ => htell t

end Buffer

end Rewind
