import Rewind.Proofs.Logging

/-!
# Sequences open alike

A sequence that cannot fail can be opened in three ways (`Opening.overSequence`): directly, with its
first answer taken in by hand; as a source of elements, which is asked for the first one like for
any other; and as a source of results of which none is an error. **All three come to the same cursor
over the same buffer after one pull, and so to the same in every session**
(`sequences_open_alike`), whatever the sequence would answer after it has once had nothing to give.

That a sequence is asked no more after this is what closing the buffer means: the source is dropped,
so no later command can reach it (`Session.pulls_run_of_exhausted`). And where no pull fails, no
command can fail with a failure of the source.
-/

namespace Rewind

variable {α : Type}

/-! ### The source over a sequence -/

/-- Results of which none is an error are elements. -/
theorem Source.ofResults_map_ok (xs : List (Option α)) :
    ofResults (xs.map (Option.map Except.ok)) = ofElements xs := by
  rw [ofResults, ofElements, List.map_map]
  refine List.map_congr_left fun x _ => ?_
  rcases x with _ | x <;> rfl

/-- A sequence that cannot fail does not. -/
theorem Source.failures_ofElements (xs : List (Option α)) : failures (ofElements xs) = [] := by
  rw [failures, List.filterMap_eq_nil_iff]
  intro entry hentry
  obtain ⟨x, -, rfl⟩ := List.mem_map.1 hentry
  rcases x with _ | x <;> rfl

/-! ### Three ways to open a cursor -/

namespace Opening

/-- The ways to open a cursor over a sequence that cannot fail: with its first answer taken in by
hand, as a source of elements, and as a source of results. -/
def overSequence (xs : List (Option α)) : List (Opening α) :=
  [.sequence xs, .source (.ofElements xs), .source (.ofResults (xs.map (Option.map Except.ok)))]

variable {o : Opening α} {xs : List (Option α)}

/-- Each asks the sequence for its answers. -/
theorem script_of_mem_overSequence (h : o ∈ overSequence xs) : o.script = .ofElements xs := by
  simp only [overSequence, List.mem_cons, List.not_mem_nil, or_false] at h
  rcases h with rfl | rfl | rfl
  · rfl
  · rfl
  · exact Source.ofResults_map_ok xs

/-- **Each opens the same cursor over the same buffer.** -/
theorem open?_of_mem_overSequence (h : o ∈ overSequence xs) (key : Nat) (config : Config)
    (keepsLines : Bool) :
    o.open? key config keepsLines = .ok (View.ofSequence key xs config keepsLines) := by
  have hdirect := (sequence xs).open?_eq key config keepsLines
  rw [o.open?_eq, script_of_mem_overSequence h]
  exact hdirect.symm

/-- What a cursor that is opened and then carried through some commands comes to. -/
def session? [LineElement α] [DecidableEq α] (o : Opening α) (key : Nat) (config : Config)
    (keepsLines : Bool) (commands : List (Command α)) :
    Except Fault (List (Outcome α) × Session α) :=
  (o.open? key config keepsLines).map fun v => (Session.start v).run commands

end Opening

/-! ### How a cursor begins -/

/-- How a cursor begins when the first answer of its source is `first`: after this one answer, on
the element it brought, or before an empty text with the buffer closed, which is all there is to
log. -/
structure View.Begins (v : View α) (first : Option α) (position : Option Position) : Prop where
  pulls_eq : v.buffer.pulls = 1
  items_eq : v.buffer.items.toList = first.toList
  exhausted_eq : v.buffer.exhausted = first.isNone
  log_eq : v.buffer.log.toList = if first.isNone then
    [Event.exhausted 0].filter v.buffer.listens else []
  index_eq : v.cursor.index = if first.isNone then -1 else 0
  reachedEnd_eq : v.cursor.reachedEnd = first.isNone
  position_eq : v.cursor.position = position

theorem Buffer.listens_close (b : Buffer α) : b.close.listens = b.listens := by
  funext event
  rw [listens, listens, config_close]

theorem View.begins_ofSequence (key : Nat) (xs : List (Option α)) (config : Config)
    (keepsLines : Bool) :
    (ofSequence key xs config keepsLines).Begins xs.head?.join (initial keepsLines) := by
  rcases hfirst : xs.head?.join with _ | x
  · have hseeded : Buffer.seeded key xs config = Buffer.close
        { Buffer.ofSource key (Source.ofElements xs.tail) config with pulls := 1 } := by
      rw [Buffer.seeded, hfirst]
    rw [ofSequence, hseeded]
    refine ⟨Buffer.pulls_close _, ?_, ?_, ?_, ?_, ?_, ?_⟩
    · rw [Buffer.items_close]
      rfl
    · rw [Buffer.exhausted, Buffer.source_close]
      rfl
    · have hlistens := Buffer.listens_close
        { Buffer.ofSource key (Source.ofElements xs.tail) config with pulls := 1 }
      simp only [hlistens, Option.isNone_none, if_true]
      rw [Buffer.close, Buffer.log_record]
      rfl
    · simp [Cursor.atStart, Buffer.ofSource]
    · simp [Cursor.atStart, Buffer.ofSource]
    · simp [Cursor.atStart, Buffer.ofSource]
  · have hseeded : Buffer.seeded key xs config =
        { Buffer.ofSource key (Source.ofElements xs.tail) config with
          pulls := 1, items := #[x] } := by
      rw [Buffer.seeded, hfirst]
    rw [ofSequence, hseeded]
    exact ⟨rfl, rfl, rfl, rfl, rfl, rfl, rfl⟩

/-- **Where no pull can fail, no command fails with a failure of the source.** -/
theorem Session.source_notMem_run [LineElement α] [DecidableEq α] {o : Opening α} {key : Nat}
    {config : Config} {keepsLines : Bool} {v : View α}
    (hopen : o.open? key config keepsLines = .ok v) (hscript : Source.failures o.script = [])
    (commands : List (Command α)) (message : String) :
    .failed (.source message) ∉ ((start v).run commands).1 := by
  rw [o.open?_eq] at hopen
  obtain ⟨⟨told, htakes, -⟩, -, -⟩ := View.of_open? hopen
  obtain ⟨told', htakes', hfailures⟩ := (start v).run_takes commands
  have hnone := (htakes.trans htakes').tells.failures_eq_nil hscript
  rw [Source.failures_append, List.append_eq_nil_iff, hfailures, List.filterMap_eq_nil_iff] at hnone
  exact fun hfailed => absurd (hnone.2 _ hfailed) nofun

/-- **Sequences open alike.** Opening a sequence that cannot fail always goes well, and comes to the
same in each of the three ways: the cursor begins as the first answer tells, and whatever commands
it is then carried through, these come out the same and leave the same session. None of them fails
with a failure of the source. A sequence that had nothing to give when it was first asked is never
asked again. -/
theorem sequences_open_alike [LineElement α] [DecidableEq α] (xs : List (Option α)) (key : Nat)
    (config : Config) (keepsLines : Bool) :
    (∃ v : View α, v.Begins xs.head?.join (View.initial keepsLines) ∧
      ∀ o ∈ Opening.overSequence xs, o.open? key config keepsLines = .ok v) ∧
    ∀ commands : List (Command α), ∃ outcomes s,
      (∀ o ∈ Opening.overSequence xs,
        o.session? key config keepsLines commands = .ok (outcomes, s)) ∧
      (∀ message, .failed (.source message) ∉ outcomes) ∧
      (xs.head?.join = none → s.buffer.pulls = 1) := by
  have hopen {o : Opening α} (ho : o ∈ Opening.overSequence xs) :=
    Opening.open?_of_mem_overSequence ho key config keepsLines
  have hbegins := View.begins_ofSequence key xs config keepsLines
  refine ⟨⟨_, hbegins, fun o => hopen⟩, fun commands => ?_⟩
  refine ⟨((Session.start (View.ofSequence key xs config keepsLines)).run commands).1,
    ((Session.start (View.ofSequence key xs config keepsLines)).run commands).2,
    fun o ho => ?_, fun message => ?_, fun hfirst => ?_⟩
  · rw [Opening.session?, hopen ho]
    rfl
  · have hdirect : Opening.sequence xs ∈ Opening.overSequence xs := List.mem_cons_self
    exact Session.source_notMem_run (hopen hdirect) (Source.failures_ofElements xs) commands message
  · rw [Session.pulls_run_of_exhausted]
    · exact hbegins.pulls_eq
    · exact hbegins.exhausted_eq.trans (by rw [hfirst]; rfl)

/-- A sequence that gives nothing when it is first asked and would go on after it. -/
theorem sequences_open_alike_resuming :
    ∃ (v : View Char) (outcomes : List (Outcome Char)) (s : Session Char),
      v.Begins none (some ⟨0, 0⟩) ∧
      (∀ o ∈ Opening.overSequence [none, some 'a'],
        o.open? 0 .quiet true = .ok v ∧
        o.session? 0 .quiet true [.apply 0 .readNext, .fork 0, .apply 1 .text] =
          .ok (outcomes, s)) ∧
      (∀ message, .failed (.source message) ∉ outcomes) ∧ s.buffer.pulls = 1 := by
  obtain ⟨⟨v, hbegins, hopen⟩, hsessions⟩ := sequences_open_alike [none, some 'a'] 0 .quiet true
  obtain ⟨outcomes, s, halike, hfailed, hpulls⟩ :=
    hsessions [.apply 0 .readNext, .fork 0, .apply 1 .text]
  exact ⟨v, outcomes, s, hbegins, fun o ho => ⟨hopen o ho, halike o ho⟩, hfailed, hpulls rfl⟩

end Rewind
