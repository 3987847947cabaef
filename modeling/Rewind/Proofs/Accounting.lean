import Rewind.Proofs.Moves
import Rewind.Proofs.Opening
import Rewind.Proofs.Sessions

/-!
# Accounting for the source

Whatever is asked of the cursors and the remainders over one buffer, in whatever order, every
entry of the script that has been pulled is accounted for: **an element is in the buffer, a
failure has been handed to the caller whose step made the pull, and an exhaustion has closed the
buffer for good** (`source_accounting`).

It is enough to see this for the steps that operations are made of: each makes some pulls, of
which none fails but the last, and that one exactly when the step raises its failure
(`Buffer.Pulled`). Everything that is put together from such steps makes pulls of the same kind,
operations (`View.pulling_run`) and commands (`Session.perform_takes`) alike.
-/

namespace Rewind

variable {α β : Type}

open Cursor

/-- Where nothing is pulled, no failure of the source is raised. -/
theorem Buffer.Pulled.of_eq {b b' : Buffer α} {fault : Option Fault} (hb : b' = b)
    (hfault : fault.bind Fault.source? = none) : b.Pulled fault b' :=
  ⟨[], hb ▸ .refl b, by rw [hfault]; rfl⟩

theorem Buffer.Pulled.trans {b b' b'' : Buffer α} {fault : Option Fault} (h : b.Pulled none b')
    (h' : b'.Pulled fault b'') : b.Pulled fault b'' := by
  obtain ⟨told, htakes, hfailures⟩ := h
  obtain ⟨told', htakes', hfailures'⟩ := h'
  refine ⟨told ++ told', htakes.trans htakes', ?_⟩
  rw [Source.failures_append, hfailures, hfailures']
  rfl

/-- Looks and moves are served with pulls that are accounted for. -/
theorem Buffer.serves_pulled : Serves (Pulled (α := α)) where
  refl _ := .of_eq rfl rfl
  trans _ _ _ _ h h' := h.trans h'
  refuse _ _ hfault := .of_eq rfl hfault
  ensure target b := Judgement.ofRelation_iff.1 (pulling_ensure target b)
  fetch target b := Judgement.ofRelation_iff.1 (pulling_fetch target b)

/-! ### Operations -/

namespace View

/-- What an action on a cursor pulls is accounted for. -/
def pulling : Judgement (View α) :=
  .ofRelation (fun v fault w => v.buffer.Pulled fault w.buffer) (fun _ => .of_eq rfl rfl)
    fun _ _ _ _ ⟨told, h, hf⟩ ⟨told', h', hf'⟩ =>
      ⟨told ++ told', h.trans h', by rw [Source.failures_append, hf, hf']; rfl⟩

theorem pulling_peek (c : Cursor) (offset : Int) (b : Buffer α) :
    Buffer.pulling.Holds (c.peek offset) b :=
  Judgement.peek_of_fetch Buffer.pulling_fetch c offset b

theorem pulling_current (c : Cursor) (b : Buffer α) :
    Buffer.pulling.Holds (c.current (α := α)) b :=
  Judgement.current_of_fetch Buffer.pulling_fetch (fun _ _ hfault => .of_eq rfl hfault) c b

variable [LineElement α]

theorem pulling_moveBy (offset : Int) (v : View α) : pulling.Holds (moveBy offset) v :=
  Buffer.serves_pulled.moveBy offset v

theorem pulling_moveTo (place : Location) (offset : Int) (v : View α) :
    pulling.Holds (moveTo place offset) v :=
  Buffer.serves_pulled.moveTo place offset v

theorem pulling_covers : Judgement.Covers (pulling (α := α)) where
  toPeeks := Buffer.serves_pulled.peeks
  text v := Buffer.serves_pulled.look (Judgement.ofRelation_iff.1 (Buffer.pulling_text v.buffer))
  moveBy := pulling_moveBy

/-- **What an operation pulls is accounted for.** -/
theorem pulling_run [DecidableEq α] (operation : Operation α) (v : View α) :
    pulling.Holds operation.run v := by
  refine pulling_covers.run operation v (fun hglance => ?_) fun place offset _ =>
    pulling_moveTo place offset v
  obtain ⟨reply, hrun⟩ := hglance.run_eq v
  exact Judgement.ofRelation_of_run hrun (.of_eq rfl rfl)

end View

/-! ### Sessions -/

/-- The message of a failure of the source that a caller was handed. -/
def Outcome.source? : Outcome α → Option String
  | .answered _ => none
  | .failed fault => fault.source?

namespace Session

variable [LineElement α] [DecidableEq α]

/-- A command makes some pulls, of which none fails but the last, and that one exactly when the
command fails with it. -/
theorem perform_takes (s : Session α) (command : Command α) :
    ∃ told, s.buffer.Takes told (s.perform command).2.buffer ∧
      Source.failures told = (s.perform command).1.source?.toList := by
  have hoperation (operation : Operation α) (c : Cursor) :=
    Judgement.ofRelation_iff.1 (View.pulling_run operation ⟨s.buffer, c⟩)
  have hfetch (r : Remaining) :=
    Judgement.ofRelation_iff.1 (Buffer.pulling_fetch r.landing s.buffer)
  refine perform_cases (P := fun r => ∃ told, s.buffer.Takes told r.2.buffer ∧
    Source.failures told = r.1.source?.toList) s command
      ?absent ?applied ?failed ?forked ?begun ?advanced ?ended ?broken
  case absent =>
    intro _
    exact ⟨[], .refl _, rfl⟩
  case applied =>
    intro i operation c reply v _ _ hrun
    exact (hoperation operation c).of_ok hrun
  case failed =>
    intro i operation c fault v _ _ hrun
    exact (hoperation operation c).of_error hrun
  case forked =>
    intro i c change _ _
    exact ⟨[], .of_record (.refl _) _, rfl⟩
  case begun =>
    intro i c withPrevious withCurrent _ _
    exact ⟨[], .refl _, rfl⟩
  case advanced =>
    intro j r x b _ _ hrun
    exact (hfetch r).of_ok hrun
  case ended =>
    intro j r b _ _ hrun
    exact (hfetch r).of_ok hrun
  case broken =>
    intro j r fault b _ _ hrun
    exact (hfetch r).of_error hrun

/-- The failures among the pulls of a run are those its commands failed with, in order. -/
theorem run_takes (s : Session α) (commands : List (Command α)) :
    ∃ told, s.buffer.Takes told (s.run commands).2.buffer ∧
      Source.failures told = (s.run commands).1.filterMap Outcome.source? := by
  induction commands generalizing s with
  | nil => exact ⟨[], .refl _, rfl⟩
  | cons command rest ih =>
    obtain ⟨told, htakes, hfailures⟩ := s.perform_takes command
    obtain ⟨told', htakes', hfailures'⟩ := ih (s.perform command).2
    refine ⟨told ++ told', htakes.trans htakes', ?_⟩
    rw [Source.failures_append, hfailures, hfailures', run_cons, List.filterMap_cons]
    rcases (s.perform command).1.source? with _ | m <;> rfl

/-- **What is so of every head stays so**, if it stays so while the buffer grows, holds of a head
without its line and column, and is kept by operations. -/
theorem heads_perform {P : Cursor → Buffer α → Prop}
    (hgrow : ∀ c b b' told, Buffer.Takes b told b' → P c b → P c b')
    (hplain : ∀ c b, P c b → P c.plain b)
    (hrun : ∀ (operation : Operation α) v, P v.cursor v.buffer →
      Action.Ends (fun _ w => P w.cursor w.buffer) (operation.run.run v))
    {s : Session α} (hs : ∀ c ∈ s.cursors, P c s.buffer) (command : Command α) :
    ∀ c ∈ (s.perform command).2.cursors, P c (s.perform command).2.buffer := by
  obtain ⟨told, htakes, -⟩ := s.perform_takes command
  revert htakes
  refine perform_cases (P := fun r => s.buffer.Takes told r.2.buffer →
    ∀ c ∈ r.2.cursors, P c r.2.buffer) s command
    ?absent ?applied ?failed ?forked ?begun ?advanced ?ended ?broken
  case absent | begun | advanced | ended | broken =>
    intros
    rename_i htakes d hd
    exact hgrow _ _ _ _ htakes (hs d hd)
  case applied =>
    intro i operation c reply w _ hc hoperation htakes d hd
    rcases List.mem_or_eq_of_mem_set hd with hd | rfl
    · exact hgrow _ _ _ _ htakes (hs d hd)
    · exact (hrun operation ⟨s.buffer, c⟩ (hs c (List.mem_of_getElem? hc))).of_ok hoperation
  case failed =>
    intro i operation c fault w _ hc hoperation htakes d hd
    rcases List.mem_or_eq_of_mem_set hd with hd | rfl
    · exact hgrow _ _ _ _ htakes (hs d hd)
    · exact (hrun operation ⟨s.buffer, c⟩ (hs c (List.mem_of_getElem? hc))).of_error hoperation
  case forked =>
    intro i c change hcommand hc htakes d hd
    have hhead := hs c (List.mem_of_getElem? hc)
    rw [List.mem_append, List.mem_singleton] at hd
    rcases hd with hd | rfl
    · exact hgrow _ _ _ _ htakes (hs d hd)
    · refine hgrow _ _ _ _ htakes ?_
      rcases hcommand with ⟨-, rfl⟩ | ⟨-, rfl⟩
      · exact hhead
      · exact hplain c s.buffer hhead

theorem heads_run {P : Cursor → Buffer α → Prop}
    (hgrow : ∀ c b b' told, Buffer.Takes b told b' → P c b → P c b')
    (hplain : ∀ c b, P c b → P c.plain b)
    (hrun : ∀ (operation : Operation α) v, P v.cursor v.buffer →
      Action.Ends (fun _ w => P w.cursor w.buffer) (operation.run.run v))
    {s : Session α} (hs : ∀ c ∈ s.cursors, P c s.buffer) (commands : List (Command α)) :
    ∀ c ∈ (s.run commands).2.cursors, P c (s.run commands).2.buffer := by
  induction commands generalizing s with
  | nil => exact hs
  | cons command rest ih => exact ih (heads_perform hgrow hplain hrun hs command)

/-- A source that has been dropped is not pulled again. -/
theorem pulls_run_of_exhausted {s : Session α} (h : s.buffer.exhausted = true)
    (commands : List (Command α)) : (s.run commands).2.buffer.pulls = s.buffer.pulls := by
  obtain ⟨told, htakes, -⟩ := s.run_takes commands
  obtain ⟨rfl, -, -⟩ := htakes.eq_of_exhausted (Option.isNone_iff_eq_none.1 h)
  exact htakes.pulls_eq

/-! ### Reached sessions -/

/-- Whether a session is one that a cursor opened over a script is brought to by some commands. -/
def Reached (script : Source α) (s : Session α) : Prop :=
  ∃ (o : Opening α) (key : Nat) (config : Config) (keepsLines : Bool) (v : View α)
    (commands : List (Command α)),
    o.script = script ∧ o.open? key config keepsLines = .ok v ∧ s = ((start v).run commands).2

namespace Reached

variable {script : Source α} {s : Session α}

/-- More commands lead from one reached session to another. -/
theorem run (h : s.Reached script) (commands : List (Command α)) :
    (s.run commands).2.Reached script := by
  obtain ⟨o, key, config, keepsLines, v, before, hscript, hopen, rfl⟩ := h
  exact ⟨o, key, config, keepsLines, v, before ++ commands, hscript, hopen,
    by rw [run_append]⟩

/-- The buffer of a reached session has come from the script by some pulls. -/
theorem takes (h : s.Reached script) :
    ∃ key config told, (Buffer.ofSource key script config).Takes told s.buffer := by
  obtain ⟨o, key, config, keepsLines, v, commands, rfl, hopen, rfl⟩ := h
  rw [o.open?_eq] at hopen
  obtain ⟨⟨told, hb, -⟩, -, -⟩ := View.of_open? hopen
  obtain ⟨told', hb', -⟩ := (start v).run_takes commands
  exact ⟨key, config, told ++ told', hb.trans hb'⟩

/-- **All that a reached session can ever come to hold are the elements of its script.** -/
theorem whole_eq (h : s.Reached script) : s.buffer.whole = script.yield := by
  obtain ⟨key, config, told, hb⟩ := h.takes
  exact hb.whole_eq

end Reached

/-- Everything that the pulls of a session were answered with is accounted for. -/
structure Accounted (script : Source α) (outcomes : List (Outcome α)) (s : Session α) : Prop where
  /-- The buffer is what the pulls brought, in order. -/
  items_eq : s.buffer.items.toList = Source.elements (script.answers s.buffer.pulls)
  /-- The failures handed out are those the pulls met, in order. -/
  delivered_eq : outcomes.filterMap Outcome.source? =
    Source.failures (script.answers s.buffer.pulls)
  /-- The buffer is closed exactly when a pull has reported exhaustion. -/
  exhausted_iff : s.buffer.exhausted = true ↔ .exhaustion ∈ script.answers s.buffer.pulls
  /-- The pull that closed the buffer was the last one, and no later command makes another. -/
  closed : s.buffer.exhausted = true →
    (∃ before, script.answers s.buffer.pulls = before ++ [.exhaustion] ∧ .exhaustion ∉ before) ∧
      ∀ later, (s.run later).2.buffer.pulls = s.buffer.pulls
  /-- A failure goes to the command that made the pull. -/
  caller : ∀ command, ∃ fresh,
    script.answers (s.perform command).2.buffer.pulls = script.answers s.buffer.pulls ++ fresh ∧
      Source.failures fresh = (s.perform command).1.source?.toList

/-- A session whose buffer has come from a script by pulls that delivered their failures is
accounted for. -/
theorem Accounted.of_takes {key : Nat} {script : Source α} {config : Config}
    {told : List (Entry α)} {outcomes : List (Outcome α)} {s : Session α}
    (h : (Buffer.ofSource key script config).Takes told s.buffer)
    (hfailures : Source.failures told = outcomes.filterMap Outcome.source?) :
    s.Accounted script outcomes := by
  have hanswers {b : Buffer α} {told : List (Entry α)}
      (h : (Buffer.ofSource key script config).Takes told b) : script.answers b.pulls = told := by
    have hpulls : b.pulls = told.length := h.pulls_eq.trans (Nat.zero_add _)
    rw [hpulls, ← h.tells.eq_answers rfl]
  have hexhausted : s.buffer.exhausted = true ↔ s.buffer.source = none := Option.isNone_iff_eq_none
  refine ⟨?_, ?_, ?_, fun hclosed => ⟨?_, pulls_run_of_exhausted hclosed⟩, fun command => ?_⟩
  · rw [hanswers h]
    exact h.items_eq
  · rw [hanswers h, hfailures]
  · rw [hanswers h, hexhausted]
    exact h.tells.eq_none_iff
  -- The source has been dropped, so the last answer reported exhaustion and no earlier one did.
  · rw [hanswers h]
    have htells := h.tells
    rw [hexhausted.1 hclosed] at htells
    exact htells.exhaustion_last rfl
  · obtain ⟨fresh, h', hfresh⟩ := s.perform_takes command
    exact ⟨fresh, by rw [hanswers (h.trans h'), hanswers h], hfresh⟩

end Session

/-- **Nothing is lost, duplicated, reordered or masked.** Opening a cursor fails only with the
failure that its one pull met; and whatever is then asked of the cursors and the remainders over
its buffer, everything pulled is accounted for after every command. -/
theorem source_accounting [LineElement α] [DecidableEq α] (o : Opening α) (key : Nat)
    (config : Config) (keepsLines : Bool) :
    match o.open? key config keepsLines with
    | .error fault => ∃ m, fault = .source m ∧ o.script.answers 1 = [.failure m]
    | .ok v => ∀ commands : List (Command α),
        ((Session.start v).run commands).2.Accounted o.script
          ((Session.start v).run commands).1 := by
  rw [o.open?_eq]
  split
  · next fault hopen =>
    obtain ⟨m, rest, hscript, rfl⟩ := View.open?_eq_error_iff.1 hopen
    exact ⟨m, rfl, by rw [hscript]; rfl⟩
  · next v hopen =>
    intro commands
    obtain ⟨⟨told, htakes, hfailures⟩, -, -⟩ := View.of_open? hopen
    obtain ⟨told', htakes', hfailures'⟩ := (Session.start v).run_takes commands
    refine .of_takes (htakes.trans htakes') ?_
    rw [Source.failures_append, hfailures, hfailures', List.nil_append]

end Rewind
