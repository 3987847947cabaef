import Rewind.Proofs.Accounting
import Rewind.Proofs.Muting

/-!
# What a log tells

What there is to log can be told from a run without a logger. `Session.news` tells it for one
command: the index at which a cursor was forked, the number of elements when the source ran out
under the command, the number of elements that reading the whole text brought. `Session.chronicle`
puts the news of a run in order, and **the log is this chronicle, as far as the logger listens**
(`Session.run_log`).

The source runs out once, and nothing is pulled after that. So the chronicle tells of the end once
(`Session.collect_closing`), by a number that no later pull can make wrong; and since a text that
brings elements also meets the end (`Session.closing_of_materialising`), it tells of at most one.

Which levels reach a logger, and what is written for an event, is said in full (`Event.reaches`,
`Event.written`), so a log can be compared to the lines themselves.
-/

namespace Rewind

variable {α β : Type}

open Cursor

/-! ### What an action adds to the log -/

/-- Events of one level, those of another left out. -/
theorem Event.filter_level {events : List Event} {level : Level}
    (h : ∀ e ∈ events, e.level = level) (other : Level) :
    events.filter (·.level = other) = if level = other then events else [] := by
  split
  · next heq => exact List.filter_eq_self.2 fun e he => decide_eq_true (heq ▸ h e he)
  · next hne =>
    refine List.filter_eq_nil_iff.2 fun e he => ?_
    rw [h e he]
    simpa using hne

namespace Buffer

/-- What there is to tell of the end of the source between two states of a buffer: that it has come,
and how many elements there were. -/
def closing (b b' : Buffer α) : List Event :=
  if !b.exhausted && b'.exhausted then [.exhausted b'.items.size] else []

variable {b b' b'' : Buffer α}

theorem closing_of_open (h : b'.exhausted = false) : b.closing b' = [] := by
  simp [closing, h]

theorem closing_of_exhausted (h : b.exhausted = true) : b.closing b' = [] := by
  simp [closing, h]

@[simp] theorem closing_self (b : Buffer α) : b.closing b = [] := by
  rcases h : b.exhausted
  · exact closing_of_open h
  · exact closing_of_exhausted h

/-- A buffer that has not pulled yet is open. -/
theorem closing_ofSource (key : Nat) (script : Source α) (config : Config) (b : Buffer α) :
    (ofSource key script config).closing b =
      if b.exhausted then [.exhausted b.items.size] else [] := by
  simp [closing, exhausted, ofSource]

theorem length_closing_le (b b' : Buffer α) : (b.closing b').length ≤ 1 := by
  rw [closing]
  split <;> simp

theorem level_of_mem_closing {e : Event} (h : e ∈ b.closing b') : e.level = .debug := by
  unfold closing at h
  split at h
  · rw [List.mem_singleton.1 h]
    rfl
  · exact absurd h List.not_mem_nil

/-- The source runs out once: what there is to tell of two stretches of pulls is told in one of
them. -/
theorem closing_trans {told told' : List (Entry α)} (h : b.Takes told b')
    (h' : b'.Takes told' b'') : b.closing b'' = b.closing b' ++ b'.closing b'' := by
  rcases hb : b.exhausted
  · rcases hb' : b'.exhausted
    · simp [closing, hb, hb']
    · have hsame := h'.eq_of_exhausted (Option.isNone_iff_eq_none.1 hb')
      simp [closing, hb, hb', h'.exhausted hb', hsame.2.1]
  · rw [closing_of_exhausted hb, closing_of_exhausted hb, closing_of_exhausted (h.exhausted hb)]
    rfl

/-- Pulls do not change what is listened to. -/
theorem Takes.listens_eq {told : List (Entry α)} (h : b.Takes told b') :
    b'.listens = b.listens := by
  funext event
  rw [listens, listens, h.config_eq]

/-- Some pulls, after which the log tells of the end of the source if it has come, and of nothing
else. -/
structure Notes (b b' : Buffer α) : Prop where
  takes : ∃ told, b.Takes told b'
  log_eq : b'.log.toList = b.log.toList ++ (b.closing b').filter b.listens

theorem Notes.refl (b : Buffer α) : b.Notes b :=
  ⟨⟨[], .refl b⟩, by simp⟩

theorem Notes.trans (h : b.Notes b') (h' : b'.Notes b'') : b.Notes b'' := by
  obtain ⟨told, htakes⟩ := h.takes
  obtain ⟨told', htakes'⟩ := h'.takes
  refine ⟨⟨told ++ told', htakes.trans htakes'⟩, ?_⟩
  rw [h'.log_eq, h.log_eq, htakes.listens_eq, closing_trans htakes htakes', List.filter_append,
    List.append_assoc]

/-- **Actions on a buffer that log nothing but the end of the source.** -/
def noting : Judgement (Buffer α) :=
  .ofRelation (fun b _ b' => b.Notes b') Notes.refl fun _ _ _ _ h h' => h.trans h'

theorem log_record (b : Buffer α) (event : Event) :
    (b.record event).log.toList = b.log.toList ++ [event].filter b.listens := by
  rw [record]
  rcases hlistens : b.listens event
  · simp [hlistens]
  · simp [hlistens]

theorem noting_fill (limit : Option Nat) (b : Buffer α) : noting.Holds (fill limit) b := by
  have hpulled := Judgement.ofRelation_iff.1 (pulling_fill limit b)
  rcases hb : b.source with _ | script
  · exact Judgement.ofRelation_of_run (run_fill_of_none hb limit) (.refl b)
  have hrun := run_fill_of_some hb limit
  have hopen : b.closing (b.absorb (script.draw limit)) = [] := closing_of_open rfl
  rcases hs : (script.draw limit).stop with _ | m | _ <;> rw [hs] at hrun
  · obtain ⟨told, htakes, -⟩ := hpulled.of_ok hrun
    exact Judgement.ofRelation_of_run hrun ⟨⟨told, htakes⟩, by rw [hopen]; simp [absorb]⟩
  · obtain ⟨told, htakes, -⟩ := hpulled.of_error hrun
    exact Judgement.ofRelation_of_run hrun ⟨⟨told, htakes⟩, by rw [hopen]; simp [absorb]⟩
  -- Here the buffer is closed, which is what there is to tell.
  · obtain ⟨told, htakes, -⟩ := hpulled.of_ok hrun
    refine Judgement.ofRelation_of_run hrun ⟨⟨told, htakes⟩, ?_⟩
    have hclosing : b.closing (b.absorb (script.draw limit)).close =
        [.exhausted (b.absorb (script.draw limit)).items.size] := by
      simp [closing, exhausted, hb]
    rw [hclosing, close, log_record]
    rfl

theorem noting_get (b : Buffer α) : noting.Holds (get : Peeking α (Buffer α)) b :=
  Judgement.ofRelation_of_run rfl (.refl b)

theorem noting_ensure (target : Nat) (b : Buffer α) : noting.Holds (ensure target) b :=
  noting.seq (noting_get b) fun _ _ _ => noting.seq (noting_fill _ _) fun _ t _ =>
    noting.map (noting_get t) _

theorem noting_fetch (target : Nat) (b : Buffer α) : noting.Holds (fetch target) b :=
  noting.seq (noting_ensure target b) fun _ t _ => noting.map (noting_get t) _

/-- Looks and moves log nothing but the end of the source. -/
theorem serves_notes : Serves (fun (b : Buffer α) _ b' => b.Notes b') where
  refl := Notes.refl
  trans _ _ _ _ h h' := h.trans h'
  refuse b _ _ := .refl b
  ensure target b := Judgement.ofRelation_iff.1 (noting_ensure target b)
  fetch target b := Judgement.ofRelation_iff.1 (noting_fetch target b)

/-- What there is to tell of the elements that came between two states of a buffer, if reading the
whole text was what brought them. -/
def materialising (b b' : Buffer α) : List Event :=
  if b.items.size < b'.items.size then [.materialised (b'.items.size - b.items.size)] else []

theorem level_of_mem_materialising {e : Event} (h : e ∈ b.materialising b') : e.level = .warn := by
  unfold materialising at h
  split at h
  · rw [List.mem_singleton.1 h]
    rfl
  · exact absurd h List.not_mem_nil

/-- **Taking the whole text** also logs how many elements that brought. A failure on the way leaves
this untold. -/
theorem log_text (b : Buffer α) :
    Action.Ends (fun fault b' => b'.log.toList = b.log.toList ++
      (b.closing b' ++ if fault.isNone then b.materialising b' else []).filter b.listens)
      (text.run b) := by
  have hnotes := Judgement.ofRelation_iff.1 (noting_fill none b)
  rw [run_text]
  rcases hrun : (fill none).run b with ⟨_, t⟩ | ⟨fault, t⟩
  · obtain ⟨⟨told, htakes⟩, hlog⟩ := hnotes.of_ok hrun
    change (if 0 < t.items.size - b.items.size then t.record _ else t).log.toList = _
    by_cases hmore : b.items.size < t.items.size
    · rw [if_pos (Nat.sub_pos_of_lt hmore), log_record, hlog, htakes.listens_eq,
        List.append_assoc, ← List.filter_append]
      simp [materialising, closing, exhausted, hmore]
    · have hnone : ¬ 0 < t.items.size - b.items.size := by omega
      rw [if_neg hnone, hlog]
      simp [materialising, hmore]
  · simpa [Action.Ends] using (hnotes.of_error hrun).log_eq

/-- A text that brought elements has reached the end of the source. -/
theorem closing_of_text {xs : List α} (h : text.run b = .ok xs b')
    (hmore : b.items.size < b'.items.size) : b.closing b' = [.exhausted b'.items.size] := by
  obtain ⟨⟨told, htakes, -⟩, hsource, -⟩ := of_run_text h
  rcases hb : b.exhausted
  · simp [closing, hb, show b'.exhausted = true from Option.isNone_iff_eq_none.2 hsource]
  · have hsame := htakes.eq_of_exhausted (Option.isNone_iff_eq_none.1 hb)
    rw [hsame.2.1] at hmore
    exact absurd hmore (Nat.lt_irrefl _)

end Buffer

namespace View

/-- **Actions on a cursor that log nothing but the end of the source.** -/
def noting : Judgement (View α) :=
  .ofRelation (fun v _ w => v.buffer.Notes w.buffer) (fun v => .refl v.buffer)
    fun _ _ _ _ h h' => h.trans h'

variable [LineElement α]

theorem noting_moveBy (offset : Int) (v : View α) : noting.Holds (moveBy offset) v :=
  Buffer.serves_notes.moveBy offset v

theorem noting_moveTo (place : Location) (offset : Int) (v : View α) :
    noting.Holds (moveTo place offset) v :=
  Buffer.serves_notes.moveTo place offset v

theorem noting_advances : Judgement.Advances (noting (α := α)) where
  toPeeks := Buffer.serves_notes.peeks
  moveAhead offset _ := noting_moveBy offset

/-- **No operation but taking the whole text logs anything but the end of the source.** -/
theorem noting_run [DecidableEq α] {operation : Operation α}
    (htext : operation ≠ .text) (v : View α) : noting.Holds operation.run v := by
  cases operation with
  | text => exact absurd rfl htext
  | slot | location | sourceIsEmpty | isAtStart | isStartOfLine => exact Buffer.Notes.refl v.buffer
  | moveBy offset => exact noting.map (noting_moveBy offset v) _
  | rewind count =>
    refine noting.map (noting.seq (noting.orOverflow (Buffer.Notes.refl v.buffer) _) ?_) _
    exact fun i t _ => noting_moveBy (-i) t
  | moveTo place offset => exact noting.map (noting_moveTo place offset v) _
  | reset place => exact noting.map (noting_moveTo place 0 v) _
  | _ => exact noting_advances.run (by trivial) v

end View

/-! ### What a run adds to the log -/

namespace Session

/-- What there is to tell of a fork: where the head was. -/
def forking (s : Session α) : Command α → List Event
  | .fork i | .forkPlain i => (s.cursors[i]?.map fun c => .forked c.index).toList
  | _ => []

/-- What there is to tell of taking the whole text, unless it fails. -/
def materialising (s : Session α) (command : Command α) (r : Outcome α × Session α) : List Event :=
  match command, r.1 with
  | .apply _ .text, .answered _ => s.buffer.materialising r.2.buffer
  | _, _ => []

/-- **All there is to tell of a command** that came out as `r`, in the order in which it happens. -/
def news (s : Session α) (command : Command α) (r : Outcome α × Session α) : List Event :=
  s.forking command ++ s.buffer.closing r.2.buffer ++ s.materialising command r

theorem forking_of_lacks {s : Session α} {command : Command α} (h : s.Lacks command) :
    s.forking command = [] := by
  cases command with
  | fork i | forkPlain i =>
    simp only [forking, show s.cursors[i]? = none from h, Option.map_none, Option.toList_none]
  | _ => rfl

theorem materialising_of_size_eq {s : Session α} {r : Outcome α × Session α}
    (h : r.2.buffer.items.size = s.buffer.items.size) (command : Command α) :
    s.materialising command r = [] := by
  have hnone : s.buffer.materialising r.2.buffer = [] := if_neg (by omega)
  unfold materialising
  split
  · exact hnone
  · rfl

theorem materialising_of_ne_text {operation : Operation α} (h : operation ≠ .text) (s : Session α)
    (r : Outcome α × Session α) (i : Nat) : s.materialising (.apply i operation) r = [] := by
  cases operation with
  | text => exact absurd rfl h
  | _ => rfl

theorem materialising_of_failed (s : Session α) (command : Command α) (fault : Fault)
    (t : Session α) : s.materialising command (.failed fault, t) = [] := by
  unfold materialising
  split
  · next h => cases h
  · rfl

/-- Taking a text is no fork. -/
theorem forking_of_materialising {s : Session α} {command : Command α}
    {r : Outcome α × Session α} (h : s.materialising command r ≠ []) : s.forking command = [] := by
  cases command with
  | fork i => exact absurd rfl h
  | forkPlain i => exact absurd rfl h
  | _ => rfl

theorem length_materialising_le (s : Session α) (command : Command α)
    (r : Outcome α × Session α) : (s.materialising command r).length ≤ 1 := by
  unfold materialising Buffer.materialising
  split
  · split <;> simp
  · simp

theorem level_of_mem_forking {s : Session α} {command : Command α} {e : Event}
    (h : e ∈ s.forking command) : e.level = .verbose := by
  have hfork (i : Nat) (h : e ∈ (s.cursors[i]?.map fun c => Event.forked c.index).toList) :
      e.level = .verbose := by
    obtain ⟨c, -, rfl⟩ := Option.map_eq_some_iff.1 (Option.mem_toList.1 h)
    rfl
  cases command with
  | fork i => exact hfork i h
  | forkPlain i => exact hfork i h
  | _ => exact absurd h List.not_mem_nil

theorem level_of_mem_materialising {s : Session α} {command : Command α}
    {r : Outcome α × Session α} {e : Event} (h : e ∈ s.materialising command r) :
    e.level = .warn := by
  unfold materialising at h
  split at h
  · exact Buffer.level_of_mem_materialising h
  · exact absurd h List.not_mem_nil

/-- The news of a command, level by level. -/
theorem filter_news (s : Session α) (command : Command α) (r : Outcome α × Session α) :
    (s.news command r).filter (·.level = .verbose) = s.forking command ∧
    (s.news command r).filter (·.level = .debug) = s.buffer.closing r.2.buffer ∧
    (s.news command r).filter (·.level = .warn) = s.materialising command r := by
  simp only [news, List.filter_append, Event.filter_level fun _ => level_of_mem_forking,
    Event.filter_level fun _ => Buffer.level_of_mem_closing,
    Event.filter_level fun _ => level_of_mem_materialising]
  simp

variable [LineElement α] [DecidableEq α]

/-- **A command logs its news**, as far as the logger listens. -/
theorem perform_log (s : Session α) (command : Command α) :
    (s.perform command).2.buffer.log.toList =
      s.buffer.log.toList ++ (s.news command (s.perform command)).filter s.buffer.listens := by
  have hfetch (r : Remaining) :=
    Judgement.ofRelation_iff.1 (Buffer.noting_fetch r.landing s.buffer)
  refine perform_cases (P := fun r => r.2.buffer.log.toList =
    s.buffer.log.toList ++ (s.news command r).filter s.buffer.listens) s command
      ?absent ?applied ?failed ?forked ?begun ?advanced ?ended ?broken
  case absent =>
    intro hlacks
    simp [news, forking_of_lacks hlacks, materialising_of_size_eq]
  case applied =>
    rintro i operation c reply v rfl - hrun
    by_cases htext : operation = .text
    · subst htext
      obtain ⟨xs, hlook, -⟩ := Action.run_map_eq_ok.1 hrun
      simpa [news, forking, materialising] using s.buffer.log_text.of_ok (run_look_eq_ok.1 hlook).1
    · have hnotes := (Judgement.ofRelation_iff.1 (View.noting_run htext ⟨s.buffer, c⟩)).of_ok hrun
      simpa [news, forking, materialising_of_ne_text htext] using hnotes.log_eq
  case failed =>
    rintro i operation c fault v rfl - hrun
    by_cases htext : operation = .text
    · subst htext
      have hlook := run_look_eq_error.1 (Action.run_map_eq_error.1 hrun)
      simpa [news, forking, materialising] using s.buffer.log_text.of_error hlook.1
    · have hnotes :=
        (Judgement.ofRelation_iff.1 (View.noting_run htext ⟨s.buffer, c⟩)).of_error hrun
      simpa [news, forking, materialising_of_ne_text htext] using hnotes.log_eq
  case forked =>
    intro i c change hcommand hc
    have hforking : s.forking command = [.forked c.index] := by
      rcases hcommand with ⟨rfl, -⟩ | ⟨rfl, -⟩ <;> simp [forking, hc]
    have hclosing : s.buffer.closing (s.buffer.record (.forked c.index)) = [] := by
      simp [Buffer.closing, Buffer.exhausted, Option.isSome_iff_ne_none]
    rw [news, hforking, materialising_of_size_eq (by simp), Buffer.log_record, hclosing,
      List.append_nil, List.append_nil]
  case begun =>
    rintro i c withPrevious withCurrent rfl -
    simp [news, forking, materialising]
  case advanced =>
    rintro j r x b rfl - hrun
    simpa [news, forking, materialising] using ((hfetch r).of_ok hrun).log_eq
  case ended =>
    rintro j r b rfl - hrun
    simpa [news, forking, materialising] using ((hfetch r).of_ok hrun).log_eq
  case broken =>
    rintro j r fault b rfl - hrun
    simpa [news, forking, materialising] using ((hfetch r).of_error hrun).log_eq

/-! ### The chronicle of a run -/

/-- What there is to tell of a run, command by command. -/
def collect (tell : Session α → Command α → Outcome α × Session α → List Event) (s : Session α) :
    List (Command α) → List Event
  | [] => []
  | command :: rest =>
    tell s command (s.perform command) ++ (s.perform command).2.collect tell rest

/-- The news of a run. -/
def chronicle (s : Session α) (commands : List (Command α)) : List Event :=
  s.collect news commands

/-- What is told of more commands comes after what was told of the first ones. -/
theorem collect_append (tell : Session α → Command α → Outcome α × Session α → List Event)
    (s : Session α) (commands more : List (Command α)) :
    s.collect tell (commands ++ more) =
      s.collect tell commands ++ (s.run commands).2.collect tell more := by
  induction commands generalizing s with
  | nil => rfl
  | cons command rest ih =>
    rw [List.cons_append, collect, ih, collect, run_cons, List.append_assoc]

theorem filter_collect (p : Event → Bool)
    (tell : Session α → Command α → Outcome α × Session α → List Event) (s : Session α)
    (commands : List (Command α)) :
    (s.collect tell commands).filter p =
      s.collect (fun s command r => (tell s command r).filter p) commands := by
  induction commands generalizing s with
  | nil => rfl
  | cons command rest ih => rw [collect, List.filter_append, ih, collect]

/-- The news do not show the logger. -/
theorem chronicle_muted (s : Session α) (commands : List (Command α)) :
    s.muted.chronicle commands = s.chronicle commands := by
  induction commands generalizing s with
  | nil => rfl
  | cons command rest ih =>
    have hnews : s.muted.news command ((s.perform command).1, (s.perform command).2.muted) =
      s.news command (s.perform command) := rfl
    change s.muted.news command (s.muted.perform command) ++
      (s.muted.perform command).2.chronicle rest = _
    rw [perform_muted, hnews, ih]
    rfl

/-- **The log is the chronicle, as far as the logger listens.** -/
theorem run_log (s : Session α) (commands : List (Command α)) :
    (s.run commands).2.buffer.log.toList =
      s.buffer.log.toList ++ (s.chronicle commands).filter s.buffer.listens := by
  induction commands generalizing s with
  | nil => simp [chronicle, collect]
  | cons command rest ih =>
    obtain ⟨told, htakes, -⟩ := s.perform_takes command
    rw [run_cons, ih, htakes.listens_eq, perform_log, List.append_assoc, ← List.filter_append]
    rfl

/-! ### What a chronicle tells -/

/-- The end of the source is told of once at most, whenever it comes. -/
theorem collect_closing (s : Session α) (commands : List (Command α)) :
    s.collect (fun s _ r => s.buffer.closing r.2.buffer) commands =
      s.buffer.closing (s.run commands).2.buffer := by
  induction commands generalizing s with
  | nil => simp [collect]
  | cons command rest ih =>
    obtain ⟨told, htakes, -⟩ := s.perform_takes command
    obtain ⟨told', htakes', -⟩ := (s.perform command).2.run_takes rest
    rw [collect, ih, run_cons, ← Buffer.closing_trans htakes htakes']

/-- **Only the first text that does not fail and brings elements is told of**, and right after the
end of the source, which it has reached. -/
theorem closing_of_materialising {s : Session α} {command : Command α}
    (h : s.materialising command (s.perform command) ≠ []) :
    s.buffer.closing (s.perform command).2.buffer =
      [.exhausted (s.perform command).2.buffer.items.size] := by
  revert h
  refine perform_cases (P := fun r => s.materialising command r ≠ [] →
    s.buffer.closing r.2.buffer = [.exhausted r.2.buffer.items.size]) s command
      ?absent ?applied ?failed ?forked ?begun ?advanced ?ended ?broken
  case absent => exact fun _ h => absurd (materialising_of_size_eq rfl command) h
  case applied =>
    rintro i operation c reply v rfl - hrun h
    by_cases htext : operation = .text
    · subst htext
      obtain ⟨xs, hlook, -⟩ := Action.run_map_eq_ok.1 hrun
      by_cases hmore : s.buffer.items.size < v.buffer.items.size
      · exact Buffer.closing_of_text (run_look_eq_ok.1 hlook).1 hmore
      · exact absurd (if_neg hmore) h
    · exact absurd (materialising_of_ne_text htext s _ i) h
  case failed =>
    rintro i operation c fault v rfl - - h
    exact absurd (materialising_of_failed ..) h
  case forked =>
    rintro i c change (⟨rfl, -⟩ | ⟨rfl, -⟩) - h
    · exact absurd rfl h
    · exact absurd rfl h
  case begun =>
    rintro i c withPrevious withCurrent rfl - h
    exact absurd rfl h
  case advanced =>
    rintro j r x b rfl - - h
    exact absurd rfl h
  case ended =>
    rintro j r b rfl - - h
    exact absurd rfl h
  case broken =>
    rintro j r fault b rfl - - h
    exact absurd rfl h

/-- What a command that tells of a text tells. -/
theorem news_of_mem {s : Session α} {command : Command α} {count : Nat}
    (h : .materialised count ∈ s.news command (s.perform command)) :
    s.news command (s.perform command) =
      [.exhausted (s.perform command).2.buffer.items.size, .materialised count] := by
  have hmem : .materialised count ∈ s.materialising command (s.perform command) := by
    rw [← (s.filter_news command _).2.2]
    exact List.mem_filter.2 ⟨h, rfl⟩
  have hsome : s.materialising command (s.perform command) ≠ [] := List.ne_nil_of_mem hmem
  have hone : s.materialising command (s.perform command) = [.materialised count] := by
    obtain ⟨event, hevent⟩ := List.length_eq_one_iff.1 (Nat.le_antisymm
      (s.length_materialising_le command _) (List.length_pos_iff.2 hsome))
    rw [hevent] at hmem ⊢
    rw [List.mem_singleton.1 hmem]
  rw [news, forking_of_materialising hsome, closing_of_materialising hsome, hone]
  rfl

/-- So there are no more texts told of than ends of the source. -/
theorem length_collect_materialising_le (s : Session α) (commands : List (Command α)) :
    (s.collect materialising commands).length ≤ 1 := by
  have hle : (s.collect materialising commands).length ≤
      (s.collect (fun s _ r => s.buffer.closing r.2.buffer) commands).length := by
    induction commands generalizing s with
    | nil => exact Nat.le_refl _
    | cons command rest ih =>
      have hfirst : (s.materialising command (s.perform command)).length ≤
          (s.buffer.closing (s.perform command).2.buffer).length := by
        by_cases hnone : s.materialising command (s.perform command) = []
        · simp [hnone]
        · rw [closing_of_materialising hnone]
          exact length_materialising_le ..
      rw [collect, collect, List.length_append, List.length_append]
      exact Nat.add_le_add hfirst (ih _)
  rw [collect_closing] at hle
  exact Nat.le_trans hle (Buffer.length_closing_le ..)

end Session

/-! ### Lines -/

namespace Event

/-- The line that is written for an event: its mark and its sentence, in its colour if asked for. -/
def written (useColour : Bool) (event : Event) : String :=
  let (colour, mark, sentence) :=
    match event with
    | .exhausted count => ("\x1b[38;5;6m", "[DBG] ", s!"source exhausted after {count} elements")
    | .forked index => ("\x1b[38;5;8m", "[VRB] ", s!"forking cursor at {index}")
    | .materialised count =>
      ("\x1b[38;5;3m", "[WRN] ",
        s!"materialising text pulled {count} unread characters from the source")
  if useColour then colour ++ mark ++ sentence ++ "\x1b[0m" else mark ++ sentence

/-- Whether an event reaches a minimum level. -/
def reaches (event : Event) (minimum : Level) : Bool :=
  match event, minimum with
  | .exhausted _, .debug => true
  | .forked _, .debug | .forked _, .verbose => true
  | .materialised _, .error | .materialised _, .fatal => false
  | .materialised _, _ => true
  | _, _ => false

theorem line_eq (logger : Logger) (event : Event) :
    event.line logger = event.written logger.useColour := by
  rcases logger with ⟨_ | _, minimum⟩ <;> cases event <;> rfl

theorem reaches_eq (event : Event) (minimum : Level) :
    event.reaches minimum = decide (minimum.rank ≤ event.level.rank) := by
  cases event <;> cases minimum <;> rfl

end Event

/-! ### Logs -/

namespace View

variable [LineElement α] [DecidableEq α]

/-- All there is to tell of a run that starts with an opened cursor: that opening it has met the end
of the source, if it has, and then the news. -/
def history (v : View α) (commands : List (Command α)) : List Event :=
  (if v.buffer.exhausted then [.exhausted v.buffer.items.size] else []) ++
    (Session.start v).chronicle commands

/-- What a run is told by: the history of the run that has no logger. -/
structure Chronicled (v : View α) (script : Source α) (commands : List (Command α)) : Prop where
  /-- Every fork is told of, in order, by the index at which the cursor was forked. -/
  forks : (v.history commands).filter (·.level = .verbose) =
    (Session.start v).collect (fun s command _ => s.forking command) commands
  /-- The end of the source is told of once, by the number of elements, if a pull has reported it,
  and not otherwise. -/
  ends : (v.history commands).filter (·.level = .debug) =
    if .exhaustion ∈ script.answers ((Session.start v).run commands).2.buffer.pulls then
      [.exhausted ((Session.start v).run commands).2.buffer.items.size]
    else []
  /-- The number told of is that of the elements the buffer holds from then on. -/
  lasting : ∀ count, .exhausted count ∈ v.history commands → ∀ later,
    ((Session.start v).run (commands ++ later)).2.buffer.items.size = count
  /-- Every text that was taken without a failure and brought elements is told of, by how many. -/
  texts : (v.history commands).filter (·.level = .warn) =
    (Session.start v).collect Session.materialising commands
  /-- There is at most one. -/
  once : ((Session.start v).collect Session.materialising commands).length ≤ 1
  /-- What a further command adds: its news. -/
  grows : ∀ command, v.history (commands ++ [command]) = v.history commands ++
    ((Session.start v).run commands).2.news command
      (((Session.start v).run commands).2.perform command)
  /-- A command that tells of a text tells of the end of the source just before. -/
  announced : ∀ command count,
    .materialised count ∈ ((Session.start v).run commands).2.news command
      (((Session.start v).run commands).2.perform command) →
    ((Session.start v).run commands).2.news command
        (((Session.start v).run commands).2.perform command) =
      [.exhausted (((Session.start v).run commands).2.perform command).2.buffer.items.size,
        .materialised count]

/-- How the run of a view with a logger compares to that of one which differs from it in having
none. -/
structure Heard (v : View α) (logger : Option Logger) (w : View α) (commands : List (Command α)) :
    Prop where
  /-- All commands come out alike. -/
  outcomes_eq : ((Session.start w).run commands).1 = ((Session.start v).run commands).1
  /-- They leave a session that differs in the logger and the log alone. -/
  session_eq : ((Session.start w).run commands).2.muted = ((Session.start v).run commands).2
  /-- The log is the history without what is milder than the minimum level. -/
  log_eq : ((Session.start w).run commands).2.buffer.log.toList =
    (v.history commands).filter fun event =>
      logger.any fun logger => logger.minimum.rank ≤ event.level.rank
  /-- With the mildest minimum level it is the history. -/
  full : ∀ useColour, logger = some ⟨useColour, .debug⟩ →
    ((Session.start w).run commands).2.buffer.log.toList = v.history commands
  /-- With the next one it is the forks and the text, with the two that follow the text alone, and
  above that nothing. -/
  reaches_eq : ∀ useColour minimum, logger = some ⟨useColour, minimum⟩ →
    ((Session.start w).run commands).2.buffer.log.toList =
      (v.history commands).filter (·.reaches minimum)
  /-- What is written are the lines of the log in order, each with its number. -/
  transcript_eq : ((Session.start w).run commands).2.buffer.transcript 0 =
    logger.elim "" fun logger =>
      String.join (((v.history commands).filter fun event =>
        logger.minimum.rank ≤ event.level.rank).map fun event =>
          event.written logger.useColour ++ "\n")

section Opened

variable {key : Nat} {script : Source α} {config : Config} {keepsLines : Bool} {v : View α}

omit [LineElement α] [DecidableEq α] in
/-- What the log of an opened cursor starts with. -/
theorem log_of_open? (h : open? key script config keepsLines = .ok v) :
    v.buffer.log.toList =
      (if v.buffer.exhausted then [.exhausted v.buffer.items.size] else []).filter
        fun event => config.logger.any (·.enabled event.level) := by
  have hnotes := Judgement.ofRelation_iff.1
    (Buffer.noting_ensure 0 (Buffer.ofSource key script config))
  rw [open?] at h
  split at h
  · next b hrun =>
    cases h
    rw [← Buffer.closing_ofSource key script config]
    exact (hnotes.of_ok hrun).log_eq
  · cases h

/-- The history of a run, level by level. -/
theorem filter_history (h : open? key script config keepsLines = .ok v)
    (commands : List (Command α)) :
    (v.history commands).filter (·.level = .verbose) =
      (Session.start v).collect (fun s command _ => s.forking command) commands ∧
    (v.history commands).filter (·.level = .debug) =
      (if ((Session.start v).run commands).2.buffer.exhausted then
        [.exhausted ((Session.start v).run commands).2.buffer.items.size] else []) ∧
    (v.history commands).filter (·.level = .warn) =
      (Session.start v).collect Session.materialising commands := by
  obtain ⟨⟨told, htakes, -⟩, -, -⟩ := of_open? h
  obtain ⟨told', htakes', -⟩ := (Session.start v).run_takes commands
  rw [history, ← Buffer.closing_ofSource key script config,
    ← Buffer.closing_ofSource key script config, Buffer.closing_trans htakes htakes',
    Session.chronicle]
  simp only [List.filter_append, Event.filter_level fun _ => Buffer.level_of_mem_closing,
    Session.filter_collect, Session.filter_news, Session.collect_closing]
  exact ⟨rfl, rfl, rfl⟩

theorem chronicled_of_open? (h : open? key script config keepsLines = .ok v)
    (commands : List (Command α)) : v.Chronicled script commands := by
  obtain ⟨⟨told, htakes, hfailures⟩, -, -⟩ := of_open? h
  obtain ⟨told', htakes', hfailures'⟩ := (Session.start v).run_takes commands
  have haccounted : ((Session.start v).run commands).2.Accounted script
      ((Session.start v).run commands).1 :=
    .of_takes (htakes.trans htakes') (by rw [Source.failures_append, hfailures, hfailures',
      List.nil_append])
  obtain ⟨hforks, hends, htexts⟩ := filter_history h commands
  refine ⟨hforks, ?ends, ?lasting, htexts, ?once, ?grows, ?announced⟩
  case ends => simp only [hends, haccounted.exhausted_iff]
  case lasting =>
    intro count hcount later
    have hmem : .exhausted count ∈ (v.history commands).filter (·.level = .debug) :=
      List.mem_filter.2 ⟨hcount, rfl⟩
    rw [hends] at hmem
    split at hmem
    · next hclosed =>
      obtain ⟨told'', htakes'', -⟩ := ((Session.start v).run commands).2.run_takes later
      rw [Session.run_append,
        (htakes''.eq_of_exhausted (Option.isNone_iff_eq_none.1 hclosed)).2.1]
      cases List.mem_singleton.1 hmem
      rfl
    · exact absurd hmem List.not_mem_nil
  case once => exact Session.length_collect_materialising_le ..
  case grows =>
    intro command
    rw [history, Session.chronicle, Session.collect_append, ← List.append_assoc]
    simp only [Session.collect, List.append_nil]
    rfl
  case announced => exact fun command count => Session.news_of_mem

theorem heard_of_open? (h : open? key script config keepsLines = .ok v)
    (commands : List (Command α)) : v.muted.Heard config.logger v commands := by
  have hrun : (Session.start v.muted).run commands =
      (((Session.start v).run commands).1, ((Session.start v).run commands).2.muted) :=
    Session.run_muted (Session.start v) commands
  obtain ⟨⟨told, htakes, -⟩, -, -⟩ := of_open? h
  obtain ⟨told', htakes', -⟩ := (Session.start v).run_takes commands
  have hlistens : v.buffer.listens = fun event => config.logger.any (·.enabled event.level) :=
    htakes.listens_eq
  have hlog : ((Session.start v).run commands).2.buffer.log.toList =
      (v.muted.history commands).filter fun event => config.logger.any (·.enabled event.level) := by
    rw [history, List.filter_append, ← hlistens]
    refine (Session.run_log ..).trans (congr (congrArg _ ?_) (congrArg _ ?_))
    · rw [hlistens]
      exact log_of_open? h
    · exact (Session.chronicle_muted (Session.start v) commands).symm
  refine ⟨?outcomes, ?session, hlog, ?full, ?reaches, ?transcript⟩
  case outcomes => rw [hrun]
  case session => rw [hrun]
  case full =>
    intro useColour hlogger
    rw [hlog, hlogger]
    exact List.filter_eq_self.2 fun event _ => decide_eq_true (Nat.zero_le event.level.rank)
  case reaches =>
    intro useColour minimum hlogger
    rw [hlog, hlogger]
    exact congrArg (List.filter · _) (funext fun event => (event.reaches_eq minimum).symm)
  case transcript =>
    have hconfig : ((Session.start v).run commands).2.buffer.config.logger = config.logger := by
      rw [htakes'.config_eq]
      exact congrArg _ htakes.config_eq
    rw [Buffer.transcript, hconfig, List.drop_zero, hlog]
    rcases config.logger with _ | logger
    · rfl
    · simp only [Event.line_eq]
      rfl

end Opened

end View

/-- **A logger only listens, and it hears the chronicle of the run.** -/
theorem logging_only_listens [LineElement α] [DecidableEq α] (o : Opening α) (key : Nat)
    (config : Config) (keepsLines : Bool) :
    match o.open? key (config.withLogger none) keepsLines with
    | .error fault =>
      ∀ logger, o.open? key (config.withLogger logger) keepsLines = .error fault
    | .ok v => ∀ commands : List (Command α), v.Chronicled o.script commands ∧
      ∀ logger, ∃ w, o.open? key (config.withLogger logger) keepsLines = .ok w ∧
        v.Heard logger w commands := by
  have hmuted (logger : Option Logger) :=
    View.open?_muted key o.script (config.withLogger logger) keepsLines
  simp only [o.open?_eq]
  split
  · next fault hopen =>
    intro logger
    have hsame := (hmuted logger).symm.trans hopen
    rcases hw : View.open? key o.script (config.withLogger logger) keepsLines with e | w
    · rw [hw] at hsame
      cases hsame
      rfl
    · rw [hw] at hsame
      cases hsame
  · next v hopen =>
    refine fun commands => ⟨View.chronicled_of_open? hopen commands, fun logger => ?_⟩
    have hsame := (hmuted logger).symm.trans hopen
    rcases hw : View.open? key o.script (config.withLogger logger) keepsLines with e | w
    · rw [hw] at hsame
      cases hsame
    · rw [hw] at hsame
      cases hsame
      exact ⟨w, rfl, View.heard_of_open? hw commands⟩

/-- Taking the text of two elements from a fork meets the end, and brings the second one. Taking it
again tells nothing. -/
example : (View.ofString 0 "ab" .quiet).history
      [.fork 0, .apply 1 .text, .apply 0 .text, .apply 0 (.skip 1), .forkPlain 0] =
    [.forked 0, .exhausted 2, .materialised 1, .forked 1] := by
  decide

end Rewind
