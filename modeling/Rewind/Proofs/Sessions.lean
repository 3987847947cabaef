import Rewind.Proofs.Operations
import Rewind.Session

/-!
# What a command can do to a session

`Session.perform_cases` names every way a command can come out, with the session it leaves: only
the buffer and at most one cursor or remainder are touched. Runs of commands are taken apart at
their first command (`run_cons`), or after any number of commands (`run_append`).

A run is `Faithful` when it sends cursors that keep lines only to places that were reported on the
way, which is decided command by command.
-/

namespace Rewind.Session

variable {α : Type}

/-! ### The steps of a session, run -/

theorem run_onCursor (i : Nat) (act : Moving α (Reply α)) (s : Session α) :
    (onCursor i act).run s =
      match s.cursors[i]? with
      | none => .ok .absent s
      | some c =>
        match act.run ⟨s.buffer, c⟩ with
        | .ok reply v =>
          .ok reply { s with buffer := v.buffer, cursors := s.cursors.set i v.cursor }
        | .error fault v =>
          .error fault { s with buffer := v.buffer, cursors := s.cursors.set i v.cursor } := rfl

theorem run_addFork (i : Nat) (change : Cursor → Cursor) (s : Session α) :
    (addFork i change).run s =
      match s.cursors[i]? with
      | none => .ok .absent s
      | some c =>
        .ok (.number s.cursors.length)
          { s with
            buffer := s.buffer.record (.forked c.index)
            cursors := s.cursors ++ [change c] } := by
  rw [addFork, EStateM.run_bind, EStateM.run_get]
  rcases hc : s.cursors[i]? with _ | c
  · simp only [hc]
    rfl
  · simp only [hc]
    rfl

theorem run_addRemainder (i : Nat) (withPrevious withCurrent : Bool) (s : Session α) :
    (addRemainder i withPrevious withCurrent).run s =
      match s.cursors[i]? with
      | none => .ok .absent s
      | some c =>
        .ok (.number s.remainders.length)
          { s with remainders := s.remainders ++ [c.remaining withPrevious withCurrent] } := by
  rw [addRemainder, EStateM.run_bind, EStateM.run_get]
  rcases hc : s.cursors[i]? with _ | c
  · simp only [hc]
    rfl
  · simp only [hc]
    rfl

theorem run_advance (j : Nat) (s : Session α) :
    (Session.advance j).run s =
      match s.remainders[j]? with
      | none => .ok .absent s
      | some r =>
        match (Buffer.fetch r.landing).run s.buffer with
        | .ok none b => .ok (.element none) { s with buffer := b }
        | .ok (some x) b =>
          .ok (.element (some x))
            { s with
              buffer := b
              remainders := s.remainders.set j { r with slot := r.landing + 1 } }
        | .error fault b => .error fault { s with buffer := b } := by
  change Session.advance j s = _
  rw [Session.advance]
  rcases s.remainders[j]? with _ | r
  · rfl
  rcases hfetch : (Buffer.fetch r.landing).run s.buffer with ⟨_ | x, b⟩ | ⟨fault, b⟩
  · have hnext : r.next?.run s.buffer = .ok none b := Action.run_bind_of_ok hfetch
    simp only [hnext, hfetch]
  · have hnext : r.next?.run s.buffer = .ok (some (x, { r with slot := r.landing + 1 })) b :=
      Action.run_bind_of_ok hfetch
    simp only [hnext, hfetch]
  · have hnext : r.next?.run s.buffer = .error fault b := Action.run_bind_of_error hfetch
    simp only [hnext, hfetch]

/-! ### Commands -/

/-- Whether there is no cursor, or no remainder, of the number that a command names. -/
def Lacks (s : Session α) : Command α → Prop
  | .apply i _ | .fork i | .forkPlain i | .remaining i _ _ => s.cursors[i]? = none
  | .advance j => s.remainders[j]? = none

variable [LineElement α] [DecidableEq α]

/-- A command, case by case. -/
theorem perform_cases {P : Outcome α × Session α → Prop} (s : Session α) (command : Command α)
    (absent : s.Lacks command → P (.answered .absent, s))
    (applied : ∀ i operation c reply v, command = .apply i operation → s.cursors[i]? = some c →
      operation.run.run ⟨s.buffer, c⟩ = .ok reply v →
      P (.answered reply, { s with buffer := v.buffer, cursors := s.cursors.set i v.cursor }))
    (failed : ∀ i operation c fault v, command = .apply i operation → s.cursors[i]? = some c →
      operation.run.run ⟨s.buffer, c⟩ = .error fault v →
      P (.failed fault, { s with buffer := v.buffer, cursors := s.cursors.set i v.cursor }))
    (forked : ∀ i c change, command = .fork i ∧ change = id ∨
        command = .forkPlain i ∧ change = Cursor.plain →
      s.cursors[i]? = some c →
      P (.answered (.number s.cursors.length),
        { s with
          buffer := s.buffer.record (.forked c.index)
          cursors := s.cursors ++ [change c] }))
    (begun : ∀ i c withPrevious withCurrent, command = .remaining i withPrevious withCurrent →
      s.cursors[i]? = some c →
      P (.answered (.number s.remainders.length),
        { s with remainders := s.remainders ++ [c.remaining withPrevious withCurrent] }))
    (advanced : ∀ j r x b, command = .advance j → s.remainders[j]? = some r →
      (Buffer.fetch r.landing).run s.buffer = .ok (some x) b →
      P (.answered (.element (some x)),
        { s with buffer := b, remainders := s.remainders.set j { r with slot := r.landing + 1 } }))
    (ended : ∀ j r b, command = .advance j → s.remainders[j]? = some r →
      (Buffer.fetch r.landing).run s.buffer = .ok none b →
      P (.answered (.element none), { s with buffer := b }))
    (broken : ∀ j r fault b, command = .advance j → s.remainders[j]? = some r →
      (Buffer.fetch r.landing).run s.buffer = .error fault b →
      P (.failed fault, { s with buffer := b })) :
    P (s.perform command) := by
  have hfork (i : Nat) (change : Cursor → Cursor) (hstep : step command = addFork i change)
      (hcommand : command = .fork i ∧ change = id ∨
        command = .forkPlain i ∧ change = Cursor.plain) : P (s.perform command) := by
    rw [perform, hstep, run_addFork]
    rcases hc : s.cursors[i]? with _ | c
    · refine absent ?_
      rcases hcommand with ⟨rfl, -⟩ | ⟨rfl, -⟩ <;> exact hc
    · exact forked i c change hcommand hc
  rcases hcommand : command with ⟨i, operation⟩ | i | i | ⟨i, withPrevious, withCurrent⟩ | j
  · rw [perform, step, run_onCursor]
    rcases hc : s.cursors[i]? with _ | c
    · exact absent (hcommand ▸ hc)
    · rcases hrun : operation.run.run ⟨s.buffer, c⟩ with ⟨reply, v⟩ | ⟨fault, v⟩
      · simpa only [hrun] using applied i operation c reply v hcommand hc hrun
      · simpa only [hrun] using failed i operation c fault v hcommand hc hrun
  · exact hcommand ▸ hfork i id (hcommand ▸ rfl) (.inl ⟨hcommand, rfl⟩)
  · exact hcommand ▸ hfork i Cursor.plain (hcommand ▸ rfl) (.inr ⟨hcommand, rfl⟩)
  · rw [perform, step, run_addRemainder]
    rcases hc : s.cursors[i]? with _ | c
    · exact absent (hcommand ▸ hc)
    · exact begun i c withPrevious withCurrent hcommand hc
  · rw [perform, step, run_advance]
    rcases hr : s.remainders[j]? with _ | r
    · exact absent (hcommand ▸ hr)
    · rcases hrun : (Buffer.fetch r.landing).run s.buffer with ⟨_ | x, b⟩ | ⟨fault, b⟩
      · simpa only [hrun] using ended j r b hcommand hr hrun
      · simpa only [hrun] using advanced j r x b hcommand hr hrun
      · simpa only [hrun] using broken j r fault b hcommand hr hrun

/-- Asking something of a cursor that is there. -/
theorem perform_apply {s : Session α} {i : Nat} {c : Cursor} (hc : s.cursors[i]? = some c)
    (operation : Operation α) :
    s.perform (.apply i operation) =
      match operation.run.run ⟨s.buffer, c⟩ with
      | .ok reply v =>
        (.answered reply, { s with buffer := v.buffer, cursors := s.cursors.set i v.cursor })
      | .error fault v =>
        (.failed fault, { s with buffer := v.buffer, cursors := s.cursors.set i v.cursor }) := by
  rw [perform, step, run_onCursor, hc]
  rcases hrun : operation.run.run ⟨s.buffer, c⟩ with ⟨reply, v⟩ | ⟨fault, v⟩ <;> simp only [hrun]

omit [LineElement α] [DecidableEq α] in
/-- A session whose cursor is put back as it was is the session that it was. -/
theorem set_cursor_self {s : Session α} {i : Nat} {c : Cursor} (hc : s.cursors[i]? = some c) :
    { s with cursors := s.cursors.set i c } = s := by
  obtain ⟨hlt, rfl⟩ := List.getElem?_eq_some_iff.1 hc
  rw [List.set_getElem_self]

/-- What leaves a cursor and its buffer as they are leaves the session as it is. -/
theorem perform_apply_stay {s : Session α} {i : Nat} {c : Cursor} (hc : s.cursors[i]? = some c)
    {operation : Operation α} {reply : Reply α}
    (hrun : operation.run.run ⟨s.buffer, c⟩ = .ok reply ⟨s.buffer, c⟩) :
    s.perform (.apply i operation) = (.answered reply, s) := by
  rw [perform_apply hc, hrun]
  simp only [set_cursor_self hc]

/-- What is refused and leaves them as they are does too. -/
theorem perform_apply_refused {s : Session α} {i : Nat} {c : Cursor}
    (hc : s.cursors[i]? = some c) {operation : Operation α} {fault : Fault}
    (hrun : operation.run.run ⟨s.buffer, c⟩ = .error fault ⟨s.buffer, c⟩) :
    s.perform (.apply i operation) = (.failed fault, s) := by
  rw [perform_apply hc, hrun]
  simp only [set_cursor_self hc]

/-- Whether an operation on the cursor `i` is answered with `reply` and leaves everything but the
buffer and that cursor as it was, and the cursor as told. -/
def Answers (s : Session α) (i : Nat) (operation : Operation α) (reply : Reply α)
    (leaves : Cursor → Prop) : Prop :=
  ∃ b c, leaves c ∧ s.perform (.apply i operation) =
    (.answered reply, { s with buffer := b, cursors := s.cursors.set i c })

theorem answers_of_run {s : Session α} {i : Nat} {c : Cursor} (hc : s.cursors[i]? = some c)
    {operation : Operation α} {reply : Reply α} {w : View α} {leaves : Cursor → Prop}
    (hrun : operation.run.run ⟨s.buffer, c⟩ = .ok reply w) (hleaves : leaves w.cursor) :
    s.Answers i operation reply leaves :=
  ⟨w.buffer, w.cursor, hleaves, by rw [perform_apply hc, hrun]⟩

/-- No command takes a cursor away. -/
theorem length_cursors_le_perform (s : Session α) (command : Command α) :
    s.cursors.length ≤ (s.perform command).2.cursors.length := by
  refine perform_cases (P := fun r => s.cursors.length ≤ r.2.cursors.length) s command
    ?absent ?applied ?failed ?forked ?begun ?advanced ?ended ?broken
  case applied | failed => intros; exact Nat.le_of_eq List.length_set.symm
  case forked => intros; exact Nat.le_of_lt (by simp)
  case absent | begun | advanced | ended | broken => intros; exact Nat.le_refl _

/-- A command comes out in a changed session as another does in the one before the change, if the
steps do. -/
theorem perform_of_step {f : Session α → Session α} {command command' : Command α} {s : Session α}
    (h : (step command').run (f s) = Action.onState f ((step command).run s)) :
    (f s).perform command' = ((s.perform command).1, f (s.perform command).2) := by
  rw [perform, perform, h]
  rcases (step command).run s with ⟨reply, t⟩ | ⟨fault, t⟩ <;> rfl

/-! ### Runs of commands -/

@[simp] theorem run_nil (s : Session α) : s.run [] = ([], s) := rfl

theorem run_cons (s : Session α) (command : Command α) (rest : List (Command α)) :
    s.run (command :: rest) =
      ((s.perform command).1 :: ((s.perform command).2.run rest).1,
        ((s.perform command).2.run rest).2) := rfl

/-- Carrying out more commands is going on with the session that the first ones left. -/
theorem run_append (s : Session α) (commands more : List (Command α)) :
    s.run (commands ++ more) =
      ((s.run commands).1 ++ ((s.run commands).2.run more).1, ((s.run commands).2.run more).2) := by
  induction commands generalizing s with
  | nil => rfl
  | cons command rest ih => rw [List.cons_append, run_cons, ih, run_cons, List.cons_append]

/-- **A symmetry of sessions carries over to runs**: a change `f` of the session, with a change `g`
of the commands, that commutes with every step as long as the invariant `I` holds. -/
theorem run_map {f : Session α → Session α} {g : Command α → Command α} {I : Session α → Prop}
    (hkeeps : ∀ s command, I s → I (s.perform command).2)
    (hstep : ∀ s command, I s →
      (step (g command)).run (f s) = Action.onState f ((step command).run s))
    {s : Session α} (h : I s) (commands : List (Command α)) :
    (f s).run (commands.map g) = ((s.run commands).1, f (s.run commands).2) := by
  induction commands generalizing s with
  | nil => rfl
  | cons command rest ih =>
    rw [List.map_cons, run_cons, run_cons, perform_of_step (hstep s command h),
      ih (hkeeps s command h)]

/-! ### Changes that no command sees -/

/-- A session with its buffer changed by `g` and each of its cursors by `h`. -/
def mapped (g : Buffer α → Buffer α) (h : Cursor → Cursor) (s : Session α) : Session α :=
  ⟨g s.buffer, s.cursors.map h, s.remainders⟩

/-- What it takes for a change of the buffer and of the cursors not to be seen by any command. -/
structure Unseen (g : Buffer α → Buffer α) (h : Cursor → Cursor) : Prop where
  operation : ∀ (operation : Operation α) (v : View α),
    (Judgement.blindTo fun v : View α => ⟨g v.buffer, h v.cursor⟩).Holds operation.run v
  fetch : ∀ target b, (Judgement.blindTo g).Holds (Buffer.fetch target) b
  record : ∀ b event, (g b).record event = g (b.record event)
  index : ∀ c, (h c).index = c.index
  plain : ∀ c, (h c).plain = h c.plain

namespace Unseen

variable {g : Buffer α → Buffer α} {h : Cursor → Cursor} (hu : Unseen g h)

include hu

theorem onCursor (i : Nat) (operation : Operation α) (s : Session α) :
    (Judgement.blindTo (mapped g h)).Holds (Session.onCursor i operation.run) s := by
  rw [Judgement.blindTo_iff, run_onCursor, run_onCursor]
  simp only [mapped, List.getElem?_map]
  rcases s.cursors[i]? with _ | c
  · rfl
  have hblind : operation.run.run ⟨g s.buffer, h c⟩ =
      Action.onState (fun v : View α => ⟨g v.buffer, h v.cursor⟩)
        (operation.run.run ⟨s.buffer, c⟩) :=
    hu.operation operation ⟨s.buffer, c⟩
  simp only [Option.map_some, hblind]
  rcases operation.run.run ⟨s.buffer, c⟩ with ⟨reply, v⟩ | ⟨fault, v⟩ <;>
    simp only [Action.onState, mapped, List.map_set]

theorem addFork (i : Nat) (change : Cursor → Cursor) (hchange : ∀ c, change (h c) = h (change c))
    (s : Session α) : (Judgement.blindTo (mapped g h)).Holds (Session.addFork i change) s := by
  rw [Judgement.blindTo_iff, run_addFork, run_addFork]
  simp only [mapped, List.getElem?_map]
  rcases s.cursors[i]? with _ | c
  · rfl
  · simp only [Option.map_some, Action.onState, mapped, hchange, hu.index, hu.record,
      List.map_append, List.map_cons, List.map_nil, List.length_map]

theorem addRemainder (i : Nat) (withPrevious withCurrent : Bool) (s : Session α) :
    (Judgement.blindTo (mapped g h)).Holds (Session.addRemainder i withPrevious withCurrent) s := by
  have hremaining (c : Cursor) :
      (h c).remaining withPrevious withCurrent = c.remaining withPrevious withCurrent := by
    simp only [Cursor.remaining, hu.index]
  rw [Judgement.blindTo_iff, run_addRemainder, run_addRemainder]
  simp only [mapped, List.getElem?_map]
  rcases s.cursors[i]? with _ | c
  · rfl
  · simp only [Option.map_some, Action.onState, mapped, hremaining]

theorem advance (j : Nat) (s : Session α) :
    (Judgement.blindTo (mapped g h)).Holds (Session.advance j) s := by
  rw [Judgement.blindTo_iff, run_advance, run_advance]
  simp only [mapped]
  rcases s.remainders[j]? with _ | r
  · rfl
  have hblind := Judgement.blindTo_iff.1 (hu.fetch r.landing s.buffer)
  simp only [hblind]
  rcases (Buffer.fetch r.landing).run s.buffer with ⟨_ | x, b⟩ | ⟨fault, b⟩ <;> rfl

/-- **No command sees the change.** -/
theorem step (command : Command α) (s : Session α) :
    (Judgement.blindTo (mapped g h)).Holds (Session.step command) s :=
  match command with
  | .apply i operation => hu.onCursor i operation s
  | .fork i => hu.addFork i id (fun _ => rfl) s
  | .forkPlain i => hu.addFork i Cursor.plain hu.plain s
  | .remaining i withPrevious withCurrent => hu.addRemainder i withPrevious withCurrent s
  | .advance j => hu.advance j s

theorem perform (s : Session α) (command : Command α) :
    (mapped g h s).perform command = ((s.perform command).1, mapped g h (s.perform command).2) :=
  perform_of_step (hu.step command s)

/-- **So it is not seen in a run**, but found in what the run leaves. -/
theorem run (s : Session α) (commands : List (Command α)) :
    (mapped g h s).run commands = ((s.run commands).1, mapped g h (s.run commands).2) := by
  have hrun := run_map (g := id) (I := fun _ => True) (fun _ _ _ => trivial)
    (fun t command _ => Judgement.blindTo_iff.1 (hu.step command t)) (s := s) trivial commands
  rwa [List.map_id] at hrun

end Unseen

end Rewind.Session

/-! ### Faithful runs

A cursor that keeps lines takes the line and the column of a place it is sent to on trust. So it
should be sent only where some cursor of the session has been, to a place that was reported. -/

namespace Rewind

variable {α : Type}

/-- The place that was reported. -/
def Outcome.place? : Outcome α → Option Location
  | .answered (.place l) => some l
  | _ => none

namespace Session

/-- Whether a command sends a cursor that keeps lines, if it does, to one of the places `known`. -/
def Heeds (s : Session α) (known : List Location) : Command α → Prop
  | .apply i operation =>
    ∀ c ∈ s.cursors[i]?, c.position.isSome → ∀ seek ∈ operation.seeks?, seek.1 ∈ known
  | _ => True

instance (s : Session α) (known : List Location) : DecidablePred (s.Heeds known) := fun command =>
  match command with
  | .apply _ _ => inferInstanceAs (Decidable (∀ _ ∈ _, _))
  | .fork _ | .forkPlain _ | .remaining .. | .advance _ => .isTrue trivial

variable [LineElement α] [DecidableEq α]

/-- Whether cursors that keep lines are sent only to the places `known` and to those that were
reported on the way. -/
def Faithful (s : Session α) (known : List Location) : List (Command α) → Prop
  | [] => True
  | command :: rest =>
    s.Heeds known command ∧
      (s.perform command).2.Faithful (known ++ (s.perform command).1.place?.toList) rest

/-- A run that is faithful as a whole is so in its first part, and the rest is faithful to what was
reported on the way. -/
theorem Faithful.append {s : Session α} {known : List Location} {commands more : List (Command α)}
    (h : s.Faithful known (commands ++ more)) :
    s.Faithful known commands ∧
      (s.run commands).2.Faithful (known ++ (s.run commands).1.filterMap Outcome.place?) more := by
  induction commands generalizing s known with
  | nil => exact ⟨trivial, by simpa using h⟩
  | cons command rest ih =>
    obtain ⟨hheeds, hrest⟩ := h
    obtain ⟨hfirst, hmore⟩ := ih hrest
    refine ⟨⟨hheeds, hfirst⟩, ?_⟩
    rw [run_cons, List.filterMap_cons]
    rcases hplace : (s.perform command).1.place? with _ | l
    · simpa [hplace] using hmore
    · simpa [hplace] using hmore

instance decidableFaithful :
    (s : Session α) → (known : List Location) → DecidablePred (s.Faithful known)
  | _, _, [] => .isTrue trivial
  | s, known, command :: rest =>
    have := decidableFaithful (s.perform command).2
      (known ++ (s.perform command).1.place?.toList) rest
    inferInstanceAs (Decidable (s.Heeds known command ∧ _))

end Session

end Rewind
