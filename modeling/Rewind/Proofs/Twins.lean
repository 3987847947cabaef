import Mathlib.Logic.Equiv.Basic
import Rewind.Proofs.Lines

/-!
# Equal cursors cannot be told apart

Cursors are compared by their buffer and their index alone. Where no saved place was made up, that
is enough: **two cursors that keep lines alike and compare equal come to the same in everything that
is asked of the one or of the other**, but for the mark of the end
(`equal_cursors_cannot_be_told_apart`).

This rests on two symmetries of sessions. No operation looks at the mark of the end, so a session
in which every cursor bears it does what it would do without (`Session.run_marked`). And cursors are
known by their numbers alone, so a session in which two of them have changed places does the same
when the commands name the one for the other (`Session.run_exchanged`). Where every head tells the
truth the index decides the line and the column, so **two equal cursors may change places and only
marks are moved** (`Session.marked_exchanged`).
-/

namespace Rewind

open Cursor

variable {α : Type}

/-! ### The mark of the end is never looked at -/

/-- The same head with the mark of the end. -/
def Cursor.marked (c : Cursor) : Cursor :=
  { c with reachedEnd := true }

/-- Besides the mark there is only the place. -/
theorem Cursor.marked_eq_iff {c d : Cursor} : c.marked = d.marked ↔ c.location = d.location := by
  simp [marked, location]

namespace View

/-- **Actions on a cursor that do not see the mark of the end.** -/
def marking : Judgement (View α) :=
  .blindTo (withCursor marked)

variable [LineElement α]

theorem arrive_marked (v : View α) (start : Int) (p : Position) (target : Int) :
    (v.withCursor marked).arrive start p target =
      Action.onState (withCursor marked) (v.arrive start p target) := by
  simp only [arrive, withCursor]
  rcases v.buffer.walk? start target p with _ | q <;> rfl

theorem land_marked (v : View α) (target : Int) :
    (v.withCursor marked).land target = Action.onState (withCursor marked) (v.land target) := by
  obtain ⟨b, i, r, _ | p⟩ := v
  · rfl
  · exact arrive_marked ⟨b, i, r, some p⟩ i p target

theorem marking_moveBy (offset : Int) (v : View α) : marking.Holds (moveBy offset) v :=
  blindTo_moveBy rfl rfl (fun _ _ => v.land_marked _) fun _ b => land_marked ⟨b, v.cursor⟩ _

theorem marking_moveTo (place : Location) (offset : Int) (v : View α) :
    marking.Holds (moveTo place offset) v :=
  blindTo_moveTo rfl rfl rfl rfl rfl (fun p => v.arrive_marked _ p _) fun i => marking_moveBy i v

theorem marking_covers : Judgement.Covers (marking (α := α)) where
  raise _ _ _ := rfl
  sourceIsEmpty _ := rfl
  peek _ _ := blindTo_look rfl
  current _ := blindTo_look rfl
  text _ := blindTo_look rfl
  moveBy := marking_moveBy

/-- **No operation sees the mark of the end.** -/
theorem marking_run [DecidableEq α] (operation : Operation α) (v : View α) :
    marking.Holds operation.run v := by
  refine marking_covers.run operation v (fun hglance => ?_) fun place offset _ =>
    marking_moveTo place offset v
  cases operation with
  | slot | location | sourceIsEmpty | isAtStart | isStartOfLine => rfl
  | _ => exact hglance.elim

end View

namespace Session

/-- The same session with the mark of the end on every cursor. -/
def marked (s : Session α) : Session α :=
  { s with cursors := s.cursors.map Cursor.marked }

theorem getElem?_cursors_marked (s : Session α) (i : Nat) :
    s.marked.cursors[i]? = s.cursors[i]?.map Cursor.marked :=
  List.getElem?_map ..

variable [LineElement α] [DecidableEq α]

/-- **No command sees the marks.** -/
theorem unseen_marked : Unseen (α := α) id Cursor.marked where
  operation := View.marking_run
  fetch target b := by
    rw [Judgement.blindTo_iff, id_eq]
    rcases (Buffer.fetch target).run b with ⟨_, t⟩ | ⟨_, t⟩ <;> rfl
  record _ _ := rfl
  index _ := rfl
  plain _ := rfl

/-- **A run comes out alike with every cursor marked.** -/
theorem run_marked (s : Session α) (commands : List (Command α)) :
    s.marked.run commands = ((s.run commands).1, (s.run commands).2.marked) :=
  unseen_marked.run s commands

end Session

/-! ### Cursors are known by their numbers -/

/-- A list with the elements at two places in each other's place. -/
def exchange {β : Type} (i j : Nat) (l : List β) : List β :=
  match l[i]?, l[j]? with
  | some x, some y => (l.set i y).set j x
  | _, _ => l

section Exchange

variable {β : Type} {l : List β} {i j : Nat}

theorem length_exchange (i j : Nat) (l : List β) : (exchange i j l).length = l.length := by
  rw [exchange]
  split <;> simp

theorem getElem?_exchange (hi : i < l.length) (hj : j < l.length) (k : Nat) :
    (exchange i j l)[k]? = l[Equiv.swap i j k]? := by
  have hx := List.getElem?_eq_getElem hi
  have hy := List.getElem?_eq_getElem hj
  simp only [exchange, hx, hy, List.getElem?_set, List.length_set]
  by_cases hkj : j = k
  · subst hkj
    rw [if_pos rfl, if_pos hj, Equiv.swap_apply_right, hx]
  by_cases hki : i = k
  · subst hki
    rw [if_neg hkj, if_pos rfl, if_pos hi, Equiv.swap_apply_left, hy]
  · rw [if_neg hkj, if_neg hki, Equiv.swap_apply_of_ne_of_ne (Ne.symm hki) (Ne.symm hkj)]

theorem exchange_set (hi : i < l.length) (hj : j < l.length) (k : Nat) (x : β) :
    exchange i j (l.set k x) = (exchange i j l).set (Equiv.swap i j k) x := by
  have hi' : i < (l.set k x).length := by rwa [List.length_set]
  have hj' : j < (l.set k x).length := by rwa [List.length_set]
  have hlt (m : Nat) : Equiv.swap i j m < l.length ↔ m < l.length := by
    rw [Equiv.swap_apply_def]
    split
    · omega
    · split <;> omega
  refine List.ext_getElem? fun m => ?_
  rw [getElem?_exchange hi' hj', List.getElem?_set, List.getElem?_set, length_exchange,
    getElem?_exchange hi hj]
  by_cases h : k = Equiv.swap i j m
  · simp only [h, Equiv.swap_apply_self, if_true, hlt]
  · rw [if_neg h, if_neg fun h' => h (Equiv.swap_apply_eq_iff.1 h')]

theorem exchange_append (hi : i < l.length) (hj : j < l.length) (x : β) :
    exchange i j (l ++ [x]) = exchange i j l ++ [x] := by
  have hj' : j < (l.set i l[j]).length := by rwa [List.length_set]
  simp only [exchange, List.getElem?_append_left hi, List.getElem?_append_left hj,
    List.getElem?_eq_getElem hi, List.getElem?_eq_getElem hj, List.set_append_left i _ hi,
    List.set_append_left j _ hj']

end Exchange

/-- The same command with its cursor named otherwise. -/
def Command.rename (σ : Nat → Nat) : Command α → Command α
  | .apply i operation => .apply (σ i) operation
  | .fork i => .fork (σ i)
  | .forkPlain i => .forkPlain (σ i)
  | .remaining i withPrevious withCurrent => .remaining (σ i) withPrevious withCurrent
  | .advance j => .advance j

namespace Session

variable {s : Session α} {i j : Nat}

/-- The same session with two cursors in each other's place. -/
def exchanged (i j : Nat) (s : Session α) : Session α :=
  { s with cursors := exchange i j s.cursors }

/-- Whether there are cursors of both numbers. -/
def Numbers (i j : Nat) (s : Session α) : Prop :=
  i < s.cursors.length ∧ j < s.cursors.length

theorem getElem?_exchanged (h : s.Numbers i j) (k : Nat) :
    (s.exchanged i j).cursors[Equiv.swap i j k]? = s.cursors[k]? := by
  rw [exchanged, getElem?_exchange h.1 h.2, Equiv.swap_apply_self]

theorem exchanged_onCursor (h : s.Numbers i j) (k : Nat) (act : Moving α (Reply α)) :
    (onCursor (Equiv.swap i j k) act).run (s.exchanged i j) =
      Action.onState (exchanged i j) ((onCursor k act).run s) := by
  rw [run_onCursor, run_onCursor, getElem?_exchanged h]
  rcases s.cursors[k]? with _ | c
  · rfl
  have hbuffer : (s.exchanged i j).buffer = s.buffer := rfl
  simp only [hbuffer]
  rcases act.run ⟨s.buffer, c⟩ with ⟨reply, v⟩ | ⟨fault, v⟩ <;>
    simp only [Action.onState, exchanged, exchange_set h.1 h.2]

theorem exchanged_addFork (h : s.Numbers i j) (k : Nat) (change : Cursor → Cursor) :
    (addFork (Equiv.swap i j k) change).run (s.exchanged i j) =
      Action.onState (exchanged i j) ((addFork k change).run s) := by
  rw [run_addFork, run_addFork, getElem?_exchanged h]
  rcases s.cursors[k]? with _ | c
  · rfl
  · simp only [Action.onState, exchanged, exchange_append h.1 h.2, length_exchange]

theorem exchanged_addRemainder (h : s.Numbers i j) (k : Nat) (withPrevious withCurrent : Bool) :
    (addRemainder (Equiv.swap i j k) withPrevious withCurrent).run (s.exchanged i j) =
      Action.onState (exchanged i j) ((addRemainder k withPrevious withCurrent).run s) := by
  rw [run_addRemainder, run_addRemainder, getElem?_exchanged h]
  rcases s.cursors[k]? with _ | c <;> rfl

theorem exchanged_advance (n : Nat) :
    (Session.advance n).run (s.exchanged i j) =
      Action.onState (exchanged i j) ((Session.advance n : Action _ (Reply α)).run s) := by
  have hremainders : (s.exchanged i j).remainders = s.remainders := rfl
  have hbuffer : (s.exchanged i j).buffer = s.buffer := rfl
  rw [run_advance, run_advance, hremainders]
  rcases s.remainders[n]? with _ | r
  · rfl
  · simp only [hbuffer]
    rcases (Buffer.fetch r.landing).run s.buffer with ⟨_ | x, b⟩ | ⟨fault, b⟩ <;> rfl

variable [LineElement α] [DecidableEq α]

/-- **A command comes out alike when two cursors are exchanged** and it names the one for the
other. -/
theorem exchanged_step (h : s.Numbers i j) (command : Command α) :
    (step (command.rename (Equiv.swap i j))).run (s.exchanged i j) =
      Action.onState (exchanged i j) ((step command).run s) :=
  match command with
  | .apply k operation => exchanged_onCursor h k operation.run
  | .fork k => exchanged_addFork h k id
  | .forkPlain k => exchanged_addFork h k Cursor.plain
  | .remaining k withPrevious withCurrent => exchanged_addRemainder h k withPrevious withCurrent
  | .advance n => exchanged_advance n

/-- Cursors that are there stay. -/
theorem Numbers.perform (h : s.Numbers i j) (command : Command α) :
    (s.perform command).2.Numbers i j :=
  have hle := s.length_cursors_le_perform command
  ⟨Nat.lt_of_lt_of_le h.1 hle, Nat.lt_of_lt_of_le h.2 hle⟩

theorem Numbers.run (h : s.Numbers i j) (commands : List (Command α)) :
    (s.run commands).2.Numbers i j := by
  induction commands generalizing s with
  | nil => exact h
  | cons command rest ih => exact ih (h.perform command)

/-- **So does a run.** -/
theorem run_exchanged (h : s.Numbers i j) (commands : List (Command α)) :
    (s.exchanged i j).run (commands.map (.rename (Equiv.swap i j))) =
      ((s.run commands).1, (s.run commands).2.exchanged i j) :=
  run_map (I := Numbers i j) (fun _ command ht => ht.perform command)
    (fun _ command ht => exchanged_step ht command) h commands

/-! ### Cursors that compare equal -/

omit [LineElement α] [DecidableEq α] in
/-- **Where two cursors are at one place, exchanging them moves only marks.** -/
theorem marked_exchanged {a b : Cursor} (ha : s.cursors[i]? = some a) (hb : s.cursors[j]? = some b)
    (hplace : a.location = b.location) : (s.exchanged i j).marked = s.marked := by
  have hi := (List.getElem?_eq_some_iff.1 ha).1
  have hj := (List.getElem?_eq_some_iff.1 hb).1
  have hmarked : a.marked = b.marked := marked_eq_iff.2 hplace
  have hcursors : (exchange i j s.cursors).map Cursor.marked = s.cursors.map Cursor.marked := by
    refine List.ext_getElem? fun k => ?_
    rw [List.getElem?_map, List.getElem?_map, getElem?_exchange hi hj, Equiv.swap_apply_def]
    split
    · next hk => rw [hk, ha, hb, Option.map_some, Option.map_some, hmarked]
    split
    · next hk => rw [hk, ha, hb, Option.map_some, Option.map_some, hmarked]
    · rfl
  simp only [marked, exchanged, hcursors]

/-- What it is for two cursors of a session not to be told apart by some commands: these come out
alike when they name the one for the other, and leave the buffer, with its pulls and its log, and
the remainders the same and all cursors at the same places, those two in each other's stead. -/
structure Indifferent (s : Session α) (i j : Nat) (commands : List (Command α)) : Prop where
  outcomes_eq : (s.run (commands.map (.rename (Equiv.swap i j)))).1 = (s.run commands).1
  buffer_eq : (s.run (commands.map (.rename (Equiv.swap i j)))).2.buffer =
    (s.run commands).2.buffer
  remainders_eq : (s.run (commands.map (.rename (Equiv.swap i j)))).2.remainders =
    (s.run commands).2.remainders
  location_eq : ∀ k,
    (s.run (commands.map (.rename (Equiv.swap i j)))).2.cursors[Equiv.swap i j k]?.map
        Cursor.location =
      (s.run commands).2.cursors[k]?.map Cursor.location

/-- **Cursors at one place cannot be told apart.** -/
theorem indifferent_of_location_eq {a b : Cursor} (ha : s.cursors[i]? = some a)
    (hb : s.cursors[j]? = some b) (hplace : a.location = b.location)
    (commands : List (Command α)) : s.Indifferent i j commands := by
  have hnumbers : s.Numbers i j :=
    ⟨(List.getElem?_eq_some_iff.1 ha).1, (List.getElem?_eq_some_iff.1 hb).1⟩
  have hrun : s.marked.run (commands.map (.rename (Equiv.swap i j))) =
      ((s.run commands).1, ((s.run commands).2.exchanged i j).marked) := by
    rw [← marked_exchanged ha hb hplace, run_marked, run_exchanged hnumbers]
  rw [run_marked, Prod.mk.injEq] at hrun
  obtain ⟨houtcomes, hfinal⟩ := hrun
  have hbuffer := congrArg Session.buffer hfinal
  have hremainders := congrArg Session.remainders hfinal
  refine ⟨houtcomes, hbuffer, hremainders, fun k => ?_⟩
  have hcursor := congrArg (·.cursors[Equiv.swap i j k]?.map Cursor.location) hfinal
  simp only [getElem?_cursors_marked, getElem?_exchanged (hnumbers.run commands),
    Option.map_map] at hcursor
  exact hcursor

/-- A buffer keeps what tells it from the others. -/
theorem key_run {o : Opening α} {key : Nat} {config : Config}
    {keepsLines : Bool} {v : View α} (hopen : o.open? key config keepsLines = .ok v)
    (commands : List (Command α)) : ((start v).run commands).2.buffer.key = key := by
  rw [o.open?_eq] at hopen
  obtain ⟨⟨told, htakes, -⟩, -, -⟩ := View.of_open? hopen
  obtain ⟨told', htakes', -⟩ := (start v).run_takes commands
  exact (htakes.trans htakes').key_eq

end Session

/-- **Equal cursors cannot be told apart.** After any commands that send cursors which keep lines
only to places reported before: two cursors that compare equal, and keep lines alike, report the
same place; and whatever is asked from here on, of either and of all that is made from them, it
makes no difference which of the two is meant. A cursor that compares smaller reports a smaller
place. And a cursor over another buffer, whatever that was opened over and came to, is neither equal
nor ordered. -/
theorem equal_cursors_cannot_be_told_apart [LineElement α] [DecidableEq α] (o : Opening α)
    (key : Nat) (config : Config) (keepsLines : Bool) {v : View α}
    (hopen : o.open? key config keepsLines = .ok v) (commands : List (Command α))
    (hfaithful : (Session.start v).Faithful [] commands) :
    ∀ s, ((Session.start v).run commands).2 = s →
      (∀ i j a b, s.cursors[i]? = some a → s.cursors[j]? = some b →
        a.keepsLines = b.keepsLines → View.sameHead ⟨s.buffer, a⟩ ⟨s.buffer, b⟩ = true →
        a.location = b.location ∧ ∀ later, s.Indifferent i j later) ∧
      (∀ a ∈ s.cursors, ∀ b ∈ s.cursors,
        View.order? ⟨s.buffer, a⟩ ⟨s.buffer, b⟩ = some .lt →
          compare b.location a.location = .gt) ∧
      ∀ (other : Opening α) (key' : Nat) (config' : Config) (keepsLines' : Bool) (v' : View α)
        (commands' : List (Command α)), key ≠ key' →
        other.open? key' config' keepsLines' = .ok v' →
        ∀ a ∈ s.cursors, ∀ b ∈ ((Session.start v').run commands').2.cursors,
          View.sameHead ⟨s.buffer, a⟩ ⟨((Session.start v').run commands').2.buffer, b⟩ = false ∧
          View.order? ⟨s.buffer, a⟩ ⟨((Session.start v').run commands').2.buffer, b⟩ = none := by
  rintro s rfl
  obtain ⟨htruthful, -, -⟩ := (Session.Truthful.start hopen).run hfaithful
  refine ⟨fun i j a b ha hb hkeeps hsame => ?_, fun a ha b hb hlt => ?_, ?_⟩
  · have hindex : a.index = b.index := by simpa [View.sameHead] using hsame
    have hplace : a.location = b.location :=
      (htruthful.cursor a (List.mem_of_getElem? ha)).unique
        (htruthful.cursor b (List.mem_of_getElem? hb)) hindex hkeeps
    exact ⟨hplace, Session.indifferent_of_location_eq ha hb hplace⟩
  · have hindex : a.index < b.index := by
      simpa [View.order?, Int.compare_eq_lt] using hlt
    exact Int.compare_eq_gt.2 hindex
  · intro other key' config' keepsLines' v' commands' hkey hopen' a _ b _
    have hne : ((Session.start v).run commands).2.buffer.key ≠
        ((Session.start v').run commands').2.buffer.key := by
      rwa [Session.key_run hopen, Session.key_run hopen']
    exact ⟨by simp [View.sameHead, hne], if_neg hne⟩

/-- Two heads on one place, of which one has run off the end and come back. What is asked of the one
and of its forks may as well be asked of the other. -/
theorem equal_cursors_cannot_be_told_apart_but_for_the_mark :
    ∃ (v : View Char) (commands : List (Command Char)) (s : Session Char) (a b : Cursor),
      commands = [.apply 0 (.moveBy 1), .fork 0, .apply 1 (.moveBy 3), .apply 1 (.moveBy 3),
        .apply 1 .location] ∧
      (Opening.source [.element 'a', .element '\n', .failure "lost", .element 'b']).open? 0 .quiet
        true = .ok v ∧
      (Session.start v).Faithful [] commands ∧ ((Session.start v).run commands).2 = s ∧
      s.cursors = [a, b] ∧ a = ⟨1, false, some ⟨0, 1⟩⟩ ∧ b = ⟨1, true, some ⟨0, 1⟩⟩ ∧
      View.sameHead ⟨s.buffer, a⟩ ⟨s.buffer, b⟩ = true ∧ a.location = b.location ∧
      s.Indifferent 0 1 [.apply 0 (.moveBy 1), .fork 0, .apply 2 (.moveTo ⟨2, some ⟨1, 0⟩⟩ (-2)),
        .remaining 1 true false, .advance 0] := by
  refine ⟨_, _, _, _, _, rfl, rfl, ?faithful, rfl, ?cursors, rfl, rfl, ?same, ?alike⟩
  case faithful => decide +kernel
  case cursors => decide +kernel
  case same => decide +kernel
  case alike =>
    obtain ⟨halike, -⟩ := equal_cursors_cannot_be_told_apart
      (.source [.element 'a', .element '\n', .failure "lost", .element 'b']) 0 .quiet true rfl
      [.apply 0 (.moveBy 1), .fork 0, .apply 1 (.moveBy 3), .apply 1 (.moveBy 3),
        .apply 1 .location] (by decide +kernel) _ rfl
    obtain ⟨hplace, hindifferent⟩ := halike 0 1 ⟨1, false, some ⟨0, 1⟩⟩ ⟨1, true, some ⟨0, 1⟩⟩
      (by decide +kernel) (by decide +kernel) rfl (by decide +kernel)
    exact ⟨hplace, hindifferent _⟩

end Rewind
