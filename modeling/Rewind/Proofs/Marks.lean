import Rewind.Proofs.Endings
import Rewind.Proofs.Plain
import Rewind.Proofs.Resuming

/-!
# Marks record moves that ran off the end

The mark `reachedEnd` of a cursor says that a move has failed because the source ran out. It is set
in one place and reached by many operations, some of which look first and never get there, and
forks take it over. **A cursor is marked if and only if the text is empty or one of its own steps,
or of those that it took over when it was forked, was answered and ran off the end of the text**
(`Session.Marked`).

Over a text that is all there this is known of each operation (`Text.On.marks_run`). A cursor over a
source answers as one over such a text does, if it keeps no lines, and one that keeps lines is sent
to the same places. So it is left to see that a failure of the source leaves the mark as it was
(`View.Stands.reachedEnd_of_source`). Then one command marks at most the cursor that it is for
(`Session.Stands.reachedEnd_perform`), and a run is followed with the history of each cursor
(`Session.histories`).
-/

namespace Rewind

variable {α : Type} [DecidableEq α]

open Cursor

/-! ### Steps and histories -/

/-- What was asked of a cursor, where its head was and what that came to. -/
structure Asked (α : Type) where
  index : Int
  operation : Operation α
  outcome : Outcome α

/-- Whether a step was answered and ran off the end of the text. -/
def Asked.RanOff (text : List α) (step : Asked α) : Prop :=
  match step.outcome with
  | .answered _ => step.operation.RunsOff text step.index
  | .failed _ => False

namespace Session

variable [LineElement α]

/-- The step that a command is for the cursor `i`, if it is one. -/
def stepOf? (s : Session α) (command : Command α) (i : Nat) : Option (Asked α) :=
  match command with
  | .apply j operation =>
    if i = j then
      s.cursors[i]?.map fun c => ⟨c.index, operation, (s.perform (.apply j operation)).1⟩
    else none
  | _ => none

/-- The histories of the cursors, each known by its number, after one more command. A fork takes
over that of the cursor it was made from. -/
def remember (s : Session α) (past : Nat → List (Asked α)) (command : Command α) (i : Nat) :
    List (Asked α) :=
  match command with
  | .fork j | .forkPlain j => if i = s.cursors.length then past j else past i
  | _ => past i ++ (s.stepOf? command i).toList

/-- The histories of the cursors after some commands. -/
def histories (s : Session α) (past : Nat → List (Asked α)) :
    List (Command α) → Nat → List (Asked α)
  | [] => past
  | command :: rest => (s.perform command).2.histories (s.remember past command) rest

/-- Whether each cursor is marked exactly when the text is empty or one of the steps of its history
ran off the end. -/
def Marked (text : List α) (past : Nat → List (Asked α)) (s : Session α) : Prop :=
  ∀ i c, s.cursors[i]? = some c →
    (c.reachedEnd = true ↔ text = [] ∨ ∃ step ∈ past i, step.RanOff text)

end Session

/-! ### One operation -/

/-- Lines have nothing to do with it. -/
theorem Operation.runsOff_plain (operation : Operation α) (text : List α) (h : Int) :
    operation.plain.RunsOff text h = operation.RunsOff text h := by
  cases operation <;> rfl

namespace View.Stands

variable [LineElement α] {v w : View α} {operation : Operation α} {m : String}

/-- An operation that the source lets down leaves the mark as it was. -/
theorem reachedEnd_of_source (hv : v.Stands) (hindex : 0 ≤ v.cursor.index)
    (hrun : operation.run.run v = .error (.source m) w) :
    w.cursor.reachedEnd = v.cursor.reachedEnd := by
  have hshot (h : operation.IsSingleShot) : w.cursor.reachedEnd = v.cursor.reachedEnd := by
    obtain ⟨r, hpersists, -⟩ := Operation.recovers_run h v.purged v v.clears_purged
    exact congrArg Cursor.reachedEnd (hpersists.extends_of_source hrun).cursor_eq
  cases operation with
  | readWhile m =>
    exact (Operation.WalksWhile.interrupted (.readWhile m) hv hindex hrun).reachedEnd_eq
  | readNextWhile m =>
    exact (Operation.WalksWhile.interrupted (.readNextWhile m) hv hindex hrun).reachedEnd_eq
  | skipWhile m =>
    exact (Operation.WalksWhile.interrupted (.skipWhile m) hv hindex hrun).reachedEnd_eq
  | skipBlank blank endCounts =>
    exact (Operation.WalksWhile.interrupted (.skipBlank blank endCounts) hv hindex
      hrun).reachedEnd_eq
  | _ => exact hshot trivial

omit [DecidableEq α] [LineElement α] in
/-- A head that stands on an element is on a place of the text. -/
theorem on_text {t : Text α} (hv : v.Stands) (hindex : 0 ≤ v.cursor.index)
    (ht : t.elements = v.buffer.whole) : t.On v.plain.cursor v.cursor.index.toNat where
  index_eq := (Int.toNat_of_nonneg hindex).symm
  lt_length := by
    have hlt := (Buffer.holds_iff.1 (hv.holds hindex)).2
    have hle := v.buffer.size_le_whole
    rw [ht]
    omega
  le_lastPlace := by
    have hfits := hv.fits
    unfold Fits lastPlace at *
    omega

/-- Before an empty text a head is marked for good. -/
theorem reachedEnd_of_neg (hv : v.Stands) (hneg : v.cursor.index < 0)
    (operation : Operation α) :
    v.cursor.reachedEnd = true ∧
      Action.Ends (fun _ w => w.cursor.reachedEnd = true) (operation.run.run v) := by
  have hplace := hv.place.resolve_left fun hheld =>
    Int.not_lt.2 (Buffer.holds_iff.1 hheld).1 hneg
  obtain ⟨-, hend, hitems, hsource⟩ := hplace
  have hstanding := Judgement.ofRelation_iff.1 (View.standing_run operation v)
  have hpulls := Judgement.ofRelation_iff.1 (View.pulling_run operation v)
  have hmarked {w : View α} (hw : w.Stands) (hb : ∃ told, v.buffer.Takes told w.buffer) :
      w.cursor.reachedEnd = true := by
    obtain ⟨told, hb⟩ := hb
    obtain ⟨-, hitems', -⟩ := hb.eq_of_exhausted hsource
    rcases hw.place with hheld | ⟨-, hend', -⟩
    · rw [Buffer.holds_iff, hitems', hitems] at hheld
      exact absurd hheld.2 (Int.not_lt.2 hheld.1)
    · exact hend'
  refine ⟨hend, ?_⟩
  rcases hrun : operation.run.run v with ⟨reply, w⟩ | ⟨fault, w⟩
  · obtain ⟨told, hb, -⟩ := hpulls.of_ok hrun
    exact hmarked (hstanding.of_ok hrun hv).1 ⟨told, hb⟩
  · obtain ⟨told, hb, -⟩ := hpulls.of_error hrun
    exact hmarked (hstanding.of_error hrun hv).1 ⟨told, hb⟩

/-- **An operation that is answered marks its cursor exactly when it runs off the end, and one that
fails leaves the mark as it was.** -/
theorem reachedEnd_of_run (hv : v.Stands) (operation : Operation α) :
    match operation.run.run v with
    | .ok _ w => w.cursor.reachedEnd = true ↔
        v.cursor.reachedEnd = true ∨ operation.RunsOff v.buffer.whole v.cursor.index
    | .error _ w => w.cursor.reachedEnd = v.cursor.reachedEnd := by
  by_cases hneg : v.cursor.index < 0
  · obtain ⟨hend, hmarked⟩ := hv.reachedEnd_of_neg hneg operation
    rcases hrun : operation.run.run v with ⟨reply, w⟩ | ⟨fault, w⟩
    · exact iff_of_true (hmarked.of_ok hrun) (.inl hend)
    · exact (hmarked.of_error hrun).trans hend.symm
  have hindex := Int.not_lt.1 hneg
  by_cases hshared : operation = .isStartOfLine
  · subst hshared
    exact (or_iff_left id).symm
  rcases operation.run_plain hv hshared with ⟨hrefused, -⟩ | halike
  · rw [hrefused]
  -- Without its lines the head is over a text that might as well be all there.
  let t : Text α := ⟨v.buffer.whole, v.buffer.feeds⟩
  have hready : t.Ready v.plain := ⟨hv.plain_truthful, rfl, rfl⟩
  have hagrees : t.Agrees (operation.plain.run.run v.plain)
      ((t.run operation.plain).run v.plain.cursor) :=
    Text.matches_run (fun hlines : v.plain.cursor.position.isSome = true =>
      absurd hlines Bool.false_ne_true) hready
  have hmarks := (hv.on_text (t := t) hindex rfl).marks_run operation.plain
  rw [halike] at hagrees
  rcases hrun : operation.run.run v with ⟨reply, w⟩ | ⟨fault, w⟩
  · rw [hrun] at hagrees
    obtain ⟨heager, -⟩ := hagrees
    rw [heager, operation.runsOff_plain] at hmarks
    exact hmarks
  · rw [hrun] at hagrees
    rcases hagrees with ⟨m, rfl⟩ | heager
    · exact hv.reachedEnd_of_source hindex hrun
    · rw [heager] at hmarks
      exact hmarks

end View.Stands

/-! ### One command -/

namespace Session

variable [LineElement α] {s : Session α} {text : List α} {i : Nat} {c d : Cursor}

/-- **A command marks at most the cursor that it is for**, and that one exactly when the step runs
off the end. No command takes a mark away. -/
theorem Stands.reachedEnd_perform (hstands : s.Stands) (hwhole : s.buffer.whole = text)
    (command : Command α) (hc : s.cursors[i]? = some c)
    (hd : (s.perform command).2.cursors[i]? = some d) :
    d.reachedEnd = true ↔ c.reachedEnd = true ∨ ∃ operation, command = .apply i operation ∧
      Asked.RanOff text ⟨c.index, operation, (s.perform command).1⟩ := by
  obtain ⟨hlt, -⟩ := List.getElem?_eq_some_iff.1 hc
  have hstay (outcome : Outcome α) (hother : ∀ operation, command ≠ .apply i operation) :
      c.reachedEnd = true ↔ c.reachedEnd = true ∨ ∃ operation, command = .apply i operation ∧
        Asked.RanOff text ⟨c.index, operation, outcome⟩ :=
    (or_iff_left fun ⟨operation, hcommand, _⟩ => hother operation hcommand).symm
  have hother (outcome : Outcome α) {j : Nat} {operation : Operation α}
      (hcommand : command = .apply j operation) (hij : j ≠ i) :=
    hstay outcome fun operation' happly => by
      cases hcommand.symm.trans happly
      exact hij rfl
  have hv : View.Stands ⟨s.buffer, c⟩ := hstands c (List.mem_of_getElem? hc)
  have hrun := hv.reachedEnd_of_run
  revert d
  refine perform_cases (P := fun r => ∀ {d}, r.2.cursors[i]? = some d →
    (d.reachedEnd = true ↔ c.reachedEnd = true ∨ ∃ operation, command = .apply i operation ∧
      Asked.RanOff text ⟨c.index, operation, r.1⟩)) s command
    ?absent ?applied ?failed ?forked ?begun ?advanced ?ended ?broken
  case absent =>
    intro hlacks d hd
    cases hd.symm.trans hc
    refine hstay _ fun operation hcommand => ?_
    subst hcommand
    cases hc.symm.trans hlacks
  case applied =>
    intro j operation e reply w hcommand he hok d hd
    by_cases hij : j = i
    · subst hij
      cases he.symm.trans hc
      rw [List.getElem?_set_self hlt] at hd
      cases hd
      have hmark := hrun operation
      rw [hok, hwhole] at hmark
      refine hmark.trans (or_congr_right ⟨fun hends => ⟨operation, hcommand, hends⟩, ?_⟩)
      rintro ⟨operation', hcommand', hends⟩
      cases hcommand.symm.trans hcommand'
      exact hends
    · rw [List.getElem?_set_ne hij] at hd
      cases hd.symm.trans hc
      exact hother _ hcommand hij
  case failed =>
    intro j operation e fault w hcommand he herror d hd
    by_cases hij : j = i
    · subst hij
      cases he.symm.trans hc
      rw [List.getElem?_set_self hlt] at hd
      cases hd
      have hmark := hrun operation
      rw [herror] at hmark
      rw [hmark]
      exact (or_iff_left fun ⟨_, _, hends⟩ => hends).symm
    · rw [List.getElem?_set_ne hij] at hd
      cases hd.symm.trans hc
      exact hother _ hcommand hij
  case forked =>
    intro j e change hcommand _ d hd
    rw [List.getElem?_append_left hlt] at hd
    cases hd.symm.trans hc
    refine hstay _ fun operation happly => ?_
    rcases hcommand with ⟨hfork, -⟩ | ⟨hfork, -⟩ <;> cases hfork.symm.trans happly
  case begun =>
    intro j e withPrevious withCurrent hcommand _ d hd
    cases hd.symm.trans hc
    exact hstay _ fun operation happly => nomatch hcommand.symm.trans happly
  case advanced =>
    intro j r x b hcommand _ _ d hd
    cases hd.symm.trans hc
    exact hstay _ fun operation happly => nomatch hcommand.symm.trans happly
  case ended =>
    intro j r b hcommand _ _ d hd
    cases hd.symm.trans hc
    exact hstay _ fun operation happly => nomatch hcommand.symm.trans happly
  case broken =>
    intro j r fault b hcommand _ _ d hd
    cases hd.symm.trans hc
    exact hstay _ fun operation happly => nomatch hcommand.symm.trans happly

/-- The step of a cursor. -/
theorem exists_mem_stepOf? (hc : s.cursors[i]? = some c) (command : Command α) :
    (∃ step ∈ (s.stepOf? command i).toList, step.RanOff text) ↔
      ∃ operation, command = .apply i operation ∧
        Asked.RanOff text ⟨c.index, operation, (s.perform command).1⟩ := by
  cases command with
  | apply j operation =>
    rw [stepOf?]
    by_cases hij : i = j
    · subst hij
      simp [hc]
    · simp [hij, Ne.symm hij]
  | _ => simp [stepOf?]

/-- What a command adds to the history of a cursor that was there before is its step. -/
theorem remember_of_getElem? (past : Nat → List (Asked α)) (command : Command α)
    (hc : s.cursors[i]? = some c) :
    s.remember past command i = past i ++ (s.stepOf? command i).toList := by
  obtain ⟨hlt, -⟩ := List.getElem?_eq_some_iff.1 hc
  cases command with
  | fork | forkPlain =>
    rw [remember, if_neg (Nat.ne_of_lt hlt)]
    exact (List.append_nil _).symm
  | _ => rfl

/-- A cursor that was not there before is a fork, with the mark and the history of the cursor it was
made from. -/
theorem remember_of_none (past : Nat → List (Asked α)) (command : Command α)
    (hnone : s.cursors[i]? = none) (hd : (s.perform command).2.cursors[i]? = some d) :
    ∃ j c, s.cursors[j]? = some c ∧ d.reachedEnd = c.reachedEnd ∧
      s.remember past command i = past j := by
  have hle := List.getElem?_eq_none_iff.1 hnone
  have hset (j : Nat) (e : Cursor) : (s.cursors.set j e)[i]? = none :=
    List.getElem?_eq_none (by rw [List.length_set]; exact hle)
  revert d
  refine perform_cases (P := fun r => ∀ {d}, r.2.cursors[i]? = some d →
    ∃ j c, s.cursors[j]? = some c ∧ d.reachedEnd = c.reachedEnd ∧
      s.remember past command i = past j) s command
    ?absent ?applied ?failed ?forked ?begun ?advanced ?ended ?broken
  case absent => exact fun _ _ hd => nomatch hd.symm.trans hnone
  case applied => exact fun _ _ _ _ _ _ _ _ _ hd => nomatch hd.symm.trans (hset _ _)
  case failed => exact fun _ _ _ _ _ _ _ _ _ hd => nomatch hd.symm.trans (hset _ _)
  case forked =>
    intro j c change hcommand hc d hd
    rw [List.getElem?_append_right hle, List.getElem?_singleton] at hd
    split at hd
    case isFalse => cases hd
    case isTrue hfirst =>
      cases hd
      have hlast : i = s.cursors.length := by omega
      refine ⟨j, c, hc, ?_, ?_⟩
      · rcases hcommand with ⟨-, rfl⟩ | ⟨-, rfl⟩ <;> rfl
      · rcases hcommand with ⟨rfl, -⟩ | ⟨rfl, -⟩ <;> exact if_pos hlast
  case begun => exact fun _ _ _ _ _ _ _ hd => nomatch hd.symm.trans hnone
  case advanced => exact fun _ _ _ _ _ _ _ _ hd => nomatch hd.symm.trans hnone
  case ended => exact fun _ _ _ _ _ _ _ hd => nomatch hd.symm.trans hnone
  case broken => exact fun _ _ _ _ _ _ _ _ hd => nomatch hd.symm.trans hnone

/-- What the marks of a session tell of its history they tell after one more command. -/
theorem Marked.perform {past : Nat → List (Asked α)} (h : s.Marked text past)
    (hstands : s.Stands) (hwhole : s.buffer.whole = text) (command : Command α) :
    (s.perform command).2.Marked text (s.remember past command) := by
  intro i d hd
  rcases hc : s.cursors[i]? with _ | c
  · obtain ⟨j, c, hcj, hmark, hpast⟩ := remember_of_none past command hc hd
    rw [hmark, hpast]
    exact h j c hcj
  · rw [hstands.reachedEnd_perform hwhole command hc hd, h i c hc,
      remember_of_getElem? past command hc, or_assoc, ← exists_mem_stepOf? hc]
    simp only [List.mem_append, or_and_right, exists_or]

/-- **The marks of a session tell of its history after every run.** -/
theorem Marked.run {past : Nat → List (Asked α)} (h : s.Marked text past) (hstands : s.Stands)
    (hwhole : s.buffer.whole = text) (commands : List (Command α)) :
    (s.run commands).2.Marked text (s.histories past commands) := by
  induction commands generalizing s past with
  | nil => exact h
  | cons command rest ih =>
    obtain ⟨told, hb, -⟩ := s.perform_takes command
    exact ih (h.perform hstands hwhole command) (hstands.perform command).1
      (hb.whole_eq.trans hwhole)

omit [LineElement α] in
/-- A cursor that has just been opened is marked if the text is empty. -/
theorem Marked.start {o : Opening α} {key : Nat} {config : Config} {keepsLines : Bool}
    {v : View α} (hopen : o.open? key config keepsLines = .ok v) :
    (start v).Marked o.script.yield fun _ => [] := by
  rw [o.open?_eq] at hopen
  obtain ⟨⟨told, hb, -⟩, hsettles, hcursor⟩ := View.of_open? hopen
  have hwhole : v.buffer.whole = o.script.yield := hb.whole_eq
  have hempty : v.buffer.items.isEmpty = true ↔ o.script.yield = [] := by
    have hpos := hsettles.lt_iff
    rw [hwhole, List.length_pos_iff] at hpos
    rw [Array.isEmpty_iff_size_eq_zero]
    exact Decidable.not_iff_not.1 (Nat.pos_iff_ne_zero.symm.trans hpos.symm)
  intro i c hc
  rw [List.mem_singleton.1 (List.mem_of_getElem? hc), hcursor, Cursor.atStart, ← hempty]
  split
  case isTrue hitems => exact iff_of_true rfl (.inl hitems)
  case isFalse hitems => simp [hitems]

end Session

/-- **A cursor is marked if and only if the text is empty or a step of its history ran off the
end.** This is so after every run over any source, whatever is asked of its cursors and their forks,
where the history of a fork goes on from that of the cursor it was made from. And of all cursors a
command can only mark the one that it is for, by being answered and running off the end. A run of
characters that is read into a string is a run that is read. -/
theorem marks_tell_of_running_off [LineElement α] {o : Opening α} {key : Nat} {config : Config}
    {keepsLines : Bool} {v : View α} (hopen : o.open? key config keepsLines = .ok v)
    (commands : List (Command α)) {i : Nat} {c : Cursor}
    (hc : ((Session.start v).run commands).2.cursors[i]? = some c) :
    (c.reachedEnd = true ↔ o.script.yield = [] ∨
      ∃ step ∈ (Session.start v).histories (fun _ => []) commands i,
        step.RanOff o.script.yield) ∧
    (∀ command d, (((Session.start v).run commands).2.perform command).2.cursors[i]? = some d →
      (d.reachedEnd = true ↔ c.reachedEnd = true ∨ ∃ operation, command = .apply i operation ∧
        Asked.RanOff o.script.yield
          ⟨c.index, operation, (((Session.start v).run commands).2.perform command).1⟩)) ∧
    ∀ (m : Matcher Char) (u : View Char),
      (Cursor.readStringWhile m).run u = match (Cursor.readWhile m).run u with
        | .ok xs w => .ok (String.ofList xs) w
        | .error fault w => .error fault w := by
  have hstands := Session.Stands.start hopen
  have hreached : ((Session.start v).run commands).2.Reached o.script :=
    ⟨o, key, config, keepsLines, v, commands, rfl, hopen, rfl⟩
  have hwhole : (Session.start v).buffer.whole = o.script.yield :=
    Session.Reached.whole_eq ⟨o, key, config, keepsLines, v, [], rfl, hopen, rfl⟩
  exact ⟨(Session.Marked.start hopen).run hstands hwhole commands i c hc, fun command d hd =>
    (hstands.run commands).1.reachedEnd_perform hreached.whole_eq command hc hd,
    Cursor.run_readStringWhile⟩

/-- Two letters and a failure between them: the cursor that was let down and then stood on the
second one is not marked, and its fork that read it there is. -/
theorem marks_tell_of_running_off_fork :
    ∃ (v : View Char) (commands : List (Command Char)),
      (Opening.source [.element 'a', .failure "cut", .element 'b']).open? 0 .quiet false = .ok v ∧
      commands = [.apply 0 .readNext, .apply 0 .readNext, .fork 0, .apply 1 .read] ∧
      (¬ ∃ step ∈ (Session.start v).histories (fun _ => []) commands 0, step.RanOff ['a', 'b']) ∧
      ∃ step ∈ (Session.start v).histories (fun _ => []) commands 1, step.RanOff ['a', 'b'] := by
  let v : View Char :=
    ⟨{ key := 0
       items := #['a']
       source := some [.failure "cut", .element 'b']
       config := .quiet
       pulls := 1 }, ⟨0, false, none⟩⟩
  have hopen : (Opening.source [.element 'a', .failure "cut", .element 'b']).open? 0 .quiet false =
      .ok v := rfl
  have hmarks (i : Nat) (c : Cursor) :=
    marks_tell_of_running_off hopen
      [.apply 0 .readNext, .apply 0 .readNext, .fork 0, .apply 1 .read] (i := i) (c := c)
  have hcursor := (hmarks 0 ⟨1, false, none⟩ (by decide +kernel)).1
  have hfork := (hmarks 1 ⟨1, true, none⟩ (by decide +kernel)).1
  exact ⟨v, _, hopen, rfl, fun hran => Bool.false_ne_true (hcursor.2 (.inr hran)),
    (hfork.1 rfl).resolve_left (by decide)⟩

end Rewind
