import Rewind.Proofs.Simulation

/-!
# Laziness cannot be observed

A session pulls only what it is asked for, and all its cursors and remainders share one buffer.
None of this shows: over a source that does not fail, **every answer, every fault and every head
are those of the eager machine**, which has the whole text from the start and no buffer at all
(`lazy_eq_eager`). What one cursor is answered therefore depends on its own head alone, not on how
much was pulled before it was asked, nor on who else was asked what in between.

A command of a session is matched by the command of the eager machine (`Session.perform_eq`), as
long as the source does not fail at it, and runs by induction on the commands.
-/

namespace Rewind

variable {α : Type} [LineElement α]

namespace Session

/-- Whether a session stands over a text: what its buffer holds together with what is still to
come is the text. -/
structure Over (s : Session α) (t : Text α) : Prop where
  whole_eq : s.buffer.whole = t.elements
  feeds_eq : s.buffer.feeds = t.feeds

variable {s : Session α} {t : Text α} {known : List Location}

/-- A session goes on standing over its text, whatever it pulls. -/
theorem Over.mono (h : s.Over t) {s' : Session α} {told : List (Entry α)}
    (hb : s.buffer.Takes told s'.buffer) : s'.Over t where
  whole_eq := hb.whole_eq.trans h.whole_eq
  feeds_eq := hb.feeds_eq.trans h.feeds_eq

/-- Each cursor of a session that tells the truth stands over the text. -/
theorem Truthful.ready (h : s.Truthful known) (hover : s.Over t) {i : Nat} {c : Cursor}
    (hc : s.cursors[i]? = some c) : t.Ready ⟨s.buffer, c⟩ where
  truthful := h.cursor c (List.mem_of_getElem? hc)
  whole_eq := hover.whole_eq
  feeds_eq := hover.feeds_eq

variable [DecidableEq α]

/-- An operation of a cursor agrees with its eager meaning. -/
theorem Truthful.agrees (h : s.Truthful known) (hover : s.Over t) {i : Nat} {c : Cursor}
    (hc : s.cursors[i]? = some c) {operation : Operation α}
    (hheeds : s.Heeds known (.apply i operation)) :
    t.Agrees (operation.run.run ⟨s.buffer, c⟩) ((t.run operation).run c) := by
  have hseek : c.position.isSome → ∀ seek, operation.seeks? = some seek →
      seek.1.TrueIn s.buffer := fun hkeeps seek hs => h.known _ (hheeds c hc hkeeps seek hs)
  exact Text.matches_run (v := ⟨s.buffer, c⟩) hseek (h.ready hover hc)

/-- **A command does what it does over a text that is all there**, unless the source fails. -/
theorem Truthful.perform_eq (h : s.Truthful known) (hover : s.Over t) {command : Command α}
    (hheeds : s.Heeds known command) (hsource : (s.perform command).1.source? = none) :
    t.perform s.heads command = ((s.perform command).1, (s.perform command).2.heads) := by
  refine perform_cases (P := fun r => r.1.source? = none →
    t.perform s.heads command = (r.1, r.2.heads)) s command
    ?absent ?applied ?failed ?forked ?begun ?advanced ?ended ?broken hsource
  case absent =>
    intro hlacks _
    rcases command with _ | _ | _ | _ | _ <;>
      simp only [Lacks] at hlacks <;> simp only [Text.perform, heads, hlacks]
  case applied =>
    intro i operation c reply w hcommand hc hrun _
    subst hcommand
    have hagrees := h.agrees hover hc hheeds
    rw [hrun] at hagrees
    simp only [Text.perform, heads, hc, hagrees.1]
  case failed =>
    intro i operation c fault w hcommand hc hrun hsource
    subst hcommand
    have hagrees := h.agrees hover hc hheeds
    rw [hrun] at hagrees
    rcases hagrees with ⟨m, rfl⟩ | heager
    · cases hsource
    · simp only [Text.perform, heads, hc, heager]
  case forked =>
    intro i c change hcommand hc _
    rcases hcommand with ⟨rfl, rfl⟩ | ⟨rfl, rfl⟩
    · simp only [Text.perform, heads, hc, id]
    · simp only [Text.perform, heads, hc]
  case begun =>
    intro i c withPrevious withCurrent hcommand hc _
    subst hcommand
    simp only [Text.perform, heads, hc]
  case advanced =>
    intro j r x b hcommand hr hrun _
    subst hcommand
    obtain ⟨-, -, hx⟩ := Buffer.of_run_fetch hrun
    rw [hover.whole_eq] at hx
    simp only [Text.perform, heads, hr, ← hx]
  case ended =>
    intro j r b hcommand hr hrun _
    subst hcommand
    obtain ⟨-, -, hx⟩ := Buffer.of_run_fetch hrun
    rw [hover.whole_eq] at hx
    simp only [Text.perform, heads, hr, ← hx]
  -- Without a failure of the source a remainder cannot fail.
  case broken =>
    intro j r fault b _ _ hrun hsource
    obtain ⟨m, rfl⟩ := Buffer.fault_of_run_fetch hrun
    cases hsource

/-- **A run does what it does over a text that is all there**, if the source fails nowhere. -/
theorem Truthful.run_eq (h : s.Truthful known) (hover : s.Over t) {commands : List (Command α)}
    (hfaithful : s.Faithful known commands)
    (hsource : (s.run commands).1.filterMap Outcome.source? = []) :
    t.performAll s.heads commands = ((s.run commands).1, (s.run commands).2.heads) := by
  induction commands generalizing s known with
  | nil => rfl
  | cons command rest ih =>
    obtain ⟨hheeds, hrest⟩ := hfaithful
    rw [run_cons, List.filterMap_eq_nil_iff] at hsource
    have hfirst := hsource _ List.mem_cons_self
    have hlater : ((s.perform command).2.run rest).1.filterMap Outcome.source? = [] := by
      rw [List.filterMap_eq_nil_iff]
      exact fun outcome ho => hsource outcome (List.mem_cons_of_mem _ ho)
    obtain ⟨told, hb, -⟩ := s.perform_takes command
    have hstep := h.perform_eq hover hheeds hfirst
    have hruns := ih (h.perform hheeds).truthful (hover.mono hb) hrest hlater
    rw [Text.performAll, hstep, run_cons]
    simp only [hruns]

/-- Two sessions over one text answer an operation alike to cursors with the same head, and leave
them with the same head, whatever their buffers hold. -/
theorem Truthful.perform_apply_eq {s' : Session α} {known' : List Location}
    (h : s.Truthful known) (h' : s'.Truthful known') (hover : s.Over t) (hover' : s'.Over t)
    {i j : Nat} {operation : Operation α} {c : Cursor} (hc : s.cursors[i]? = some c)
    (hc' : s'.cursors[j]? = some c) (hheeds : s.Heeds known (.apply i operation))
    (hheeds' : s'.Heeds known' (.apply j operation))
    (hsource : (s.perform (.apply i operation)).1.source? = none)
    (hsource' : (s'.perform (.apply j operation)).1.source? = none) :
    (s.perform (.apply i operation)).1 = (s'.perform (.apply j operation)).1 ∧
      (s.perform (.apply i operation)).2.cursors[i]? =
        (s'.perform (.apply j operation)).2.cursors[j]? := by
  have hi := (List.getElem?_eq_some_iff.1 hc).1
  have hj := (List.getElem?_eq_some_iff.1 hc').1
  have hstep := h.perform_eq hover hheeds hsource
  have hstep' := h'.perform_eq hover' hheeds' hsource'
  simp only [Text.perform, heads, hc] at hstep
  simp only [Text.perform, heads, hc'] at hstep'
  rcases hrun : (t.run operation).run c with ⟨reply, d⟩ | ⟨fault, d⟩
  all_goals
    rw [hrun] at hstep hstep'
    simp only [Prod.mk.injEq, Heads.mk.injEq] at hstep hstep'
    obtain ⟨hanswer, hcursors, -⟩ := hstep
    obtain ⟨hanswer', hcursors', -⟩ := hstep'
    refine ⟨hanswer.symm.trans hanswer', ?_⟩
    rw [← hcursors, ← hcursors', List.getElem?_set_self hi, List.getElem?_set_self hj]

omit [DecidableEq α] in
/-- A session that has just been opened stands over what its script brings, with the head that the
eager machine starts with. -/
theorem over_start {o : Opening α} {key : Nat} {config : Config} {keepsLines : Bool} {v : View α}
    (hopen : o.open? key config keepsLines = .ok v) :
    (start v).Over ⟨o.script.yield, config.feeds⟩ ∧
      (start v).heads = Text.start ⟨o.script.yield, config.feeds⟩ keepsLines := by
  rw [o.open?_eq] at hopen
  obtain ⟨⟨told, hb, -⟩, hsettles, hcursor⟩ := View.of_open? hopen
  have hwhole : v.buffer.whole = o.script.yield := hb.whole_eq
  refine ⟨⟨hwhole, by rw [start, Buffer.feeds, hb.config_eq]; rfl⟩, ?_⟩
  have hempty : v.buffer.items.isEmpty = o.script.yield.isEmpty := by
    have hiff := hsettles.lt_iff
    rw [hwhole, List.length_pos_iff] at hiff
    rw [Bool.eq_iff_iff, Array.isEmpty_iff_size_eq_zero, List.isEmpty_iff]
    rcases hnil : o.script.yield with _ | ⟨x, rest⟩
    · simp only [hnil, ne_eq, not_true_eq_false, false_iff, iff_true] at hiff ⊢
      omega
    · simp only [hnil, ne_eq, reduceCtorEq, not_false_eq_true, true_iff, iff_false] at hiff ⊢
      omega
  rw [start, heads, hcursor, Cursor.atStart, hempty, Text.start, View.initial]
  rcases o.script.yield with _ | ⟨x, rest⟩ <;> rcases keepsLines <;> rfl

end Session

/-- **Lazy equals eager.** Over a source that does not fail, a cursor can be opened; and whatever
commands are then carried out, of which those that send a cursor which keeps lines send it to a
place reported before, they come out as over the text that the source brings before it is
exhausted, held from the start. In particular, what a head is answered, and where it goes, is the
same in any two sessions that may arise. -/
theorem lazy_eq_eager [DecidableEq α] (o : Opening α) (key : Nat) (config : Config)
    (keepsLines : Bool) (hfailures : Source.failures o.script = []) :
    ∃ v, o.open? key config keepsLines = .ok v ∧
      (∀ commands, (Session.start v).Faithful [] commands →
        (Text.mk o.script.yield config.feeds).performAll
            (Text.start ⟨o.script.yield, config.feeds⟩ keepsLines) commands =
          (((Session.start v).run commands).1, ((Session.start v).run commands).2.heads)) ∧
      ∀ commands commands' i j operation c,
        (Session.start v).Faithful [] (commands ++ [.apply i operation]) →
        (Session.start v).Faithful [] (commands' ++ [.apply j operation]) →
        ((Session.start v).run commands).2.cursors[i]? = some c →
        ((Session.start v).run commands').2.cursors[j]? = some c →
        (((Session.start v).run commands).2.perform (.apply i operation)).1 =
            (((Session.start v).run commands').2.perform (.apply j operation)).1 ∧
          (((Session.start v).run commands).2.perform (.apply i operation)).2.cursors[i]? =
            (((Session.start v).run commands').2.perform (.apply j operation)).2.cursors[j]? := by
  obtain ⟨v, hopen⟩ : ∃ v, o.open? key config keepsLines = .ok v := by
    rcases hopen : o.open? key config keepsLines with fault | v
    · rw [o.open?_eq] at hopen
      obtain ⟨m, rest, hscript, -⟩ := View.open?_eq_error_iff.1 hopen
      rw [hscript] at hfailures
      cases hfailures
    · exact ⟨v, rfl⟩
  obtain ⟨hover, hheads⟩ := Session.over_start hopen
  have htruthful := Session.Truthful.start hopen
  -- No pull of the session meets a failure.
  have hsource (commands : List (Command α)) :
      ((Session.start v).run commands).1.filterMap Outcome.source? = [] := by
    have hopen' := hopen
    rw [o.open?_eq] at hopen'
    obtain ⟨⟨told, hb, -⟩, -, -⟩ := View.of_open? hopen'
    obtain ⟨told', hb', hfailures'⟩ := (Session.start v).run_takes commands
    have htells := (hb.trans hb').tells.failures_eq_nil hfailures
    rw [Source.failures_append, List.append_eq_nil_iff] at htells
    rw [← hfailures', htells.2]
  -- What is true before the last command of a faithful run.
  have hlast (commands : List (Command α)) (command : Command α)
      (hfaithful : (Session.start v).Faithful [] (commands ++ [command])) :
      ∃ known, ((Session.start v).run commands).2.Truthful known ∧
        ((Session.start v).run commands).2.Over ⟨o.script.yield, config.feeds⟩ ∧
        ((Session.start v).run commands).2.Heeds known command ∧
        (((Session.start v).run commands).2.perform command).1.source? = none := by
    obtain ⟨hfirst, hheeds, -⟩ := hfaithful.append
    obtain ⟨told, hb, -⟩ := (Session.start v).run_takes commands
    have hall := hsource (commands ++ [command])
    rw [Session.run_append, List.filterMap_append, List.append_eq_nil_iff] at hall
    exact ⟨_, (htruthful.run hfirst).1, hover.mono hb, hheeds,
      List.filterMap_eq_nil_iff.1 hall.2 _ List.mem_cons_self⟩
  refine ⟨v, hopen, fun commands hfaithful => ?_, ?_⟩
  · rw [← hheads]
    exact htruthful.run_eq hover hfaithful (hsource commands)
  · intro commands commands' i j operation c hfaithful hfaithful' hc hc'
    obtain ⟨known, htrue, hstands, hheeds, hfine⟩ := hlast commands _ hfaithful
    obtain ⟨known', htrue', hstands', hheeds', hfine'⟩ := hlast commands' _ hfaithful'
    exact htrue.perform_apply_eq htrue' hstands hstands' hc hc' hheeds hheeds' hfine hfine'

/-- A text behind whose end the source goes on: the cursor that keeps lines runs off its end, is
sent back to a place it reported, and a fork without lines reads on. -/
theorem lazy_eq_eager_past_end :
    Source.failures [.element 'a', .element '\n', .element 'b', .exhaustion, .element 'c'] = [] ∧
      ∃ (v : View Char) (commands : List (Command Char)),
        commands = [.apply 0 .location, .apply 0 (.moveBy 5), .apply 0 .readNext,
          .apply 0 (.moveTo ⟨0, some ⟨0, 0⟩⟩ 2), .forkPlain 0,
          .apply 1 (.moveTo ⟨7, none⟩ (-6))] ∧
        (Opening.source [.element 'a', .element '\n', .element 'b', .exhaustion,
          .element 'c']).open? 0 .quiet true = .ok v ∧
        (Session.start v).Faithful [] commands ∧
        (Text.mk ['a', '\n', 'b'] Config.quiet.feeds).performAll
            (Text.start ⟨['a', '\n', 'b'], Config.quiet.feeds⟩ true) commands =
          (((Session.start v).run commands).1, ((Session.start v).run commands).2.heads) := by
  refine ⟨rfl, ?_⟩
  obtain ⟨v, hopen, heager, -⟩ := lazy_eq_eager
    (.source [.element 'a', .element '\n', .element 'b', .exhaustion, .element 'c']) 0 .quiet true
    rfl
  refine ⟨v, _, rfl, hopen, ?_, heager _ ?_⟩
  all_goals
    cases hopen
    decide

end Rewind
