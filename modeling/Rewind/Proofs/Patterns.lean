import Rewind.Proofs.Runs

/-!
# Patterns

Over a source that never fails, and that ends before the places do, matching a pattern is exact: it
finds the pattern at a place, ahead of the head or behind it, **if and only if the text has it
there** (`Occurs`). A read of a pattern takes all of it or nothing. The two styles differ at the end
of the text, where the read has nowhere to go (`patterns_match_exactly`).

* A read goes on to the place behind the pattern. Where the pattern ends the text there is none: the
  head stays, and has found that the source has run out.
* A read of the next goes on to the last element of the pattern, which is there if the pattern is.

How much a pattern and the text have in common is known (`View.OnPlace.run_matchesAt`), and so is
when matching may be refused: only beyond the last place, which a text that ends before does not
reach.
-/

namespace Rewind

variable {α : Type}

open Cursor

/-! ### Occurrences -/

/-- Whether a text has a pattern at a place, all of it. -/
def Occurs (pattern text : List α) (i : Int) : Prop :=
  0 ≤ i ∧ i + pattern.length ≤ text.length ∧
    text.extract i.toNat (i.toNat + pattern.length) = pattern

instance [DecidableEq α] (pattern text : List α) (i : Int) : Decidable (Occurs pattern text i) :=
  inferInstanceAs (Decidable (_ ∧ _ ∧ _))

/-- An empty text has no pattern. -/
theorem not_occurs_nil {pattern : List α} (hne : pattern ≠ []) (i : Int) :
    ¬ Occurs pattern [] i := by
  rintro ⟨hnonneg, hle, -⟩
  have hpos := List.length_pos_iff.2 hne
  rw [List.length_nil] at hle
  omega

section Common

variable [DecidableEq α] {pattern text : List α}

/-- A pattern that has all of itself in common with a text is what that text begins with. -/
theorem common_eq_length_iff : common pattern text = pattern.length ↔ pattern <+: text := by
  fun_induction common pattern text with
  | case1 x pattern text ih =>
    rw [List.length_cons, Nat.add_right_cancel_iff, ih, List.prefix_cons_inj]
  | case2 x pattern y text hne =>
    rw [List.cons_prefix_cons]
    exact iff_of_false (Nat.succ_ne_zero _).symm fun h => hne h.1.symm
  | case3 pattern text hcons =>
    rcases pattern with _ | ⟨x, pattern⟩
    · exact iff_of_true rfl List.nil_prefix
    · rcases text with _ | ⟨y, text⟩
      · refine iff_of_false (Nat.succ_ne_zero _).symm fun h => ?_
        exact List.cons_ne_nil x pattern (List.prefix_nil.1 h)
      · exact absurd rfl (hcons x pattern y text rfl)

/-- A pattern and the rest of a text have no more in common than there is. -/
theorem common_le_length : common pattern text ≤ text.length := by
  fun_induction common pattern text with
  | case1 x pattern text ih => exact Nat.succ_le_succ ih
  | _ => exact Nat.zero_le _

/-- **A pattern occurs where it has all of itself in common with the rest of the text.** -/
theorem occurs_iff_common {i : Nat} (hne : pattern ≠ []) :
    Occurs pattern text i ↔ common pattern (text.drop i) = pattern.length := by
  rw [common_eq_length_iff, List.prefix_iff_eq_take, Occurs, List.extract_eq_take_drop,
    Int.toNat_natCast, Nat.add_sub_cancel_left]
  refine ⟨fun h => h.2.2.symm, fun h => ⟨Int.natCast_nonneg i, ?_, h.symm⟩⟩
  have hlength := congrArg List.length h
  have hpos := List.length_pos_iff.2 hne
  rw [List.length_take, List.length_drop] at hlength
  omega

end Common

namespace View

/-! ### Matching -/

variable [DecidableEq α] {v : View α} {text pattern : List α} {h : Nat}

namespace OnPlace

/-- **In a text that ends before the places do, a pattern is found where it occurs and nowhere
else**, and matching is not refused. -/
theorem run_matchesAt_eq (hv : v.OnPlace text h) (hend : text.length ≤ lastPlace)
    (hne : pattern ≠ []) (offset : Int) :
    ∃ w, w.OnPlace text h ∧ w.cursor = v.cursor ∧
      (look (·.matchesAt offset pattern)).run v =
        .ok (decide (Occurs pattern text (h + offset))) w := by
  obtain ⟨w, hw, hcursor, hresult⟩ := hv.run_matchesAt offset pattern
  refine ⟨w, hv.asked hw (congrArg Cursor.index hcursor), hcursor, ?_⟩
  rcases hresult with ⟨hrun, i, hi, hall⟩ | ⟨hrun, hshort⟩
  · have hoccurs : Occurs pattern text (h + offset) := by
      rw [(place?_eq_some_iff.1 hi).1]
      exact (occurs_iff_common hne).2 hall
    rw [hrun, decide_eq_true hoccurs]
  have hwithin (i : Nat) (hi : place? (h + offset) = some i) :
      ¬ lastPlace < i + common pattern (text.drop i) := by
    have hle : common pattern (text.drop i) ≤ (text.drop i).length := common_le_length
    rw [List.length_drop] at hle
    have hlast := (place?_eq_some_iff.1 hi).2
    omega
  have hfound : ¬ Occurs pattern text (h + offset) := by
    intro hoccurs
    obtain ⟨i, hi⟩ := Int.eq_ofNat_of_zero_le hoccurs.1
    have hle := hoccurs.2.1
    have hplace : place? (h + offset) = some i := place?_eq_some_iff.2 ⟨hi, by omega⟩
    rw [hi] at hoccurs
    have hall := (occurs_iff_common hne).1 hoccurs
    rcases hshort i hplace with hempty | hless | hfar
    · exact hne hempty
    · omega
    · exact hwithin i hplace hfar
  rw [decide_eq_false hfound]
  rcases hrun with hrun | ⟨hempty | ⟨i, hi, hfar⟩, -⟩
  · exact hrun
  · exact absurd hempty hne
  · exact absurd hfar (hwithin i hi)

end OnPlace

/-- Before an empty text no pattern is found, and nothing is done. -/
theorem Stands.run_matchesAt_of_neg (hv : v.Stands) (hneg : v.cursor.index < 0)
    (hne : pattern ≠ []) (offset : Int) :
    (look (·.matchesAt offset pattern)).run v = .ok false v := by
  rcases pattern with _ | ⟨x, rest⟩
  · exact absurd rfl hne
  have hempty : ¬ (x :: rest).isEmpty = true := Bool.false_ne_true
  have hcount : Offset.ofCount? 0 = some 0 := rfl
  simp only [Cursor.matchesAt, if_neg hempty, Cursor.matchesFrom, hcount, Offset.orOverflow,
    pure_bind]
  rcases Offset.add? offset 0 with _ | target
  · rfl
  · simp only [look_bind]
    rw [Action.run_bind_of_ok (hv.run_peek_of_neg hneg target)]
    rfl

end View

/-! ### Reading a pattern -/

namespace Cursor

variable [LineElement α] [DecidableEq α]

/-- Move over a pattern that starts `ahead` places on. Both reads of a pattern are this. -/
def readPattern (ahead : Nat) (pattern : List α) : Moving α Bool := do
  if ← look (·.matchesAt ahead pattern) then skip pattern.length else pure false

theorem readSeq_eq (pattern : List α) : readSeq pattern = readPattern 0 pattern := rfl

theorem readNextSeq_eq (pattern : List α) : readNextSeq pattern = readPattern 1 pattern := rfl

end Cursor

namespace View.OnPlace

variable [LineElement α] [DecidableEq α] {v : View α} {text pattern : List α} {h ahead : Nat}

/-- A read of a pattern moves over one that is there, if something is behind it, -/
theorem run_readPattern_of_lt (hv : v.OnPlace text h) (hend : text.length ≤ lastPlace)
    (hne : pattern ≠ []) (hoccurs : Occurs pattern text (h + ahead))
    (hlt : h + pattern.length < text.length) :
    ∃ w, (readPattern ahead pattern).run v = .ok true w ∧ w.OnPlace text (h + pattern.length) ∧
      w.cursor.reachedEnd = v.cursor.reachedEnd := by
  obtain ⟨w, hw, hcursor, hrun⟩ := hv.run_matchesAt_eq hend hne ahead
  rw [decide_eq_true hoccurs] at hrun
  have hlast : h + pattern.length ≤ lastPlace := by omega
  rcases hw.run_skip hlast with ⟨-, u, hskip, hu, hmark⟩ | ⟨hfar, -⟩
  · exact ⟨u, (Action.run_bind_of_ok hrun).trans hskip, hu, hcursor ▸ hmark⟩
  · omega

/-- finds the end of the text behind one that ends it, -/
theorem run_readPattern_of_le (hv : v.OnPlace text h) (hend : text.length ≤ lastPlace)
    (hne : pattern ≠ []) (hoccurs : Occurs pattern text (h + ahead))
    (hle : text.length ≤ h + pattern.length) :
    ∃ w, (readPattern ahead pattern).run v = .ok false w ∧
      w.cursor = { v.cursor with reachedEnd := true } := by
  obtain ⟨w, hw, hcursor, hrun⟩ := hv.run_matchesAt_eq hend hne ahead
  rw [decide_eq_true hoccurs] at hrun
  have hfits := hoccurs.2.1
  have hlast : h + pattern.length ≤ lastPlace := by omega
  rcases hw.run_skip hlast with ⟨hlt, -⟩ | ⟨-, u, hskip, -, hu⟩
  · omega
  · exact ⟨u, (Action.run_bind_of_ok hrun).trans hskip, hcursor ▸ hu⟩

/-- and does nothing about one that is not there. -/
theorem run_readPattern_of_not (hv : v.OnPlace text h) (hend : text.length ≤ lastPlace)
    (hne : pattern ≠ []) (hnone : ¬ Occurs pattern text (h + ahead)) :
    ∃ w, (readPattern ahead pattern).run v = .ok false w ∧ w.cursor = v.cursor := by
  obtain ⟨w, -, hcursor, hrun⟩ := hv.run_matchesAt_eq hend hne ahead
  rw [decide_eq_false hnone] at hrun
  exact ⟨w, Action.run_bind_of_ok hrun, hcursor⟩

end View.OnPlace

/-! ### Sessions -/

variable [LineElement α] [DecidableEq α]

/-- What matching a pattern comes to on the cursor `c` of a session over a text. -/
structure Session.MatchesIn (text : List α) (s : Session α) (i : Nat) (c : Cursor)
    (pattern : List α) : Prop where
  /-- A pattern is found where it occurs and nowhere else. -/
  matchesAt (offset : Int) :
    s.Answers i (.matchesAt offset pattern)
      (.verdict (decide (Occurs pattern text (c.index + offset)))) (· = c)
  /-- The head goes on behind a pattern that it is on, -/
  readSeq : Occurs pattern text c.index → c.index + pattern.length < text.length →
    s.Answers i (.readSeq pattern) (.verdict true)
      fun d => d.index = c.index + pattern.length ∧ d.reachedEnd = c.reachedEnd
  /-- stays if there is nothing behind it, -/
  readSeq_end : Occurs pattern text c.index → c.index + pattern.length = text.length →
    s.Answers i (.readSeq pattern) (.verdict false) (· = { c with reachedEnd := true })
  /-- and stays if the pattern is not there. -/
  readSeq_none : ¬ Occurs pattern text c.index →
    s.Answers i (.readSeq pattern) (.verdict false) (· = c)
  /-- The head goes on to the last element of a pattern that it is before, -/
  readNextSeq : Occurs pattern text (c.index + 1) →
    s.Answers i (.readNextSeq pattern) (.verdict true)
      fun d => d.index = c.index + pattern.length ∧ d.reachedEnd = c.reachedEnd
  /-- and stays if the pattern is not there. -/
  readNextSeq_none : ¬ Occurs pattern text (c.index + 1) →
    s.Answers i (.readNextSeq pattern) (.verdict false) (· = c)

namespace Session

variable {s : Session α} {i : Nat} {c : Cursor} {text pattern : List α}

/-- From a place of the text. -/
theorem matchesIn_of_onPlace (hc : s.cursors[i]? = some c) {h : Nat}
    (hv : View.OnPlace ⟨s.buffer, c⟩ text h) (hend : text.length ≤ lastPlace) (hne : pattern ≠ []) :
    s.MatchesIn text i c pattern := by
  have hindex : c.index = h := hv.index_eq
  have hhere : c.index = h + (0 : Nat) := hindex
  have hahead : c.index + 1 = h + (1 : Nat) := congrArg (· + 1) hindex
  constructor
  case matchesAt =>
    intro offset
    obtain ⟨w, -, hcursor, hrun⟩ := hv.run_matchesAt_eq hend hne offset
    rw [hindex]
    exact answers_of_run hc (Action.run_bind_of_ok hrun) hcursor
  case readSeq =>
    intro hoccurs hlt
    obtain ⟨w, hrun, hw, hmark⟩ :=
      hv.run_readPattern_of_lt hend hne (hhere ▸ hoccurs) (by omega)
    rw [← readSeq_eq] at hrun
    refine answers_of_run hc (Action.run_bind_of_ok hrun) ⟨?_, hmark⟩
    rw [hindex]
    exact hw.index_eq
  case readSeq_end =>
    intro hoccurs hlast
    obtain ⟨w, hrun, hcursor⟩ :=
      hv.run_readPattern_of_le hend hne (hhere ▸ hoccurs) (by omega)
    rw [← readSeq_eq] at hrun
    exact answers_of_run hc (Action.run_bind_of_ok hrun) hcursor
  case readSeq_none =>
    intro hnone
    obtain ⟨w, hrun, hcursor⟩ := hv.run_readPattern_of_not hend hne (hhere ▸ hnone)
    rw [← readSeq_eq] at hrun
    exact answers_of_run hc (Action.run_bind_of_ok hrun) hcursor
  case readNextSeq =>
    intro hoccurs
    -- The pattern starts one place on, so its last element is one of the text.
    have hle := hoccurs.2.1
    obtain ⟨w, hrun, hw, hmark⟩ :=
      hv.run_readPattern_of_lt hend hne (hahead ▸ hoccurs) (by omega)
    rw [← readNextSeq_eq] at hrun
    refine answers_of_run hc (Action.run_bind_of_ok hrun) ⟨?_, hmark⟩
    rw [hindex]
    exact hw.index_eq
  case readNextSeq_none =>
    intro hnone
    obtain ⟨w, hrun, hcursor⟩ := hv.run_readPattern_of_not hend hne (hahead ▸ hnone)
    rw [← readNextSeq_eq] at hrun
    exact answers_of_run hc (Action.run_bind_of_ok hrun) hcursor

/-- From before an empty text. -/
theorem matchesIn_of_neg (hc : s.cursors[i]? = some c) (hstands : View.Stands ⟨s.buffer, c⟩)
    (hneg : c.index < 0) (hne : pattern ≠ []) : s.MatchesIn [] i c pattern := by
  have hnone := not_occurs_nil hne
  have hmatches := hstands.run_matchesAt_of_neg hneg hne
  have hread : (Cursor.readSeq pattern).run ⟨s.buffer, c⟩ = .ok false ⟨s.buffer, c⟩ :=
    Action.run_bind_of_ok (hmatches 0)
  have hnext : (Cursor.readNextSeq pattern).run ⟨s.buffer, c⟩ = .ok false ⟨s.buffer, c⟩ :=
    Action.run_bind_of_ok (hmatches 1)
  constructor
  case matchesAt =>
    intro offset
    rw [decide_eq_false (hnone _)]
    exact answers_of_run hc (Action.run_bind_of_ok (hmatches offset)) rfl
  case readSeq => exact fun hoccurs => absurd hoccurs (hnone _)
  case readSeq_end => exact fun hoccurs => absurd hoccurs (hnone _)
  case readSeq_none => exact fun _ => answers_of_run hc (Action.run_bind_of_ok hread) rfl
  case readNextSeq => exact fun hoccurs => absurd hoccurs (hnone _)
  case readNextSeq_none => exact fun _ => answers_of_run hc (Action.run_bind_of_ok hnext) rfl

end Session

/-- The pattern that an operation is after, if it is after one. -/
def Operation.pattern? : Operation α → Option (List α)
  | .matchesAt _ pattern | .readSeq pattern | .readNextSeq pattern => some pattern
  | _ => none

omit [LineElement α] [DecidableEq α] in
/-- What is after an empty pattern. -/
theorem Operation.eq_of_pattern?_nil {operation : Operation α} (h : operation.pattern? = some []) :
    (∃ offset, operation = .matchesAt offset []) ∨ operation = .readSeq [] ∨
      operation = .readNextSeq [] := by
  cases operation with
  | matchesAt offset pattern => exact .inl ⟨offset, congrArg _ (Option.some.inj h)⟩
  | readSeq pattern => exact .inr (.inl (congrArg _ (Option.some.inj h)))
  | readNextSeq pattern => exact .inr (.inr (congrArg _ (Option.some.inj h)))
  | _ => cases h

/-- **Patterns are matched exactly, and read as a whole or not at all.** Over a source that never
fails, and whose text ends before the places do, a pattern is found where it occurs; an empty one is
refused by whatever source, and nothing is done. -/
theorem patterns_match_exactly {s : Session α} {i : Nat} {c : Cursor}
    (hc : s.cursors[i]? = some c) :
    (∀ script : Source α, Source.failures script = [] → script.yield.length ≤ lastPlace →
      s.Reached script → ∀ pattern ≠ [], s.MatchesIn script.yield i c pattern) ∧
    (∀ operation : Operation α, operation.pattern? = some [] →
      s.perform (.apply i operation) = (.failed (.misuse .zeroLengthMatch), s)) ∧
    ∀ string : String,
      Operation.startsWith string = .matchesAt 0 string.toList ∧
      Operation.readString string = .readSeq string.toList ∧
      Operation.readNextString string = .readNextSeq string.toList := by
  refine ⟨fun script hscript hend hs pattern hne => ?_, fun operation hpattern => ?_,
    fun string => ⟨rfl, rfl, rfl⟩⟩
  · have hmem := List.mem_of_getElem? hc
    rcases Int.lt_or_le c.index 0 with hneg | hnonneg
    · have hstands := hs.stands c hmem
      obtain ⟨-, -, hitems, hsource⟩ := hstands.place.resolve_left fun hheld =>
        Int.not_lt.2 (Buffer.holds_iff.1 hheld).1 hneg
      have hnothing : script.yield = [] := by
        rw [← hs.whole_eq, Buffer.whole, hitems, hsource]
        rfl
      rw [hnothing]
      exact Session.matchesIn_of_neg hc hstands hneg hne
    · exact Session.matchesIn_of_onPlace hc (hs.onPlace hscript hmem hnonneg) hend hne
  · rcases Operation.eq_of_pattern?_nil hpattern with ⟨offset, rfl⟩ | rfl | rfl
    · exact Session.perform_apply_refused hc rfl
    · exact Session.perform_apply_refused hc rfl
    · exact Session.perform_apply_refused hc rfl

/-- Three letters under the first one: they are seen but cannot be read, the last two can be read as
the next ones, and nothing at all is not matched. -/
theorem patterns_match_exactly_at_end :
    ∃ s : Session Char,
      s.Reached [.element 'a', .element 'b', .element 'c'] ∧
      s.cursors[0]? = some ⟨0, false, none⟩ ∧
      s.Answers 0 (.startsWith "abc") (.verdict true) (· = ⟨0, false, none⟩) ∧
      s.Answers 0 (.matchesAt (-1) ['a']) (.verdict false) (· = ⟨0, false, none⟩) ∧
      s.Answers 0 (.readString "abc") (.verdict false) (· = ⟨0, true, none⟩) ∧
      s.Answers 0 (.readNextString "bc") (.verdict true)
        (fun c => c.index = 2 ∧ c.reachedEnd = false) ∧
      s.perform (.apply 0 (.readString "")) = (.failed (.misuse .zeroLengthMatch), s) := by
  obtain ⟨s, hs, hc⟩ : ∃ s : Session Char,
      s.Reached [.element 'a', .element 'b', .element 'c'] ∧
      s.cursors[0]? = some ⟨0, false, none⟩ :=
    ⟨{
        buffer := {
          key := 0
          items := #['a']
          source := some [.element 'b', .element 'c']
          config := .quiet
          pulls := 1 }
        cursors := [⟨0, false, none⟩] },
      ⟨.source _, 0, .quiet, false, _, [], rfl, rfl, by decide +kernel⟩, rfl⟩
  obtain ⟨hall, hempty, -⟩ := patterns_match_exactly hc
  have hmatches := hall _ rfl (by decide +kernel) hs
  refine ⟨s, hs, hc, ?_, ?_, ?_, ?_, hempty _ rfl⟩
  · exact (hmatches ['a', 'b', 'c'] nofun).matchesAt 0
  · exact (hmatches ['a'] nofun).matchesAt (-1)
  · exact (hmatches ['a', 'b', 'c'] nofun).readSeq_end (by decide +kernel) rfl
  · exact (hmatches ['b', 'c'] nofun).readNextSeq (by decide +kernel)

end Rewind
