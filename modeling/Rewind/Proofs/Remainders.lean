import Rewind.Proofs.Heads

/-!
# What a remainder hands out

A remainder keeps a place to go on from, and perhaps one to leave out. Over a given text this is as
good as the list of the elements still to come, `Remaining.rest`. Asked for the next element, a
remainder **hands out the first of these and keeps the others**; where the source fails it keeps
them all, and where there are none it says so. Nothing else that is done over the buffer makes a
difference to them, for they depend on the text as a whole and not on how much of it is held.

So what was handed out and what is still to come make up, at any time, what was asked for in the
beginning (`Session.Owes.run`): the elements from the head onwards, `Cursor.outlook`.
-/

namespace Rewind

variable {α : Type}

/-! ### The elements still to come -/

/-- The elements of a text from a head onwards: the one behind the head if it is asked for and there
is one, the one under it if it is asked for and there is one, and all that lie ahead. -/
def Cursor.outlook (c : Cursor) (withPrevious withCurrent : Bool) (text : List α) : List α :=
  (if withPrevious ∧ 0 < c.index then (elementAt? text (c.index - 1)).toList else []) ++
    (if withCurrent ∧ 0 ≤ c.index then (elementAt? text c.index).toList else []) ++
      text.drop (c.index + 1).toNat

/-- At a place that a text has, the element there. -/
theorem elementAt?_natCast (text : List α) (n : Nat) : elementAt? text n = text[n]? := by
  rw [elementAt?, if_neg (Int.not_lt.2 (Int.natCast_nonneg n)), Int.toNat_natCast]

namespace Remaining

/-- The elements of a text that a remainder has still to hand out. -/
def rest (r : Remaining) (text : List α) : List α :=
  match r.skipped with
  | none => text.drop r.slot
  | some place =>
    if r.slot ≤ place then (text.drop r.slot).eraseIdx (place - r.slot) else text.drop r.slot

/-- Behind the end of a text nothing is to come. -/
theorem rest_eq_nil {r : Remaining} {text : List α} (h : text.length ≤ r.slot) :
    r.rest text = [] := by
  have hdrop : text.drop r.slot = [] := List.drop_eq_nil_of_le h
  obtain ⟨slot, _ | place⟩ := r
  · exact hdrop
  · simp only [rest, hdrop, List.eraseIdx_nil, ite_self]

/-- A place to leave out that comes next is left out. -/
theorem rest_of_skipped (place : Nat) (text : List α) :
    rest ⟨place, some place⟩ text = text.drop (place + 1) := by
  simp only [rest, Nat.le_refl, if_true, Nat.sub_self]
  rw [List.eraseIdx_zero, List.tail_drop]

/-- What comes next lies at the place a remainder lands on, and the others behind it. -/
theorem rest_eq_append (r : Remaining) (text : List α) :
    r.rest text =
      text[r.landing]?.toList ++ ({ r with slot := r.landing + 1 } : Remaining).rest text := by
  obtain ⟨slot, _ | place⟩ := r
  · exact List.drop_eq_getElem?_toList_append
  by_cases hnext : place = slot
  -- The place to leave out comes next, and is behind from then on.
  · subst hnext
    have hlanding : landing ⟨place, some place⟩ = place + 1 := if_pos rfl
    rw [rest_of_skipped, hlanding, rest]
    simp only
    rw [if_neg (by omega)]
    exact List.drop_eq_getElem?_toList_append
  have hlanding : landing ⟨slot, some place⟩ = slot :=
    if_neg fun hskipped => hnext (Option.some.inj hskipped)
  rw [hlanding]
  simp only [rest]
  by_cases hle : slot ≤ place
  -- The place to leave out is still ahead.
  · rw [if_pos hle, if_pos (by omega), List.drop_eq_getElem?_toList_append]
    rcases hx : text[slot]? with _ | x
    · have hdrop : text.drop (slot + 1) = [] := by
        rw [List.getElem?_eq_none_iff] at hx
        exact List.drop_eq_nil_of_le (by omega)
      rw [hdrop]
      rfl
    · rw [show place - slot = place - (slot + 1) + 1 by omega]
      rfl
  -- It is behind already.
  · rw [if_neg hle, if_neg (by omega)]
    exact List.drop_eq_getElem?_toList_append

/-- The next element is the one at the place a remainder lands on. -/
theorem head?_rest (r : Remaining) (text : List α) : (r.rest text).head? = text[r.landing]? := by
  rw [rest_eq_append]
  rcases hx : text[r.landing]? with _ | x
  · rw [List.getElem?_eq_none_iff] at hx
    rw [rest_eq_nil (r := { r with slot := r.landing + 1 }) (Nat.le_succ_of_le hx)]
    rfl
  · rfl

/-- **A remainder starts with what was asked for**, whichever of its forms it takes. -/
theorem rest_remaining (c : Cursor) (withPrevious withCurrent : Bool) (text : List α) :
    (c.remaining withPrevious withCurrent).rest text =
      c.outlook withPrevious withCurrent text := by
  rw [Cursor.remaining, Cursor.outlook]
  by_cases hprevious : withPrevious ∧ 0 < c.index
  · obtain ⟨n, hn⟩ : ∃ n : Nat, c.index = n + 1 := ⟨(c.index - 1).toNat, by omega⟩
    have hbehind : elementAt? text (c.index - 1) = text[n]? := by
      rw [hn, Int.add_sub_cancel, elementAt?_natCast]
    have hunder : elementAt? text c.index = text[n + 1]? := by
      rw [hn]
      exact elementAt?_natCast text (n + 1)
    have hhead : c.index.toNat = n + 1 := by omega
    rw [if_pos hprevious, if_pos hprevious, hbehind, hunder, hhead,
      show (c.index + 1).toNat = n + 2 by omega]
    rcases withCurrent
    -- The element under the head is left out after the one behind it.
    · have hlanding : landing ⟨n, some (n + 1)⟩ = n := if_neg (by simp)
      have hrest := rest_eq_append ⟨n, some (n + 1)⟩ text
      rw [hlanding] at hrest
      simpa [rest_of_skipped] using hrest
    · have hboth : text.drop n = text[n]?.toList ++ text[n + 1]?.toList ++ text.drop (n + 2) := by
        rw [List.append_assoc, ← List.drop_eq_getElem?_toList_append,
          ← List.drop_eq_getElem?_toList_append]
      have hindex : 0 ≤ c.index := by omega
      simpa [rest, hindex] using hboth
  rw [if_neg hprevious, if_neg hprevious]
  rcases withCurrent
  · simp [rest]
  by_cases hindex : 0 ≤ c.index
  · obtain ⟨n, hn⟩ := Int.eq_ofNat_of_zero_le hindex
    have hahead : (c.index + 1).toNat = n + 1 := by omega
    rw [if_pos rfl, if_pos ⟨rfl, hindex⟩, hahead, hn, elementAt?_natCast]
    exact List.drop_eq_getElem?_toList_append
  -- Before an empty text there is no element under the head.
  · have hstart : c.index.toNat = 0 := by omega
    have hahead : (c.index + 1).toNat = 0 := by omega
    rw [if_pos rfl, if_neg (fun h => hindex h.2), hstart, hahead]
    rfl

end Remaining

/-! ### Asking for the next element -/

/-- The element of the remainder `j` that a command came to, if it asked for one and there was
one. -/
def Outcome.takenFrom? (j : Nat) : Command α → Outcome α → Option α
  | .advance k, .answered (.element x) => if k = j then x else none
  | _, _ => none

namespace Session

/-- The elements that the remainder `j` handed out while commands came to `outcomes`. -/
def taken (j : Nat) (commands : List (Command α)) (outcomes : List (Outcome α)) : List α :=
  (commands.zip outcomes).flatMap fun (command, outcome) => (outcome.takenFrom? j command).toList

theorem taken_cons (j : Nat) (command : Command α) (rest : List (Command α)) (outcome : Outcome α)
    (outcomes : List (Outcome α)) :
    taken j (command :: rest) (outcome :: outcomes) =
      (outcome.takenFrom? j command).toList ++ taken j rest outcomes := by
  rw [taken, List.zip_cons_cons, List.flatMap_cons, taken]

/-- Whether there is a remainder `j`, and `xs` are the elements it has still to hand out. -/
def Owes (s : Session α) (j : Nat) (xs : List α) : Prop :=
  ∃ r, s.remainders[j]? = some r ∧ r.rest s.buffer.whole = xs

variable [LineElement α] [DecidableEq α] {s : Session α} {j : Nat} {xs : List α}

theorem perform_advance {r : Remaining} (hr : s.remainders[j]? = some r) :
    s.perform (.advance j) =
      match (Buffer.fetch r.landing).run s.buffer with
      | .ok none b => (.answered (.element none), { s with buffer := b })
      | .ok (some x) b =>
        (.answered (.element (some x)),
          { s with buffer := b, remainders := s.remainders.set j { r with slot := r.landing + 1 } })
      | .error fault b => (.failed fault, { s with buffer := b }) := by
  rw [perform, step, run_advance, hr]
  rcases hrun : (Buffer.fetch r.landing).run s.buffer with ⟨_ | x, b⟩ | ⟨fault, b⟩
  · simp only [hrun]
  · simp only [hrun]
  · simp only [hrun]

/-- Asking for the next element moves no head. -/
theorem cursors_advance (s : Session α) (j : Nat) :
    (s.perform (.advance j)).2.cursors = s.cursors := by
  rcases hr : s.remainders[j]? with _ | r
  · rw [perform, step, run_advance, hr]
  · rw [perform_advance hr]
    split <;> rfl

namespace Owes

/-- **A remainder hands out the first of the elements it owes**, and says that there is none only
when the source is exhausted, unless the source fails. -/
theorem advance (h : s.Owes j xs) :
    (s.perform (.advance j)).1 = .answered (.element xs.head?) ∧
        (xs = [] → (s.perform (.advance j)).2.buffer.exhausted = true) ∨
      ∃ m, (s.perform (.advance j)).1 = .failed (.source m) ∧
        (s.perform (.advance j)).2.buffer.exhausted = false ∧
        (s.perform (.advance j)).2.remainders = s.remainders := by
  obtain ⟨r, hr, rfl⟩ := h
  rw [perform_advance hr, r.head?_rest]
  rcases hrun : (Buffer.fetch r.landing).run s.buffer with ⟨_ | x, b⟩ | ⟨fault, b⟩
  · obtain ⟨⟨told, hb, -⟩, hsettles, hx⟩ := Buffer.of_run_fetch hrun
    refine .inl ⟨by rw [← hx], fun _ => ?_⟩
    rcases hsettles with hlt | hsource
    · have hwhole := Buffer.Settles.whole_eq (.inl hlt)
      rw [hb.whole_eq, ← hx, Array.getElem?_eq_getElem hlt] at hwhole
      cases hwhole
    · exact Option.isNone_iff_eq_none.2 hsource
  · obtain ⟨-, -, hx⟩ := Buffer.of_run_fetch hrun
    refine .inl ⟨by rw [← hx], fun hnil => ?_⟩
    rw [← List.head?_eq_none_iff, r.head?_rest, ← hx] at hnil
    cases hnil
  · obtain ⟨m, rfl⟩ := Buffer.fault_of_run_fetch hrun
    exact .inr ⟨m, rfl, Buffer.exhausted_of_run_fetch_error hrun, rfl⟩

/-- **Every command leaves a remainder with what it owes**, less the element it handed out. -/
theorem perform (h : s.Owes j xs) (command : Command α) :
    ∃ ys, (s.perform command).2.Owes j ys ∧
      xs = ((s.perform command).1.takenFrom? j command).toList ++ ys := by
  obtain ⟨r, hr, rfl⟩ := h
  obtain ⟨told, hb, -⟩ := s.perform_takes command
  rw [← hb.whole_eq]
  have hkeep {command : Command α} {t : Outcome α × Session α}
      (hr : t.2.remainders[j]? = some r) (ht : t.1.takenFrom? j command = none) :
      ∃ ys, t.2.Owes j ys ∧ r.rest t.2.buffer.whole = (t.1.takenFrom? j command).toList ++ ys :=
    ⟨_, ⟨r, hr, rfl⟩, by rw [ht]; rfl⟩
  refine perform_cases (P := fun t => ∃ ys, t.2.Owes j ys ∧
      r.rest t.2.buffer.whole = (t.1.takenFrom? j command).toList ++ ys) s command
    ?absent ?applied ?failed ?forked ?begun ?advanced ?ended ?broken
  case absent =>
    intro _
    exact hkeep hr (by cases command <;> simp [Outcome.takenFrom?])
  case applied =>
    rintro i operation c reply v rfl _ _
    exact hkeep hr rfl
  case failed =>
    rintro i operation c fault v rfl _ _
    exact hkeep hr rfl
  case forked =>
    intro i c change hcommand _
    exact hkeep hr (by rcases hcommand with ⟨rfl, -⟩ | ⟨rfl, -⟩ <;> rfl)
  case begun =>
    rintro i c withPrevious withCurrent rfl _
    exact hkeep ((List.getElem?_append_left (List.getElem?_eq_some_iff.1 hr).1).trans hr) rfl
  case advanced =>
    rintro k r' x b rfl hr' hrun
    by_cases hk : k = j
    · subst hk
      cases hr.symm.trans hr'
      obtain ⟨⟨told, hb, -⟩, -, hx⟩ := Buffer.of_run_fetch hrun
      have hlt : k < s.remainders.length := (List.getElem?_eq_some_iff.1 hr).1
      refine ⟨_, ⟨_, List.getElem?_set_self hlt, rfl⟩, ?_⟩
      rw [r.rest_eq_append, hb.whole_eq, ← hx]
      simp [Outcome.takenFrom?]
    · exact hkeep ((List.getElem?_set_ne hk).trans hr) (if_neg hk)
  case ended =>
    rintro k r' b rfl _ _
    exact hkeep hr (by simp [Outcome.takenFrom?])
  case broken =>
    rintro k r' fault b rfl _ _
    exact hkeep hr rfl

/-- **So does every run.** What a remainder owed is what it handed out and what it owes now. -/
theorem run (h : s.Owes j xs) (commands : List (Command α)) :
    ∃ ys, (s.run commands).2.Owes j ys ∧ xs = taken j commands (s.run commands).1 ++ ys := by
  induction commands generalizing s xs with
  | nil => exact ⟨xs, h, rfl⟩
  | cons command rest ih =>
    obtain ⟨ys, hys, rfl⟩ := h.perform command
    obtain ⟨zs, hzs, rfl⟩ := ih hys
    exact ⟨zs, hzs, by rw [run_cons, taken_cons, List.append_assoc]⟩

/-- **Once the end has been told it is told for ever.** -/
theorem ended (h : s.Owes j []) (hexhausted : s.buffer.exhausted = true) :
    (s.perform (.advance j)).1 = .answered (.element none) := by
  rcases h.advance with ⟨hanswer, -⟩ | ⟨m, -, hopen, -⟩
  · exact hanswer
  · obtain ⟨told, hb, -⟩ := s.perform_takes (.advance j)
    rw [hb.exhausted hexhausted] at hopen
    cases hopen

end Owes

/-- What there is to say of the remainder `j` of a session, when it was to hand out `all` and has
handed out `given`. -/
structure HandsOut (s : Session α) (j : Nat) (all given : List α) : Prop where
  /-- What was handed out is the beginning of it all: in order, without loss or repetition. -/
  given_eq : given = all.take given.length
  /-- The next element is the one behind it. When the source fails instead, the remainder stays as
  it is. -/
  next : (s.perform (.advance j)).1 = .answered (.element all[given.length]?) ∨
    ∃ m, (s.perform (.advance j)).1 = .failed (.source m) ∧
      (s.perform (.advance j)).2.remainders = s.remainders
  /-- The end is told exactly when the source is exhausted and everything was handed out. -/
  ended_iff : (s.perform (.advance j)).1 = .answered (.element none) ↔
    (s.perform (.advance j)).2.buffer.exhausted = true ∧ given = all
  /-- Once the end has been told, it is told for ever. -/
  ended : (s.perform (.advance j)).1 = .answered (.element none) → ∀ later : List (Command α),
    (((s.perform (.advance j)).2.run later).2.perform (.advance j)).1 = .answered (.element none)
  /-- No head, line, column or mark is touched. -/
  cursors_eq : (s.perform (.advance j)).2.cursors = s.cursors

/-- A remainder that owes what it has not handed out yet hands out what it should. -/
theorem Owes.handsOut (h : s.Owes j xs) (given : List α) : s.HandsOut j (given ++ xs) given := by
  have hnext : (given ++ xs)[given.length]? = xs.head? := by
    rw [List.getElem?_append_right (Nat.le_refl _), Nat.sub_self, List.head?_eq_getElem?]
  have hend (hnone : (s.perform (.advance j)).1 = .answered (.element none)) :
      xs = [] ∧ (s.perform (.advance j)).2.buffer.exhausted = true := by
    rcases h.advance with ⟨hanswer, hexhausted⟩ | ⟨m, hfailed, -⟩
    · rw [hnone] at hanswer
      have hnil : xs = [] := by
        rcases xs with _ | ⟨x, xs⟩
        · rfl
        · cases hanswer
      exact ⟨hnil, hexhausted hnil⟩
    · rw [hnone] at hfailed
      cases hfailed
  refine ⟨?given_eq, ?next, ?ended_iff, ?ended, s.cursors_advance j⟩
  case given_eq =>
    rw [List.take_left]
  case next =>
    rw [hnext]
    rcases h.advance with ⟨hanswer, -⟩ | ⟨m, hfailed, -, hstay⟩
    · exact .inl hanswer
    · exact .inr ⟨m, hfailed, hstay⟩
  case ended_iff =>
    constructor
    · intro hnone
      obtain ⟨rfl, hexhausted⟩ := hend hnone
      exact ⟨hexhausted, (List.append_nil _).symm⟩
    · rintro ⟨hexhausted, hall⟩
      rw [List.self_eq_append_right] at hall
      subst hall
      rcases h.advance with ⟨hanswer, -⟩ | ⟨m, -, hopen, -⟩
      · exact hanswer
      · rw [hexhausted] at hopen
        cases hopen
  case ended =>
    intro hnone later
    obtain ⟨rfl, hexhausted⟩ := hend hnone
    -- A remainder that owes nothing goes on owing nothing.
    obtain ⟨ys, hys, hnil⟩ := h.perform (.advance j)
    obtain ⟨-, rfl⟩ := List.append_eq_nil_iff.1 hnil.symm
    obtain ⟨zs, hzs, hnil⟩ := hys.run later
    obtain ⟨-, rfl⟩ := List.append_eq_nil_iff.1 hnil.symm
    obtain ⟨told, hb, -⟩ := (s.perform (.advance j)).2.run_takes later
    exact hzs.ended (hb.exhausted hexhausted)

end Session

/-- **Remainders are exact.** However the requests for its elements are mixed with anything else
that is done over the buffer, failures of the source included, a remainder hands out the elements
from the head it was made at onwards, and says that they are at their end exactly when they are. -/
theorem remainders_hand_out_exactly [LineElement α] [DecidableEq α] {script : Source α}
    {s : Session α} (hs : s.Reached script) {i : Nat} {c : Cursor} (hc : s.cursors[i]? = some c)
    (withPrevious withCurrent : Bool) :
    ∃ t, s.perform (.remaining i withPrevious withCurrent) =
        (.answered (.number s.remainders.length), t) ∧
      t.buffer = s.buffer ∧ t.cursors = s.cursors ∧
      ∀ commands : List (Command α),
        (t.run commands).2.HandsOut s.remainders.length
          (c.outlook withPrevious withCurrent script.yield)
          (Session.taken s.remainders.length commands (t.run commands).1) ∧
        (script.yield = [] →
          Session.taken s.remainders.length commands (t.run commands).1 = []) := by
  have hperform : s.perform (.remaining i withPrevious withCurrent) =
      (.answered (.number s.remainders.length),
        { s with remainders := s.remainders ++ [c.remaining withPrevious withCurrent] }) := by
    rw [Session.perform, Session.step, Session.run_addRemainder, hc]
  have howes : Session.Owes
      { s with remainders := s.remainders ++ [c.remaining withPrevious withCurrent] }
      s.remainders.length (c.outlook withPrevious withCurrent script.yield) :=
    ⟨_, List.getElem?_concat_length, by rw [Remaining.rest_remaining, hs.whole_eq]⟩
  refine ⟨_, hperform, rfl, rfl, fun commands => ?_⟩
  obtain ⟨ys, hys, hall⟩ := howes.run commands
  constructor
  · rw [hall]
    exact hys.handsOut _
  · intro hempty
    have hnil : c.outlook withPrevious withCurrent ([] : List α) = [] := by
      simp [Cursor.outlook, elementAt?]
    rw [hempty, hnil] at hall
    exact (List.append_eq_nil_iff.1 hall.symm).1

/-- A remainder that is to leave out the element under the head: the source fails between the
element behind the head and the ones ahead, and it is another cursor that goes on with the
source. -/
theorem remainders_hand_out_exactly_around_failure :
    ∃ s t : Session Char,
      s.Reached [.element 'a', .element 'b', .failure "lost", .element 'c', .element 'd'] ∧
      s.cursors[0]? = some ⟨1, false, some ⟨0, 1⟩⟩ ∧
      s.perform (.remaining 0 true false) = (.answered (.number 0), t) ∧
      (t.run [.advance 0, .advance 0, .fork 0, .apply 1 .next, .advance 0, .advance 0]).1 =
        [.answered (.element (some 'a')), .failed (.source "lost"), .answered (.number 1),
          .answered (.element (some 'c')), .answered (.element (some 'c')),
          .answered (.element (some 'd'))] ∧
      (t.run [.advance 0, .advance 0, .fork 0, .apply 1 .next, .advance 0, .advance 0]).2.HandsOut 0
        ['a', 'c', 'd'] ['a', 'c', 'd'] := by
  have hreached : Session.Reached
      [.element 'a', .element 'b', .failure "lost", .element 'c', .element 'd']
      { buffer := {
          key := 0
          items := #['a', 'b']
          source := some [.failure "lost", .element 'c', .element 'd']
          config := .quiet
          pulls := 2 }
        cursors := [⟨1, false, some ⟨0, 1⟩⟩] } :=
    ⟨.source _, 0, .quiet, true, _, [.apply 0 (.moveBy 1)], rfl, rfl, by decide +kernel⟩
  obtain ⟨t, ht, -, -, hexact⟩ := remainders_hand_out_exactly hreached
    (i := 0) rfl true false
  obtain rfl := congrArg Prod.snd ht
  refine ⟨_, _, hreached, rfl, ht, by decide +kernel, ?_⟩
  exact (hexact [.advance 0, .advance 0, .fork 0, .apply 1 .next, .advance 0, .advance 0]).1

end Rewind
