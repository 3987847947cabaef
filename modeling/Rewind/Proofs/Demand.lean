import Rewind.Proofs.Asking

/-!
# What an operation asks for

Over a source that never fails, **an operation pulls exactly as far as it has to look**: to the
farthest place it asks for, `Operation.demand?`, which can be read off the text and the place of the
head, whatever has been pulled before.

An operation that looks at one place, or moves to one, asks for that place. One that walks ahead,
while elements pass a test or agree with a pattern, asks for all places up to the one it stops at,
where the element does not do or is not there. To see this of a walk is to follow it from place to
place: what the rest of the walk asks for from the next place on, it asks for from this one on
(`firstRefused_of_passed`, `common_cons`).
-/

namespace Rewind

variable {α β γ : Type}

open Cursor

/-! ### Places of a text -/

/-- The last place that a head can be put on. -/
def lastPlace : Nat := 9223372036854775807

/-- The place an index stands for, if it stands for one. -/
def place? (i : Int) : Option Nat :=
  if 0 ≤ i ∧ Fits i then some i.toNat else none

/-- The farthest place that is asked for on a walk to `place`: a head never goes beyond the last
place there can be. -/
def walkTo (place : Nat) : Option Nat :=
  some (min place lastPlace)

/-- The first place from `start` on whose element does not pass a test, or the end of the text. -/
def firstRefused (p : α → Bool) (text : List α) (start : Nat) : Nat :=
  start + ((text.drop start).takeWhile p).length

/-- How many elements a pattern and a text have in common at their beginnings. -/
def common [DecidableEq α] : (pattern text : List α) → Nat
  | x :: pattern, y :: text => if y = x then common pattern text + 1 else 0
  | _, _ => 0

/-- How many places are asked for when the farthest one is this. -/
def places (demand : Option Nat) : Nat :=
  demand.elim 0 (· + 1)

theorem places_walkTo (place : Nat) : places (walkTo place) = min place lastPlace + 1 := rfl

theorem fits_natCast {n : Nat} : Fits n ↔ n ≤ lastPlace := by
  unfold Fits lastPlace
  omega

theorem place?_eq_some_iff {i : Int} {n : Nat} : place? i = some n ↔ i = n ∧ n ≤ lastPlace := by
  unfold place?
  constructor
  · intro h
    split at h
    · next hplace =>
      cases h
      refine ⟨by omega, fits_natCast.1 ?_⟩
      rw [Int.toNat_of_nonneg hplace.1]
      exact hplace.2
    · cases h
  · rintro ⟨rfl, hlast⟩
    rw [if_pos ⟨Int.natCast_nonneg n, fits_natCast.2 hlast⟩, Int.toNat_natCast]

theorem place?_natCast {n : Nat} (h : n ≤ lastPlace) : place? n = some n :=
  place?_eq_some_iff.2 ⟨rfl, h⟩

theorem place?_eq_none {i : Int} (h : ¬ (0 ≤ i ∧ Fits i)) : place? i = none :=
  if_neg h

theorem place?_beyond {n : Nat} (h : lastPlace < n) : place? n = none :=
  place?_eq_none fun ⟨_, hfits⟩ => Nat.not_le.2 h (fits_natCast.1 hfits)

section Ahead

variable {h e : Nat}

theorem place?_add (hle : h + e ≤ lastPlace) : place? (h + e) = some (h + e) :=
  place?_natCast (n := h + e) hle

theorem place?_add_beyond (hlt : lastPlace < h + e) : place? (h + e) = none :=
  place?_beyond (n := h + e) hlt

theorem places_place?_add :
    places (place? (h + e)) = if h + e ≤ lastPlace then h + e + 1 else 0 := by
  split
  · next hle =>
    rw [place?_add hle]
    rfl
  · next hlt =>
    rw [place?_add_beyond (Nat.not_le.1 hlt)]
    rfl

end Ahead

section FirstRefused

variable {p : α → Bool} {text : List α} {i : Nat}

theorem le_firstRefused : i ≤ firstRefused p text i :=
  Nat.le_add_right ..

/-- Behind the last element a walk stops at once. -/
theorem firstRefused_of_none (h : text[i]? = none) : firstRefused p text i = i := by
  rw [firstRefused, List.drop_eq_getElem?_toList_append, h]
  rw [List.getElem?_eq_none_iff] at h
  rw [List.drop_eq_nil_of_le (by omega)]
  rfl

theorem firstRefused_of_refused {x : α} (h : text[i]? = some x) (hx : p x = false) :
    firstRefused p text i = i := by
  rw [firstRefused, List.drop_eq_getElem?_toList_append, h, Option.toList_some,
    List.singleton_append, List.takeWhile_cons_of_neg (by rw [hx]; exact Bool.false_ne_true)]
  rfl

/-- Past an element that passes, a walk goes on from the next place. -/
theorem firstRefused_of_passed {x : α} (h : text[i]? = some x) (hx : p x = true) :
    firstRefused p text i = firstRefused p text (i + 1) := by
  rw [firstRefused, firstRefused, List.drop_eq_getElem?_toList_append, h, Option.toList_some,
    List.singleton_append, List.takeWhile_cons_of_pos hx, List.length_cons]
  omega

end FirstRefused

section Common

variable [DecidableEq α] {x y : α} {pattern text : List α} {i : Nat}

theorem common_le : common pattern text ≤ pattern.length := by
  fun_induction common pattern text with
  | case1 x pattern text ih => simpa using ih
  | _ => simp

/-- A pattern has nothing in common with the end of a text, -/
theorem common_of_none (h : text[i]? = none) : common pattern (text.drop i) = 0 := by
  rw [List.getElem?_eq_none_iff] at h
  rw [List.drop_eq_nil_of_le h]
  rcases pattern with _ | ⟨x, pattern⟩ <;> rfl

/-- nor with an element that is not its first, -/
theorem common_of_ne (h : text[i]? = some y) (hne : y ≠ x) :
    common (x :: pattern) (text.drop i) = 0 := by
  rw [List.drop_eq_getElem?_toList_append, h]
  exact if_neg hne

/-- and past its first element it is compared from the next place on. -/
theorem common_cons (h : text[i]? = some x) :
    common (x :: pattern) (text.drop i) = common pattern (text.drop (i + 1)) + 1 := by
  rw [List.drop_eq_getElem?_toList_append, h]
  exact if_pos rfl

end Common

/-! ### The farthest place -/

namespace Operation

variable [DecidableEq α]

/-- The farthest place that matching a pattern at `start` asks for: that of the first element that
differs or is missing, or of the last one of a pattern that is there. -/
def matchDemand? (text : List α) (start : Int) (pattern : List α) : Option Nat :=
  if pattern.isEmpty then none
  else
    (place? start).bind fun i =>
      walkTo (i + min (common pattern (text.drop i)) (pattern.length - 1))

/-- The farthest place of a text that an operation asks for, from a head on the place `h`. -/
def demand? (text : List α) (h : Nat) : Operation α → Option Nat
  | .slot | .location | .sourceIsEmpty | .isAtStart | .isStartOfLine => none
  | .current => some h
  | .previous => place? (h - 1)
  | .next => place? (h + 1)
  | .peek offset => place? (h + offset)
  | .isAtEnd | .read | .readNext | .readNextIf _ => walkTo (h + 1)
  | .readIf m => if text[h]?.any m.accepts then walkTo (h + 1) else none
  | .moveBy offset => place? (h + offset)
  | .skip count => place? (h + count)
  | .rewind count => place? (h - count)
  | .moveTo place offset => place? (place.index + offset)
  | .reset place => place? place.index
  | .matchesAt offset pattern => matchDemand? text (h + offset) pattern
  | .readSeq pattern =>
    if pattern.isEmpty then none else walkTo (h + common pattern (text.drop h))
  | .readNextSeq pattern => matchDemand? text (h + 1) pattern
  | .readWhile m | .skipWhile m => walkTo (firstRefused m.accepts text h)
  | .skipBlank blank _ => walkTo (firstRefused blank text h)
  | .readNextWhile m => walkTo (firstRefused m.accepts text (h + 1))
  | .skipUntil m => walkTo (firstRefused (fun x => !m.accepts x) text h)
  | .readWord starts continues =>
    if text[h]?.any starts then walkTo (firstRefused continues text (h + 1)) else some h
  | .text => some text.length

end Operation

/-! ### Actions that ask -/

namespace View

/-- Whether a head is on the place `h` of a text, over a source that cannot fail. -/
structure OnPlace (v : View α) (text : List α) (h : Nat) : Prop where
  reliable : v.buffer.Reliable
  whole_eq : v.buffer.whole = text
  index_eq : v.cursor.index = h
  held : h < v.buffer.items.size
  le_lastPlace : h ≤ lastPlace

/-- Whether an action asks for the first `n` places of the text, however it comes out. -/
structure Asks (n : Nat) (x : Moving α β) (v : View α) : Prop where
  ends : Action.Ends (fun _ w => v.buffer.Asked n w.buffer) (x.run v)

variable {v w : View α} {text : List α} {h n m : Nat}

namespace OnPlace

theorem lt_length (hv : v.OnPlace text h) : h < text.length := by
  have hle := v.buffer.size_le_whole
  rw [hv.whole_eq] at hle
  exact Nat.lt_of_lt_of_le hv.held hle

/-- A head stays on its place while its buffer is asked for more. -/
theorem asked (hv : v.OnPlace text h) (hb : v.buffer.Asked n w.buffer)
    (hindex : w.cursor.index = v.cursor.index) : w.OnPlace text h where
  reliable := hb.reliable
  whole_eq := hb.whole_eq.trans hv.whole_eq
  index_eq := hindex.trans hv.index_eq
  held := Nat.lt_of_lt_of_le hv.held hb.size_le
  le_lastPlace := hv.le_lastPlace

/-- Up to the place of the head nothing needs to be pulled. -/
theorem asked_of_le (hv : v.OnPlace text h) (hn : n ≤ h + 1) : v.buffer.Asked n v.buffer :=
  .of_le hv.reliable (Nat.le_trans hn hv.held)

end OnPlace

namespace Asks

/-- An action of which it is known how it comes out. -/
theorem of_run {x : Moving α β} {b : β} (hrun : x.run v = .ok b w)
    (hw : v.buffer.Asked n w.buffer) : Asks n x v where
  ends := by
    rw [hrun]
    exact hw

theorem of_error {x : Moving α β} {fault : Fault} (hrun : x.run v = .error fault w)
    (hw : v.buffer.Asked n w.buffer) : Asks n x v where
  ends := by
    rw [hrun]
    exact hw

theorem of_run_eq {x y : Moving α β} (hrun : x.run v = y.run v) (hy : Asks n y v) : Asks n x v where
  ends := by
    rw [hrun]
    exact hy.ends

/-- **Two actions in a row ask for the larger number of places.** -/
theorem bind {x : Moving α β} {f : β → Moving α γ} {b : β} (hrun : x.run v = .ok b w)
    (hw : v.buffer.Asked n w.buffer) (hf : Asks m (f b) w) : Asks (max n m) (x >>= f) v := by
  rcases hresult : (f b).run w with ⟨c, u⟩ | ⟨fault, u⟩
  · exact of_run ((Action.run_bind_of_ok hrun).trans hresult) (hw.trans (hf.ends.of_ok hresult))
  · exact of_error ((Action.run_bind_of_ok hrun).trans hresult)
      (hw.trans (hf.ends.of_error hresult))

/-- An action and the one that goes on when its answer is yes. -/
theorem bind_true {x : Moving α Bool} {y z : Moving α β} (hrun : x.run v = .ok true w)
    (hw : v.buffer.Asked n w.buffer) (hy : Asks m y w) :
    Asks (max n m) (do if ← x then y else z) v :=
  bind hrun hw hy

/-- An answer changed on its way out asks for nothing. -/
theorem map {x : Moving α β} (hx : Asks n x v) (g : β → γ) : Asks n (do return g (← x)) v := by
  rcases hrun : x.run v with ⟨b, w⟩ | ⟨fault, w⟩
  · exact of_run (Action.run_bind_of_ok hrun) (hx.ends.of_ok hrun)
  · exact of_error (Action.run_bind_of_error hrun) (hx.ends.of_error hrun)

theorem congr {x : Moving α β} (hx : Asks n x v)
    (hmax : max v.buffer.items.size n = max v.buffer.items.size m) : Asks m x v := by
  rcases hrun : x.run v with ⟨b, w⟩ | ⟨fault, w⟩
  · exact of_run hrun ((hx.ends.of_ok hrun).congr hmax)
  · exact of_error hrun ((hx.ends.of_error hrun).congr hmax)

/-- Doing nothing asks for no place that is not held. -/
theorem pure (hv : v.OnPlace text h) (hn : n ≤ h + 1) (b : β) :
    Asks n (Pure.pure b : Moving α β) v :=
  of_run rfl (hv.asked_of_le hn)

end Asks

/-! ### Looking at one place and moving to one -/

namespace OnPlace

/-- Looking at a place asks for it and answers what the text has there. -/
theorem run_peek (hv : v.OnPlace text h) (offset : Int) :
    ∃ b, (look (·.peek offset)).run v = .ok ((place? (h + offset)).bind (text[·]?)) ⟨b, v.cursor⟩ ∧
      v.buffer.Asked (places (place? (h + offset))) b := by
  rw [run_look, Cursor.run_peek, hv.index_eq]
  by_cases hplace : 0 ≤ (h + offset : Int) ∧ Fits (h + offset)
  · obtain ⟨b, hfetch, hb⟩ := hv.reliable.run_fetch (h + offset).toNat
    rw [hv.whole_eq] at hfetch
    rw [place?, if_pos hplace, Offset.add?_eq_some_iff.2 ⟨hplace.2, rfl⟩]
    simp only [if_neg (Int.not_lt.2 hplace.1), hfetch]
    exact ⟨b, rfl, hb⟩
  · have hstay : v.buffer.Asked (places none) v.buffer := .of_le hv.reliable (Nat.zero_le _)
    rw [place?_eq_none hplace]
    rcases hadd : Offset.add? h offset with _ | target
    · exact ⟨v.buffer, rfl, hstay⟩
    · obtain ⟨hfits, rfl⟩ := Offset.add?_eq_some_iff.1 hadd
      have hneg : (h + offset : Int) < 0 := Int.not_le.1 fun hle => hplace ⟨hle, hfits⟩
      simp only [if_pos hneg]
      exact ⟨v.buffer, rfl, hstay⟩

/-- Looking `e` places ahead. -/
theorem run_peek_ahead (hv : v.OnPlace text h) {e : Nat} (hlast : h + e ≤ lastPlace) :
    ∃ b, (look (·.peek e)).run v = .ok text[h + e]? ⟨b, v.cursor⟩ ∧
      v.buffer.Asked (h + e + 1) b := by
  have hpeek := hv.run_peek e
  rwa [place?_add hlast] at hpeek

/-- The element under the head. -/
theorem run_peek_zero (hv : v.OnPlace text h) :
    ∃ b, (look (·.peek 0)).run v = .ok text[h]? ⟨b, v.cursor⟩ ∧ v.buffer.Asked (h + 1) b :=
  hv.run_peek_ahead (e := 0) hv.le_lastPlace

/-- What asks for the next place asks for no more when there is no such place. -/
theorem asks_next {x : Moving α β} (hv : v.OnPlace text h)
    (hx : Asks (places (place? (h + 1))) x v) : Asks (places (walkTo (h + 1))) x v := by
  have hheld := hv.held
  have hlast := hv.le_lastPlace
  rw [places_walkTo]
  by_cases hnext : h + 1 ≤ lastPlace
  · have hplace : place? (h + 1) = some (h + 1) := place?_add hnext
    rw [hplace] at hx
    rwa [Nat.min_eq_left hnext]
  · have hplace : place? (h + 1) = none := place?_add_beyond (Nat.not_le.1 hnext)
    rw [hplace] at hx
    exact hx.congr (by simp only [places, Option.elim_none]; omega)

/-- Looking for the end asks for the next place, and finds the end if the text has nothing there. -/
theorem run_isAtEnd (hv : v.OnPlace text h) :
    ∃ b, (look (·.isAtEnd (α := α))).run v =
        .ok ((place? (h + 1)).bind (text[·]?)).isNone ⟨b, v.cursor⟩ ∧
      v.buffer.Asked (places (place? (h + 1))) b := by
  obtain ⟨b, hpeek, hb⟩ := hv.run_peek 1
  have hindex : ¬ v.cursor.index < 0 := by
    rw [hv.index_eq]
    omega
  refine ⟨b, ?_, hb⟩
  rw [run_look_eq_ok] at hpeek ⊢
  refine ⟨?_, rfl⟩
  rw [Cursor.isAtEnd, sourceIsEmpty, decide_eq_false hindex]
  exact Action.run_bind_of_ok hpeek.1

theorem asks_isAtEnd (hv : v.OnPlace text h) :
    Asks (places (walkTo (h + 1))) (look (·.isAtEnd (α := α))) v := by
  obtain ⟨b, hrun, hb⟩ := hv.run_isAtEnd
  exact hv.asks_next (.of_run hrun hb)

theorem asks_current (hv : v.OnPlace text h) :
    Asks (places (some h)) (look (·.current (α := α))) v := by
  have hindex := hv.index_eq
  have hheld := hv.held
  have hholds : v.buffer.holds v.cursor.index = true := Buffer.holds_iff.2 ⟨by omega, by omega⟩
  have hfits : Fits v.cursor.index := hindex ▸ fits_natCast.2 hv.le_lastPlace
  obtain ⟨x, -, hcurrent⟩ := run_current_of_holds hfits hholds
  have hrun : (look (·.current (α := α))).run v = .ok x v := run_look_eq_ok.2 ⟨hcurrent, rfl⟩
  exact .of_run hrun (hv.asked_of_le (Nat.le_refl _))

/-- What asks for the places up to some one ahead only if the element under the head passes a
test. -/
theorem asks_underHead (hv : v.OnPlace text h) (p : α → Bool) {stop : Nat} (hstop : h ≤ stop)
    {y : α → Moving α β} (z : β)
    (hy : ∀ x w, w.OnPlace text h → Asks (places (walkTo stop)) (y x) w) :
    Asks (places (if text[h]?.any p then walkTo stop else none))
      (do
        match ← look (·.peek 0) with
        | none => Pure.pure z
        | some x => if p x then y x else Pure.pure z) v := by
  obtain ⟨b, hpeek, hb⟩ := hv.run_peek_zero
  have hw : View.OnPlace ⟨b, v.cursor⟩ text h := hv.asked hb rfl
  obtain ⟨x, hx⟩ : ∃ x, text[h]? = some x := ⟨_, List.getElem?_eq_getElem hv.lt_length⟩
  have hheld := hv.held
  rw [hx] at hpeek
  rw [hx, Option.any_some]
  by_cases hp : p x
  · have hnext := hy x _ hw
    rw [places_walkTo] at hnext
    rw [if_pos hp, places_walkTo]
    refine (Asks.bind hpeek hb (m := min stop lastPlace + 1) ?_).congr (by omega)
    simp only [if_pos hp]
    exact hnext
  · rw [if_neg hp]
    refine (Asks.bind hpeek hb (m := 0) ?_).congr (by simp only [places, Option.elim_none]; omega)
    simp only [if_neg hp]
    exact .pure hw (Nat.zero_le _) z

section Matching

variable [DecidableEq α]

/-- One step of matching a pattern, at a place that there can be. -/
theorem run_matchesFrom_cons (hv : v.OnPlace text h) {offset : Int} {matched i : Nat}
    (hstart : 0 ≤ h + offset) (hi : h + offset + matched = i) (hlast : i ≤ lastPlace) (x : α)
    (rest : List α) :
    ∃ w, v.buffer.Asked (i + 1) w.buffer ∧ w.cursor = v.cursor ∧
      (look (·.matchesFrom offset matched (x :: rest))).run v =
        match text[i]? with
        | none => .ok false w
        | some y =>
          if y = x then (look (·.matchesFrom offset (matched + 1) rest)).run w
          else .ok false w := by
  have hcount : Offset.ofCount? matched = some (matched : Int) :=
    Offset.ofCount?_eq_some_iff.2 ⟨fits_natCast.2 (by omega), rfl⟩
  have hfits := fits_natCast.2 hlast
  have hfits' := fits_natCast.2 hv.le_lastPlace
  have hadd : Offset.add? offset matched = some (offset + matched : Int) := by
    refine Offset.add?_eq_some_iff.2 ⟨?_, rfl⟩
    unfold Fits at hfits hfits' ⊢
    omega
  have hplace : place? (h + (offset + matched)) = some i := by
    rw [← Int.add_assoc, hi]
    exact place?_natCast hlast
  obtain ⟨b, hpeek, hb⟩ := hv.run_peek (offset + matched)
  rw [hplace] at hpeek hb
  refine ⟨⟨b, v.cursor⟩, hb, rfl, ?_⟩
  simp only [Cursor.matchesFrom, hcount, hadd, Offset.orOverflow, pure_bind]
  rw [look_bind, Action.run_bind_of_ok hpeek, Option.bind_some]
  rcases text[i]? with _ | y
  · rfl
  · by_cases hy : y = x
    · simp only [if_pos hy]
    · simp only [if_neg hy]
      rfl

/-- Where there can be no place, matching goes no further and asks for nothing more. It is refused
only if more has matched than there are places. -/
theorem run_matchesFrom_nowhere (hv : v.OnPlace text h) (offset : Int) (matched : Nat)
    (hnone : place? (h + (offset + matched)) = none) (x : α) (rest : List α) :
    ∃ w, v.buffer.Asked 0 w.buffer ∧ w.cursor = v.cursor ∧
      ((look (·.matchesFrom offset matched (x :: rest))).run v = .ok false w ∨
        lastPlace < matched ∧
          ∃ fault, (look (·.matchesFrom offset matched (x :: rest))).run v = .error fault w) := by
  have hstay := hv.asked_of_le (Nat.zero_le _)
  simp only [Cursor.matchesFrom]
  rw [look_bind, look_orOverflow]
  by_cases hcount : Fits matched
  · rw [Offset.ofCount?_eq_some_iff.2 ⟨hcount, rfl⟩, Offset.orOverflow, pure_bind]
    rcases hadd : Offset.add? offset matched with _ | ahead
    · exact ⟨v, hstay, rfl, .inl rfl⟩
    · obtain ⟨-, rfl⟩ := Offset.add?_eq_some_iff.1 hadd
      obtain ⟨b, hpeek, hb⟩ := hv.run_peek (offset + matched)
      rw [hnone] at hpeek hb
      simp only
      rw [look_bind, Action.run_bind_of_ok hpeek]
      exact ⟨⟨b, v.cursor⟩, hb, rfl, .inl rfl⟩
  · rw [Offset.ofCount?_eq_none_iff.2 hcount]
    exact ⟨v, hstay, rfl, .inr ⟨Nat.not_le.1 (mt fits_natCast.2 hcount), _, rfl⟩⟩

/-- **Matching asks for all places up to the one where the pattern is decided**, by induction on the
pattern. -/
theorem run_matchesFrom (hv : v.OnPlace text h) (offset : Int) (matched : Nat) {i : Nat}
    {pattern : List α}
    (hne : pattern ≠ []) (hstart : 0 ≤ h + offset) (hi : h + offset + matched = i)
    (hreach : i ≤ lastPlace ∨ i = lastPlace + 1 ∧ i ≤ v.buffer.items.size) :
    ∃ w, v.buffer.Asked
        (places (walkTo (i + min (common pattern (text.drop i)) (pattern.length - 1)))) w.buffer ∧
      w.cursor = v.cursor ∧
      ((look (·.matchesFrom offset matched pattern)).run v = .ok true w ∧
          common pattern (text.drop i) = pattern.length ∨
        ((look (·.matchesFrom offset matched pattern)).run v = .ok false w ∨
            lastPlace < i + common pattern (text.drop i) ∧
              ∃ fault, (look (·.matchesFrom offset matched pattern)).run v = .error fault w) ∧
          (common pattern (text.drop i) < pattern.length ∨
            lastPlace < i + common pattern (text.drop i))) := by
  induction pattern generalizing v matched i with
  | nil => exact absurd rfl hne
  | cons x rest ih =>
    rcases Nat.lt_or_ge lastPlace i with hbeyond | hlast
    -- Everything up to the last place has been looked at.
    · obtain ⟨hi', hheld⟩ := hreach.resolve_left (Nat.not_le.2 hbeyond)
      have hnone : place? (h + (offset + matched)) = none := by
        rw [← Int.add_assoc, hi]
        exact place?_beyond hbeyond
      obtain ⟨w, hw, hcursor, hrun⟩ := hv.run_matchesFrom_nowhere offset matched hnone x rest
      have hfar : lastPlace < i + common (x :: rest) (text.drop i) := by omega
      have hresult := hrun.imp_right (And.imp_left fun _ => hfar)
      refine ⟨w, hw.congr ?_, hcursor, .inr ⟨hresult, .inr hfar⟩⟩
      rw [places_walkTo]
      generalize lastPlace = last at *
      omega
    obtain ⟨w, hw, hcursor, hrun⟩ := hv.run_matchesFrom_cons hstart hi hlast x rest
    rcases hy : text[i]? with _ | y
    · rw [common_of_none hy, Nat.zero_min, Nat.add_zero, places_walkTo, Nat.min_eq_left hlast]
      rw [hy] at hrun
      exact ⟨w, hw, hcursor, .inr ⟨.inl hrun, .inl (Nat.succ_pos _)⟩⟩
    rw [hy] at hrun
    by_cases hne : y = x
    · subst hne
      simp only [if_true] at hrun
      rw [common_cons hy, List.length_cons, Nat.add_sub_cancel, hrun]
      rcases hrest : rest with _ | ⟨z, more⟩
      · refine ⟨w, ?_, hcursor, .inl ⟨rfl, rfl⟩⟩
        rwa [List.length_nil, Nat.min_zero, Nat.add_zero, places_walkTo, Nat.min_eq_left hlast]
      rw [← hrest]
      have hplace := hv.asked hw (by rw [hcursor])
      have hlt : i < text.length := (List.getElem?_eq_some_iff.1 hy).1
      have hheld := hw.min_le_size
      rw [hv.whole_eq] at hheld
      obtain ⟨u, hu, hcursor', hresult⟩ := ih hplace (matched + 1) (i := i + 1)
        (by rw [hrest]; exact nofun) (by omega) (by omega)
      have hlength : 0 < rest.length := by
        rw [hrest]
        exact Nat.succ_pos _
      refine ⟨u, (hw.trans hu).congr ?_, hcursor'.trans hcursor, ?_⟩
      · rw [places_walkTo, places_walkTo]
        generalize lastPlace = last at *
        omega
      · rcases hresult with ⟨htrue, hall⟩ | ⟨hfalse, hshort⟩
        · exact .inl ⟨htrue, by omega⟩
        · exact .inr ⟨hfalse.imp_right (And.imp_left fun hfar => by omega), by omega⟩
    · simp only [if_neg hne] at hrun
      rw [common_of_ne hy hne, Nat.zero_min, Nat.add_zero, places_walkTo, Nat.min_eq_left hlast]
      exact ⟨w, hw, hcursor, .inr ⟨.inl hrun, .inl (Nat.succ_pos _)⟩⟩

/-- **Matching asks for the places up to the one that decides**, and finds the pattern where it is;
a place beyond the last one is never found to match. Only there, or for an empty pattern, can it be
refused. -/
theorem run_matchesAt (hv : v.OnPlace text h) (offset : Int) (pattern : List α) :
    ∃ w, v.buffer.Asked (places (Operation.matchDemand? text (h + offset) pattern)) w.buffer ∧
      w.cursor = v.cursor ∧
      ((look (·.matchesAt offset pattern)).run v = .ok true w ∧
          (∃ i, place? (h + offset) = some i ∧ common pattern (text.drop i) = pattern.length) ∨
        ((look (·.matchesAt offset pattern)).run v = .ok false w ∨
            (pattern = [] ∨
              ∃ i, place? (h + offset) = some i ∧ lastPlace < i + common pattern (text.drop i)) ∧
              ∃ fault, (look (·.matchesAt offset pattern)).run v = .error fault w) ∧
          ∀ i, place? (h + offset) = some i → pattern = [] ∨
            common pattern (text.drop i) < pattern.length ∨
              lastPlace < i + common pattern (text.drop i)) := by
  rw [Operation.matchDemand?]
  rcases pattern with _ | ⟨x, rest⟩
  · exact ⟨v, hv.asked_of_le (Nat.zero_le _), rfl,
      .inr ⟨.inr ⟨.inl rfl, _, rfl⟩, fun _ _ => .inl rfl⟩⟩
  have hempty : ¬ (x :: rest).isEmpty = true := Bool.false_ne_true
  simp only [Cursor.matchesAt, if_neg hempty]
  rcases hplace : place? (h + offset) with _ | i
  · obtain ⟨w, hw, hcursor, hrun⟩ :=
      hv.run_matchesFrom_nowhere offset 0 (by rwa [Int.natCast_zero, Int.add_zero]) x rest
    have hfalse := hrun.resolve_right fun hfault => Nat.not_lt_zero _ hfault.1
    refine ⟨w, hw, hcursor, .inr ⟨.inl hfalse, fun i hi => ?_⟩⟩
    cases hi
  · obtain ⟨hi, hlast⟩ := place?_eq_some_iff.1 hplace
    obtain ⟨w, hw, hcursor, hresult⟩ := hv.run_matchesFrom offset 0
      (List.cons_ne_nil x rest) (by omega) (i := i) (by omega) (.inl hlast)
    refine ⟨w, hw, hcursor, ?_⟩
    rcases hresult with ⟨hrun, hall⟩ | ⟨hrun, hshort⟩
    · exact .inl ⟨hrun, i, rfl, hall⟩
    · refine .inr ⟨hrun.imp_right (And.imp_left fun hfar => .inr ⟨i, rfl, hfar⟩), fun j hj => ?_⟩
      cases hj
      exact .inr hshort

theorem asks_matchesAt (hv : v.OnPlace text h) (offset : Int) (pattern : List α) :
    Asks (places (Operation.matchDemand? text (h + offset) pattern))
      (look (·.matchesAt offset pattern)) v := by
  obtain ⟨w, hw, -, ⟨hrun, -⟩ | ⟨hrun | ⟨-, fault, hrun⟩, -⟩⟩ := hv.run_matchesAt offset pattern
  · exact .of_run hrun hw
  · exact .of_run hrun hw
  · exact .of_error hrun hw

end Matching

/-! ### Scanning -/

/-- **A scan asks for all places up to the one it stops at**, which is told by how much has passed,
and hands out the element there, unless the last place comes before it; by induction on what lies
ahead. -/
theorem run_scan (hv : v.OnPlace text h) (p : α → Bool) {e : Nat} (hlast : h + e ≤ lastPlace + 1)
    (hheld : h + e ≤ v.buffer.items.size) :
    ∃ w, v.buffer.Asked (places (walkTo (firstRefused p text (h + e)))) w.buffer ∧
      w.cursor = v.cursor ∧
      ((lastPlace < firstRefused p text (h + e) ∧
          (look (·.scan p e)).run v = .error (.misuse .seekOverflow) w) ∨
        ∃ scanned, (look (·.scan p e)).run v = .ok scanned w ∧
          h + e + scanned.passed.length = min (firstRefused p text (h + e)) (lastPlace + 1) ∧
          scanned.stop = (place? (firstRefused p text (h + e) : Nat)).bind (text[·]?)) := by
  induction hn : text.length - (h + e) using Nat.strongRecOn generalizing v e with
  | ind n ih =>
    have hstep := funext fun c => scan_eq p c e
    have hle : h + e ≤ firstRefused p text (h + e) := le_firstRefused
    rw [hstep, look_bind]
    rcases Nat.lt_or_ge lastPlace (h + e) with hbeyond | hplace
    · obtain ⟨b, hpeek, hb⟩ := hv.run_peek e
      rw [place?_add_beyond hbeyond] at hpeek hb
      refine ⟨⟨b, v.cursor⟩, hb.congr ?_, rfl, .inr ⟨_, Action.run_bind_of_ok hpeek, ?_, ?_⟩⟩
      · rw [places_walkTo]
        simp only [places, Option.elim_none]
        generalize lastPlace = last at *
        omega
      · simp only [List.length_nil]
        generalize lastPlace = last at *
        omega
      · rw [place?_beyond (Nat.lt_of_lt_of_le hbeyond hle), Option.bind_none]
    obtain ⟨b, hpeek, hb⟩ := hv.run_peek_ahead hplace
    rcases hx : text[h + e]? with _ | x
    · rw [hx] at hpeek
      rw [firstRefused_of_none hx, places_walkTo, Nat.min_eq_left hplace, Nat.min_eq_left hlast]
      refine ⟨⟨b, v.cursor⟩, hb, rfl, .inr ⟨_, Action.run_bind_of_ok hpeek, rfl, ?_⟩⟩
      rw [place?_natCast hplace, Option.bind_some, hx]
    rw [hx] at hpeek
    rcases hp : p x
    · rw [firstRefused_of_refused hx hp, places_walkTo, Nat.min_eq_left hplace,
        Nat.min_eq_left hlast]
      refine ⟨⟨b, v.cursor⟩, hb, rfl, .inr ⟨⟨[], some x⟩, ?_, rfl, ?_⟩⟩
      · rw [Action.run_bind_of_ok hpeek]
        simp only [hp]
        rfl
      · rw [place?_natCast hplace, Option.bind_some, hx]
    have hplace' : View.OnPlace ⟨b, v.cursor⟩ text h := hv.asked hb rfl
    have hlt : h + e < text.length := (List.getElem?_eq_some_iff.1 hx).1
    have hle' : h + (e + 1) ≤ firstRefused p text (h + (e + 1)) := le_firstRefused
    have hpassed : firstRefused p text (h + e) = firstRefused p text (h + (e + 1)) :=
      firstRefused_of_passed hx hp
    rw [hpassed, Action.run_bind_of_ok hpeek]
    simp only [hp, if_true]
    rw [look_bind, look_orOverflow]
    rcases hadd : Offset.add? e 1 with _ | following
    -- The next distance does not fit, so this place is the last one.
    · have hunfit := Offset.add?_eq_none_iff.1 hadd
      rw [show (e : Int) + 1 = (e + 1 : Nat) from rfl, fits_natCast] at hunfit
      refine ⟨⟨b, v.cursor⟩, hb.congr ?_, rfl, .inl ⟨by omega, rfl⟩⟩
      rw [places_walkTo]
      generalize lastPlace = last at *
      omega
    obtain ⟨-, rfl⟩ := Offset.add?_eq_some_iff.1 hadd
    have hsize := hb.min_le_size
    rw [hv.whole_eq] at hsize
    obtain ⟨w, hw, hcursor, hrest⟩ := ih _ (by omega) hplace' (e := e + 1) (by omega)
      (by simp only; omega) rfl
    refine ⟨w, (hb.trans hw).congr ?_, hcursor, ?_⟩
    · rw [places_walkTo]
      generalize lastPlace = last at *
      omega
    rw [Offset.orOverflow, pure_bind, look_bind]
    rcases hrest with ⟨hfar, hrun⟩ | ⟨scanned, hrun, hlength, hstop⟩
    · exact .inl ⟨hfar, Action.run_bind_of_error hrun⟩
    · refine .inr ⟨_, Action.run_bind_of_ok hrun, ?_, hstop⟩
      simp only [List.length_cons]
      omega

end OnPlace

end View

end Rewind
