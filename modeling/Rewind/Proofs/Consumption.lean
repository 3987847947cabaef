import Rewind.Proofs.Demand
import Rewind.Proofs.Recovery
import Rewind.Proofs.Remainders

/-!
# What is consumed

A read hands out what its head passes. **Whatever it hands out is the text from where the head
starts up to where it stops**: from the element under the head on for a read, and from the one ahead
of it for a read of the next. Where nothing is handed out the head has not moved, be it that the
elements do not match, that they match but cannot be left behind, or that the source fails.

So what the reads of one cursor hand out, one after the other, tiles the text
(`consumed_elements_tile`), and what is done over the buffer in between makes no difference. Only a
run that the source breaks off leaves a gap: what it had read is lost, and its head has moved on.
-/

namespace Rewind

variable {α β γ : Type}

open Cursor

/-! ### Consuming operations -/

namespace Operation

/-- Whether an operation is one that consumes from the element `ahead` places from its head on: `0`
for the reads, `1` for the reads of the next. -/
def ConsumesFrom (ahead : Nat) : Operation α → Prop
  | .read | .readIf _ | .readSeq _ | .readWhile _ | .readWord _ _ => ahead = 0
  | .readNext | .readNextIf _ | .readNextSeq _ | .readNextWhile _ => ahead = 1
  | _ => False

/-- What an operation has consumed when it gives this reply. -/
def consumed : Operation α → Reply α → List α
  | .read, .element x | .readIf _, .element x => x.toList
  | .readNext, .element x | .readNextIf _, .element x => x.toList
  | .readSeq pattern, .verdict holds | .readNextSeq pattern, .verdict holds =>
    if holds then pattern else []
  | .readWhile _, .run xs | .readNextWhile _, .run xs => xs
  | .readWord _ _, .word xs => xs.getD []
  | _, _ => []

end Operation

/-! ### Passing elements -/

namespace View

/-- Whether `xs` are the elements that a head passes on its way from one place to another, where the
next one to pass lies `ahead` places from it. -/
structure Passes (ahead : Nat) (v : View α) (xs : List α) (w : View α) : Prop where
  whole_eq : w.buffer.whole = v.buffer.whole
  index_le : v.cursor.index ≤ w.cursor.index
  drop_eq : v.buffer.whole.drop (v.cursor.index + ahead).toNat =
    xs ++ v.buffer.whole.drop (w.cursor.index + ahead).toNat

namespace Passes

variable {v w u : View α} {ahead : Nat} {xs ys : List α}

/-- A head that stays passes nothing. -/
theorem stay (hwhole : w.buffer.whole = v.buffer.whole) (hindex : w.cursor.index = v.cursor.index) :
    v.Passes ahead [] w where
  whole_eq := hwhole
  index_le := Int.le_of_eq hindex.symm
  drop_eq := by rw [hindex, List.nil_append]

/-- **What is passed on two ways in a row is put together.** -/
theorem trans (h : v.Passes ahead xs w) (h' : w.Passes ahead ys u) :
    v.Passes ahead (xs ++ ys) u where
  whole_eq := h'.whole_eq.trans h.whole_eq
  index_le := Int.le_trans h.index_le h'.index_le
  drop_eq := by
    have hrest := h'.drop_eq
    rw [h.whole_eq] at hrest
    rw [h.drop_eq, hrest, List.append_assoc]

/-- What is passed is a piece of the text. -/
theorem eq_extract (h : v.Passes ahead xs w) :
    xs = v.buffer.whole.extract (v.cursor.index + ahead).toNat (w.cursor.index + ahead).toNat := by
  have hle : (v.cursor.index + ahead).toNat ≤ (w.cursor.index + ahead).toNat := by
    have := h.index_le
    omega
  have hsplit := h.drop_eq
  obtain ⟨count, hcount⟩ := Nat.exists_eq_add_of_le hle
  rw [hcount, ← List.drop_drop] at hsplit
  rw [hcount, List.extract_eq_take_drop, Nat.add_sub_cancel_left]
  refine List.append_cancel_right (hsplit.symm.trans ?_)
  exact (List.take_append_drop count _).symm

end Passes

/-- Whether an action passes what it gives, and passes nothing when it fails. -/
structure Consumes (ahead : Nat) (given : β → List α) (x : Moving α β) (v : View α) : Prop where
  of_ok {b : β} {w : View α} : x.run v = .ok b w → v.Passes ahead (given b) w
  of_error {fault : Fault} {w : View α} : x.run v = .error fault w → v.Passes ahead [] w

namespace Consumes

variable {v w : View α} {ahead : Nat} {given : β → List α}

theorem pure {b : β} (hgiven : given b = []) : Consumes ahead given (Pure.pure b) v where
  of_ok hrun := by
    cases hrun
    rw [hgiven]
    exact .stay rfl rfl
  of_error := nofun

theorem ite {p : Prop} [Decidable p] {x y : Moving α β} (hx : p → Consumes ahead given x v)
    (hy : ¬ p → Consumes ahead given y v) : Consumes ahead given (if p then x else y) v := by
  split
  · next hp => exact hx hp
  · next hp => exact hy hp

theorem map {x : Moving α γ} {g : γ → β} (hx : Consumes ahead (fun c => given (g c)) x v) :
    Consumes ahead given (do return g (← x)) v where
  of_ok hrun := by
    rw [bind_pure_comp, Action.run_map_eq_ok] at hrun
    obtain ⟨c, hx', rfl⟩ := hrun
    exact hx.of_ok hx'
  of_error hrun := by
    rw [bind_pure_comp, Action.run_map_eq_error] at hrun
    exact hx.of_error hrun

/-- A move over some elements, answered with something that stands for them if it is made. -/
theorem ifMoved {x : Moving α Bool} {xs : List α} {y z : β}
    (hx : Consumes ahead (fun moved => if moved then xs else []) x v) (hy : given y = xs)
    (hz : given z = []) : Consumes ahead given (do return if ← x then y else z) v := by
  have hgiven : (fun moved : Bool => given (if moved then y else z)) =
      fun moved => if moved then xs else [] := by
    funext moved
    rcases moved
    · exact hz
    · exact hy
  exact .map (hgiven ▸ hx)

/-- Looking passes nothing, so only what follows counts. -/
theorem look_bind {g : Cursor → Peeking α γ} {f : γ → Moving α β}
    (hpulling : pulling.Holds (look g) v)
    (hf : ∀ c w, (g v.cursor).run v.buffer = .ok c w.buffer → w.cursor = v.cursor →
      w.buffer.whole = v.buffer.whole → Consumes ahead given (f c) w) :
    Consumes ahead given (look g >>= f) v := by
  have hends := Judgement.ofRelation_iff.1 hpulling
  have hgoes {c : γ} {w : View α} (hlook : (look g).run v = .ok c w) :
      v.Passes ahead [] w ∧ Consumes ahead given (f c) w := by
    obtain ⟨hrun, hcursor⟩ := run_look_eq_ok.1 hlook
    obtain ⟨told, hb, -⟩ := hends.of_ok hlook
    exact ⟨.stay hb.whole_eq (congrArg _ hcursor), hf c w hrun hcursor hb.whole_eq⟩
  constructor
  · intro b u hrun
    obtain ⟨c, w, hlook, hrest⟩ := Action.run_bind_eq_ok.1 hrun
    obtain ⟨hstay, hconsumes⟩ := hgoes hlook
    exact hstay.trans (hconsumes.of_ok hrest)
  · intro fault u hrun
    rcases Action.run_bind_eq_error.1 hrun with hlook | ⟨c, w, hlook, hrest⟩
    · obtain ⟨told, hb, -⟩ := hends.of_error hlook
      exact .stay hb.whole_eq (congrArg _ (run_look_eq_error.1 hlook).2)
    · obtain ⟨hstay, hconsumes⟩ := hgoes hlook
      exact hstay.trans (hconsumes.of_error hrest)

end Consumes

end View

/-! ### What a look finds -/

namespace Cursor

variable {c : Cursor} {b b' : Buffer α} {offset : Int} {x : α}

/-- An element that is seen is one of the text. -/
theorem getElem?_of_run_peek (h : (c.peek offset).run b = .ok (some x) b') :
    ∃ place : Nat, c.index + offset = place ∧ Fits place ∧ b.whole[place]? = some x := by
  obtain ⟨-, hx⟩ := of_run_peek h
  obtain ⟨target, hadd, hget⟩ := Option.bind_eq_some_iff.1 hx.symm
  obtain ⟨hfits, rfl⟩ := Offset.add?_eq_some_iff.1 hadd
  rw [elementAt?] at hget
  split at hget
  · cases hget
  · next hnonneg =>
    have hplace : ((c.index + offset).toNat : Int) = c.index + offset :=
      Int.toNat_of_nonneg (Int.not_lt.1 hnonneg)
    exact ⟨_, hplace.symm, hplace ▸ hfits, hget⟩

/-- An element and what follows it. -/
theorem cons_isPrefix_drop {text xs : List α} {place : Nat} (hx : text[place]? = some x)
    (hxs : xs <+: text.drop (place + 1)) : x :: xs <+: text.drop place := by
  rw [List.drop_eq_getElem?_toList_append, hx]
  exact (List.prefix_cons_inj x).2 hxs

/-- **A pattern that is found is there**, by induction on the pattern. -/
theorem isPrefix_of_run_matchesFrom [DecidableEq α] {matched : Nat} {pattern : List α}
    (h : (c.matchesFrom offset matched pattern).run b = .ok true b') :
    pattern <+: b.whole.drop (c.index + offset + matched).toNat := by
  induction pattern generalizing matched b with
  | nil => exact List.nil_prefix
  | cons x rest ih =>
    obtain ⟨i, t, hfits, h⟩ := Action.run_bind_eq_ok.1 h
    obtain ⟨hcount, rfl⟩ := Action.run_orOverflow_eq_ok.1 hfits
    obtain ⟨-, rfl⟩ := Offset.ofCount?_eq_some_iff.1 hcount
    rcases hadd : Offset.add? offset matched with _ | ahead
    · rw [hadd] at h
      cases h
    rw [hadd] at h
    obtain ⟨-, rfl⟩ := Offset.add?_eq_some_iff.1 hadd
    obtain ⟨_ | y, u, hpeek, h⟩ := Action.run_bind_eq_ok.1 h
    · cases h
    obtain ⟨⟨told, hb, -⟩, -⟩ := of_run_peek hpeek
    obtain ⟨place, hplace, -, hy⟩ := getElem?_of_run_peek hpeek
    by_cases hxy : y = x
    · subst hxy
      simp only [if_true] at h
      have hrest := ih h
      rw [hb.whole_eq, show (c.index + offset + (matched + 1 : Nat)).toNat = place + 1 by omega]
        at hrest
      rw [show (c.index + offset + matched).toNat = place by omega]
      exact cons_isPrefix_drop hy hrest
    · simp only [if_neg hxy] at h
      cases h

theorem isPrefix_of_run_matchesAt [DecidableEq α] {pattern : List α}
    (h : (c.matchesAt offset pattern).run b = .ok true b') :
    pattern <+: b.whole.drop (c.index + offset).toNat := by
  rw [matchesAt] at h
  split at h
  · cases h
  · simpa using isPrefix_of_run_matchesFrom h

/-- **What passes a scan is there**, by induction on what lies ahead. -/
theorem isPrefix_of_run_scan {p : α → Bool} {scanned : Scanned α}
    (h : (c.scan p offset).run b = .ok scanned b') :
    scanned.passed <+: b.whole.drop (c.index + offset).toNat := by
  induction hn : b.whole.length - (c.index + offset).toNat using Nat.strongRecOn
    generalizing offset b scanned with
  | ind n ih =>
    rw [scan_eq] at h
    obtain ⟨_ | x, t, hpeek, h⟩ := Action.run_bind_eq_ok.1 h
    · cases h
      exact List.nil_prefix
    obtain ⟨⟨told, hb, -⟩, -⟩ := of_run_peek hpeek
    obtain ⟨place, hplace, -, hx⟩ := getElem?_of_run_peek hpeek
    by_cases hp : p x
    · simp only [if_pos hp] at h
      obtain ⟨following, u, hfollowing, h⟩ := Action.run_bind_eq_ok.1 h
      obtain ⟨hadd, rfl⟩ := Action.run_orOverflow_eq_ok.1 hfollowing
      obtain ⟨-, rfl⟩ := Offset.add?_eq_some_iff.1 hadd
      obtain ⟨rest, u, hscan, h⟩ := Action.run_bind_eq_ok.1 h
      cases h
      have hlt : place < b.whole.length := (List.getElem?_eq_some_iff.1 hx).1
      have hrest := ih _ (by rw [hb.whole_eq]; omega) hscan rfl
      rw [hb.whole_eq, show (c.index + (offset + 1)).toNat = place + 1 by omega] at hrest
      rw [show (c.index + offset).toNat = place by omega]
      exact cons_isPrefix_drop hx hrest
    · simp only [if_neg hp] at h
      cases h
      exact List.nil_prefix

end Cursor

/-! ### Moving over what was found -/

namespace View

/-- Where a move ahead by some elements may lead: to the place that many elements on if it is made,
and nowhere otherwise. -/
def LeadsAhead (count : Nat) (v : View α) : EStateM.Result Fault (View α) Bool → Prop
  | .ok true w => w.cursor.index = v.cursor.index + count ∧
    (0 < count → 0 ≤ v.cursor.index ∧ Fits w.cursor.index)
  | .ok false w => w.cursor.index = v.cursor.index
  | .error _ w => w.cursor.index = v.cursor.index

variable [LineElement α] {v w : View α} {ahead : Nat} {x : α} {xs : List α} {fault : Fault}

theorem leadsAhead_moveBy (count : Nat) (v : View α) :
    v.LeadsAhead count ((moveBy count).run v) := by
  refine moveBy_cases (P := v.LeadsAhead count) count v
    ?stay ?overflow ?outside ?back ?ahead ?ended ?failed
  case stay =>
    intro hzero
    have hcount : count = 0 := Int.natCast_eq_zero.1 hzero
    subst hcount
    exact ⟨(Int.add_zero _).symm, nofun⟩
  case overflow => exact fun _ => rfl
  case outside => exact fun _ => rfl
  case back => exact fun _ hback _ => by omega
  case ahead =>
    intro b hfits hindex hpos _
    obtain ⟨w, hland, -, hw⟩ := land_ahead ⟨b, v.cursor⟩
      (Int.le_add_of_nonneg_right (Int.natCast_nonneg count))
    rw [hland]
    exact ⟨hw, fun _ => ⟨hindex, hw ▸ hfits⟩⟩
  case ended => exact fun _ _ _ _ => rfl
  case failed => exact fun _ _ _ _ _ => rfl

/-- **A move over elements that lie ahead passes them**, if it is made. -/
theorem consumes_moveBy (hxs : xs <+: v.buffer.whole.drop (v.cursor.index + ahead).toNat) :
    Consumes ahead (fun moved => if moved then xs else []) (moveBy xs.length) v := by
  have hends := Judgement.ofRelation_iff.1 (pulling_moveBy xs.length v)
  have hleads := leadsAhead_moveBy xs.length v
  constructor
  · intro moved w hrun
    obtain ⟨told, hb, -⟩ := hends.of_ok hrun
    rw [hrun] at hleads
    rcases moved
    · exact .stay hb.whole_eq hleads
    obtain ⟨hindex, hpos⟩ := hleads
    refine ⟨hb.whole_eq, by omega, ?_⟩
    obtain ⟨rest, hrest⟩ := hxs
    -- A move over nothing is made from anywhere, one over something only from a place.
    rcases hempty : xs with _ | ⟨y, ys⟩
    · rw [hempty] at hindex
      rw [hindex]
      simp
    · obtain ⟨hstart, -⟩ := hpos (by rw [hempty]; exact Nat.succ_pos _)
      rw [← hempty, hindex,
        show (v.cursor.index + xs.length + ahead).toNat = (v.cursor.index + ahead).toNat + xs.length
          by omega,
        ← List.drop_drop, ← hrest, List.drop_left, if_pos rfl]
  · intro fault w hrun
    obtain ⟨told, hb, -⟩ := hends.of_error hrun
    rw [hrun] at hleads
    exact .stay hb.whole_eq hleads

theorem consumes_skip (hxs : xs <+: v.buffer.whole.drop (v.cursor.index + ahead).toNat) :
    Consumes ahead (fun moved => if moved then xs else []) (skip xs.length) v := by
  rw [skip]
  rcases hcount : Offset.ofCount? xs.length with _ | count
  · exact ⟨nofun, fun hrun => by cases hrun; exact .stay rfl rfl⟩
  · obtain ⟨-, rfl⟩ := Offset.ofCount?_eq_some_iff.1 hcount
    exact consumes_moveBy hxs

/-! ### Reads consume -/

/-- Looking at the next element to pass, which is one of the text if there is one. -/
theorem consumes_peek_bind {given : β → List α} {f : Option α → Moving α β}
    (hnone : ∀ w, Consumes ahead given (f none) w)
    (hsome : ∀ (x : α) (w : View α) (place : Nat), w.cursor.index + ahead = place →
      w.buffer.whole[place]? = some x → Consumes ahead given (f (some x)) w) :
    Consumes ahead given (look (·.peek ahead) >>= f) v := by
  refine .look_bind (pulling_covers.peek ahead v) fun x w hpeek hcursor hwhole => ?_
  rcases x with _ | x
  · exact hnone w
  obtain ⟨place, hplace, -, hx⟩ := getElem?_of_run_peek hpeek
  exact hsome x w place (hcursor ▸ hplace) (hwhole ▸ hx)

theorem consumes_advanceWith {place : Nat} (hplace : v.cursor.index + ahead = place)
    (hx : v.buffer.whole[place]? = some x) : Consumes ahead Option.toList (advanceWith x) v := by
  have hnext : [x] <+: v.buffer.whole.drop (v.cursor.index + ahead).toNat := by
    rw [hplace, Int.toNat_natCast]
    exact cons_isPrefix_drop hx List.nil_prefix
  exact .ifMoved (consumes_moveBy hnext) rfl rfl

theorem consumes_read (v : View α) : Consumes 0 Option.toList Cursor.read v :=
  consumes_peek_bind (fun _ => .pure rfl) fun _ _ _ hplace hx => consumes_advanceWith hplace hx

/-- Advancing past the element `ahead` places on if it passes a test. -/
theorem consumes_advanceIf (p : α → Bool) (ahead : Nat) (v : View α) :
    Consumes ahead Option.toList (advanceIf p ahead) v :=
  consumes_peek_bind (fun _ => .pure rfl) fun _ _ _ hplace hx =>
    .ite (fun _ => consumes_advanceWith hplace hx) fun _ => .pure rfl

/-- Stepping on and then looking: once the head has stepped on, it is shown what it has passed. -/
theorem consumes_readNext (v : View α) : Consumes 1 Option.toList Cursor.readNext v := by
  have hends := Judgement.ofRelation_iff.1 (pulling_moveBy 1 v)
  have hleads : v.LeadsAhead 1 ((moveBy 1).run v) := leadsAhead_moveBy 1 v
  constructor
  · intro x u hrun
    obtain ⟨moved, w, hmove, hrest⟩ := Action.run_bind_eq_ok.1 hrun
    obtain ⟨told, hb, -⟩ := hends.of_ok hmove
    rw [hmove] at hleads
    rcases moved
    · cases hrest
      exact .stay hb.whole_eq hleads
    obtain ⟨hindex, hpos⟩ := hleads
    obtain ⟨hstart, hfits⟩ := hpos Nat.zero_lt_one
    rw [if_pos rfl] at hrest
    obtain ⟨hpeek, hcursor⟩ := run_look_eq_ok.1 hrest
    obtain ⟨⟨told', hb', -⟩, hx⟩ := of_run_peek hpeek
    have hplace : ((v.cursor.index + 1).toNat : Int) = w.cursor.index := by omega
    rw [Offset.add?_eq_some_iff.2 ⟨(Int.add_zero _).symm ▸ hfits, rfl⟩, Option.bind_some,
      Int.add_zero, ← hplace, elementAt?_natCast, hb.whole_eq] at hx
    refine ⟨hb'.whole_eq.trans hb.whole_eq, by rw [hcursor]; omega, ?_⟩
    rw [hx, hcursor,
      show (w.cursor.index + (1 : Nat)).toNat = (v.cursor.index + 1).toNat + 1 by omega]
    exact List.drop_eq_getElem?_toList_append
  · intro fault u hrun
    rcases Action.run_bind_eq_error.1 hrun with hmove | ⟨_ | _, w, hmove, hrest⟩
    · obtain ⟨told, hb, -⟩ := hends.of_error hmove
      rw [hmove] at hleads
      exact .stay hb.whole_eq hleads
    · cases hrest
    · obtain ⟨x, hpeek⟩ := Cursor.run_peek_of_moveBy hmove
      simp only [if_true, hpeek] at hrest
      cases hrest

/-- Moving over a pattern that lies `ahead` places on. -/
theorem consumes_matched [DecidableEq α] (pattern : List α) (ahead : Nat) (v : View α) :
    Consumes ahead (fun holds => if holds then pattern else [])
      (do if ← look (·.matchesAt ahead pattern) then skip pattern.length else Pure.pure false)
      v := by
  have hpulling := pulling_covers.matchesAt ahead pattern v
  refine .look_bind hpulling fun holds w hmatches hcursor hwhole => ?_
  rcases holds
  · exact .pure rfl
  · refine consumes_skip ?_
    rw [hcursor, hwhole]
    exact isPrefix_of_run_matchesAt hmatches

theorem consumes_readWord (starts continues : α → Bool) (v : View α) :
    Consumes 0 (·.getD []) (Cursor.readWord starts continues) v := by
  refine consumes_peek_bind (fun _ => .pure rfl) fun x w place hplace hx => ?_
  refine .ite (fun _ => ?_) fun _ => .pure rfl
  refine .look_bind (pulling_covers.scan continues 1 w) fun scanned u hscan hcursor hwhole => ?_
  have hpassed := isPrefix_of_run_scan hscan
  have hword : x :: scanned.passed <+: u.buffer.whole.drop (u.cursor.index + (0 : Nat)).toNat := by
    rw [hwhole, hcursor, hplace, Int.toNat_natCast]
    rw [show (w.cursor.index + 1).toNat = place + 1 by omega] at hpassed
    exact cons_isPrefix_drop hx hpassed
  have hskip : Consumes 0 (fun moved => if moved then x :: scanned.passed else [])
      (skip (scanned.passed.length + 1)) u := consumes_skip hword
  exact .ifMoved hskip rfl rfl

/-! ### Runs consume -/

omit [LineElement α] in
/-- **A run that is not broken off passes what it gives**, by induction on what lies ahead. -/
theorem passes_of_run_many {reader : Reader α α}
    (hread : ∀ v, Consumes ahead Option.toList reader.read v)
    (hrun : reader.many.run v = .ok xs w) : v.Passes ahead xs w := by
  induction hn : v.ahead using Nat.strongRecOn generalizing v xs with
  | ind n ih =>
    rw [reader.many_eq] at hrun
    obtain ⟨_ | x, u, hfirst, hrest⟩ := Action.run_bind_eq_ok.1 hrun
    · cases hrest
      exact (hread v).of_ok hfirst
    · obtain ⟨ys, t, hmany, hys⟩ := Action.run_bind_eq_ok.1 hrest
      cases hys
      have hlt := reader.ahead_lt hfirst
      exact ((hread v).of_ok hfirst).trans (ih _ (hn ▸ hlt) hmany rfl)

/-- The faults that can break off a run: a failure of the source, and a place to go to that is
beyond the last one. -/
def Breaks (text : List α) (fault : Fault) : Prop :=
  (∃ m, fault = .source m) ∨ fault = .misuse .seekOverflow ∧ lastPlace < text.length

/-- An advance past an element that was seen fails only with the source, or where the head is on the
last place there can be. -/
theorem breaks_of_run_advanceIf {p : α → Bool} (hahead : ahead ≤ 1)
    (hrun : (advanceIf p ahead).run v = .error fault w) : Breaks v.buffer.whole fault := by
  rcases Action.run_bind_eq_error.1 hrun with hlook | ⟨_ | x, u, hlook, hrest⟩
  · exact .inl (fault_of_run_peek (run_look_eq_error.1 hlook).1)
  · cases hrest
  obtain ⟨hpeek, hcursor⟩ := run_look_eq_ok.1 hlook
  obtain ⟨place, hplace, hfits, hx⟩ := getElem?_of_run_peek hpeek
  by_cases hp : p x
  · simp only [if_pos hp] at hrest
    rw [advanceWith, bind_pure_comp, Action.run_map_eq_error] at hrest
    revert hrest
    refine moveBy_cases (P := fun r => r = .error fault w → _) 1 u ?stay ?overflow ?before ?back
      ?ahead ?short ?failed
    case stay | before =>
      intro _ herror
      cases herror
    case short =>
      intro _ _ _ _ herror
      cases herror
    case overflow =>
      intro hfar herror
      cases herror
      have hlt : place < v.buffer.whole.length := (List.getElem?_eq_some_iff.1 hx).1
      -- What was seen has a place, so it is under the head, and that is the last one.
      refine .inr ⟨rfl, ?_⟩
      rw [hcursor] at hfar
      unfold Fits at hfar hfits
      unfold lastPlace
      omega
    case back => exact fun _ hback => by omega
    case ahead =>
      intro b _ _ _ _ herror
      obtain ⟨t, hland, -, -⟩ := land_ahead ⟨b, u.cursor⟩
        (Int.le_add_of_nonneg_right Int.one_nonneg)
      rw [hland] at herror
      cases herror
    case failed =>
      intro e b _ _ hensure herror
      cases herror
      exact .inl (Buffer.fault_of_run_ensure hensure)
  · simp only [if_neg hp] at hrest
    cases hrest

omit [LineElement α] in
/-- A run fails only as one of its reads does, by induction on what lies ahead. -/
theorem breaks_of_run_many {reader : Reader α α}
    (hread : ∀ v, Consumes ahead Option.toList reader.read v)
    (hbreaks : ∀ v fault w, reader.read.run v = .error fault w → Breaks v.buffer.whole fault)
    (hrun : reader.many.run v = .error fault w) : Breaks v.buffer.whole fault := by
  induction hn : v.ahead using Nat.strongRecOn generalizing v with
  | ind n ih =>
    rw [reader.many_eq] at hrun
    rcases Action.run_bind_eq_error.1 hrun with hfirst | ⟨_ | x, u, hfirst, hrest⟩
    · exact hbreaks _ _ _ hfirst
    · cases hrest
    · simp only [bind_pure_comp, Action.run_map_eq_error] at hrest
      have hlt := reader.ahead_lt hfirst
      rw [← ((hread v).of_ok hfirst).whole_eq]
      exact ih _ (hn ▸ hlt) hrest rfl

end View

/-! ### Operations -/

namespace Operation

open View

variable [LineElement α] [DecidableEq α] {operation : Operation α} {v w : View α} {ahead : Nat}
  {reply : Reply α} {fault : Fault}

/-- **An operation that moves at most once consumes what its head passes.** -/
theorem ConsumesFrom.consumes (h : operation.ConsumesFrom ahead) (hshot : operation.IsSingleShot)
    (v : View α) : Consumes ahead operation.consumed operation.run v := by
  cases operation with
  | read =>
    obtain rfl := h
    exact .map (consumes_read v)
  | readIf m =>
    obtain rfl := h
    exact .map (consumes_advanceIf m.accepts 0 v)
  | readSeq pattern =>
    obtain rfl := h
    exact .map (consumes_matched pattern 0 v)
  | readWord starts continues =>
    obtain rfl := h
    exact .map (consumes_readWord starts continues v)
  | readNext =>
    obtain rfl := h
    exact .map (consumes_readNext v)
  | readNextIf m =>
    obtain rfl := h
    exact .map (consumes_advanceIf m.accepts 1 v)
  | readNextSeq pattern =>
    obtain rfl := h
    exact .map (consumes_matched pattern 1 v)
  | readWhile | readNextWhile => exact hshot.elim
  | _ => exact h.elim

/-- **What an operation says that it has consumed is what its head has passed.** -/
theorem ConsumesFrom.passes (h : operation.ConsumesFrom ahead)
    (hrun : operation.run.run v = .ok reply w) : v.Passes ahead (operation.consumed reply) w := by
  cases operation with
  | readWhile m =>
    obtain rfl := h
    rw [Operation.run, bind_pure_comp, Action.run_map_eq_ok] at hrun
    obtain ⟨xs, hmany, rfl⟩ := hrun
    exact passes_of_run_many (consumes_advanceIf m.accepts 0) hmany
  | readNextWhile m =>
    obtain rfl := h
    rw [Operation.run, bind_pure_comp, Action.run_map_eq_ok] at hrun
    obtain ⟨xs, hmany, rfl⟩ := hrun
    exact passes_of_run_many (consumes_advanceIf m.accepts 1) hmany
  | read | readIf | readSeq | readWord | readNext | readNextIf | readNextSeq =>
    exact (h.consumes trivial v).of_ok hrun
  | _ => exact h.elim

/-- A read that moves more than once is broken off only by the source, or beyond the last place. -/
theorem ConsumesFrom.breaks (h : operation.ConsumesFrom ahead) (hshot : ¬ operation.IsSingleShot)
    (hrun : operation.run.run v = .error fault w) : Breaks v.buffer.whole fault := by
  cases operation with
  | readWhile m =>
    rw [Operation.run, bind_pure_comp, Action.run_map_eq_error] at hrun
    exact breaks_of_run_many (consumes_advanceIf m.accepts 0)
      (fun _ _ _ => breaks_of_run_advanceIf (Nat.zero_le 1)) hrun
  | readNextWhile m =>
    rw [Operation.run, bind_pure_comp, Action.run_map_eq_error] at hrun
    exact breaks_of_run_many (consumes_advanceIf m.accepts 1)
      (fun _ _ _ => breaks_of_run_advanceIf (Nat.le_refl 1)) hrun
  | read | readIf | readSeq | readWord | readNext | readNextIf | readNextSeq =>
    exact absurd trivial hshot
  | _ => exact h.elim

end Operation

/-! ### Sessions -/

/-- What the cursor `i` has consumed by a command that came to this. -/
def Outcome.consumedBy (i : Nat) : Command α → Outcome α → List α
  | .apply j operation, .answered reply => if j = i then operation.consumed reply else []
  | _, _ => []

namespace Session

/-- What the cursor `i` has consumed while commands came to `outcomes`. -/
def consumed (i : Nat) (commands : List (Command α)) (outcomes : List (Outcome α)) : List α :=
  (commands.zip outcomes).flatMap fun (command, outcome) => outcome.consumedBy i command

theorem consumed_cons (i : Nat) (command : Command α) (rest : List (Command α))
    (outcome : Outcome α) (outcomes : List (Outcome α)) :
    consumed i (command :: rest) (outcome :: outcomes) =
      outcome.consumedBy i command ++ consumed i rest outcomes := by
  rw [consumed, List.zip_cons_cons, List.flatMap_cons, consumed]

/-- Whether this fault has broken off an operation of the cursor `i` that moves more than once,
while commands came to `outcomes`. -/
def BrokenOff (i : Nat) (commands : List (Command α)) (outcomes : List (Outcome α))
    (fault : Fault) : Prop :=
  ∃ operation : Operation α, ¬ operation.IsSingleShot ∧
    (.apply i operation, .failed fault) ∈ commands.zip outcomes

/-- Whether all that is asked of the cursor `i` is to consume from `ahead` places on. -/
def OnlyConsumes (i ahead : Nat) (commands : List (Command α)) : Prop :=
  ∀ operation, .apply i operation ∈ commands → operation.ConsumesFrom ahead

variable [LineElement α] [DecidableEq α] {s : Session α} {i ahead : Nat} {c : Cursor}

/-- **A command has a cursor pass what it consumes**: nothing, if it is about something else. -/
theorem passes_perform (hc : s.cursors[i]? = some c) {command : Command α}
    (honly : ∀ operation, command = .apply i operation → operation.ConsumesFrom ahead)
    (hunbroken : ∀ operation fault, command = .apply i operation →
      (s.perform command).1 = .failed fault → operation.IsSingleShot) :
    ∃ c', (s.perform command).2.cursors[i]? = some c' ∧
      View.Passes ahead ⟨s.buffer, c⟩ ((s.perform command).1.consumedBy i command)
        ⟨(s.perform command).2.buffer, c'⟩ := by
  obtain ⟨told, hb, -⟩ := s.perform_takes command
  -- What is about something else leaves the head where it is.
  have hkeep {t : Outcome α × Session α} (hb : s.buffer.Takes told t.2.buffer)
      (hcursor : t.2.cursors[i]? = some c) (hnothing : t.1.consumedBy i command = []) :
      ∃ c', t.2.cursors[i]? = some c' ∧
        View.Passes ahead ⟨s.buffer, c⟩ (t.1.consumedBy i command) ⟨t.2.buffer, c'⟩ :=
    ⟨c, hcursor, hnothing ▸ .stay hb.whole_eq rfl⟩
  revert hunbroken hb
  refine perform_cases (P := fun t => (∀ operation fault, command = .apply i operation →
      t.1 = .failed fault → operation.IsSingleShot) → s.buffer.Takes told t.2.buffer →
      ∃ c', t.2.cursors[i]? = some c' ∧
        View.Passes ahead ⟨s.buffer, c⟩ (t.1.consumedBy i command) ⟨t.2.buffer, c'⟩) s command
    ?absent ?applied ?failed ?forked ?begun ?advanced ?ended ?broken
  case absent =>
    intro _ _ hb
    exact hkeep hb hc (by cases command <;> simp [Outcome.consumedBy, Operation.consumed])
  case applied =>
    rintro j operation d reply v rfl hd hrun - hb
    by_cases hj : j = i
    · subst hj
      cases hc.symm.trans hd
      have hlt : j < s.cursors.length := (List.getElem?_eq_some_iff.1 hc).1
      refine ⟨v.cursor, List.getElem?_set_self hlt, ?_⟩
      rw [Outcome.consumedBy, if_pos rfl]
      exact (honly operation rfl).passes hrun
    · exact hkeep hb ((List.getElem?_set_ne hj).trans hc) (if_neg hj)
  case failed =>
    rintro j operation d fault v rfl hd hrun hunbroken hb
    by_cases hj : j = i
    · subst hj
      cases hc.symm.trans hd
      have hlt : j < s.cursors.length := (List.getElem?_eq_some_iff.1 hc).1
      have hshot := hunbroken operation fault rfl rfl
      exact ⟨v.cursor, List.getElem?_set_self hlt,
        ((honly operation rfl).consumes hshot _).of_error hrun⟩
    · exact hkeep hb ((List.getElem?_set_ne hj).trans hc) rfl
  case forked =>
    rintro j d change hcommand - - hb
    have hlt : i < s.cursors.length := (List.getElem?_eq_some_iff.1 hc).1
    exact hkeep hb ((List.getElem?_append_left hlt).trans hc)
      (by rcases hcommand with ⟨rfl, -⟩ | ⟨rfl, -⟩ <;> rfl)
  case begun =>
    rintro j d withPrevious withCurrent rfl - - hb
    exact hkeep hb hc rfl
  case advanced =>
    rintro j r x b rfl - - - hb
    exact hkeep hb hc rfl
  case ended =>
    rintro j r b rfl - - - hb
    exact hkeep hb hc rfl
  case broken =>
    rintro j r fault b rfl - - - hb
    exact hkeep hb hc rfl

/-- **So does every run** in which nothing that moves more than once has been broken off. -/
theorem passes_run (hc : s.cursors[i]? = some c) {commands : List (Command α)}
    (honly : OnlyConsumes i ahead commands)
    (hunbroken : ∀ fault, ¬ BrokenOff i commands (s.run commands).1 fault) :
    ∃ c', (s.run commands).2.cursors[i]? = some c' ∧
      View.Passes ahead ⟨s.buffer, c⟩ (consumed i commands (s.run commands).1)
        ⟨(s.run commands).2.buffer, c'⟩ := by
  induction commands generalizing s c with
  | nil => exact ⟨c, hc, .stay rfl rfl⟩
  | cons command rest ih =>
    rw [run_cons] at hunbroken
    obtain ⟨d, hd, hfirst⟩ := passes_perform hc
      (fun operation hcommand => honly operation (hcommand ▸ List.mem_cons_self))
      (fun operation fault hcommand hfailed => Classical.byContradiction fun hshot => by
        refine hunbroken fault ⟨operation, hshot, ?_⟩
        rw [← hcommand, ← hfailed]
        exact List.mem_cons_self)
    obtain ⟨c', hc', hrest⟩ := ih hd
      (fun operation hmem => honly operation (List.mem_cons_of_mem _ hmem))
      (fun fault ⟨operation, hshot, hmem⟩ =>
        hunbroken fault ⟨operation, hshot, List.mem_cons_of_mem _ hmem⟩)
    refine ⟨c', hc', ?_⟩
    rw [run_cons, consumed_cons]
    exact hfirst.trans hrest

/-- What breaks off a read is a failure of the source, or the last place of a text that goes on
beyond it. -/
theorem breaks_of_brokenOff {commands : List (Command α)} (honly : OnlyConsumes i ahead commands)
    {fault : Fault} (h : BrokenOff i commands (s.run commands).1 fault) :
    View.Breaks s.buffer.whole fault := by
  induction commands generalizing s with
  | nil =>
    obtain ⟨_, _, hmem⟩ := h
    cases hmem
  | cons command rest ih =>
    obtain ⟨operation, hshot, hmem⟩ := h
    rw [run_cons, List.zip_cons_cons, List.mem_cons] at hmem
    rcases hmem with hfirst | hrest
    · obtain ⟨rfl, hfailed⟩ := Prod.mk.inj hfirst
      have hconsumes := honly operation List.mem_cons_self
      rw [perform, step, run_onCursor] at hfailed
      rcases hc : s.cursors[i]? with _ | c
      · rw [hc] at hfailed
        cases hfailed
      · rcases hrun : operation.run.run ⟨s.buffer, c⟩ with ⟨reply, w⟩ | ⟨e, w⟩
        · simp only [hc, hrun] at hfailed
          cases hfailed
        · simp only [hc, hrun] at hfailed
          cases hfailed
          exact hconsumes.breaks hshot hrun
    · obtain ⟨told, hb, -⟩ := s.perform_takes command
      rw [← hb.whole_eq]
      exact ih (fun operation hmem => honly operation (List.mem_cons_of_mem _ hmem))
        ⟨operation, hshot, hrest⟩

end Session

/-- **What is consumed tiles the text.** However the reads of one cursor are mixed with anything
else that is done over the buffer, single-shot reads that fail with the source included, they have
consumed what lies between the places where the head was before and after: the elements from the
one under the head on if all of them are reads, those from the one ahead of it on if all of them
are reads of the next. No run may have been broken off by the source; nothing else breaks one off
but the last place there can be, in a text that goes on beyond it. -/
theorem consumed_elements_tile [LineElement α] [DecidableEq α] {script : Source α} {s : Session α}
    (hs : s.Reached script) {i : Nat} {c : Cursor} (hc : s.cursors[i]? = some c) {ahead : Nat}
    {commands : List (Command α)} (honly : Session.OnlyConsumes i ahead commands)
    (hunbroken : ∀ m, ¬ Session.BrokenOff i commands (s.run commands).1 (.source m)) :
    (∃ c', (s.run commands).2.cursors[i]? = some c' ∧ c.index ≤ c'.index ∧
        Session.consumed i commands (s.run commands).1 =
          script.yield.extract (c.index + ahead).toNat (c'.index + ahead).toNat) ∨
      Session.BrokenOff i commands (s.run commands).1 (.misuse .seekOverflow) ∧
        lastPlace < script.yield.length := by
  by_cases hwhole : ∀ fault, ¬ Session.BrokenOff i commands (s.run commands).1 fault
  · obtain ⟨c', hc', hpasses⟩ := Session.passes_run hc honly hwhole
    refine .inl ⟨c', hc', hpasses.index_le, ?_⟩
    rw [hpasses.eq_extract, hs.whole_eq]
  · obtain ⟨fault, hbroken⟩ := Classical.not_forall_not.1 hwhole
    have hbreaks := Session.breaks_of_brokenOff honly hbroken
    rw [hs.whole_eq] at hbreaks
    rcases hbreaks with ⟨m, rfl⟩ | ⟨rfl, hlength⟩
    · exact absurd hbroken (hunbroken m)
    · exact .inr ⟨hbroken, hlength⟩

/-- A run, an element that is asked for again after a failure, and the last one, which cannot be
consumed; another cursor looks ahead in between. -/
theorem consumed_elements_tile_around_failure :
    ∃ (s : Session Char) (commands : List (Command Char)) (c' : Cursor),
      s.Reached [.element 'a', .element 'b', .element '1', .failure "lost", .element '2'] ∧
      s.cursors[0]? = some ⟨0, false, none⟩ ∧
      Session.OnlyConsumes 0 0 commands ∧
      (s.run commands).1 =
        [.answered (.run ['a', 'b']), .failed (.source "lost"), .answered (.number 1),
          .answered (.element (some '2')), .answered (.element (some '1')),
          .answered (.element none)] ∧
      (s.run commands).2.cursors[0]? = some c' ∧ c'.index = 3 ∧
      Session.consumed 0 commands (s.run commands).1 =
        ['a', 'b', '1', '2'].extract 0 c'.index.toNat := by
  obtain ⟨s, hs⟩ : ∃ s : Session Char, s = {
      buffer := {
        key := 0
        items := #['a']
        source := some [.element 'b', .element '1', .failure "lost", .element '2']
        config := .quiet
        pulls := 1 }
      cursors := [⟨0, false, none⟩] } := ⟨_, rfl⟩
  obtain ⟨commands, hcommands⟩ : ∃ commands : List (Command Char), commands =
      [.apply 0 (.readWhile (.satisfying Char.isAlpha)), .apply 0 .read, .fork 0, .apply 1 .next,
        .apply 0 .read, .apply 0 .read] := ⟨_, rfl⟩
  have hreached :
      s.Reached [.element 'a', .element 'b', .element '1', .failure "lost", .element '2'] := by
    rw [hs]
    exact ⟨.source _, 0, .quiet, false, _, [], rfl, rfl, by decide +kernel⟩
  have hc : s.cursors[0]? = some ⟨0, false, none⟩ := by
    rw [hs]
    rfl
  have honly : Session.OnlyConsumes 0 0 commands := by
    intro operation hmem
    have hread : operation = .readWhile (.satisfying Char.isAlpha) ∨ operation = .read := by
      simpa [hcommands] using hmem
    rcases hread with rfl | rfl
    · rfl
    · rfl
  have houtcomes : (s.run commands).1 =
      [.answered (.run ['a', 'b']), .failed (.source "lost"), .answered (.number 1),
        .answered (.element (some '2')), .answered (.element (some '1')),
        .answered (.element none)] := by
    rw [hs, hcommands]
    decide +kernel
  have hunbroken (m : String) : ¬ Session.BrokenOff 0 commands (s.run commands).1 (.source m) := by
    rintro ⟨operation, hshot, hmem⟩
    rw [houtcomes] at hmem
    have hread : operation = .read ∧ m = "lost" := by simpa [hcommands] using hmem
    exact hshot (hread.1 ▸ trivial)
  have hstays : (s.run commands).2.cursors[0]? = some ⟨3, true, none⟩ := by
    rw [hs, hcommands]
    decide +kernel
  rcases consumed_elements_tile hreached hc honly hunbroken with ⟨c', hc', -, htile⟩ | ⟨-, hlength⟩
  · cases hstays.symm.trans hc'
    exact ⟨s, commands, _, hreached, hc, honly, houtcomes, hc', rfl, htile⟩
  · exact absurd hlength (by decide)

end Rewind
