import Rewind.Proofs.Accounting

/-!
# Lines and columns tell the truth

A cursor that keeps lines never counts from the start of the text: it walks its line and column
along, and takes those of a saved place on trust. Still they are **those of the place the head is
on**, after any run of commands in which cursors that keep lines are sent only to places reported
before (`lines_and_columns_are_true`), whatever failed on the way.

What carries the argument is one invariant of saved places, `Location.TrueIn`: the place is one a
head may stand on, and its line and column are what a count from the start comes to. Buffers only
grow, so **what is once true of a buffer stays true** (`Location.TrueIn.mono`); and a head is the
same thing as the place saved from it, so the invariant serves for heads, too. From a true place a
walk never fails, and the check of saved places never refuses one (`Buffer.admits_ofBehind`).
-/

namespace Rewind

variable {α β : Type}

/-! ### What lines and columns are -/

/-- The line and the column of a place, counted in the whole text: the line feeds before it, and
the distance to the place behind the last of them, or to the start. -/
structure Position.TrueAt (lineFeed : Char) (text : List Char) (place : Nat) (p : Position) :
    Prop where
  line_eq : p.line = (text.take place).count lineFeed
  column_eq_of_feed : ∀ feed < place, text[feed]? = some lineFeed →
    (∀ k < place, feed < k → text[k]? ≠ some lineFeed) → p.column = place - (feed + 1)
  column_eq_of_none : (∀ k < place, text[k]? ≠ some lineFeed) → p.column = place

/-- One element more lies behind the next place. -/
theorem Position.behind_succ {text : Array α} {place : Nat} {x : α} (h : text[place]? = some x) :
    behind text (place + 1) = x :: behind text place := by
  rw [behind_eq, behind_eq, List.take_add_one, Array.getElem?_toList, h]
  simp

/-- **A position told from what lies behind the place is the one counted in the whole text.** -/
theorem Position.trueAt_ofBehind (config : Config) (text : Array Char) (place : Nat)
    (h : place ≤ text.size) :
    (ofBehind config.feeds (behind text place)).TrueAt config.lineFeed text.toList place := by
  induction place with
  | zero =>
    have hbehind : behind text 0 = [] := by simp [behind]
    rw [hbehind, ofBehind_nil]
    exact ⟨rfl, fun _ hfeed => absurd hfeed (Nat.not_lt_zero _), fun _ => rfl⟩
  | succ place ih =>
    obtain ⟨hline, hfeed, hnone⟩ := ih (by omega)
    have hx : text.toList[place]? = some text[place] := by
      rw [Array.getElem?_toList]
      exact Array.getElem?_eq_getElem (by omega)
    have hfeeds : config.feeds text[place] = decide (text[place] = config.lineFeed) := rfl
    rw [behind_succ (by rwa [Array.getElem?_toList] at hx), ← step_ofBehind, step, hfeeds]
    have htake : (text.toList.take (place + 1)).count config.lineFeed =
        (text.toList.take place).count config.lineFeed +
          if text[place] = config.lineFeed then 1 else 0 := by
      rw [List.take_add_one, hx, Option.toList_some, List.count_append, List.count_singleton]
      simp
    by_cases hc : text[place] = config.lineFeed
    -- Behind a line feed a line starts, and no other line feed is nearer.
    · simp only [hc, decide_true, if_true]
      refine ⟨by simp only [htake, hline, if_pos hc], fun feed hlt _ hlast => ?_, fun hno => ?_⟩
      · by_cases heq : feed = place
        · simp [heq]
        · exact absurd (hc ▸ hx) (hlast place (by omega) (by omega))
      · exact absurd (hc ▸ hx) (hno place (by omega))
    -- Behind any other element the last line feed is as it was, one place further away.
    · simp only [hc, decide_false, Bool.false_eq_true, if_false]
      refine ⟨by simp only [htake, hline, if_neg hc, Nat.add_zero], fun feed hlt hat hlast => ?_,
        fun hno => ?_⟩
      · have hne : feed ≠ place := by
          rintro rfl
          rw [hx] at hat
          exact hc (Option.some.inj hat)
        have := hfeed feed (by omega) hat fun k hk => hlast k (by omega)
        simp only [this]
        omega
      · simp only [hnone fun k hk => hno k (by omega)]

/-! ### Places a head may stand on -/

namespace Buffer

variable {b b' : Buffer α} {told : List (Entry α)} {i : Int}

theorem holds_iff : b.holds i = true ↔ 0 ≤ i ∧ i < b.items.size := by
  simp [holds]

/-- Whether a head may stand on a place: on an element of the buffer, or before an empty text. -/
def Bears (b : Buffer α) (i : Int) : Prop :=
  b.holds i = true ∨ i = -1 ∧ b.items = #[] ∧ b.source = none

theorem Bears.toNat_le (h : b.Bears i) : i.toNat ≤ b.items.size := by
  rcases h with h | ⟨rfl, -, -⟩
  · rw [holds_iff] at h
    omega
  · exact Nat.zero_le _

theorem Takes.holds (h : b.Takes told b') (hi : b.holds i = true) : b'.holds i = true := by
  have := h.size_le
  rw [holds_iff] at hi ⊢
  omega

theorem Takes.bears (h : b.Takes told b') (hi : b.Bears i) : b'.Bears i := by
  rcases hi with hi | ⟨rfl, hitems, hsource⟩
  · exact .inl (h.holds hi)
  · obtain ⟨-, hitems', hsource'⟩ := h.eq_of_exhausted hsource
    exact .inr ⟨rfl, hitems'.trans hitems, hsource'⟩

/-- What lies behind a place that is held stays. -/
theorem Takes.behind_eq (h : b.Takes told b') {place : Nat} (hplace : place ≤ b.items.size) :
    Position.behind b'.items place = Position.behind b.items place := by
  rw [Position.behind_eq, Position.behind_eq, h.items_eq,
    List.take_append_of_le_length (by simpa using hplace)]

variable [LineElement α]

theorem Takes.feeds_eq (h : b.Takes told b') : b'.feeds = b.feeds := by
  unfold feeds
  rw [h.config_eq]

/-- **The check of saved places admits every true position.** -/
theorem admits_ofBehind (b : Buffer α) {place : Nat} (hplace : place ≤ b.items.size) :
    b.admits place (.ofBehind b.feeds (Position.behind b.items place)) = true := by
  rcases place with _ | before
  · have hbehind : Position.behind b.items 0 = [] := by simp [Position.behind]
    rw [hbehind]
    rfl
  · have hx : b.items[before]? = some b.items[before] := Array.getElem?_eq_getElem (by omega)
    have hlength : (Position.behind b.items (before + 1)).length = before + 1 := by
      rw [Position.behind_eq, List.length_reverse, List.length_take, Array.length_toList]
      omega
    have hline : (Position.behind b.items (before + 1)).countP b.feeds ≤ before + 1 :=
      Nat.le_trans List.countP_le_length (Nat.le_of_eq hlength)
    have hcolumn : Position.columnOf b.feeds (Position.behind b.items (before + 1)) ≤ before + 1 :=
      Nat.le_trans (List.takeWhile_sublist _).length_le (Nat.le_of_eq hlength)
    simp only [admits, Position.ofBehind, hline, hcolumn, decide_true, Bool.true_and]
    rw [Position.behind_succ hx]
    by_cases hf : b.feeds b.items[before] <;> simp [hx, hf, Position.columnOf]

/-- A walk from a true position ends in one. -/
theorem walk?_ofBehind (b : Buffer α) {start : Int} (hstart : start.toNat ≤ b.items.size)
    (stop : Int) :
    b.walk? start stop (.ofBehind b.feeds (Position.behind b.items start.toNat)) =
      some (.ofBehind b.feeds (Position.behind b.items stop.toNat)) :=
  Position.walk?_ofBehind b.feeds b.items start.toNat stop.toNat hstart

end Buffer

variable [LineElement α]

/-- **What a saved place tells is true of a buffer**: a head may stand there, and the line and the
column, if they were kept, are those of the place. -/
structure Location.TrueIn (l : Location) (b : Buffer α) : Prop where
  fits : Fits l.index
  bears : b.Bears l.index
  position_eq : ∀ p, l.position = some p →
    p = .ofBehind b.feeds (Position.behind b.items l.index.toNat)

/-- What is true of a buffer stays true of it. -/
theorem Location.TrueIn.mono {l : Location} {b b' : Buffer α} {told : List (Entry α)}
    (h : l.TrueIn b) (hb : b.Takes told b') : l.TrueIn b' where
  fits := h.fits
  bears := hb.bears h.bears
  position_eq p hp := by
    rw [hb.feeds_eq, hb.behind_eq h.bears.toNat_le]
    exact h.position_eq p hp

/-- What is true of a buffer is told by the index, and by whether a line and a column were kept. -/
theorem Location.TrueIn.unique {l l' : Location} {b : Buffer α} (h : l.TrueIn b) (h' : l'.TrueIn b)
    (hindex : l.index = l'.index) (hkeeps : l.position.isSome = l'.position.isSome) : l = l' := by
  obtain ⟨i, _ | p⟩ := l
  · obtain ⟨i', _ | p'⟩ := l'
    · exact congrArg (Location.mk · none) hindex
    · cases hkeeps
  · obtain ⟨i', _ | p'⟩ := l'
    · cases hkeeps
    · obtain rfl : i = i' := hindex
      rw [h.position_eq p rfl, h'.position_eq p' rfl]

/-! ### Moving from a true place to another -/

/-- A cursor on another place of the buffer, with the line and the column of that place if it
keeps them. -/
def Cursor.onto (c : Cursor) (b : Buffer α) (target : Int) : Cursor :=
  { c with
    index := target
    position := c.position.map fun _ =>
      .ofBehind b.feeds (Position.behind b.items target.toNat) }

/-- A cursor put onto a place that is held tells the truth. -/
theorem Cursor.trueIn_onto (c : Cursor) {b : Buffer α} {target : Int} (hfits : Fits target)
    (hheld : b.holds target = true) : (c.onto b target).location.TrueIn b where
  fits := hfits
  bears := .inl hheld
  position_eq p hp := by
    obtain ⟨_, -, rfl⟩ := Option.map_eq_some_iff.1 hp
    rfl

namespace View

/-- Whether the head of a view tells the truth. -/
def Truthful (v : View α) : Prop :=
  v.cursor.location.TrueIn v.buffer

/-- Arriving from a place with its true line and column never fails. -/
theorem arrive_eq {v : View α} {place : Location} {p q : Position} (hq : v.cursor.position = some q)
    (hplace : place.TrueIn v.buffer) (hp : place.position = some p) (target : Int) :
    v.arrive place.index p target =
      .ok true { v with cursor := v.cursor.onto v.buffer target } := by
  rw [arrive, hplace.position_eq p hp, v.buffer.walk?_ofBehind hplace.bears.toNat_le, Cursor.onto,
    hq]
  rfl

/-- A head that tells the truth lands wherever it moves. -/
theorem Truthful.land_eq {v : View α} (h : v.Truthful) (target : Int) :
    v.land target = .ok true { v with cursor := v.cursor.onto v.buffer target } := by
  rw [land]
  rcases hq : v.cursor.position with _ | q
  · simp only [Cursor.onto, hq]
    rfl
  · exact arrive_eq hq h hq target

end View

/-! ### Operations -/

/-- Whether a fault is one that a cursor which tells the truth may raise. -/
def Fault.Expected : Fault → Prop
  | .misuse .locationMismatch | .unbuffered _ => False
  | _ => True

namespace View

/-- An action leaves a head that tells the truth telling it, keeps lines if the head did, and
raises no fault that is not expected. -/
def KeepsTruth (v : View α) (fault : Option Fault) (w : View α) : Prop :=
  v.Truthful → w.Truthful ∧ w.cursor.position.isSome = v.cursor.position.isSome ∧
    ∀ f, fault = some f → f.Expected

/-- **Heads that tell the truth go on telling it.** -/
def truth : Judgement (View α) :=
  .ofRelation KeepsTruth (fun _ h => ⟨h, rfl, nofun⟩) fun _ _ _ _ h h' hv =>
    have ⟨ht, hkeeps, _⟩ := h hv
    have ⟨hu, hkeeps', hfault⟩ := h' ht
    ⟨hu, hkeeps'.trans hkeeps, hfault⟩

/-- Where the head stays and the buffer grows, only the fault is in question. -/
theorem KeepsTruth.of_takes {v w : View α} {told : List (Entry α)} {fault : Option Fault}
    (hb : v.buffer.Takes told w.buffer) (hindex : w.cursor.index = v.cursor.index)
    (hposition : w.cursor.position = v.cursor.position)
    (hfault : v.Truthful → ∀ f, fault = some f → f.Expected) : v.KeepsTruth fault w := by
  intro hv
  have hlocation : w.cursor.location = v.cursor.location := by
    rw [Cursor.location, Cursor.location, hindex, hposition]
  refine ⟨?_, by rw [hposition], hfault hv⟩
  rw [Truthful, hlocation]
  exact Location.TrueIn.mono hv hb

/-- Where nothing changes, only the fault is in question. -/
theorem KeepsTruth.of_eq {v : View α} {fault : Option Fault}
    (hfault : v.Truthful → ∀ f, fault = some f → f.Expected) : v.KeepsTruth fault v :=
  .of_takes (.refl _) rfl rfl hfault

/-- A head put onto a place that is held. -/
theorem KeepsTruth.of_onto {v : View α} {b : Buffer α} {target : Int} (hfits : Fits target)
    (hheld : b.holds target = true) :
    v.KeepsTruth none { v with buffer := b, cursor := v.cursor.onto b target } := by
  intro _
  exact ⟨v.cursor.trueIn_onto hfits hheld, by simp [Cursor.onto], nofun⟩

/-- A look leaves the head, so only its faults are in question. -/
theorem truth_look {f : Cursor → Peeking α β} {v : View α}
    (hpulling : Buffer.pulling.Holds (f v.cursor) v.buffer)
    (hfault : v.Truthful → ∀ fault b,
      (f v.cursor).run v.buffer = .error fault b → fault.Expected) :
    truth.Holds (Cursor.look f) v := by
  have hends := Judgement.ofRelation_iff.1 hpulling
  refine Judgement.ofRelation_of_run (Cursor.run_look f v) ?_
  rcases hrun : (f v.cursor).run v.buffer with ⟨x, b⟩ | ⟨fault, b⟩
  · obtain ⟨told, hb, -⟩ := hends.of_ok hrun
    exact .of_takes hb rfl rfl nofun
  · obtain ⟨told, hb, -⟩ := hends.of_error hrun
    refine .of_takes hb rfl rfl fun hv f hf => ?_
    cases hf
    exact hfault hv fault b hrun

/-- The element under a head that tells the truth can be looked at, unless the text is empty. -/
theorem Truthful.current_expected {v : View α} (h : v.Truthful) {fault : Fault} {b : Buffer α}
    (hrun : (v.cursor.current (α := α)).run v.buffer = .error fault b) : fault.Expected := by
  rw [Cursor.current, Cursor.sourceIsEmpty] at hrun
  by_cases hempty : v.cursor.index < 0
  · simp only [hempty, decide_true, if_true] at hrun
    cases hrun
    trivial
  simp only [hempty, decide_false, Bool.false_eq_true, if_false] at hrun
  rcases Action.run_bind_eq_error.1 hrun with hpeek | ⟨x, t, hpeek, hrest⟩
  · obtain ⟨m, rfl⟩ := Cursor.fault_of_run_peek hpeek
    trivial
  -- The place is held, so looking at it finds an element.
  · have hheld : v.buffer.holds v.cursor.index = true := by
      rcases h.bears with hheld | ⟨hindex, -⟩
      · exact hheld
      · simp only [Cursor.location] at hindex
        omega
    have hlt : v.cursor.index.toNat < v.buffer.whole.length := by
      rw [Buffer.holds_iff] at hheld
      rw [Buffer.whole, List.length_append, Array.length_toList]
      omega
    have hx := (Cursor.of_run_peek hpeek).2
    have hfits : Offset.add? v.cursor.index 0 = some v.cursor.index := by
      rw [Offset.add?_eq_some_iff, Int.add_zero]
      exact ⟨h.fits, rfl⟩
    rw [hfits, Option.bind_some, elementAt?, if_neg hempty, List.getElem?_eq_getElem hlt] at hx
    rw [hx] at hrest
    cases hrest

/-- Only heads that tell the truth need to be looked at. -/
theorem truth_of_truthful {x : Moving α β} {v : View α} (h : v.Truthful → truth.Holds x v) :
    truth.Holds x v := by
  by_cases hv : v.Truthful
  · exact h hv
  · refine Judgement.ofRelation_iff.2 ?_
    rcases x.run v with ⟨_, w⟩ | ⟨_, w⟩
    · exact fun hv' => absurd hv' hv
    · exact fun hv' => absurd hv' hv

theorem truth_moveBy (offset : Int) (v : View α) : truth.Holds (Cursor.moveBy offset) v := by
  refine truth_of_truthful fun hv => ?_
  have hends := Judgement.ofRelation_iff.1
    (Buffer.pulling_ensure (v.cursor.index + offset).toNat v.buffer)
  refine Judgement.ofRelation_iff.2 (Cursor.moveBy_cases offset v
    ?stay ?overflow ?outside ?back ?ahead ?ended ?failed)
  case stay =>
    exact fun _ => .of_eq nofun
  case overflow =>
    intro _
    refine .of_eq fun _ f hf => ?_
    cases hf
    trivial
  case outside =>
    intro _
    exact .of_eq nofun
  -- Backward, everything is held already.
  case back =>
    intro hfits hback hzero
    have hle : v.cursor.index.toNat ≤ v.buffer.items.size := hv.bears.toNat_le
    have hheld : v.buffer.holds (v.cursor.index + offset) = true := by
      rw [Buffer.holds_iff]
      omega
    rw [hv.land_eq]
    exact .of_onto hfits hheld
  -- Forward, the head is true of the buffer that has grown.
  case ahead =>
    intro b hfits hindex hpos hrun
    obtain ⟨⟨told, hb, -⟩, hsettles, hfound⟩ := Buffer.of_run_ensure hrun
    have hlt := of_decide_eq_true hfound.symm
    rw [← hb.whole_eq, hsettles.lt_iff] at hlt
    have hheld : b.holds (v.cursor.index + offset) = true := by
      rw [Buffer.holds_iff]
      omega
    have hgrown : Truthful ⟨b, v.cursor⟩ := Location.TrueIn.mono hv hb
    rw [hgrown.land_eq]
    exact .of_onto hfits hheld
  case ended =>
    intro b _ _ hrun
    obtain ⟨told, hb, -⟩ := hends.of_ok hrun
    exact .of_takes hb rfl rfl nofun
  case failed =>
    intro fault b _ _ hrun
    obtain ⟨told, hb, -⟩ := hends.of_error hrun
    obtain ⟨m, rfl⟩ := Buffer.fault_of_run_ensure hrun
    refine .of_takes hb rfl rfl fun _ f hf => ?_
    cases hf
    trivial

/-- Seeking a place that tells the truth, or any place with a head that keeps no lines. -/
theorem truth_moveTo {place : Location} {v : View α}
    (hplace : v.cursor.position.isSome → place.TrueIn v.buffer) (offset : Int) :
    truth.Holds (Cursor.moveTo place offset) v := by
  refine Judgement.ofRelation_iff.2 (Cursor.moveTo_cases place offset v
    ?overflow ?there ?straight ?restored ?unfit ?distant)
  case overflow =>
    refine .of_eq fun _ f hf => ?_
    cases hf
    trivial
  case there =>
    intro _
    exact .of_eq nofun
  -- A head that keeps no lines takes the short cut, and is as a head that walked.
  case straight =>
    intro hfits hposition hheld
    have honto : v.cursor.onto v.buffer (place.index + offset) =
        { v.cursor with index := place.index + offset } := by
      rw [Cursor.onto, hposition, Option.map_none, ← hposition]
    rw [← honto]
    exact .of_onto hfits hheld
  -- A walk from a true place ends in one.
  case restored =>
    intro q p hfits hq hp _ hheld _
    have htrue := hplace (by rw [hq]; rfl)
    rw [arrive_eq hq htrue hp]
    exact .of_onto hfits hheld
  -- A true place is admitted.
  case unfit =>
    intro q p hq hp hheld hadmits
    have htrue := hplace (by rw [hq]; rfl)
    rw [htrue.position_eq p hp, v.buffer.admits_ofBehind htrue.bears.toNat_le] at hadmits
    cases hadmits
  case distant =>
    exact Judgement.ofRelation_iff.1 (truth_moveBy _ v)

theorem truth_covers : Judgement.Covers (truth (α := α)) where
  raise kind hkind v := by
    refine Judgement.ofRelation_of_run rfl (.of_eq fun _ f hf => ?_)
    cases hf
    rcases hkind with rfl | rfl <;> trivial
  sourceIsEmpty _ := Judgement.ofRelation_of_run rfl (.of_eq nofun)
  peek offset v := by
    refine truth_look (pulling_peek v.cursor offset v.buffer) fun _ fault b hrun => ?_
    obtain ⟨m, rfl⟩ := Cursor.fault_of_run_peek hrun
    trivial
  current v := truth_look (pulling_current v.cursor v.buffer) fun hv _ _ => hv.current_expected
  text v := by
    refine truth_look (Buffer.pulling_text v.buffer) fun _ fault b hrun => ?_
    obtain ⟨m, rfl⟩ := Buffer.fault_of_run_text hrun
    trivial
  moveBy := truth_moveBy

/-- **Every operation keeps the truth**, if a head that keeps lines seeks no place but true ones. -/
theorem truth_run [DecidableEq α] {operation : Operation α} {v : View α}
    (hseek : v.cursor.position.isSome →
      ∀ seek, operation.seeks? = some seek → seek.1.TrueIn v.buffer) :
    truth.Holds operation.run v := by
  refine truth_covers.run operation v (fun hglance => ?_) fun place offset h => ?_
  · obtain ⟨reply, hrun⟩ := hglance.run_eq v
    exact Judgement.ofRelation_of_run hrun (.of_eq nofun)
  · exact truth_moveTo (fun hkeeps => hseek hkeeps _ h) offset

end View

/-! ### Sessions -/

/-- Whether a cursor keeps lines. -/
def Cursor.keepsLines (c : Cursor) : Bool :=
  c.position.isSome

/-- Which cursors of a session keep lines after a command, from which did before. -/
def Command.keepers (kept : List Bool) : Command α → List Bool
  | .fork i => kept ++ kept[i]?.toList
  | .forkPlain i => kept ++ (kept[i]?.map fun _ => false).toList
  | _ => kept

namespace Session

/-- Every head of a session and every place of `known` tells the truth about the buffer. -/
structure Truthful (s : Session α) (known : List Location) : Prop where
  cursor : ∀ c ∈ s.cursors, c.location.TrueIn s.buffer
  known : ∀ l ∈ known, l.TrueIn s.buffer

/-- When the buffer grows and one cursor is replaced by another that tells the truth, all do. -/
theorem Truthful.set {s : Session α} {known : List Location} (h : s.Truthful known)
    {b : Buffer α} {told : List (Entry α)} (hb : s.buffer.Takes told b) {c : Cursor}
    (hc : c.location.TrueIn b) (i : Nat) (remainders : List Remaining) :
    Truthful ⟨b, s.cursors.set i c, remainders⟩ known where
  cursor d hd := by
    rcases List.mem_or_eq_of_mem_set hd with hd | rfl
    · exact (h.cursor d hd).mono hb
    · exact hc
  known l hl := (h.known l hl).mono hb

/-- When the buffer grows, all go on telling the truth. -/
theorem Truthful.mono {s : Session α} {known : List Location} (h : s.Truthful known)
    {b : Buffer α} {told : List (Entry α)} (hb : s.buffer.Takes told b)
    (remainders : List Remaining) : Truthful ⟨b, s.cursors, remainders⟩ known where
  cursor d hd := (h.cursor d hd).mono hb
  known l hl := (h.known l hl).mono hb

/-- A true place more is known. -/
theorem Truthful.learn {s : Session α} {known : List Location} (h : s.Truthful known)
    {place? : Option Location} (hplace : ∀ l, place? = some l → l.TrueIn s.buffer) :
    s.Truthful (known ++ place?.toList) where
  cursor := h.cursor
  known l hl := by
    rw [List.mem_append, Option.mem_toList] at hl
    rcases hl with hl | hl
    · exact h.known l hl
    · exact hplace l hl

/-- A cursor that is replaced by one of its kind leaves the kinds as they are. -/
theorem map_keepsLines_set {cursors : List Cursor} {i : Nat} {c d : Cursor}
    (hc : cursors[i]? = some c) (hd : d.keepsLines = c.keepsLines) :
    (cursors.set i d).map Cursor.keepsLines = cursors.map Cursor.keepsLines := by
  have hi : (cursors.map Cursor.keepsLines)[i]? = some c.keepsLines := by
    rw [List.getElem?_map, hc]
    rfl
  obtain ⟨hlt, hget⟩ := List.getElem?_eq_some_iff.1 hi
  rw [List.map_set, hd, ← hget, List.set_getElem_self]

variable [DecidableEq α]

/-- What a command may come to in a session that tells the truth: the session goes on telling it,
a place that is reported is true as well, cursors keep lines as they did, and no fault is raised
that is not expected. -/
structure Upholds (s : Session α) (known : List Location) (command : Command α)
    (outcome : Outcome α) (t : Session α) : Prop where
  truthful : t.Truthful (known ++ outcome.place?.toList)
  keepers_eq : t.cursors.map Cursor.keepsLines =
    command.keepers (s.cursors.map Cursor.keepsLines)
  expected : ∀ fault, outcome = .failed fault → fault.Expected

/-- An operation on one of the cursors upholds the truth. -/
theorem Truthful.apply {s : Session α} {known : List Location} (h : s.Truthful known) {i : Nat}
    {operation : Operation α} {c : Cursor} (hc : s.cursors[i]? = some c)
    (hheeds : s.Heeds known (.apply i operation)) {fault : Option Fault} {w : View α}
    (hruns : Action.Ends (fun f w' => f = fault ∧ w' = w) (operation.run.run ⟨s.buffer, c⟩)) :
    Truthful { s with buffer := w.buffer, cursors := s.cursors.set i w.cursor } known ∧
      (s.cursors.set i w.cursor).map Cursor.keepsLines = s.cursors.map Cursor.keepsLines ∧
      (∀ f, fault = some f → f.Expected) ∧ ∃ told, s.buffer.Takes told w.buffer := by
  have htrue := h.cursor c (List.mem_of_getElem? hc)
  have hseek : c.position.isSome → ∀ seek, operation.seeks? = some seek →
      seek.1.TrueIn s.buffer := fun hkeeps seek hs => h.known _ (hheeds c hc hkeeps seek hs)
  have htruth := Judgement.ofRelation_iff.1 (View.truth_run (v := ⟨s.buffer, c⟩) hseek)
  have hpulling := Judgement.ofRelation_iff.1 (View.pulling_run operation ⟨s.buffer, c⟩)
  obtain ⟨⟨hw, hkeeps, hexpected⟩, told, hb, -⟩ :
      (w.Truthful ∧ w.cursor.position.isSome = c.position.isSome ∧
        ∀ f, fault = some f → f.Expected) ∧ s.buffer.Pulled fault w.buffer := by
    rcases hrun : operation.run.run ⟨s.buffer, c⟩ with ⟨reply, u⟩ | ⟨f, u⟩
    · rw [hrun] at hruns htruth hpulling
      obtain ⟨rfl, rfl⟩ := hruns
      exact ⟨htruth htrue, hpulling⟩
    · rw [hrun] at hruns htruth hpulling
      obtain ⟨rfl, rfl⟩ := hruns
      exact ⟨htruth htrue, hpulling⟩
  exact ⟨h.set hb hw i _, map_keepsLines_set hc hkeeps, hexpected, told, hb⟩

/-- **A command that heeds the known places upholds the truth.** -/
theorem Truthful.perform {s : Session α} {known : List Location} (h : s.Truthful known)
    {command : Command α} (hheeds : s.Heeds known command) :
    s.Upholds known command (s.perform command).1 (s.perform command).2 := by
  refine perform_cases (P := fun r => s.Upholds known command r.1 r.2) s command
    ?absent ?applied ?failed ?forked ?begun ?advanced ?ended ?broken
  case absent =>
    intro hlacks
    refine ⟨h.learn nofun, ?_, nofun⟩
    rcases command with _ | i | i | _ | _
    · rfl
    · simp [Command.keepers, show s.cursors[i]? = none from hlacks]
    · simp [Command.keepers, show s.cursors[i]? = none from hlacks]
    · rfl
    · rfl
  case applied =>
    intro i operation c reply w hcommand hc hrun
    subst hcommand
    have hruns : Action.Ends (fun f w' => f = none ∧ w' = w)
        (operation.run.run ⟨s.buffer, c⟩) := by
      rw [hrun]
      exact ⟨rfl, rfl⟩
    obtain ⟨ht, hkeepers, -, told, hb⟩ := h.apply hc hheeds hruns
    refine ⟨ht.learn fun l hl => ?_, hkeepers, nofun⟩
    -- A place that is reported is that of the head, and so it was true before.
    have hplace : reply = .place l := by
      rcases reply with _ | _ | _ | _ | l' | _ | _ | _ <;> cases hl
      rfl
    rw [hplace] at hrun
    rw [Operation.eq_location_of_place hrun]
    exact (h.cursor c (List.mem_of_getElem? hc)).mono hb
  case failed =>
    intro i operation c fault w hcommand hc hrun
    subst hcommand
    have hruns : Action.Ends (fun f w' => f = some fault ∧ w' = w)
        (operation.run.run ⟨s.buffer, c⟩) := by
      rw [hrun]
      exact ⟨rfl, rfl⟩
    obtain ⟨ht, hkeepers, hexpected, -⟩ := h.apply hc hheeds hruns
    refine ⟨ht.learn nofun, hkeepers, fun f hf => ?_⟩
    cases hf
    exact hexpected fault rfl
  -- A fork is where its cursor is; one that keeps no lines has nothing to be wrong about.
  case forked =>
    intro i c change hcommand hc
    have htrue := h.cursor c (List.mem_of_getElem? hc)
    have hchange : (change c).location.TrueIn s.buffer := by
      rcases hcommand with ⟨-, rfl⟩ | ⟨-, rfl⟩
      · exact htrue
      · exact ⟨htrue.fits, htrue.bears, nofun⟩
    have hgrown := h.mono (.of_record (.refl s.buffer) (.forked c.index)) s.remainders
    have hall : Truthful { s with
        buffer := s.buffer.record (.forked c.index)
        cursors := s.cursors ++ [change c] } known := by
      refine ⟨fun d hd => ?_, hgrown.known⟩
      rw [List.mem_append, List.mem_singleton] at hd
      rcases hd with hd | rfl
      · exact hgrown.cursor d hd
      · exact hchange.mono (.of_record (.refl s.buffer) _)
    refine ⟨hall.learn nofun, ?_, nofun⟩
    · rcases hcommand with ⟨rfl, rfl⟩ | ⟨rfl, rfl⟩
      · simp [Command.keepers, hc]
      · simp [Command.keepers, hc, Cursor.keepsLines, Cursor.plain]
  case begun =>
    intro i c withPrevious withCurrent hcommand _
    subst hcommand
    exact ⟨(h.mono (.refl _) _).learn nofun, rfl, nofun⟩
  case advanced =>
    intro j r x b hcommand _ hrun
    subst hcommand
    obtain ⟨⟨told, hb, -⟩, -, -⟩ := Buffer.of_run_fetch hrun
    exact ⟨(h.mono hb _).learn nofun, rfl, nofun⟩
  case ended =>
    intro j r b hcommand _ hrun
    subst hcommand
    obtain ⟨⟨told, hb, -⟩, -, -⟩ := Buffer.of_run_fetch hrun
    exact ⟨(h.mono hb _).learn nofun, rfl, nofun⟩
  case broken =>
    intro j r fault b hcommand _ hrun
    subst hcommand
    obtain ⟨told, hb, -⟩ :=
      (Judgement.ofRelation_iff.1 (Buffer.pulling_fetch r.landing s.buffer)).of_error hrun
    obtain ⟨m, rfl⟩ := Buffer.fault_of_run_fetch hrun
    refine ⟨(h.mono hb _).learn nofun, rfl, fun f hf => ?_⟩
    cases hf
    trivial

/-- **A faithful run upholds the truth.** -/
theorem Truthful.run {s : Session α} {known : List Location} (h : s.Truthful known)
    {commands : List (Command α)} (hfaithful : s.Faithful known commands) :
    (s.run commands).2.Truthful (known ++ (s.run commands).1.filterMap Outcome.place?) ∧
      (s.run commands).2.cursors.map Cursor.keepsLines =
        commands.foldl Command.keepers (s.cursors.map Cursor.keepsLines) ∧
      ∀ fault, .failed fault ∈ (s.run commands).1 → fault.Expected := by
  induction commands generalizing s known with
  | nil => exact ⟨by simpa using h, rfl, fun _ hf => absurd hf List.not_mem_nil⟩
  | cons command rest ih =>
    obtain ⟨hheeds, hrest⟩ := hfaithful
    obtain ⟨ht, hkeepers, hexpected⟩ := h.perform hheeds
    obtain ⟨htruthful, hkeepers', hexpected'⟩ := ih ht hrest
    rw [run_cons]
    refine ⟨?_, ?_, fun fault hf => ?_⟩
    · rw [List.filterMap_cons]
      rcases hplace : (s.perform command).1.place? with _ | l
      · simpa [hplace] using htruthful
      · simpa [hplace] using htruthful
    · rw [hkeepers', hkeepers, List.foldl_cons]
    · rw [List.mem_cons] at hf
      rcases hf with hf | hf
      · exact hexpected fault hf.symm
      · exact hexpected' fault hf

omit [DecidableEq α] in
/-- A session that has just been opened tells the truth. -/
theorem Truthful.start {o : Opening α} {key : Nat} {config : Config} {keepsLines : Bool}
    {v : View α} (hopen : o.open? key config keepsLines = .ok v) : (start v).Truthful [] where
  cursor c hc := by
    rw [o.open?_eq] at hopen
    obtain ⟨-, hsettles, hcursor⟩ := View.of_open? hopen
    simp only [Session.start, List.mem_singleton] at hc ⊢
    rw [hc, hcursor, Cursor.atStart]
    have hposition (i : Int) (hi : i.toNat = 0) : ∀ p, View.initial keepsLines = some p →
        p = .ofBehind v.buffer.feeds (Position.behind v.buffer.items i.toNat) := by
      intro p hp
      have hbehind : Position.behind v.buffer.items i.toNat = [] := by simp [Position.behind, hi]
      rw [View.initial] at hp
      rcases keepsLines
      · cases hp
      · cases hp
        rw [hbehind]
        rfl
    by_cases hempty : v.buffer.items.isEmpty
    · have hitems := Array.isEmpty_iff.1 hempty
      have hsource : v.buffer.source = none := by
        rcases hsettles with hlt | hsource
        · rw [hitems] at hlt
          exact absurd hlt (Nat.not_lt_zero _)
        · exact hsource
      rw [if_pos hempty]
      exact ⟨show Fits (-1) by decide, .inr ⟨rfl, hitems, hsource⟩, hposition (-1) rfl⟩
    · have hpos : 0 < v.buffer.items.size := by
        rw [Array.isEmpty_iff_size_eq_zero] at hempty
        omega
      have hheld : v.buffer.holds 0 = true := by
        rw [Buffer.holds_iff]
        omega
      rw [if_neg hempty]
      exact ⟨show Fits 0 by decide, .inl hheld, hposition 0 rfl⟩
  known := nofun

end Session

/-- **Lines and columns tell the truth.** After any commands that send cursors which keep lines
only to places reported before, every such cursor is on an element of the buffer, or before an
empty text, with the line and the column of that place; forks keep lines as the cursors they were
made from do; and no saved place has been refused, nor a head found on no element. -/
theorem lines_and_columns_are_true (o : Opening Char) (key : Nat) (config : Config)
    {v : View Char} (hopen : o.open? key config true = .ok v) (commands : List (Command Char))
    (hfaithful : (Session.start v).Faithful [] commands) :
    ∀ outcomes s, (Session.start v).run commands = (outcomes, s) →
      (∀ c ∈ s.cursors, ∀ p, c.position = some p →
        s.buffer.Bears c.index ∧
          p.TrueAt config.lineFeed s.buffer.items.toList c.index.toNat) ∧
      s.cursors.map Cursor.keepsLines = commands.foldl Command.keepers [true] ∧
      ∀ fault, .failed fault ∈ outcomes → fault.Expected := by
  intro outcomes s hrun
  obtain ⟨htruthful, hkeepers, hexpected⟩ := (Session.Truthful.start hopen).run hfaithful
  rw [hrun] at htruthful hkeepers hexpected
  rw [o.open?_eq] at hopen
  obtain ⟨⟨told, htakes, -⟩, -, hcursor⟩ := View.of_open? hopen
  refine ⟨fun c hc p hp => ?_, ?_, hexpected⟩
  · have htrue := htruthful.cursor c hc
    have hconfig : s.buffer.config = config := by
      obtain ⟨told', htakes', -⟩ := (Session.start v).run_takes commands
      rw [hrun] at htakes'
      rw [htakes'.config_eq]
      exact htakes.config_eq
    have hposition := htrue.position_eq p hp
    rw [Buffer.feeds, hconfig] at hposition
    rw [hposition]
    exact ⟨htrue.bears, Position.trueAt_ofBehind config _ _ htrue.bears.toNat_le⟩
  · have hstart : (Session.start v).cursors.map Cursor.keepsLines = [true] := by
      simp only [Session.start, List.map_cons, List.map_nil, hcursor, Cursor.atStart]
      split <;> rfl
    rw [hkeepers, hstart]

/-- A move that fails halfway, a fork, and a return to a place that was reported. -/
theorem lines_and_columns_are_true_after_failure :
    ∃ (v : View Char) (commands : List (Command Char)),
      commands = [.apply 0 (.moveBy 2), .apply 0 (.moveBy 2), .apply 0 .location, .fork 0,
        .apply 1 (.rewind 2), .apply 1 (.moveTo ⟨2, some ⟨1, 0⟩⟩ (-1))] ∧
      (Opening.source [.element 'a', .failure "lost", .element '\n', .element 'b']).open? 0 .quiet
        true = .ok v ∧
      (Session.start v).Faithful [] commands ∧
      ∀ outcomes s, (Session.start v).run commands = (outcomes, s) →
        (∀ c ∈ s.cursors, ∀ p, c.position = some p →
          s.buffer.Bears c.index ∧ p.TrueAt '\n' s.buffer.items.toList c.index.toNat) ∧
        s.cursors.map Cursor.keepsLines = [true, true] ∧
        ∀ fault, .failed fault ∈ outcomes → fault.Expected := by
  refine ⟨_, _, rfl, rfl, ?_, ?_⟩
  · decide
  · exact lines_and_columns_are_true
      (.source [.element 'a', .failure "lost", .element '\n', .element 'b']) 0 .quiet rfl _
      (by decide)

end Rewind
