import Rewind.Proofs.Walks

/-!
# Places are in reading order

Saved places are ordered by their index, and are equal only if the line and the column are, too.
Where no place was made up the two agree, and they agree with how a reader orders the places of a
text, **line by line and in a line from left to right** (`places_are_in_reading_order`): the further
a place, the further its line, or its column where the line is the same.

The reason is that elements between two places move the later one ahead, each in its way
(`Position.precedes_ofBehind`): a line feed among them puts it on a further line, and without one
it is on the same line, further right. All places that any cursors over one buffer report tell the
truth about what the buffer finally holds (`Session.Reports.trueIn`), so they can be compared
however far apart in time they were.
-/

namespace Rewind

variable {α : Type}

/-! ### Lines and columns in reading order -/

namespace Position

/-- Whether one line and column come before another for a reader: on an earlier line, or on the same
line further left. -/
def Precedes (p q : Position) : Prop :=
  p.line < q.line ∨ p.line = q.line ∧ p.column < q.column

instance (p q : Position) : Decidable (p.Precedes q) :=
  inferInstanceAs (Decidable (_ ∨ _))

theorem not_precedes_self (p : Position) : ¬ p.Precedes p := by
  unfold Precedes
  omega

theorem Precedes.asymm {p q : Position} (h : p.Precedes q) : ¬ q.Precedes p := by
  unfold Precedes at h ⊢
  omega

variable (feeds : α → Bool) {text : Array α} {i j : Nat}

/-- **What comes further on in a text is further on for a reader.** -/
theorem precedes_ofBehind (hlt : i < j) (hj : j ≤ text.size) :
    (ofBehind feeds (behind text i)).Precedes (ofBehind feeds (behind text j)) := by
  have hlength : (text.extract i j).toList.reverse.length = j - i := by
    rw [List.length_reverse, Array.length_toList, Array.size_extract, Nat.min_eq_left hj]
  rw [behind_append text (Nat.le_of_lt hlt), ofBehind_append]
  rcases hany : (text.extract i j).toList.reverse.any feeds
  -- Without a line feed in between they are on one line, as far apart as in the text.
  · have hcount : (text.extract i j).toList.reverse.countP feeds = 0 := by
      rw [List.countP_eq_zero]
      exact List.any_eq_false.1 hany
    refine .inr ⟨?_, ?_⟩
    · simp only [ofBehind, hcount, Nat.zero_add]
    · simp only [ofBehind, Bool.false_eq_true, if_false, hlength]
      omega
  · have hcount : 0 < (text.extract i j).toList.reverse.countP feeds := by
      rw [List.countP_pos_iff]
      exact List.any_eq_true.1 hany
    refine .inl ?_
    simp only [ofBehind]
    omega

theorem precedes_ofBehind_iff (hi : i ≤ text.size) (hj : j ≤ text.size) :
    (ofBehind feeds (behind text i)).Precedes (ofBehind feeds (behind text j)) ↔ i < j := by
  refine ⟨fun h => ?_, fun hlt => precedes_ofBehind feeds hlt hj⟩
  rcases Nat.lt_trichotomy i j with hlt | rfl | hgt
  · exact hlt
  · exact absurd h (not_precedes_self _)
  · exact absurd h (precedes_ofBehind feeds hgt hi).asymm

end Position

/-! ### Places that tell the truth -/

/-- Over an empty text there is only the place before it. -/
theorem Buffer.Bears.toNat_lt_iff {b : Buffer α} {i j : Int} (hi : b.Bears i) (hj : b.Bears j) :
    i.toNat < j.toNat ↔ i < j := by
  unfold Bears at hi hj
  rw [holds_iff] at hi hj
  rcases hi with hi | ⟨rfl, hitems, -⟩
  · rcases hj with hj | ⟨rfl, hitems, -⟩
    · omega
    · simp only [hitems, Array.size_empty] at hi
      omega
  · rcases hj with hj | ⟨rfl, -, -⟩
    · simp only [hitems, Array.size_empty] at hj
      omega
    · omega

namespace Location.TrueIn

variable [LineElement α] {b : Buffer α} {l l' : Location} {p q : Position}

/-- **The order of places is that of their lines and columns.** -/
theorem precedes_iff (h : l.TrueIn b) (h' : l'.TrueIn b) (hp : l.position = some p)
    (hq : l'.position = some q) : p.Precedes q ↔ l.index < l'.index := by
  rw [h.position_eq p hp, h'.position_eq q hq,
    Position.precedes_ofBehind_iff b.feeds h.bears.toNat_le h'.bears.toNat_le,
    h.bears.toNat_lt_iff h'.bears]

/-- A line and a column belong to one place. -/
theorem index_eq (h : l.TrueIn b) (h' : l'.TrueIn b) (hp : l.position = some p)
    (hq : l'.position = some p) : l.index = l'.index := by
  have hlt := mt (h.precedes_iff h' hp hq).2 p.not_precedes_self
  have hgt := mt (h'.precedes_iff h hq hp).2 p.not_precedes_self
  omega

/-- **Places are equal where the indices are.** -/
theorem eq_iff_index (h : l.TrueIn b) (h' : l'.TrueIn b) (hp : l.position = some p)
    (hq : l'.position = some q) : l = l' ↔ l.index = l'.index :=
  ⟨fun heq => congrArg index heq, fun hindex => h.unique h' hindex (by rw [hp, hq]; rfl)⟩

/-- **Places are equal where the lines and columns are.** -/
theorem eq_iff_position (h : l.TrueIn b) (h' : l'.TrueIn b) (hp : l.position = some p)
    (hq : l'.position = some q) : l = l' ↔ p = q := by
  constructor
  · rintro rfl
    exact Option.some.inj (hp.symm.trans hq)
  · rintro rfl
    exact (h.eq_iff_index h' hp hq).2 (h.index_eq h' hp hq)

end Location.TrueIn

/-! ### Sorting -/

/-- Sorted places are in order. -/
theorem Location.pairwise_sort (places : List Location) :
    (sort places).Pairwise fun a b => (compare a b).isLE = true := by
  have hsorted : (sort places).Pairwise fun a b => decide (a.index ≤ b.index) = true :=
    List.pairwise_mergeSort (by grind) (by grind) places
  exact hsorted.imp fun hle => Int.isLE_compare.2 (of_decide_eq_true hle)

/-! ### Places that are reported -/

namespace Session

variable [LineElement α] [DecidableEq α]

/-- Whether, after the first so many of some commands, a cursor that keeps lines has its head on
`head` and, when asked for its place, reports `l`. -/
def Reports (s : Session α) (commands : List (Command α)) (head : Int) (l : Location) : Prop :=
  ∃ n i c, (s.run (commands.take n)).2.cursors[i]? = some c ∧ c.keepsLines = true ∧
    c.index = head ∧
    ((s.run (commands.take n)).2.perform (.apply i .location)).1 = .answered (.place l)

variable {s : Session α} {commands : List (Command α)} {head : Int} {l : Location}

/-- What is reported is the place of the head. -/
theorem Reports.index_eq (h : s.Reports commands head l) :
    l.index = head ∧ l.position.isSome = true := by
  obtain ⟨n, i, c, hc, hkeeps, rfl, hreply⟩ := h
  rw [perform_apply hc] at hreply
  cases hreply
  exact ⟨rfl, hkeeps⟩

/-- **Whenever it is reported, a place tells the truth about the final buffer.** -/
theorem Reports.trueIn (h : s.Reports commands head l) (hs : s.Truthful [])
    (hfaithful : s.Faithful [] commands) : l.TrueIn (s.run commands).2.buffer := by
  obtain ⟨n, i, c, hc, -, -, hreply⟩ := h
  rw [perform_apply hc] at hreply
  cases hreply
  rw [← List.take_append_drop n commands] at hfaithful ⊢
  obtain ⟨htruthful, -, -⟩ := hs.run hfaithful.append.1
  rw [run_append]
  obtain ⟨told, htakes, -⟩ := (s.run (commands.take n)).2.run_takes (commands.drop n)
  rw [List.take_append_drop]
  exact (htruthful.cursor c (List.mem_of_getElem? hc)).mono htakes

end Session

/-- **Places are in reading order.** Take any commands that send cursors which keep lines only to
places reported before, and any two places that such cursors report, at whatever times. One is
earlier than the other exactly if its line and column come first for a reader. The two are equal
exactly if the order has them as equal, which is if the heads were on one place, and only then are
the line and the column the same. So places that are in order are also in reading order, and this is
how they are sorted. -/
theorem places_are_in_reading_order [LineElement α] [DecidableEq α] (o : Opening α) (key : Nat)
    (config : Config) (keepsLines : Bool) {v : View α}
    (hopen : o.open? key config keepsLines = .ok v) (commands : List (Command α))
    (hfaithful : (Session.start v).Faithful [] commands) :
    (∀ head head' a b, (Session.start v).Reports commands head a →
      (Session.start v).Reports commands head' b →
      ∃ p q, a.position = some p ∧ b.position = some q ∧
        (a.index < b.index ↔ p.Precedes q) ∧ (a = b ↔ compare a b = .eq) ∧
        (compare a b = .eq ↔ head = head') ∧ (p = q ↔ head = head')) ∧
    ∀ places, (∀ l ∈ places, ∃ head, (Session.start v).Reports commands head l) →
      (places.Pairwise (fun a b => (compare a b).isLE = true) →
        places.Pairwise fun a b => ∀ p q, a.position = some p → b.position = some q →
          ¬ q.Precedes p) ∧
      (Location.sort places).Perm places ∧
      (Location.sort places).Pairwise (fun a b => (compare a b).isLE = true) ∧
      (Location.sort places).Pairwise fun a b => ∀ p q, a.position = some p →
        b.position = some q → ¬ q.Precedes p := by
  have hs := Session.Truthful.start hopen
  -- Both are compared in the buffer that is there in the end.
  have hordered {places : List Location}
      (hreported : ∀ l ∈ places, ∃ head, (Session.start v).Reports commands head l)
      (hsorted : places.Pairwise fun a b => (compare a b).isLE = true) :
      places.Pairwise fun a b => ∀ p q, a.position = some p → b.position = some q →
        ¬ q.Precedes p := by
    refine hsorted.imp_of_mem fun {a b} ha hb hle p q hp hq hafter => ?_
    obtain ⟨_, ha⟩ := hreported a ha
    obtain ⟨_, hb⟩ := hreported b hb
    rw [(hb.trueIn hs hfaithful).precedes_iff (ha.trueIn hs hfaithful) hq hp] at hafter
    exact absurd (Int.isLE_compare.1 hle) (Int.not_le.2 hafter)
  refine ⟨fun head head' a b ha hb => ?_, fun places hreported => ⟨hordered hreported, ?_⟩⟩
  · obtain ⟨hhead, hkeeps⟩ := ha.index_eq
    obtain ⟨hhead', hkeeps'⟩ := hb.index_eq
    obtain ⟨p, hp⟩ := Option.isSome_iff_exists.1 hkeeps
    obtain ⟨q, hq⟩ := Option.isSome_iff_exists.1 hkeeps'
    have ha := ha.trueIn hs hfaithful
    have hb := hb.trueIn hs hfaithful
    have hindex := ha.eq_iff_index hb hp hq
    have hcompare : compare a b = .eq ↔ a.index = b.index := Int.compare_eq_eq
    refine ⟨p, q, hp, hq, (ha.precedes_iff hb hp hq).symm, hindex.trans hcompare.symm, ?_, ?_⟩
    · rw [hcompare, hhead, hhead']
    · rw [← ha.eq_iff_position hb hp hq, hindex, hhead, hhead']
  · have hperm : (Location.sort places).Perm places := List.mergeSort_perm places _
    have hsorted := Location.pairwise_sort places
    exact ⟨hperm, hsorted, hordered (fun l hl => hreported l (hperm.mem_iff.1 hl)) hsorted⟩

/-- Places on both sides of a line feed, the one reported by a fork on its way back, the other long
after by a cursor that was sent to it. -/
theorem places_are_in_reading_order_around_feed :
    ∃ (v : View Char) (commands : List (Command Char)) (a b : Location),
      commands = [.apply 0 (.moveBy 3), .fork 0, .apply 1 (.rewind 1), .apply 1 .location,
        .apply 1 (.moveBy 5), .apply 0 (.reset ⟨2, some ⟨0, 2⟩⟩), .apply 0 (.moveBy 1)] ∧
      a = ⟨2, some ⟨0, 2⟩⟩ ∧ b = ⟨3, some ⟨1, 0⟩⟩ ∧
      (Opening.sequence [some 'a', some 'b', some '\n', some 'c']).open? 0 .quiet true = .ok v ∧
      (Session.start v).Faithful [] commands ∧ (Session.start v).Reports commands 2 a ∧
      (Session.start v).Reports commands 3 b ∧
      (∃ p q, a.position = some p ∧ b.position = some q ∧
        (a.index < b.index ↔ p.Precedes q) ∧ (a = b ↔ compare a b = .eq) ∧
        (compare a b = .eq ↔ (2 : Int) = 3) ∧ (p = q ↔ (2 : Int) = 3)) ∧
      (Location.sort [b, a, b]).Pairwise fun a b => ∀ p q, a.position = some p →
        b.position = some q → ¬ q.Precedes p := by
  let v : View Char := .ofSequence 0 [some 'a', some 'b', some '\n', some 'c'] .quiet true
  let commands : List (Command Char) :=
    [.apply 0 (.moveBy 3), .fork 0, .apply 1 (.rewind 1), .apply 1 .location,
      .apply 1 (.moveBy 5), .apply 0 (.reset ⟨2, some ⟨0, 2⟩⟩), .apply 0 (.moveBy 1)]
  have hfaithful : (Session.start v).Faithful [] commands := by decide
  have ha : (Session.start v).Reports commands 2 ⟨2, some ⟨0, 2⟩⟩ :=
    ⟨3, 1, ⟨2, false, some ⟨0, 2⟩⟩, by decide +kernel⟩
  have hb : (Session.start v).Reports commands 3 ⟨3, some ⟨1, 0⟩⟩ :=
    ⟨7, 0, ⟨3, false, some ⟨1, 0⟩⟩, by decide +kernel⟩
  obtain ⟨hplaces, hsort⟩ := places_are_in_reading_order
    (.sequence [some 'a', some 'b', some '\n', some 'c']) 0 .quiet true rfl commands hfaithful
  refine ⟨v, commands, _, _, rfl, rfl, rfl, rfl, hfaithful, ha, hb, hplaces 2 3 _ _ ha hb,
    (hsort _ fun l hl => ?_).2.2.2⟩
  simp only [List.mem_cons, List.not_mem_nil, or_false] at hl
  rcases hl with rfl | rfl | rfl
  · exact ⟨3, hb⟩
  · exact ⟨2, ha⟩
  · exact ⟨3, hb⟩

end Rewind
