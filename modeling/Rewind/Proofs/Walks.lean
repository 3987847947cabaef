import Rewind.Proofs.Lines

/-!
# What a walk makes of any line and column

A walk takes a line and a column along, and these need not be those of the place it starts from. The
line changes by the number of line feeds passed. The column changes by the number of elements
passed, **until a line feed is passed; from then on it is the true one**, wherever the walk started
(`Position.forward_eq`, `Position.of_back?`).

So a walk ends with the line and the column of its last place exactly when it started with the line
of its first place, and with the column of that place or past a line feed
(`Position.walk?_true_iff`).

Elements passed are told by splitting what lies behind a place: `near` is passed and `far` remains.
-/

namespace Rewind

variable {α : Type}

/-! ### The one true position -/

/-- No line feed lies before a place, or one does that is the last. -/
theorem exists_last_feed (lineFeed : Char) (text : List Char) (place : Nat) :
    (∀ k < place, text[k]? ≠ some lineFeed) ∨
      ∃ feed < place, text[feed]? = some lineFeed ∧
        ∀ k < place, feed < k → text[k]? ≠ some lineFeed := by
  induction place with
  | zero => exact .inl fun k hk => absurd hk (Nat.not_lt_zero k)
  | succ place ih =>
    by_cases hplace : text[place]? = some lineFeed
    · exact .inr ⟨place, Nat.lt_succ_self place, hplace, fun k hk hlt => by omega⟩
    · have hstep (k : Nat) (hk : k < place + 1) (h : k < place → text[k]? ≠ some lineFeed) :
          text[k]? ≠ some lineFeed := by
        rcases Nat.lt_succ_iff_lt_or_eq.1 hk with hlt | rfl
        · exact h hlt
        · exact hplace
      rcases ih with hnone | ⟨feed, hfeed, hat, hlast⟩
      · exact .inl fun k hk => hstep k hk (hnone k)
      · exact .inr ⟨feed, by omega, hat, fun k hk hlt => hstep k hk fun hk' => hlast k hk' hlt⟩

theorem Position.eq_iff {p q : Position} : p = q ↔ p.line = q.line ∧ p.column = q.column := by
  rw [← Position.mk.injEq]

/-- A place has one true line and column. -/
theorem Position.TrueAt.unique {lineFeed : Char} {text : List Char} {place : Nat} {p q : Position}
    (hp : p.TrueAt lineFeed text place) (hq : q.TrueAt lineFeed text place) : p = q := by
  refine Position.eq_iff.2 ⟨hp.line_eq.trans hq.line_eq.symm, ?_⟩
  rcases exists_last_feed lineFeed text place with hnone | ⟨feed, hfeed, hat, hlast⟩
  · rw [hp.column_eq_of_none hnone, hq.column_eq_of_none hnone]
  · rw [hp.column_eq_of_feed feed hfeed hat hlast, hq.column_eq_of_feed feed hfeed hat hlast]

theorem Position.trueAt_iff (config : Config) {text : Array Char} {place : Nat}
    (h : place ≤ text.size) (p : Position) :
    p.TrueAt config.lineFeed text.toList place ↔
      p = .ofBehind config.feeds (behind text place) := by
  have htrue := Position.trueAt_ofBehind config text place h
  constructor
  · intro hp
    exact hp.unique htrue
  · rintro rfl
    exact htrue

/-- Among characters, the line feed itself is what ends a line. -/
theorem Config.any_feeds_iff (config : Config) (text : Array Char) :
    text.any config.feeds = true ↔ config.lineFeed ∈ text := by
  rw [← Array.any_toList, List.any_eq_true, ← Array.mem_toList_iff]
  constructor
  · rintro ⟨c, hc, hfeeds⟩
    rwa [← of_decide_eq_true hfeeds]
  · intro hmem
    exact ⟨_, hmem, decide_eq_true rfl⟩

namespace Position

variable (feeds : α → Bool)

/-! ### Counting the column behind a place -/

/-- Without a line feed close by, the column is counted on from further behind. -/
theorem columnOf_append_of_none {near : List α} (h : near.any feeds = false) (far : List α) :
    columnOf feeds (near ++ far) = near.length + columnOf feeds far := by
  have hpass : ∀ x ∈ near, (!feeds x) = true := by
    intro x hx
    rw [List.any_eq_false] at h
    simpa using h x hx
  rw [columnOf, columnOf, List.takeWhile_append_of_pos hpass, List.length_append]

/-- A line feed close by decides the column. -/
theorem columnOf_append_of_any {near : List α} (h : near.any feeds = true) (far : List α) :
    columnOf feeds (near ++ far) = columnOf feeds near := by
  induction near with
  | nil => cases h
  | cons x near ih =>
    by_cases hx : feeds x
    · simp [columnOf, hx]
    · have hcolumn := ih (by simpa [hx] using h)
      simp only [columnOf] at hcolumn ⊢
      simp [hx, hcolumn]

/-! ### Walking forward -/

/-- **What a walk forward makes of a line and a column.** -/
theorem forward_eq (p : Position) (passed : List α) :
    p.forward feeds passed =
      ⟨p.line + passed.countP feeds,
        if passed.any feeds then columnOf feeds passed.reverse else p.column + passed.length⟩ := by
  induction passed generalizing p with
  | nil => rfl
  | cons x passed ih =>
    have hforward : p.forward feeds (x :: passed) = (p.step feeds x).forward feeds passed := rfl
    rw [hforward, ih, List.reverse_cons]
    by_cases hpassed : passed.any feeds
    -- A line feed among the other elements decides the column.
    · have hcolumn : columnOf feeds (passed.reverse ++ [x]) = columnOf feeds passed.reverse :=
        columnOf_append_of_any feeds (by simpa using hpassed) [x]
      by_cases hx : feeds x
      · simp [step, hx, hpassed, hcolumn]
        omega
      · simp [step, hx, hpassed, hcolumn]
    · have hcolumn : columnOf feeds (passed.reverse ++ [x]) =
          passed.reverse.length + columnOf feeds [x] :=
        columnOf_append_of_none feeds (by simpa using hpassed) [x]
      by_cases hx : feeds x
      · rw [hcolumn]
        simp [step, columnOf, hx, hpassed]
        omega
      · simp [step, hx, hpassed]
        omega

/-! ### Walking backward -/

/-- A walk backward from a true column keeps it true. -/
theorem column_of_back?_of_true {near far : List α} {p q : Position}
    (h : back? feeds near.length (near ++ far) p = some q)
    (hp : p.column = columnOf feeds (near ++ far)) : q.column = columnOf feeds far := by
  induction near generalizing p with
  | nil =>
    cases h
    exact hp
  | cons x near ih =>
    rw [List.length_cons, List.cons_append, back?] at h
    by_cases hx : feeds x
    · rw [if_pos hx] at h
      split at h
      · cases h
      · exact ih h rfl
    · rw [if_neg hx] at h
      split at h
      · cases h
      · refine ih h ?_
        simp only [hp]
        simp [columnOf, hx]

/-- **What a walk backward makes of a line and a column**, if it can be made. -/
theorem of_back? {near far : List α} {p q : Position}
    (h : back? feeds near.length (near ++ far) p = some q) :
    p.line = q.line + near.countP feeds ∧
      if near.any feeds then q.column = columnOf feeds far
      else p.column = q.column + near.length := by
  induction near generalizing p with
  | nil =>
    cases h
    exact ⟨rfl, rfl⟩
  | cons x near ih =>
    rw [List.length_cons, List.cons_append, back?] at h
    by_cases hx : feeds x
    -- Behind a line feed the walk goes on from the true column.
    · rw [if_pos hx] at h
      split at h
      · cases h
      · next hline =>
        obtain ⟨hlines, -⟩ := ih h
        have hcolumn := column_of_back?_of_true feeds h rfl
        simp only [List.any_cons, hx, Bool.true_or, if_true, List.countP_cons_of_pos hx]
        exact ⟨by simp only at hlines; omega, hcolumn⟩
    · rw [if_neg hx] at h
      split at h
      · cases h
      · next hcolumn =>
        obtain ⟨hlines, hcolumns⟩ := ih h
        rw [List.countP_cons_of_neg hx, List.any_cons, Bool.eq_false_iff.2 hx,
          Bool.false_or, List.length_cons]
        refine ⟨hlines, ?_⟩
        split
        · next hany => rwa [if_pos hany] at hcolumns
        · next hany =>
          rw [if_neg hany] at hcolumns
          simp only at hcolumns
          omega

/-! ### Walks that end with the truth -/

/-- The true position of a place, counted from another one behind it. -/
theorem ofBehind_append (near far : List α) :
    ofBehind feeds (near ++ far) =
      ⟨near.countP feeds + far.countP feeds,
        if near.any feeds then columnOf feeds near else near.length + columnOf feeds far⟩ := by
  rw [ofBehind, List.countP_append]
  split
  · next hany => rw [columnOf_append_of_any feeds hany]
  · next hnone => rw [columnOf_append_of_none feeds (Bool.eq_false_iff.2 hnone)]

/-- A walk forward ends with the truth if the line was true, and the column was or is counted
anew. -/
theorem forward_true_iff (p : Position) (behind passed : List α) :
    p.forward feeds passed = ofBehind feeds (passed.reverse ++ behind) ↔
      p.line = (ofBehind feeds behind).line ∧
        (passed.any feeds = true ∨ p.column = (ofBehind feeds behind).column) := by
  rw [forward_eq, ofBehind_append, List.any_reverse, List.countP_reverse, List.length_reverse,
    Position.eq_iff]
  rcases hany : passed.any feeds
  · simp only [Bool.false_eq_true, if_false, false_or, ofBehind]
    omega
  · simp only [if_true, true_or, and_true, ofBehind]
    omega

/-- A walk backward does so, too. -/
theorem back?_true_iff {near far : List α} {p q : Position}
    (h : back? feeds near.length (near ++ far) p = some q) :
    q = ofBehind feeds far ↔
      p.line = (ofBehind feeds (near ++ far)).line ∧
        (near.any feeds = true ∨ p.column = (ofBehind feeds (near ++ far)).column) := by
  obtain ⟨hline, hcolumn⟩ := of_back? feeds h
  rw [ofBehind_append, ofBehind, Position.eq_iff]
  rcases hany : near.any feeds
  · simp only [hany, Bool.false_eq_true, if_false] at hcolumn
    simp only [Bool.false_eq_true, if_false, false_or]
    omega
  · simp only [hany, if_true] at hcolumn
    simp only [hcolumn, true_or, and_true]
    omega

/-- What lies behind a place is what was passed on the way there and what lies behind the start. -/
theorem behind_append (text : Array α) {start stop : Nat} (h : start ≤ stop) :
    behind text stop = (text.extract start stop).toList.reverse ++ behind text start := by
  rw [behind_eq, behind_eq, ← List.reverse_append, Array.toList_extract,
    List.extract_eq_take_drop, ← List.take_add, Nat.add_sub_cancel' h]

/-- **A walk ends with the truth exactly when it starts with the true line, and with the true column
or past a line feed.** -/
theorem walk?_true_iff {text : Array α} {start stop : Nat} {p q : Position}
    (hstart : start ≤ text.size) (h : walk? feeds text start stop p = some q) :
    q = ofBehind feeds (behind text stop) ↔
      p.line = (ofBehind feeds (behind text start)).line ∧
        ((text.extract (min start stop) (max start stop)).any feeds = true ∨
          p.column = (ofBehind feeds (behind text start)).column) := by
  rw [walk?] at h
  split at h
  · next hle =>
    cases h
    rw [Nat.min_eq_left hle, Nat.max_eq_right hle, behind_append text hle, forward_true_iff,
      Array.any_toList]
  · next hlt =>
    have hle : stop ≤ start := by omega
    have hlength : (text.extract stop start).toList.reverse.length = start - stop := by
      rw [List.length_reverse, Array.length_toList, Array.size_extract, Nat.min_eq_left hstart]
    rw [behind_append text hle, ← hlength] at h
    rw [Nat.min_eq_right hle, Nat.max_eq_left hle, behind_append text hle, back?_true_iff feeds h,
      List.any_reverse, Array.any_toList]

end Position

end Rewind
