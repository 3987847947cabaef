import Rewind.Proofs.Pulls

/-!
# Asking again when the source fails

A source that has failed goes on behind the failure, so a caller may ask again. `Action.Persists`
is what comes of asking again for as long as the source fails, and `Action.Recovers` says that this
is **what asking once would have come to without the failures**: there is an end to it, and the
answer, or the misuse, is the same, and so is what is left behind.

Whether an action recovers is decided part by part (`Recovers.seq`). The first of two actions is
carried out anew each time the second one fails, so it has to repeat its answer without a pull
(`Action.Repeats`): looks do, moves do not. The second may be anything that recovers.
-/

namespace Rewind

variable {σ τ β γ : Type}

namespace Action

/-! ### Asking again -/

section Asking

variable (ext clears : σ → σ → Prop)

/-- What comes of an action when it is asked for again, for as long as the source fails, from where
the failure has left the state. -/
inductive Persists (x : Action σ β) : σ → EStateM.Result Fault σ β → Prop
  | answered {s t : σ} {b : β} (hrun : x.run s = .ok b t) : Persists x s (.ok b t)
  | refused {s t : σ} {fault : Fault} (hrun : x.run s = .error fault t)
      (hfault : fault.source? = none) : Persists x s (.error fault t)
  | again {s t : σ} {m : String} {r : EStateM.Result Fault σ β}
      (hrun : x.run s = .error (.source m) t) (hleft : ext s t) (hrest : Persists x t r) :
      Persists x s r

/-- The same answer or fault, and a state that only differs by the failures still to come. -/
def Recovered : EStateM.Result Fault σ β → EStateM.Result Fault σ β → Prop
  | .ok b t, r => ∃ e, r = .ok b e ∧ clears t e
  | .error fault t, r => ∃ e, r = .error fault e ∧ clears t e

/-- Asking again comes to what asking once comes to in the state `d`, where no failures are to
come. -/
def Recovers (x : Action σ β) (d : σ) : Prop :=
  ∀ s, clears s d → ∃ r, x.Persists ext s r ∧ Recovered clears r (x.run d)

/-- Once answered, an action answers the same again and leaves the state as it is, also when it has
been extended in between. -/
def Repeats (x : Action σ β) (s : σ) : Prop :=
  ∀ b t, x.run s = .ok b t → ext s t ∧ ∀ u, ext t u → x.run u = .ok b u

end Asking

variable {ext clears : σ → σ → Prop} {x : Action σ β} {f : β → Action σ γ} {s t d : σ}

/-- Asking again has one outcome. -/
theorem Persists.unique {r r' : EStateM.Result Fault σ β} (h : x.Persists ext s r)
    (h' : x.Persists ext s r') : r = r' := by
  induction h with
  | answered hrun =>
    rcases h' with hrun' | ⟨hrun', -⟩ | ⟨hrun', -, -⟩
    · exact hrun.symm.trans hrun'
    · exact hrun.symm.trans hrun'
    · cases hrun.symm.trans hrun'
  | refused hrun hfault =>
    rcases h' with hrun' | ⟨hrun', -⟩ | ⟨hrun', -, -⟩
    · exact hrun.symm.trans hrun'
    · exact hrun.symm.trans hrun'
    · cases hrun.symm.trans hrun'
      cases hfault
  | again hrun _ _ ih =>
    rcases h' with hrun' | ⟨hrun', hfault⟩ | ⟨hrun', -, hrest⟩
    · cases hrun.symm.trans hrun'
    · cases hrun.symm.trans hrun'
      cases hfault
    · cases hrun.symm.trans hrun'
      exact ih hrest

/-- A failure of the source has only extended the state. -/
theorem Persists.extends_of_source {r : EStateM.Result Fault σ β} (h : x.Persists ext s r)
    {m : String} (hrun : x.run s = .error (.source m) t) : ext s t := by
  rcases h with hrun' | ⟨hrun', hfault⟩ | ⟨hrun', hleft, -⟩
  · cases hrun.symm.trans hrun'
  · cases hrun.symm.trans hrun'
    cases hfault
  · cases hrun.symm.trans hrun'
    exact hleft

/-- **Actions that repeat their answers**, put together, repeat their answers. -/
def repeating (ext : σ → σ → Prop) (hrefl : ∀ s, ext s s)
    (htrans : ∀ s t u, ext s t → ext t u → ext s u) : Judgement σ where
  Holds x s := x.Repeats ext s
  done b s := by
    intro _ _ hrun
    cases hrun
    exact ⟨hrefl s, fun _ _ => rfl⟩
  seq {β γ x f s} hx hf := by
    intro c u hrun
    obtain ⟨b, t, hb, hc⟩ := run_bind_eq_ok.1 hrun
    obtain ⟨hfirst, hagain⟩ := hx b t hb
    obtain ⟨hsecond, hagain'⟩ := hf b t hb c u hc
    refine ⟨htrans _ _ _ hfirst hsecond, fun w hw => ?_⟩
    rw [run_bind_of_ok (hagain w (htrans _ _ _ hsecond hw))]
    exact hagain' w hw

theorem Repeats.raise (fault : Fault) : (throw fault : Action σ β).Repeats ext s :=
  fun _ _ hrun => by cases hrun

/-- Going on with a second action: the first repeats its answer each time the second fails. -/
theorem Persists.of_ok_bind (htrans : ∀ s t u, ext s t → ext t u → ext s u)
    (hrep : ∀ s, x.Repeats ext s) {b : β} {r : EStateM.Result Fault σ γ}
    (hrun : x.run s = .ok b t) (h : (f b).Persists ext t r) : (x >>= f).Persists ext s r := by
  induction h generalizing s with
  | answered hf => exact .answered (by rwa [run_bind_of_ok hrun])
  | refused hf hfault => exact .refused (by rwa [run_bind_of_ok hrun]) hfault
  | again hf hleft _ ih =>
    obtain ⟨hgrown, hagain⟩ := hrep s b _ hrun
    exact .again (by rwa [run_bind_of_ok hrun]) (htrans _ _ _ hgrown hleft)
      (ih (hagain _ hleft))

/-- Two actions in a row come to what the second one comes to where the first has led. -/
theorem Persists.bind (htrans : ∀ s t u, ext s t → ext t u → ext s u)
    (hrep : ∀ s, x.Repeats ext s) {b : β} {r : EStateM.Result Fault σ γ}
    (hx : x.Persists ext s (.ok b t)) (hf : (f b).Persists ext t r) :
    (x >>= f).Persists ext s r := by
  generalize hr : EStateM.Result.ok b t = r' at hx
  induction hx with
  | answered hrun =>
    cases hr
    exact .of_ok_bind htrans hrep hrun hf
  | refused => cases hr
  | again hrun hleft _ ih => exact .again (run_bind_of_error hrun) hleft (ih hr)

/-- Where the first of two actions is refused the second is never reached. -/
theorem Persists.bind_of_error {fault : Fault} (hx : x.Persists ext s (.error fault t)) :
    (x >>= f).Persists ext s (.error fault t) := by
  generalize hr : EStateM.Result.error fault t = r at hx
  induction hx with
  | answered => cases hr
  | refused hrun hfault =>
    cases hr
    exact .refused (run_bind_of_error hrun) hfault
  | again hrun hleft _ ih => exact .again (run_bind_of_error hrun) hleft (ih hr)

/-- **Two actions in a row recover** when the first repeats its answers and both recover. -/
theorem Recovers.seq (htrans : ∀ s t u, ext s t → ext t u → ext s u)
    (hrep : ∀ s, x.Repeats ext s) (hx : x.Recovers ext clears d)
    (hf : ∀ b e, x.run d = .ok b e → (f b).Recovers ext clears e) :
    (x >>= f).Recovers ext clears d := by
  intro s hs
  obtain ⟨⟨b, t⟩ | ⟨fault, t⟩, hpersists, e, hd, ht⟩ := hx s hs
  · obtain ⟨r, hrest, hsame⟩ := hf b e hd t ht
    exact ⟨r, hpersists.bind htrans hrep hrest, by rwa [run_bind_of_ok hd]⟩
  · exact ⟨.error fault t, hpersists.bind_of_error, e, run_bind_of_error hd, ht⟩

/-- Whether the source did not fail. -/
def Settled : EStateM.Result Fault σ β → Prop
  | .ok _ _ => True
  | .error fault _ => fault.source? = none

theorem Persists.of_settled {r : EStateM.Result Fault σ β} (hrun : x.run s = r) (hr : Settled r) :
    x.Persists ext s r := by
  rcases r with ⟨b, t⟩ | ⟨fault, t⟩
  · exact .answered hrun
  · exact .refused hrun hr

/-- An action that is not let down recovers when it comes out alike with and without the failures
to come. -/
theorem Recovers.of_settled (h : ∀ s, clears s d →
    Settled (x.run s) ∧ Recovered clears (x.run s) (x.run d)) : x.Recovers ext clears d :=
  fun s hs => ⟨x.run s, .of_settled rfl (h s hs).1, (h s hs).2⟩

theorem Recovers.done (b : β) : (pure b : Action σ β).Recovers ext clears d :=
  .of_settled fun _ hs => ⟨trivial, d, rfl, hs⟩

theorem Recovers.raise {fault : Fault} (hfault : fault.source? = none) :
    (throw fault : Action σ β).Recovers ext clears d :=
  .of_settled fun _ hs => ⟨hfault, d, rfl, hs⟩

/-- Going on with a place or a distance, which is refused alike where it does not fit. -/
theorem Recovers.orOverflow_bind {i : Option Int} {g : Int → Action σ γ}
    (hg : ∀ j, i = some j → (g j).Recovers ext clears d) :
    (Offset.orOverflow i >>= g).Recovers ext clears d := by
  rcases i with _ | i
  · exact .raise rfl
  · exact hg i rfl

/-- What recovers and answers at once answers as it would without the failures to come. -/
theorem Recovers.recovered_of_ok {b : β} (hx : x.Recovers ext clears d) (hs : clears s d)
    (hrun : x.run s = .ok b t) : Recovered clears (.ok b t) (x.run d) := by
  obtain ⟨r, hpersists, hrecovered⟩ := hx s hs
  rwa [(Persists.answered hrun).unique hpersists]

/-- Asking for an action that comes out as another one does, now and after each failure of that
one. -/
theorem Persists.of_agree {y : Action σ β} {r : EStateM.Result Fault σ β}
    (hs : y.run s = x.run s)
    (hnext : ∀ s m t, x.run s = .error (.source m) t → y.run t = x.run t)
    (h : x.Persists ext s r) : y.Persists ext s r := by
  induction h with
  | answered hrun => exact .answered (hs.trans hrun)
  | refused hrun hfault => exact .refused (hs.trans hrun) hfault
  | again hrun hleft _ ih => exact .again (hs.trans hrun) hleft (ih (hnext _ _ _ hrun))

/-- Asking in a state that comes out as another one does is asking there. -/
theorem Persists.of_run_eq (htrans : ∀ s t u, ext s t → ext t u → ext s u)
    {r : EStateM.Result Fault σ β} (hrun : x.run s = x.run t) (hext : ext s t)
    (h : x.Persists ext t r) : x.Persists ext s r := by
  rcases h with ht | ⟨ht, hfault⟩ | ⟨ht, hleft, hrest⟩
  · exact .answered (hrun.trans ht)
  · exact .refused (hrun.trans ht) hfault
  · exact .again (hrun.trans ht) (htrans _ _ _ hext hleft) hrest

/-- **An action that is another one and a last step recovers when that one does**: the last step
must not meet a failure of the source, and come out alike with and without the failures to come. -/
theorem Recovers.finish {y : Action τ γ} {ext' clears' : τ → τ → Prop}
    (hx : x.Recovers ext clears d) (embed : σ → τ)
    (answer : σ → β → σ → EStateM.Result Fault τ γ)
    (hok : ∀ s b t, x.run s = .ok b t → y.run (embed s) = answer s b t)
    (herror : ∀ s fault t, x.run s = .error fault t → y.run (embed s) = .error fault (embed t))
    (hext : ∀ s t, ext s t → ext' (embed s) (embed t))
    (hclears : ∀ s e, clears s e → clears' (embed s) (embed e))
    (hanswer : ∀ s b t e, x.run s = .ok b t → x.run d = .ok b e → clears t e →
      Settled (answer s b t) ∧ Recovered clears' (answer s b t) (answer d b e))
    (hs : clears s d) :
    ∃ r, y.Persists ext' (embed s) r ∧ Recovered clears' r (y.run (embed d)) := by
  obtain ⟨r, hpersists, hrecovered⟩ := hx s hs
  clear hs
  induction hpersists with
  | @answered s t b hs =>
    obtain ⟨e, hd, ht⟩ := hrecovered
    obtain ⟨hsettled, hsame⟩ := hanswer s b t e hs hd ht
    exact ⟨answer s b t, .of_settled (hok s b t hs) hsettled, by rwa [hok d b e hd]⟩
  | @refused s t fault hs hfault =>
    obtain ⟨e, hd, ht⟩ := hrecovered
    exact ⟨.error fault (embed t), .refused (herror s fault t hs) hfault, embed e,
      herror d fault e hd, hclears t e ht⟩
  | @again s t m r hs hleft _ ih =>
    obtain ⟨r', hrest, hsame⟩ := ih hrecovered
    exact ⟨r', .again (herror s (.source m) t hs) (hext _ _ hleft) hrest, hsame⟩

/-- The same where both actions act on the same states. -/
theorem Recovers.conclude {y : Action σ γ} (hx : x.Recovers ext clears d)
    (answer : σ → β → σ → EStateM.Result Fault σ γ)
    (hok : ∀ s b t, x.run s = .ok b t → y.run s = answer s b t)
    (herror : ∀ s fault t, x.run s = .error fault t → y.run s = .error fault t)
    (hanswer : ∀ s b t e, x.run s = .ok b t → x.run d = .ok b e → clears t e →
      Settled (answer s b t) ∧ Recovered clears (answer s b t) (answer d b e)) :
    y.Recovers ext clears d :=
  fun _ hs => hx.finish id answer hok herror (fun _ _ h => h) (fun _ _ h => h) hanswer hs

/-- Either of two actions, as a decision falls. -/
theorem Recovers.ite {p : Prop} [Decidable p] {y : Action σ β} (hx : p → x.Recovers ext clears d)
    (hy : ¬ p → y.Recovers ext clears d) : (if p then x else y).Recovers ext clears d := by
  split
  · next h => exact hx h
  · next h => exact hy h

/-- Changing the answers of an action that recovers. -/
theorem Recovers.map (hx : x.Recovers ext clears d) (g : β → γ) :
    (do return g (← x)).Recovers ext clears d := by
  refine hx.conclude (fun _ b t => .ok (g b) t) (fun _ _ _ h => run_bind_of_ok h)
    (fun _ _ _ h => run_bind_of_error h) fun _ _ _ e _ _ ht => ?_
  exact ⟨trivial, e, rfl, ht⟩

end Action

end Rewind
