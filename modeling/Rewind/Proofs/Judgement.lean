import Rewind.Action

/-!
# Judgements on actions

Most of what there is to say about the operations of a cursor holds of them because it holds of
the few steps they are put together from. A `Judgement` is a statement about an action and the
state it starts from that **passes from the parts of an action to the whole**: it holds of the
action that does nothing, and of two actions in a row when it holds of the first and, from
wherever the first succeeds, of the second.

The common case is a relation between the state before, the fault, if one is raised, and the
state after (`Judgement.ofRelation`). A judgement may also compare two runs of one action: that an
action does not see what a map of states forgets (`Judgement.blindTo`) is one.
-/

namespace Rewind

variable {σ β γ : Type}

namespace Action

variable {x : Action σ β} {f : β → Action σ γ} {s t : σ} {b : β} {c : γ} {fault : Fault}

/-- After a first action that succeeds, two in a row are the second. -/
theorem run_bind_of_ok (h : x.run s = .ok b t) : (x >>= f).run s = (f b).run t := by
  rw [EStateM.run_bind, h]

/-- A first action that fails is all there is. -/
theorem run_bind_of_error (h : x.run s = .error fault t) : (x >>= f).run s = .error fault t := by
  rw [EStateM.run_bind, h]

/-- After one action, two others that come out alike from where it has led. -/
theorem run_bind_congr {g : β → Action σ γ}
    (h : ∀ b t, x.run s = .ok b t → (f b).run t = (g b).run t) :
    (x >>= f).run s = (x >>= g).run s := by
  rcases hx : x.run s with ⟨b, t⟩ | ⟨fault, t⟩
  · rw [run_bind_of_ok hx, run_bind_of_ok hx, h b t hx]
  · rw [run_bind_of_error hx, run_bind_of_error hx]

/-- Two actions in a row fail when the first does, or when the second does from where the first
has led. -/
theorem run_bind_eq_error : (x >>= f).run s = .error fault t ↔
    x.run s = .error fault t ∨ ∃ b u, x.run s = .ok b u ∧ (f b).run u = .error fault t := by
  rcases h : x.run s with ⟨b, u⟩ | ⟨e, u⟩
  · rw [run_bind_of_ok h]
    exact ⟨fun hf => .inr ⟨b, u, rfl, hf⟩, fun | .inr ⟨_, _, rfl, hf⟩ => hf⟩
  · rw [run_bind_of_error h]
    refine ⟨fun he => .inl ?_, fun he => ?_⟩
    · cases he
      rfl
    · rcases he with he | ⟨_, _, hb, -⟩
      · cases he
        rfl
      · cases hb

/-- An answer changed on its way out. -/
theorem run_map_eq_ok {g : β → γ} :
    (g <$> x).run s = .ok c t ↔ ∃ b, x.run s = .ok b t ∧ g b = c := by
  rw [map_eq_pure_bind, run_bind_eq_ok]
  constructor
  · rintro ⟨b, u, hx, hg⟩
    cases hg
    exact ⟨b, hx, rfl⟩
  · rintro ⟨b, hx, rfl⟩
    exact ⟨b, t, hx, rfl⟩

theorem run_map_eq_error {g : β → γ} :
    (g <$> x).run s = .error fault t ↔ x.run s = .error fault t := by
  rw [map_eq_pure_bind, run_bind_eq_error]
  constructor
  · rintro (hx | ⟨_, _, _, hg⟩)
    · exact hx
    · cases hg
  · exact .inl

/-- What a relation says of the way an action comes out: of its fault, if it raises one, and of
the state it ends in. -/
def Ends (R : Option Fault → σ → Prop) : EStateM.Result Fault σ β → Prop
  | .ok _ t => R none t
  | .error fault t => R (some fault) t

theorem Ends.of_ok {R : Option Fault → σ → Prop} (h : Ends R (x.run s))
    (hrun : x.run s = .ok b t) : R none t := by
  rwa [hrun] at h

theorem Ends.of_error {R : Option Fault → σ → Prop} (h : Ends R (x.run s))
    (hrun : x.run s = .error fault t) : R (some fault) t := by
  rwa [hrun] at h

theorem Ends.imp {R S : Option Fault → σ → Prop} {r : EStateM.Result Fault σ β} (h : Ends R r)
    (himp : ∀ fault t, R fault t → S fault t) : Ends S r := by
  rcases r with ⟨b, t⟩ | ⟨fault, t⟩
  · exact himp none t h
  · exact himp (some fault) t h

theorem Ends.and {R S : Option Fault → σ → Prop} {r : EStateM.Result Fault σ β} (hR : Ends R r)
    (hS : Ends S r) : Ends (fun fault t => R fault t ∧ S fault t) r := by
  rcases r with ⟨b, t⟩ | ⟨fault, t⟩
  · exact ⟨hR, hS⟩
  · exact ⟨hR, hS⟩

/-- What is said of all ends is said of this one. -/
theorem Ends.of_forall {R : Option Fault → σ → Prop} (h : ∀ fault t, R fault t)
    (r : EStateM.Result Fault σ β) : Ends R r := by
  rcases r with ⟨b, t⟩ | ⟨fault, t⟩
  · exact h none t
  · exact h (some fault) t

/-- Every action ends in some way. -/
theorem Ends.exists {R : Option Fault → σ → Prop} {r : EStateM.Result Fault σ β} (h : Ends R r) :
    ∃ fault t, R fault t := by
  rcases r with ⟨b, t⟩ | ⟨fault, t⟩
  · exact ⟨none, t, h⟩
  · exact ⟨some fault, t, h⟩

/-- What is said of the state is not touched by a change of the answer. -/
theorem Ends.map {R : Option Fault → σ → Prop} (h : Ends R (x.run s)) (g : β → γ) :
    Ends R ((do return g (← x) : Action σ γ).run s) := by
  rcases hx : x.run s with ⟨b, t⟩ | ⟨fault, t⟩
  · rw [run_bind_of_ok hx]
    exact h.of_ok hx
  · rw [run_bind_of_error hx]
    exact h.of_error hx

/-- The same answer or the same fault, with a change made to the state. -/
def onState (f : σ → σ) : EStateM.Result Fault σ β → EStateM.Result Fault σ β
  | .ok b t => .ok b (f t)
  | .error fault t => .error fault (f t)

end Action

/-- A statement about actions which holds of a whole action when it holds of its parts. -/
structure Judgement (σ : Type) where
  Holds {β : Type} (x : Action σ β) (s : σ) : Prop
  /-- Doing nothing. -/
  done {β : Type} (b : β) (s : σ) : Holds (pure b) s
  /-- One action and then another. -/
  seq {β γ : Type} {x : Action σ β} {f : β → Action σ γ} {s : σ} (hx : Holds x s)
    (hf : ∀ b t, x.run s = .ok b t → Holds (f b) t) : Holds (x >>= f) s

namespace Judgement

variable (J : Judgement σ) {x : Action σ β} {s t : σ}

/-- An answer may be changed on its way out. -/
theorem map (hx : J.Holds x s) (g : β → γ) : J.Holds (do return g (← x)) s :=
  J.seq hx fun _ _ _ => J.done ..

/-- Either of two actions, as a decision falls. -/
theorem ite {p : Prop} [Decidable p] {y : Action σ β} (hx : p → J.Holds x s)
    (hy : ¬ p → J.Holds y s) : J.Holds (if p then x else y) s := by
  split
  · next h => exact hx h
  · next h => exact hy h

/-- Going on with a place or a distance, where refusing one that does not fit is allowed. -/
theorem orOverflow (hraise : J.Holds (throw (.misuse .seekOverflow) : Action σ Int) s)
    (i : Option Int) : J.Holds (Offset.orOverflow i) s := by
  rcases i with _ | i
  · exact hraise
  · exact J.done i s

/-! ### Judgements from relations -/

variable {R : σ → Option Fault → σ → Prop} {refl : ∀ s, R s none s}
  {trans : ∀ s t u fault, R s none t → R t fault u → R s fault u}

/-- A judgement from a relation between the state before, the fault and the state after. It must
allow doing nothing, and going on from where a success has led. -/
def ofRelation (R : σ → Option Fault → σ → Prop) (refl : ∀ s, R s none s)
    (trans : ∀ s t u fault, R s none t → R t fault u → R s fault u) : Judgement σ where
  Holds x s := Action.Ends (R s) (x.run s)
  done _ s := refl s
  seq {β γ x f s} hx hf := by
    rcases h : x.run s with ⟨b, t⟩ | ⟨fault, t⟩
    · rw [h] at hx
      have hb := hf b t h
      rw [Action.run_bind_of_ok h]
      rcases hc : (f b).run t with ⟨c, u⟩ | ⟨fault, u⟩
      · rw [hc] at hb
        exact trans s t u none hx hb
      · rw [hc] at hb
        exact trans s t u (some fault) hx hb
    · rw [h] at hx
      rw [Action.run_bind_of_error h]
      exact hx

theorem ofRelation_iff : (ofRelation R refl trans).Holds x s ↔ Action.Ends (R s) (x.run s) :=
  Iff.rfl

/-- An action that can be run as it stands. -/
theorem ofRelation_of_run {r : EStateM.Result Fault σ β} (h : x.run s = r)
    (hR : Action.Ends (R s) r) : (ofRelation R refl trans).Holds x s :=
  ofRelation_iff.2 (h ▸ hR)

/-! ### Actions that do not see a part of the state -/

/-- **Actions that do not see what a change of the state changes**: from the changed state they come
out as from the other one, and the change is found in what they leave. -/
def blindTo (f : σ → σ) : Judgement σ where
  Holds x s := x.run (f s) = Action.onState f (x.run s)
  done _ _ := rfl
  seq {β γ x g s} hx hg := by
    rcases h : x.run s with ⟨b, t⟩ | ⟨fault, t⟩
    · rw [h] at hx
      rw [Action.run_bind_of_ok h, Action.run_bind_of_ok hx]
      exact hg b t h
    · rw [h] at hx
      rw [Action.run_bind_of_error h, Action.run_bind_of_error hx]
      rfl

variable {f : σ → σ}

/-- Where the change can be seen in the way an action comes out, it is found there. -/
theorem blindTo_iff : (blindTo f).Holds x s ↔ x.run (f s) = Action.onState f (x.run s) :=
  Iff.rfl

/-- Going on with what is seen of the state, where that does not show the change. -/
theorem blindTo_get {k : σ → Action σ β} (hk : k (f s) = k s) (h : (blindTo f).Holds (k s) s) :
    (blindTo f).Holds (get >>= k) s := by
  rw [blindTo_iff, Action.run_bind_of_ok (EStateM.run_get s),
    Action.run_bind_of_ok (EStateM.run_get (f s)), hk]
  exact h

end Judgement

end Rewind
