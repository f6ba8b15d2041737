import HyperfluxNext.Library.Procedure
import Mathlib.Order.Defs.Unbundled

/-! Calls whose states before and after stand in a relation, whether they return or fail. -/

namespace Procedure

variable {ε ε' σ α β : Type} {R : σ → σ → Prop}

def Steps (R : σ → σ → Prop) (m : EStateM ε σ α) : Prop :=
  ∀ s, Holds m s (fun _ s' => R s s') (fun _ s' => R s s')

theorem Steps.final {m : EStateM ε σ α} (h : Steps R m) (s : σ) : R s (final m s) := holds_final (h s)

theorem steps_modify {f : σ → σ} (h : ∀ s, R s (f s)) : Steps R (modify f : EStateM ε σ PUnit) := by
  intro s
  rw [holds_modify]
  exact h s

/-- Reading the state first: what follows may depend on it. -/
theorem steps_get {f : σ → EStateM ε σ α}
    (h : ∀ s, Holds (f s) s (fun _ s' => R s s') (fun _ s' => R s s')) : Steps R (get >>= f) := by
  intro s
  rw [holds_bind]
  exact h s

theorem steps_read {f : σ → EStateM ε σ α} (h : ∀ s, Steps R (f s)) : Steps R (get >>= f) :=
  steps_get fun s => h s s

section Reflexive

variable [Std.Refl R]

theorem steps_pure (a : α) : Steps R (pure a : EStateM ε σ α) := fun s => Std.Refl.refl s

theorem steps_throw (error : ε) : Steps R (throw error : EStateM ε σ α) := fun s => Std.Refl.refl s

theorem steps_lift (f : ε → ε') (r : Except ε α) : Steps R (lift f r : EStateM ε' σ α) := by
  intro s
  rw [holds_lift]
  exact ⟨fun _ _ => Std.Refl.refl s, fun _ _ => Std.Refl.refl s⟩

theorem steps_refuse (c : Prop) [Decidable c] (error : ε) : Steps R (refuse c error : EStateM ε σ Unit) := by
  intro s
  rw [holds_refuse]
  exact ⟨fun _ => Std.Refl.refl s, fun _ => Std.Refl.refl s⟩

end Reflexive

theorem steps_bind [IsTrans σ R] {m : EStateM ε σ α} {f : α → EStateM ε σ β} (hm : Steps R m)
    (hf : ∀ a, Steps R (f a)) : Steps R (m >>= f) := by
  intro s
  rw [holds_bind]
  apply holds_post (hm s)
  intro a middle hfirst
  apply holds_mono (hf a middle)
  · intro b last hlast
    exact IsTrans.trans _ _ _ hfirst hlast
  intro error last hlast
  exact IsTrans.trans _ _ _ hfirst hlast

theorem Steps.mono {R' : σ → σ → Prop} {m : EStateM ε σ α} (hm : Steps R m) (h : ∀ s s', R s s' → R' s s') :
    Steps R' m := by
  intro s
  exact holds_mono (hm s) (fun _ last hlast => h s last hlast) (fun _ last hlast => h s last hlast)

/-- The call after an earlier step. -/
theorem Steps.after [IsTrans σ R] {m : EStateM ε σ α} {s middle : σ} (hm : Steps R m) (h : R s middle) :
    Holds m middle (fun _ s' => R s s') (fun _ s' => R s s') := by
  apply holds_mono (hm middle)
  · intro _ last hlast
    exact IsTrans.trans _ _ _ h hlast
  intro _ last hlast
  exact IsTrans.trans _ _ _ h hlast

/-- Writing the state first. -/
theorem steps_set [IsTrans σ R] {m : EStateM ε σ α} {s middle : σ} (h : R s middle) (hm : Steps R m) :
    Holds (do set middle; m) s (fun _ s' => R s s') (fun _ s' => R s s') := by
  rw [holds_bind, holds_set]
  exact hm.after h

theorem steps_attempt {m : EStateM ε σ α} (h : Steps R m) : Steps R (attempt m : EStateM ε' σ (Except ε α)) := by
  intro s
  rw [holds_attempt]
  exact h s

theorem steps_each [Std.Refl R] [IsTrans σ R] {f : α → EStateM ε σ β} (h : ∀ a, Steps R (f a))
    (xs : List α) : Steps R (each f xs) := by
  induction xs with
  | nil => exact steps_pure []
  | cons x xs ih =>
    apply steps_bind (h x)
    intro y
    apply steps_bind ih
    intro ys
    exact steps_pure (y :: ys)

/-- The relation for calls that are only made where `I` holds. -/
def Under (I : σ → Prop) (R : σ → σ → Prop) (s s' : σ) : Prop := I s → R s s'

variable {I : σ → Prop} {m : EStateM ε σ α}

theorem steps_under (h : ∀ s, I s → Holds m s (fun _ s' => R s s') (fun _ s' => R s s')) : Steps (Under I R) m := by
  intro s
  unfold Holds
  split
  next hm => exact fun hs => (holds_of_ok hm).mp (h s hs)
  next hm => exact fun hs => (holds_of_error hm).mp (h s hs)

theorem Steps.under (h : Steps (Under I R) m) {s : σ} (hs : I s) :
    Holds m s (fun _ s' => R s s') (fun _ s' => R s s') :=
  holds_mono (h s) (fun _ _ hstep => hstep hs) (fun _ _ hstep => hstep hs)

end Procedure
