import HyperfluxNext.Library.Procedure

namespace Procedure

variable {ε ε' ε'' σ α β γ δ : Type}

/-- Two calls on one state that leave the same state: both return, with answers in `R`, or both
fail. The errors of the two sides are their own. -/
def Lockstep (m : EStateM ε σ α) (n : EStateM ε' σ β) (s : σ) (R : α → β → σ → Prop) : Prop :=
  match m s, n s with
  | .ok a t, .ok b t' => t = t' ∧ R a b t
  | .error _ t, .error _ t' => t = t'
  | _, _ => False

variable {m : EStateM ε σ α} {n : EStateM ε' σ β} {s : σ} {R : α → β → σ → Prop}

/-- A first step of the left side alone that only reads. -/
theorem lockstep_left {f : α → EStateM ε σ γ} {n : EStateM ε' σ δ} {R : γ → δ → σ → Prop} {a : α}
    (hm : m s = .ok a s) (h : Lockstep (f a) n s R) : Lockstep (m >>= f) n s R := by
  unfold Lockstep at h ⊢
  show match (EStateM.bind m f) s, n s with
    | .ok a t, .ok b t' => t = t' ∧ R a b t
    | .error _ t, .error _ t' => t = t'
    | _, _ => False
  unfold EStateM.bind
  rw [hm]
  exact h

/-- A first step of the right side alone that only reads. -/
theorem lockstep_right {m : EStateM ε σ γ} {g : β → EStateM ε' σ δ} {R : γ → δ → σ → Prop} {b : β}
    (hn : n s = .ok b s) (h : Lockstep m (g b) s R) : Lockstep m (n >>= g) s R := by
  unfold Lockstep at h ⊢
  show match m s, (EStateM.bind n g) s with
    | .ok a t, .ok b t' => t = t' ∧ R a b t
    | .error _ t, .error _ t' => t = t'
    | _, _ => False
  unfold EStateM.bind
  rw [hn]
  exact h

theorem lockstep_pure {a : α} {b : β} (h : R a b s) :
    Lockstep (pure a : EStateM ε σ α) (pure b : EStateM ε' σ β) s R :=
  ⟨rfl, h⟩

theorem lockstep_throw {e : ε} {e' : ε'} : Lockstep (throw e : EStateM ε σ α) (throw e' : EStateM ε' σ β) s R :=
  rfl

theorem lockstep_bind {f : α → EStateM ε σ γ} {g : β → EStateM ε' σ δ} {S : γ → δ → σ → Prop}
    (h : Lockstep m n s R) (hnext : ∀ a b t, R a b t → Lockstep (f a) (g b) t S) :
    Lockstep (m >>= f) (n >>= g) s S := by
  unfold Lockstep at h ⊢
  show match (EStateM.bind m f) s, (EStateM.bind n g) s with
    | .ok a t, .ok b t' => t = t' ∧ S a b t
    | .error _ t, .error _ t' => t = t'
    | _, _ => False
  unfold EStateM.bind
  cases hm : m s with
  | ok a t =>
    cases hn : n s with
    | ok b t' =>
      rw [hm, hn] at h
      obtain ⟨rfl, hr⟩ := h
      exact hnext a b t hr
    | error e t' =>
      rw [hm, hn] at h
      exact h.elim
  | error e t =>
    cases hn : n s with
    | ok b t' =>
      rw [hm, hn] at h
      exact h.elim
    | error e t' =>
      rw [hm, hn] at h
      exact h

theorem lockstep_set {t : σ} {R : PUnit → PUnit → σ → Prop} (h : R ⟨⟩ ⟨⟩ t) :
    Lockstep (set t : EStateM ε σ PUnit) (set t : EStateM ε' σ PUnit) s R :=
  ⟨rfl, h⟩

/-- A check on each side, passed under the same condition. -/
theorem lockstep_check {c : Prop} [Decidable c] {e : ε} {f : ε'' → ε'} {r : Except ε'' Unit}
    {R : Unit → Unit → σ → Prop} (hsame : r = .ok () ↔ ¬ c) (h : r = .ok () → R () () s) :
    Lockstep (refuse c e : EStateM ε σ Unit) (lift f r : EStateM ε' σ Unit) s R := by
  by_cases hc : c
  · cases r with
    | ok u => exact absurd hc (hsame.mp rfl)
    | error error =>
      unfold refuse
      rw [if_pos hc]
      rfl
  have hr := hsame.mpr hc
  unfold refuse
  rw [if_neg hc, hr]
  exact ⟨rfl, h hr⟩

theorem lockstep_refuse {c d : Prop} [Decidable c] [Decidable d] {e : ε} {e' : ε'}
    {R : Unit → Unit → σ → Prop} (hsame : c ↔ d) (h : ¬ c → R () () s) :
    Lockstep (refuse c e) (refuse d e') s R := by
  by_cases hc : c
  · unfold refuse
    rw [if_pos hc, if_pos (hsame.mp hc)]
    exact lockstep_throw
  have hd : ¬ d := by
    intro hd
    exact hc (hsame.mpr hd)
  unfold refuse
  rw [if_neg hc, if_neg hd]
  exact lockstep_pure (h hc)

end Procedure
