import Mathlib.Tactic.Basic

namespace Procedure

open List

variable {ε ε' σ τ α β : Type}

/-- A call on mutable state that may stop early, read as its postconditions: `Q` when it returns,
`E` when it fails. What was written before a failure stays written. -/
def Holds (m : EStateM ε σ α) (s : σ) (Q : α → σ → Prop) (E : ε → σ → Prop) : Prop :=
  match m s with
  | .ok a s' => Q a s'
  | .error e s' => E e s'

/-- What holds of the state a call leaves behind, whether it returned or failed. -/
abbrev Ensures (m : EStateM ε σ α) (s : σ) (P : σ → Prop) : Prop := Holds m s (fun _ => P) (fun _ => P)

/-- The state a call leaves behind, whether it returned or failed. -/
def final (m : EStateM ε σ α) (s : σ) : σ :=
  match m s with
  | .ok _ s' => s'
  | .error _ s' => s'

/-- The answer of a call, without the state. -/
def answer (m : EStateM ε σ α) (s : σ) : Except ε α :=
  match m s with
  | .ok a _ => .ok a
  | .error e _ => .error e

/-- The `?` operator: a pure result, its error converted. -/
def lift (f : ε → ε') : Except ε α → EStateM ε' σ α
  | .ok a => fun s => .ok a s
  | .error e => fun s => .error (f e) s

/-- A call on one component of a larger state. -/
def zoom (get : τ → σ) (set : τ → σ → τ) (f : ε → ε') (m : EStateM ε σ α) : EStateM ε' τ α :=
  fun t =>
    match m (get t) with
    | .ok a s => .ok a (set t s)
    | .error e s => .error (f e) (set t s)

/-- A check that stops with `e` when its condition holds. -/
def reject (c : Prop) [Decidable c] (e : ε) : Except ε Unit :=
  if c then .error e else .ok ()

/-- The same check inside a call. -/
def refuse (c : Prop) [Decidable c] (e : ε) : EStateM ε σ Unit :=
  if c then throw e else pure ()

/-- A call whose failure is inspected by the caller instead of returned. -/
def attempt (m : EStateM ε σ α) : EStateM ε' σ (Except ε α) :=
  fun s =>
    match m s with
    | .ok a s' => .ok (.ok a) s'
    | .error e s' => .ok (.error e) s'

/-- Runs a call on each element in order, stopping at the first failure. -/
def each (f : α → EStateM ε σ β) : List α → EStateM ε σ (List β)
  | [] => pure []
  | x :: xs => do
    let y ← f x
    let ys ← each f xs
    pure (y :: ys)

variable {r : Except ε α} {e : ε} {c : Prop} {a : α} {s' : σ} {P : σ → Prop} {f : α → EStateM ε σ β}
  {R : β → σ → Prop} {xs : List α}

theorem get_apply {s : σ} : (EStateM.get : EStateM ε σ σ) s = .ok s s := rfl

theorem set_apply {s : σ} : (EStateM.set s' : EStateM ε σ PUnit) s = .ok ⟨⟩ s' := rfl

theorem throw_apply {s : σ} : (EStateM.throw e : EStateM ε σ α) s = .error e s := rfl

theorem bind_eq_ok {f : α → Except ε β} {b : β} (h : r >>= f = .ok b) : ∃ a, r = .ok a ∧ f a = .ok b := by
  cases r with
  | error e => simp [bind, Except.bind] at h
  | ok a => exact ⟨a, rfl, h⟩

/-- A chain fails where its first call does or where what follows does. -/
theorem bind_eq_error {f : α → Except ε β} (h : r >>= f = .error e) :
    r = .error e ∨ ∃ a, r = .ok a ∧ f a = .error e := by
  cases r with
  | error e' =>
    cases h
    exact .inl rfl
  | ok a => exact .inr ⟨a, rfl, h⟩

theorem map_eq_ok {f : α → β} {b : β} (h : r.map f = .ok b) : ∃ a, r = .ok a ∧ f a = b := by
  cases r with
  | error e => cases h
  | ok a =>
    cases h
    exact ⟨a, rfl, rfl⟩

theorem mapM_ok_mem {f : α → Except ε β} {l : List α} {bs : List β}
    (h : l.mapM f = .ok bs) : ∀ b ∈ bs, ∃ a ∈ l, f a = .ok b := by
  induction l generalizing bs with
  | nil =>
    rw [mapM_nil] at h
    cases h
    simp
  | cons a l ih =>
    rw [mapM_cons] at h
    obtain ⟨b, hb, h⟩ := bind_eq_ok h
    obtain ⟨bs', hbs, h⟩ := bind_eq_ok h
    cases h
    intro c hc
    rcases mem_cons.mp hc with rfl | hc
    · exact ⟨a, mem_cons_self, hb⟩
    obtain ⟨a', ha', hfa⟩ := ih hbs c hc
    exact ⟨a', mem_cons_of_mem _ ha', hfa⟩

theorem mapM_ok_image {f : α → Except ε β} {l : List α} {bs : List β}
    (h : l.mapM f = .ok bs) : ∀ a ∈ l, ∃ b ∈ bs, f a = .ok b := by
  induction l generalizing bs with
  | nil => exact fun _ hmem => (by cases hmem)
  | cons a l ih =>
    rw [mapM_cons] at h
    obtain ⟨b, hb, h⟩ := bind_eq_ok h
    obtain ⟨bs', hbs, h⟩ := bind_eq_ok h
    cases h
    intro c hc
    obtain hfirst | hlater := mem_cons.mp hc
    · subst hfirst
      exact ⟨b, mem_cons_self, hb⟩
    obtain ⟨b', hb', hfc⟩ := ih hbs c hlater
    exact ⟨b', mem_cons_of_mem _ hb', hfc⟩

theorem mapM_error {f : α → Except ε β} {l : List α}
    (h : l.mapM f = .error e) : ∃ a ∈ l, f a = .error e := by
  induction l with
  | nil =>
    rw [mapM_nil] at h
    cases h
  | cons a l ih =>
    rw [mapM_cons] at h
    cases ha : f a with
    | error e' =>
      rw [ha] at h
      cases h
      exact ⟨a, mem_cons_self, ha⟩
    | ok b =>
      rw [ha] at h
      cases hl : l.mapM f with
      | error e' =>
        rw [hl] at h
        cases h
        obtain ⟨a', ha', hfa⟩ := ih hl
        exact ⟨a', mem_cons_of_mem _ ha', hfa⟩
      | ok bs =>
        rw [hl] at h
        cases h

theorem reject_eq_ok [Decidable c] {u : Unit} (h : reject c e = .ok u) : ¬ c := by
  unfold reject at h
  split at h
  · cases h
  next hc => exact hc

theorem reject_of_not [Decidable c] (h : ¬ c) : reject c e = .ok () := if_neg h

variable {m : EStateM ε σ α} {s : σ} {Q Q' : α → σ → Prop} {E E' : ε → σ → Prop}

theorem holds_of_ok (hm : m s = .ok a s') : Holds m s Q E ↔ Q a s' := by
  simp only [Holds, hm]

theorem holds_of_error (hm : m s = .error e s') : Holds m s Q E ↔ E e s' := by
  simp only [Holds, hm]

theorem holds_mono (h : Holds m s Q E) (hq : ∀ a s', Q a s' → Q' a s')
    (he : ∀ e s', E e s' → E' e s') : Holds m s Q' E' := by
  unfold Holds at h ⊢
  split at h
  next a s' _ => exact hq a s' h
  next e s' _ => exact he e s' h

theorem holds_post (h : Holds m s Q E) (hq : ∀ a s', Q a s' → Q' a s') : Holds m s Q' E :=
  holds_mono h hq (fun _ _ he => he)

theorem holds_of_forall (h : ∀ a s', Q a s') : Holds m s Q (fun _ _ => True) := by
  unfold Holds
  split
  next a s' _ => exact h a s'
  · trivial

theorem holds_and (h : Holds m s Q E) (h' : Holds m s Q' E') :
    Holds m s (fun a s' => Q a s' ∧ Q' a s') (fun e s' => E e s' ∧ E' e s') := by
  unfold Holds at h h' ⊢
  cases hm : m s with
  | ok a s' | error e s' => simp only [hm] at h h'; exact ⟨h, h'⟩

theorem holds_ok (h : Holds m s Q E) (hm : m s = .ok a s') : Q a s' := by
  simpa only [Holds, hm] using h

theorem holds_error (h : Holds m s Q E) (hm : m s = .error e s') : E e s' := by
  simpa only [Holds, hm] using h

theorem holds_answer {P : α → Prop} (h : Holds m s (fun a _ => P a) E) (hm : answer m s = .ok a) : P a := by
  unfold answer at hm
  split at hm
  next b s' hb =>
    cases hm
    exact (holds_of_ok hb).mp h
  · cases hm

theorem exists_answer (h : (answer m s).isOk) : ∃ a, answer m s = .ok a := by
  cases hm : answer m s with
  | ok a => exact ⟨a, rfl⟩
  | error e =>
    rw [hm] at h
    cases h

theorem holds_final (h : Holds m s (fun _ s' => P s') (fun _ s' => P s')) : P (final m s) := by
  unfold Holds at h
  unfold final
  cases hm : m s with
  | ok a s' | error e s' => simpa only [hm] using h

/-- The state a call leaves is its final state. -/
theorem holds_at_final (h : Holds m s Q E) :
    Holds m s (fun a s' => Q a s' ∧ s' = final m s) (fun e s' => E e s' ∧ s' = final m s) := by
  unfold Holds at h ⊢
  unfold final
  cases hm : m s with
  | ok a s' | error e s' =>
    rw [hm] at h
    exact ⟨h, rfl⟩

theorem holds_of_answer (h : Holds m s Q E) (ha : answer m s = .ok a) : Q a (final m s) := by
  unfold Holds at h
  unfold answer at ha
  unfold final
  cases hm : m s with
  | ok b s' =>
    rw [hm] at h ha
    cases ha
    exact h
  | error e s' =>
    rw [hm] at ha
    cases ha

/-- A call that answers leaves its final state. -/
theorem eq_ok_of_answer (h : answer m s = .ok a) : m s = .ok a (final m s) := by
  unfold answer at h
  unfold final
  cases hm : m s with
  | ok b s' =>
    rw [hm] at h
    cases h
    rfl
  | error e s' =>
    rw [hm] at h
    cases h

theorem holds_any : Holds m s (fun _ _ => True) (fun _ _ => True) := by
  unfold Holds
  split <;> trivial

theorem holds_bind : Holds (m >>= f) s R E ↔ Holds m s (fun a s' => Holds (f a) s' R E) E := by
  simp only [Holds, bind, EStateM.bind]
  cases m s <;> rfl

theorem holds_bind_of_ok (hm : m s = .ok a s') : Holds (m >>= f) s R E ↔ Holds (f a) s' R E := by
  simp only [Holds, bind, EStateM.bind, hm]

theorem holds_bind_of_error (hm : m s = .error e s') : Holds (m >>= f) s R E ↔ E e s' := by
  simp only [Holds, bind, EStateM.bind, hm]

@[simp] theorem holds_pure : Holds (pure a : EStateM ε σ α) s Q E ↔ Q a s := Iff.rfl

@[simp] theorem holds_throw : Holds (throw e : EStateM ε σ α) s Q E ↔ E e s := Iff.rfl

@[simp] theorem holds_get {R : σ → σ → Prop} : Holds (get : EStateM ε σ σ) s R E ↔ R s s := Iff.rfl

@[simp] theorem holds_set {R : PUnit → σ → Prop} : Holds (set s' : EStateM ε σ PUnit) s R E ↔ R ⟨⟩ s' := Iff.rfl

@[simp] theorem holds_modify {g : σ → σ} {R : PUnit → σ → Prop} :
    Holds (modify g : EStateM ε σ PUnit) s R E ↔ R ⟨⟩ (g s) :=
  Iff.rfl

theorem holds_refuse [Decidable c] {R : Unit → σ → Prop} :
    Holds (refuse c e) s R E ↔ (c → E e s) ∧ (¬ c → R () s) := by
  by_cases hc : c <;> simp [refuse, hc]

theorem holds_lift {f : ε → ε'} {Q : α → σ → Prop} {E : ε' → σ → Prop} :
    Holds (lift f r) s Q E ↔ (∀ a, r = .ok a → Q a s) ∧ (∀ e, r = .error e → E (f e) s) := by
  cases r <;> simp [Holds, lift]

theorem holds_zoom {get : τ → σ} {set : τ → σ → τ} {f : ε → ε'} {t : τ} {Q : α → τ → Prop} {E : ε' → τ → Prop} :
    Holds (zoom get set f m) t Q E ↔
      Holds m (get t) (fun a s => Q a (set t s)) (fun e s => E (f e) (set t s)) := by
  simp only [Holds, zoom]
  cases m (get t) <;> rfl

theorem holds_attempt {Q : Except ε α → σ → Prop} {E : ε' → σ → Prop} :
    Holds (attempt m) s Q E ↔ Holds m s (fun a s' => Q (.ok a) s') (fun e s' => Q (.error e) s') := by
  simp only [Holds, attempt]
  cases m s <;> rfl

/-- The rules for the calls of a `do` block, to be used together. -/
theorem holds_do : type_of% @holds_bind ∧ type_of% @holds_pure ∧ type_of% @holds_throw ∧ type_of% @holds_get ∧
    type_of% @holds_set ∧ type_of% @holds_modify ∧ type_of% @holds_refuse ∧ type_of% @holds_lift ∧
    type_of% @holds_zoom ∧ type_of% @holds_attempt :=
  ⟨holds_bind, holds_pure, holds_throw, holds_get, holds_set, holds_modify, holds_refuse, holds_lift, holds_zoom,
    holds_attempt⟩

theorem holds_each_from (I : List α → List β → σ → Prop) (hstep : ∀ x rest done s, I (x :: rest) done s →
      Holds (f x) s (fun y s' => I rest (done ++ [y]) s') E) (done : List β) (h : I xs done s) :
    Holds (each f xs) s (fun ys s' => I [] (done ++ ys) s') E := by
  induction xs generalizing s done with
  | nil => simpa [each] using h
  | cons x xs ih =>
    simp only [each, holds_bind, holds_pure]
    refine holds_post (hstep x xs done s h) (fun y s' hy => ?_)
    refine holds_post (ih _ hy) (fun ys s'' hys => ?_)
    simpa using hys

/-- The loop rule: `I` speaks of the elements still to come and of the answers so far. -/
theorem holds_each (I : List α → List β → σ → Prop) (hstep : ∀ x rest done s, I (x :: rest) done s →
      Holds (f x) s (fun y s' => I rest (done ++ [y]) s') E) (h : I xs [] s)
    : Holds (each f xs) s (fun ys s' => I [] ys s') E :=
  holds_each_from I hstep [] h

theorem holds_each_cons {x : α} (h : Holds (f x) s (fun _ s' => Holds (each f xs) s' (fun _ s'' => P s'') E) E) :
    Holds (each f (x :: xs)) s (fun _ s' => P s') E := by
  have hcons : each f (x :: xs) = (do let y ← f x; let ys ← each f xs; pure (y :: ys)) := rfl
  rw [hcons, holds_bind]
  apply holds_post h
  intro y s' hrest
  rw [holds_bind]
  exact holds_post hrest fun _ _ hlast => hlast

/-- Calls on a list in two parts are the calls on the first part and then those on the second. -/
theorem holds_each_append (xs ys : List α)
    (h : Holds (each f xs) s (fun _ s' => Holds (each f ys) s' (fun _ s'' => P s'') E) E) :
    Holds (each f (xs ++ ys)) s (fun _ s' => P s') E := by
  induction xs generalizing s with
  | nil => exact h
  | cons x xs ih =>
    have hcons : each f (x :: xs) = (do let y ← f x; let ys ← each f xs; pure (y :: ys)) := rfl
    rw [hcons, holds_bind] at h
    rw [cons_append]
    apply holds_each_cons
    apply holds_post h
    intro y s' hrest
    rw [holds_bind] at hrest
    exact ih (holds_post hrest fun _ _ hlast => hlast)

end Procedure
