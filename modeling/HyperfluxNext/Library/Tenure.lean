import Mathlib.Data.List.Basic

/-! One thing that is held by turns: it is granted, used and returned before it is asked for again. -/

namespace Tenure

variable {α : Type}

inductive Event (α : Type) where
  | granted (a : α)
  | refused
  | used (a : α)
  | returned (a : α)
  | other

namespace Event

def next (held : Option α) : Event α → Option α
  | .granted a => some a
  | .returned _ => none
  | _ => held

def Allowed (held : Option α) : Event α → Prop
  | .granted _ => held = none
  | .refused => held = none
  | .used a => held = some a
  | .returned a => held = some a
  | .other => True

def isRequest : Event α → Bool
  | .granted _ => true
  | .refused => true
  | _ => false

def return? : Event α → Option α
  | .returned a => some a
  | _ => none

end Event

/-- Who holds after the events, the oldest first. -/
def holder (events : List (Event α)) : Option α := events.foldl Event.next none

def returns (events : List (Event α)) : List α := events.filterMap Event.return?

def untilRequest (events : List (Event α)) : List (Event α) := events.takeWhile fun event => ! event.isRequest

def Disciplined (events : List (Event α)) : Prop :=
  ∀ earlier event later, events = earlier ++ event :: later → event.Allowed (holder earlier)

@[simp] theorem holder_concat (events : List (Event α)) (event : Event α) :
    holder (events ++ [event]) = event.next (holder events) := by
  simp [holder]

theorem disciplined_nil : Disciplined ([] : List (Event α)) := by
  intro earlier event later h
  simp at h

theorem disciplined_concat {events : List (Event α)} {event : Event α} (h : Disciplined events)
    (hevent : event.Allowed (holder events)) : Disciplined (events ++ [event]) := by
  intro earlier single later hsplit
  rcases List.eq_nil_or_concat later with hnil | ⟨front, last, hlater⟩
  · subst hnil
    obtain ⟨hearlier, hsingle⟩ := List.append_inj' hsplit rfl
    cases hsingle
    rw [← hearlier]
    exact hevent
  rw [hlater, List.concat_eq_append, ← List.cons_append, ← List.append_assoc] at hsplit
  obtain ⟨hfront, _⟩ := List.append_inj' hsplit rfl
  exact h earlier single front hfront

/-- While nobody holds, nothing is returned before the next request. -/
theorem returns_untilRequest_of_free {later : List (Event α)} :
    ∀ {earlier : List (Event α)}, Disciplined (earlier ++ later) → holder earlier = none →
      returns (untilRequest later) = [] := by
  induction later with
  | nil =>
    intro earlier _ _
    rfl
  | cons event later ih =>
    intro earlier h hfree
    have hallowed := h earlier event later rfl
    have hrest : Disciplined ((earlier ++ [event]) ++ later) := by
      simpa using h
    cases event with
    | granted a | refused => rfl
    | used a | returned a =>
      have : holder earlier = some a := hallowed
      rw [hfree] at this
      cases this
    | other =>
      have := ih hrest (by rw [holder_concat]; exact hfree)
      simpa [untilRequest, returns, Event.isRequest, Event.return?] using this

theorem returns_untilRequest_of_held {later : List (Event α)} {a : α} :
    ∀ {earlier : List (Event α)}, Disciplined (earlier ++ later) → holder earlier = some a →
      returns (untilRequest later) = [a] ∨
        untilRequest later = later ∧ returns later = [] ∧ holder (earlier ++ later) = some a := by
  induction later with
  | nil =>
    intro earlier _ hheld
    right
    exact ⟨rfl, rfl, by rw [List.append_nil]; exact hheld⟩
  | cons event later ih =>
    intro earlier h hheld
    have hallowed := h earlier event later rfl
    have hassoc : (earlier ++ [event]) ++ later = earlier ++ event :: later := by simp
    have hrest : Disciplined ((earlier ++ [event]) ++ later) := by
      rw [hassoc]
      exact h
    have hkeep : event.next (holder earlier) = some a → event.isRequest = false → event.return? = none →
        returns (untilRequest (event :: later)) = [a] ∨
          untilRequest (event :: later) = event :: later ∧ returns (event :: later) = [] ∧
            holder (earlier ++ event :: later) = some a := by
      intro hnext hrequest hreturn
      have := ih hrest (by rw [holder_concat]; exact hnext)
      rw [hassoc] at this
      simpa [untilRequest, returns, hrequest, hreturn] using this
    cases event with
    | granted b | refused =>
      have : holder earlier = none := hallowed
      rw [hheld] at this
      cases this
    | used b | other => exact hkeep hheld rfl rfl
    | returned b =>
      have hsame : holder earlier = some b := hallowed
      rw [hheld] at hsame
      cases hsame
      have := returns_untilRequest_of_free hrest (by rw [holder_concat]; rfl)
      left
      simpa [untilRequest, returns, Event.isRequest, Event.return?] using this

theorem Disciplined.returned_once {earlier later : List (Event α)} {a : α}
    (h : Disciplined (earlier ++ .granted a :: later)) :
    returns (untilRequest later) = [a] ∨
      untilRequest later = later ∧ returns later = [] ∧ holder (earlier ++ .granted a :: later) = some a := by
  have hassoc : (earlier ++ [.granted a]) ++ later = earlier ++ .granted a :: later := by simp
  have := returns_untilRequest_of_held (hassoc ▸ h) (by rw [holder_concat]; rfl)
  rw [hassoc] at this
  exact this

end Tenure
