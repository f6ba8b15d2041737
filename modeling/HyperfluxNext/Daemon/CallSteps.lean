import HyperfluxNext.Daemon.TickSteps

namespace HyperfluxNext

open Procedure

namespace RestorationScheduler

/-- A relation that every change a trigger call makes to the schedule stands in. -/
structure CallStable (R : RestorationScheduler → RestorationScheduler → Prop) : Prop where
  retime : ∀ (receiverId : ReceiverId) (generationId : GenerationId) (deviceId : Option LogicalDeviceId)
    (due : MonotonicMs → MonotonicMs) (s : RestorationScheduler), R s (retime receiverId generationId deviceId due s).2
  filter : ∀ (s : RestorationScheduler) (keep : RestoreTriggerId → ScheduledTrigger → Bool),
    R s { s with triggers := s.triggers.filter keep }
  erase : ∀ (s : RestorationScheduler) (triggerId : RestoreTriggerId),
    R s { s with triggers := s.triggers.erase triggerId }
  insert : ∀ (s : RestorationScheduler) (triggerId : RestoreTriggerId) (scheduled : ScheduledTrigger),
    s.triggers.size < s.maxTriggers → scheduled.purpose = .primary →
      R s { s with triggers := s.triggers.insert triggerId scheduled }

/-- The claims that a broad trigger wakes, as `scheduleBroad` counts them. -/
def awaken (kind : RestoreTriggerKind) (receiverId : ReceiverId) (generationId : GenerationId)
    (s : RestorationScheduler) : Nat × RestorationScheduler :=
  if readinessGatedTrigger kind then
    wakeReadyDevices receiverId generationId (park receiverId generationId none s).2
  else wake receiverId generationId none immediateDue s

/-- The schedule after the wake, right before a broad trigger is absorbed or enqueued. -/
def awakened (kind : RestoreTriggerKind) (receiverId : ReceiverId) (generationId : GenerationId)
    (s : RestorationScheduler) : RestorationScheduler :=
  dropPrimaryReturns receiverId generationId (awaken kind receiverId generationId s).2

variable {R : RestorationScheduler → RestorationScheduler → Prop} [Std.Refl R]
  [IsTrans RestorationScheduler R] (kind : RestoreTriggerKind) (receiverId : ReceiverId)
  (generationId : GenerationId)

section

variable (h : ∀ deviceId due s, R s (retime receiverId generationId deviceId due s).2)
include h

theorem wakeReadyDevices_steps (s : RestorationScheduler) :
    R s (wakeReadyDevices receiverId generationId s).2 := by
  unfold wakeReadyDevices
  have hfold : ∀ (devices : List (DeviceKey × MonotonicMs)) (answer : Nat × RestorationScheduler),
      R answer.2 (devices.foldl (fun answer entry =>
        let woken := wake receiverId generationId (some entry.1.deviceId) entry.2 answer.2
        (answer.1 + woken.1, woken.2)) answer).2 := by
    intro devices
    induction devices with
    | nil =>
      intro answer
      exact Std.Refl.refl answer.2
    | cons entry devices ih =>
      intro answer
      have hwoken : R answer.2 (wake receiverId generationId (some entry.1.deviceId) entry.2 answer.2).2 :=
        h _ _ answer.2
      rw [List.foldl_cons]
      exact IsTrans.trans _ _ _ hwoken (ih (answer.1 +
        (wake receiverId generationId (some entry.1.deviceId) entry.2 answer.2).1, _))
  exact hfold _ (0, s)

theorem awaken_steps (s : RestorationScheduler) : R s (awaken kind receiverId generationId s).2 := by
  unfold awaken
  split
  · have hparked : R s (park receiverId generationId none s).2 := h none _ s
    exact IsTrans.trans _ _ _ hparked (wakeReadyDevices_steps receiverId generationId h _)
  · exact h none _ s

end

theorem awakened_steps (h : CallStable R) (s : RestorationScheduler) :
    R s (awakened kind receiverId generationId s) :=
  IsTrans.trans _ _ _ (awaken_steps kind receiverId generationId (h.retime receiverId generationId) s)
    (h.filter _ _)

variable [TriggerDigests]

section Enqueueing

variable {s : RestorationScheduler} {Q : PUnit → RestorationScheduler → Prop}
  {E : RestorationScheduleError → RestorationScheduler → Prop} {kind : RestoreTriggerKind}
  {receiverId : ReceiverId} {generationId : GenerationId} {sequence : Option SequenceNumber}

/-- A broad trigger is absorbed when it woke a claim or found another one pending. -/
theorem holds_scheduleBroad (hdisabled : s.enabled = false → Q ⟨⟩ s)
    (habsorbed : s.enabled = true →
      0 < (awaken kind receiverId generationId s).1 ∨
        (awakened kind receiverId generationId s).hasPendingBroadTrigger receiverId generationId = true →
      Q ⟨⟩ (awakened kind receiverId generationId s))
    (henqueued : s.enabled = true → (awaken kind receiverId generationId s).1 = 0 →
      (awakened kind receiverId generationId s).hasPendingBroadTrigger receiverId generationId = false →
      Holds (insertTrigger kind receiverId generationId none sequence immediateDue .primary)
        (awakened kind receiverId generationId s) Q E) :
    Holds (scheduleBroad kind receiverId generationId sequence) s Q E := by
  unfold scheduleBroad
  rw [holds_bind, holds_get]
  split
  next hoff => exact hdisabled hoff
  next hon =>
    have henabled : s.enabled = true := eq_true_of_ne_false hon
    change Holds (do
      set (awakened kind receiverId generationId s)
      if (awaken kind receiverId generationId s).1 > 0 ∨
          (awakened kind receiverId generationId s).hasPendingBroadTrigger receiverId generationId then
        pure ()
      else
        insertTrigger kind receiverId generationId none sequence immediateDue .primary) s Q E
    rw [holds_bind, holds_set]
    split
    next habsorb => exact habsorbed henabled habsorb
    next hfree =>
      rw [not_or] at hfree
      obtain ⟨hnone, hpending⟩ := hfree
      exact henqueued henabled (Nat.eq_zero_of_not_pos hnone) (Bool.eq_false_iff.mpr hpending)

end Enqueueing

section

variable (h : CallStable R) (targetDeviceId : Option LogicalDeviceId) (sequence : Option SequenceNumber)
  (due : MonotonicMs)
include h

omit [IsTrans RestorationScheduler R] in
theorem insertTrigger_steps :
    Steps R (insertTrigger kind receiverId generationId targetDeviceId sequence due .primary) := by
  unfold insertTrigger
  apply steps_get
  intro s
  rw [holds_bind, holds_lift]
  constructor
  · intro triggerId _
    split
    · exact Std.Refl.refl s
    rw [holds_bind, holds_refuse]
    constructor
    · intro _
      exact Std.Refl.refl s
    intro hroom
    exact h.insert s triggerId _ (Nat.not_le.mp hroom) rfl
  intro _ _
  exact Std.Refl.refl s

theorem scheduleBroad_steps : Steps R (scheduleBroad kind receiverId generationId sequence) := by
  intro s
  have hawakened := awakened_steps kind receiverId generationId h s
  apply holds_scheduleBroad
  · intro _
    exact Std.Refl.refl s
  · intro _ _
    exact hawakened
  intro _ _ _
  exact (insertTrigger_steps kind receiverId generationId h none sequence immediateDue).after hawakened

theorem schedulePrimaryReturn_steps :
    Steps R (schedulePrimaryReturn receiverId generationId targetDeviceId sequence due) := by
  unfold schedulePrimaryReturn
  apply steps_get
  intro s
  split
  · exact Std.Refl.refl s
  have hwoken : R s (wake receiverId generationId targetDeviceId due s).2 := h.retime _ _ _ _ s
  have hinsert := insertTrigger_steps .deviceReturn receiverId generationId h targetDeviceId sequence due
  simp only [holds_do]
  split
  · exact hwoken
  split
  · exact hinsert.after hwoken
  split
  · exact hwoken
  rw [holds_bind, holds_set]
  exact hinsert.after (IsTrans.trans _ _ _ hwoken (h.erase _ _))

end

end RestorationScheduler

end HyperfluxNext
