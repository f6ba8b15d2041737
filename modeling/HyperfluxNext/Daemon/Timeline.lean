import HyperfluxNext.Daemon.CallSteps

namespace HyperfluxNext

open Procedure

namespace RestorationScheduler

/-- Every return attempt that is scheduled afterwards was scheduled before, with the same due time. -/
def KeepsAttempts (s s' : RestorationScheduler) : Prop :=
  ∀ (id : RestoreTriggerId) (scheduled : ScheduledTrigger), s'.triggers[id]? = some scheduled →
    scheduled.purpose ≠ .primary → s.triggers[id]? = some scheduled

theorem KeepsAttempts.refl (s : RestorationScheduler) : KeepsAttempts s s := fun _ _ h _ => h

instance : Std.Refl KeepsAttempts := ⟨KeepsAttempts.refl⟩

instance : IsTrans RestorationScheduler KeepsAttempts :=
  ⟨fun _ _ _ h h' id scheduled hs hp => h id scheduled (h' id scheduled hs hp) hp⟩

variable {s s' : RestorationScheduler} {α β : Type} {keep : RestoreTriggerId → ScheduledTrigger → Bool}
  {id : RestoreTriggerId} {scheduled : ScheduledTrigger} (triggerId : RestoreTriggerId)
  (receiverId : ReceiverId) (now : MonotonicMs)

theorem KeepsAttempts.of_eq (h : s'.triggers = s.triggers) : KeepsAttempts s s' := by
  intro id scheduled hs _
  rw [← h]
  exact hs

theorem getElem?_of_filter {triggers : Std.TreeMap RestoreTriggerId ScheduledTrigger}
    (h : (triggers.filter keep)[id]? = some scheduled) :
    triggers[id]? = some scheduled := by
  rw [Std.TreeMap.getElem?_filter'] at h
  exact (Option.filter_eq_some_iff.mp h).1

theorem KeepsAttempts.filter (h : s'.triggers = s.triggers.filter keep) : KeepsAttempts s s' := by
  intro id scheduled hs _
  rw [h] at hs
  exact getElem?_of_filter hs

theorem KeepsAttempts.insert_primary (hprimary : scheduled.purpose = .primary)
    (h : s'.triggers = s.triggers.insert id scheduled) : KeepsAttempts s s' := by
  intro other found hfound hattempt
  rw [h, Std.TreeMap.getElem?_insert] at hfound
  split at hfound
  · cases hfound
    exact absurd hprimary hattempt
  · exact hfound

theorem retime_triggers (generationId : GenerationId) (deviceId : Option LogicalDeviceId)
    (due : MonotonicMs → MonotonicMs) (s : RestorationScheduler) :
    (retime receiverId generationId deviceId due s).2.triggers = s.triggers :=
  rfl

theorem KeepsAttempts.erase (h : s'.triggers = s.triggers.erase id) : KeepsAttempts s s' := by
  intro other found hfound _
  rw [h, Std.TreeMap.getElem?_erase] at hfound
  split at hfound
  · cases hfound
  · exact hfound

theorem keepsAttempts_claimStable : ClaimStable KeepsAttempts where
  erase _ _ := KeepsAttempts.of_eq rfl
  insert _ _ _ _ := KeepsAttempts.of_eq rfl
  filter _ _ := KeepsAttempts.of_eq rfl

theorem keepsAttempts_triggerStable : TriggerStable id scheduled KeepsAttempts where
  toClaimStable := keepsAttempts_claimStable
  retry _ due hprimary :=
    KeepsAttempts.insert_primary (show ({ scheduled with due := due } : ScheduledTrigger).purpose = .primary
      from hprimary) rfl
  consume _ _ := KeepsAttempts.filter rfl
  configure _ _ := KeepsAttempts.of_eq rfl

theorem keepsAttempts_callStable : CallStable KeepsAttempts where
  retime _ _ _ _ _ := KeepsAttempts.of_eq rfl
  filter _ _ := KeepsAttempts.filter rfl
  erase _ _ := KeepsAttempts.erase rfl
  insert _ _ _ _ hprimary := KeepsAttempts.insert_primary hprimary rfl

theorem tickAt_keeping (trigger : TriggerAnswers) (claims : List ClaimAnswers) :
    Steps KeepsAttempts (tickAt now trigger claims) := by
  apply tickAt_through
  · apply processDueTrigger_through fun _ _ => KeepsAttempts
    · intro _ _
      exact keepsAttempts_triggerStable
    intro s id _ last _ hlast
    have htaken : KeepsAttempts s { s with triggers := s.triggers.erase id } := KeepsAttempts.erase rfl
    exact IsTrans.trans _ _ _ htaken hlast
  intro claims
  exact processDueClaims_steps keepsAttempts_claimStable now claims

section Triggers

variable [TriggerDigests] (generationId : GenerationId)

theorem scheduleReceiverGeneration_keeping :
    Steps KeepsAttempts (scheduleReceiverGeneration receiverId generationId) :=
  steps_bind (steps_modify fun _ => KeepsAttempts.filter rfl)
    fun _ => scheduleBroad_steps _ _ _ keepsAttempts_callStable _

omit [TriggerDigests] in
theorem scheduleSystemSuspend_keeping : Steps KeepsAttempts (scheduleSystemSuspend receiverId generationId) :=
  steps_modify fun _ => KeepsAttempts.filter rfl

end Triggers

end RestorationScheduler

end HyperfluxNext
