import HyperfluxNext.Daemon.ScheduleBounds

namespace HyperfluxNext

open Procedure

namespace RestorationScheduler

/-- Every trigger of the later table was in the earlier one, possibly with another due time. -/
def Thinned (s s' : RestorationScheduler) : Prop :=
  ∀ (id : RestoreTriggerId) (scheduled : ScheduledTrigger), s'.triggers[id]? = some scheduled →
    ∃ old, s.triggers[id]? = some old ∧ scheduled = { old with due := scheduled.due }

theorem Thinned.refl (s : RestorationScheduler) : Thinned s s := fun _ scheduled h => ⟨scheduled, h, rfl⟩

variable {s s' : RestorationScheduler}

theorem Thinned.trans {s'' : RestorationScheduler} (h : Thinned s s') (h' : Thinned s' s'') :
    Thinned s s'' := by
  intro id scheduled hstored
  obtain ⟨middle, hmiddle, hlater⟩ := h' id scheduled hstored
  obtain ⟨old, hold, hearlier⟩ := h id middle hmiddle
  refine ⟨old, hold, ?_⟩
  rw [hlater, hearlier]

instance : Std.Refl Thinned := ⟨Thinned.refl⟩

instance : IsTrans RestorationScheduler Thinned := ⟨fun _ _ _ => Thinned.trans⟩

theorem Thinned.of_eq (h : s'.triggers = s.triggers) : Thinned s s' := by
  intro id scheduled hstored
  rw [h] at hstored
  exact ⟨scheduled, hstored, rfl⟩

theorem Thinned.of_filter {keep : RestoreTriggerId → ScheduledTrigger → Bool}
    (h : s'.triggers = s.triggers.filter keep) :
    Thinned s s' := by
  intro id scheduled hstored
  rw [h] at hstored
  exact ⟨scheduled, getElem?_of_filter hstored, rfl⟩

theorem Thinned.of_erase {triggerId : RestoreTriggerId} (h : s'.triggers = s.triggers.erase triggerId)
    : Thinned s s' := by
  intro id scheduled hstored
  rw [h, OrderedMaps.getElem?_erase_of] at hstored
  split at hstored
  · cases hstored
  · exact ⟨scheduled, hstored, rfl⟩

section Ticks

/-- As `Thinned`, while one trigger is out of the table and may come back. -/
def ThinnedAround (triggerId : RestoreTriggerId) (taken : ScheduledTrigger) (s s' : RestorationScheduler) : Prop :=
  ∀ (id : RestoreTriggerId) (scheduled : ScheduledTrigger), s'.triggers[id]? = some scheduled →
    (∃ old, s.triggers[id]? = some old ∧ scheduled = { old with due := scheduled.due }) ∨
      id = triggerId ∧ scheduled = { taken with due := scheduled.due }

variable {triggerId : RestoreTriggerId} {taken : ScheduledTrigger}

theorem Thinned.around (h : Thinned s s') : ThinnedAround triggerId taken s s' :=
  fun id scheduled hstored => .inl (h id scheduled hstored)

instance : Std.Refl (ThinnedAround triggerId taken) := ⟨fun s => (Thinned.refl s).around⟩

instance : IsTrans RestorationScheduler (ThinnedAround triggerId taken) where
  trans s s' s'' h h' := by
    intro id scheduled hstored
    obtain ⟨middle, hmiddle, hlater⟩ | hback := h' id scheduled hstored
    · obtain ⟨old, hold, hearlier⟩ | ⟨hid, hback⟩ := h id middle hmiddle
      · left
        refine ⟨old, hold, ?_⟩
        rw [hlater, hearlier]
      right
      refine ⟨hid, ?_⟩
      rw [hlater, hback]
    · exact .inr hback

theorem thinned_claimStable : ClaimStable Thinned where
  erase _ _ := Thinned.of_eq rfl
  insert _ _ _ _ := Thinned.of_eq rfl
  filter _ _ := Thinned.of_eq rfl

theorem thinnedAround_triggerStable : TriggerStable triggerId taken (ThinnedAround triggerId taken) where
  erase _ _ := (Thinned.of_eq rfl).around
  insert _ _ _ _ := (Thinned.of_eq rfl).around
  filter _ _ := (Thinned.of_eq rfl).around
  retry s due _ := by
    intro id scheduled hstored
    have hinserted : (s.triggers.insert triggerId { taken with due := due })[id]? = some scheduled := hstored
    rw [OrderedMaps.getElem?_insert_of] at hinserted
    split at hinserted
    next hid =>
      cases hinserted
      exact .inr ⟨hid, rfl⟩
    · exact .inl ⟨scheduled, hinserted, rfl⟩
  consume _ _ := (Thinned.of_filter rfl).around
  configure _ _ := (Thinned.of_eq rfl).around

theorem processDueTrigger_thinned (answers : TriggerAnswers) (now : MonotonicMs) :
    Steps Thinned (processDueTrigger answers now) := by
  apply processDueTrigger_through ThinnedAround
  · intro _ _
    exact thinnedAround_triggerStable
  intro s triggerId taken last hstored h id scheduled hlast
  obtain ⟨old, hold, hsame⟩ | ⟨hid, hsame⟩ := h id scheduled hlast
  · have hearlier : Thinned s { s with triggers := s.triggers.erase triggerId } := Thinned.of_erase rfl
    obtain ⟨first, hfirst, hfirstSame⟩ := hearlier id old hold
    refine ⟨first, hfirst, ?_⟩
    rw [hsame, hfirstSame]
  · exact ⟨taken, by rw [hid]; exact hstored, hsame⟩

theorem tickAt_thinned (now : MonotonicMs) (trigger : TriggerAnswers) (claims : List ClaimAnswers) :
    Steps Thinned (tickAt now trigger claims) :=
  tickAt_through now claims trigger (processDueTrigger_thinned trigger now)
    (processDueClaims_steps thinned_claimStable now)

end Ticks

theorem accelerateDeviceReturnEpochAt_thinned (key : DeviceKey) (epochSequence : SequenceNumber)
    (evidenceAt : MonotonicMs) :
    Steps Thinned (accelerateDeviceReturnEpochAt key epochSequence evidenceAt) := by
  have hsooner : ∀ s s', Accelerated key s s' → Thinned s s' := by
    intro s s' h id scheduled hstored
    have hrel := h.triggers id
    rw [hstored] at hrel
    cases hold : s.triggers[id]? with
    | none =>
      rw [hold] at hrel
      cases hrel
    | some old =>
      rw [hold] at hrel
      cases hrel with
      | some hsame => exact ⟨old, rfl, hsame.same⟩
  exact (accelerateDeviceReturnEpochAt_accelerated key epochSequence evidenceAt).mono hsooner

theorem dropPrimaryReturns_thinned (receiverId : ReceiverId) (generationId : GenerationId)
    (s : RestorationScheduler) : Thinned s (dropPrimaryReturns receiverId generationId s) :=
  Thinned.of_filter rfl

theorem clearReadiness_thinned (receiverId : ReceiverId) (generationId : GenerationId)
    (s : RestorationScheduler) : Thinned s (clearReadiness receiverId generationId s) :=
  Thinned.of_filter rfl

theorem retireGeneration_thinned (receiverId : ReceiverId) (generationId : GenerationId)
    (s : RestorationScheduler) : Thinned s (retireGeneration receiverId generationId s) :=
  Thinned.of_filter rfl

/-- What opening an epoch puts into the table, each under its own id. -/
theorem getElem?_staged {staged : List ScheduledTrigger}
    {triggers : Std.TreeMap RestoreTriggerId ScheduledTrigger} {id : RestoreTriggerId}
    {scheduled : ScheduledTrigger}
    (h : (staged.foldl (fun triggers scheduled =>
      triggers.insert scheduled.trigger.triggerId scheduled) triggers)[id]? = some scheduled) :
    (scheduled ∈ staged ∧ id = scheduled.trigger.triggerId) ∨ triggers[id]? = some scheduled := by
  induction staged generalizing triggers with
  | nil => exact .inr h
  | cons first staged ih =>
    obtain ⟨hmem, hid⟩ | hstored := ih h
    · exact .inl ⟨List.mem_cons_of_mem first hmem, hid⟩
    rw [OrderedMaps.getElem?_insert_of] at hstored
    split at hstored
    next hid =>
      cases hstored
      exact .inl ⟨List.mem_cons_self, hid⟩
    · exact .inr hstored

/-- What the work on claims leaves alone. -/
structure Framed (s s' : RestorationScheduler) : Prop where
  triggers : s'.triggers = s.triggers
  interval : s'.retryIntervalMs = s.retryIntervalMs

instance : Std.Refl Framed := ⟨fun _ => ⟨rfl, rfl⟩⟩

instance : IsTrans RestorationScheduler Framed :=
  ⟨fun _ _ _ h h' => ⟨h'.triggers.trans h.triggers, h'.interval.trans h.interval⟩⟩

variable (kind : RestoreTriggerKind)

theorem awaken_triggers (receiverId : ReceiverId) (generationId : GenerationId) (s : RestorationScheduler) :
    (awaken kind receiverId generationId s).2.triggers = s.triggers := by
  have hretime : ∀ deviceId due before, Framed before (retime receiverId generationId deviceId due before).2 :=
    fun _ _ _ => ⟨rfl, rfl⟩
  exact (awaken_steps kind receiverId generationId hretime s).triggers

theorem awakened_thinned (receiverId : ReceiverId) (generationId : GenerationId) (s : RestorationScheduler) :
    Thinned s (awakened kind receiverId generationId s) := by
  have hwoken : Thinned s (awaken kind receiverId generationId s).2 :=
    Thinned.of_eq (awaken_triggers kind receiverId generationId s)
  exact hwoken.trans (dropPrimaryReturns_thinned receiverId generationId _)

theorem awakened_maxTriggers (receiverId : ReceiverId) (generationId : GenerationId) (s : RestorationScheduler)
    :
    (awakened kind receiverId generationId s).maxTriggers = s.maxTriggers := by
  have hregulated : Regulated (fun _ => true) s _ :=
    awakened_steps kind receiverId generationId regulated_callStable s
  exact hregulated.maxTriggers

section Enqueueing

variable [TriggerDigests] {Q : PUnit → RestorationScheduler → Prop}
  {E : RestorationScheduleError → RestorationScheduler → Prop} {receiverId : ReceiverId}
  {generationId : GenerationId} {sequence : Option SequenceNumber}

theorem holds_schedulePrimaryReturn {targetDeviceId : Option LogicalDeviceId} {due : MonotonicMs}
    (hkept : ∀ before, Thinned s before → Q ⟨⟩ before) (henqueued : ∀ before, Thinned s before → Holds
      (insertTrigger .deviceReturn receiverId generationId targetDeviceId sequence due .primary) before Q E) :
    Holds (schedulePrimaryReturn receiverId generationId targetDeviceId sequence due) s Q E := by
  unfold schedulePrimaryReturn
  rw [holds_bind, holds_get]
  split
  · exact hkept s (Thinned.refl s)
  have hwoken : Thinned s (wake receiverId generationId targetDeviceId due s).2 := Thinned.of_eq rfl
  simp only [holds_do]
  split
  · exact hkept _ hwoken
  split
  · exact henqueued _ hwoken
  split
  · exact hkept _ hwoken
  rw [holds_bind, holds_set]
  apply henqueued
  exact hwoken.trans (Thinned.of_erase rfl)

end Enqueueing

end RestorationScheduler

end HyperfluxNext
