import HyperfluxNext.Daemon.BroadTriggers

namespace HyperfluxNext

open Procedure OrderedMaps

namespace RestorationScheduler

section Scheduling

variable [TriggerDigests]

/-- The one entry that all triggers but those of a return envelope come in by. -/
def scheduleAtWithPurpose (kind : RestoreTriggerKind) (receiverId : ReceiverId) (generationId : GenerationId)
    (targetDeviceId : Option LogicalDeviceId) (sequence : Option SequenceNumber) (due : MonotonicMs)
    (purpose : ScheduledTriggerPurpose) : SchedulerM Unit := do
  let scheduler ← get
  if scheduler.enabled = false then
    pure ()
  else
    refuse (purpose ≠ .primary ∧ kind ≠ .deviceReturn) .invalidConfiguration
    if isBroadTrigger kind then
      let (woke, scheduler) : Nat × RestorationScheduler :=
        if readinessGatedTrigger kind then
          wakeReadyDevices receiverId generationId (park receiverId generationId none scheduler).2
        else
          wake receiverId generationId none immediateDue scheduler
      let scheduler := dropPrimaryReturns receiverId generationId scheduler
      set scheduler
      if woke > 0 ∨ scheduler.hasPendingBroadTrigger receiverId generationId then
        pure ()
      else
        insertTrigger kind receiverId generationId targetDeviceId sequence due purpose
    else if kind = .deviceReturn ∧ purpose = .primary then
      let scheduler := (wake receiverId generationId targetDeviceId due scheduler).2
      set scheduler
      if scheduler.hasPendingBroadTrigger receiverId generationId then
        pure ()
      else
        match sameScope receiverId generationId targetDeviceId scheduler with
        | none => insertTrigger kind receiverId generationId targetDeviceId sequence due purpose
        | some (existingId, existingSequence) =>
          if sequenceIsNewer sequence existingSequence = false then
            pure ()
          else do
            set { scheduler with triggers := scheduler.triggers.erase existingId }
            insertTrigger kind receiverId generationId targetDeviceId sequence due purpose
    else
      insertTrigger kind receiverId generationId targetDeviceId sequence due purpose

variable {kind : RestoreTriggerKind} {receiverId : ReceiverId} {generationId : GenerationId}
  {targetDeviceId : Option LogicalDeviceId} {sequence : Option SequenceNumber} {due : MonotonicMs}

/-- A broad trigger comes in for the whole generation, and is due at once. -/
theorem scheduleAtWithPurpose_broad (h : isBroadTrigger kind = true) :
    scheduleAtWithPurpose kind receiverId generationId none sequence immediateDue .primary =
      scheduleBroad kind receiverId generationId sequence := by
  cases kind with
  | deviceReturn => cases h
  | _ => rfl

theorem scheduleAtWithPurpose_return :
    scheduleAtWithPurpose .deviceReturn receiverId generationId targetDeviceId sequence due .primary =
      schedulePrimaryReturn receiverId generationId targetDeviceId sequence due :=
  rfl

end Scheduling

inductive ScheduleCall where
  | at (kind : RestoreTriggerKind) (receiverId : ReceiverId) (generationId : GenerationId)
      (targetDeviceId : Option LogicalDeviceId) (sequence : Option SequenceNumber) (due : MonotonicMs)
      (purpose : ScheduledTriggerPurpose)
  | returnEpoch (key : DeviceKey) (epochSequence : SequenceNumber) (openedAt : MonotonicMs)
      (retryOffsetsMs : List Nat)

/-- The same triggers, claims, due times and watermarks. -/
structure SameSchedule (s s' : RestorationScheduler) : Prop where
  triggers : ∀ id : RestoreTriggerId, s'.triggers[id]? = s.triggers[id]?
  claims : ∀ id : RestoreClaimId, s'.claims[id]? = s.claims[id]?
  readyDevices : ∀ key : DeviceKey, s'.readyDevices[key]? = s.readyDevices[key]?
  returnEpochs : ∀ key : DeviceKey, s'.returnEpochs[key]? = s.returnEpochs[key]?

theorem SameSchedule.refl (s : RestorationScheduler) : SameSchedule s s :=
  ⟨fun _ => rfl, fun _ => rfl, fun _ => rfl, fun _ => rfl⟩

section Conditions

variable (kind : RestoreTriggerKind) (receiverId : ReceiverId) (generationId : GenerationId)
  (targetDeviceId : Option LogicalDeviceId) (sequence : Option SequenceNumber) (due : MonotonicMs)

def primaryReturn (scheduled : ScheduledTrigger) : Bool :=
  ofGeneration receiverId generationId scheduled ∧ scheduled.trigger.kind = .deviceReturn ∧
    scheduled.purpose = .primary

/-- Nothing that is scheduled already stands in for the trigger. -/
def Wanted (s : RestorationScheduler) : Prop :=
  s.hasPendingBroadTrigger receiverId generationId = false ∧
    if isBroadTrigger kind then
      if readinessGatedTrigger kind then ¬ ReadyClaimed receiverId generationId s
      else ¬ Claimed (claimOf receiverId generationId none) s
    else
      ∀ existing ∈ sameScope receiverId generationId targetDeviceId s,
        sequenceIsNewer sequence existing.2 = true

/-- The triggers that stay when the new one takes the place of others. -/
def keptTriggers (s : RestorationScheduler) : Std.TreeMap RestoreTriggerId ScheduledTrigger :=
  if isBroadTrigger kind then
    s.triggers.filter fun _ scheduled => ! primaryReturn receiverId generationId scheduled
  else
    match sameScope receiverId generationId targetDeviceId s with
    | none => s.triggers
    | some (existingId, _) => s.triggers.erase existingId

def HasRoom [TriggerDigests] (s : RestorationScheduler)
    (kept : Std.TreeMap RestoreTriggerId ScheduledTrigger) (purpose : ScheduledTriggerPurpose) : Prop :=
  ∃ triggerId, TriggerDigests.triggerId kind receiverId generationId targetDeviceId sequence
      (if kind = .serviceStart then some s.processNonce else none) purpose = .ok triggerId ∧
    (kept.contains triggerId = true ∨ kept.size < s.maxTriggers)

def Disturbs (s : RestorationScheduler) : Prop :=
  if isBroadTrigger kind then
    Claimed (fun claim => claimOf receiverId generationId none claim ∧ claim.due ≠ parkedDue) s ∨
      ∃ (id : RestoreTriggerId) (scheduled : ScheduledTrigger), s.triggers[id]? = some scheduled ∧
        primaryReturn receiverId generationId scheduled = true
  else
    Claimed (fun claim => claimOf receiverId generationId targetDeviceId claim ∧ claim.due ≠ due) s ∨
      (sameScope receiverId generationId targetDeviceId s).isSome = true

end Conditions

/-- The call makes way for a trigger of its own that then cannot be added. -/
def ScheduleCall.StopsHalfway [TriggerDigests] (s : RestorationScheduler) : ScheduleCall → Prop
  | .at kind receiverId generationId targetDeviceId sequence due purpose =>
    s.enabled = true ∧ purpose = .primary ∧ Wanted kind receiverId generationId targetDeviceId sequence s ∧
      Disturbs kind receiverId generationId targetDeviceId due s ∧
      ¬ HasRoom kind receiverId generationId targetDeviceId sequence s
        (keptTriggers kind receiverId generationId targetDeviceId s) purpose
  | .returnEpoch _ _ _ _ => False

def ScheduleCall.run [TriggerDigests] : ScheduleCall → SchedulerM Unit
  | .at kind receiverId generationId targetDeviceId sequence due purpose =>
    scheduleAtWithPurpose kind receiverId generationId targetDeviceId sequence due purpose
  | .returnEpoch key epochSequence openedAt retryOffsetsMs =>
    scheduleDeviceReturnEpochAt key epochSequence openedAt retryOffsetsMs

/-- An error leaves the schedule as it was. -/
def ScheduleCall.Atomic [TriggerDigests] (call : ScheduleCall) (s : RestorationScheduler) : Prop :=
  Holds call.run s (fun _ _ => True) (fun _ s' => SameSchedule s s')

section Claims

variable {receiverId : ReceiverId} {generationId : GenerationId} {s : RestorationScheduler}
  {kind : RestoreTriggerKind} (deviceId : Option LogicalDeviceId)

theorem retime_getElem? (due : MonotonicMs → MonotonicMs) (s : RestorationScheduler) (id : RestoreClaimId) :
    (retime receiverId generationId deviceId due s).2.claims[id]? = s.claims[id]?.map fun claim =>
      if claimOf receiverId generationId deviceId claim then { claim with due := due claim.due } else claim := by
  unfold retime
  rw [Std.TreeMap.getElem?_map]

/-- No claim gets another due time exactly when all of them have it. -/
theorem retime_same (due : MonotonicMs) (s : RestorationScheduler) :
    (∀ id : RestoreClaimId, (retime receiverId generationId deviceId (fun _ => due) s).2.claims[id]? = s.claims[id]?) ↔
      ¬ Claimed (fun claim => claimOf receiverId generationId deviceId claim ∧ claim.due ≠ due) s := by
  constructor
  · intro hsame ⟨id, claim, hclaim, hother⟩
    obtain ⟨hof, hdue⟩ := of_decide_eq_true hother
    have h := hsame id
    rw [retime_getElem?, hclaim, Option.map_some, if_pos hof, Option.some.injEq] at h
    exact hdue (congrArg ScheduledClaim.due h).symm
  intro hnone id
  rw [retime_getElem?]
  cases hclaim : s.claims[id]? with
  | none => rfl
  | some claim =>
    rw [Option.map_some]
    by_cases hof : claimOf receiverId generationId deviceId claim = true
    · have hdue : claim.due = due := by
        by_contra hne
        exact hnone ⟨id, claim, hclaim, decide_eq_true ⟨hof, hne⟩⟩
      rw [if_pos hof, ← hdue]
    · rw [if_neg hof]

theorem retime_unclaimed {deviceId : Option LogicalDeviceId} (due : MonotonicMs → MonotonicMs)
    (h : ¬ Claimed (claimOf receiverId generationId deviceId) s) (id : RestoreClaimId) :
    (retime receiverId generationId deviceId due s).2.claims[id]? = s.claims[id]? := by
  rw [retime_getElem?]
  cases hclaim : s.claims[id]? with
  | none => rfl
  | some claim => rw [Option.map_some, if_neg fun hof => h ⟨id, claim, hclaim, hof⟩]

theorem wakeEach_unclaimed (devices : List (DeviceKey × MonotonicMs)) (answer : Nat × RestorationScheduler)
    (h : ∀ entry ∈ devices, ¬ Claimed (claimOf receiverId generationId (some entry.1.deviceId)) answer.2) :
    ∃ claims : Std.TreeMap RestoreClaimId ScheduledClaim,
      (wakeEach receiverId generationId devices answer).2 = { answer.2 with claims := claims } ∧
      ∀ id : RestoreClaimId, claims[id]? = answer.2.claims[id]? := by
  induction devices generalizing answer with
  | nil => exact ⟨answer.2.claims, rfl, fun _ => rfl⟩
  | cons entry devices ih =>
    have hfirst := h entry List.mem_cons_self
    obtain ⟨claims, hrest, hclaims⟩ := ih (answer.1 +
        (wake receiverId generationId (some entry.1.deviceId) entry.2 answer.2).1,
      (wake receiverId generationId (some entry.1.deviceId) entry.2 answer.2).2) (by
        intro later hlater
        rw [wake_claimed]
        exact h later (List.mem_cons_of_mem _ hlater))
    exact ⟨claims, hrest, fun id => (hclaims id).trans (retime_unclaimed (fun _ => entry.2) hfirst id)⟩

theorem awaken_eq_zero :
    (awaken kind receiverId generationId s).1 = 0 ↔
      if readinessGatedTrigger kind then ¬ ReadyClaimed receiverId generationId s
      else ¬ Claimed (claimOf receiverId generationId none) s := by
  unfold awaken
  rw [← Nat.le_zero, ← Nat.not_lt]
  split
  · rw [wakeReadyDevices_count, park_readyClaimed]
  · exact not_congr (retime_count none (fun _ => immediateDue) s)

theorem awakened_unclaimed (h : (awaken kind receiverId generationId s).1 = 0) :
    ∃ claims : Std.TreeMap RestoreClaimId ScheduledClaim,
      awakened kind receiverId generationId s =
        dropPrimaryReturns receiverId generationId { s with claims := claims } ∧
      ∀ id : RestoreClaimId, claims[id]? = (park receiverId generationId none s).2.claims[id]? := by
  have hwoken := awaken_eq_zero.mp h
  unfold awakened awaken
  by_cases hgated : readinessGatedTrigger kind = true
  · rw [if_pos hgated, ← park_readyClaimed] at hwoken
    obtain ⟨claims, hsame, hclaims⟩ := wakeEach_unclaimed
      ((park receiverId generationId none s).2.readyDevices.toList.filter fun entry =>
        entry.1.receiverId = receiverId ∧ entry.1.generationId = generationId)
      (0, (park receiverId generationId none s).2) (by
        intro entry hentry hclaimed
        obtain ⟨hmem, hdevice⟩ := List.mem_filter.mp hentry
        exact hwoken ⟨entry.1, entry.2, Std.TreeMap.mem_toList_iff_getElem?_eq_some.mp hmem, hdevice, hclaimed⟩)
    rw [if_pos hgated]
    exact ⟨claims, congrArg (dropPrimaryReturns receiverId generationId) hsame, hclaims⟩
  rw [if_neg hgated] at hwoken ⊢
  refine ⟨_, rfl, fun id => ?_⟩
  exact (retime_unclaimed (fun _ => immediateDue) hwoken id).trans
    (retime_unclaimed (fun _ => parkedDue) hwoken id).symm

end Claims

section Atomicity

variable [TriggerDigests] {kind : RestoreTriggerKind} {receiverId : ReceiverId} {generationId : GenerationId}
  {targetDeviceId : Option LogicalDeviceId} {sequence : Option SequenceNumber} {due : MonotonicMs}
  {purpose : ScheduledTriggerPurpose} {s : RestorationScheduler} {P : RestorationScheduler → Prop}

/-- The insertion fails for want of an identity or of room, and then does nothing. -/
theorem holds_insertTrigger :
    Holds (insertTrigger kind receiverId generationId targetDeviceId sequence due purpose) s (fun _ _ => True)
        (fun _ s' => P s') ↔
      (¬ HasRoom kind receiverId generationId targetDeviceId sequence s s.triggers purpose → P s) := by
  unfold insertTrigger HasRoom
  simp only [holds_do]
  cases hid : TriggerDigests.triggerId kind receiverId generationId targetDeviceId sequence
      (if kind = .serviceStart then some s.processNonce else none) purpose with
  | error error =>
    constructor
    · intro h _
      exact h.2 error rfl
    intro h
    refine ⟨fun _ hno => (by cases hno), fun _ _ => h ?_⟩
    rintro ⟨_, hother, _⟩
    cases hother
  | ok triggerId =>
    constructor
    · intro h hroom
      have hinsert := h.1 triggerId rfl
      rw [if_neg fun hthere => hroom ⟨triggerId, rfl, .inl hthere⟩, holds_bind, holds_refuse] at hinsert
      apply hinsert.1
      by_contra hfew
      exact hroom ⟨triggerId, rfl, .inr (Nat.not_le.mp hfew)⟩
    intro h
    refine ⟨fun id hsame => ?_, fun _ hno => by cases hno⟩
    cases hsame
    split
    · trivial
    next hthere =>
      rw [holds_bind, holds_refuse]
      refine ⟨fun hfull => h ?_, fun _ => trivial⟩
      rintro ⟨_, hsame, hroom⟩
      cases hsame
      obtain hpending | hfew := hroom
      · exact hthere hpending
      · exact Nat.not_le.mpr hfew hfull

omit [TriggerDigests] in
theorem sameSchedule_awakened (h : (awaken kind receiverId generationId s).1 = 0)
    (hbroad : isBroadTrigger kind = true) :
    SameSchedule s (awakened kind receiverId generationId s) ↔
      ¬ Disturbs kind receiverId generationId targetDeviceId due s := by
  obtain ⟨claims, hsame, hclaims⟩ := awakened_unclaimed h
  unfold Disturbs
  rw [if_pos hbroad, not_or, ← retime_same, hsame]
  have hkept : ∀ id : RestoreTriggerId,
      (dropPrimaryReturns receiverId generationId { s with claims := claims }).triggers[id]? =
        s.triggers[id]?.filter fun scheduled => ! primaryReturn receiverId generationId scheduled :=
    fun id => Std.TreeMap.getElem?_filter'
  constructor
  · intro hschedule
    refine ⟨fun id => (hclaims id).symm.trans (hschedule.claims id), ?_⟩
    intro ⟨id, scheduled, hscheduled, hprimary⟩
    have hgone := hschedule.triggers id
    rw [hkept, hscheduled, Option.filter_some, hprimary] at hgone
    cases hgone
  intro ⟨hparked, hnone⟩
  refine ⟨fun id => ?_, fun id => (hclaims id).trans (hparked id), fun _ => rfl, fun _ => rfl⟩
  rw [hkept]
  cases hscheduled : s.triggers[id]? with
  | none => rfl
  | some scheduled =>
    have hother : primaryReturn receiverId generationId scheduled = false := by
      by_contra hprimary
      exact hnone ⟨id, scheduled, hscheduled, Bool.not_eq_false _ ▸ hprimary⟩
    rw [Option.filter_some, hother]
    rfl

theorem holds_scheduleAt_broad (hbroad : isBroadTrigger kind = true) (henabled : s.enabled = true) :
    Holds (scheduleAtWithPurpose kind receiverId generationId targetDeviceId sequence due .primary) s
        (fun _ _ => True) (fun _ s' => P s') ↔
      (Wanted kind receiverId generationId targetDeviceId sequence s →
        ¬ HasRoom kind receiverId generationId targetDeviceId sequence s
          (keptTriggers kind receiverId generationId targetDeviceId s) .primary →
        P (awakened kind receiverId generationId s)) := by
  have hunfold : Holds (scheduleAtWithPurpose kind receiverId generationId targetDeviceId sequence due .primary) s
      (fun _ _ => True) (fun _ s' => P s') ↔ Holds (if (awaken kind receiverId generationId s).1 > 0 ∨
          (awakened kind receiverId generationId s).hasPendingBroadTrigger receiverId generationId then pure ()
        else insertTrigger kind receiverId generationId targetDeviceId sequence due .primary)
      (awakened kind receiverId generationId s) (fun _ _ => True) (fun _ s' => P s') := by
    unfold scheduleAtWithPurpose
    rw [holds_bind, holds_get, if_neg (by simp [henabled]), holds_bind, holds_refuse]
    refine Iff.trans ⟨fun h => h.2 fun hbad => hbad.1 rfl, fun h => ⟨fun hbad => absurd rfl hbad.1, fun _ => h⟩⟩ ?_
    rw [if_pos hbroad]
    exact holds_bind
  rw [hunfold]
  unfold Wanted keptTriggers
  rw [if_pos hbroad, if_pos hbroad, ← awaken_eq_zero]
  have hsamePending := awakened_pending receiverId generationId kind s
  by_cases habsorbed : (awaken kind receiverId generationId s).1 > 0 ∨
      (awakened kind receiverId generationId s).hasPendingBroadTrigger receiverId generationId = true
  · rw [if_pos habsorbed]
    constructor
    · intro _ ⟨hpending, hnone⟩
      obtain hwoken | hfound := habsorbed
      · exact absurd hwoken (Nat.not_lt.mpr (Nat.le_of_eq hnone))
      rw [hsamePending.mp hfound] at hpending
      cases hpending
    · exact fun _ => trivial
  rw [if_neg habsorbed, holds_insertTrigger]
  obtain ⟨hwoken, hpending⟩ := not_or.mp habsorbed
  have hzero := Nat.eq_zero_of_not_pos hwoken
  obtain ⟨claims, hsame, -⟩ := awakened_unclaimed hzero
  have hroom : HasRoom kind receiverId generationId targetDeviceId sequence (awakened kind receiverId generationId s)
      (awakened kind receiverId generationId s).triggers .primary ↔
        HasRoom kind receiverId generationId targetDeviceId sequence s
          (s.triggers.filter fun _ scheduled => ! primaryReturn receiverId generationId scheduled) .primary := by
    rw [hsame]
    exact Iff.rfl
  rw [hroom]
  exact ⟨fun h _ => h, fun h => h ⟨Bool.eq_false_iff.mpr fun hfound => hpending (hsamePending.mpr hfound), hzero⟩⟩

def returnReplaced (receiverId : ReceiverId) (generationId : GenerationId)
    (targetDeviceId : Option LogicalDeviceId) (due : MonotonicMs) (s : RestorationScheduler) : RestorationScheduler :=
  { (wake receiverId generationId targetDeviceId due s).2 with
    triggers := keptTriggers .deviceReturn receiverId generationId targetDeviceId s }

theorem holds_scheduleAt_return (henabled : s.enabled = true) :
    Holds (scheduleAtWithPurpose .deviceReturn receiverId generationId targetDeviceId sequence due .primary) s
        (fun _ _ => True) (fun _ s' => P s') ↔
      (Wanted .deviceReturn receiverId generationId targetDeviceId sequence s →
        ¬ HasRoom .deviceReturn receiverId generationId targetDeviceId sequence s
          (keptTriggers .deviceReturn receiverId generationId targetDeviceId s) .primary →
        P (returnReplaced receiverId generationId targetDeviceId due s)) := by
  rw [scheduleAtWithPurpose_return]
  unfold schedulePrimaryReturn
  rw [holds_bind, holds_get, if_neg (by simp [henabled]), holds_bind, holds_set]
  unfold Wanted returnReplaced keptTriggers
  have hkind : isBroadTrigger .deviceReturn = false := rfl
  simp only [hkind, Bool.false_eq_true, if_false]
  have hscope : sameScope receiverId generationId targetDeviceId
      (wake receiverId generationId targetDeviceId due s).2 = sameScope receiverId generationId targetDeviceId s := rfl
  have hpending : (wake receiverId generationId targetDeviceId due s).2.hasPendingBroadTrigger receiverId generationId =
      s.hasPendingBroadTrigger receiverId generationId := rfl
  rw [hscope, hpending]
  by_cases hbroad : s.hasPendingBroadTrigger receiverId generationId = true
  · rw [if_pos hbroad]
    constructor
    · intro _ hwanted
      rw [hbroad] at hwanted
      cases hwanted.1
    · exact fun _ => trivial
  rw [if_neg hbroad]
  have hfree := Bool.eq_false_iff.mpr hbroad
  cases hexisting : sameScope receiverId generationId targetDeviceId s with
  | none =>
    dsimp only
    rw [holds_insertTrigger]
    refine ⟨fun h _ => h, fun h => h ⟨hfree, ?_⟩⟩
    intro _ hother
    cases hother
  | some existing =>
    dsimp only
    by_cases hnewer : sequenceIsNewer sequence existing.2 = true
    · rw [if_neg (by simp [hnewer]), holds_bind, holds_set, holds_insertTrigger]
      refine ⟨fun h _ => h, fun h => h ⟨hfree, ?_⟩⟩
      intro other hother
      cases hother
      exact hnewer
    rw [if_pos (Bool.eq_false_iff.mpr hnewer)]
    constructor
    · intro _ hwanted
      exact absurd (hwanted.2 existing rfl) hnewer
    · exact fun _ => trivial

omit [TriggerDigests] in
theorem sameSchedule_returnReplaced :
    SameSchedule s (returnReplaced receiverId generationId targetDeviceId due s) ↔
      ¬ Disturbs .deviceReturn receiverId generationId targetDeviceId due s := by
  unfold Disturbs
  rw [if_neg (by decide), not_or, ← retime_same]
  constructor
  · intro h
    refine ⟨h.claims, ?_⟩
    intro hsome
    obtain ⟨existing, hexisting⟩ := Option.isSome_iff_exists.mp hsome
    have hgone := h.triggers existing.1
    have hkept : (returnReplaced receiverId generationId targetDeviceId due s).triggers =
        s.triggers.erase existing.1 := by
      unfold returnReplaced keptTriggers
      rw [if_neg (by decide), hexisting]
    rw [hkept, getElem?_erase_of, if_pos rfl] at hgone
    unfold sameScope at hexisting
    obtain ⟨entry, hentry, hfirst⟩ := Option.map_eq_some_iff.mp hexisting
    have hstored := Std.TreeMap.mem_toList_iff_getElem?_eq_some.mp (List.mem_of_find?_eq_some hentry)
    rw [← hfirst, hstored] at hgone
    cases hgone
  intro ⟨hclaims, hnone⟩
  refine ⟨fun id => ?_, hclaims, fun _ => rfl, fun _ => rfl⟩
  unfold returnReplaced keptTriggers
  rw [if_neg (by decide), Option.not_isSome_iff_eq_none.mp hnone]

theorem scheduleDeviceReturnEpochAt_atomic (key : DeviceKey) (epochSequence : SequenceNumber) (openedAt : MonotonicMs)
    (retryOffsetsMs : List Nat) :
    Holds (scheduleDeviceReturnEpochAt key epochSequence openedAt retryOffsetsMs) s (fun _ _ => True)
      (fun _ s' => SameSchedule s s') := by
  unfold scheduleDeviceReturnEpochAt
  rw [holds_bind, holds_get]
  split
  · trivial
  rw [holds_bind, holds_refuse]
  refine ⟨fun _ => .refl s, fun _ => ?_⟩
  split
  · trivial
  simp only [holds_do]
  refine ⟨fun dues _ => ⟨fun _ => .refl s, fun _ => ⟨fun staged _ => trivial, fun _ _ => .refl s⟩⟩,
    fun _ _ => .refl s⟩

/-- A scheduling call that fails leaves the schedule as it was, unless it stops halfway. -/
theorem scheduling_atomic (call : ScheduleCall) (s : RestorationScheduler) :
    call.Atomic s ↔ ¬ call.StopsHalfway s := by
  unfold ScheduleCall.Atomic
  cases call with
  | returnEpoch key epochSequence openedAt retryOffsetsMs =>
    exact ⟨fun _ h => h, fun _ => scheduleDeviceReturnEpochAt_atomic key epochSequence openedAt retryOffsetsMs⟩
  | «at» kind receiverId generationId targetDeviceId sequence due purpose =>
    unfold ScheduleCall.run ScheduleCall.StopsHalfway
    dsimp only
    by_cases henabled : s.enabled = true
    · by_cases hprimary : purpose = .primary
      · subst hprimary
        cases hbroad : isBroadTrigger kind with
        | true =>
          rw [holds_scheduleAt_broad hbroad henabled]
          constructor
          · intro h ⟨_, _, hwanted, hdisturbs, hfull⟩
            have hsame := h hwanted hfull
            have hwoken := hwanted.2
            rw [if_pos hbroad] at hwoken
            exact (sameSchedule_awakened (awaken_eq_zero.mpr hwoken) hbroad).mp hsame hdisturbs
          intro h hwanted hfull
          have hwoken := hwanted.2
          rw [if_pos hbroad] at hwoken
          rw [sameSchedule_awakened (awaken_eq_zero.mpr hwoken) hbroad]
          exact fun hdisturbs => h ⟨henabled, rfl, hwanted, hdisturbs, hfull⟩
        | false =>
          have hkind : kind = .deviceReturn := by
            cases kind with
            | deviceReturn => rfl
            | _ => cases hbroad
          subst hkind
          rw [holds_scheduleAt_return henabled]
          constructor
          · intro h ⟨_, _, hwanted, hdisturbs, hfull⟩
            exact sameSchedule_returnReplaced.mp (h hwanted hfull) hdisturbs
          intro h hwanted hfull
          rw [sameSchedule_returnReplaced]
          exact fun hdisturbs => h ⟨henabled, rfl, hwanted, hdisturbs, hfull⟩
      · refine ⟨fun _ h => hprimary h.2.1, fun _ => ?_⟩
        unfold scheduleAtWithPurpose
        rw [holds_bind, holds_get, if_neg (by simp [henabled]), holds_bind, holds_refuse]
        refine ⟨fun _ => .refl s, fun hreturn => ?_⟩
        have hkind : kind = .deviceReturn := by
          by_contra hother
          exact hreturn ⟨hprimary, hother⟩
        subst hkind
        rw [if_neg (by decide), if_neg (fun h => hprimary h.2), holds_insertTrigger]
        exact fun _ => .refl s
    · refine ⟨fun _ h => henabled h.1, fun _ => ?_⟩
      unfold scheduleAtWithPurpose
      rw [holds_bind, holds_get, if_pos (Bool.eq_false_iff.mpr henabled)]
      trivial

end Atomicity

def fullSchedule : RestorationScheduler where
  enabled := true
  processNonce := []
  retryIntervalMs := 1000
  claimsPerTick := 1
  maxTriggers := 1
  maxClaims := 4
  configuredReceivers := []
  readyDevices := ∅
  returnEpochs := ∅
  triggers := (∅ : Std.TreeMap RestoreTriggerId ScheduledTrigger).insert (.lit "other")
    ⟨⟨.lit "other", .serviceStart, .lit "other", sampleEpoch.key.generationId,
      none⟩, immediateDue, none, .primary⟩
  claims := (∅ : Std.TreeMap RestoreClaimId ScheduledClaim).insert mouseClaim.claimId
    ⟨mouseClaim.receiverId, mouseClaim.generationId, mouseClaim.deviceId, mouseClaim.revision,
      .lit 5, 0⟩

/-- The claim is parked although the trigger that should wake it again could not be added. -/
theorem failed_trigger_parks_claim :
    let _ := returnDigests
    match (ScheduleCall.at .receiverGeneration mouseClaim.receiverId mouseClaim.generationId none none immediateDue
        .primary).run fullSchedule with
    | .ok _ _ => False
    | .error error s' => error = .triggerCapacity ∧
      (fullSchedule.claims[mouseClaim.claimId]?).map (·.due.get) = some 5 ∧
      (s'.claims[mouseClaim.claimId]?).map (·.due) = some parkedDue := by
  have hdecided : (match @ScheduleCall.run returnDigests (.at .receiverGeneration mouseClaim.receiverId
        mouseClaim.generationId none none immediateDue .primary) fullSchedule with
      | .ok _ _ => false
      | .error error s' => decide (error = .triggerCapacity ∧
        (fullSchedule.claims[mouseClaim.claimId]?).map (·.due.get) = some 5 ∧
        (s'.claims[mouseClaim.claimId]?).map (·.due) = some parkedDue)) = true := by
    decide +kernel
  dsimp only
  split at hdecided
  · cases hdecided
  · exact of_decide_eq_true hdecided

end RestorationScheduler

end HyperfluxNext
