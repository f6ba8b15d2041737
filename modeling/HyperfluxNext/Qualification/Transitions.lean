import HyperfluxNext.Qualification.Checkpoints

namespace HyperfluxNext

namespace Qualification

open Procedure

theorem okOr_eq_ok {α : Type} {value : Option α} {message : String} {a : α}
    (h : okOr value message = .ok a) : value = some a := by
  cases value with
  | none => cases h
  | some value =>
    cases h
    rfl

theorem evidenceResult_eq_ok {α : Type} {result : Except EventEvidenceError α} {a : α}
    (h : evidenceResult result = .ok a) : result = .ok a := by
  cases result with
  | error e => cases h
  | ok value =>
    cases h
    rfl

/-- What the validator demands of a run. -/
structure ValidRun (run : LifecycleRunState) : Prop where
  generations : run.boundedGenerations = true
  plans : run.oneGeneration = true
  active : ∀ active, run.active = some active → run.bindsActive active = true
  stamp : ∀ active, run.active = some active →
    (active.suspendStamp.any fun stamp => !validDigest stamp.bootIdSha256) = false

theorem validate_eq_ok {run : LifecycleRunState} : run.validate = .ok () ↔ ValidRun run := by
  unfold LifecycleRunState.validate
  constructor
  · intro h
    obtain ⟨_, hgenerations, h⟩ := bind_eq_ok h
    obtain ⟨_, hplans, h⟩ := bind_eq_ok h
    have hgenerations := reject_eq_ok hgenerations
    have hplans := reject_eq_ok hplans
    rw [Bool.not_eq_false] at hgenerations hplans
    cases hactive : run.active with
    | none =>
      exact ⟨hgenerations, hplans, fun active h => (by rw [hactive] at h; cases h),
        fun active h => (by rw [hactive] at h; cases h)⟩
    | some active =>
      rw [hactive] at h
      obtain ⟨_, hbinds, hstamp⟩ := bind_eq_ok h
      have hbinds := reject_eq_ok hbinds
      have hstamp := reject_eq_ok hstamp
      rw [Bool.not_eq_false] at hbinds
      rw [Bool.not_eq_true] at hstamp
      refine ⟨hgenerations, hplans, ?_, ?_⟩
      · intro other hother
        rw [hactive] at hother
        cases hother
        exact hbinds
      intro other hother
      rw [hactive] at hother
      cases hother
      exact hstamp
  · intro h
    rw [reject_of_not (by rw [h.generations]; decide), reject_of_not (by rw [h.plans]; decide)]
    cases hactive : run.active with
    | none => rfl
    | some active =>
      have hbinds := h.active active hactive
      have hstamp := h.stamp active hactive
      show (do
        reject (run.bindsActive active = false) _
        reject ((active.suspendStamp.any fun stamp => !validDigest stamp.bootIdSha256) = true) _) = Except.ok ()
      rw [reject_of_not (by rw [hbinds]; decide), reject_of_not (by rw [hstamp]; decide)]
      rfl

section Campaign

variable [CursorDigest] [LifecycleProfiles]

variable {run : LifecycleRunState} {stage : QualificationStage} {observation : LifecycleObservation}
  {action : PreparedLifecycleAction}

section
omit [CursorDigest]

theorem startLifecycleStage_ok {run' : LifecycleRunState} {transition : RunnerTransition}
    (h : startLifecycleStage run stage observation = .ok (run', transition)) :
    ∃ plan device, run.active = none ∧ run.plans.find? (stageBelongsToPlan · stage) = some plan ∧
      run.device plan.deviceId = some device ∧
      (stage.risk = .deviceLifecycle ∨ stage.risk = .systemLifecycle) ∧
      validateReadyIdentity run plan.deviceId observation = .ok () ∧
      observation.stableRestoreEnabled = true ∧
      run' = { run with active := some (startedStage stage plan device observation) } ∧
      ValidRun run' ∧
      transition = awaiting (deviceDepartureCheckpoint run'
        (startedStage stage plan device observation).evidenceRefs) := by
  obtain ⟨_, hidle, h⟩ := bind_eq_ok h
  obtain ⟨plan, hplan, h⟩ := bind_eq_ok h
  obtain ⟨device, hdevice, h⟩ := bind_eq_ok h
  obtain ⟨_, hkind, h⟩ := bind_eq_ok h
  obtain ⟨_, hready, h⟩ := bind_eq_ok h
  obtain ⟨_, hstable, h⟩ := bind_eq_ok h
  obtain ⟨_, hvalid, h⟩ := bind_eq_ok h
  have hidle := reject_eq_ok hidle
  have hkind := reject_eq_ok hkind
  have hstable := reject_eq_ok hstable
  push Not at hkind
  rw [Bool.not_eq_false] at hstable
  cases h
  refine ⟨plan, device, by simpa using hidle, okOr_eq_ok hplan, okOr_eq_ok hdevice, ?_, hready,
    hstable, rfl, validate_eq_ok.mp hvalid, rfl⟩
  by_cases hrisk : stage.risk = .deviceLifecycle
  · exact .inl hrisk
  · exact .inr (hkind.2 hrisk)

theorem recordDeviceDeparture_ok (h : recordDeviceDeparture run observation = .ok action) :
    ∃ active departure, run.active = some active ∧
      validateSameGeneration run observation = .ok () ∧
      EvidenceRef.isCursor departure = false ∧ departure ≠ .systemResumeRetryReady ∧
      let evidenceRefs := active.evidenceRefs ++ departure :: observation.cursorRef.toList
      action = .record (run.enter active .deviceReturn evidenceRefs)
        (awaiting (deviceReturnCheckpoint evidenceRefs run.hasSiblings)) := by
  obtain ⟨_, hsame, h⟩ := bind_eq_ok h
  obtain ⟨active, hactive, h⟩ := bind_eq_ok h
  obtain ⟨selected, hselected, h⟩ := bind_eq_ok h
  obtain ⟨retained, hretained, h⟩ := bind_eq_ok h
  obtain ⟨_, hclean, h⟩ := bind_eq_ok h
  cases h
  refine ⟨active, if retained then .watchedRetainedRoute else .deviceDeparture selected.availability,
    okOr_eq_ok hactive, hsame, ?_, ?_, rfl⟩
  · cases retained <;> rfl
  · cases retained <;> exact fun h => by cases h

end

omit [LifecycleProfiles] in
theorem recordDeviceReturn_ok (h : recordDeviceReturn run observation = .ok action) :
    ∃ active events restore, run.active = some active ∧
      validateReadyIdentityForActive run observation = .ok () ∧
      observation.stableRestoreEnabled = true ∧ observation.events = some events ∧
      deviceReturnRestore events active.evidenceRefs observation.receiverId
        active.baselineGenerationId active.deviceId (returnMode active.evidenceRefs) = .ok restore ∧
      let evidenceRefs := active.evidenceRefs ++ .deviceReturnReady :: restore :: observation.cursorRef.toList
      ((active.deviceKind = .keyboard ∧
          action = .record (run.enter active .suspendAuthorization evidenceRefs)
            (awaiting (systemSuspendCheckpoint evidenceRefs))) ∨
        (active.deviceKind ≠ .keyboard ∧
          action = .record (run.enter active .receiverDeparture evidenceRefs)
            (awaiting (receiverDepartureCheckpoint evidenceRefs)))) := by
  obtain ⟨_, hready, h⟩ := bind_eq_ok h
  obtain ⟨_, hstable, h⟩ := bind_eq_ok h
  obtain ⟨active, hactive, h⟩ := bind_eq_ok h
  obtain ⟨events, hevents, h⟩ := bind_eq_ok h
  obtain ⟨restore, hrestore, h⟩ := bind_eq_ok h
  have hstable := reject_eq_ok hstable
  rw [Bool.not_eq_false] at hstable
  refine ⟨active, events, restore, okOr_eq_ok hactive, hready, hstable, okOr_eq_ok hevents,
    evidenceResult_eq_ok hrestore, ?_⟩
  split at h
  next hkeyboard =>
    cases h
    exact .inl ⟨hkeyboard, rfl⟩
  next hmouse =>
    cases h
    exact .inr ⟨hmouse, rfl⟩

theorem prepareLifecycleCheckpoint_ok {current : StageProgress} {verdict : ObservationVerdict}
    {stamp : LifecycleResult SuspendStamp}
    (h : prepareLifecycleCheckpoint run stage current verdict observation stamp = .ok action) :
    ∃ checkpoint active, current.checkpoint = some checkpoint ∧ run.active = some active ∧
      active.stageId = stage.stageId ∧
      ((verdict ≠ .pass ∧ action = recordMismatch run active checkpoint verdict) ∨
        (verdict = .pass ∧ recordCheckpoint checkpoint.checkpointId run observation stamp = .ok action)) := by
  obtain ⟨checkpoint, hcheckpoint, h⟩ := bind_eq_ok h
  obtain ⟨active, hactive, h⟩ := bind_eq_ok h
  obtain ⟨_, hstage, h⟩ := bind_eq_ok h
  have hstage := reject_eq_ok hstage
  rw [not_not] at hstage
  refine ⟨checkpoint, active, okOr_eq_ok hcheckpoint, okOr_eq_ok hactive, hstage, ?_⟩
  split at h
  next hverdict =>
    cases h
    exact .inl ⟨hverdict, rfl⟩
  next hverdict =>
    rw [not_not] at hverdict
    exact .inr ⟨hverdict, h⟩

theorem prepareLifecycleCheckpoint_pass {current : StageProgress} {checkpoint : StageCheckpoint}
    {active : LifecycleStageState} (observation : LifecycleObservation) (stamp : LifecycleResult SuspendStamp)
    (hcheckpoint : current.checkpoint = some checkpoint) (hactive : run.active = some active)
    (hstage : active.stageId = stage.stageId) :
    prepareLifecycleCheckpoint run stage current .pass observation stamp =
      recordCheckpoint checkpoint.checkpointId run observation stamp := by
  unfold prepareLifecycleCheckpoint
  rw [hcheckpoint, hactive]
  simp only [okOr, bind, Except.bind]
  rw [reject_of_not (not_not.mpr hstage)]
  rfl

omit [CursorDigest] in
@[simp] theorem deviceDepartureCheckpoint_id (run : LifecycleRunState) (evidenceRefs : List EvidenceRef) :
    (deviceDepartureCheckpoint run evidenceRefs).checkpointId = "device-departure" := by
  unfold deviceDepartureCheckpoint
  split <;> rfl

end Campaign

end Qualification

end HyperfluxNext
