import HyperfluxNext.Daemon.Schedule

namespace HyperfluxNext

open Procedure

namespace RestorationScheduler

inductive DesiredEffectReplayStatus where
  | queued | deferred | notAvailable | invalidated
deriving DecidableEq

/-- What the durable coordinator answers while one due trigger is processed: the pending records are
read before the plan (`priorRecords`) and after it. -/
structure TriggerAnswers where
  setEnabled : Except RestorationError Unit
  effectReplay : Except RestorationScheduleError DesiredEffectReplayStatus
  rebind : Except RestorationError Nat
  priorRecords : Except RestorationError (List RestoreRecord)
  planRestore : Except RestorationError RestorePlanResult
  pendingRecords : Except RestorationError (List RestoreRecord)

/-- What the durable coordinator answers while one due claim is processed. -/
structure ClaimAnswers where
  advanceClaim : Except RestorationError RestoreAdvanceResult
  dispatchClaim : Except RestorationError RestoreRecord
  pendingRecords : Except RestorationError (List RestoreRecord)

inductive TriggerPlanDisposition where
  | continue | noRestorableIntent

/-- A blocked primary trigger is put back for a later try. -/
def retryPrimary (triggerId : RestoreTriggerId) (scheduled : ScheduledTrigger) (now : MonotonicMs) :
    SchedulerM Unit :=
  match scheduled.purpose with
  | .primary => do
    let scheduler ← get
    let due ← lift id (dueAfter now scheduler.retryIntervalMs)
    set { scheduler with
      triggers := scheduler.triggers.insert triggerId { scheduled with due := due } }
  | .returnAttempt _ => pure ()

def blockedByPriorClaim : RestorationError → Bool
  | .priorClaimUnresolved => true
  | .priorOutcomeUncertain => true
  | _ => false

def rebindOrRecoverBlockingClaims (triggerId : RestoreTriggerId) (scheduled : ScheduledTrigger)
    (answers : TriggerAnswers) (now : MonotonicMs) : SchedulerM (Option Nat) :=
  match answers.rebind with
  | .ok migrated => pure (some migrated)
  | .error error =>
    if blockedByPriorClaim error then do
      let _ ← synchronizePendingClaims answers.pendingRecords scheduled.trigger.receiverId (.at now) now
      retryPrimary triggerId scheduled now
      pure none
    else
      throw (.restoration error)

def planOrRecoverTrigger (triggerId : RestoreTriggerId) (scheduled : ScheduledTrigger)
    (answers : TriggerAnswers) (shouldPlan : Bool) (now : MonotonicMs) :
    SchedulerM TriggerPlanDisposition :=
  let synchronize := synchronizePendingClaims answers.pendingRecords scheduled.trigger.receiverId
    (.trigger scheduled.trigger.kind) now
  match shouldPlan, answers.planRestore with
  | false, _ => do
    let _ ← synchronize
    pure .continue
  | true, .ok (.planned _) => do
    let _ ← synchronize
    pure .continue
  | true, .ok .profileAuthorityUnavailable => do
    let _ ← synchronize
    pure .continue
  | true, .ok .noStableIntents => do
    let _ ← synchronize
    pure .noRestorableIntent
  | true, .ok .noCompatibleStableIntents => do
    let _ ← synchronize
    pure .noRestorableIntent
  | true, .ok .disabled => throw (.restoration .runtimeDisabled)
  | true, .error error =>
    if blockedByPriorClaim error then do
      let _ ← synchronizePendingClaims answers.pendingRecords scheduled.trigger.receiverId (.at now) now
      retryPrimary triggerId scheduled now
      pure .continue
    else
      throw (.restoration error)

def configureReceiver (receiverId : ReceiverId) : SchedulerM Unit :=
  modify fun scheduler => { scheduler with
    configuredReceivers := if receiverId ∈ scheduler.configuredReceivers
      then scheduler.configuredReceivers else receiverId :: scheduler.configuredReceivers }

/-- The attempt of a return epoch first tries the effect replay; whether it settled the trigger. -/
def replayEffect (scheduled : ScheduledTrigger) (answers : TriggerAnswers) : SchedulerM Bool :=
  match scheduled.purpose, scheduled.trigger.targetDeviceId with
  | .returnAttempt _, some _ => do
    let status ← lift id answers.effectReplay
    pure (status = .queued ∨ status = .deferred)
  | _, _ => pure false

/-- An envelope with nothing to restore is given up. -/
def finishEnvelope (scheduled : ScheduledTrigger) (disposition : TriggerPlanDisposition) : SchedulerM Unit :=
  match disposition, scheduled.purpose, scheduled.trigger.targetDeviceId with
  | .noRestorableIntent, .returnAttempt _, some deviceId =>
    modify (consumeDeviceReturnEpoch ⟨scheduled.trigger.receiverId, scheduled.trigger.generationId, deviceId⟩)
  | _, _, _ => pure ()

def planTaken (triggerId : RestoreTriggerId) (scheduled : ScheduledTrigger) (newlyConfigured : Bool)
    (answers : TriggerAnswers) (now : MonotonicMs) : SchedulerM Unit := do
  match ← rebindOrRecoverBlockingClaims triggerId scheduled answers now with
  | none => pure ()
  | some migrated =>
    let pending ← if newlyConfigured then lift .restoration answers.priorRecords else pure []
    let disposition ← planOrRecoverTrigger triggerId scheduled answers (pending.isEmpty ∨ migrated > 0) now
    finishEnvelope scheduled disposition

/-- Configures the trigger's receiver once its work went through. -/
def configureTaken (scheduled : ScheduledTrigger) (newlyConfigured : Bool) : SchedulerM Unit :=
  match newlyConfigured with
  | true => configureReceiver scheduled.trigger.receiverId
  | false => pure ()

def processTaken (triggerId : RestoreTriggerId) (scheduled : ScheduledTrigger)
    (newlyConfigured : Bool) (answers : TriggerAnswers) (now : MonotonicMs) : SchedulerM Unit := do
  lift .restoration (if newlyConfigured then answers.setEnabled else .ok ())
  match ← replayEffect scheduled answers with
  | true => configureTaken scheduled newlyConfigured
  | false =>
    planTaken triggerId scheduled newlyConfigured answers now
    configureTaken scheduled newlyConfigured

def processDueTrigger (answers : TriggerAnswers) (now : MonotonicMs) : SchedulerM Unit := do
  let scheduler ← get
  match dueTriggerId scheduler.triggers now with
  | none => pure ()
  | some triggerId =>
    match scheduler.triggers[triggerId]? with
    | none => throw .identifier
    | some scheduled =>
      set { scheduler with triggers := scheduler.triggers.erase triggerId }
      processTaken triggerId scheduled
        (scheduled.trigger.receiverId ∉ scheduler.configuredReceivers) answers now

def observeAdvance (scheduled : ScheduledClaim) (answers : ClaimAnswers) (now : MonotonicMs) :
    RestoreAdvanceResult → SchedulerM Unit
  | .deferred record =>
    match record.status with
    | .deferred deferred => do
      let scheduler ← get
      let deferCount := min (scheduled.deferCount + 1) 255
      let due ← lift id (deferredDue now deferred.reason scheduler.retryIntervalMs deferCount)
      scheduleRecordWithDefer record due deferCount
    | _ => throw .identifier
  | .queued _ => do
    let terminal ← lift .restoration answers.dispatchClaim
    if terminal.status.isTerminal then
      pure ()
    else
      let scheduler ← get
      let due ← lift id (dueAfter now scheduler.retryIntervalMs)
      scheduleRecordWithDefer terminal due 0
  | .terminal _ => pure ()

def processDueClaim (answers : ClaimAnswers) (now : MonotonicMs) : SchedulerM Bool := do
  let scheduler ← get
  match dueClaimId scheduler.claims now with
  | none => pure false
  | some claimId =>
    match scheduler.claims[claimId]? with
    | none => throw .identifier
    | some scheduled =>
      set { scheduler with claims := scheduler.claims.erase claimId }
      match answers.advanceClaim with
      | .ok advance => do
        observeAdvance scheduled answers now advance
        pure true
      | .error error =>
        if blockedByPriorClaim error ∨ error = .unknownClaim then do
          let retryDue ← lift id (dueAfter now scheduler.retryIntervalMs)
          let _ ← synchronizePendingClaims answers.pendingRecords scheduled.receiverId (.at retryDue) now
          pure true
        else
          throw (.restoration error)

def processDueClaims (now : MonotonicMs) : List ClaimAnswers → SchedulerM Unit
  | [] => pure ()
  | answers :: rest => do
    match ← processDueClaim answers now with
    | true => processDueClaims now rest
    | false => pure ()

/-- One tick at the time the daemon's clock reads. -/
def tickAt (now : MonotonicMs) (trigger : TriggerAnswers) (claims : List ClaimAnswers) : SchedulerM Unit := do
  let scheduler ← get
  if scheduler.enabled = false then
    pure ()
  else
    processDueTrigger trigger now
    processDueClaims now (claims.take scheduler.claimsPerTick)

end RestorationScheduler

end HyperfluxNext
