import HyperfluxNext.Restoration.Store

namespace HyperfluxNext

open Procedure

/-- The durable store with the volatile collaborators a restoration call gets. -/
structure RestorationState (T : Type) where
  core : CoordinatorState T
  leases : LeaseManager
  store : FilePersistenceStore

abbrev RestorationM (T : Type) := EStateM RestorationError (RestorationState T)

inductive RestoreAdvanceResult where
  | deferred (record : RestoreRecord)
  | queued (record : RestoreRecord)
  | terminal (record : RestoreRecord)
deriving DecidableEq

def recordFromAdvance : RestoreAdvanceResult → RestoreRecord
  | .deferred record => record
  | .queued record => record
  | .terminal record => record

section Loading

variable [RestorationDigests]

def loadRecord (claimId : RestoreClaimId) (store : FilePersistenceStore) : Except RestorationError RestoreRecord :=
  match store.restoreRecord claimId with
  | none => .error .unknownClaim
  | some record => do
    validateRecord record
    return record

/-- The loop of the loader; `claims` are the claims already seen. -/
def validateRecords (receiverId : ReceiverId) (claims : List RestoreClaimId) :
    List RestoreRecord → Except RestorationError Unit
  | [] => .ok ()
  | record :: records => do
    validateRecord record
    reject (record.receiverId ≠ receiverId) .receiverMismatch
    reject (record.claimId ∈ claims) .recordIdentityConflict
    validateRecords receiverId (record.claimId :: claims) records

def loadRecords (receiverId : ReceiverId) (store : FilePersistenceStore) :
    Except RestorationError (List RestoreRecord) := do
  let records := store.restoreRecords receiverId
  reject (records.length > maxRestoreRecordsPerReceiver) .restoreRecordCapacity
  validateRecords receiverId [] records
  return records

def enforcePriorOutcomeBarrier (candidate : RestoreRecord) (store : FilePersistenceStore) :
    Except RestorationError Unit := do
  let records ← loadRecords candidate.receiverId store
  enforcePriorOutcomes (records.filter fun prior =>
    prior.claimId ≠ candidate.claimId ∧ prior.deviceId = candidate.deviceId ∧
      prior.intentRevision = candidate.intentRevision ∧
      prior.intentDigest = candidate.intentDigest)

def validateLightingDimensions (intent : PersistedStableIntent) : Bool :=
  match intent.lighting with
  | .off => true
  | .static colors => colors.length = intent.applicationSlotCount.get

def intentDigest (intent : PersistedStableIntent) : IntentDigest :=
  RestorationDigests.intentDigest ⟨intent.receiverId, intent.deviceId, intent.receiverProfileId,
    intent.receiverProfileDigest, intent.profileId, intent.profileDigest,
    intent.applicationSlotCount, intent.lighting⟩

def validateIntentDigest (intent : PersistedStableIntent) : Except RestorationError Unit := do
  reject (intent.applicationSlotCount.get = 0) .intentDigestMismatch
  reject (¬ (intentDigest intent = intent.contentDigest ∧ validateLightingDimensions intent))
    .intentDigestMismatch

def validateEntryIntent : PersistedStableEntry → Except RestorationError Unit
  | .present intent => validateIntentDigest intent
  | .deleted _ => .ok ()

def validateEntries (receiverId : ReceiverId) (devices : List LogicalDeviceId) :
    List PersistedStableEntry → Except RestorationError Unit
  | [] => .ok ()
  | entry :: entries => do
    validateSchema entry.schemaVersion
    reject (entry.receiverId ≠ receiverId) .receiverMismatch
    reject (entry.deviceId ∈ devices) .duplicateDevice
    validateEntryIntent entry
    validateEntries receiverId (entry.deviceId :: devices) entries

def loadEntries (receiverId : ReceiverId) (store : FilePersistenceStore) :
    Except RestorationError (List PersistedStableEntry) := do
  let entries := store.stableEntries receiverId
  reject (entries.length > maxStableEntriesPerReceiver) .stableEntryCapacity
  let entries := sortBy compare (·.deviceId) entries
  validateEntries receiverId [] entries
  return entries

def currentIntent (record : RestoreRecord) (store : FilePersistenceStore) :
    Except RestorationError (Option PersistedStableIntent) := do
  let entries ← loadEntries record.receiverId store
  return entries.findSome? fun entry =>
    match entry with
    | .present intent =>
      if intent.deviceId = record.deviceId ∧ intent.revision = record.intentRevision ∧
          intent.contentDigest = record.intentDigest then some intent else none
    | .deleted _ => none

end Loading

def restoreEnabled (receiverId : ReceiverId) (store : FilePersistenceStore) : Except RestorationError Bool :=
  match store.restorePolicy receiverId with
  | none => .ok false
  | some policy => do
    validateSchema policy.schemaVersion
    reject (policy.receiverId ≠ receiverId) .receiverMismatch
    return policy.enabled

def readinessDeferReason : DeviceWriteReadiness → Option RestoreDeferReason
  | .ready => none
  | .sleeping => some .deviceSleeping
  | .unavailable => some .deviceUnavailable
  | .unknown => some .deviceUnknown

namespace Restoration

def deliveredFrameCount (delivered : Nat) : Except RestorationError DeliveredFrameCount :=
  match Bounded.tryFrom 0 4096 delivered with
  | none => .error .recordIdentityConflict
  | some count => .ok count

def normalizeFacts (facts : TransportFailureFacts) : Except RestorationError TransportFailureFacts := do
  let delivered := min facts.deliveredFrames.get 1
  let deliveredFrames ← deliveredFrameCount delivered
  let facts := { facts with deliveredFrames := deliveredFrames }
  let facts :=
    if delivered > 0 then
      { facts with sideEffectCertainty := .committed, liveWriteExecuted := true }
    else if facts.liveWriteExecuted ∧ facts.sideEffectCertainty = .none then
      { facts with sideEffectCertainty := .possible }
    else
      facts
  return { facts with
    automaticRetrySafe := facts.automaticRetrySafe ∧ facts.liveWriteExecuted = false ∧
      facts.deliveredFrames.get = 0 ∧ facts.sideEffectCertainty = .none }

end Restoration

def completionFromReceipt (attempt : RestoreAttempt) (receipt : TransportReceipt) :
    Except RestorationError RestoreCompletion := do
  let reportedTooMany : Bool := receipt.deliveredFrames.get > 1
  let facts ← Restoration.normalizeFacts receipt.facts
  let successful : Bool := ¬ reportedTooMany ∧ receipt.terminal = .delivered ∧
    facts.deliveredFrames.get = 1 ∧ facts.sideEffectCertainty = .committed ∧
    facts.liveWriteExecuted ∧ facts.deviceApplication ≠ .rejected
  let (state, errorKind) : TransactionState × Option ProtocolErrorKind :=
    if successful then (.succeeded, none)
    else if receipt.terminal = .revoked then (.revoked, some .staleGeneration)
    else if reportedTooMany then (.failed, some .internalFailure)
    else (.failed, some .transportFailure)
  return ⟨attempt.attemptNumber, attempt.request.transactionId, attempt.requestDigest, state,
    facts.deliveredFrames, facts.sideEffectCertainty, facts.liveWriteExecuted,
    facts.automaticRetrySafe && ! successful, facts.deviceApplication, errorKind⟩

def completionFromFailure (attempt : RestoreAttempt) (reported : TransportFailureFacts) :
    Except RestorationError RestoreCompletion := do
  let facts ← Restoration.normalizeFacts reported
  return ⟨attempt.attemptNumber, attempt.request.transactionId, attempt.requestDigest, .failed,
    facts.deliveredFrames, facts.sideEffectCertainty, facts.liveWriteExecuted,
    facts.automaticRetrySafe, facts.deviceApplication,
    some (if reported.deliveredFrames.get > 1 then .internalFailure else .transportFailure)⟩

def unknownCompletion (attempt : RestoreAttempt) (errorKind : ProtocolErrorKind) : RestoreCompletion :=
  ⟨attempt.attemptNumber, attempt.request.transactionId, attempt.requestDigest, .failed,
    zeroDelivered, .possible, true, false, .unverified, some errorKind⟩

def completionFromTerminal (attempt : RestoreAttempt) (terminal : TransactionTerminal) :
    Except RestorationError RestoreCompletion := do
  reject (terminal.requestId ≠ attempt.request.requestId ∨
    terminal.requestDigest ≠ attempt.requestDigest ∨
    terminal.transactionId ≠ attempt.request.transactionId ∨
    terminal.receiverId ≠ attempt.request.receiverId ∨
    terminal.generationId ≠ attempt.request.generationId ∨
    terminal.declaredFrames.get ≠ 1 ∨ terminal.deliveredFrames.get > 1) .recordIdentityConflict
  return ⟨attempt.attemptNumber, terminal.transactionId, terminal.requestDigest, terminal.state,
    terminal.deliveredFrames, terminal.sideEffectCertainty, terminal.liveWriteExecuted,
    terminal.automaticRetry, terminal.deviceApplication, terminal.errorKind⟩

/-- The completion a transport answer about an exact dispatch proves; none when it saw nothing. -/
def completionFromReconciliation (attempt : RestoreAttempt) :
    TransportReconciliation → Except RestorationError (Option RestoreCompletion)
  | .notObserved => .ok none
  | .retained receipt => (completionFromReceipt attempt receipt).map some
  | .retainedFailure facts => (completionFromFailure attempt facts).map some
  | .evicted => .ok (some (unknownCompletion attempt .outcomeEvicted))
  | .unavailable => .ok (some (unknownCompletion attempt .outcomeUnknown))
  | .conflict => .ok (some (unknownCompletion attempt .outcomeUnknown))

def completedSuccessfully (completion : RestoreCompletion) : Bool :=
  completion.state = .succeeded ∧ completion.deliveredFrames.get = 1 ∧
    completion.sideEffectCertainty = .committed ∧ completion.liveWriteExecuted ∧
    completion.deviceApplication ≠ .rejected ∧ completion.errorKind = none

def failedCompletion (completion : RestoreCompletion) : RestoreCompletion :=
  if completion.state = .succeeded then
    { completion with
      state := .failed, errorKind := some .internalFailure, automaticRetry := false }
  else if completion.state ≠ .failed then
    { completion with
      state := .failed, errorKind := some (completion.errorKind.getD .internalFailure) }
  else
    completion

section Calls

variable {T : Type} {α : Type}

def withStore (operation : PersistenceOperation) (m : StoreM α) : RestorationM T α :=
  zoom (·.store) (fun state store => { state with store := store }) (fun _ => .persistence operation) m

def withLeases (m : LeaseM α) : RestorationM T α :=
  zoom (·.leases) (fun state leases => { state with leases := leases }) .lease m

def withTransactions (m : CoordinatorM T α) : RestorationM T α :=
  zoom (·.core) (fun state core => { state with core := core }) .transaction m

def persistRecords (changes : List RestoreRecordChange) : RestorationM T Unit := do
  match ← withStore .saveRestore (FilePersistenceStore.compareAndSetRestoreRecords changes) with
  | .applied => pure ()
  | .conflict => throw (.persistenceConflict .saveRestore)

def persistRecord (expectedRevision : Option PersistenceRevision) (record : RestoreRecord) : RestorationM T Unit :=
  persistRecords [⟨expectedRevision, record⟩]

def terminalEventDraft (record : RestoreRecord) : EventDraft :=
  let transactionId := match record.status with
    | .succeeded completion => some completion.transactionId
    | .failed completion => some completion.transactionId
    | _ => none
  ⟨.restoreCompleted, some record.receiverId, some record.generationId, some record.deviceId, none,
    transactionId, none⟩

def emitTerminal (record : RestoreRecord) : RestorationM T Unit := do
  let state ← get
  let (_, events) ← lift .event (state.core.events.append (terminalEventDraft record))
  set { state with core := { state.core with events := events } }

/-- Moves a stored record to a status and saves it under the revision it was loaded with. -/
def saveTransition (record : RestoreRecord) (status : RestoreRecordStatus) : RestorationM T RestoreRecord := do
  let next ← lift id (transitionRecord record status)
  persistRecord (some record.revision) next
  pure next

def defer (record : RestoreRecord) (reason : RestoreDeferReason)
    (priorOutcome : Option RestoreCompletion) : RestorationM T RestoreAdvanceResult := do
  let deferred ← saveTransition record (.deferred ⟨reason, priorOutcome⟩)
  pure (.deferred deferred)

def conclude (record : RestoreRecord) (status : RestoreRecordStatus) : RestorationM T RestoreAdvanceResult := do
  let concluded ← saveTransition record status
  emitTerminal concluded
  pure (.terminal concluded)

def invalidate (record : RestoreRecord) (reason : RestoreInvalidationReason) :
    RestorationM T RestoreAdvanceResult :=
  conclude record (.invalidated reason)

def finishRecord (record : RestoreRecord) (completion : RestoreCompletion) : RestorationM T RestoreAdvanceResult :=
  if completedSuccessfully completion then
    conclude record (.succeeded completion)
  else if safeRetry completion then
    defer record .safeTransactionFailure (some completion)
  else if completion.state = .revoked ∧ completion.errorKind = some .staleGeneration then
    invalidate record .staleGeneration
  else
    conclude record (.failed (failedCompletion completion))

def finishFromTransaction (record : RestoreRecord) (terminal : TransactionTerminal) :
    RestorationM T RestoreAdvanceResult :=
  match record.status.activeAttempt with
  | none => throw .recordIdentityConflict
  | some attempt => do
    let completion ← lift id (completionFromTerminal attempt terminal)
    finishRecord record completion

def reconcileTerminal (record : RestoreRecord) (attempt : RestoreAttempt)
    (reconciliation : TransportReconciliation) : RestorationM T RestoreAdvanceResult := do
  match ← lift id (completionFromReconciliation attempt reconciliation) with
  | none => throw .recordIdentityConflict
  | some completion => finishRecord record completion

def handleSubmissionError (record : RestoreRecord) :
    TransactionCoordinatorError → RestorationM T RestoreAdvanceResult
  | .sessionRevoked => defer record .sessionUnavailable none
  | .ownershipDenied => defer record .ownershipConflict none
  | .staleGeneration => invalidate record .staleGeneration
  | .unsupportedResource => invalidate record .profileChanged
  | .profileBindingChanged => invalidate record .profileChanged
  | .deviceNotReady readiness =>
    match readinessDeferReason readiness with
    | none => throw (.transaction (.deviceNotReady readiness))
    | some reason => defer record reason none
  | .queue .deadlineElapsed => defer record .deadlineElapsed none
  | .queue .full => defer record .safeTransactionFailure none
  | error => throw (.transaction error)

/-- Gives the attempt's lease back; a lease that is already gone is no error. -/
def releaseLease (attempt : RestoreAttempt) (now : MonotonicMs) :
    EStateM RestorationError LeaseManager Unit := do
  match ← Procedure.attempt (LeaseManager.release attempt.request.clientId attempt.request.leaseId now) with
  | .ok _ => pure ()
  | .error .unknownLease => pure ()
  | .error error => throw (.lease error)

def releaseAttemptLease (attempt : RestoreAttempt) (now : MonotonicMs) : RestorationM T Unit :=
  zoom (·.leases) (fun state leases => { state with leases := leases }) id (releaseLease attempt now)

end Calls

end HyperfluxNext
