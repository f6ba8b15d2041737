import HyperfluxNext.Core.Coordinator

namespace HyperfluxNext

open Procedure

inductive StableLighting where
  | off
  | static (colors : List RgbColor)
deriving DecidableEq

structure PersistedStableIntent where
  schemaVersion : PersistenceSchemaVersion
  receiverId : ReceiverId
  deviceId : LogicalDeviceId
  receiverProfileId : ProfileId
  receiverProfileDigest : ProfileDigest
  profileId : ProfileId
  profileDigest : ProfileDigest
  applicationSlotCount : LedCount
  revision : IntentRevision
  contentDigest : IntentDigest
  sourceTransactionId : TransactionId
  sourceRequestDigest : RequestDigest
  lighting : StableLighting
  capturedAt : WallClockUnixMs
deriving DecidableEq

structure StableIntentTombstone where
  schemaVersion : PersistenceSchemaVersion
  receiverId : ReceiverId
  deviceId : LogicalDeviceId
  revision : IntentRevision
  previousContentDigest : Option IntentDigest
  deletedAt : WallClockUnixMs
deriving DecidableEq

inductive PersistedStableEntry where
  | present (intent : PersistedStableIntent)
  | deleted (tombstone : StableIntentTombstone)
deriving DecidableEq

structure StableIntentChange where
  expectedRevision : Option IntentRevision
  entry : PersistedStableEntry

structure PersistedRestorePolicy where
  schemaVersion : PersistenceSchemaVersion
  receiverId : ReceiverId
  enabled : Bool
  revision : PersistenceRevision
deriving DecidableEq

structure RestoreTrigger where
  triggerId : RestoreTriggerId
  kind : RestoreTriggerKind
  receiverId : ReceiverId
  generationId : GenerationId
  targetDeviceId : Option LogicalDeviceId
deriving DecidableEq

structure RestoreAttempt where
  attemptNumber : RestoreAttemptNumber
  leaseRequest : LeaseRequest
  request : TransactionRequest
  requestDigest : RequestDigest
  submission : SubmissionBinding
deriving DecidableEq

structure RestoreCompletion where
  attemptNumber : RestoreAttemptNumber
  transactionId : TransactionId
  requestDigest : RequestDigest
  state : TransactionState
  deliveredFrames : DeliveredFrameCount
  sideEffectCertainty : SideEffectCertainty
  liveWriteExecuted : Bool
  automaticRetry : Bool
  deviceApplication : DeviceApplicationState
  errorKind : Option ProtocolErrorKind
deriving DecidableEq

structure RestoreDeferred where
  reason : RestoreDeferReason
  priorOutcome : Option RestoreCompletion
deriving DecidableEq

inductive RestoreRecordStatus where
  | planned
  | deferred (deferred : RestoreDeferred)
  | prepared (attempt : RestoreAttempt)
  | queued (attempt : RestoreAttempt)
  | applying (attempt : RestoreAttempt)
  | succeeded (completion : RestoreCompletion)
  | failed (completion : RestoreCompletion)
  | invalidated (reason : RestoreInvalidationReason)
deriving DecidableEq

inductive RestoreRecordState where
  | planned | deferred | prepared | queued | applying | succeeded | failed | invalidated
deriving DecidableEq

structure RestoreRecord where
  schemaVersion : PersistenceSchemaVersion
  claimId : RestoreClaimId
  triggerId : RestoreTriggerId
  triggerKind : RestoreTriggerKind
  receiverId : ReceiverId
  generationId : GenerationId
  deviceId : LogicalDeviceId
  intentRevision : IntentRevision
  intentDigest : IntentDigest
  revision : PersistenceRevision
  lastAttempt : Option RestoreAttemptNumber
  status : RestoreRecordStatus
deriving DecidableEq

structure RestoreRecordChange where
  expectedRevision : Option PersistenceRevision
  record : RestoreRecord

inductive PersistenceCasOutcome where
  | applied | conflict

inductive PersistenceOperation where
  | loadPolicy | savePolicy | loadIntent | saveIntent | loadRestore | saveRestore
deriving DecidableEq

inductive RestorationError where
  | runtimeDisabled | invalidSchemaVersion | stableEntryCapacity | restoreRecordCapacity
  | receiverMismatch | duplicateDevice | invalidStableTransaction | stableReplayConflict
  | invalidTrigger | captureMismatch | authorityDeadlineOverflow | intentDigestMismatch
  | intentMissing | unknownClaim | priorClaimUnresolved | priorOutcomeUncertain
  | generationStillActive (receiverId : ReceiverId) (generationId : GenerationId)
  | recordIdentityConflict
  | invalidTransition (source target : RestoreRecordState)
  | revisionOverflow | identifier | nonceOverflow
  | persistence (operation : PersistenceOperation)
  | persistenceConflict (operation : PersistenceOperation)
  | lease (error : LeaseManagerError)
  | transaction (error : TransactionCoordinatorError)
  | event (error : EventLogError)
deriving DecidableEq

structure ClaimIdentity where
  triggerId : RestoreTriggerId
  triggerKind : RestoreTriggerKind
  receiverId : ReceiverId
  generationId : GenerationId
  deviceId : LogicalDeviceId
  intentRevision : IntentRevision
  intentDigest : IntentDigest

structure IntentDigestInput where
  receiverId : ReceiverId
  deviceId : LogicalDeviceId
  receiverProfileId : ProfileId
  receiverProfileDigest : ProfileDigest
  profileId : ProfileId
  profileDigest : ProfileDigest
  applicationSlotCount : LedCount
  lighting : StableLighting

/-- The SHA-256 identities of the restoration documents, besides those of requests. -/
class RestorationDigests extends CanonicalDigests where
  claimDigest : ClaimIdentity → Text 64 64
  intentDigest : IntentDigestInput → IntentDigest

def currentSchemaVersion : PersistenceSchemaVersion := .lit 1

def maxStableEntriesPerReceiver : Nat := 32

def maxRestoreRecordsPerReceiver : Nat := 256

namespace PersistedStableEntry

def revision : PersistedStableEntry → IntentRevision
  | .present intent => intent.revision
  | .deleted tombstone => tombstone.revision

def receiverId : PersistedStableEntry → ReceiverId
  | .present intent => intent.receiverId
  | .deleted tombstone => tombstone.receiverId

def deviceId : PersistedStableEntry → LogicalDeviceId
  | .present intent => intent.deviceId
  | .deleted tombstone => tombstone.deviceId

def schemaVersion : PersistedStableEntry → PersistenceSchemaVersion
  | .present intent => intent.schemaVersion
  | .deleted tombstone => tombstone.schemaVersion

end PersistedStableEntry

namespace RestoreRecordStatus

def state : RestoreRecordStatus → RestoreRecordState
  | .planned => .planned
  | .deferred _ => .deferred
  | .prepared _ => .prepared
  | .queued _ => .queued
  | .applying _ => .applying
  | .succeeded _ => .succeeded
  | .failed _ => .failed
  | .invalidated _ => .invalidated

def isTerminal : RestoreRecordStatus → Bool
  | .succeeded _ => true
  | .failed _ => true
  | .invalidated _ => true
  | _ => false

def activeAttempt : RestoreRecordStatus → Option RestoreAttempt
  | .prepared attempt => some attempt
  | .queued attempt => some attempt
  | .applying attempt => some attempt
  | _ => none

end RestoreRecordStatus

def restoreTransitionAllowed : RestoreRecordState → RestoreRecordState → Bool
  | .planned, target => target ∈ [RestoreRecordState.deferred, .prepared, .invalidated]
  | .deferred, target => target ∈ [RestoreRecordState.deferred, .prepared, .invalidated]
  | .prepared, target =>
    target ∈ [RestoreRecordState.prepared, .deferred, .queued, .succeeded, .failed, .invalidated]
  | .applying, target =>
    target ∈ [RestoreRecordState.prepared, .deferred, .queued, .succeeded, .failed, .invalidated]
  | .queued, target => target ∈ [RestoreRecordState.prepared, .queued, .deferred, .applying,
      .succeeded, .failed, .invalidated]
  | _, _ => false

/-- The successor of a revision or attempt counter, one when there is none yet. -/
def nextCounter {hi : Nat} (current : Option (Bounded 1 hi)) : Except RestorationError (Bounded 1 hi) :=
  match Bounded.tryFrom 1 hi (match current with | none => 1 | some value => value.get + 1) with
  | none => .error .revisionOverflow
  | some next => .ok next

def nextIntentRevision (current : Option IntentRevision) : Except RestorationError IntentRevision :=
  nextCounter current

def nextPersistenceRevision (current : Option PersistenceRevision) : Except RestorationError PersistenceRevision :=
  nextCounter current

def nextAttemptNumber (current : Option RestoreAttemptNumber) : Except RestorationError RestoreAttemptNumber :=
  nextCounter current

def transitionRecord (record : RestoreRecord) (status : RestoreRecordStatus) :
    Except RestorationError RestoreRecord := do
  reject (¬ restoreTransitionAllowed record.status.state status.state)
    (.invalidTransition record.status.state status.state)
  let revision ← nextPersistenceRevision (some record.revision)
  return { record with revision := revision, status := status }

def validateSchema (version : PersistenceSchemaVersion) : Except RestorationError Unit :=
  reject (version ≠ currentSchemaVersion) .invalidSchemaVersion

def attemptSuffix (claimId : RestoreClaimId) (attempt : RestoreAttemptNumber) : String :=
  claimId.asStr ++ "-" ++ toString attempt.get

def typedId (idPrefix suffix : String) : Except RestorationError (Text 1 128) :=
  match Text.tryFrom 1 128 (idPrefix ++ "-" ++ suffix) with
  | none => .error .identifier
  | some value => .ok value

def lightingResource (receiverId : ReceiverId) (generationId : GenerationId)
    (deviceId : LogicalDeviceId) : ResourceKey :=
  ⟨receiverId, generationId, deviceId, .lighting⟩

section Digests

variable [RestorationDigests]

def claimIdFromIdentity (identity : ClaimIdentity) : Except RestorationError RestoreClaimId :=
  typedId "restore" (RestorationDigests.claimDigest identity).asStr

def claimIdForRecord (record : RestoreRecord) : Except RestorationError RestoreClaimId :=
  claimIdFromIdentity ⟨record.triggerId, record.triggerKind, record.receiverId,
    record.generationId, record.deviceId, record.intentRevision, record.intentDigest⟩

def newRestoreRecord (trigger : RestoreTrigger) (intent : PersistedStableIntent) :
    Except RestorationError RestoreRecord := do
  let claimId ← claimIdFromIdentity ⟨trigger.triggerId, trigger.kind, trigger.receiverId,
    trigger.generationId, intent.deviceId, intent.revision, intent.contentDigest⟩
  let revision ← nextPersistenceRevision none
  return ⟨currentSchemaVersion, claimId, trigger.triggerId, trigger.kind, trigger.receiverId,
    trigger.generationId, intent.deviceId, intent.revision, intent.contentDigest, revision, none,
    .planned⟩

def validateAttempt (record : RestoreRecord) (attempt : RestoreAttempt) : Except RestorationError Unit :=
  let suffix := attemptSuffix record.claimId attempt.attemptNumber
  let expected := lightingResource record.receiverId record.generationId record.deviceId
  match attempt.request.deviceProfiles, attempt.request.frames with
  | binding :: _, frame :: _ => do
    reject (some attempt.attemptNumber ≠ record.lastAttempt) .recordIdentityConflict
    let requestId ← typedId "restore-request" suffix
    reject (attempt.request.requestId ≠ requestId) .recordIdentityConflict
    let transactionId ← typedId "restore-tx" suffix
    reject (attempt.request.transactionId ≠ transactionId) .recordIdentityConflict
    let leaseId ← typedId "restore-lease" suffix
    reject (attempt.request.leaseId ≠ leaseId) .recordIdentityConflict
    let leaseRequestId ← typedId "restore-lease-request" suffix
    reject (attempt.leaseRequest.requestId ≠ leaseRequestId) .recordIdentityConflict
    let digest ← (canonicalRequestDigest attempt.request).mapError fun _ => .recordIdentityConflict
    reject (¬ (attempt.requestDigest = digest ∧ attempt.request.transactionClass = .restore ∧
      attempt.request.receiverId = record.receiverId ∧
      attempt.request.generationId = record.generationId ∧
      attempt.request.clientId = attempt.leaseRequest.clientId ∧
      attempt.request.resources = [expected] ∧ attempt.leaseRequest.resources = [expected] ∧
      attempt.request.deviceProfiles.length = 1 ∧ binding.deviceId = record.deviceId ∧
      attempt.request.frames.length = 1 ∧ frame.deviceId = record.deviceId ∧
      frame.frameIndex.get = 0 ∧ frame.colors.length = binding.applicationSlotCount.get))
      .recordIdentityConflict
  | _, _ => .error .recordIdentityConflict

end Digests

def safeRetry (completion : RestoreCompletion) : Bool :=
  completion.automaticRetry ∧ completion.liveWriteExecuted = false ∧
    completion.deliveredFrames.get = 0 ∧ completion.sideEffectCertainty = .none

def successFacts (completion : RestoreCompletion) : Bool :=
  completion.state = .succeeded ∧ completion.deliveredFrames.get = 1 ∧
    completion.sideEffectCertainty = .committed ∧ completion.liveWriteExecuted ∧
    completion.automaticRetry = false ∧ completion.deviceApplication ≠ .rejected ∧
    completion.errorKind = none

def failureFacts (completion : RestoreCompletion) : Bool :=
  completion.state ∈ [TransactionState.failed, .revoked] ∧ completion.deliveredFrames.get ≤ 1 ∧
    (completion.automaticRetry = false ∨ safeRetry completion) ∧
    (completion.deliveredFrames.get = 0 ∨ completion.liveWriteExecuted) ∧
    (completion.sideEffectCertainty = .none ∨ completion.liveWriteExecuted) ∧
    (completion.errorKind.isSome ∨ safeRetry completion)

def validateCompletion (record : RestoreRecord) (completion : RestoreCompletion)
    (successful : Bool) : Except RestorationError Unit :=
  match record.lastAttempt with
  | none => .error .recordIdentityConflict
  | some lastAttempt => do
    reject (completion.attemptNumber ≠ lastAttempt) .recordIdentityConflict
    let transactionId ← typedId "restore-tx" (attemptSuffix record.claimId completion.attemptNumber)
    reject (¬ (completion.transactionId = transactionId ∧
      (if successful then successFacts completion else failureFacts completion)))
      .recordIdentityConflict

def validateStatus [RestorationDigests] (record : RestoreRecord) : Except RestorationError Unit :=
  match record.status with
  | .prepared attempt => validateAttempt record attempt
  | .queued attempt => validateAttempt record attempt
  | .applying attempt => validateAttempt record attempt
  | .succeeded completion => validateCompletion record completion true
  | .failed completion => validateCompletion record completion false
  | .deferred ⟨_, some completion⟩ => validateCompletion record completion false
  | .deferred ⟨_, none⟩ => .ok ()
  | .planned => .ok ()
  | .invalidated _ => .ok ()

def validateRecord [RestorationDigests] (record : RestoreRecord) : Except RestorationError Unit := do
  validateSchema record.schemaVersion
  let claimId ← claimIdForRecord record
  reject (claimId ≠ record.claimId) .recordIdentityConflict
  validateStatus record

def enforcePriorOutcomes : List RestoreRecord → Except RestorationError Unit
  | [] => .ok ()
  | prior :: records => do
    reject prior.status.activeAttempt.isSome .priorClaimUnresolved
    match prior.status with
    | .failed completion =>
      reject (completion.liveWriteExecuted ∨ completion.deliveredFrames.get > 0 ∨
        completion.sideEffectCertainty ≠ .none) .priorOutcomeUncertain
      enforcePriorOutcomes records
    | _ => enforcePriorOutcomes records

def validateSameClaim (existing candidate : RestoreRecord) : Except RestorationError Unit :=
  reject (¬ (existing.claimId = candidate.claimId ∧ existing.triggerId = candidate.triggerId ∧
    existing.triggerKind = candidate.triggerKind ∧ existing.receiverId = candidate.receiverId ∧
    existing.generationId = candidate.generationId ∧ existing.deviceId = candidate.deviceId ∧
    existing.intentRevision = candidate.intentRevision ∧
    existing.intentDigest = candidate.intentDigest)) .recordIdentityConflict

end HyperfluxNext
