import HyperfluxNext.Restoration.Planning

namespace HyperfluxNext

open Procedure

structure RestorationAuthority where
  clientId : ClientId
  submission : SubmissionBinding
  leaseDurationMs : LeaseDurationMs
  deadlineMs : MonotonicMs

inductive LeaseAcquireResult where
  | granted | conflict

inductive DispatchGate where
  | ready
  | deferred (reason : RestoreDeferReason)
  | invalidated (reason : RestoreInvalidationReason)
deriving DecidableEq

/-- What the authorities say about a claim that is to be advanced. -/
inductive AdvanceGate where
  | ready (intent : PersistedStableIntent)
  | deferred (reason : RestoreDeferReason)
  | invalidated (reason : RestoreInvalidationReason)

def dispatchFromAttempt (attempt : RestoreAttempt) : TransportDispatch :=
  ⟨attempt.submission.sessionId, attempt.submission.authorizationEpoch,
    attempt.submission.dispatchNonce, attempt.request.receiverId, attempt.request.generationId,
    attempt.request.transactionId, attempt.requestDigest, attempt.request.receiverProfileId,
    attempt.request.receiverProfileDigest, attempt.request.deviceProfiles, attempt.request.frames⟩

def black : RgbColor := ⟨.lit 0, .lit 0, .lit 0⟩

def lightingColors (intent : PersistedStableIntent) : Except RestorationError (List RgbColor) :=
  let count := intent.applicationSlotCount.get
  if count = 0 then
    .error .intentDigestMismatch
  else
    match intent.lighting with
    | .static colors => if colors.length = count then .ok colors else .error .intentDigestMismatch
    | .off => .ok (List.replicate count black)

section Attempts

variable [RestorationDigests]

def buildAttempt (record : RestoreRecord) (intent : PersistedStableIntent)
    (authority : RestorationAuthority) (attemptNumber : RestoreAttemptNumber) :
    Except RestorationError RestoreAttempt := do
  let colors ← lightingColors intent
  let suffix := attemptSuffix record.claimId attemptNumber
  let transactionId ← typedId "restore-tx" suffix
  let resource := lightingResource record.receiverId record.generationId record.deviceId
  let leaseRequestId ← typedId "restore-lease-request" suffix
  let requestId ← typedId "restore-request" suffix
  let leaseId ← typedId "restore-lease" suffix
  let request : TransactionRequest := {
    requestId := requestId
    transactionId := transactionId
    clientId := authority.clientId
    leaseId := leaseId
    receiverId := record.receiverId
    generationId := record.generationId
    receiverProfileId := intent.receiverProfileId
    receiverProfileDigest := intent.receiverProfileDigest
    deviceProfiles := [⟨record.deviceId, intent.profileId, intent.profileDigest, intent.applicationSlotCount⟩]
    transactionClass := .restore
    stableIntents := []
    deadlineMs := authority.deadlineMs
    resources := [resource]
    frames := [⟨record.deviceId, .lit 0, colors⟩] }
  let requestDigest ← (canonicalRequestDigest request).mapError fun _ => .identifier
  return ⟨attemptNumber, ⟨leaseRequestId, authority.clientId, [resource], authority.leaseDurationMs⟩,
    request, requestDigest, authority.submission⟩

variable {T : Type} [ReceiverTransport T]

/-- The checks `advance_claim` makes, in its order, once no earlier dispatch was observed. -/
def advanceGate (record : RestoreRecord) (authority : RestorationAuthority) (now : MonotonicMs)
    (ports : Authorities) (transport : T) (store : FilePersistenceStore) :
    Except RestorationError AdvanceGate := do
  let resource := lightingResource record.receiverId record.generationId record.deviceId
  match ← currentIntent record store with
  | none => return .invalidated .intentChanged
  | some intent =>
    match ← restoreEnabled record.receiverId store with
    | false => return .invalidated .restoreDisabled
    | true =>
      if ReceiverTransport.currentGeneration transport record.receiverId ≠ some record.generationId then
        return .invalidated .staleGeneration
      else
        match readinessDeferReason (ports.devices.writeReadiness resource) with
        | some reason => return .deferred reason
        | none =>
          if ¬ profileMatches record intent resource ports.profiles then
            return .invalidated .profileChanged
          else if ¬ ports.sessions.authorizes authority.submission.sessionId
              authority.submission.authorizationEpoch then
            return .deferred .sessionUnavailable
          else if authority.deadlineMs ≤ now then
            return .deferred .deadlineElapsed
          else
            return .ready intent

/-- The checks of `dispatch_claim`, in its order. -/
def dispatchGate (record : RestoreRecord) (attempt : RestoreAttempt) (now : MonotonicMs)
    (ports : Authorities) (transport : T) (store : FilePersistenceStore) :
    Except RestorationError DispatchGate := do
  let resource := lightingResource record.receiverId record.generationId record.deviceId
  match ← currentIntent record store with
  | none => return .invalidated .intentChanged
  | some intent =>
    match ← restoreEnabled record.receiverId store with
    | false => return .invalidated .restoreDisabled
    | true =>
      if ReceiverTransport.currentGeneration transport record.receiverId ≠ some record.generationId then
        return .invalidated .staleGeneration
      else if ¬ profileMatches record intent resource ports.profiles then
        return .invalidated .profileChanged
      else
        match readinessDeferReason (ports.devices.writeReadiness resource) with
        | some reason => return .deferred reason
        | none =>
          if ¬ ports.sessions.authorizes attempt.submission.sessionId attempt.submission.authorizationEpoch then
            return .deferred .sessionUnavailable
          else if attempt.request.deadlineMs ≤ now then
            return .deferred .deadlineElapsed
          else
            return .ready

def reusable (attempt : RestoreAttempt) (authority : RestorationAuthority) (now : MonotonicMs) : Bool :=
  attempt.submission = authority.submission ∧ attempt.request.clientId = authority.clientId ∧
    attempt.leaseRequest.durationMs = authority.leaseDurationMs ∧ attempt.request.deadlineMs > now

def acquireResult (attempt : RestoreAttempt) (now : MonotonicMs) : RestorationM T LeaseAcquireResult := do
  match ← withLeases (LeaseManager.acquire attempt.leaseRequest attempt.request.leaseId now) with
  | .granted _ => pure .granted
  | .conflict _ => pure .conflict
  | .rejected _ => pure .conflict

/-- Persists a new attempt of the claim before anything is done for it. -/
def prepareAttempt (record : RestoreRecord) (intent : PersistedStableIntent)
    (authority : RestorationAuthority) : RestorationM T (RestoreRecord × RestoreAttempt) := do
  let next ← lift id (nextAttemptNumber record.lastAttempt)
  let attempt ← lift id (buildAttempt record intent authority next)
  let prepared ← saveTransition { record with lastAttempt := some next } (.prepared attempt)
  pure (prepared, attempt)

/-- What becomes of the claim once the submission of its attempt was answered. -/
def observeSubmission (record : RestoreRecord) (attempt : RestoreAttempt) (now : MonotonicMs) :
    Except TransactionCoordinatorError SubmissionResult → RestorationM T RestoreAdvanceResult
  | .ok (.queued _) => do
    let queued ← saveTransition record (.queued attempt)
    pure (.queued queued)
  | .ok (.replay (.progress _)) => do
    let queued ← saveTransition record (.queued attempt)
    pure (.queued queued)
  | .ok (.replay (.terminal terminal)) => do
    releaseAttemptLease attempt now
    finishFromTransaction record terminal
  | .ok (.replay (.unavailable _)) => do
    releaseAttemptLease attempt now
    finishRecord record (unknownCompletion attempt .outcomeUnknown)
  | .error error => do
    releaseAttemptLease attempt now
    handleSubmissionError record error

def submitAttempt (record : RestoreRecord) (attempt : RestoreAttempt) (now : MonotonicMs)
    (ports : Authorities) : RestorationM T RestoreAdvanceResult := do
  match ← acquireResult attempt now with
  | .conflict => defer record .ownershipConflict none
  | .granted =>
    let state ← get
    if ¬ state.leases.owns attempt.request.clientId attempt.request.leaseId attempt.request.resources now then
      defer record .ownershipConflict none
    else
      let submitted ← withTransactions (Procedure.attempt (TransactionCoordinator.submit
        attempt.request attempt.submission now ports state.leases))
      observeSubmission record attempt now submitted

/-- The part of `advance_claim` behind the reconciliation of an earlier attempt. -/
def advanceUnobserved (record : RestoreRecord) (authority : RestorationAuthority)
    (now : MonotonicMs) (ports : Authorities) : RestorationM T RestoreAdvanceResult := do
  let state ← get
  match ← lift id (advanceGate record authority now ports state.core.transport state.store) with
  | .invalidated reason => invalidate record reason
  | .deferred reason => defer record reason none
  | .ready intent =>
    match record.status.activeAttempt.filter (reusable · authority now) with
    | some attempt => submitAttempt record attempt now ports
    | none =>
      let (prepared, attempt) ← prepareAttempt record intent authority
      submitAttempt prepared attempt now ports

def advanceClaim (claimId : RestoreClaimId) (authority : RestorationAuthority)
    (now : MonotonicMs) (ports : Authorities) : RestorationM T RestoreAdvanceResult := do
  let state ← get
  let record ← lift id (loadRecord claimId state.store)
  if record.status.isTerminal then
    pure (.terminal record)
  else
    lift id (enforcePriorOutcomeBarrier record state.store)
    match record.status.activeAttempt with
    | none => advanceUnobserved record authority now ports
    | some attempt =>
      match ReceiverTransport.reconcile state.core.transport (dispatchFromAttempt attempt) with
      | .notObserved => advanceUnobserved record authority now ports
      | reconciliation =>
        releaseAttemptLease attempt now
        reconcileTerminal record attempt reconciliation

def markApplying (claimId : RestoreClaimId) : RestorationM T RestoreRecord := do
  let state ← get
  let record ← lift id (loadRecord claimId state.store)
  match record.status with
  | .queued attempt => saveTransition record (.applying attempt)
  | status => throw (.invalidTransition status.state .applying)

def cancelAndDefer (record : RestoreRecord) (attempt : RestoreAttempt) (reason : RestoreDeferReason)
    (now : MonotonicMs) : RestorationM T RestoreRecord := do
  let terminal ← withTransactions (TransactionCoordinator.cancelTransaction attempt.request.transactionId)
  releaseAttemptLease attempt now
  let completion ← lift id (completionFromTerminal attempt terminal)
  let deferred ← defer record reason (some completion)
  pure (recordFromAdvance deferred)

def releaseActiveLease (record : RestoreRecord) (now : MonotonicMs) : RestorationM T Unit :=
  match record.status.activeAttempt with
  | none => pure ()
  | some attempt => releaseAttemptLease attempt now

def observeTerminal (now : MonotonicMs) (terminal : TransactionTerminal) :
    RestorationM T (Option RestoreRecord) := do
  let state ← get
  let records ← lift id (loadRecords terminal.receiverId state.store)
  match records.find? fun record => record.status.activeAttempt.any
      (·.request.transactionId = terminal.transactionId) with
  | none => pure none
  | some record =>
    releaseActiveLease record now
    let finished ← finishFromTransaction record terminal
    pure (some (recordFromAdvance finished))

def observeDispatch (result : DispatchResult) (now : MonotonicMs) : RestorationM T (List RestoreRecord) := do
  let updated ← each (observeTerminal now) (result.expired ++ (result.completed.map (·.terminal)).toList)
  pure updated.reduceOption

/-- The part of `dispatch_claim` behind its gates. -/
def dispatchApplying (claimId : RestoreClaimId) (attempt : RestoreAttempt) (now : MonotonicMs)
    (ports : Authorities) : RestorationM T RestoreRecord := do
  let applying ← markApplying claimId
  let state ← get
  let result ← withTransactions (TransactionCoordinator.dispatchTransaction
    attempt.request.transactionId now ports state.leases)
  let records ← observeDispatch result now
  match records.find? (·.claimId = applying.claimId) with
  | none => throw .recordIdentityConflict
  | some record => pure record

/-- Rechecks one queued claim, persists `applying`, and dispatches exactly that transaction. -/
def dispatchClaim (claimId : RestoreClaimId) (now : MonotonicMs) (ports : Authorities) :
    RestorationM T RestoreRecord := do
  let state ← get
  let record ← lift id (loadRecord claimId state.store)
  match record.status with
  | .queued attempt =>
    match ReceiverTransport.reconcile state.core.transport (dispatchFromAttempt attempt) with
    | .notObserved =>
      match ← lift id (dispatchGate record attempt now ports state.core.transport state.store) with
      | .deferred reason => cancelAndDefer record attempt reason now
      | .invalidated reason =>
        let _ ← withTransactions (TransactionCoordinator.cancelTransaction attempt.request.transactionId)
        releaseAttemptLease attempt now
        let invalidated ← invalidate record reason
        pure (recordFromAdvance invalidated)
      | .ready =>
        if ¬ state.leases.owns attempt.request.clientId attempt.request.leaseId
            attempt.request.resources now then
          cancelAndDefer record attempt .ownershipConflict now
        else
          dispatchApplying claimId attempt now ports
    | reconciliation =>
      releaseAttemptLease attempt now
      let finished ← reconcileTerminal record attempt reconciliation
      pure (recordFromAdvance finished)
  | status => throw (.invalidTransition status.state .applying)

end Attempts

end HyperfluxNext
