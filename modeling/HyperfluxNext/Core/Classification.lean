import HyperfluxNext.Core.EventLog
import HyperfluxNext.Core.Leases
import HyperfluxNext.Core.OutcomeJournal
import HyperfluxNext.Core.Ports
import HyperfluxNext.Core.TransactionQueue

namespace HyperfluxNext

open Procedure

structure TransactionTransitionError where
  source : TransactionState
  target : TransactionState
deriving DecidableEq

/-- The declared edges of a transaction's life. -/
def transitionAllowed : TransactionState → TransactionState → Bool
  | .created, .validated => true
  | .validated, next => next ∈ [TransactionState.ownershipBound, .revoked]
  | .ownershipBound, next => next ∈ [TransactionState.generationBound, .revoked]
  | .generationBound, next => next ∈ [TransactionState.queued, .revoked]
  | .queued, next => next ∈ [TransactionState.sent, .revoked, .superseded]
  | .sent, next => next ∈ [TransactionState.healthPending, .succeeded, .failed, .revoked]
  | .healthPending, next => next ∈ [TransactionState.succeeded, .failed, .revoked]
  | _, _ => false

/-- `TransactionMachine::advance` on the machine's only field. -/
def advance (state next : TransactionState) : Except TransactionTransitionError TransactionState :=
  if transitionAllowed state next then .ok next else .error ⟨state, next⟩

inductive RequestDigestError where
  | invalidRequest (error : ProtocolValidationError)
  | serialization
  | invalidDigest
deriving DecidableEq

inductive TransactionCoordinatorError where
  | invalidCapacity
  | digest (error : RequestDigestError)
  | requestIdReused
  | transactionIdReused
  | outcomeEvicted (transactionId : TransactionId)
  | sessionRevoked
  | ownershipDenied
  | staleGeneration
  | unsupportedResource
  | profileBindingChanged
  | deviceNotReady (readiness : DeviceWriteReadiness)
  | queue (error : TransactionQueueError)
  | outcome (error : OutcomeJournalError)
  | event (error : EventLogError)
  | transition (error : TransactionTransitionError)
  | frameCount
  | transactionNotQueued (transactionId : TransactionId)
deriving DecidableEq

inductive SubmissionResult where
  | queued (progress : TransactionProgress)
  | replay (result : TransactionResult)

structure CompletedTransaction where
  request : TransactionRequest
  terminal : TransactionTerminal

structure DispatchResult where
  expired : List TransactionTerminal
  completed : Option CompletedTransaction

structure TransactionCoordinator where
  queue : BoundedTransactionQueue
  outcomes : BoundedOutcomeJournal

/-- The coordinator with the two mutable collaborators a call gets. -/
structure CoordinatorState (T : Type) where
  coordinator : TransactionCoordinator
  events : BoundedEventLog
  transport : T

abbrev CoordinatorM (T : Type) := EStateM TransactionCoordinatorError (CoordinatorState T)

def TransactionCoordinator.new (capacity : Nat) : Except TransactionCoordinatorError TransactionCoordinator :=
  if ¬ (1 ≤ capacity ∧ capacity ≤ 4096) then
    .error .invalidCapacity
  else
    match BoundedTransactionQueue.new capacity, BoundedOutcomeJournal.new capacity with
    | .error error, _ => .error (.queue error)
    | _, .error error => .error (.outcome error)
    | .ok queue, .ok outcomes => .ok ⟨queue, outcomes⟩

def canonicalRequestDigest [CanonicalDigests] (request : TransactionRequest) :
    Except RequestDigestError RequestDigest :=
  match validateTransaction request with
  | .error error => .error (.invalidRequest error)
  | .ok () => .ok (CanonicalDigests.requestDigest request)

def declaredFrames (queued : QueuedTransaction) : Except TransactionCoordinatorError FrameCount :=
  if queued.request.frames.length ≤ u16Max then
    match Bounded.tryFrom 1 4096 queued.request.frames.length with
    | none => .error .frameCount
    | some count => .ok count
  else
    .error .frameCount

def zeroDelivered : DeliveredFrameCount := .lit 0

def progress (queued : QueuedTransaction) (state : TransactionState) :
    Except TransactionCoordinatorError TransactionProgress := do
  let declared ← declaredFrames queued
  return ⟨queued.request.requestId, queued.requestDigest, queued.request.transactionId,
    queued.request.receiverId, queued.request.generationId, state, queued.admission, declared,
    zeroDelivered, .none, false⟩

def queuedMachine : Except TransactionTransitionError TransactionState := do
  let state ← advance .created .validated
  let state ← advance state .ownershipBound
  let state ← advance state .generationBound
  advance state .queued

def profilesMatch (request : TransactionRequest) (profiles : ProfileRegistry) : Bool :=
  match profiles.receiverProfile request.receiverId request.generationId with
  | none => false
  | some receiver =>
    receiver.profileId = request.receiverProfileId ∧
    receiver.profileDigest = request.receiverProfileDigest ∧
    request.deviceProfiles.all fun declared =>
      match profiles.deviceProfile ⟨request.receiverId, request.generationId, declared.deviceId, .lighting⟩ with
      | none => false
      | some current =>
        current.profileId = declared.profileId ∧ current.profileDigest = declared.profileDigest ∧
        current.applicationSlotCount = declared.applicationSlotCount

def firstUnready (request : TransactionRequest) (devices : DeviceStateAuthority) : Option DeviceWriteReadiness :=
  request.resources.findSome? fun resource =>
    let readiness := devices.writeReadiness resource
    if readiness ≠ .ready then some readiness else none

def retryIsSafe (facts : TransportFailureFacts) : Bool :=
  facts.automaticRetrySafe ∧ facts.liveWriteExecuted = false ∧ facts.deliveredFrames.get = 0 ∧
    facts.sideEffectCertainty = .none

def normalizeFacts (facts : TransportFailureFacts) (declared : FrameCount) : TransportFailureFacts :=
  let delivered := min facts.deliveredFrames.get declared.get
  let deliveredFrames := (Bounded.tryFrom 0 4096 delivered).getD facts.deliveredFrames
  let certainty := if delivered > 0 ∧ delivered < declared.get then .partially else facts.sideEffectCertainty
  let live := facts.liveWriteExecuted || decide (delivered > 0) || decide (certainty ≠ .none)
  let certainty := if live ∧ certainty = .none then .possible else certainty
  let facts := { facts with
    deliveredFrames := deliveredFrames, sideEffectCertainty := certainty, liveWriteExecuted := live }
  { facts with automaticRetrySafe := retryIsSafe facts }

abbrev ClassifiedTransport := TransactionState × Option ProtocolErrorKind × TransportFailureFacts

def classifyReceipt (receipt : TransportReceipt) (declared : FrameCount) : ClassifiedTransport :=
  let facts := normalizeFacts receipt.facts declared
  if receipt.deliveredFrames.get > declared.get then
    (.failed, some .internalFailure, facts)
  else
    match receipt.terminal with
    | .delivered =>
      if facts.deliveredFrames.get = declared.get ∧ facts.sideEffectCertainty = .committed ∧
          facts.liveWriteExecuted then
        (.succeeded, none, facts)
      else
        (.failed, some .transportFailure, facts)
    | .revoked => (.revoked, some .staleGeneration, facts)
    | .failed => (.failed, some .transportFailure, facts)

def classifyFailure (facts : TransportFailureFacts) (declared : FrameCount) : ClassifiedTransport :=
  (.failed,
    some (if facts.deliveredFrames.get > declared.get then .internalFailure else .transportFailure),
    normalizeFacts facts declared)

def unknownSideEffectFacts : TransportFailureFacts := ⟨zeroDelivered, .possible, true, false, .unverified⟩

def unsentFacts : TransportFailureFacts := ⟨zeroDelivered, .none, false, true, .unverified⟩

def QueuedTransaction.toDispatch (queued : QueuedTransaction) : TransportDispatch :=
  ⟨queued.sessionId, queued.authorizationEpoch, queued.dispatchNonce, queued.request.receiverId,
    queued.request.generationId, queued.request.transactionId, queued.requestDigest,
    queued.request.receiverProfileId, queued.request.receiverProfileDigest,
    queued.request.deviceProfiles, queued.request.frames⟩

section Transport

variable {T : Type} [ReceiverTransport T]

def dispatchPreflight (queued : QueuedTransaction) (now : MonotonicMs) (ports : Authorities)
    (leases : LeaseManager) (transport : T) : Option ProtocolErrorKind :=
  let request := queued.request
  if ¬ ports.sessions.authorizes queued.sessionId queued.authorizationEpoch ∨
      ¬ leases.owns request.clientId request.leaseId request.resources now then
    some .ownershipConflict
  else if ReceiverTransport.currentGeneration transport request.receiverId ≠ some request.generationId then
    some .staleGeneration
  else if ¬ ReceiverTransport.writeAvailable transport request.receiverId request.generationId then
    some .transportFailure
  else if ¬ request.resources.all ports.profiles.supports then
    some .unsupportedFeature
  else if ¬ profilesMatch request ports.profiles then
    some .staleGeneration
  else if (firstUnready request ports.devices).isSome then
    some .transportFailure
  else
    none

/-- Asks the transport what it knows of the dispatch and writes only when it knows nothing. -/
def reconcileOrDispatch (transport : T) (dispatch : TransportDispatch) (declared : FrameCount) :
    ClassifiedTransport × T :=
  match ReceiverTransport.reconcile transport dispatch with
  | .notObserved =>
    match ReceiverTransport.dispatch transport dispatch with
    | (.ok receipt, transport) => (classifyReceipt receipt declared, transport)
    | (.error facts, transport) => (classifyFailure facts declared, transport)
  | .retained receipt => (classifyReceipt receipt declared, transport)
  | .retainedFailure facts => (classifyFailure facts declared, transport)
  | .evicted => ((.failed, some .outcomeEvicted, unknownSideEffectFacts), transport)
  | .unavailable => ((.failed, some .outcomeUnknown, unknownSideEffectFacts), transport)
  | .conflict => ((.failed, some .outcomeUnknown, unknownSideEffectFacts), transport)

end Transport

end HyperfluxNext
