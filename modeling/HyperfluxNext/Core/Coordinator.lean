import HyperfluxNext.Core.Classification

namespace HyperfluxNext

open Procedure

section Finish

variable {T : Type}

def appendEvent (draft : EventDraft) : CoordinatorM T BridgeEvent := do
  let state ← get
  let (event, events) ← lift .event (state.events.append draft)
  set { state with events := events }
  pure event

def recordOutcome (clientId : ClientId) (result : TransactionResult) : CoordinatorM T Unit := do
  let state ← get
  let outcomes ← lift .outcome (state.coordinator.outcomes.record clientId result)
  set { state with coordinator := { state.coordinator with outcomes := outcomes } }

def setQueue (queue : BoundedTransactionQueue) : CoordinatorM T Unit :=
  modify fun state => { state with coordinator := { state.coordinator with queue := queue } }

def terminalOf (queued : QueuedTransaction) (state : TransactionState)
    (errorKind : Option ProtocolErrorKind) (supersededBy : Option TransactionId)
    (facts : TransportFailureFacts) (declared : FrameCount) (sequence : SequenceNumber) :
    TransactionTerminal where
  requestId := queued.request.requestId
  requestDigest := queued.requestDigest
  transactionId := queued.request.transactionId
  receiverId := queued.request.receiverId
  generationId := queued.request.generationId
  state := state
  declaredFrames := declared
  deliveredFrames := facts.deliveredFrames
  sideEffectCertainty := facts.sideEffectCertainty
  liveWriteExecuted := facts.liveWriteExecuted
  automaticRetry := state ≠ .superseded ∧ retryIsSafe facts
  deviceApplication := facts.deviceApplication
  terminalSequence := sequence
  errorKind := errorKind
  supersededBy := supersededBy

/-- Writes the completion event and then the immutable terminal outcome. -/
def finish (queued : QueuedTransaction) (state : TransactionState)
    (errorKind : Option ProtocolErrorKind) (supersededBy : Option TransactionId)
    (facts : TransportFailureFacts) : CoordinatorM T CompletedTransaction := do
  let declared ← lift id (declaredFrames queued)
  let event ← appendEvent ⟨.transactionCompleted, some queued.request.receiverId,
    some queued.request.generationId, none, some queued.request.leaseId,
    some queued.request.transactionId, none⟩
  let terminal := terminalOf queued state errorKind supersededBy facts declared event.sequence
  recordOutcome queued.request.clientId (.terminal terminal)
  pure ⟨queued.request, terminal⟩

def finishUnsentCompletion (queued : QueuedTransaction) (state : TransactionState)
    (errorKind : Option ProtocolErrorKind) (supersededBy : Option TransactionId) :
    CoordinatorM T CompletedTransaction := do
  let machine ← lift .transition queuedMachine
  let _ ← lift .transition (advance machine state)
  finish queued state errorKind supersededBy unsentFacts

def finishUnsent (queued : QueuedTransaction) (state : TransactionState)
    (errorKind : Option ProtocolErrorKind) (supersededBy : Option TransactionId) :
    CoordinatorM T TransactionTerminal := do
  let completed ← finishUnsentCompletion queued state errorKind supersededBy
  pure completed.terminal

def finishRemoved (removed : List QueuedTransaction) (errorKind : ProtocolErrorKind) :
    CoordinatorM T (List TransactionTerminal) :=
  each (fun queued => finishUnsent queued .revoked (some errorKind) none) removed

end Finish

namespace TransactionCoordinator

variable {T : Type} [ReceiverTransport T]

/-- Checks the request against every authority, advancing the machine as authority is bound. -/
def submitGates (request : TransactionRequest) (now : MonotonicMs) (ports : Authorities)
    (leases : LeaseManager) (transport : T) :
    Except TransactionCoordinatorError TransactionState := do
  let machine ← (advance .created .validated).mapError .transition
  reject (¬ leases.owns request.clientId request.leaseId request.resources now) .ownershipDenied
  let machine ← (advance machine .ownershipBound).mapError .transition
  reject (ReceiverTransport.currentGeneration transport request.receiverId
    ≠ some request.generationId) .staleGeneration
  reject (¬ ReceiverTransport.writeAvailable transport request.receiverId request.generationId)
    (.deviceNotReady .unavailable)
  let machine ← (advance machine .generationBound).mapError .transition
  reject (¬ request.resources.all ports.profiles.supports) .unsupportedResource
  reject (¬ profilesMatch request ports.profiles) .profileBindingChanged
  match firstUnready request ports.devices with
  | some readiness => .error (.deviceNotReady readiness)
  | none => .ok machine

def finishSuperseded (decision : QueueDecision) (transactionId : TransactionId) : CoordinatorM T Unit := do
  match decision.superseded with
  | none => pure ()
  | some superseded =>
    let _ ← finishUnsent superseded .superseded none (some transactionId)
    pure ()

/-- Queues an authorized request, finishes the frame it replaces and records its progress. -/
def enqueue (machine : TransactionState) (queued : QueuedTransaction) (now : MonotonicMs) :
    CoordinatorM T SubmissionResult := do
  let state ← get
  let (decision, queue) ← lift .queue (state.coordinator.queue.admitTransaction queued now)
  setQueue queue
  let queued := { queued with admission := decision.admission }
  let _ ← lift .transition (advance machine .queued)
  finishSuperseded decision queued.request.transactionId
  let queuedProgress ← lift id (progress queued .queued)
  match ← attempt (recordOutcome queued.request.clientId (.progress queuedProgress)) with
  | .ok () => pure (.queued queuedProgress)
  | .error error =>
    modify fun state => { state with coordinator := { state.coordinator with
      queue := (state.coordinator.queue.removeTransaction queued.request.transactionId).2 } }
    throw error

def submit [CanonicalDigests] (request : TransactionRequest) (binding : SubmissionBinding)
    (now : MonotonicMs) (ports : Authorities) (leases : LeaseManager) :
    CoordinatorM T SubmissionResult := do
  refuse (¬ ports.sessions.authorizes binding.sessionId binding.authorizationEpoch) .sessionRevoked
  let digest ← lift .digest (canonicalRequestDigest request)
  let state ← get
  match state.coordinator.outcomes.replay request.clientId request.requestId digest with
  | .retained result => pure (.replay result)
  | .evicted transactionId => throw (.outcomeEvicted transactionId)
  | .conflict => throw .requestIdReused
  | .unknown =>
    refuse (state.coordinator.outcomes.lookup request.clientId request.transactionId ≠ .unknown)
      .transactionIdReused
    let machine ← lift id (submitGates request now ports leases state.transport)
    enqueue machine ⟨request, digest, binding.sessionId, binding.authorizationEpoch, binding.dispatchNonce,
      .enqueued⟩ now

/-- The write of one dequeued transaction: preflight, the sent record, the transport's answer. -/
def dispatchQueued (queued : QueuedTransaction) (now : MonotonicMs) (ports : Authorities)
    (leases : LeaseManager) : CoordinatorM T CompletedTransaction := do
  let state ← get
  match dispatchPreflight queued now ports leases state.transport with
  | some errorKind => finishUnsentCompletion queued .revoked (some errorKind) none
  | none =>
    let machine ← lift .transition queuedMachine
    let machine ← lift .transition (advance machine .sent)
    let sent ← lift id (progress queued .sent)
    recordOutcome queued.request.clientId (.progress sent)
    let declared ← lift id (declaredFrames queued)
    let state ← get
    let ((terminal, errorKind, facts), transport) :=
      reconcileOrDispatch state.transport queued.toDispatch declared
    set { state with transport := transport }
    let _ ← lift .transition (advance machine terminal)
    finish queued terminal errorKind none facts

def dispatchDecision (decision : DequeueDecision) (now : MonotonicMs) (ports : Authorities)
    (leases : LeaseManager) : CoordinatorM T DispatchResult := do
  let expired ← each (fun queued => finishUnsent queued .revoked (some .deadlineExceeded) none) decision.expired
  match decision.next with
  | none => pure ⟨expired, none⟩
  | some queued =>
    let completed ← dispatchQueued queued now ports leases
    pure ⟨expired, some completed⟩

def dispatchNext (now : MonotonicMs) (ports : Authorities) (leases : LeaseManager) :
    CoordinatorM T DispatchResult := do
  let state ← get
  let (decision, queue) := state.coordinator.queue.takeNext now
  setQueue queue
  dispatchDecision decision now ports leases

def dispatchTransaction (transactionId : TransactionId) (now : MonotonicMs) (ports : Authorities)
    (leases : LeaseManager) : CoordinatorM T DispatchResult := do
  let state ← get
  let (decision, queue) := state.coordinator.queue.takeTransaction transactionId now
  setQueue queue
  refuse (decision.next = none ∧ ¬ decision.expired.any (·.id = transactionId))
    (.transactionNotQueued transactionId)
  dispatchDecision decision now ports leases

def invalidateGeneration (receiverId : ReceiverId) (generationId : GenerationId) :
    CoordinatorM T (List TransactionTerminal) := do
  let state ← get
  let (removed, queue) := state.coordinator.queue.invalidateGeneration receiverId generationId
  setQueue queue
  finishRemoved removed .staleGeneration

def invalidateSession (sessionId : SessionId) : CoordinatorM T (List TransactionTerminal) := do
  let state ← get
  let (removed, queue) := state.coordinator.queue.invalidateSession sessionId
  setQueue queue
  finishRemoved removed .ownershipConflict

def cancelTransaction (transactionId : TransactionId) : CoordinatorM T TransactionTerminal := do
  let state ← get
  match state.coordinator.queue.removeTransaction transactionId with
  | (none, _) => throw (.transactionNotQueued transactionId)
  | (some queued, queue) =>
    setQueue queue
    finishUnsent queued .revoked none none

end TransactionCoordinator

end HyperfluxNext
