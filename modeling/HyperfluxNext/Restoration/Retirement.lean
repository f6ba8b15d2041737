import HyperfluxNext.Restoration.Engine

namespace HyperfluxNext

open Procedure

structure RestoreGenerationRetirement where
  receiverId : ReceiverId
  generationId : GenerationId
  updated : List RestoreRecord
  alreadyTerminal : Nat
deriving DecidableEq

def retireWithCompletion (record : RestoreRecord) (completion : RestoreCompletion) :
    Except RestorationError RestoreRecord :=
  let definitelyUnwritten : Bool := completion.liveWriteExecuted = false ∧
    completion.deliveredFrames.get = 0 ∧ completion.sideEffectCertainty = .none
  if completedSuccessfully completion then
    transitionRecord record (.succeeded completion)
  else if definitelyUnwritten ∨
      (completion.state = .revoked ∧ completion.errorKind = some .staleGeneration) then
    transitionRecord record (.invalidated .staleGeneration)
  else
    transitionRecord record (.failed (failedCompletion completion))

variable {T : Type} [ReceiverTransport T]

def retirementCompletion (attempt : RestoreAttempt) (transport : T)
    (transactions : TransactionCoordinator) : Except RestorationError (Option RestoreCompletion) :=
  match transactions.outcomes.lookup attempt.request.clientId attempt.request.transactionId with
  | .retained (.terminal terminal) => (completionFromTerminal attempt terminal).map some
  | .retained (.unavailable _) => .ok (some (unknownCompletion attempt .outcomeUnknown))
  | .retained (.progress _) => .error .priorClaimUnresolved
  | .evicted => .ok (some (unknownCompletion attempt .outcomeEvicted))
  | .forbidden => .error .recordIdentityConflict
  | .unknown => completionFromReconciliation attempt
      (ReceiverTransport.reconcile transport (dispatchFromAttempt attempt))

/-- The successor of one claim of the retired generation; leases are released on the way. -/
def retireRecord (now : MonotonicMs) (transport : T) (transactions : TransactionCoordinator)
    (record : RestoreRecord) : EStateM RestorationError LeaseManager RestoreRecord :=
  match record.status.activeAttempt with
  | none => lift id (transitionRecord record (.invalidated .staleGeneration))
  | some attempt => do
    let completion ← lift id (retirementCompletion attempt transport transactions)
    releaseLease attempt now
    match completion with
    | some completion => lift id (retireWithCompletion record completion)
    | none => lift id (transitionRecord record (.invalidated .staleGeneration))

def appendTerminals (events : BoundedEventLog) : List RestoreRecord → Except EventLogError BoundedEventLog
  | [] => .ok events
  | record :: records => do
    let (_, events) ← events.append (terminalEventDraft record)
    appendTerminals events records

variable [RestorationDigests]

/-- Reconciles every nonterminal claim bound to a retired generation. Leases and events are
changed in copies that take effect once the batch is durable. -/
def retireGeneration (receiverId : ReceiverId) (generationId : GenerationId) (now : MonotonicMs) :
    RestorationM T RestoreGenerationRetirement := do
  let state ← get
  refuse (ReceiverTransport.currentGeneration state.core.transport receiverId = some generationId)
    (.generationStillActive receiverId generationId)
  let records ← lift id (loadRecords receiverId state.store)
  let own := records.filter (·.generationId = generationId)
  let open_ := own.filter (! ·.status.isTerminal)
  match each (retireRecord now state.core.transport state.core.coordinator) open_ state.leases with
  | .error error _ => throw error
  | .ok updated nextLeases =>
    let nextEvents ← lift .event (appendTerminals state.core.events updated)
    persistRecords (open_.zipWith (fun record retired => ⟨some record.revision, retired⟩) updated)
    modify fun state => { state with
      leases := nextLeases, core := { state.core with events := nextEvents } }
    pure ⟨receiverId, generationId, updated, own.countP (·.status.isTerminal)⟩

end HyperfluxNext
