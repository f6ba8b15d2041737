import HyperfluxNext.Bridge.Profiles
import HyperfluxNext.Restoration.Retirement

namespace HyperfluxNext

open Procedure

/-- Identity evidence for one transport-confirmed receiver generation. -/
structure ReceiverGenerationObservation where
  receiverId : ReceiverId
  vendorId : VendorId
  productId : ProductId
  stamp : ObservationStamp

inductive GenerationQualification where
  | qualified (binding : ReceiverProfileBinding)
  | unqualified

structure GenerationActivation where
  receiverId : ReceiverId
  generationId : GenerationId
  previousGeneration : Option GenerationId
  qualification : GenerationQualification
  revokedLeases : List LeaseId
  revokedTransactions : List TransactionId
  restorationRetirement : Option RestoreGenerationRetirement

inductive GenerationActivationOutcome where
  | applied (activation : GenerationActivation)
  | ignored (outcome : ApplyOutcome)

/-- Transport-confirmed removal evidence for one active generation. -/
structure ReceiverDisconnectObservation where
  receiverId : ReceiverId
  stamp : ObservationStamp

structure ReceiverDisconnectBegan where
  receiverId : ReceiverId
  generationId : GenerationId
  revokedLeases : List LeaseId
  revokedTransactions : List TransactionId
  restorationRetirement : RestoreGenerationRetirement

inductive ReceiverDisconnectOutcome where
  | applied (began : ReceiverDisconnectBegan)
  | ignored (outcome : ApplyOutcome)

structure ReceiverDisconnectCompleted where
  receiverId : ReceiverId
  generationId : GenerationId
  profileRetired : Bool

inductive ReceiverDisconnectCompletionOutcome where
  | applied (completed : ReceiverDisconnectCompleted)
  | ignored (outcome : ApplyOutcome)

inductive GenerationOrchestrationError where
  | transportGenerationMismatch (receiverId : ReceiverId) (observedGeneration : GenerationId)
      (transportGeneration : Option GenerationId)
  | transportStillPresent (receiverId : ReceiverId) (generationId : GenerationId)
  | missingReceiver (receiverId : ReceiverId)
  | lifecycle (error : LifecycleError)
  | registry (error : ReceiverRegistryError)
  | profile (error : RuntimeProfileAuthorityError)
  | missingQualifiedBinding (receiverId : ReceiverId) (generationId : GenerationId)
  | transaction (error : TransactionCoordinatorError)
  | restoration (error : RestorationError)
  | event (error : EventLogError)

/-- The restoration collaborator of the bridge. -/
inductive RestorationRuntime where
  | disabled
  | durable (store : FilePersistenceStore)

/-- What the generation orchestrator changes, with the transport it consults. -/
structure BridgeState (T : Type) where
  receivers : ReceiverLifecycleRegistry
  profiles : RuntimeProfileAuthority
  leases : LeaseManager
  core : CoordinatorState T
  restoration : RestorationRuntime

abbrev GenerationM (T : Type) := EStateM GenerationOrchestrationError (BridgeState T)

section Staging

variable {T α : Type}

/-- Runs a call on copies and commits them only when it was applied. The durable store is no copy. -/
def staged (isApplied : α → Bool) (call : GenerationM T α) : GenerationM T α := fun state =>
  match call state with
  | .ok outcome next =>
    .ok outcome (if isApplied outcome then next else { state with restoration := next.restoration })
  | .error error next => .error error { state with restoration := next.restoration }

def appendStaged (draft : EventDraft) : GenerationM T Unit := do
  let state ← get
  let (_, events) ← lift .event (state.core.events.append draft)
  set { state with core := { state.core with events := events } }

def appendLifecycle (kind : EventKind) (receiverId : ReceiverId) (generationId : GenerationId) :
    GenerationM T Unit :=
  appendStaged ⟨kind, some receiverId, some generationId, none, none, none, none⟩

def appendOwnership (leaseId : LeaseId) : GenerationM T Unit :=
  appendStaged ⟨.ownershipChanged, none, none, none, some leaseId, none, none⟩

/-- A call on the queue, its journal and the events. -/
def onTransactions (call : CoordinatorM T α) : GenerationM T α :=
  zoom (·.core) (fun state core => { state with core := core }) .transaction call

def BridgeState.setMachine (state : BridgeState T) (receiverId : ReceiverId)
    (machine : ReceiverLifecycleMachine) : BridgeState T :=
  { state with receivers := { state.receivers with
    receivers := state.receivers.receivers.insert receiverId machine } }

/-- The activation of a receiver the registry does not know yet. -/
def registerDiscovered (receiverId : ReceiverId) (stamp : ObservationStamp)
    (limits : LifecycleLimits) : GenerationM T ApplyOutcome := do
  let state ← get
  let (outcome, machine) := (ReceiverLifecycleMachine.new receiverId limits).discover stamp
  if outcome = .applied then
    let receivers ← lift .registry (state.receivers.register machine)
    set { state with receivers := receivers }
    pure outcome
  else
    pure outcome

def stageActivationLifecycle (receiverId : ReceiverId) (stamp : ObservationStamp)
    (limits : LifecycleLimits) : GenerationM T (ApplyOutcome × Option GenerationId × Bool) := do
  let state ← get
  match state.receivers.receivers[receiverId]? with
  | none =>
    let outcome ← registerDiscovered receiverId stamp limits
    pure (outcome, none, true)
  | some machine =>
    let (outcome, next) :=
      if machine.current.isSome then machine.replaceGeneration stamp else machine.discover stamp
    set (state.setMachine receiverId next)
    pure (outcome, machine.latestGeneration, machine.current.isNone)

end Staging

section Orchestration

variable {T : Type} [ReceiverTransport T]

/-- Ends the queued transactions and the leases of a generation, with one event for each. -/
def revokeAuthority (receiverId : ReceiverId) (generationId : GenerationId) :
    GenerationM T (List LeaseId × List TransactionId) := do
  let terminals ← onTransactions (TransactionCoordinator.invalidateGeneration receiverId generationId)
  let state ← get
  let (grants, leases) := state.leases.invalidateGeneration receiverId generationId
  set { state with leases := leases }
  let _ ← each (fun grant => appendOwnership grant.leaseId) grants
  pure (grants.map (·.leaseId), terminals.map (·.transactionId))

def stagePreviousAuthority (receiverId : ReceiverId) :
    Option GenerationId → GenerationM T (List LeaseId × List TransactionId)
  | none => pure ([], [])
  | some previous => do
    modify fun state => { state with profiles := (state.profiles.retire receiverId previous).2 }
    revokeAuthority receiverId previous

section
omit [ReceiverTransport T]

def stageQualification (receiverId : ReceiverId) (generationId : GenerationId) (vendorId : VendorId)
    (productId : ProductId) : GenerationM T GenerationQualification := do
  let state ← get
  match state.profiles.bindReceiver receiverId generationId vendorId productId with
  | .ok (_, profiles) =>
    set { state with profiles := profiles }
    match profiles.binding receiverId with
    | none => throw (.missingQualifiedBinding receiverId generationId)
    | some binding => pure (.qualified binding)
  | .error (.unsupportedReceiver _ _) => pure .unqualified
  | .error error => throw (.profile error)

def appendLifecycleIf (condition : Bool) (kind : EventKind) (receiverId : ReceiverId)
    (generationId : GenerationId) : GenerationM T Unit :=
  if condition then appendLifecycle kind receiverId generationId else pure ()

def announceActivation (receiverId : ReceiverId) (generationId : GenerationId)
    (replaced wasAbsent : Bool) : GenerationM T Unit := do
  appendLifecycleIf replaced .generationReplaced receiverId generationId
  appendLifecycleIf wasAbsent .receiverAvailable receiverId generationId

end

variable [RestorationDigests]

def retireClaims (receiverId : ReceiverId) (generationId : GenerationId) (now : MonotonicMs) :
    GenerationM T RestoreGenerationRetirement := do
  let state ← get
  match state.restoration with
  | .disabled => pure ⟨receiverId, generationId, [], 0⟩
  | .durable store =>
    zoom (fun state => ⟨state.core, state.leases, store⟩)
      (fun state next => { state with
        core := next.core, leases := next.leases, restoration := .durable next.store })
      .restoration (retireGeneration receiverId generationId now)

def stageRetirement (receiverId : ReceiverId) (now : MonotonicMs) :
    Option GenerationId → GenerationM T (Option RestoreGenerationRetirement)
  | none => pure none
  | some previous => do
    let retirement ← retireClaims receiverId previous now
    pure (some retirement)

/-- The part of an activation behind its lifecycle step. -/
def activateApplied (observation : ReceiverGenerationObservation)
    (previousGeneration : Option GenerationId) (wasAbsent : Bool) :
    GenerationM T GenerationActivationOutcome := do
  let receiverId := observation.receiverId
  let generationId := observation.stamp.generationId
  let (revokedLeases, revokedTransactions) ← stagePreviousAuthority receiverId previousGeneration
  let qualification ← stageQualification receiverId generationId observation.vendorId observation.productId
  announceActivation receiverId generationId previousGeneration.isSome wasAbsent
  let retirement ← stageRetirement receiverId observation.stamp.observedAtMs previousGeneration
  pure (.applied ⟨receiverId, generationId, previousGeneration, qualification, revokedLeases,
    revokedTransactions, retirement⟩)

def GenerationActivationOutcome.isApplied : GenerationActivationOutcome → Bool
  | .applied _ => true
  | .ignored _ => false

/-- Activates one transport-confirmed generation and revokes all authority of the previous one. -/
def activate (observation : ReceiverGenerationObservation) (limits : LifecycleLimits) :
    GenerationM T GenerationActivationOutcome := staged (·.isApplied) do
  let state ← get
  let generationId := observation.stamp.generationId
  let transportGeneration := ReceiverTransport.currentGeneration state.core.transport observation.receiverId
  refuse (transportGeneration ≠ some generationId)
    (.transportGenerationMismatch observation.receiverId generationId transportGeneration)
  let (outcome, previousGeneration, wasAbsent) ← stageActivationLifecycle observation.receiverId
    observation.stamp limits
  if outcome ≠ .applied then
    pure (.ignored outcome)
  else
    activateApplied observation previousGeneration wasAbsent

def ReceiverDisconnectOutcome.isApplied : ReceiverDisconnectOutcome → Bool
  | .applied _ => true
  | .ignored _ => false

def refusePresent (receiverId : ReceiverId) : GenerationM T Unit := do
  let state ← get
  match ReceiverTransport.currentGeneration state.core.transport receiverId with
  | none => pure ()
  | some generationId => throw (.transportStillPresent receiverId generationId)

/-- The part of a disconnect behind its lifecycle step. -/
def beginApplied (observation : ReceiverDisconnectObservation) : GenerationM T ReceiverDisconnectOutcome := do
  let receiverId := observation.receiverId
  let generationId := observation.stamp.generationId
  appendLifecycle .receiverUnavailable receiverId generationId
  let (revokedLeases, revokedTransactions) ← revokeAuthority receiverId generationId
  let retirement ← retireClaims receiverId generationId observation.stamp.observedAtMs
  pure (.applied ⟨receiverId, generationId, revokedLeases, revokedTransactions, retirement⟩)

/-- Begins an observed physical disconnect and revokes the generation's authority. -/
def beginDisconnect (observation : ReceiverDisconnectObservation) :
    GenerationM T ReceiverDisconnectOutcome := staged (·.isApplied) do
  refusePresent observation.receiverId
  let state ← get
  match state.receivers.receivers[observation.receiverId]? with
  | none => pure (.ignored .rejectedReceiverAbsent)
  | some machine =>
    match machine.current with
    | none =>
      pure (.ignored (if machine.latestGeneration = some observation.stamp.generationId then
        .rejectedStaleGeneration else .rejectedReceiverAbsent))
    | some current =>
      if current.lifecycle.value = .disconnecting then
        pure (.ignored .rejectedInvalidTransition)
      else
        let (outcome, next) := machine.transitionReceiver .disconnecting observation.stamp
        if outcome ≠ .applied then
          pure (.ignored outcome)
        else
          set (state.setMachine observation.receiverId next)
          beginApplied observation

def ReceiverDisconnectCompletionOutcome.isApplied : ReceiverDisconnectCompletionOutcome → Bool
  | .applied _ => true
  | .ignored _ => false

/-- Retires a generation after a later observation; the begin step revoked its authority. -/
def completeDisconnect (observation : ReceiverDisconnectObservation) :
    GenerationM T ReceiverDisconnectCompletionOutcome := staged (·.isApplied) do
  refusePresent observation.receiverId
  let state ← get
  match state.receivers.receivers[observation.receiverId]? with
  | none => pure (.ignored .rejectedReceiverAbsent)
  | some machine =>
    let (outcome, next) := machine.completeDisconnect observation.stamp
    if outcome ≠ .applied then
      pure (.ignored outcome)
    else
      let (profileRetired, profiles) := state.profiles.retire observation.receiverId
        observation.stamp.generationId
      set { state.setMachine observation.receiverId next with profiles := profiles }
      pure (.applied ⟨observation.receiverId, observation.stamp.generationId, profileRetired⟩)

end Orchestration

end HyperfluxNext
