import Mathlib.Data.List.Chain
import HyperfluxNext.Qualification.EventEvidence

namespace HyperfluxNext

inductive PowerOffDepartureEvidence where
  | receiverState | watchedRetainedRoute
deriving DecidableEq

/-- A generated profile record, as far as a lifecycle campaign reads it. -/
structure LifecycleProfileRecord where
  runtimeSha256 : String
  powerOffDepartureEvidence : Option PowerOffDepartureEvidence

class LifecycleProfiles where
  profileById : String → Option LifecycleProfileRecord

namespace Qualification

open Procedure

def maxGenerationHistory : Nat := 16

def maxRunPlans : Nat := 16

def maxRunDevices : Nat := 32

def maxEvidenceRefs : Nat := 64

inductive LifecyclePhase where
  | deviceDeparture | deviceReturn | receiverDeparture | receiverReturn | suspendAuthorization
  | systemResumePending | systemResumeObservation
deriving DecidableEq

structure SuspendStamp where
  bootIdSha256 : String
  suspendGapMs : Nat
deriving DecidableEq

structure LifecycleStageState where
  stageId : String
  deviceId : String
  deviceKind : KindView
  phase : LifecyclePhase
  baselineGenerationId : Nat
  evidenceRefs : List EvidenceRef
  suspendStamp : Option SuspendStamp
deriving DecidableEq

structure LifecycleRunState where
  receiver : ReceiverView
  plans : List QualificationPlan
  generationHistory : List Nat
  active : Option LifecycleStageState
deriving DecidableEq

structure ObservedDevice where
  deviceId : String
  profile : Option BindingView
  availability : InventoryAvailability
  controllerReady : Bool

structure LifecycleObservation where
  receiverId : String
  receiverPresent : Bool
  generationId : Option Nat
  receiverProfile : Option BindingView
  receiverLifecycle : Option ReceiverLifecycleState
  stableRestoreEnabled : Bool
  selected : Option ObservedDevice
  siblings : List ObservedDevice
  cursorRef : Option EvidenceRef
  events : Option EventBatch

inductive PreparedLifecycleAction where
  | record (run : LifecycleRunState) (transition : RunnerTransition)
  | suspend (run : LifecycleRunState) (transition : RunnerTransition)
deriving DecidableEq

inductive ObservationVerdict where
  | pass | fail | unclear
deriving DecidableEq

structure LifecycleRunnerError where
  message : String
deriving DecidableEq

abbrev LifecycleResult := Except LifecycleRunnerError

def okOr {α : Type} (value : Option α) (message : String) : LifecycleResult α :=
  match value with
  | none => .error ⟨message⟩
  | some value => .ok value

def noActiveStage : String := "The retained lifecycle campaign has no active stage."

def eventsUnavailable : String := "The bridge event history is unavailable for this lifecycle checkpoint."

def validDigest (value : String) : Bool :=
  value.utf8ByteSize = 64 ∧ value.toList.all fun character =>
    character.isDigit ∨ ('a' ≤ character ∧ character ≤ 'f') ∨ ('A' ≤ character ∧ character ≤ 'F')

namespace LifecycleRunState

def device (run : LifecycleRunState) (deviceId : String) : Option DeviceView :=
  run.receiver.devices.find? (·.deviceId = deviceId)

def boundedGenerations (run : LifecycleRunState) : Bool :=
  run.plans ≠ [] ∧ run.plans.length ≤ maxRunPlans ∧
    run.receiver.devices.length ≤ maxRunDevices ∧ run.generationHistory ≠ [] ∧
    run.generationHistory.length ≤ maxGenerationHistory ∧
    run.generationHistory.IsChain (· < ·) ∧
    run.generationHistory.getLast? = some run.receiver.generationId

def oneGeneration (run : LifecycleRunState) : Bool :=
  (run.plans.all fun plan =>
    plan.receiverId = run.receiver.receiverId ∧ plan.generationId = run.receiver.generationId) ∧
    (run.plans.map (·.deviceId)).Nodup

def suspendPhase (phase : LifecyclePhase) : Bool :=
  phase = .systemResumePending ∨ phase = .systemResumeObservation

def bindsActive (run : LifecycleRunState) (active : LifecycleStageState) : Bool :=
  (run.plans.any fun plan =>
    plan.deviceId = active.deviceId ∧ plan.stages.any (·.stageId = active.stageId)) ∧
    (active.deviceKind = .mouse ∨ active.deviceKind = .keyboard) ∧
    (run.device active.deviceId).map (·.kind) = some active.deviceKind ∧
    active.evidenceRefs.length ≤ maxEvidenceRefs ∧
    active.baselineGenerationId ∈ run.generationHistory ∧
    suspendPhase active.phase = active.suspendStamp.isSome

def validate (run : LifecycleRunState) : LifecycleResult Unit := do
  reject (run.boundedGenerations = false)
    ⟨"The saved lifecycle run is outside its bounded generation contract."⟩
  reject (run.oneGeneration = false) ⟨"The saved lifecycle plans do not share one exact receiver generation."⟩
  match run.active with
  | none => pure ()
  | some active => do
    reject (run.bindsActive active = false) ⟨"The saved lifecycle checkpoint is not bound to this run."⟩
    reject ((active.suspendStamp.any fun stamp => !validDigest stamp.bootIdSha256) = true)
      ⟨"The saved suspend checkpoint is invalid."⟩

end LifecycleRunState

def stageBelongsToPlan (plan : QualificationPlan) (stage : QualificationStage) : Bool :=
  plan.stages.any (·.stageId = stage.stageId)

def observedDevice (receiver : IntegrationReceiverView) (deviceId : String) : Option ObservedDevice :=
  (receiver.inventory.find? (·.deviceId.asStr = deviceId)).map fun inventory =>
    { deviceId := inventory.deviceId.asStr
      profile := inventory.profile.map profileBinding
      availability := inventory.availability
      controllerReady := receiver.controllers.any fun controller =>
        controller.deviceId = inventory.deviceId ∧ controller.availability = .ready }

/-- The retained device, reported as gone, when the receiver no longer lists it. -/
def missingDevice (run : LifecycleRunState) (deviceId : String) : Option ObservedDevice :=
  (run.device deviceId).map fun expected => ⟨expected.deviceId, expected.profile, .unavailable, false⟩

section Campaign

variable [CursorDigest] [LifecycleProfiles]

def observeLifecycle (integration : Option BridgeIntegration) (run : LifecycleRunState)
    (selectedDeviceId : String) : LifecycleObservation :=
  let receiver := integration.bind fun value =>
    value.view.receivers.find? (·.receiverId.asStr = run.receiver.receiverId)
  { receiverId := run.receiver.receiverId
    receiverPresent := receiver.isSome
    generationId := receiver.map (·.generationId.get)
    receiverProfile := (receiver.bind (·.profile)).map profileBinding
    receiverLifecycle := receiver.map (·.lifecycle)
    stableRestoreEnabled := receiver.any (·.stableRestoreEnabled)
    selected := receiver.bind fun receiver =>
      (observedDevice receiver selectedDeviceId).or (missingDevice run selectedDeviceId)
    siblings := receiver.elim [] fun receiver =>
      ((run.plans.map (·.deviceId)).filter (· ≠ selectedDeviceId)).filterMap (observedDevice receiver)
    cursorRef := integration.map fun value => cursorEvidence value.view.cursor
    events := integration.map (·.events) }

def siblingsReady (run : LifecycleRunState) (observation : LifecycleObservation) : Bool :=
  let selectedId := ((run.active.map (·.deviceId)).or (observation.selected.map (·.deviceId))).getD ""
  (run.plans.filter (·.deviceId ≠ selectedId)).all fun plan =>
    observation.siblings.any fun sibling =>
      sibling.deviceId = plan.deviceId ∧
        sibling.profile = (run.device plan.deviceId).bind (·.profile) ∧
        sibling.availability = .available ∧ sibling.controllerReady

def validateReceiverIdentity (run : LifecycleRunState) (observation : LifecycleObservation) :
    LifecycleResult Unit :=
  reject (observation.receiverId ≠ run.receiver.receiverId ∨ observation.receiverPresent = false ∨
      observation.receiverProfile ≠ run.receiver.profile ∨
      (observation.receiverLifecycle ≠ some .active ∧ observation.receiverLifecycle ≠ some .partiallySuspended))
    ⟨"The current receiver does not match the retained profile-bound lifecycle authority."⟩

def expectedDevice (run : LifecycleRunState) (deviceId : String) : LifecycleResult DeviceView :=
  okOr (run.device deviceId) "The expected controller identity is missing."

def validateReadyIdentity (run : LifecycleRunState) (selectedDeviceId : String)
    (observation : LifecycleObservation) : LifecycleResult Unit := do
  validateReceiverIdentity run observation
  let selected ← okOr observation.selected "The exact selected controller is not currently observable."
  let expected ← expectedDevice run selectedDeviceId
  reject (selected.deviceId ≠ selectedDeviceId ∨ selected.profile ≠ expected.profile ∨
      selected.availability ≠ .available ∨ selected.controllerReady = false ∨
      siblingsReady run observation = false)
    ⟨"The selected controller and every qualified sibling are not ready on the exact retained profiles."⟩

def validateReadyIdentityForActive (run : LifecycleRunState) (observation : LifecycleObservation) :
    LifecycleResult Unit := do
  let active ← okOr run.active noActiveStage
  validateReadyIdentity run active.deviceId observation

def validateRestoredIdentity (run : LifecycleRunState) (observation : LifecycleObservation)
    (requireNewGeneration : Bool) : LifecycleResult Unit := do
  validateReadyIdentityForActive run observation
  let generation ← okOr observation.generationId "The active receiver has no generation."
  let active ← okOr run.active noActiveStage
  reject (generation < active.baselineGenerationId ∨
      (requireNewGeneration = true ∧ generation ≤ active.baselineGenerationId))
    ⟨"The active receiver generation does not satisfy this lifecycle checkpoint."⟩
  reject (observation.stableRestoreEnabled = false)
    ⟨"The exact generation is ready, but stable restoration is no longer enabled."⟩

def validateSameGeneration (run : LifecycleRunState) (observation : LifecycleObservation) :
    LifecycleResult Unit := do
  validateReceiverIdentity run observation
  let active ← okOr run.active noActiveStage
  reject (observation.generationId ≠ some active.baselineGenerationId)
    ⟨"The receiver generation changed before the controller-return checkpoint."⟩

def retainedRouteDepartureAllowed (run : LifecycleRunState) : LifecycleResult Bool := do
  let active ← okOr run.active noActiveStage
  let expected ← expectedDevice run active.deviceId
  let binding ← okOr expected.profile "The lifecycle target has no exact profile binding."
  let profile ← okOr (LifecycleProfiles.profileById binding.id)
    "The lifecycle target profile is absent from this build."
  reject (profile.runtimeSha256 ≠ binding.digest)
    ⟨"The lifecycle target profile digest does not match this build."⟩
  pure (profile.powerOffDepartureEvidence = some .watchedRetainedRoute)

def acceptGeneration (run : LifecycleRunState) (observation : LifecycleObservation) :
    LifecycleResult LifecycleRunState := do
  let generation ← okOr observation.generationId "The accepted receiver has no generation."
  reject (generation < run.receiver.generationId)
    ⟨"A stale receiver generation cannot enter the lifecycle history."⟩
  if generation > run.receiver.generationId then
    reject (run.generationHistory.length + 1 > maxGenerationHistory)
      ⟨"The lifecycle generation history exceeded its bound."⟩
    pure { run with
      generationHistory := run.generationHistory ++ [generation]
      receiver := { run.receiver with generationId := generation }
      plans := run.plans.map fun plan => { plan with generationId := generation } }
  else
    pure run

end Campaign

end Qualification

end HyperfluxNext
