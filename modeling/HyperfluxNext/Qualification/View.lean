import HyperfluxNext.Profiles.Catalog
import HyperfluxNext.Protocol.Subscriptions

namespace HyperfluxNext

inductive InventoryAvailability where
  | available | sleeping | unavailable | unknown | unpaired | pairingUnknown | receiverUnavailable
deriving DecidableEq

inductive ControllerAvailability where
  | ready | sleeping
deriving DecidableEq

/-- The identity that binds a qualified device to its exact profile. -/
structure ProfileBindingView where
  profileId : ProfileId
  profileDigest : ProfileDigest

structure DeviceInventoryView where
  deviceId : LogicalDeviceId
  deviceKind : DeviceKind
  productId : ProductId
  profile : Option ProfileBindingView
  availability : InventoryAvailability

structure ControllerView where
  deviceId : LogicalDeviceId
  availability : ControllerAvailability

structure IntegrationReceiverView where
  receiverId : ReceiverId
  generationId : GenerationId
  profile : Option ProfileBindingView
  lifecycle : ReceiverLifecycleState
  stableRestoreEnabled : Bool
  inventory : List DeviceInventoryView
  controllers : List ControllerView

structure IntegrationView where
  cursor : EventCursor
  receivers : List IntegrationReceiverView

/-- The bridge's projection with the events it still retains. -/
structure BridgeIntegration where
  view : IntegrationView
  events : EventBatch

namespace Qualification

/-- The text forms of evidence, one constructor for each literal the coordinator writes
(`receiver-generation:…`, `bridge-cursor-sha256:…`, `device-departure:…` and so on). -/
inductive EvidenceRef where
  | receiverGeneration (generationId : Nat)
  | bridgeCursor (digest : String)
  | deviceDeparture (availability : InventoryAvailability)
  | watchedRetainedRoute
  | deviceReturnReady
  | bridgeRestoreEvent (sequence : Nat) (deviceId : String)
  | receiverDepartureObserved
  | stableRestoreSucceeded
  | systemSuspendAuthorized
  | systemSuspendGap (milliseconds : Nat)
  | systemResumeRetryReady
  | localReadOnly (stageId : String)
  | bridgeTransaction (transactionId : TransactionId)
  | profileMigration (fromDigest toDigest role : String)
deriving DecidableEq

/-- The text starts with `bridge-cursor-sha256:`. -/
def EvidenceRef.isCursor : EvidenceRef → Bool
  | .bridgeCursor _ => true
  | _ => false

inductive PresenceView where
  | active | sleeping | unavailable | unknown
deriving DecidableEq

inductive StageStatus where
  | locked | ready | running | awaitingObservation | passed | failed | blocked | skipped
deriving DecidableEq

inductive RiskLevel where
  | readOnly | lightingWrite | deviceLifecycle | systemLifecycle
deriving DecidableEq

inductive StageKind where
  | automatic | watchedObservation | lifecycle
deriving DecidableEq

inductive ReceiverLifecycleView where
  | active | recovering | unavailable
deriving DecidableEq

/-- The device kinds the console tells apart. -/
inductive KindView where
  | mouse | keyboard | other
deriving DecidableEq

structure BindingView where
  id : String
  digest : String
deriving DecidableEq

structure DeviceView where
  deviceId : String
  kind : KindView
  productId : Nat
  profile : Option BindingView
  presence : PresenceView
deriving DecidableEq

structure ReceiverView where
  receiverId : String
  generationId : Nat
  profile : Option BindingView
  lifecycle : ReceiverLifecycleView
  devices : List DeviceView
deriving DecidableEq

structure ObservationChoice where
  id : String
  label : String
  outcome : String
deriving DecidableEq

structure ObservationPrompt where
  id : String
  prompt : String
  choices : List ObservationChoice
deriving DecidableEq

structure StageResult where
  summary : String
  evidenceRefs : List EvidenceRef
deriving DecidableEq

structure StageCheckpoint where
  checkpointId : String
  instructions : List String
  observations : List ObservationPrompt
  evidenceRefs : List EvidenceRef
deriving DecidableEq

structure StageProgress where
  status : StageStatus
  result : Option StageResult
  checkpoint : Option StageCheckpoint
deriving DecidableEq

structure QualificationStage where
  stageId : String
  kind : StageKind
  risk : RiskLevel
  status : StageStatus
  instructions : List String
  observations : List ObservationPrompt
  actionId : Option String
  result : Option StageResult
deriving DecidableEq

structure QualificationGroup where
  groupId : String
  stages : List QualificationStage
deriving DecidableEq

structure QualificationPlan where
  receiverId : String
  generationId : Nat
  deviceId : String
  profileBinding : Option BindingView
  groups : List QualificationGroup
deriving DecidableEq

def QualificationPlan.stages (plan : QualificationPlan) : List QualificationStage :=
  plan.groups.flatMap (·.stages)

structure RunnerTransition where
  progress : StageProgress
  hardwareWriteExecuted : Bool
deriving DecidableEq

def profileBinding (binding : ProfileBindingView) : BindingView :=
  ⟨binding.profileId.asStr, binding.profileDigest.asStr⟩

def outcomeChoices (pass fail : String) : List ObservationChoice :=
  [⟨"pass", pass, "pass"⟩, ⟨"fail", fail, "fail"⟩, ⟨"unclear", "Unclear", "unclear"⟩]

end Qualification

end HyperfluxNext
