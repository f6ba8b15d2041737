import HyperfluxNext.Domain.Enums

namespace HyperfluxNext

structure ResourceKey where
  receiverId : ReceiverId
  generationId : GenerationId
  deviceId : LogicalDeviceId
  kind : ResourceKind
deriving DecidableEq

instance : Ord ResourceKey where
  compare := compareLex (compareOn ResourceKey.receiverId) (compareLex
    (compareOn ResourceKey.generationId) (compareLex (compareOn ResourceKey.deviceId)
      (compareOn (ResourceKind.rank ∘ ResourceKey.kind))))

structure RgbColor where
  red : ColorChannel
  green : ColorChannel
  blue : ColorChannel
deriving DecidableEq

structure LightingFrame where
  deviceId : LogicalDeviceId
  frameIndex : FrameIndex
  colors : List RgbColor
deriving DecidableEq

structure DeviceProfileBinding where
  deviceId : LogicalDeviceId
  profileId : ProfileId
  profileDigest : ProfileDigest
  applicationSlotCount : LedCount
deriving DecidableEq

structure StableLightingIntent where
  deviceId : LogicalDeviceId
  mode : StableLightingMode
deriving DecidableEq

structure LeaseRequest where
  requestId : RequestId
  clientId : ClientId
  resources : List ResourceKey
  durationMs : LeaseDurationMs
deriving DecidableEq

structure RenewLeaseRequest where
  requestId : RequestId
  clientId : ClientId
  leaseId : LeaseId
  durationMs : LeaseDurationMs
deriving DecidableEq

structure ReleaseLeaseRequest where
  requestId : RequestId
  clientId : ClientId
  leaseId : LeaseId
deriving DecidableEq

structure LeaseGrant where
  leaseId : LeaseId
  clientId : ClientId
  resources : List ResourceKey
  expiresAtMs : MonotonicMs
  state : LeaseState
deriving DecidableEq

structure LeaseConflict where
  conflictingClient : ClientId
  conflictingResource : ResourceKey
deriving DecidableEq

structure LeaseRejection where
  errorKind : ProtocolErrorKind
  findingId : FindingId
deriving DecidableEq

inductive LeaseResult where
  | granted (grant : LeaseGrant)
  | conflict (conflict : LeaseConflict)
  | rejected (rejection : LeaseRejection)
deriving DecidableEq

structure TransactionRequest where
  requestId : RequestId
  transactionId : TransactionId
  clientId : ClientId
  leaseId : LeaseId
  receiverId : ReceiverId
  generationId : GenerationId
  receiverProfileId : ProfileId
  receiverProfileDigest : ProfileDigest
  deviceProfiles : List DeviceProfileBinding
  transactionClass : TransactionClass
  stableIntents : List StableLightingIntent
  deadlineMs : MonotonicMs
  resources : List ResourceKey
  frames : List LightingFrame
deriving DecidableEq

structure TransactionProgress where
  requestId : RequestId
  requestDigest : RequestDigest
  transactionId : TransactionId
  receiverId : ReceiverId
  generationId : GenerationId
  state : TransactionState
  admission : QueueAdmission
  declaredFrames : FrameCount
  deliveredFrames : DeliveredFrameCount
  sideEffectCertainty : SideEffectCertainty
  liveWriteExecuted : Bool
deriving DecidableEq

structure TransactionTerminal where
  requestId : RequestId
  requestDigest : RequestDigest
  transactionId : TransactionId
  receiverId : ReceiverId
  generationId : GenerationId
  state : TransactionState
  declaredFrames : FrameCount
  deliveredFrames : DeliveredFrameCount
  sideEffectCertainty : SideEffectCertainty
  liveWriteExecuted : Bool
  automaticRetry : Bool
  deviceApplication : DeviceApplicationState
  terminalSequence : SequenceNumber
  errorKind : Option ProtocolErrorKind
  supersededBy : Option TransactionId
deriving DecidableEq

structure TransactionUnavailable where
  transactionId : TransactionId
  errorKind : ProtocolErrorKind
  findingId : FindingId
deriving DecidableEq

inductive TransactionResult where
  | progress (progress : TransactionProgress)
  | terminal (terminal : TransactionTerminal)
  | unavailable (unavailable : TransactionUnavailable)
deriving DecidableEq

structure BridgeEvent where
  sequence : SequenceNumber
  kind : EventKind
  receiverId : Option ReceiverId
  generationId : Option GenerationId
  deviceId : Option LogicalDeviceId
  leaseId : Option LeaseId
  transactionId : Option TransactionId
  findingId : Option FindingId
deriving DecidableEq

end HyperfluxNext
