import HyperfluxNext.Protocol.Messages

namespace HyperfluxNext

structure SubmissionBinding where
  sessionId : SessionId
  authorizationEpoch : AuthorizationEpoch
  dispatchNonce : DispatchNonce
deriving DecidableEq

structure TransportDispatch where
  sessionId : SessionId
  authorizationEpoch : AuthorizationEpoch
  dispatchNonce : DispatchNonce
  receiverId : ReceiverId
  generationId : GenerationId
  transactionId : TransactionId
  requestDigest : RequestDigest
  receiverProfileId : ProfileId
  receiverProfileDigest : ProfileDigest
  deviceProfiles : List DeviceProfileBinding
  frames : List LightingFrame
deriving DecidableEq

inductive TransportTerminal where
  | delivered | failed | revoked
deriving DecidableEq

structure TransportFailureFacts where
  deliveredFrames : DeliveredFrameCount
  sideEffectCertainty : SideEffectCertainty
  liveWriteExecuted : Bool
  automaticRetrySafe : Bool
  deviceApplication : DeviceApplicationState
deriving DecidableEq

structure TransportReceipt where
  terminal : TransportTerminal
  deliveredFrames : DeliveredFrameCount
  sideEffectCertainty : SideEffectCertainty
  liveWriteExecuted : Bool
  automaticRetrySafe : Bool
  deviceApplication : DeviceApplicationState
deriving DecidableEq

def TransportReceipt.facts (receipt : TransportReceipt) : TransportFailureFacts :=
  ⟨receipt.deliveredFrames, receipt.sideEffectCertainty, receipt.liveWriteExecuted,
    receipt.automaticRetrySafe, receipt.deviceApplication⟩

/-- Durable adapter knowledge of one exact dispatch. Only `notObserved` permits a new write. -/
inductive TransportReconciliation where
  | notObserved
  | retained (receipt : TransportReceipt)
  | retainedFailure (facts : TransportFailureFacts)
  | evicted
  | unavailable
  | conflict
deriving DecidableEq

/-- The hardware-facing port. Its failures are known to the core by their facts only. -/
class ReceiverTransport (T : Type) where
  currentGeneration : T → ReceiverId → Option GenerationId
  writeAvailable : T → ReceiverId → GenerationId → Bool
  reconcile : T → TransportDispatch → TransportReconciliation
  dispatch : T → TransportDispatch → Except TransportFailureFacts TransportReceipt × T

structure SessionAuthority where
  authorizes : SessionId → AuthorizationEpoch → Bool

structure QualifiedReceiverProfile where
  profileId : ProfileId
  profileDigest : ProfileDigest

structure QualifiedDeviceProfile where
  profileId : ProfileId
  profileDigest : ProfileDigest
  applicationSlotCount : LedCount

structure ProfileRegistry where
  supports : ResourceKey → Bool
  receiverProfile : ReceiverId → GenerationId → Option QualifiedReceiverProfile
  deviceProfile : ResourceKey → Option QualifiedDeviceProfile
  permitsStableLightingMigration : ResourceKey → ProfileDigest → Bool

structure DeviceStateAuthority where
  writeReadiness : ResourceKey → DeviceWriteReadiness

/-- The read-only authorities one call consults besides the leases and the transport. -/
structure Authorities where
  sessions : SessionAuthority
  profiles : ProfileRegistry
  devices : DeviceStateAuthority

/-- The canonical SHA-256 identities of serialized requests, restore claims and intents. -/
class CanonicalDigests where
  requestDigest : TransactionRequest → RequestDigest

end HyperfluxNext
