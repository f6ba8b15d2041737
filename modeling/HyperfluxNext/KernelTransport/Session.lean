import HyperfluxNext.KernelTransport.Io

namespace HyperfluxNext

open Procedure

namespace KernelTransport

def sessionRenewalMarginNs : Nat := 5000000000

/-- The duration is in nanoseconds. -/
structure KernelSessionMaterial where
  receiverId : ReceiverId
  generationId : GenerationId
  receiverProfileId : ProfileId
  receiverProfileDigest : ProfileDigest
  capabilityDigest : DigestBytes
  daemonNonce : Vector UInt8 32
  sessionDuration : Nat

def KernelSessionMaterial.validate (material : KernelSessionMaterial) : Except KernelTransportError Nat := do
  reject (u64Max < material.sessionDuration) (.safe .invalidSessionMaterial)
  reject (material.sessionDuration ≤ sessionRenewalMarginNs ∨
    hfxUapiMaxSessionNs < material.sessionDuration ∨ !anyNonzero material.capabilityDigest ∨
    !anyNonzero material.daemonNonce) (.safe .invalidSessionMaterial)
  return material.sessionDuration

structure KernelSessionState where
  authorizationEpoch : Nat
  expiresBoottimeNs : Nat
  active : Bool

structure DispatchBinding where
  fingerprint : DigestBytes
  authorizationEpoch : Nat

structure DispatchHistory where
  maximumNonce : Nat
  bindings : Std.TreeMap Nat DispatchBinding
  order : List Nat

def DispatchHistory.empty : DispatchHistory := ⟨0, ∅, []⟩

structure KernelReceiverTransport (I : Type) where
  io : I
  catalog : RuntimeProfileCatalog
  material : KernelSessionMaterial
  profileDigest : DigestBytes
  sessionDurationNs : Nat
  receiverVendorId : Nat
  receiverProductId : Nat
  receiverProtocolFamily : String
  backendId : Nat
  session : KernelSessionState
  history : DispatchHistory

abbrev TransportM (I : Type) := EStateM KernelTransportError (KernelReceiverTransport I)

section Calls

variable {I Request Answer : Type}

def ask (call : I → Except KernelIoError Answer × I) : TransportM I (Except KernelIoError Answer) :=
  fun transport =>
    match call transport.io with
    | (result, io) => .ok result { transport with io := io }

def ioctl (call : Exchange I Request) (request : Request) : TransportM I (Except KernelIoError Unit × Request) :=
  fun transport =>
    match call request transport.io with
    | (result, answer, io) => .ok (result, answer) { transport with io := io }

end Calls

variable {I : Type}

namespace KernelReceiverTransport

def validateBindingInfo (transport : KernelReceiverTransport I) (info : HfxUapiInfo) :
    Except KernelTransportError Unit := do
  reject (info.version ≠ hfxUapiAbiVersion ∨ info.size ≠ hfxUapiInfoBytes) (.safe .abiMismatch)
  reject (info.vendorId ≠ transport.receiverVendorId ∨ info.productId ≠ transport.receiverProductId)
    (.safe .receiverMismatch)
  reject (info.receiverGeneration ≠ transport.material.generationId.get) (.safe .generationMismatch)

def validateWritableInfo (transport : KernelReceiverTransport I) (info : HfxUapiInfo) :
    Except KernelTransportError Unit := do
  transport.validateBindingInfo info
  reject (info.flags &&& (InfoFlag.disconnecting ||| InfoFlag.suspended) ≠ 0 ∨
    info.boundInterfaces = 0) (.safe .sessionUnavailable)

end KernelReceiverTransport

section Sessions

variable [KernelIo I]

def endSessionRecord (state : KernelSessionState) (reason : Nat) : TransportM I Unit := do
  let transport ← get
  let result ← ask (KernelIo.endSession {
    version := hfxUapiAbiVersion
    size := hfxUapiEndSessionBytes
    receiverGeneration := transport.material.generationId.get
    authorizationEpoch := state.authorizationEpoch
    reason := reason
    reserved := 0 })
  lift ioError result

def deactivateSession : TransportM I Unit :=
  modify fun transport => { transport with session := { transport.session with active := false } }

def kernelActive (info : HfxUapiInfo) : Bool := info.flags &&& InfoFlag.sessionActive ≠ 0

/-- The session that is kept is also the kernel's and is not about to expire. -/
def sessionHolds (state : KernelSessionState) (info : HfxUapiInfo) (now : Nat) : Bool :=
  state.active ∧ kernelActive info ∧ info.authorizationEpoch = state.authorizationEpoch ∧
    min (now + sessionRenewalMarginNs) u64Max < state.expiresBoottimeNs

def endForRenewal (info : HfxUapiInfo) : TransportM I Unit := do
  let transport ← get
  if kernelActive info then do
    refuse (!transport.session.active ∨ info.authorizationEpoch ≠ transport.session.authorizationEpoch)
      (.uncertain .sessionUnavailable)
    endSessionRecord transport.session RevokeReason.explicit
    deactivateSession
  else pure ()

def beginSession (now : Nat) : TransportM I Nat := do
  let transport ← get
  refuse (u64Max < now + transport.sessionDurationNs) (.safe .invalidSessionMaterial)
  let (result, answer) ← ioctl KernelIo.beginSession {
    version := hfxUapiAbiVersion
    size := hfxUapiBeginSessionBytes
    receiverGeneration := transport.material.generationId.get
    expiresBoottimeNs := now + transport.sessionDurationNs
    profileDigest := transport.profileDigest
    capabilityDigest := transport.material.capabilityDigest
    daemonNonce := transport.material.daemonNonce
    authorizationEpoch := 0 }
  lift ioError result
  refuse (answer.authorizationEpoch = 0) (.uncertain .sessionUnavailable)
  modify fun transport => { transport with
    session := ⟨answer.authorizationEpoch, now + transport.sessionDurationNs, true⟩ }
  pure answer.authorizationEpoch

def ensureSession : TransportM I Nat := do
  let boottime ← ask KernelIo.boottimeNs
  let now ← lift ioError boottime
  let read ← ask KernelIo.getInfo
  let info ← lift ioError read
  let transport ← get
  lift id (transport.validateWritableInfo info)
  if sessionHolds transport.session info now then pure transport.session.authorizationEpoch
  else do
    endForRenewal info
    beginSession now

def endActiveSession (reason : Nat) : TransportM I Unit := do
  let transport ← get
  if !transport.session.active then pure ()
  else do
    endSessionRecord transport.session reason
    deactivateSession

end Sessions

end KernelTransport

end HyperfluxNext
