import HyperfluxNext.KernelTransport.Session
import HyperfluxNext.Library.ByteOrder

namespace HyperfluxNext

open Procedure

namespace KernelTransport

def dispatchBindingCapacity : Nat := 128

inductive DispatchLookup where
  | known (epoch : Nat)
  | new (epoch : Nat)
  | forgotten
  | conflict

namespace DispatchHistory

/-- Removes the oldest bindings while there are more than the capacity. -/
def expireBindings (bindings : Std.TreeMap Nat DispatchBinding) :
    List Nat → Std.TreeMap Nat DispatchBinding × List Nat
  | [] => (bindings, [])
  | expired :: order =>
    if dispatchBindingCapacity < (expired :: order).length then
      expireBindings (bindings.erase expired) order
    else (bindings, expired :: order)

def bind (history : DispatchHistory) (nonce : Nat) (binding : DispatchBinding) : DispatchHistory :=
  let expired := expireBindings (history.bindings.insert nonce binding) (history.order ++ [nonce])
  ⟨nonce, expired.1, expired.2⟩

def remember (history : DispatchHistory) (nonce : Nat) (fingerprint : DigestBytes)
    (authorizationEpoch : Nat) : Except KernelTransportError DispatchHistory :=
  match history.bindings[nonce]? with
  | some existing =>
    if existing.fingerprint = fingerprint ∧ existing.authorizationEpoch = authorizationEpoch then
      .ok history
    else .error (.uncertain .outcomeConflict)
  | none =>
    if nonce ≤ history.maximumNonce then .error (.uncertain .outcomeUnavailable)
    else .ok (history.bind nonce ⟨fingerprint, authorizationEpoch⟩)

end DispatchHistory

section Results

variable (dispatch : TransportDispatch) (encoded : EncodedTransaction) (fingerprint : DigestBytes)
  (authorizationEpoch : Nat) (result : HfxUapiTransactionResult)

def statusNamesEpoch (status : Nat) : Bool :=
  status = TransportStatus.notObserved ∨ status = TransportStatus.reserved ∨
    status = TransportStatus.started ∨ status = TransportStatus.unavailable ∨
    status = TransportStatus.conflict

def validateResultKey : Except KernelTransportError Unit := do
  reject (result.version ≠ hfxUapiAbiVersion ∨ result.size ≠ hfxUapiTransactionResultBytes)
    (.uncertain .abiMismatch)
  reject (result.receiverGeneration ≠ dispatch.generationId.get ∨
    result.dispatchNonce ≠ dispatch.dispatchNonce.get ∨ result.requestDigest ≠ fingerprint)
    (.uncertain .outcomeConflict)
  reject (statusNamesEpoch result.status ∧ result.authorizationEpoch ≠ authorizationEpoch)
    (.uncertain .outcomeConflict)

def semanticCount (value : Nat) : Except KernelTransportError DeliveredFrameCount :=
  match Bounded.tryFrom 0 4096 value with
  | some count => .ok count
  | none => .error (.uncertain .outcomeConflict)

def validateTerminalCounts : Except KernelTransportError Unit :=
  reject (result.kernelSequence = 0 ∨ result.framesPlanned ≠ encoded.frames.length ∨
    result.framesPlanned < result.framesCompleted) (.uncertain .outcomeConflict)

def writeStarted : Bool := result.flags &&& ResultFlag.writeStarted ≠ 0

def retrySafe : Bool := result.flags &&& ResultFlag.automaticRetrySafe ≠ 0

def failureFacts : Except KernelTransportError TransportFailureFacts := do
  let sideEffectCertainty : SideEffectCertainty :=
    if 0 < result.framesCompleted then .partially
    else if writeStarted result then .possible
    else .none
  let liveWriteExecuted : Bool := writeStarted result ∨ 0 < result.framesCompleted
  let deliveredFrames ← semanticCount (encoded.semanticFramesCompleted result.framesCompleted)
  return {
    deliveredFrames := deliveredFrames
    sideEffectCertainty := sideEffectCertainty
    liveWriteExecuted := liveWriteExecuted
    automaticRetrySafe := retrySafe result ∧ ¬ liveWriteExecuted ∧ sideEffectCertainty = .none
    deviceApplication := .unverified
  }

def decodeSucceeded : Except KernelTransportError TransportReconciliation := do
  validateTerminalCounts encoded result
  reject (result.framesCompleted ≠ encoded.frames.length ∨ !writeStarted result ∨ retrySafe result)
    (.uncertain .outcomeConflict)
  let deliveredFrames ← semanticCount encoded.semanticFrameCount
  return .retained ⟨.delivered, deliveredFrames, .committed, true, false, .unverified⟩

def decodeFailed : Except KernelTransportError TransportReconciliation := do
  validateTerminalCounts encoded result
  let facts ← failureFacts encoded result
  if result.status = TransportStatus.revoked then
    return .retained ⟨.revoked, facts.deliveredFrames, facts.sideEffectCertainty, facts.liveWriteExecuted,
      facts.automaticRetrySafe, facts.deviceApplication⟩
  else return .retainedFailure facts

def decodeNotObserved : Except KernelTransportError TransportReconciliation := do
  reject (result.kernelSequence ≠ 0 ∨ result.framesPlanned ≠ 0 ∨ result.framesCompleted ≠ 0 ∨
    result.flags ≠ ResultFlag.automaticRetrySafe) (.uncertain .outcomeConflict)
  return .notObserved

def knownFlags : Nat := ResultFlag.writeStarted ||| ResultFlag.automaticRetrySafe

def decodeStatus : Except KernelTransportError TransportReconciliation :=
  if result.status = TransportStatus.notObserved then decodeNotObserved result
  else if result.status = TransportStatus.reserved ∨ result.status = TransportStatus.started then
    .ok .unavailable
  else if result.status = TransportStatus.succeeded then decodeSucceeded encoded result
  else if result.status = TransportStatus.failed ∨ result.status = TransportStatus.revoked then
    decodeFailed encoded result
  else if result.status = TransportStatus.evicted then .ok .evicted
  else if result.status = TransportStatus.unavailable then .ok .unavailable
  else if result.status = TransportStatus.conflict then .ok .conflict
  else .error (.uncertain .abiMismatch)

def decodeResult : Except KernelTransportError TransportReconciliation := do
  reject (result.flags &&& (u32Max ^^^ knownFlags) ≠ 0) (.uncertain .abiMismatch)
  decodeStatus encoded result

end Results

def frameBytes (frame : HfxUapiFrame) : List UInt8 :=
  ByteOrder.toBeBytes 4 frame.backendId ++ ByteOrder.toBeBytes 2 frame.kind ++
    ByteOrder.toBeBytes 2 frame.payloadLength ++ ByteOrder.toBeBytes 4 frame.delayAfterUs ++
    ByteOrder.toBeBytes 4 frame.flags ++ frame.payload.toList

def dispatchDomain : List UInt8 := uapiBytes "hyperflux-kernel-dispatch-v1"

def dispatchFingerprint [FingerprintCodec] (dispatch : TransportDispatch) (encoded : EncodedTransaction) :
    Except KernelTransportError DigestBytes :=
  match FingerprintCodec.toVec dispatch with
  | none => .error encodingError
  | some semantic =>
    if u64Max < semantic.length then .error encodingError
    else .ok (FingerprintCodec.sha256 (dispatchDomain ++ ByteOrder.toBeBytes 8 semantic.length ++
      semantic ++ encoded.frames.flatMap frameBytes))

variable {I : Type} [KernelIo I]

def lookupDispatch (nonce : Nat) (fingerprint : DigestBytes) : TransportM I DispatchLookup := do
  let transport ← get
  match transport.history.bindings[nonce]? with
  | some binding =>
    pure (if binding.fingerprint = fingerprint then .known binding.authorizationEpoch else .conflict)
  | none =>
    if nonce ≤ transport.history.maximumNonce then pure .forgotten
    else do
      let epoch ← ensureSession
      pure (.new epoch)

def rememberDispatch (nonce : Nat) (fingerprint : DigestBytes) (authorizationEpoch : Nat) :
    TransportM I Unit := do
  let transport ← get
  let history ← lift id (transport.history.remember nonce fingerprint authorizationEpoch)
  set { transport with history := history }

section Dispatches

variable (dispatch : TransportDispatch) (encoded : EncodedTransaction) (fingerprint : DigestBytes)

def queryResult (authorizationEpoch : Nat) : TransportM I TransportReconciliation := do
  let transport ← get
  let (result, answer) ← ioctl KernelIo.getTransactionResult {
    version := hfxUapiAbiVersion
    size := hfxUapiTransactionResultBytes
    receiverGeneration := transport.material.generationId.get
    authorizationEpoch := authorizationEpoch
    kernelSequence := 0
    dispatchNonce := dispatch.dispatchNonce.get
    requestDigest := fingerprint
    status := 0
    framesPlanned := 0
    framesCompleted := 0
    failedFrame := 0
    transportErrno := 0
    revokeReason := 0
    flags := 0 }
  lift ioError result
  lift id (validateResultKey dispatch fingerprint authorizationEpoch answer)
  lift id (decodeResult encoded answer)

/-- The epoch under which the kernel is asked about a dispatch, if it is asked. -/
def lookupEpoch : Except KernelTransportError DispatchLookup → Except TransportReconciliation Nat
  | .error _ => .error .unavailable
  | .ok .forgotten => .error .unavailable
  | .ok .conflict => .error .conflict
  | .ok (.known epoch) => .ok epoch
  | .ok (.new epoch) => .ok epoch

def reconcileExact : TransportM I TransportReconciliation := do
  let lookup ← attempt (lookupDispatch dispatch.dispatchNonce.get fingerprint)
  match lookupEpoch lookup with
  | .error reconciliation => pure reconciliation
  | .ok authorizationEpoch => do
    let queried ← attempt (queryResult dispatch encoded fingerprint authorizationEpoch)
    pure (match queried with
      | .ok reconciliation => reconciliation
      | .error _ => .unavailable)

/-- What a submission is answered with, after the kernel was asked for its result. -/
def submitOutcome (submitResult : Except KernelIoError Unit) :
    Except KernelTransportError TransportReconciliation → Except KernelTransportError TransportReceipt
  | .ok (.retained receipt) => .ok receipt
  | .ok (.retainedFailure facts) => .error (.retained .outcomeRetainedFailure facts)
  | .ok .notObserved =>
    match submitResult with
    | .error _ => .error (.safe .kernelRejected)
    | .ok _ => .error (.uncertain .outcomeUnavailable)
  | .ok .evicted => .error (.uncertain .outcomeEvicted)
  | .ok .conflict => .error (.uncertain .outcomeConflict)
  | .ok .unavailable => .error (.uncertain .outcomeUnavailable)
  | .error _ => .error (.uncertain .outcomeUnavailable)

def submission (generationId : GenerationId) (authorizationEpoch : Nat) : HfxUapiSubmit where
  version := hfxUapiAbiVersion
  size := hfxUapiSubmitBytes
  receiverGeneration := generationId.get
  authorizationEpoch := authorizationEpoch
  dispatchNonce := dispatch.dispatchNonce.get
  requestDigest := fingerprint
  frameCount := encoded.frames.length
  flags := 0
  frames := Vector.ofFn fun index => encoded.frames.getD index default
  kernelSequence := 0

def submitNew : TransportM I TransportReceipt := do
  let authorizationEpoch ← ensureSession
  rememberDispatch dispatch.dispatchNonce.get fingerprint authorizationEpoch
  refuse (u32Max < encoded.frames.length) encodingError
  let transport ← get
  let (result, _) ← ioctl KernelIo.submit
    (submission dispatch encoded fingerprint transport.material.generationId authorizationEpoch)
  let reconciliation ← attempt (queryResult dispatch encoded fingerprint authorizationEpoch)
  lift id (submitOutcome result reconciliation)

end Dispatches

end KernelTransport

end HyperfluxNext
