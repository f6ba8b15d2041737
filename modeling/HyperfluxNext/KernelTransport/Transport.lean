import HyperfluxNext.KernelTransport.History

namespace HyperfluxNext

open Procedure

namespace KernelTransport

variable {I : Type} [KernelIo I]

section NativeExchanges

variable [FingerprintCodec] (request : NativeExchangeRequest) (requestDigest : DigestBytes)

def validateNativeRequest : Except KernelTransportError Unit :=
  reject (!request.validate) (.safe .invalidNativeExchange)

def nativeResultMatches (generationId : GenerationId) (authorizationEpoch : Nat)
    (query : HfxUapiNativeExchangeResult) : Bool :=
  query.version = hfxUapiNativeAbiVersion ∧ query.size = hfxUapiNativeExchangeResultBytes ∧
    query.receiverGeneration = generationId.get ∧ query.authorizationEpoch = authorizationEpoch ∧
    query.dispatchNonce = request.dispatchNonce ∧ query.endpointSlot = request.endpoint.asUapi ∧
    query.routeTokenDigest = request.routeTokenDigest ∧ query.requestDigest = requestDigest ∧
    query.reserved = 0

def decodeNativeResult (generationId : GenerationId) (authorizationEpoch : Nat)
    (query : HfxUapiNativeExchangeResult) : Except KernelTransportError NativeExchangeOutcome := do
  reject (!nativeResultMatches request requestDigest generationId authorizationEpoch query)
    (.uncertain .nativeOutcomeConflict)
  match NativeExchangeOutcome.decode query with
  | some outcome => .ok outcome
  | none => .error (.uncertain .nativeOutcomeConflict)

def queryNativeExchange (authorizationEpoch kernelSequence : Nat) : TransportM I NativeExchangeOutcome := do
  let transport ← get
  let (result, query) ← ioctl KernelIo.getNativeExchangeResult {
    version := hfxUapiNativeAbiVersion
    size := hfxUapiNativeExchangeResultBytes
    receiverGeneration := transport.material.generationId.get
    authorizationEpoch := authorizationEpoch
    kernelSequence := kernelSequence
    dispatchNonce := request.dispatchNonce
    endpointSlot := request.endpoint.asUapi
    certainty := 0
    routeTokenDigest := request.routeTokenDigest
    requestDigest := requestDigest
    transportErrno := 0
    responseLength := 0
    response := Vector.replicate 90 0
    reserved := 0 }
  lift (fun _ => .uncertain .nativeOutcomeUnavailable) result
  lift id (decodeNativeResult request requestDigest transport.material.generationId authorizationEpoch query)

def reconcileNativeExchange : TransportM I NativeExchangeOutcome := do
  lift id (validateNativeRequest request)
  match ← lookupDispatch request.dispatchNonce request.requestDigest with
  | .known epoch => queryNativeExchange request request.requestDigest epoch 0
  | .new epoch => queryNativeExchange request request.requestDigest epoch 0
  | .forgotten => throw (.uncertain .nativeOutcomeUnavailable)
  | .conflict => throw (.uncertain .nativeOutcomeConflict)

def nativeSubmission (generationId : GenerationId) (authorizationEpoch deadline : Nat) :
    HfxUapiNativeExchangeSubmit where
  version := hfxUapiNativeAbiVersion
  size := hfxUapiNativeExchangeSubmitBytes
  receiverGeneration := generationId.get
  authorizationEpoch := authorizationEpoch
  dispatchNonce := request.dispatchNonce
  deadlineBoottimeNs := deadline
  endpointSlot := request.endpoint.asUapi
  reportLength := hfxUapiNativeReportBytes
  routeTokenDigest := request.routeTokenDigest
  requestDigest := requestDigest
  report := request.report
  kernelSequence := 0

def submitNativeExchange (authorizationEpoch : Nat) : TransportM I NativeExchangeOutcome := do
  rememberDispatch request.dispatchNonce requestDigest authorizationEpoch
  refuse (u64Max < request.timeout) (.safe .invalidNativeExchange)
  let boottime ← ask KernelIo.boottimeNs
  let now ← lift ioError boottime
  refuse (u64Max < now + request.timeout) (.safe .invalidNativeExchange)
  let transport ← get
  let (_, submit) ← ioctl KernelIo.submitNativeExchange
    (nativeSubmission request requestDigest transport.material.generationId authorizationEpoch
      (now + request.timeout))
  queryNativeExchange request requestDigest authorizationEpoch submit.kernelSequence

def nativeExchange : TransportM I NativeExchangeOutcome := do
  lift id (validateNativeRequest request)
  match ← lookupDispatch request.dispatchNonce request.requestDigest with
  | .known epoch => queryNativeExchange request request.requestDigest epoch 0
  | .new epoch => submitNativeExchange request request.requestDigest epoch
  | .forgotten => throw (.uncertain .nativeOutcomeUnavailable)
  | .conflict => throw (.uncertain .nativeOutcomeConflict)

end NativeExchanges

def hexNibble (value : UInt8) : UInt8 :=
  if 48 ≤ value ∧ value ≤ 57 then value - 48
  else if 97 ≤ value ∧ value ≤ 102 then value - 97 + 10
  else 0

def lowerHexByte (byte : UInt8) : Bool := (48 ≤ byte ∧ byte ≤ 57) ∨ (97 ≤ byte ∧ byte ≤ 102)

def decodeDigest (value : String) : Except KernelTransportError DigestBytes :=
  let bytes := value.toUTF8.toList
  if bytes.length ≠ 64 ∨ bytes.any (!lowerHexByte ·) then .error profileMismatch
  else .ok (Vector.ofFn fun index : Fin 32 =>
    hexNibble (bytes.getD (index * 2) 0) <<< 4 ||| hexNibble (bytes.getD (index * 2 + 1) 0))

def encodeForBackend (catalog : RuntimeProfileCatalog) (receiverProtocolFamily : String)
    (backendId : Nat) (dispatch : TransportDispatch) : Except KernelTransportError EncodedTransaction :=
  if backendId = hw001BackendId then encodeHw001 catalog receiverProtocolFamily dispatch
  else .error (.safe .unsupportedBackend)

/-- What a transport takes from its receiver's profile. -/
structure ReceiverBinding where
  vendorId : VendorId
  productId : ProductId
  protocolFamily : String
  backendId : Nat

structure ReceiverTransportFacts where
  productId : Option ProductId
  transportBackendId : Option Nat

def bindReceiver (catalog : RuntimeProfileCatalog) (facts : ProfileId → ReceiverTransportFacts)
    (material : KernelSessionMaterial) : Except KernelTransportError ReceiverBinding := do
  let some receiver := catalog.profile material.receiverProfileId | .error profileMismatch
  reject (receiver.profileKind ≠ .receiver ∨
    receiver.runtimeDigest ≠ material.receiverProfileDigest) profileMismatch
  let some vendorId := receiver.vendorId | .error profileMismatch
  let some productId := (facts receiver.profileId).productId | .error profileMismatch
  let some protocolFamily := receiver.protocolFamily | .error profileMismatch
  let some backendId := (facts receiver.profileId).transportBackendId
    | .error (.safe .unsupportedBackend)
  return ⟨vendorId, productId, protocolFamily, backendId⟩

namespace KernelReceiverTransport

def bound (io : I) (catalog : RuntimeProfileCatalog) (facts : ProfileId → ReceiverTransportFacts)
    (material : KernelSessionMaterial) : Except KernelTransportError (KernelReceiverTransport I) := do
  let sessionDurationNs ← material.validate
  let receiver ← bindReceiver catalog facts material
  let profileDigest ← decodeDigest material.receiverProfileDigest.asStr
  return {
    io := io
    catalog := catalog
    material := material
    profileDigest := profileDigest
    sessionDurationNs := sessionDurationNs
    receiverVendorId := receiver.vendorId.get
    receiverProductId := receiver.productId.get
    receiverProtocolFamily := receiver.protocolFamily
    backendId := receiver.backendId
    session := ⟨0, 0, false⟩
    history := .empty
  }

def openSession : TransportM I Unit := do
  let read ← ask KernelIo.getInfo
  let info ← lift ioError read
  let transport ← get
  lift id (transport.validateWritableInfo info)
  let _ ← ensureSession

def new (io : I) (catalog : RuntimeProfileCatalog) (facts : ProfileId → ReceiverTransportFacts)
    (material : KernelSessionMaterial) : Except KernelTransportError (KernelReceiverTransport I) := do
  let transport ← bound io catalog facts material
  match openSession transport with
  | .ok _ opened => .ok opened
  | .error error _ => .error error

end KernelReceiverTransport

def readObservations (afterSequence : Nat) : TransportM I KernelObservationBatch := do
  let transport ← get
  let (result, request) ← ioctl KernelIo.readObservations {
    version := hfxUapiAbiVersion
    size := hfxUapiReadObservationsBytes
    receiverGeneration := transport.material.generationId.get
    afterSequence := afterSequence }
  lift ioError result
  lift id (decodeObservations transport.material.generationId.get afterSequence request)

def shutdown : TransportM I Unit := endActiveSession RevokeReason.explicit

def currentGeneration (receiverId : ReceiverId) : TransportM I (Option GenerationId) := do
  let transport ← get
  if receiverId ≠ transport.material.receiverId then pure none
  else do
    let read ← ask KernelIo.getInfo
    pure (match read with
      | .error _ => none
      | .ok info =>
        match transport.validateBindingInfo info with
        | .error _ => none
        | .ok _ =>
          if info.flags &&& InfoFlag.disconnecting ≠ 0 ∨ info.boundInterfaces = 0 then none
          else some transport.material.generationId)

def nativeExchangeAvailable (receiverId : ReceiverId) (generationId : GenerationId) : TransportM I Bool := do
  let transport ← get
  if receiverId = transport.material.receiverId ∧ generationId = transport.material.generationId then do
    let read ← ask KernelIo.getInfo
    pure (match read with
      | .error _ => false
      | .ok info => (transport.validateWritableInfo info).isOk)
  else pure false

section Dispatches

variable [FingerprintCodec] (dispatch : TransportDispatch)

def encodeAndFingerprint (transport : KernelReceiverTransport I) :
    Except KernelTransportError (EncodedTransaction × DigestBytes) := do
  reject (dispatch.receiverId ≠ transport.material.receiverId ∨
    dispatch.generationId ≠ transport.material.generationId ∨
    dispatch.receiverProfileId ≠ transport.material.receiverProfileId ∨
    dispatch.receiverProfileDigest ≠ transport.material.receiverProfileDigest)
    (.safe .invalidDispatch)
  let encoded ← encodeForBackend transport.catalog transport.receiverProtocolFamily transport.backendId dispatch
  let fingerprint ← dispatchFingerprint dispatch encoded
  return (encoded, fingerprint)

def reconcile : TransportM I TransportReconciliation := do
  let transport ← get
  match encodeAndFingerprint dispatch transport with
  | .error _ => pure .conflict
  | .ok (encoded, fingerprint) => reconcileExact dispatch encoded fingerprint

def dispatchTransaction : TransportM I TransportReceipt := do
  let transport ← get
  let (encoded, fingerprint) ← lift id (encodeAndFingerprint dispatch transport)
  match ← reconcileExact dispatch encoded fingerprint with
  | .retained receipt => pure receipt
  | .retainedFailure facts => throw (.retained .outcomeRetainedFailure facts)
  | .notObserved => submitNew dispatch encoded fingerprint
  | .evicted => throw (.uncertain .outcomeEvicted)
  | .unavailable => throw (.uncertain .outcomeUnavailable)
  | .conflict => throw (.uncertain .outcomeConflict)

end Dispatches

section NativeDispatches

structure NativeTransportDispatch where
  dispatchNonce : DispatchNonce
  receiverId : ReceiverId
  generationId : GenerationId
  endpoint : NativeEndpointLane
  routeTokenDigest : DigestBytes
  report : NativeReport
  timeoutMs : Bounded 1 1000

inductive NativeTransportResult where
  | notSent (errorKind : ProtocolErrorKind)
  | mayHaveBeenSent (errorKind : ProtocolErrorKind)
  | matchedResponse (response : NativeReport)

structure NativeTransportOutcome where
  dispatchNonce : DispatchNonce
  routeTokenDigest : DigestBytes
  result : NativeTransportResult

variable (dispatch : NativeTransportDispatch)

def coreNativeFailure (errorKind : ProtocolErrorKind) (retrySafe : Bool) : NativeTransportOutcome :=
  ⟨dispatch.dispatchNonce, dispatch.routeTokenDigest,
    if retrySafe then .notSent errorKind else .mayHaveBeenSent errorKind⟩

def nativeTransportErrorKind (transportErrno : Int) : ProtocolErrorKind :=
  if transportErrno = 0 then .outcomeUnknown else .transportFailure

def kernelNativeErrorKind : KernelTransportErrorKind → ProtocolErrorKind
  | .invalidNativeExchange | .invalidDispatch | .encoding => .invalidRequest
  | .generationMismatch | .receiverMismatch => .staleGeneration
  | .outcomeEvicted => .outcomeEvicted
  | .nativeOutcomeUnavailable | .nativeOutcomeConflict | .outcomeUnavailable | .outcomeConflict =>
    .outcomeUnknown
  | .io | .abiMismatch | .profileMismatch | .unsupportedBackend | .invalidSessionMaterial
  | .sessionUnavailable | .outcomeRetainedFailure | .kernelRejected => .transportFailure

def nativeRequest : NativeExchangeRequest where
  dispatchNonce := dispatch.dispatchNonce.get
  endpoint := dispatch.endpoint
  routeTokenDigest := dispatch.routeTokenDigest
  report := dispatch.report
  timeout := dispatch.timeoutMs.get * 1000000

def nativeOutcome : Except KernelTransportError NativeExchangeOutcome → NativeTransportOutcome
  | .error error => coreNativeFailure dispatch (kernelNativeErrorKind error.kind) error.facts.automaticRetrySafe
  | .ok outcome =>
    if outcome.dispatchNonce = dispatch.dispatchNonce.get ∧
        outcome.routeTokenDigest = dispatch.routeTokenDigest then
      match outcome.certainty, outcome.response with
      | .notSent, _ => ⟨dispatch.dispatchNonce, dispatch.routeTokenDigest,
          .notSent (nativeTransportErrorKind outcome.transportErrno)⟩
      | .mayHaveBeenSent, _ => ⟨dispatch.dispatchNonce, dispatch.routeTokenDigest,
          .mayHaveBeenSent (nativeTransportErrorKind outcome.transportErrno)⟩
      | .matchedResponse, some response => ⟨dispatch.dispatchNonce, dispatch.routeTokenDigest,
          .matchedResponse response⟩
      | .matchedResponse, none => coreNativeFailure dispatch .outcomeUnknown false
    else coreNativeFailure dispatch .outcomeUnknown false

def dispatchNative [FingerprintCodec] : TransportM I NativeTransportOutcome := do
  let transport ← get
  if dispatch.receiverId ≠ transport.material.receiverId ∨
      dispatch.generationId ≠ transport.material.generationId then
    pure (coreNativeFailure dispatch .staleGeneration true)
  else do
    let result ← attempt (nativeExchange (nativeRequest dispatch))
    pure (nativeOutcome dispatch result)

end NativeDispatches

end KernelTransport

end HyperfluxNext
