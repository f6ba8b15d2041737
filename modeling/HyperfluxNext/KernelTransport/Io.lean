import HyperfluxNext.Driver.Observation
import HyperfluxNext.KernelTransport.Encoder
import HyperfluxNext.Library.ByteOrder
import HyperfluxNext.Library.Procedure

namespace HyperfluxNext

namespace KernelTransport

structure KernelIoError where
  rawOsError : Option Int

/-- An operation of the kernel that answers in the request it was given, also where it fails. -/
abbrev Exchange (I Request : Type) := Request → I → Except KernelIoError Unit × Request × I

class KernelIo (I : Type) where
  boottimeNs : I → Except KernelIoError Nat × I
  getInfo : I → Except KernelIoError HfxUapiInfo × I
  beginSession : Exchange I HfxUapiBeginSession
  endSession : HfxUapiEndSession → I → Except KernelIoError Unit × I
  submit : Exchange I HfxUapiSubmit
  getTransactionResult : Exchange I HfxUapiTransactionResult
  submitNativeExchange : Exchange I HfxUapiNativeExchangeSubmit
  getNativeExchangeResult : Exchange I HfxUapiNativeExchangeResult
  readObservations : Exchange I HfxUapiReadObservations

def ioError (_ : KernelIoError) : KernelTransportError := .uncertain .io

class FingerprintCodec where
  sha256 : List UInt8 → DigestBytes
  toVec : TransportDispatch → Option (List UInt8)

def uapiBytes (value : String) : List UInt8 := value.toUTF8.toList ++ [0]

inductive NativeEndpointLane where
  | pointer | keyboard

namespace NativeEndpointLane

def asUapi : NativeEndpointLane → Nat
  | .pointer => EndpointSlot.pointerLane
  | .keyboard => EndpointSlot.keyboardLane

def fromUapi (value : Nat) : Option NativeEndpointLane :=
  if value = EndpointSlot.pointerLane then some .pointer
  else if value = EndpointSlot.keyboardLane then some .keyboard
  else none

end NativeEndpointLane

/-- The timeout is in nanoseconds. -/
structure NativeExchangeRequest where
  dispatchNonce : Nat
  endpoint : NativeEndpointLane
  routeTokenDigest : DigestBytes
  report : NativeReport
  timeout : Nat

namespace NativeExchangeRequest

def validate (request : NativeExchangeRequest) : Bool :=
  request.dispatchNonce ≠ 0 ∧ anyNonzero request.routeTokenDigest ∧ request.timeout ≠ 0 ∧
    request.timeout ≤ hfxUapiNativeControlTimeoutNs

def nativeRequestDigestDomain : List UInt8 := uapiBytes "hyperflux-native-exchange-request-v1"

def requestDigest [FingerprintCodec] (request : NativeExchangeRequest) : DigestBytes :=
  FingerprintCodec.sha256 (nativeRequestDigestDomain ++
    (ByteOrder.toBeBytes 4 request.endpoint.asUapi).reverse ++ request.routeTokenDigest.toList ++
    request.report.toList)

end NativeExchangeRequest

inductive NativeExchangeCertainty where
  | notSent | mayHaveBeenSent | matchedResponse

structure NativeExchangeOutcome where
  authorizationEpoch : Nat
  kernelSequence : Nat
  dispatchNonce : Nat
  endpoint : NativeEndpointLane
  routeTokenDigest : DigestBytes
  requestDigest : DigestBytes
  certainty : NativeExchangeCertainty
  transportErrno : Int
  response : Option NativeReport

def decodeCertainty (result : HfxUapiNativeExchangeResult) :
    Option (NativeExchangeCertainty × Option NativeReport) :=
  if result.certainty = NativeCertainty.notSent ∧ result.kernelSequence = 0 ∧
      result.responseLength = 0 then some (.notSent, none)
  else if result.certainty = NativeCertainty.mayHaveBeenSent ∧ result.responseLength = 0 then
    some (.mayHaveBeenSent, none)
  else if result.certainty = NativeCertainty.matchedResponse ∧ result.kernelSequence ≠ 0 ∧
      result.transportErrno = 0 ∧ result.responseLength = hfxUapiNativeReportBytes then
    some (.matchedResponse, some result.response)
  else none

def NativeExchangeOutcome.decode (result : HfxUapiNativeExchangeResult) : Option NativeExchangeOutcome := do
  let endpoint ← NativeEndpointLane.fromUapi result.endpointSlot
  let (certainty, response) ← decodeCertainty result
  return {
    authorizationEpoch := result.authorizationEpoch
    kernelSequence := result.kernelSequence
    dispatchNonce := result.dispatchNonce
    endpoint := endpoint
    routeTokenDigest := result.routeTokenDigest
    requestDigest := result.requestDigest
    certainty := certainty
    transportErrno := result.transportErrno
    response := response
  }

end KernelTransport

open Procedure

structure KernelObservationBatch where
  generationId : Nat
  oldestSequence : Nat
  latestSequence : Nat
  cursorGap : Bool
  observations : List HfxUapiObservation

def malformedBatch : KernelTransportError := .safe .abiMismatch

def unordered : List HfxUapiObservation → Bool
  | first :: second :: rest => second.sequence ≤ first.sequence || unordered (second :: rest)
  | _ => false

def decodeObservations (expectedGeneration afterSequence : Nat) (value : HfxUapiReadObservations) :
    Except KernelTransportError KernelObservationBatch := do
  reject (value.version ≠ hfxUapiAbiVersion ∨ value.size ≠ hfxUapiReadObservationsBytes) (.safe .abiMismatch)
  reject (value.receiverGeneration ≠ expectedGeneration) (.safe .generationMismatch)
  reject (hfxUapiMaxObservations < value.count ∨
    value.flags &&& ~~~hfxUapiObservationBatchFlagCursorGap ≠ 0) malformedBatch
  let observations := value.observations.take value.count
  reject ((observations.any fun item => item.sequence ≤ afterSequence) ∨ unordered observations ∨
    (observations.any fun item => item.sequence < value.oldestSequence ∨ value.latestSequence < item.sequence) ∨
    observations = [] ∧ value.latestSequence < value.oldestSequence) malformedBatch
  return {
    generationId := expectedGeneration
    oldestSequence := value.oldestSequence
    latestSequence := value.latestSequence
    cursorGap := value.flags &&& hfxUapiObservationBatchFlagCursorGap ≠ 0
    observations := observations
  }

end HyperfluxNext
