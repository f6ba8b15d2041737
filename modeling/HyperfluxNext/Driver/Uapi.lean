import HyperfluxNext.Domain.Enums

namespace HyperfluxNext

def hfxUapiAbiVersion : Nat := 1

def hfxUapiNativeAbiVersion : Nat := 2

def hfxUapiMaxSessionNs : Nat := 300000000000

def hfxUapiMaxFrames : Nat := 16

def hfxUapiNativeReportBytes : Nat := 90

def hfxUapiNativeControlTimeoutNs : Nat := 1000000000

namespace InfoFlag

def disconnecting : Nat := 1
def suspended : Nat := 2
def writerOpen : Nat := 4
def sessionActive : Nat := 8

end InfoFlag

namespace RevokeReason

def none : Nat := 0
def close : Nat := 1
def explicit : Nat := 2
def disconnect : Nat := 3
def generationChange : Nat := 4
def timeout : Nat := 5
def suspend : Nat := 6
def transportFailure : Nat := 7
def serviceLoss : Nat := 8

end RevokeReason

def frameKindUsbClassSetReport : Nat := 1

namespace TransportStatus

def notObserved : Nat := 0
def reserved : Nat := 1
def started : Nat := 2
def succeeded : Nat := 3
def failed : Nat := 4
def revoked : Nat := 5
def evicted : Nat := 6
def unavailable : Nat := 7
def conflict : Nat := 8

end TransportStatus

namespace ResultFlag

def writeStarted : Nat := 1
def automaticRetrySafe : Nat := 2

end ResultFlag

namespace EndpointSlot

def receiver : Nat := 0
def pointerLane : Nat := 1
def keyboardLane : Nat := 2

end EndpointSlot

namespace NativeCertainty

def notSent : Nat := 1
def mayHaveBeenSent : Nat := 2
def matchedResponse : Nat := 3

end NativeCertainty

/-! The error numbers the driver answers with, as the positive constants of the kernel. -/

namespace Errno

def eio : Int := 5
def e2big : Int := 7
def eagain : Int := 11
def enomem : Int := 12
def eacces : Int := 13
def efault : Int := 14
def ebusy : Int := 16
def eexist : Int := 17
def enodev : Int := 19
def einval : Int := 22
def erange : Int := 34
def enodata : Int := 61
def etime : Int := 62
def eproto : Int := 71
def eoverflow : Int := 75
def eopnotsupp : Int := 95
def etimedout : Int := 110
def ehostdown : Int := 112
def ealready : Int := 114
def estale : Int := 116
def ekeyrevoked : Int := 128
def ekeyrejected : Int := 129

end Errno

abbrev DigestBytes := Vector UInt8 32

abbrev NativeReport := Vector UInt8 90

abbrev Payload := Vector UInt8 96

/-- Whether `memchr_inv` finds a byte other than zero. -/
def anyNonzero {n : Nat} (bytes : Vector UInt8 n) : Bool := bytes.any (· != 0)

structure HfxUapiFrame where
  backendId : Nat
  kind : Nat
  payloadLength : Nat
  delayAfterUs : Nat
  flags : Nat
  payload : Payload

structure HfxUapiInfo where
  version : Nat
  size : Nat
  receiverGeneration : Nat
  authorizationEpoch : Nat
  flags : Nat
  revokeReason : Nat
  vendorId : Nat
  productId : Nat
  boundInterfaces : Nat
  reserved : Nat

def hfxUapiInfoBytes : Nat := 40

instance : Inhabited HfxUapiFrame := ⟨⟨0, 0, 0, 0, 0, Vector.replicate 96 0⟩⟩

structure HfxUapiSubmit where
  version : Nat
  size : Nat
  receiverGeneration : Nat
  authorizationEpoch : Nat
  dispatchNonce : Nat
  requestDigest : DigestBytes
  frameCount : Nat
  flags : Nat
  frames : Vector HfxUapiFrame 16
  kernelSequence : Nat

def hfxUapiSubmitBytes : Nat := 1872

structure HfxUapiTransactionResult where
  version : Nat
  size : Nat
  receiverGeneration : Nat
  authorizationEpoch : Nat
  kernelSequence : Nat
  dispatchNonce : Nat
  requestDigest : DigestBytes
  status : Nat
  framesPlanned : Nat
  framesCompleted : Nat
  failedFrame : Nat
  transportErrno : Int
  revokeReason : Nat
  flags : Nat

def hfxUapiTransactionResultBytes : Nat := 104

structure HfxUapiNativeExchangeSubmit where
  version : Nat
  size : Nat
  receiverGeneration : Nat
  authorizationEpoch : Nat
  dispatchNonce : Nat
  deadlineBoottimeNs : Nat
  endpointSlot : Nat
  reportLength : Nat
  routeTokenDigest : DigestBytes
  requestDigest : DigestBytes
  report : NativeReport
  kernelSequence : Nat

def hfxUapiNativeExchangeSubmitBytes : Nat := 216

structure HfxUapiNativeExchangeResult where
  version : Nat
  size : Nat
  receiverGeneration : Nat
  authorizationEpoch : Nat
  kernelSequence : Nat
  dispatchNonce : Nat
  endpointSlot : Nat
  certainty : Nat
  routeTokenDigest : DigestBytes
  requestDigest : DigestBytes
  transportErrno : Int
  responseLength : Nat
  response : NativeReport
  reserved : Nat

def hfxUapiNativeExchangeResultBytes : Nat := 216

structure HfxUapiBeginSession where
  version : Nat
  size : Nat
  receiverGeneration : Nat
  expiresBoottimeNs : Nat
  profileDigest : DigestBytes
  capabilityDigest : DigestBytes
  daemonNonce : Vector UInt8 32
  authorizationEpoch : Nat

def hfxUapiBeginSessionBytes : Nat := 128

structure HfxUapiEndSession where
  version : Nat
  size : Nat
  receiverGeneration : Nat
  authorizationEpoch : Nat
  reason : Nat
  reserved : Nat

def hfxUapiEndSessionBytes : Nat := 32

def hw001BackendId : Nat := 1

def hw001ReportBytes : Nat := 90

def hw001ChecksumIndex : Nat := 88

def hw001ColorOffset : Nat := 13

def hw001MaxColumns : Nat := 25

def hw001MouseCommand : UInt8 := 0x2c

def hw001KeyboardCommand : UInt8 := 0x38

end HyperfluxNext
