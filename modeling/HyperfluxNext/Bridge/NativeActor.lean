import HyperfluxNext.Bridge.NativeExchange

namespace HyperfluxNext

open Procedure

abbrev NativeProtocolFamily := Text 1 64

inductive NativeRouteState where
  | available | temporarilyUnavailable | withdrawn
deriving DecidableEq

inductive NativeRouteAccess where
  | qualified | candidate | backendRequired
deriving DecidableEq

inductive NativeEndpointLane where
  | pointer | keyboard
deriving DecidableEq

structure NativeRoute where
  receiverId : ReceiverId
  generationId : GenerationId
  deviceId : LogicalDeviceId
  endpointId : EndpointId
  deviceKind : DeviceKind
  vendorId : VendorId
  productId : ProductId
  routeState : NativeRouteState
  access : NativeRouteAccess
  protocolFamily : NativeProtocolFamily
  reportBytes : Nat
  routeToken : Option NativeRouteToken
  resource : Option ResourceKey
deriving DecidableEq

structure NativeTransportDispatch where
  sessionId : SessionId
  authorizationEpoch : AuthorizationEpoch
  dispatchNonce : DispatchNonce
  receiverId : ReceiverId
  generationId : GenerationId
  endpoint : NativeEndpointLane
  routeTokenDigest : List UInt8
  report : List UInt8
  timeoutMs : NativeExchangeTimeoutMs
deriving DecidableEq

inductive NativeTransportResult where
  | notSent (errorKind : ProtocolErrorKind)
  | mayHaveBeenSent (errorKind : ProtocolErrorKind)
  | matchedResponse (response : List UInt8)

structure NativeTransportOutcome where
  dispatchNonce : DispatchNonce
  routeTokenDigest : List UInt8
  result : NativeTransportResult

structure AuthorizedSession where
  sessionId : SessionId
  authorizationEpoch : AuthorizationEpoch
  clientId : ClientId
deriving DecidableEq

/-- The authorities and ports one command of the actor meets. The route projection of a
synchronisation and the lease expiry of a tick are given by their answers. -/
structure NativePorts where
  dispatcher : Nat → Option (Except RpcFailure AuthorizedSession)
  authorizes : SessionId → AuthorizationEpoch → Bool
  expireLeases : Except RpcFailure Unit
  tickRoutes : Except RpcFailure (List NativeRoute)
  exchangeRoutes : Except RpcFailure (List NativeRoute)
  owns : ClientId → LeaseId → ResourceKey → Bool
  currentGeneration : ReceiverId → Option GenerationId
  nativeExchangeAvailable : ReceiverId → GenerationId → Bool
  nativeProfile : NativeRoute → Except ProtocolErrorKind Unit
  commandAllowed : NativeRoute → List UInt8 → Bool
  validatesRequest : NativeRoute → List UInt8 → Bool
  responseMatches : NativeRoute → List UInt8 → List UInt8 → Bool
  routeTokenDigest : NativeRouteToken → List UInt8
  dispatchNonce : Except RpcFailure DispatchNonce
  nativeExchange : NativeTransportDispatch → NativeTransportOutcome

structure NativeBackend where
  routes : List NativeRoute
  exchanges : NativeExchangeJournal
  invalidations : NativeInvalidationJournal
  calls : List NativeTransportDispatch

abbrev NativeM := EStateM RpcFailure NativeBackend

def nativeExchangeFailure : NativeExchangeJournalError → RpcFailure
  | .requestIdentityReused => requestFailure
  | .invalidCapacity => RpcFailure.internal

def nativeFinding (errorKind : ProtocolErrorKind) (uncertain : Bool) : ErrorCode :=
  if uncertain then
    .transport002
  else
    match errorKind with
    | .incompatibleVersion => .protocol001
    | .unsupportedFeature => .profile001
    | .invalidRequest => .request001
    | .ownershipConflict => .ownership002
    | .staleGeneration => .generation001
    | .deadlineExceeded => .deadline001
    | .queueFull => .queue001
    | .transportFailure => .transport001
    | .outcomeUnknown => .outcome001
    | .outcomeEvicted => .outcome002
    | .internalFailure => .internal001

def nativeRouteInvalidation (previous : NativeRoute) (current : List NativeRoute) : NativeExchangeRejection :=
  match current.find? fun candidate => candidate.receiverId = previous.receiverId ∧
      candidate.deviceId = previous.deviceId ∧ candidate.endpointId = previous.endpointId with
  | some route =>
    if route.generationId ≠ previous.generationId then .staleGeneration
    else if route.access ≠ .qualified then .routeWithdrawn
    else if route.routeState = .temporarilyUnavailable then .routeUnavailable
    else if route.routeState = .withdrawn then .routeWithdrawn
    else .routeUnavailable
  | none => .routeWithdrawn

/-- Forgets the tombstone of a route that is there again. -/
def retireRoute (invalidations : NativeInvalidationJournal) (route : NativeRoute) : NativeInvalidationJournal :=
  match route.routeToken with
  | some routeToken => invalidations.retire routeToken
  | none => invalidations

def withdrawRoute (current : List NativeRoute) (backend : NativeBackend) (route : NativeRoute) : NativeBackend :=
  match route.routeToken with
  | none => backend
  | some routeToken =>
    if current.any (·.routeToken = some routeToken) then
      backend
    else
      let rejection := nativeRouteInvalidation route current
      { backend with
        exchanges := backend.exchanges.invalidateRoute routeToken rejection.errorKind
          (nativeFinding rejection.errorKind false)
        invalidations := backend.invalidations.invalidate routeToken rejection }

def synchronizeNativeRoutes (projected : Except RpcFailure (List NativeRoute)) : NativeM Unit := do
  let backend ← get
  let current ← lift id projected
  set (backend.routes.foldl (withdrawRoute current)
    { backend with
      routes := current
      invalidations := current.foldl retireRoute backend.invalidations })

def tick (ports : NativePorts) : NativeM Unit := do
  lift id ports.expireLeases
  synchronizeNativeRoutes ports.tickRoutes

def authorizeClient (ports : NativePorts) (session : AuthorizedSession) (clientId : ClientId) :
    Except RpcFailure Unit := do
  reject (¬ ports.authorizes session.sessionId session.authorizationEpoch) ownershipFailure
  reject (session.clientId ≠ clientId) requestFailure

def completeNativeExchange (request : NativeExchangeRequest) (result : NativeExchangeResult) :
    NativeM NativeExchangeOutcome := do
  let backend ← get
  match ← lift nativeExchangeFailure (backend.exchanges.retained request) with
  | some outcome => pure outcome
  | none =>
    let outcome : NativeExchangeOutcome := ⟨request.requestId, request.routeToken, result⟩
    let exchanges ← lift nativeExchangeFailure (backend.exchanges.remember request outcome)
    set { backend with exchanges := exchanges }
    pure outcome

def rejectNativeBeforeSet (request : NativeExchangeRequest) (errorKind : ProtocolErrorKind) :
    NativeM NativeExchangeOutcome :=
  completeNativeExchange request (.notSent errorKind (nativeFinding errorKind false))

def decodeLowerHex (value : UInt8) : Option UInt8 :=
  if 48 ≤ value ∧ value ≤ 57 then some (value - 48)
  else if 97 ≤ value ∧ value ≤ 102 then some (value - 97 + 10)
  else none

def decodeHexPairs : List UInt8 → Option (List UInt8)
  | high :: low :: rest => do
    let high ← decodeLowerHex high
    let low ← decodeLowerHex low
    let rest ← decodeHexPairs rest
    return ((high <<< 4) ||| low) :: rest
  | _ => some []

def nativeReportBytes : Nat := 90

def decodeNativeReport (value : NativeReportHex) : Except RpcFailure (List UInt8) :=
  let bytes := value.asStr.toUTF8.toList
  if bytes.length ≠ nativeReportBytes * 2 then
    .error requestFailure
  else
    match decodeHexPairs bytes with
    | none => .error requestFailure
    | some report => .ok report

def lowerHexDigit (value : UInt8) : Char := "0123456789abcdef".toList.getD value.toNat '0'

def lowerHexPair (byte : UInt8) : List Char := [lowerHexDigit (byte >>> 4), lowerHexDigit (byte &&& 15)]

def encodeNativeReport (report : List UInt8) : Except RpcFailure NativeReportHex :=
  match Text.tryFrom 180 180 (String.ofList (report.flatMap lowerHexPair)) with
  | none => .error RpcFailure.internal
  | some encoded => .ok encoded

def nativeUncertainResult : NativeExchangeResult := .mayHaveBeenSent .outcomeUnknown .transport002

def protocolNativeResult : NativeTransportResult → Except RpcFailure NativeExchangeResult
  | .notSent errorKind => .ok (.notSent errorKind (nativeFinding errorKind false))
  | .mayHaveBeenSent errorKind => .ok (.mayHaveBeenSent errorKind (nativeFinding errorKind true))
  | .matchedResponse response => (encodeNativeReport response).map .matchedResponse

/-- A response counts only when it names the dispatch and matches the request. -/
def validatedNativeTransportResult (ports : NativePorts) (route : NativeRoute)
    (dispatch : NativeTransportDispatch) (outcome : NativeTransportOutcome) :
    Except RpcFailure NativeExchangeResult :=
  if outcome.dispatchNonce ≠ dispatch.dispatchNonce ∨ outcome.routeTokenDigest ≠ dispatch.routeTokenDigest then
    .ok nativeUncertainResult
  else
    match outcome.result with
    | .matchedResponse response =>
      if ports.responseMatches route dispatch.report response then
        protocolNativeResult (.matchedResponse response)
      else
        .ok nativeUncertainResult
    | result => protocolNativeResult result

/-- What the checks behind the journal say about a request: the error kind it is rejected with, or
the route, its endpoint and the decoded report. -/
def admitNativeExchange (ports : NativePorts) (routes : List NativeRoute) (request : NativeExchangeRequest) :
    Except ProtocolErrorKind (NativeRoute × NativeEndpointLane × List UInt8) :=
  match routes.find? (·.routeToken = some request.routeToken) with
  | none => .error .unsupportedFeature
  | some route =>
    if route.access ≠ .qualified then .error .unsupportedFeature
    else if route.routeState ≠ .available then .error .transportFailure
    else
      match route.resource with
      | none => .error .unsupportedFeature
      | some resource =>
        if ¬ ports.owns request.clientId request.leaseId resource then .error .ownershipConflict
        else if ports.currentGeneration route.receiverId ≠ some route.generationId then
          .error .staleGeneration
        else if ¬ ports.nativeExchangeAvailable route.receiverId route.generationId then
          .error .transportFailure
        else if route.reportBytes ≠ nativeReportBytes then .error .invalidRequest
        else do
          ports.nativeProfile route
          let endpoint ← match route.deviceKind with
            | .mouse => .ok NativeEndpointLane.pointer
            | .keyboard => .ok NativeEndpointLane.keyboard
            | _ => .error .unsupportedFeature
          let report ← (decodeNativeReport request.report).mapError fun _ => .invalidRequest
          reject (¬ ports.commandAllowed route report) .invalidRequest
          reject (¬ ports.validatesRequest route report) .invalidRequest
          return (route, endpoint, report)

/-- One native exchange: an exact retained request is answered from the journal, anything else is
checked, exchanged and retained. -/
def nativeTransact (ports : NativePorts) (session : AuthorizedSession)
    (request : NativeExchangeRequest) : NativeM NativeExchangeOutcome := do
  lift id (authorizeClient ports session request.clientId)
  tick ports
  let backend ← get
  match backend.invalidations.rejection request.routeToken with
  | some rejection => rejectNativeBeforeSet request rejection.errorKind
  | none =>
    match ← lift nativeExchangeFailure (backend.exchanges.retained request) with
    | some outcome => pure outcome
    | none =>
      synchronizeNativeRoutes ports.exchangeRoutes
      let backend ← get
      match admitNativeExchange ports backend.routes request with
      | .error errorKind => rejectNativeBeforeSet request errorKind
      | .ok (route, endpoint, report) =>
        let nonce ← lift id ports.dispatchNonce
        let dispatch : NativeTransportDispatch := ⟨session.sessionId, session.authorizationEpoch,
          nonce, route.receiverId, route.generationId, endpoint,
          ports.routeTokenDigest request.routeToken, report, request.timeoutMs⟩
        modify fun backend => { backend with calls := backend.calls ++ [dispatch] }
        let result ← lift id
          (validatedNativeTransportResult ports route dispatch (ports.nativeExchange dispatch))
        completeNativeExchange request result

def rejectNativeExchange (ports : NativePorts) (session : AuthorizedSession)
    (request : NativeExchangeRequest) (rejection : NativeExchangeRejection) :
    NativeM NativeExchangeOutcome := do
  lift id (authorizeClient ports session request.clientId)
  tick ports
  rejectNativeBeforeSet request rejection.errorKind

/-- A request waiting in the actor; instants are in nanoseconds. -/
structure PendingNativeCommand where
  connectionId : Nat
  routeToken : NativeRouteToken
  request : NativeExchangeRequest
  deadline : Nat
deriving DecidableEq

inductive NativeReply where
  | unknownConnection
  | failure (failure : RpcFailure)
  | success (outcome : NativeExchangeOutcome)
deriving DecidableEq

def nanosPerMilli : Nat := 1000000

theorem remaining_whole {remaining : Nat} (h : ¬ remaining < nanosPerMilli) :
    1 ≤ min (remaining / nanosPerMilli) 1000 := by
  have : 1 ≤ remaining / nanosPerMilli := by
    rw [Nat.le_div_iff_mul_le (by decide)]
    omega
  omega

/-- The timeout a request is dispatched with: the whole milliseconds left of its deadline. -/
def remainingTimeout (deadline now : Nat) : Option NativeExchangeTimeoutMs :=
  if h : deadline - now < nanosPerMilli then none
  else some ⟨min ((deadline - now) / nanosPerMilli) 1000, remaining_whole h, Nat.min_le_right _ _⟩

def dispatchPending (ports : NativePorts) (pending : PendingNativeCommand)
    (call : AuthorizedSession → NativeM NativeExchangeOutcome) (backend : NativeBackend) :
    NativeReply × NativeBackend :=
  match ports.dispatcher pending.connectionId with
  | none => (.unknownConnection, backend)
  | some (.error failure) => (.failure failure, backend)
  | some (.ok session) =>
    match call session backend with
    | .ok outcome backend => (.success outcome, backend)
    | .error failure backend => (.failure failure, backend)

def rejectPendingNative (ports : NativePorts) (pending : PendingNativeCommand)
    (rejection : NativeExchangeRejection) (backend : NativeBackend) :
    NativeReply × NativeBackend :=
  dispatchPending ports pending (rejectNativeExchange ports · pending.request rejection) backend

end HyperfluxNext
