import HyperfluxNext.Bridge.NativeActor
import HyperfluxNext.Library.ByteOrder
import HyperfluxNext.Library.OrderedMaps
import HyperfluxNext.Protocol.Negotiation

namespace HyperfluxNext

open Procedure

namespace Sessions

structure BridgeSessionConfig where
  serverInstanceId : ServerInstanceId
  bridgeVersion : ComponentVersion
  eventBufferCapacity : Nat

inductive SessionIdentityError where
  | entropyUnavailable | invalidGeneratedIdentity

/-- The entropy of the system, one answer for each call: it fills the destination or refuses. -/
structure SessionIdentitySource where
  fillBytes : Nat → Nat → Except SessionIdentityError (List UInt8)
  filled : ∀ {call count bytes}, fillBytes call count = .ok bytes → bytes.length = count

inductive SessionError where
  | identity (error : SessionIdentityError)
  | negotiation (error : NegotiationError)
  | conflictingNegotiation | negotiationRequired | negotiationMethodRequired | sessionRevoked
  | protocolSessionMismatch | negotiationTokenMismatch | featureNotNegotiated | requestIdMismatch
  | clientIdMismatch

inductive SessionRegistryError where
  | capacityExhausted | duplicateSessionIdentity | clientAlreadyConnected

structure AuthorizedSession where
  clientId : ClientId
  selectedVersion : ProtocolVersion
  sessionId : SessionId
  authorizationEpoch : AuthorizationEpoch

/-! Requests, as far as the authority of a connection reads them. -/

structure NegotiationRequestEnvelope where
  requestId : RequestId
  params : ClientHello
deriving DecidableEq

structure SessionRequestEnvelope (α : Type) where
  requestId : RequestId
  protocolSessionId : ProtocolSessionId
  negotiationToken : NegotiationToken
  params : α

/-- The parameters of a method that names its caller and repeats its request identity. -/
structure ClientRequest where
  requestId : RequestId
  clientId : ClientId

structure SubscriptionRequest where
  clientId : ClientId

inductive RpcRequest where
  | negotiate (envelope : NegotiationRequestEnvelope)
  | snapshot (envelope : SessionRequestEnvelope Unit)
  | integrationView (envelope : SessionRequestEnvelope Unit)
  | acquireLease (envelope : SessionRequestEnvelope ClientRequest)
  | renewLease (envelope : SessionRequestEnvelope ClientRequest)
  | releaseLease (envelope : SessionRequestEnvelope ClientRequest)
  | submitTransaction (envelope : SessionRequestEnvelope ClientRequest)
  | transactionOutcome (envelope : SessionRequestEnvelope ClientRequest)
  | subscribe (envelope : SessionRequestEnvelope SubscriptionRequest)
  | diagnostics (envelope : SessionRequestEnvelope Unit)
  | nativeEnumerate (envelope : SessionRequestEnvelope Unit)
  | nativeTransact (envelope : SessionRequestEnvelope ClientRequest)
  | nativeWatch (envelope : SessionRequestEnvelope SubscriptionRequest)

namespace RpcRequest

def requestId : RpcRequest → RequestId
  | negotiate envelope => envelope.requestId
  | snapshot envelope | integrationView envelope | diagnostics envelope | nativeEnumerate envelope =>
    envelope.requestId
  | acquireLease envelope | renewLease envelope | releaseLease envelope | submitTransaction envelope
  | transactionOutcome envelope | nativeTransact envelope => envelope.requestId
  | subscribe envelope | nativeWatch envelope => envelope.requestId

def sessionCredentials : RpcRequest → Option (ProtocolSessionId × NegotiationToken)
  | negotiate _ => none
  | snapshot envelope | integrationView envelope | diagnostics envelope | nativeEnumerate envelope =>
    some (envelope.protocolSessionId, envelope.negotiationToken)
  | acquireLease envelope | renewLease envelope | releaseLease envelope | submitTransaction envelope
  | transactionOutcome envelope | nativeTransact envelope =>
    some (envelope.protocolSessionId, envelope.negotiationToken)
  | subscribe envelope | nativeWatch envelope => some (envelope.protocolSessionId, envelope.negotiationToken)

/-- The feature that the method's descriptor asks for. -/
def requiredFeature : RpcRequest → Option String
  | negotiate _ | snapshot _ => none
  | integrationView _ => some "integration-view-projection"
  | acquireLease _ | renewLease _ | releaseLease _ => some "ownership-leases"
  | submitTransaction _ | transactionOutcome _ => some "atomic-transactions"
  | subscribe _ => some "event-subscriptions"
  | diagnostics _ => some "structured-diagnostics"
  | nativeEnumerate _ | nativeTransact _ | nativeWatch _ => some "native-receiver-tunnel"

def nestedRequestId : RpcRequest → Option RequestId
  | acquireLease envelope | renewLease envelope | releaseLease envelope | submitTransaction envelope
  | transactionOutcome envelope | nativeTransact envelope => some envelope.params.requestId
  | _ => none

def clientId : RpcRequest → Option ClientId
  | acquireLease envelope | renewLease envelope | releaseLease envelope | submitTransaction envelope
  | transactionOutcome envelope | nativeTransact envelope => some envelope.params.clientId
  | subscribe envelope | nativeWatch envelope => some envelope.params.clientId
  | _ => none

end RpcRequest

def validateNestedRequestId (request : RpcRequest) : Except SessionError Unit :=
  reject (request.nestedRequestId.any (· ≠ request.requestId)) .requestIdMismatch

def validateClientId (request : RpcRequest) (expected : ClientId) : Except SessionError Unit :=
  reject (request.clientId.any (· ≠ expected)) .clientIdMismatch

def constantTimeEqual (left right : List UInt8) : Bool :=
  if left.length ≠ right.length then false
  else (left.zip right).foldl (fun difference bytes => difference ||| (bytes.1 ^^^ bytes.2)) 0 = 0

def utf8Bytes (value : String) : List UInt8 := value.toUTF8.toList

/-! Identities, drawn in order from the source. The state is the number of calls made so far. -/

def fillBytes (source : SessionIdentitySource) (count : Nat) : EStateM SessionIdentityError Nat (List UInt8) :=
  fun call =>
    match source.fillBytes call count with
    | .ok bytes => .ok bytes (call + 1)
    | .error error => .error error (call + 1)

def shortIdBytes : Nat := 16

def tokenBytes : Nat := 32

def epochBytes : Nat := 8

def identityText (kind : String) (bytes : List UInt8) : String :=
  kind ++ String.ofList (bytes.flatMap lowerHexPair)

def generatedStringIdentity (source : SessionIdentitySource) (hi : Nat) (kind : String) (count : Nat) :
    EStateM SessionIdentityError Nat (Text 1 hi) := do
  let bytes ← fillBytes source count
  match Text.tryFrom 1 hi (identityText kind bytes) with
  | none => throw .invalidGeneratedIdentity
  | some identity => pure identity

def epochValue (bytes : List UInt8) : Nat := max (ByteOrder.fromBeBytes bytes) 1

def generatedEpoch (source : SessionIdentitySource) : EStateM SessionIdentityError Nat AuthorizationEpoch := do
  let bytes ← fillBytes source epochBytes
  match Bounded.tryFrom 1 u64Max (epochValue bytes) with
  | none => throw .invalidGeneratedIdentity
  | some epoch => pure epoch

/-! The session of one connection. -/

structure NegotiatedSession where
  request : NegotiationRequestEnvelope
  hello : ServerHello
  authorization : AuthorizedSession
  active : Bool

structure BridgeSession where
  config : BridgeSessionConfig
  negotiated : Option NegotiatedSession

def onIdentities {α : Type} (m : EStateM SessionIdentityError Nat α) : EStateM SessionError Nat α :=
  zoom id (fun _ calls => calls) .identity m

/-- The identities of a new session, and the answer that carries them. -/
def issueSession (contract : ProtocolContract) (source : SessionIdentitySource)
    (config : BridgeSessionConfig) (envelope : NegotiationRequestEnvelope) :
    EStateM SessionError Nat NegotiatedSession := do
  let protocolSessionId ← onIdentities (generatedStringIdentity source 128 "protocol-session-" shortIdBytes)
  let negotiationToken ← onIdentities (generatedStringIdentity source 160 "negotiation-" tokenBytes)
  let internalSessionId ← onIdentities (generatedStringIdentity source 128 "bridge-session-" shortIdBytes)
  let authorizationEpoch ← onIdentities (generatedEpoch source)
  let context : NegotiationContext :=
    ⟨config.serverInstanceId, protocolSessionId, negotiationToken, config.bridgeVersion,
      config.eventBufferCapacity⟩
  let hello ← lift .negotiation (negotiateWithContract envelope.params context contract)
  pure {
    request := envelope
    hello := hello
    authorization := ⟨envelope.params.clientId, hello.selectedVersion, internalSessionId, authorizationEpoch⟩
    active := true }

/-- A session and how often the identity source was asked. -/
structure Negotiating where
  session : BridgeSession
  calls : Nat

namespace BridgeSession

def new (config : BridgeSessionConfig) : BridgeSession := ⟨config, none⟩

/-- Negotiates a connection once; the same request again is answered as before. -/
def negotiateRequest (contract : ProtocolContract) (source : SessionIdentitySource) :
    RpcRequest → EStateM SessionError Negotiating ServerHello
  | .negotiate envelope => do
    let state ← get
    match state.session.negotiated with
    | some existing =>
      if existing.active = false then throw .sessionRevoked
      else if existing.request = envelope then pure existing.hello
      else throw .conflictingNegotiation
    | none => do
      let negotiated ← zoom Negotiating.calls (fun state calls => { state with calls := calls }) id
        (issueSession contract source state.session.config envelope)
      modify fun state => { state with session := { state.session with negotiated := some negotiated } }
      pure negotiated.hello
  | _ => throw .negotiationMethodRequired

def authorizeRequest (session : BridgeSession) (request : RpcRequest) : Except SessionError AuthorizedSession :=
  match session.negotiated with
  | none => .error .negotiationRequired
  | some negotiated => do
    reject (negotiated.active = false) .sessionRevoked
    match request.sessionCredentials with
    | none => throw .conflictingNegotiation
    | some (protocolSessionId, token) => do
      reject (protocolSessionId ≠ negotiated.hello.protocolSessionId) .protocolSessionMismatch
      reject (¬ constantTimeEqual (utf8Bytes token.asStr)
        (utf8Bytes negotiated.hello.negotiationToken.asStr)) .negotiationTokenMismatch
      reject (request.requiredFeature.any fun required =>
        ¬ negotiated.hello.enabledFeatures.any (·.asStr = required)) .featureNotNegotiated
      validateNestedRequestId request
      validateClientId request negotiated.authorization.clientId
      pure negotiated.authorization

def revoke (session : BridgeSession) : BridgeSession :=
  { session with negotiated := session.negotiated.map fun negotiated => { negotiated with active := false } }

def authorization (session : BridgeSession) : Except SessionError AuthorizedSession :=
  match session.negotiated with
  | none => .error .negotiationRequired
  | some negotiated => do
    reject (negotiated.active = false) .sessionRevoked
    pure negotiated.authorization

end BridgeSession

/-- The negotiated connections of a bridge, by session and by client. -/
structure SessionRegistry where
  capacity : Nat
  sessions : Std.TreeMap SessionId AuthorizedSession
  clients : Std.TreeMap ClientId SessionId

namespace SessionRegistry

def new (capacity : Nat) : SessionRegistry := ⟨capacity, ∅, ∅⟩

def register (registry : SessionRegistry) (authorization : AuthorizedSession) :
    Except SessionRegistryError SessionRegistry := do
  reject (authorization.sessionId ∈ registry.sessions) .duplicateSessionIdentity
  reject (authorization.clientId ∈ registry.clients) .clientAlreadyConnected
  reject (registry.capacity ≤ registry.sessions.size) .capacityExhausted
  pure { registry with
    clients := registry.clients.insert authorization.clientId authorization.sessionId
    sessions := registry.sessions.insert authorization.sessionId authorization }

def revoke (registry : SessionRegistry) (sessionId : SessionId) : SessionRegistry :=
  match registry.sessions[sessionId]? with
  | none => registry
  | some authorization =>
    { registry with
      sessions := registry.sessions.erase sessionId
      clients := registry.clients.erase authorization.clientId }

def authorizes (registry : SessionRegistry) (sessionId : SessionId) (epoch : AuthorizationEpoch) : Bool :=
  registry.sessions[sessionId]?.any fun session => session.authorizationEpoch = epoch

end SessionRegistry

structure ConnectionDispatcher where
  session : BridgeSession
  registered : Option AuthorizedSession

inductive DispatchFailure where
  | session (error : SessionError)
  | registry (error : SessionRegistryError)

/-- What one request on a connection reaches besides the backend. -/
structure Dispatching where
  dispatcher : ConnectionDispatcher
  sessions : SessionRegistry
  calls : Nat

namespace ConnectionDispatcher

def new (config : BridgeSessionConfig) : ConnectionDispatcher := ⟨.new config, none⟩

def authorize (dispatcher : ConnectionDispatcher) (sessions : SessionRegistry) (request : RpcRequest) :
    Except DispatchFailure AuthorizedSession :=
  match dispatcher.session.authorizeRequest request with
  | .error error => .error (.session error)
  | .ok authorization =>
    if sessions.authorizes authorization.sessionId authorization.authorizationEpoch then
      .ok authorization
    else .error (.session .sessionRevoked)

def revokeSession : EStateM DispatchFailure Dispatching Unit :=
  modify fun state =>
    { state with dispatcher := { state.dispatcher with session := state.dispatcher.session.revoke } }

/-- Registers the session a first negotiation made. -/
def registerSession : EStateM DispatchFailure Dispatching Unit := do
  let state ← get
  let authorization ← lift .session state.dispatcher.session.authorization
  match state.sessions.register authorization with
  | .error error => do
    revokeSession
    throw (.registry error)
  | .ok sessions =>
    set { state with
      sessions := sessions
      dispatcher := { state.dispatcher with registered := some authorization } }

def dispatchNegotiation (contract : ProtocolContract) (source : SessionIdentitySource)
    (request : RpcRequest) : EStateM DispatchFailure Dispatching ServerHello := do
  let hello ← zoom (fun state => ⟨state.dispatcher.session, state.calls⟩)
    (fun state negotiating =>
      { state with
        dispatcher := { state.dispatcher with session := negotiating.session }
        calls := negotiating.calls })
    .session (BridgeSession.negotiateRequest contract source request)
  let state ← get
  match state.dispatcher.registered with
  | some registered =>
    if state.sessions.authorizes registered.sessionId registered.authorizationEpoch then pure hello
    else do
      revokeSession
      throw (.session .sessionRevoked)
  | none => do
    registerSession
    pure hello

/-- What a request comes to: an answer of the negotiation, or a call of the backend with the
caller's authority. -/
inductive Served where
  | negotiated (hello : ServerHello)
  | authorized (authorization : AuthorizedSession)

def dispatch (contract : ProtocolContract) (source : SessionIdentitySource) (request : RpcRequest) :
    EStateM DispatchFailure Dispatching Served :=
  match request with
  | .negotiate envelope => do
    let hello ← dispatchNegotiation contract source (.negotiate envelope)
    pure (.negotiated hello)
  | request => do
    let state ← get
    let authorization ← lift id (state.dispatcher.authorize state.sessions request)
    pure (.authorized authorization)

/-- Authority ends first; what the backend then releases is its own. -/
def disconnect (dispatcher : ConnectionDispatcher) (sessions : SessionRegistry) :
    ConnectionDispatcher × SessionRegistry :=
  let revoked := dispatcher.session.revoke
  match dispatcher.registered with
  | none => (⟨revoked, none⟩, sessions)
  | some authorization => (⟨revoked, none⟩, sessions.revoke authorization.sessionId)

end ConnectionDispatcher

end Sessions

end HyperfluxNext
