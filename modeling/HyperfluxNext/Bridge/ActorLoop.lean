import HyperfluxNext.Bridge.FairRotation
import HyperfluxNext.Bridge.NativeActor

namespace HyperfluxNext

open Procedure

/-- A native request in the actor, with the channel its reply is sent on. -/
structure NativeCommand where
  pending : PendingNativeCommand
  channel : Nat
deriving DecidableEq

structure AnsweredNative where
  command : NativeCommand
  ports : NativePorts
  before : NativeBackend
  reply : NativeReply
  after : NativeBackend

/-- What the actor does that others can see. -/
inductive ActorEvent where
  | arrived (command : NativeCommand)
  | answered (answer : AnsweredNative)
  | synchronized (projected : Except RpcFailure (List NativeRoute)) (before : NativeBackend)

inductive BridgeActorError where
  | connectionCapacityExhausted | unknownConnection

/-- The state-owning actor: the native commands it has not answered, the connections that have a
dispatcher, and the native part of its backend. Each request comes with a fresh channel. -/
structure BridgeActor where
  nativePending : FairRouteQueue NativeRouteToken NativeCommand
  dispatchers : Std.TreeMap Nat Unit
  connectionCapacity : Nat
  nextConnectionId : Nat
  nextChannel : Nat
  backend : NativeBackend
  stopped : Bool
  log : List ActorEvent

namespace BridgeActor

def dispatcherPorts (actor : BridgeActor) (ports : NativePorts) : NativePorts :=
  { ports with dispatcher := fun connectionId =>
      if actor.dispatchers.contains connectionId then ports.dispatcher connectionId else none }

def receive (actor : BridgeActor) (command : NativeCommand) : BridgeActor :=
  { actor with nextChannel := actor.nextChannel + 1, log := actor.log ++ [.arrived command] }

/-- Sends the reply of a command and keeps what the call left of the backend. -/
def answer (actor : BridgeActor) (command : NativeCommand) (ports : NativePorts)
    (result : NativeReply × NativeBackend) : BridgeActor :=
  { actor with
    backend := result.2
    log := actor.log ++ [.answered ⟨command, ports, actor.backend, result.1, result.2⟩] }

def rejectPendingNative (ports : NativePorts) (actor : BridgeActor)
    (rejected : NativeCommand × NativeExchangeRejection) : BridgeActor :=
  let ports := actor.dispatcherPorts ports
  actor.answer rejected.1 ports
    (HyperfluxNext.rejectPendingNative ports rejected.1.pending rejected.2 actor.backend)

/-- Rejects removed commands one after the other; each call meets its own authorities. -/
def rejectAll (ports : Nat → NativePorts) (rejected : List (NativeCommand × NativeExchangeRejection))
    (actor : BridgeActor) : BridgeActor :=
  rejected.foldl (fun actor rejected => rejectPendingNative (ports rejected.1.channel) actor rejected) actor

/-- A native request of a connection: it waits in the queue or is answered at once. -/
def processRequest (connectionId : Nat) (request : NativeExchangeRequest) (now : Nat)
    (ports : NativePorts) (actor : BridgeActor) : BridgeActor :=
  let command : NativeCommand := ⟨⟨connectionId, request.routeToken, request,
    now + request.timeoutMs.get * nanosPerMilli⟩, actor.nextChannel⟩
  let actor := actor.receive command
  match (actor.dispatcherPorts ports).dispatcher connectionId with
  | none => actor.answer command ports (.unknownConnection, actor.backend)
  | some (.error failure) => actor.answer command ports (.failure failure, actor.backend)
  | some (.ok _) =>
    match actor.nativePending.admitItem request.routeToken command with
    | some queue => { actor with nativePending := queue }
    | none => rejectPendingNative ports actor (command, .queueFull)

/-- Takes the next command and hands it to the backend with the time that is left. -/
def dispatchNextNative (now : Nat) (ports : NativePorts) (actor : BridgeActor) : BridgeActor :=
  match actor.nativePending.popNext with
  | none => actor
  | some (command, queue) =>
    let actor := { actor with nativePending := queue }
    match remainingTimeout command.pending.deadline now with
    | none => rejectPendingNative ports actor (command, .deadlineExceeded)
    | some timeoutMs =>
      let ports := actor.dispatcherPorts ports
      actor.answer command ports (dispatchPending ports command.pending
        (nativeTransact ports · { command.pending.request with timeoutMs := timeoutMs }) actor.backend)

def cancelConnectionNative (connectionId : Nat) (ports : Nat → NativePorts) (actor : BridgeActor) : BridgeActor :=
  let (cancelled, queue) := actor.nativePending.removeWhere (·.pending.connectionId = connectionId)
  rejectAll ports (cancelled.map (·, .sessionEnded)) { actor with nativePending := queue }

/-- The reason an invalidated route gives a waiting command. -/
def invalidation (invalidations : List (NativeRouteToken × NativeExchangeRejection))
    (command : NativeCommand) : Option NativeExchangeRejection :=
  (invalidations.find? (·.1 = command.pending.routeToken)).map (·.2)

def cancelInvalidatedNative (ports : Nat → NativePorts) (actor : BridgeActor) : BridgeActor :=
  let (invalidations, journal) := actor.backend.invalidations.takePending
  let actor := { actor with backend := { actor.backend with invalidations := journal } }
  if invalidations = [] then
    actor
  else
    let (cancelled, queue) := actor.nativePending.removeWhere fun command =>
      (invalidation invalidations command).isSome
    rejectAll ports (cancelled.filterMap fun command =>
      (invalidation invalidations command).map (command, ·)) { actor with nativePending := queue }

def cancelAllNative (ports : Nat → NativePorts) (actor : BridgeActor) : BridgeActor :=
  let (drained, queue) := actor.nativePending.drain
  rejectAll ports (drained.map (·, .sessionEnded)) { actor with nativePending := queue }

def openConnection (actor : BridgeActor) : Except BridgeActorError (Nat × BridgeActor) :=
  if actor.dispatchers.size ≥ actor.connectionCapacity ∨ actor.nextConnectionId = u64Max then
    .error .connectionCapacityExhausted
  else
    .ok (actor.nextConnectionId, { actor with
      nextConnectionId := actor.nextConnectionId + 1
      dispatchers := actor.dispatchers.insert actor.nextConnectionId () })

/-- The native part of a disconnect: the commands of the connection are answered before its
dispatcher goes. -/
def close (connectionId : Nat) (ports : Nat → NativePorts) (actor : BridgeActor) : BridgeActor :=
  let actor := cancelConnectionNative connectionId ports actor
  { actor with dispatchers := actor.dispatchers.erase connectionId }

def cleanupAll (ports : Nat → NativePorts) (actor : BridgeActor) : BridgeActor :=
  { cancelAllNative ports actor with dispatchers := ∅, stopped := true }

/-- The part that the runtime callback and the other requests have in the native state: they
reconcile the routes. -/
def reconcile (projected : Except RpcFailure (List NativeRoute)) (actor : BridgeActor) : BridgeActor :=
  { actor with
    backend := final (synchronizeNativeRoutes projected) actor.backend
    log := actor.log ++ [.synchronized projected actor.backend] }

end BridgeActor

/-- One thing the loop of the actor does, with the instant and the authorities it meets. -/
inductive ActorAction where
  | openConnection
  | request (connectionId : Nat) (request : NativeExchangeRequest) (now : Nat) (ports : NativePorts)
  | disconnect (connectionId : Nat) (ports : Nat → NativePorts)
  | reconcile (projected : Except RpcFailure (List NativeRoute))
  | cancelInvalidated (ports : Nat → NativePorts)
  | dispatchNext (now : Nat) (ports : NativePorts)
  | cleanupAll (ports : Nat → NativePorts)

def ActorAction.run (actor : BridgeActor) (action : ActorAction) : BridgeActor :=
  if actor.stopped then
    actor
  else
    match action with
    | .openConnection =>
      match actor.openConnection with
      | .ok (_, actor) => actor
      | .error _ => actor
    | .request connectionId sent now ports => actor.processRequest connectionId sent now ports
    | .disconnect connectionId ports => actor.close connectionId ports
    | .reconcile projected => actor.reconcile projected
    | .cancelInvalidated ports => actor.cancelInvalidatedNative ports
    | .dispatchNext now ports => actor.dispatchNextNative now ports
    | .cleanupAll ports => actor.cleanupAll ports

structure ActorStart (actor : BridgeActor) : Prop where
  queue : ∃ capacity, FairRouteQueue.new capacity = .ok actor.nativePending
  dispatchers : actor.dispatchers = ∅
  channels : actor.nextChannel = 0
  calls : actor.backend.calls = []
  log : actor.log = []

def actorRun (start : BridgeActor) (actions : List ActorAction) : BridgeActor :=
  actions.foldl ActorAction.run start

end HyperfluxNext
