import HyperfluxNext.Bridge.Profiles
import HyperfluxNext.Bridge.RuntimeIdentity
import HyperfluxNext.Protocol.Subscriptions

namespace HyperfluxNext

open Procedure

structure NativeRouteKey where
  receiverId : ReceiverId
  deviceId : LogicalDeviceId
  endpointId : EndpointId
deriving DecidableEq

open NativeRouteKey

instance : Ord NativeRouteKey where
  compare := compareLex (compareOn receiverId) (compareLex (compareOn deviceId) (compareOn endpointId))

instance : Std.TransOrd NativeRouteKey :=
  inferInstanceAs (Std.TransCmp (compareLex (compareOn receiverId)
    (compareLex (compareOn deviceId) (compareOn endpointId))))

instance : Std.LawfulEqOrd NativeRouteKey where
  eq_of_compare {a b} h := by
    have hlex : (compareLex (compareOn receiverId)
        (compareLex (compareOn deviceId) (compareOn endpointId))) a b = .eq := h
    simp only [compareLex_eq_eq, compareOn, Std.LawfulEqCmp.compare_eq_iff_eq] at hlex
    cases a
    cases b
    simp_all

def NativeRoute.key (route : NativeRoute) : NativeRouteKey :=
  ⟨route.receiverId, route.deviceId, route.endpointId⟩

inductive NativeRouteEventKind where
  | available | temporarilyUnavailable | withdrawn | generationReplaced
deriving DecidableEq

structure NativeRouteEvent where
  sequence : SequenceNumber
  kind : NativeRouteEventKind
  route : NativeRoute

inductive NativeRouteJournalError where
  | invalidCapacity | routeCapacity
  | identity (error : RuntimeIdentityError)
  | invalidStreamIdentity | sequenceExhausted | dropCounterExhausted | subscriptionMismatch

structure NativeRouteJournal where
  streamId : StreamId
  streamEpoch : StreamEpoch
  projectionRevision : ProjectionRevision
  capacity : Nat
  current : Std.TreeMap NativeRouteKey NativeRoute
  events : List NativeRouteEvent
  latest : SequenceNumber
  dropped : DroppedEventCount
  returnEpochs : Std.TreeMap NativeRouteKey (GenerationId × SequenceNumber)

structure NativeRouteInventory where
  cursor : EventCursor
  routes : List NativeRoute

structure NativeRouteEventBatch where
  subscriptionId : SubscriptionId
  nextCursor : EventCursor
  events : List NativeRouteEvent
  oldestAvailable : SequenceNumber
  latestAvailable : SequenceNumber
  droppedEvents : DroppedEventCount
  cursorGap : Bool
  hasMore : Bool

/-- The SHA-256 that a stream identity is derived from, in lower-case hexadecimal. -/
class RouteStreamDigest where
  routeStream : StreamId → String

def maxNativeRoutes : Nat := 32

def NativeRoute.writable (route : NativeRoute) : Bool :=
  route.access = .qualified ∧ route.routeState = .available

def routeEventKind (route : NativeRoute) : NativeRouteEventKind :=
  match route.routeState with
  | .available => .available
  | .temporarilyUnavailable => .temporarilyUnavailable
  | .withdrawn => .withdrawn

namespace NativeRouteJournal

def new [RouteStreamDigest] (baseStreamId : StreamId) (streamEpoch : StreamEpoch)
    (projectionRevision : ProjectionRevision) (capacity : Nat) :
    Except NativeRouteJournalError NativeRouteJournal :=
  if ¬ (1 ≤ capacity ∧ capacity ≤ 4096) then
    .error .invalidCapacity
  else
    match Text.tryFrom 1 128 ("native-routes-" ++ RouteStreamDigest.routeStream baseStreamId) with
    | none => .error .invalidStreamIdentity
    | some streamId => .ok ⟨streamId, streamEpoch, projectionRevision, capacity, ∅, [],
        .lit 0, .lit 0, ∅⟩

def cursor (journal : NativeRouteJournal) : EventCursor :=
  ⟨journal.streamId, journal.streamEpoch, journal.projectionRevision, journal.latest⟩

def routes (journal : NativeRouteJournal) : List NativeRoute := journal.current.toList.map (·.2)

def inventory (journal : NativeRouteJournal) : NativeRouteInventory := ⟨journal.cursor, journal.routes⟩

/-- The token a route keeps while nothing but its evidence was refreshed. -/
def keptToken (journal : NativeRouteJournal) (route : NativeRoute) : Option NativeRouteToken :=
  match journal.current[route.key]? with
  | none => none
  | some previous =>
    if previous.generationId = route.generationId ∧ previous.writable then previous.routeToken
    else none

def nativeResource (route : NativeRoute) : ResourceKey :=
  ⟨route.receiverId, route.generationId, route.deviceId, .nativeControl⟩

variable [RouteTokenDigest]

def bindRouteAuthority (journal : NativeRouteJournal) (route : NativeRoute) : IdentityM NativeRoute :=
  if route.writable = false then
    pure { route with routeToken := none, resource := none }
  else
    match journal.keptToken route with
    | some token => pure { route with routeToken := some token, resource := some (nativeResource route) }
    | none => do
      let token ← RuntimeIdentityIssuer.nativeRouteToken
      pure { route with routeToken := some token, resource := some (nativeResource route) }

/-- The loop that gives each incoming route its authority and refuses a key that comes twice. -/
def bindRoutes (journal : NativeRouteJournal) :
    Std.TreeMap NativeRouteKey NativeRoute → List NativeRoute →
      EStateM NativeRouteJournalError RuntimeIdentityIssuer (Std.TreeMap NativeRouteKey NativeRoute)
  | incoming, [] => pure incoming
  | incoming, route :: routes => do
    refuse (route.key ∈ incoming) .routeCapacity
    let bound ← zoom id (fun _ issuer => issuer) .identity (journal.bindRouteAuthority route)
    bindRoutes journal (incoming.insert route.key bound) routes

section
omit [RouteTokenDigest]

def append (journal : NativeRouteJournal) (kind : NativeRouteEventKind) (route : NativeRoute) :
    Except NativeRouteJournalError NativeRouteJournal :=
  match Bounded.tryFrom 0 u64Max (journal.latest.get + 1) with
  | none => .error .sequenceExhausted
  | some sequence =>
    if journal.events.length = journal.capacity then
      match Bounded.tryFrom 0 u64Max (journal.dropped.get + 1) with
      | none => .error .dropCounterExhausted
      | some dropped => .ok { journal with
          events := journal.events.drop 1 ++ [⟨sequence, kind, route⟩]
          latest := sequence
          dropped := dropped }
    else
      .ok { journal with events := journal.events ++ [⟨sequence, kind, route⟩], latest := sequence }

def incomingEvent (previous : Std.TreeMap NativeRouteKey NativeRoute) (route : NativeRoute) :
    Option NativeRouteEventKind :=
  match previous[route.key]? with
  | none => some (routeEventKind route)
  | some old =>
    if old.generationId ≠ route.generationId then some .generationReplaced
    else if old ≠ route then some (routeEventKind route)
    else none

def appendIncoming (previous : Std.TreeMap NativeRouteKey NativeRoute) (journal : NativeRouteJournal)
    (route : NativeRoute) : Except NativeRouteJournalError NativeRouteJournal :=
  match incomingEvent previous route with
  | none => .ok journal
  | some kind => journal.append kind route

def appendWithdrawn (incoming : Std.TreeMap NativeRouteKey NativeRoute) (journal : NativeRouteJournal)
    (old : NativeRoute) : Except NativeRouteJournalError NativeRouteJournal :=
  if old.key ∈ incoming then
    .ok journal
  else
    journal.append .withdrawn { old with routeState := .withdrawn, routeToken := none, resource := none }

end

/-- Replaces the projected route set and records its transitions. A failure changes nothing. -/
def synchronize (journal : NativeRouteJournal) (identities : RuntimeIdentityIssuer) (routes : List NativeRoute) :
    Except NativeRouteJournalError (NativeRouteJournal × RuntimeIdentityIssuer) :=
  if routes.length > maxNativeRoutes then
    .error .routeCapacity
  else
    match journal.bindRoutes ∅ routes identities with
    | .error error _ => .error error
    | .ok incoming issuer => do
      let announced ← (incoming.toList.map (·.2)).foldlM (appendIncoming journal.current) journal
      let announced ← journal.routes.foldlM (appendWithdrawn incoming) announced
      return ({ announced with
        current := incoming
        returnEpochs := announced.returnEpochs.filter fun key epoch =>
          incoming[key]?.any fun route => route.generationId = epoch.1 ∧ route.writable }, issuer)

section
omit [RouteTokenDigest]

/-- The refresh of one route, unless a return epoch as new was acted on before. -/
def refreshRoute (generationId : GenerationId) (epoch : SequenceNumber)
    (refreshed : Nat × NativeRouteJournal) (entry : NativeRouteKey × NativeRoute) :
    Except NativeRouteJournalError (Nat × NativeRouteJournal) :=
  let (count, journal) := refreshed
  if journal.returnEpochs[entry.1]?.any fun last => last.1 = generationId ∧ epoch.get ≤ last.2.get then
    .ok (count, journal)
  else do
    let journal ← { journal with
      returnEpochs := journal.returnEpochs.insert entry.1 (generationId, epoch) }.append .available entry.2
    return (count + 1, journal)

/-- Announces the available routes of a device again after a newer return epoch. -/
def refreshForReturnEpoch (journal : NativeRouteJournal) (receiverId : ReceiverId)
    (generationId : GenerationId) (deviceId : LogicalDeviceId) (epoch : SequenceNumber) :
    Except NativeRouteJournalError (Nat × NativeRouteJournal) :=
  (journal.current.toList.filter fun entry => entry.2.receiverId = receiverId ∧
    entry.2.generationId = generationId ∧ entry.2.deviceId = deviceId ∧ entry.2.writable).foldlM
      (refreshRoute generationId epoch) (0, journal)

def oldest (journal : NativeRouteJournal) : SequenceNumber :=
  match journal.events.head? with
  | none => journal.latest
  | some event => event.sequence

def streamMismatch (journal : NativeRouteJournal) (request : SubscriptionRequest) : Bool :=
  request.expectedCursor.any fun cursor =>
    cursor.streamId ≠ journal.streamId ∨ cursor.streamEpoch ≠ journal.streamEpoch ∨
      cursor.projectionRevision ≠ journal.projectionRevision

def requested (request : SubscriptionRequest) : Nat :=
  match request.expectedCursor with
  | none => 0
  | some cursor => cursor.sequence.get

def cursorGap (journal : NativeRouteJournal) (request : SubscriptionRequest) : Bool :=
  journal.streamMismatch request ∨ requested request < journal.oldest.get - 1 ∨
    journal.latest.get < requested request

def batchEvents (journal : NativeRouteJournal) (request : SubscriptionRequest) : List NativeRouteEvent :=
  if journal.cursorGap request then [] else
    (journal.events.filter fun event => requested request < event.sequence.get).take request.maxEvents.get

def read (journal : NativeRouteJournal) (subscriptionId : SubscriptionId)
    (request : SubscriptionRequest) : Except NativeRouteJournalError NativeRouteEventBatch :=
  if request.subscriptionId.any (· ≠ subscriptionId) then
    .error .subscriptionMismatch
  else
    let events := journal.batchEvents request
    match Bounded.tryFrom 0 u64Max ((events.getLast?.map (·.sequence.get)).getD (requested request)) with
    | none => .error .sequenceExhausted
    | some nextSequence => .ok {
        subscriptionId := subscriptionId
        nextCursor := ⟨journal.streamId, journal.streamEpoch, journal.projectionRevision, nextSequence⟩
        events := events
        oldestAvailable := journal.oldest
        latestAvailable := journal.latest
        droppedEvents := journal.dropped
        cursorGap := journal.cursorGap request
        hasMore := !journal.cursorGap request && decide (nextSequence < journal.latest) }

end

end NativeRouteJournal

section Validation

def validateNativeRoute (route : NativeRoute) : Except ProtocolWireError Unit := do
  reject (route.writable ≠ route.routeToken.isSome ∨ route.writable ≠ route.resource.isSome)
    (.invalidResponse "native route authority contradicts access or availability")
  if route.writable = false then
    return
  match route.resource with
  | none => throw (.invalidResponse "writable native route lacks its ownership resource")
  | some resource =>
    reject (resource.receiverId ≠ route.receiverId ∨ resource.generationId ≠ route.generationId ∨
        resource.deviceId ≠ route.deviceId ∨ resource.kind ≠ .nativeControl ∨
        route.reportBytes * 2 ≠ 180)
      (.invalidResponse "writable native route contradicts identity, resource, or report shape")

def nativeEventMatchesRoute (kind : NativeRouteEventKind) (state : NativeRouteState) : Bool :=
  match kind with
  | .available => state = .available
  | .temporarilyUnavailable => state = .temporarilyUnavailable
  | .withdrawn => state = .withdrawn
  | .generationReplaced => true

def validateNativeRouteEventBatch (batch : NativeRouteEventBatch) : Except ProtocolWireError Unit := do
  reject (batch.events.length > 256 ∨ batch.latestAvailable < batch.oldestAvailable ∨
      anyWindowUnordered (batch.events.map (·.sequence)) ∨
      (batch.events.any fun event =>
        event.sequence < batch.oldestAvailable ∨ batch.latestAvailable < event.sequence ∨
          ! nativeEventMatchesRoute event.kind event.route.routeState) ∨
      (batch.events.getLast?.any fun event => event.sequence ≠ batch.nextCursor.sequence) ∨
      (batch.cursorGap ∧ (batch.events ≠ [] ∨ batch.hasMore)) ∨
      (batch.hasMore ∧ batch.latestAvailable ≤ batch.nextCursor.sequence))
    (.invalidResponse "native route event cursor, sequence, or transition facts contradict")
  batch.events.forM fun event => validateNativeRoute event.route

end Validation

end HyperfluxNext
