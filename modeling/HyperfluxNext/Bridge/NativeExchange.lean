import Std.Data.TreeMap
import HyperfluxNext.Library.Procedure
import HyperfluxNext.Protocol.Messages

namespace HyperfluxNext

open Procedure

abbrev NativeRouteToken := Text 64 64
abbrev NativeReportHex := Text 180 180
abbrev NativeExchangeTimeoutMs := Bounded 1 1000

/-- The codes of the central error catalogue that native exchanges use. -/
inductive ErrorCode where
  | protocol001 | profile001 | request001 | ownership002 | generation001 | deadline001 | queue001
  | transport001 | transport002 | outcome001 | outcome002 | internal001
deriving DecidableEq

structure RpcFailure where
  code : ErrorCode
  kind : ProtocolErrorKind
deriving DecidableEq

def requestFailure : RpcFailure := ⟨.request001, .invalidRequest⟩

def ownershipFailure : RpcFailure := ⟨.ownership002, .ownershipConflict⟩

def RpcFailure.internal : RpcFailure := ⟨.internal001, .internalFailure⟩

structure NativeExchangeRequest where
  requestId : RequestId
  clientId : ClientId
  leaseId : LeaseId
  routeToken : NativeRouteToken
  report : NativeReportHex
  timeoutMs : NativeExchangeTimeoutMs
deriving DecidableEq

inductive NativeExchangeResult where
  | notSent (errorKind : ProtocolErrorKind) (finding : ErrorCode)
  | mayHaveBeenSent (errorKind : ProtocolErrorKind) (finding : ErrorCode)
  | matchedResponse (response : NativeReportHex)
deriving DecidableEq

structure NativeExchangeOutcome where
  requestId : RequestId
  routeToken : NativeRouteToken
  result : NativeExchangeResult
deriving DecidableEq

structure NativeRequestKey where
  clientId : ClientId
  requestId : RequestId
deriving DecidableEq

instance : Ord NativeRequestKey where
  compare := compareLex (compareOn NativeRequestKey.clientId) (compareOn NativeRequestKey.requestId)

instance : Std.TransOrd NativeRequestKey :=
  inferInstanceAs (Std.TransCmp (compareLex (compareOn NativeRequestKey.clientId)
    (compareOn NativeRequestKey.requestId)))

instance : Std.LawfulEqOrd NativeRequestKey where
  eq_of_compare {a b} h := by
    have hlex : (compareLex (compareOn NativeRequestKey.clientId)
        (compareOn NativeRequestKey.requestId)) a b = .eq := h
    simp only [compareLex_eq_eq, compareOn, Std.LawfulEqCmp.compare_eq_iff_eq] at hlex
    cases a
    cases b
    simp_all

def NativeExchangeRequest.key (request : NativeExchangeRequest) : NativeRequestKey :=
  ⟨request.clientId, request.requestId⟩

structure NativeExchangeRecord where
  request : NativeExchangeRequest
  outcome : NativeExchangeOutcome

inductive NativeExchangeJournalError where
  | invalidCapacity | requestIdentityReused

/-- Bounded process-local idempotency journal for synchronous native exchanges. -/
structure NativeExchangeJournal where
  capacity : Nat
  order : List NativeRequestKey
  records : Std.TreeMap NativeRequestKey NativeExchangeRecord

namespace NativeExchangeJournal

def new (capacity : Nat) : Except NativeExchangeJournalError NativeExchangeJournal :=
  if ¬ (1 ≤ capacity ∧ capacity ≤ 4096) then .error .invalidCapacity else .ok ⟨capacity, [], ∅⟩

/-- Resolves an exact retained request without issuing a transport call. -/
def retained (journal : NativeExchangeJournal) (request : NativeExchangeRequest) :
    Except NativeExchangeJournalError (Option NativeExchangeOutcome) :=
  match journal.records[request.key]? with
  | none => .ok none
  | some record =>
    if record.request ≠ request then .error .requestIdentityReused else .ok (some record.outcome)

/-- Makes room for one record by dropping the oldest one of a full journal. -/
def evictOldest (journal : NativeExchangeJournal) : NativeExchangeJournal :=
  if journal.records.size = journal.capacity then
    match journal.order with
    | [] => journal
    | expired :: order => { journal with order := order, records := journal.records.erase expired }
  else
    journal

/-- Retains one terminal outcome, evicting the oldest bounded entry. -/
def remember (journal : NativeExchangeJournal) (request : NativeExchangeRequest)
    (outcome : NativeExchangeOutcome) :
    Except NativeExchangeJournalError NativeExchangeJournal :=
  match journal.records[request.key]? with
  | some record =>
    if record.request = request ∧ record.outcome = outcome then .ok journal
    else .error .requestIdentityReused
  | none =>
    let journal := journal.evictOldest
    .ok { journal with
      order := journal.order ++ [request.key]
      records := journal.records.insert request.key ⟨request, outcome⟩ }

/-- Removes cached response bytes for one invalidated route while keeping request-identity
conflict protection. -/
def invalidateRoute (journal : NativeExchangeJournal) (routeToken : NativeRouteToken)
    (errorKind : ProtocolErrorKind) (finding : ErrorCode) : NativeExchangeJournal :=
  { journal with
    records := journal.records.map fun _ record =>
      if record.request.routeToken ≠ routeToken then record
      else { record with
        outcome := { record.outcome with result := .notSent errorKind finding } } }

end NativeExchangeJournal

inductive NativeExchangeRejection where
  | queueFull | deadlineExceeded | sessionEnded | staleGeneration | routeUnavailable
  | routeWithdrawn

def NativeExchangeRejection.errorKind : NativeExchangeRejection → ProtocolErrorKind
  | .queueFull => .queueFull
  | .deadlineExceeded => .deadlineExceeded
  | .sessionEnded => .ownershipConflict
  | .staleGeneration => .staleGeneration
  | .routeUnavailable => .transportFailure
  | .routeWithdrawn => .unsupportedFeature

/-- Bounded route-token tombstones plus one coalesced scheduler notification. -/
structure NativeInvalidationJournal where
  capacity : Nat
  order : List NativeRouteToken
  reasons : Std.TreeMap NativeRouteToken NativeExchangeRejection
  pending : Std.TreeMap NativeRouteToken Unit

namespace NativeInvalidationJournal

/-- Makes room for one tombstone by dropping the oldest one of a full journal. -/
def evictOldest (journal : NativeInvalidationJournal) : NativeInvalidationJournal :=
  if journal.reasons.size = journal.capacity then
    match journal.order with
    | [] => journal
    | expired :: order =>
      { journal with
        order := order
        reasons := journal.reasons.erase expired
        pending := journal.pending.erase expired }
  else
    journal

def invalidate (journal : NativeInvalidationJournal) (routeToken : NativeRouteToken)
    (rejection : NativeExchangeRejection) : NativeInvalidationJournal :=
  if journal.reasons.contains routeToken then
    { journal with
      reasons := journal.reasons.insert routeToken rejection
      pending := journal.pending.insert routeToken () }
  else
    let journal := journal.evictOldest
    { journal with
      order := journal.order ++ [routeToken]
      reasons := journal.reasons.insert routeToken rejection
      pending := journal.pending.insert routeToken () }

def rejection (journal : NativeInvalidationJournal) (routeToken : NativeRouteToken) :
    Option NativeExchangeRejection :=
  journal.reasons[routeToken]?

def retire (journal : NativeInvalidationJournal) (routeToken : NativeRouteToken) : NativeInvalidationJournal :=
  if journal.reasons.contains routeToken then
    { journal with
      order := journal.order.filter (· ≠ routeToken)
      reasons := journal.reasons.erase routeToken
      pending := journal.pending.erase routeToken }
  else
    journal

def takePending (journal : NativeInvalidationJournal) :
    List (NativeRouteToken × NativeExchangeRejection) × NativeInvalidationJournal :=
  (journal.pending.keys.filterMap fun routeToken => (journal.reasons[routeToken]?).map (routeToken, ·),
    { journal with pending := ∅ })

end NativeInvalidationJournal

/-- Bounded route-local FIFO scheduler with fair round-robin lane selection. -/
structure FairRouteQueue (K T : Type) [Ord K] where
  capacity : Nat
  len : Nat
  rotation : List K
  lanes : Std.TreeMap K (List T)

namespace FairRouteQueue

variable {K T : Type} [Ord K]

def admitItem (queue : FairRouteQueue K T) (route : K) (item : T) : Option (FairRouteQueue K T) :=
  if queue.len = queue.capacity then
    none
  else
    let lane := (queue.lanes[route]?).getD []
    some { queue with
      len := queue.len + 1
      rotation := if lane.isEmpty then queue.rotation ++ [route] else queue.rotation
      lanes := queue.lanes.insert route (lane ++ [item]) }

/-- The next item of the first route in the rotation. A rotated route without queued work, which
the source rules out by `expect`, gives nothing. -/
def popNext (queue : FairRouteQueue K T) : Option (T × FairRouteQueue K T) :=
  match queue.rotation with
  | [] => none
  | route :: rotation =>
    match queue.lanes[route]? with
    | none => none
    | some [] => none
    | some (item :: lane) =>
      some (item, { queue with
        len := queue.len - 1
        rotation := if lane.isEmpty then rotation else rotation ++ [route]
        lanes := if lane.isEmpty then queue.lanes.erase route else queue.lanes.insert route lane })

def removeWhere (queue : FairRouteQueue K T) (predicate : T → Bool) : List T × FairRouteQueue K T :=
  let removed := queue.lanes.values.flatten.filter predicate
  let lanes := (queue.lanes.map fun _ lane => lane.filter (! predicate ·)).filter fun _ lane => ! lane.isEmpty
  (removed, { queue with
    len := queue.len - removed.length
    rotation := queue.rotation.filter lanes.contains
    lanes := lanes })

end FairRouteQueue

end HyperfluxNext
