import Std.Data.TreeMap
import HyperfluxNext.Protocol.Messages

namespace HyperfluxNext

inductive OutcomeLookup where
  | retained (result : TransactionResult)
  | evicted
  | unknown
  | forbidden
deriving DecidableEq

inductive RequestReplay where
  | retained (result : TransactionResult)
  | evicted (transactionId : TransactionId)
  | unknown
  | conflict
deriving DecidableEq

inductive OutcomeJournalError where
  | invalidCapacity | capacityExhausted | unavailableOutcome | identityChanged
  | invalidProgression | requestIdReused | terminalOutcomeChanged
deriving DecidableEq

structure OutcomeRecord where
  clientId : ClientId
  requestId : RequestId
  requestDigest : RequestDigest
  result : TransactionResult
deriving DecidableEq

structure EvictedOutcome where
  clientId : ClientId
  requestId : RequestId
  requestDigest : RequestDigest
  transactionId : TransactionId

namespace TransactionResult

def transactionId : TransactionResult → Option TransactionId
  | .progress p => some p.transactionId
  | .terminal t => some t.transactionId
  | .unavailable _ => none

def requestDigest : TransactionResult → Option RequestDigest
  | .progress p => some p.requestDigest
  | .terminal t => some t.requestDigest
  | .unavailable _ => none

def requestId : TransactionResult → Option RequestId
  | .progress p => some p.requestId
  | .terminal t => some t.requestId
  | .unavailable _ => none

def isTerminal : TransactionResult → Bool
  | .terminal _ => true
  | _ => false

/-- Not the source's: the records the journal calls nonterminal. -/
def isProgress : TransactionResult → Bool
  | .progress _ => true
  | _ => false

end TransactionResult

def sameIdentity (left right : TransactionResult) : Bool :=
  left.transactionId = right.transactionId ∧ left.requestDigest = right.requestDigest

def certaintyRank : SideEffectCertainty → Nat
  | .none => 0
  | .possible => 1
  | .partially => 2
  | .committed => 3

def validProgression : TransactionResult → TransactionResult → Bool
  | .progress previous, .progress next =>
    (previous.state = next.state ∨
      (previous.state, next.state) ∈
        [(TransactionState.queued, TransactionState.sent), (.sent, .healthPending)]) ∧
    previous.admission = next.admission ∧
    previous.declaredFrames = next.declaredFrames ∧
    previous.deliveredFrames ≤ next.deliveredFrames ∧
    (previous.liveWriteExecuted = false ∨ next.liveWriteExecuted = true) ∧
    certaintyRank previous.sideEffectCertainty ≤ certaintyRank next.sideEffectCertainty
  | .progress previous, .terminal next =>
    ((previous.state = .queued ∧ next.state ∈ [TransactionState.revoked, .superseded]) ∨
      (previous.state ∈ [TransactionState.sent, .healthPending] ∧
        next.state ∈ [TransactionState.succeeded, .failed, .revoked])) ∧
    previous.declaredFrames = next.declaredFrames ∧
    previous.deliveredFrames ≤ next.deliveredFrames ∧
    (previous.liveWriteExecuted = false ∨ next.liveWriteExecuted = true) ∧
    certaintyRank previous.sideEffectCertainty ≤ certaintyRank next.sideEffectCertainty
  | _, _ => false

/-- The bounded outcome journal. `accepted` is a history variable: the results taken in, oldest
first. Nothing reads it. -/
structure BoundedOutcomeJournal where
  capacity : Nat
  retained : Std.TreeMap TransactionId OutcomeRecord
  order : List TransactionId
  evicted : List EvictedOutcome
  accepted : List TransactionResult
  inRange : 1 ≤ capacity ∧ capacity ≤ 4096

def BoundedOutcomeJournal.new (capacity : Nat) : Except OutcomeJournalError BoundedOutcomeJournal :=
  if h : 1 ≤ capacity ∧ capacity ≤ 4096 then
    .ok ⟨capacity, ∅, [], [], [], h⟩
  else
    .error .invalidCapacity

namespace BoundedOutcomeJournal

/-- The retained records in canonical transaction order. -/
def records (journal : BoundedOutcomeJournal) : List OutcomeRecord := journal.retained.toList.map (·.2)

theorem mem_records {journal : BoundedOutcomeJournal} {record : OutcomeRecord} :
    record ∈ journal.records ↔ ∃ id : TransactionId, journal.retained[id]? = some record := by
  simp [records, Std.TreeMap.mem_toList_iff_getElem?_eq_some]

def requestIdentityConflicts (journal : BoundedOutcomeJournal) (clientId : ClientId)
    (requestId : RequestId) (requestDigest : RequestDigest) (target : TransactionId) : Bool :=
  (journal.records.any fun record =>
    record.clientId = clientId ∧ record.requestId = requestId ∧
      (record.requestDigest ≠ requestDigest ∨ record.result.transactionId ≠ some target)) ||
  journal.evicted.any fun record =>
    record.clientId = clientId ∧ record.requestId = requestId ∧
      (record.requestDigest ≠ requestDigest ∨ record.transactionId ≠ target)

/-- Makes a slot free: the oldest terminal record moves to the equally bounded eviction memory. -/
def evictTerminal (journal : BoundedOutcomeJournal) : Except OutcomeJournalError BoundedOutcomeJournal :=
  if journal.retained.size = journal.capacity then
    match journal.order.find? fun id => journal.retained[id]?.any fun record => record.result.isTerminal with
    | none => .error .capacityExhausted
    | some evictedId =>
      match journal.retained[evictedId]? with
      | none => .error .capacityExhausted
      | some evicted =>
        .ok { journal with
          order := journal.order.erase evictedId
          retained := journal.retained.erase evictedId
          evicted := (if journal.evicted.length = journal.capacity then journal.evicted.drop 1
            else journal.evicted) ++ [⟨evicted.clientId, evicted.requestId, evicted.requestDigest, evictedId⟩] }
  else
    .ok journal

def store (journal : BoundedOutcomeJournal) (id : TransactionId) (order : List TransactionId)
    (record : OutcomeRecord) : BoundedOutcomeJournal :=
  { journal with
    retained := journal.retained.insert id record
    order := order
    accepted := journal.accepted ++ [record.result] }

def record (journal : BoundedOutcomeJournal) (clientId : ClientId) (result : TransactionResult) :
    Except OutcomeJournalError BoundedOutcomeJournal :=
  match result.transactionId, result.requestId, result.requestDigest with
  | some transactionId, some requestId, some requestDigest =>
    match journal.retained[transactionId]? with
    | some existing =>
      if existing.clientId ≠ clientId ∨ ¬ sameIdentity existing.result result then
        .error .identityChanged
      else if existing.result.isTerminal then
        if existing.result = result then
          .ok { journal with accepted := journal.accepted ++ [result] }
        else
          .error .terminalOutcomeChanged
      else if ¬ validProgression existing.result result then
        .error .invalidProgression
      else
        .ok (journal.store transactionId journal.order ⟨clientId, requestId, requestDigest, result⟩)
    | none =>
      if journal.requestIdentityConflicts clientId requestId requestDigest transactionId then
        .error .requestIdReused
      else
        match journal.evictTerminal with
        | .error error => .error error
        | .ok journal =>
          .ok (journal.store transactionId (journal.order ++ [transactionId])
            ⟨clientId, requestId, requestDigest, result⟩)
  | _, _, _ => .error .unavailableOutcome

def lookup (journal : BoundedOutcomeJournal) (clientId : ClientId) (transactionId : TransactionId) :
    OutcomeLookup :=
  match journal.retained[transactionId]? with
  | some record => if record.clientId = clientId then .retained record.result else .forbidden
  | none =>
    match journal.evicted.find? (·.transactionId = transactionId) with
    | none => .unknown
    | some record => if record.clientId = clientId then .evicted else .forbidden

def replay (journal : BoundedOutcomeJournal) (clientId : ClientId) (requestId : RequestId)
    (requestDigest : RequestDigest) : RequestReplay :=
  match journal.records.find? fun record => record.clientId = clientId ∧ record.requestId = requestId with
  | some record =>
    if record.requestDigest = requestDigest then .retained record.result else .conflict
  | none =>
    match journal.evicted.find? fun record => record.clientId = clientId ∧ record.requestId = requestId with
    | none => .unknown
    | some record =>
      if record.requestDigest = requestDigest then .evicted record.transactionId else .conflict

end BoundedOutcomeJournal

end HyperfluxNext
