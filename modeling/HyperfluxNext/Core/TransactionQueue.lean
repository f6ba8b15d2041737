import Mathlib.Data.List.Perm.Basic
import HyperfluxNext.Protocol.Validation

namespace HyperfluxNext

open Procedure List

structure QueuedTransaction where
  request : TransactionRequest
  requestDigest : RequestDigest
  sessionId : SessionId
  authorizationEpoch : AuthorizationEpoch
  dispatchNonce : DispatchNonce
  admission : QueueAdmission
deriving DecidableEq

abbrev QueuedTransaction.id (queued : QueuedTransaction) : TransactionId := queued.request.transactionId

structure QueueDecision where
  admission : QueueAdmission
  superseded : Option QueuedTransaction

structure DequeueDecision where
  expired : List QueuedTransaction
  next : Option QueuedTransaction

inductive TransactionQueueError where
  | invalidCapacity
  | invalidRequest (error : ProtocolValidationError)
  | deadlineElapsed
  | full
deriving DecidableEq

structure BoundedTransactionQueue where
  capacity : Nat
  pending : List QueuedTransaction
  inRange : 1 ≤ capacity ∧ capacity ≤ 4096
  bounded : pending.length ≤ capacity

def BoundedTransactionQueue.new (capacity : Nat) : Except TransactionQueueError BoundedTransactionQueue :=
  if h : 1 ≤ capacity ∧ capacity ≤ 4096 then
    .ok ⟨capacity, [], h, Nat.zero_le capacity⟩
  else
    .error .invalidCapacity

/-- Only an unsent effect frame with exactly the same authority and resource scope is replaced. -/
def coalescingScope (left right : QueuedTransaction) : Bool :=
  left.request.transactionClass = .effectFrame ∧ left.sessionId = right.sessionId ∧
    left.authorizationEpoch = right.authorizationEpoch ∧
    left.request.clientId = right.request.clientId ∧
    left.request.leaseId = right.request.leaseId ∧
    left.request.receiverId = right.request.receiverId ∧
    left.request.generationId = right.request.generationId ∧
    left.request.resources = right.request.resources

namespace BoundedTransactionQueue

/-- The queue with some of its entries removed. -/
def keep (queue : BoundedTransactionQueue) (pending : List QueuedTransaction)
    (h : pending.length ≤ queue.pending.length) : BoundedTransactionQueue :=
  { queue with pending := pending, bounded := Nat.le_trans h queue.bounded }

/-- Where the new transaction's obsolete predecessor stands, if the class allows coalescing. -/
def coalescingPosition (queue : BoundedTransactionQueue) (transaction : QueuedTransaction) : Option Nat :=
  if transaction.request.transactionClass = .effectFrame then
    queue.pending.findIdx? (coalescingScope · transaction)
  else
    none

def admitTransaction (queue : BoundedTransactionQueue) (transaction : QueuedTransaction) (now : MonotonicMs) :
    Except TransactionQueueError (QueueDecision × BoundedTransactionQueue) :=
  match validateTransaction transaction.request with
  | .error error => .error (.invalidRequest error)
  | .ok () =>
    if transaction.request.deadlineMs ≤ now then
      .error .deadlineElapsed
    else
      match h : (queue.coalescingPosition transaction).bind
          fun position => queue.pending[position]?.map (position, ·) with
      | some (position, superseded) =>
        .ok (⟨.coalesced, some superseded⟩, { queue with
          pending := queue.pending.eraseIdx position ++ [{ transaction with admission := .coalesced }]
          bounded := by
            obtain ⟨_, _, h⟩ := Option.bind_eq_some_iff.mp h
            obtain ⟨_, h, he⟩ := Option.map_eq_some_iff.mp h
            cases he
            have hlt := (List.getElem?_eq_some_iff.mp h).1
            have := queue.bounded
            rw [List.length_append, List.length_eraseIdx_of_lt hlt, List.length_singleton]
            omega })
      | none =>
        if hfull : queue.pending.length = queue.capacity then
          .error .full
        else
          .ok (⟨.enqueued, none⟩, { queue with
            pending := queue.pending ++ [{ transaction with admission := .enqueued }]
            bounded := by have := queue.bounded; simp; omega })

/-- Takes out the entries a predicate selects, keeping the order of the others. -/
def removeMatching (queue : BoundedTransactionQueue) (predicate : QueuedTransaction → Bool) :
    List QueuedTransaction × BoundedTransactionQueue :=
  (queue.pending.filter predicate, queue.keep (queue.pending.filter (! predicate ·)) (length_filter_le _ _))

def expirePending (queue : BoundedTransactionQueue) (now : MonotonicMs) :
    List QueuedTransaction × BoundedTransactionQueue :=
  queue.removeMatching fun transaction => transaction.request.deadlineMs ≤ now

def removeTransaction (queue : BoundedTransactionQueue) (transactionId : TransactionId) :
    Option QueuedTransaction × BoundedTransactionQueue :=
  match queue.pending.findIdx? (·.id = transactionId) with
  | none => (none, queue)
  | some position =>
    (queue.pending[position]?, queue.keep (queue.pending.eraseIdx position) (length_eraseIdx_le _ _))

def takeNext (queue : BoundedTransactionQueue) (now : MonotonicMs) : DequeueDecision × BoundedTransactionQueue :=
  let (expired, live) := queue.expirePending now
  (⟨expired, live.pending.head?⟩, live.keep live.pending.tail (by simp))

def firstLive (queue : BoundedTransactionQueue) (now : MonotonicMs) : Option QueuedTransaction :=
  queue.pending.find? fun queued => queued.request.deadlineMs > now

def takeTransaction (queue : BoundedTransactionQueue) (transactionId : TransactionId)
    (now : MonotonicMs) : DequeueDecision × BoundedTransactionQueue :=
  let (expired, live) := queue.expirePending now
  let (next, rest) := live.removeTransaction transactionId
  (⟨expired, next⟩, rest)

def invalidateGeneration (queue : BoundedTransactionQueue) (receiverId : ReceiverId)
    (generationId : GenerationId) : List QueuedTransaction × BoundedTransactionQueue :=
  queue.removeMatching fun transaction =>
    transaction.request.receiverId = receiverId ∧ transaction.request.generationId = generationId

def invalidateSession (queue : BoundedTransactionQueue) (sessionId : SessionId) :
    List QueuedTransaction × BoundedTransactionQueue :=
  queue.removeMatching fun transaction => transaction.sessionId = sessionId

theorem removeMatching_perm (queue : BoundedTransactionQueue) (p : QueuedTransaction → Bool) :
    ((queue.removeMatching p).1 ++ (queue.removeMatching p).2.pending).Perm queue.pending := by
  simpa [removeMatching, keep] using filter_append_perm p queue.pending

theorem removeTransaction_none {queue : BoundedTransactionQueue} {id : TransactionId}
    (h : (queue.removeTransaction id).1 = none) :
    (∀ q ∈ queue.pending, q.id ≠ id) ∧ (queue.removeTransaction id).2 = queue := by
  unfold removeTransaction at h ⊢
  split at h
  next hfind => simpa [hfind] using findIdx?_eq_none_iff.mp hfind
  next position hfind =>
    have hlt := (findIdx?_eq_some_iff_getElem.mp hfind).1
    simp [getElem?_eq_getElem hlt] at h

theorem removeTransaction_some {queue : BoundedTransactionQueue} {id : TransactionId}
    {q : QueuedTransaction} (h : (queue.removeTransaction id).1 = some q) :
    q.id = id ∧ (q :: (queue.removeTransaction id).2.pending).Perm queue.pending := by
  unfold removeTransaction at h ⊢
  split at h
  · cases h
  next position hfind =>
    obtain ⟨hlt, hid, _⟩ := findIdx?_eq_some_iff_getElem.mp hfind
    rw [getElem?_eq_getElem hlt] at h
    cases h
    refine ⟨by simpa using hid, ?_⟩
    simpa [hfind, keep] using getElem_cons_eraseIdx_perm hlt

end BoundedTransactionQueue

end HyperfluxNext
