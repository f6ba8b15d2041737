import Mathlib.Data.List.Nodup
import HyperfluxNext.Core.CoordinatorSpec

namespace HyperfluxNext

open TransactionCoordinator Procedure

/-- One call on the coordinator with all of its arguments. -/
inductive CoordinatorOp where
  | submit (request : TransactionRequest) (binding : SubmissionBinding) (now : MonotonicMs)
      (ports : Authorities) (leases : LeaseManager)
  | dispatchNext (now : MonotonicMs) (ports : Authorities) (leases : LeaseManager)
  | dispatchTransaction (transactionId : TransactionId) (now : MonotonicMs) (ports : Authorities)
      (leases : LeaseManager)
  | cancelTransaction (transactionId : TransactionId)
  | invalidateGeneration (receiverId : ReceiverId) (generationId : GenerationId)
  | invalidateSession (sessionId : SessionId)

structure CoordinatorStep (T : Type) where
  op : CoordinatorOp
  events : BoundedEventLog
  transport : T

theorem TransactionCoordinator.new_accounted {capacity : Nat} {c : TransactionCoordinator}
    (h : new capacity = .ok c) : Accounted c := by
  unfold new at h
  split at h
  · cases h
  next hrange =>
    have hrange := not_not.mp hrange
    simp only [BoundedTransactionQueue.new, BoundedOutcomeJournal.new, hrange, and_self,
      ↓reduceDIte, Except.ok.injEq] at h
    subst h
    refine ⟨Opened.nil (fun _ => rfl), ?_, by simp [waiting, ids]⟩
    intro id record hret
    simp at hret

/-- The nonterminal records are those of the queue, and every admission to the queue has been
answered by exactly one terminal record unless the transaction still waits. -/
def NoTransactionLost (c : TransactionCoordinator) : Prop :=
  (∀ id, (∃ record, c.outcomes.retained[id]? = some record ∧ record.result.isProgress) ↔
    ∃ q ∈ c.queue.pending, q.id = id) ∧
  ∀ id, c.outcomes.accepted.countP (isAdmission id) =
    c.outcomes.accepted.countP (isCompletion id) +
      if ∃ q ∈ c.queue.pending, q.id = id then 1 else 0

theorem Accounted.noTransactionLost {c : TransactionCoordinator} (h : Accounted c) : NoTransactionLost c := by
  have hmem : ∀ id, id ∈ ids (waiting c.queue.pending) ↔ ∃ q ∈ c.queue.pending, q.id = id := by
    intro id
    rw [ids_waiting, List.mem_map]
  refine ⟨fun id => ⟨?_, ?_⟩, fun id => ?_⟩
  · rintro ⟨record, hret, hp⟩
    exact (hmem id).mp (h.complete id record hret hp)
  · rintro ⟨q, hq, rfl⟩
    obtain ⟨p, _, hret⟩ := h.recorded (q, .queued) (List.mem_map_of_mem hq)
    exact ⟨_, hret, rfl⟩
  rw [h.balanced id]
  congr 1
  split
  next hex => exact List.count_eq_one_of_mem h.distinct ((hmem id).mpr hex)
  next hex => exact List.count_eq_zero_of_not_mem (fun hin => hex ((hmem id).mp hin))

section Runs

variable {T : Type} [ReceiverTransport T] [CanonicalDigests]

/-- The state a call leaves behind, returned or failed. -/
def CoordinatorOp.apply (op : CoordinatorOp) (s : CoordinatorState T) : CoordinatorState T :=
  match op with
  | .submit request binding now ports leases =>
    final (TransactionCoordinator.submit request binding now ports leases) s
  | .dispatchNext now ports leases => final (TransactionCoordinator.dispatchNext now ports leases) s
  | .dispatchTransaction id now ports leases =>
    final (TransactionCoordinator.dispatchTransaction id now ports leases) s
  | .cancelTransaction id => final (TransactionCoordinator.cancelTransaction id) s
  | .invalidateGeneration receiverId generationId =>
    final (TransactionCoordinator.invalidateGeneration receiverId generationId) s
  | .invalidateSession sessionId => final (TransactionCoordinator.invalidateSession sessionId) s

def CoordinatorStep.run (step : CoordinatorStep T) (c : TransactionCoordinator) : TransactionCoordinator :=
  (step.op.apply ⟨c, step.events, step.transport⟩).coordinator

inductive CoordinatorReach (ok : TransactionCoordinator → CoordinatorStep T → Prop)
    (start : TransactionCoordinator) : TransactionCoordinator → Prop
  | start : CoordinatorReach ok start start
  | step {c : TransactionCoordinator} {step : CoordinatorStep T} :
      CoordinatorReach ok start c → ok c step → CoordinatorReach ok start (step.run c)

def LogNotExhausted (c : TransactionCoordinator) (step : CoordinatorStep T) : Prop :=
  step.events.HasRoom c.queue.pending.length

def TargetQueuedOrNoneElapsed (c : TransactionCoordinator) (op : CoordinatorOp) : Prop :=
  match op with
  | .dispatchTransaction id now _ _ =>
    (∃ q ∈ c.queue.pending, q.id = id) ∨ ∀ q ∈ c.queue.pending, ¬ q.request.deadlineMs ≤ now
  | _ => True

theorem CoordinatorStep.run_accounted {c : TransactionCoordinator} {step : CoordinatorStep T}
    (h : Accounted c) (hroom : LogNotExhausted c step) (htarget : TargetQueuedOrNoneElapsed c step.op) :
    Accounted (step.run c) := by
  unfold CoordinatorStep.run CoordinatorOp.apply
  generalize hs : (⟨c, step.events, step.transport⟩ : CoordinatorState T) = s
  have h : Accounted s.coordinator := hs ▸ h
  have hroom : s.events.HasRoom s.coordinator.queue.pending.length := hs ▸ hroom
  have htarget : TargetQueuedOrNoneElapsed s.coordinator step.op := hs ▸ htarget
  cases hop : step.op with
  | submit => exact holds_final (submit_accounted h hroom)
  | dispatchNext => exact holds_final (dispatchNext_accounted h hroom)
  | dispatchTransaction =>
    rw [hop] at htarget
    exact holds_final (dispatchTransaction_accounted h hroom htarget)
  | cancelTransaction => exact holds_final (cancelTransaction_accounted h hroom)
  | invalidateGeneration | invalidateSession => exact holds_final (removeMatching_accounted h hroom)

/-- No run whose targeted dispatches name queued transactions, or find nothing elapsed, loses a
transaction. -/
theorem coordinatorReach_noTransactionLost {capacity : Nat} {start c : TransactionCoordinator}
    (hnew : new capacity = .ok start)
    (hrun : CoordinatorReach (fun c (step : CoordinatorStep T) =>
      LogNotExhausted c step ∧ TargetQueuedOrNoneElapsed c step.op) start c) :
    NoTransactionLost c := by
  have haccounted : Accounted c := by
    induction hrun with
    | start => exact new_accounted hnew
    | step _ hok ih => exact CoordinatorStep.run_accounted ih hok.1 hok.2
  exact haccounted.noTransactionLost

end Runs

/-- A transport whose answers do not change. -/
structure FixedTransport where
  generation : Option GenerationId
  available : Bool
  reconciled : TransportReconciliation
  written : Except TransportFailureFacts TransportReceipt

instance : ReceiverTransport FixedTransport where
  currentGeneration transport _ := transport.generation
  writeAvailable transport _ _ := transport.available
  reconcile transport _ := transport.reconciled
  dispatch transport _ := (transport.written, transport)

def sampleDigest : Text 64 64 :=
  .lit "0123456789abcdef0123456789abcdef0123456789abcdef0123456789abcdef"

def sampleGeneration : GenerationId := .lit 1

def sampleResource : ResourceKey :=
  ⟨.lit "receiver", sampleGeneration, .lit "mouse", .lighting⟩

def sampleProfile : ProfileId := .lit "profile"

/-- An effect frame of one black slot that elapses at time ten. -/
def sampleRequest : TransactionRequest where
  requestId := .lit "request"
  transactionId := .lit "transaction"
  clientId := .lit "client"
  leaseId := .lit "lease"
  receiverId := sampleResource.receiverId
  generationId := sampleGeneration
  receiverProfileId := sampleProfile
  receiverProfileDigest := sampleDigest
  deviceProfiles := [⟨sampleResource.deviceId, sampleProfile, sampleDigest, .lit 1⟩]
  transactionClass := .effectFrame
  stableIntents := []
  deadlineMs := .lit 10
  resources := [sampleResource]
  frames := [⟨sampleResource.deviceId, .lit 0,
    [⟨.lit 0, .lit 0, .lit 0⟩]⟩]

/-- Every authority permits the sample request. -/
def sampleAuthorities : Authorities where
  sessions := ⟨fun _ _ => true⟩
  profiles := ⟨fun _ => true, fun _ _ => some ⟨sampleProfile, sampleDigest⟩,
    fun _ => some ⟨sampleProfile, sampleDigest, .lit 1⟩, fun _ _ => false⟩
  devices := ⟨fun _ => .ready⟩

def sampleLeases : LeaseManager where
  maxLeases := 1
  maxHistory := 1
  leases := (∅ : Std.TreeMap LeaseId LeaseGrant).insert sampleRequest.leaseId
    ⟨sampleRequest.leaseId, sampleRequest.clientId, [sampleResource], .lit 1000, .granted⟩
  owners := (∅ : Std.TreeMap ResourceKey LeaseId).insert sampleResource sampleRequest.leaseId
  history := []

@[reducible] def sampleDigests : CanonicalDigests := ⟨fun _ => sampleDigest⟩

def sampleBinding : SubmissionBinding :=
  ⟨.lit "session", .lit 1, .lit 1⟩

def sampleLog : BoundedEventLog :=
  ⟨.lit "stream", .lit 1, .lit 1, 4, [],
    .lit 0, .lit 0, by decide, by decide⟩

def sampleTransport : FixedTransport := ⟨some sampleGeneration, true, .notObserved, .error unsentFacts⟩

def emptyCoordinator : TransactionCoordinator := ⟨⟨1, [], by decide, by decide⟩, ⟨1, ∅, [], [], [], by decide⟩⟩

def sampleSubmit : CoordinatorStep FixedTransport :=
  ⟨.submit sampleRequest sampleBinding (.lit 0) sampleAuthorities sampleLeases,
    sampleLog, sampleTransport⟩

def sampleDispatch (transactionId : TransactionId) : CoordinatorStep FixedTransport :=
  ⟨.dispatchTransaction transactionId (.lit 20) sampleAuthorities sampleLeases,
    sampleLog, sampleTransport⟩

theorem coordinatorReach_noTransactionLost_sample :
    letI := sampleDigests
    TransactionCoordinator.new 1 = .ok emptyCoordinator ∧
      NoTransactionLost ((sampleDispatch sampleRequest.transactionId).run
        (sampleSubmit.run emptyCoordinator)) := by
  let _ := sampleDigests
  have hnew : TransactionCoordinator.new 1 = .ok emptyCoordinator := rfl
  refine ⟨hnew, coordinatorReach_noTransactionLost (T := FixedTransport) hnew ?_⟩
  refine .step (.step .start ⟨?_, trivial⟩) ⟨?_, .inl ?_⟩
  · exact ⟨by decide, by decide⟩
  · exact ⟨by decide, by decide⟩
  · exact ⟨(sampleSubmit.run emptyCoordinator).queue.pending.head (by decide), by decide, by decide⟩

/-- The elapsed sample transaction is dropped by a dispatch that names another one: it leaves the
queue, keeps its queued progress record and gets no terminal record. -/
theorem coordinator_loses_elapsed_transaction :
    letI := sampleDigests
    TransactionCoordinator.new 1 = .ok emptyCoordinator ∧
      ¬ ∀ c, CoordinatorReach (fun c (step : CoordinatorStep FixedTransport) =>
        LogNotExhausted c step) emptyCoordinator c → NoTransactionLost c := by
  let _ := sampleDigests
  refine ⟨rfl, fun h => ?_⟩
  set submitted := sampleSubmit.run emptyCoordinator
  set dispatched := (sampleDispatch (.lit "other")).run submitted
  have hreach : CoordinatorReach (fun c (step : CoordinatorStep FixedTransport) =>
      LogNotExhausted c step) emptyCoordinator dispatched :=
    .step (.step .start ⟨by decide, by decide⟩) ⟨by decide, by decide⟩
  have hopen : (dispatched.outcomes.retained[sampleRequest.transactionId]?).any
      fun record => record.result.isProgress := by decide
  have hempty : dispatched.queue.pending = [] := by decide
  obtain ⟨q, hq, _⟩ := ((h dispatched hreach).1 sampleRequest.transactionId).mp
    ((Option.any_eq_true ..).mp hopen)
  rw [hempty] at hq
  cases hq

end HyperfluxNext
