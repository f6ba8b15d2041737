import HyperfluxNext.Library.Procedure
import HyperfluxNext.Protocol.Messages

namespace HyperfluxNext

open Procedure

structure EventDraft where
  kind : EventKind
  receiverId : Option ReceiverId
  generationId : Option GenerationId
  deviceId : Option LogicalDeviceId
  leaseId : Option LeaseId
  transactionId : Option TransactionId
  findingId : Option FindingId

inductive EventLogError where
  | invalidCapacity | subscriptionMismatch | sequenceExhausted | dropCounterExhausted
deriving DecidableEq

structure BoundedEventLog where
  streamId : StreamId
  streamEpoch : StreamEpoch
  projectionRevision : ProjectionRevision
  capacity : Nat
  events : List BridgeEvent
  latest : SequenceNumber
  dropped : DroppedEventCount
  inRange : 1 ≤ capacity ∧ capacity ≤ 4096
  bounded : events.length ≤ capacity

def BoundedEventLog.new (streamId : StreamId) (streamEpoch : StreamEpoch)
    (projectionRevision : ProjectionRevision) (capacity : Nat) :
    Except EventLogError BoundedEventLog :=
  if h : 1 ≤ capacity ∧ capacity ≤ 4096 then
    .ok ⟨streamId, streamEpoch, projectionRevision, capacity, [], .lit 0, .lit 0, h, Nat.zero_le capacity⟩
  else
    .error .invalidCapacity

def EventDraft.toEvent (draft : EventDraft) (sequence : SequenceNumber) : BridgeEvent :=
  ⟨sequence, draft.kind, draft.receiverId, draft.generationId, draft.deviceId, draft.leaseId,
    draft.transactionId, draft.findingId⟩

/-- Appends one event. A full log drops its oldest event, and both counters are checked before
anything is written. -/
def BoundedEventLog.append (log : BoundedEventLog) (draft : EventDraft) :
    Except EventLogError (BridgeEvent × BoundedEventLog) :=
  match Bounded.tryFrom 0 u64Max (log.latest.get + 1) with
  | none => .error .sequenceExhausted
  | some sequence =>
    let event := draft.toEvent sequence
    if hfull : log.events.length = log.capacity then
      match Bounded.tryFrom 0 u64Max (log.dropped.get + 1) with
      | none => .error .dropCounterExhausted
      | some dropped =>
        .ok (event, { log with
          events := log.events.drop 1 ++ [event], latest := sequence, dropped := dropped,
          bounded := by have := log.inRange; simp; omega })
    else
      .ok (event, { log with
        events := log.events ++ [event], latest := sequence,
        bounded := by have := log.bounded; simp; omega })

/-- Neither counter overflows during the next `n` appends. -/
def BoundedEventLog.HasRoom (log : BoundedEventLog) (n : Nat) : Prop :=
  log.latest.get + n ≤ u64Max ∧ log.dropped.get + n ≤ u64Max

theorem BoundedEventLog.append_ok {log : BoundedEventLog} {n : Nat} (hroom : log.HasRoom (n + 1))
    (draft : EventDraft) : ∃ event log', log.append draft = .ok (event, log') ∧ log'.HasRoom n := by
  obtain ⟨hl, hd⟩ := hroom
  unfold BoundedEventLog.append
  rw [Bounded.tryFrom_of_mem (Nat.zero_le _) (by omega)]
  by_cases hfull : log.events.length = log.capacity
  · rw [Bounded.tryFrom_of_mem (Nat.zero_le _) (by omega)]
    simp only [hfull, ↓reduceDIte]
    refine ⟨_, _, rfl, ?_, ?_⟩ <;> dsimp only <;> omega
  simp only [hfull, ↓reduceDIte]
  refine ⟨_, _, rfl, ?_, ?_⟩ <;> dsimp only <;> omega

theorem BoundedEventLog.append_room {log log' : BoundedEventLog} {draft : EventDraft} {event : BridgeEvent}
    {n : Nat} (h : log.append draft = .ok (event, log')) (hroom : log.HasRoom (n + 1)) : log'.HasRoom n := by
  obtain ⟨_, _, hlog, hleft⟩ := append_ok hroom draft
  rw [h] at hlog
  cases hlog
  exact hleft

theorem BoundedEventLog.append_full {log : BoundedEventLog} {draft : EventDraft} {error : EventLogError}
    (h : log.append draft = .error error) : ¬ log.HasRoom 1 := by
  intro hroom
  obtain ⟨_, _, hlog, _⟩ := append_ok hroom draft
  rw [h] at hlog
  cases hlog

end HyperfluxNext
