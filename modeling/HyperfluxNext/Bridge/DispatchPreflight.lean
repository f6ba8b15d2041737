import HyperfluxNext.Bridge.StableDispatch
import HyperfluxNext.Core.CapacityRuns

namespace HyperfluxNext

open TransactionCoordinator Procedure

/-- How far a dispatch got with its own guards: it has its result, or the next thing it does is to
ask the transport about one dequeued transaction. -/
inductive Boarding where
  | done (result : DispatchResult)
  | ready (expired : List TransactionTerminal) (queued : QueuedTransaction)
      (machine : TransactionState) (declared : FrameCount)

def Boarding.queued : Boarding → Option QueuedTransaction
  | .done _ => none
  | .ready _ queued _ _ => some queued

section Dispatch

variable {T : Type} [ReceiverTransport T]

namespace TransactionCoordinator

def boardQueued (queued : QueuedTransaction) (now : MonotonicMs) (ports : Authorities) (leases : LeaseManager) :
    CoordinatorM T (CompletedTransaction ⊕ TransactionState × FrameCount) := do
  let state ← get
  match dispatchPreflight queued now ports leases state.transport with
  | some errorKind =>
    let completed ← finishUnsentCompletion queued .revoked (some errorKind) none
    pure (.inl completed)
  | none =>
    let machine ← lift .transition queuedMachine
    let machine ← lift .transition (advance machine .sent)
    let sent ← lift id (progress queued .sent)
    recordOutcome queued.request.clientId (.progress sent)
    let declared ← lift id (declaredFrames queued)
    pure (.inr (machine, declared))

def askTransport (queued : QueuedTransaction) (machine : TransactionState) (declared : FrameCount) :
    CoordinatorM T CompletedTransaction := do
  let state ← get
  let ((terminal, errorKind, facts), transport) :=
    reconcileOrDispatch state.transport queued.toDispatch declared
  set { state with transport := transport }
  let _ ← lift .transition (advance machine terminal)
  finish queued terminal errorKind none facts

/-- `dispatchNext` up to the transport. -/
def boardNext (now : MonotonicMs) (ports : Authorities) (leases : LeaseManager) : CoordinatorM T Boarding := do
  let state ← get
  let (decision, queue) := state.coordinator.queue.takeNext now
  setQueue queue
  let expired ← each (fun queued => finishUnsent queued .revoked (some .deadlineExceeded) none) decision.expired
  match decision.next with
  | none => pure (.done ⟨expired, none⟩)
  | some queued =>
    match ← boardQueued queued now ports leases with
    | .inl completed => pure (.done ⟨expired, some completed⟩)
    | .inr (machine, declared) => pure (.ready expired queued machine declared)

def write : Boarding → CoordinatorM T DispatchResult
  | .done result => pure result
  | .ready expired queued machine declared => do
    let completed ← askTransport queued machine declared
    pure ⟨expired, some completed⟩

def asked (now : MonotonicMs) (ports : Authorities) (leases : LeaseManager)
    (state : CoordinatorState T) : Option QueuedTransaction :=
  match boardNext now ports leases state with
  | .ok boarding _ => boarding.queued
  | .error _ _ => none

variable {s : CoordinatorState T} {now : MonotonicMs} {ports : Authorities} {leases : LeaseManager}
  {queued : QueuedTransaction} {queue : BoundedTransactionQueue}
  {rest : List (QueuedTransaction × TransactionState)}

theorem dispatchQueued_boards (queued : QueuedTransaction) (now : MonotonicMs) (ports : Authorities)
    (leases : LeaseManager) :
    dispatchQueued (T := T) queued now ports leases =
      (do match ← boardQueued queued now ports leases with
          | .inl completed => pure completed
          | .inr (machine, declared) => askTransport queued machine declared) := by
  simp only [dispatchQueued, boardQueued, bind_assoc]
  refine bind_congr fun state => ?_
  cases hpreflight : dispatchPreflight queued now ports leases state.transport with
  | some errorKind => simp only [bind_assoc, pure_bind, bind_pure]
  | none => simp only [bind_assoc, pure_bind, askTransport]

theorem dispatchNext_boards (now : MonotonicMs) (ports : Authorities) (leases : LeaseManager) :
    dispatchNext (T := T) now ports leases = boardNext now ports leases >>= write := by
  simp only [dispatchNext, boardNext, dispatchDecision, bind_assoc]
  refine bind_congr fun state => bind_congr fun _ => bind_congr fun expired => ?_
  cases hnext : (state.coordinator.queue.takeNext now).1.next with
  | none => simp only [pure_bind, write]
  | some queued =>
    simp only [dispatchQueued_boards, bind_assoc]
    refine bind_congr fun boarded => ?_
    cases boarded with
    | inl completed | inr boarded => simp only [pure_bind, write]

theorem boardQueued_permits {transport : T} (h : Held queue transport ((queued, .queued) :: rest) s) :
    Holds (boardQueued queued now ports leases) s
      (fun boarded s' => s'.transport = transport ∧ s'.coordinator.queue = queue ∧
        (boarded.isRight ↔ dispatchPreflight queued now ports leases transport = none))
      (fun error _ => (∃ e, error = .event e) ∧
        dispatchPreflight queued now ports leases transport ≠ none) := by
  have hopen := h.opened.recorded (queued, .queued) List.mem_cons_self
  simp only [boardQueued, holds_do]
  rw [h.transport]
  cases hpreflight : dispatchPreflight queued now ports leases transport with
  | some errorKind =>
    simp only [holds_do]
    refine holds_mono (finishUnsentCompletion_held h (.inl rfl)) ?_ ?_
    · intro _ s' hdone
      exact ⟨hdone.1.transport, hdone.1.queue, by simp⟩
    intro _ _ hfailed
    exact ⟨hfailed.2.1, by simp⟩
  | none =>
    obtain ⟨declared, hdeclared⟩ := hopen.declared
    have hmachine : queuedMachine = .ok .queued := rfl
    have hsend : advance .queued .sent = .ok .sent := rfl
    obtain ⟨sent, hsent⟩ : ∃ p, progress queued .sent = .ok p := by
      simp [progress, hdeclared, bind, Except.bind, pure, Except.pure]
    have hrecord := record_sent_ok hopen hsent
    simp only [holds_do, hmachine, hsend, hsent, hdeclared, reduceCtorEq, false_implies, implies_true, and_true,
      Except.ok.injEq, forall_eq', recordOutcome, hrecord]
    exact ⟨h.transport, h.queue, by simp⟩

/-- The preflight names what the dequeue hands over. -/
theorem nextDispatchableRequest_eq (c : TransactionCoordinator) (now : MonotonicMs)
    (ports : Authorities) (leases : LeaseManager) (transport : T) :
    c.nextDispatchableRequest now ports leases transport =
      (handedOver (c.queue.takeNext now).1 now ports leases transport).map (·.request) := by
  unfold nextDispatchableRequest handedOver
  rw [takeNext_firstLive]
  cases c.queue.firstLive now with
  | none => rfl
  | some queued =>
    dsimp only
    cases hpreflight : dispatchPreflight queued now ports leases transport with
    | none | some errorKind => simp [hpreflight]

theorem handedOver_some {decision : DequeueDecision} {transport : T} (hnext : decision.next = some queued) :
    handedOver decision now ports leases transport =
      if (dispatchPreflight queued now ports leases transport).isNone then some queued else none := by
  unfold handedOver
  rw [hnext, Option.filter_some]

/-- The guards take the head out of the queue and stop in front of the transport with exactly what
the preflight permits, or fail on the log. -/
theorem boardNext_permits (h : CoordinatorSafe s.coordinator) :
    Holds (boardNext now ports leases) s
      (fun boarding s' => s'.transport = s.transport ∧
        s'.coordinator.queue = (s.coordinator.queue.takeNext now).2 ∧ boarding.queued =
          handedOver (s.coordinator.queue.takeNext now).1 now ports leases s.transport)
      (fun error _ => (∃ e, error = .event e) ∧
        (s.events.HasRoom (s.coordinator.queue.takeNext now).1.expired.length →
          handedOver (s.coordinator.queue.takeNext now).1 now ports leases s.transport = none)) := by
  have hperm := takeNext_perm s.coordinator.queue now
  generalize htaken : s.coordinator.queue.takeNext now = taken at hperm
  obtain ⟨decision, queue⟩ := taken
  have hheld : Held queue s.transport (waiting decision.expired ++
      (waiting decision.next.toList ++ waiting queue.pending))
      { s with coordinator := { s.coordinator with queue := queue } } := by
    refine ⟨?_, h.consistent, rfl, rfl⟩
    have hopened := h.opened.perm (hperm.map (·, TransactionState.queued))
    simpa [waiting] using hopened
  simp only [boardNext, setQueue, holds_do, htaken]
  refine holds_mono (finishEach_held hheld) ?_ ?_
  · rintro _ s₁ ⟨hs₁, _⟩
    cases hnext : decision.next with
    | none =>
      refine ⟨hs₁.transport, hs₁.queue, ?_⟩
      simp [Boarding.queued, handedOver, hnext]
    | some queued =>
      rw [hnext] at hs₁
      have hs₁ : Held queue s.transport ((queued, .queued) :: waiting queue.pending) s₁ := hs₁
      simp only [holds_bind]
      refine holds_mono (boardQueued_permits hs₁) ?_ ?_
      · intro boarded s₂ hdone
        obtain ⟨htransport, hqueue, hright⟩ := hdone
        cases boarded with
        | inl completed =>
          refine ⟨htransport, hqueue, ?_⟩
          have hrefused : dispatchPreflight queued now ports leases s.transport ≠ none :=
            fun hnone => by cases hright.mpr hnone
          rw [handedOver_some hnext]
          simp [Boarding.queued, hrefused]
        | inr boarded =>
          refine ⟨htransport, hqueue, ?_⟩
          have hpermitted := hright.mp rfl
          rw [handedOver_some hnext]
          simp [Boarding.queued, hpermitted]
      intro _ _ hfailed
      refine ⟨hfailed.1, fun _ => ?_⟩
      rw [handedOver_some hnext]
      simp [hfailed.2]
  · rintro _ _ ⟨_, hevent, hfull⟩
    exact ⟨hevent, fun hroom => absurd hroom hfull⟩

structure PreflightAgrees (s : CoordinatorState T) (now : MonotonicMs) (ports : Authorities)
    (leases : LeaseManager) : Prop where
  splits : dispatchNext (T := T) now ports leases = boardNext now ports leases >>= write
  taken : ∀ queued, asked now ports leases s = some queued →
    (s.coordinator.queue.takeNext now).1.next = some queued ∧
      dispatchPreflight queued now ports leases s.transport = none
  agrees : s.events.HasRoom (s.coordinator.queue.takeNext now).1.expired.length →
    (asked now ports leases s).map (·.request) =
      s.coordinator.nextDispatchableRequest now ports leases s.transport
  fails : (asked now ports leases s).map (·.request) ≠
      s.coordinator.nextDispatchableRequest now ports leases s.transport →
    asked now ports leases s = none ∧ ∃ e, failure (dispatchNext now ports leases) s = some (.event e)

theorem preflight_agrees (h : CoordinatorSafe s.coordinator) : PreflightAgrees s now ports leases := by
  have hboards := dispatchNext_boards (T := T) now ports leases
  have hpermits : Holds (boardNext now ports leases) s _ _ := boardNext_permits h
  have hrequest := nextDispatchableRequest_eq s.coordinator now ports leases s.transport
  cases hrun : boardNext now ports leases s with
  | ok boarding s' =>
    obtain ⟨_, _, hqueued⟩ := holds_ok hpermits hrun
    have hasked : asked now ports leases s =
        handedOver (s.coordinator.queue.takeNext now).1 now ports leases s.transport := by
      simp only [asked, hrun, hqueued]
    refine ⟨hboards, ?_, fun _ => by rw [hasked, hrequest], fun hne => ?_⟩
    · intro queued hq
      rw [hasked] at hq
      obtain ⟨hnext, hpermitted⟩ := Option.filter_eq_some_iff.mp hq
      exact ⟨hnext, Option.isNone_iff_eq_none.mp hpermitted⟩
    rw [hasked, hrequest] at hne
    exact absurd rfl hne
  | error error s' =>
    obtain ⟨⟨e, heq⟩, hroom⟩ := holds_error hpermits hrun
    have hasked : asked now ports leases s = none := by
      simp only [asked, hrun]
    refine ⟨hboards, ?_, fun hlog => by rw [hasked, hrequest, hroom hlog], fun _ => ⟨hasked, e, ?_⟩⟩
    · intro queued hq
      rw [hasked] at hq
      cases hq
    unfold failure
    rw [hboards]
    simp only [bind, EStateM.bind, hrun, heq]

variable [CanonicalDigests] {c start : TransactionCoordinator}

/-- In every run whose supersessions get their events, the preflight names the transaction about which
the dispatch asks the transport, unless the dispatch fails because the log takes no event for an
elapsed entry. -/
theorem coordinatorReach_preflight {capacity : Nat} (hnew : new capacity = .ok start)
    (hrun : CoordinatorReach (SupersessionRecorded (T := T)) start c) (now : MonotonicMs)
    (ports : Authorities) (leases : LeaseManager) (events : BoundedEventLog) (transport : T) :
    PreflightAgrees ⟨c, events, transport⟩ now ports leases :=
  preflight_agrees (s := ⟨c, events, transport⟩) (coordinatorReach_enrolled hnew hrun).safe

end TransactionCoordinator

end Dispatch

/-- The sample effect frame under other ids, which elapses later. -/
def patientRequest : TransactionRequest := { laterRequest with deadlineMs := .lit 1000 }

def pairCoordinator : TransactionCoordinator := ⟨⟨2, [], by decide, by decide⟩, ⟨2, ∅, [], [], [], by decide⟩⟩

/-- The other frame is submitted by another session, so that it replaces nothing. -/
def patientSubmit : CoordinatorStep FixedTransport :=
  ⟨.submit patientRequest { sampleBinding with sessionId := .lit "other" }
    (.lit 0) sampleAuthorities sampleLeases, sampleLog, sampleTransport⟩

theorem pairCoordinator_reach :
    letI := sampleDigests
    CoordinatorReach (SupersessionRecorded (T := FixedTransport)) pairCoordinator
      (patientSubmit.run (sampleSubmit.run pairCoordinator)) := by
  let _ := sampleDigests
  have hfirst : CoordinatorReach (SupersessionRecorded (T := FixedTransport)) pairCoordinator
      (sampleSubmit.run pairCoordinator) := by
    refine .step .start ?_
    show _ → sampleLog.TakesEvent
    decide
  refine .step hfirst ?_
  show _ → sampleLog.TakesEvent
  decide

theorem coordinatorReach_preflight_sample :
    letI := sampleDigests
    let c := patientSubmit.run (sampleSubmit.run pairCoordinator)
    new 2 = .ok pairCoordinator ∧
      c.nextDispatchableRequest (.lit 20) sampleAuthorities sampleLeases
        sampleTransport = some patientRequest ∧
      (asked (.lit 20) sampleAuthorities sampleLeases
        ⟨c, sampleLog, sampleTransport⟩).map (·.request) = some patientRequest := by
  let _ := sampleDigests
  have hnew : new 2 = .ok pairCoordinator := rfl
  have hagrees := coordinatorReach_preflight hnew pairCoordinator_reach
    (.lit 20) sampleAuthorities sampleLeases sampleLog sampleTransport
  have hnext : (patientSubmit.run (sampleSubmit.run pairCoordinator)).nextDispatchableRequest
      (.lit 20) sampleAuthorities sampleLeases sampleTransport = some patientRequest := by
    decide +kernel
  refine ⟨hnew, hnext, ?_⟩
  rw [hagrees.agrees ⟨by decide +kernel, by decide +kernel⟩]
  exact hnext

/-- With an exhausted log the dispatch fails on the elapsed frame and never asks about the other. -/
theorem preflight_without_log :
    letI := sampleDigests
    ¬ ∀ (c : TransactionCoordinator) (now : MonotonicMs) (ports : Authorities) (leases : LeaseManager)
      (events : BoundedEventLog) (transport : FixedTransport),
      CoordinatorReach (fun _ (_ : CoordinatorStep FixedTransport) => True) pairCoordinator c →
      (asked now ports leases ⟨c, events, transport⟩).map (·.request) =
        c.nextDispatchableRequest now ports leases transport := by
  let _ := sampleDigests
  intro h
  have hagree := h (patientSubmit.run (sampleSubmit.run pairCoordinator)) (.lit 20)
    sampleAuthorities sampleLeases exhaustedLog sampleTransport (.step (.step .start trivial) trivial)
  revert hagree
  decide +kernel

end HyperfluxNext
