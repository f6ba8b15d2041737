import HyperfluxNext.Restoration.IntentFrames

namespace HyperfluxNext

open TransactionCoordinator BoundedTransactionQueue Procedure

variable {T : Type} [ReceiverTransport T]

/-- The first live transaction, when every current dispatch authority would permit it to reach the
transport. -/
def TransactionCoordinator.nextDispatchableRequest (coordinator : TransactionCoordinator)
    (now : MonotonicMs) (ports : Authorities) (leases : LeaseManager) (transport : T) :
    Option TransactionRequest :=
  match coordinator.queue.firstLive now with
  | none => none
  | some queued =>
    match dispatchPreflight queued now ports leases transport with
    | none => some queued.request
    | some _ => none

inductive StableCaptureStatus where
  | notApplicable
  | captured (intents : List PersistedStableIntent)
  | failed (error : RestorationError)

structure BridgeDispatchResult where
  dispatch : DispatchResult
  stableCapture : StableCaptureStatus

section Dispatch

variable [RestorationDigests]

section
omit [ReceiverTransport T]

/-- The first phase of the tombstone, write and capture protocol. -/
def prepareStableDispatch (request : TransactionRequest) (preparedAt : WallClockUnixMs) :
    RestorationM T Unit := do
  if request.transactionClass ≠ .staticLighting ∨ request.stableIntents = [] then
    pure ()
  else
    let _ ← clearStableIntents request.receiverId (request.stableIntents.map (·.deviceId)) preparedAt

def captureCompleted (completed : CompletedTransaction) (capturedAt : WallClockUnixMs) :
    RestorationM T StableCommitOutcome :=
  commitDeclaredStableTransaction completed.request completed.terminal capturedAt

end

def prepareNext (now : MonotonicMs) (ports : Authorities) (preparedAt : WallClockUnixMs) :
    RestorationM T Unit := do
  let state ← get
  match state.core.coordinator.nextDispatchableRequest now ports state.leases state.core.transport with
  | none => pure ()
  | some request => prepareStableDispatch request preparedAt

omit [RestorationDigests] in
def sendNext (now : MonotonicMs) (ports : Authorities) : RestorationM T DispatchResult := do
  let state ← get
  withTransactions (dispatchNext now ports state.leases)

omit [ReceiverTransport T] in
def captureNext (dispatch : DispatchResult) (capturedAt : WallClockUnixMs) : RestorationM T StableCaptureStatus :=
  match dispatch.completed with
  | none => pure .notApplicable
  | some completed => do
    match ← attempt (captureCompleted completed capturedAt) with
    | .ok .notApplicable => pure .notApplicable
    | .ok (.captured intents) => pure (.captured intents)
    | .error error => pure (.failed error)

/-- Dispatches at most one queued transaction after rechecking all authority. -/
def backendDispatchNext (now : MonotonicMs) (ports : Authorities)
    (preparedAt capturedAt : WallClockUnixMs) : RestorationM T BridgeDispatchResult := do
  prepareNext now ports preparedAt
  let dispatch ← sendNext now ports
  let capture ← captureNext dispatch capturedAt
  pure ⟨dispatch, capture⟩

end Dispatch

def handedOver (decision : DequeueDecision) (now : MonotonicMs) (ports : Authorities)
    (leases : LeaseManager) (transport : T) : Option QueuedTransaction :=
  decision.next.filter fun queued => (dispatchPreflight queued now ports leases transport).isNone

theorem takeNext_firstLive (queue : BoundedTransactionQueue) (now : MonotonicMs) :
    (queue.takeNext now).1.next = queue.firstLive now := by
  have hlive : ∀ queued : QueuedTransaction,
      (! decide (queued.request.deadlineMs ≤ now)) = decide (queued.request.deadlineMs > now) := by
    intro queued
    by_cases h : queued.request.deadlineMs ≤ now
    · have hnot : ¬ queued.request.deadlineMs > now := Nat.not_lt_of_le h
      simp [h, hnot]
    have hlt : queued.request.deadlineMs > now := Nat.lt_of_not_le h
    simp [h, hlt]
  simp only [takeNext, expirePending,
    removeMatching, keep,
    firstLive, List.head?_filter, hlive]

variable {now : MonotonicMs} {ports : Authorities} {leases : LeaseManager}

/-- The preflight prediction names the transaction that the dispatch then hands over. -/
theorem nextDispatchableRequest_handedOver {coordinator : TransactionCoordinator} {transport : T}
    {queued : QueuedTransaction}
    (h : handedOver (coordinator.queue.takeNext now).1 now ports leases transport = some queued) :
    coordinator.nextDispatchableRequest now ports leases transport = some queued.request := by
  unfold handedOver at h
  obtain ⟨hnext, hpreflight⟩ := Option.filter_eq_some_iff.mp h
  rw [takeNext_firstLive] at hnext
  unfold nextDispatchableRequest
  rw [hnext]
  dsimp only
  rw [Option.isNone_iff_eq_none.mp hpreflight]

theorem validateTransaction_intents {request : TransactionRequest} (h : validateTransaction request = .ok ())
    (hstatic : request.transactionClass = .staticLighting) {frame : LightingFrame}
    (hframe : frame ∈ request.frames) : frame.deviceId ∈ request.stableIntents.map (·.deviceId) := by
  unfold validateTransaction at h
  obtain ⟨_, _, h⟩ := bind_eq_ok h
  obtain ⟨_, _, h⟩ := bind_eq_ok h
  obtain ⟨frameDevices, htopology, h⟩ := bind_eq_ok h
  obtain ⟨_, _, h⟩ := bind_eq_ok h
  obtain ⟨_, _, h⟩ := bind_eq_ok h
  obtain ⟨_, hintents, _⟩ := bind_eq_ok h
  have hdevices : frame.deviceId ∈ frameDevices := by
    unfold validateFrameTopology at htopology
    obtain ⟨_, _, htopology⟩ := bind_eq_ok htopology
    obtain ⟨_, _, htopology⟩ := bind_eq_ok htopology
    obtain ⟨_, _, htopology⟩ := bind_eq_ok htopology
    obtain ⟨_, _, htopology⟩ := bind_eq_ok htopology
    obtain ⟨_, _, htopology⟩ := bind_eq_ok htopology
    cases htopology
    exact List.mem_map_of_mem hframe
  unfold validateStableIntents at hintents
  rw [if_neg (not_not.mpr hstatic)] at hintents
  obtain ⟨_, _, hintents⟩ := bind_eq_ok hintents
  obtain ⟨_, _, hintents⟩ := bind_eq_ok hintents
  obtain ⟨_, _, hintents⟩ := bind_eq_ok hintents
  obtain ⟨_, _, hintents⟩ := bind_eq_ok hintents
  obtain ⟨_, hdeclared, _⟩ := bind_eq_ok hintents
  have hnone := reject_eq_ok hdeclared
  by_contra hmissing
  exact hnone (List.any_eq_true.mpr ⟨frame.deviceId, hdevices, decide_eq_true hmissing⟩)

omit [ReceiverTransport T] in
theorem finish_request (queued : QueuedTransaction) (state : TransactionState)
    (errorKind : Option ProtocolErrorKind) (supersededBy : Option TransactionId)
    (facts : TransportFailureFacts) (s : CoordinatorState T) :
    Holds (finish queued state errorKind supersededBy facts) s
      (fun completed s' => completed.request = queued.request ∧ completed.terminal.state = state ∧
        s'.transport = s.transport)
      (fun _ s' => s'.transport = s.transport) := by
  simp only [finish, appendEvent, recordOutcome, holds_do]
  refine ⟨fun declared _ => ⟨fun event _ => ⟨fun journal _ => ?_, fun _ _ => trivial⟩,
    fun _ _ => trivial⟩, fun _ _ => trivial⟩
  exact ⟨trivial, rfl, trivial⟩

theorem dispatchQueued_answers {queued : QueuedTransaction} {now : MonotonicMs} {ports : Authorities}
    {leases : LeaseManager} {s : CoordinatorState T} :
    Holds (dispatchQueued queued now ports leases) s
      (fun completed s' => completed.request = queued.request ∧
        ((dispatchPreflight queued now ports leases s.transport).isSome →
          s'.transport = s.transport ∧ completed.terminal.state = .revoked))
      (fun _ s' => (dispatchPreflight queued now ports leases s.transport).isSome →
        s'.transport = s.transport) := by
  simp only [dispatchQueued, holds_bind, holds_get]
  split
  next kind hrefused =>
    simp only [finishUnsentCompletion, holds_bind, holds_lift]
    refine ⟨fun _ _ => ⟨fun _ _ => ?_, fun _ _ => ?_⟩, fun _ _ => ?_⟩
    · refine holds_mono (finish_request queued .revoked (some kind) none unsentFacts s) ?_ ?_
      · intro completed s' hs
        exact ⟨hs.1, fun _ => ⟨hs.2.2, hs.2.1⟩⟩
      intro _ s' hs _
      exact hs
    · exact fun _ => trivial
    · exact fun _ => trivial
  next hpassed =>
    have hnot : ¬ (dispatchPreflight queued now ports leases s.transport).isSome := by
      rw [hpassed]
      simp
    simp only [holds_bind, holds_lift]
    refine ⟨fun _ _ => ⟨fun _ _ => ⟨fun sent _ => ?_, fun _ _ h => absurd h hnot⟩,
      fun _ _ h => absurd h hnot⟩, fun _ _ h => absurd h hnot⟩
    refine holds_mono (holds_of_forall (Q := fun _ _ => True) fun _ _ => trivial) ?_
      (fun _ _ _ h => absurd h hnot)
    intro _ s₁ _
    refine ⟨fun declared _ => ?_, fun _ _ h => absurd h hnot⟩
    simp only [holds_get, holds_set]
    refine ⟨fun _ _ => ?_, fun _ _ h => absurd h hnot⟩
    refine holds_mono (finish_request queued _ _ none _ _) ?_ (fun _ _ _ h => absurd h hnot)
    intro completed s' hs
    exact ⟨hs.1, fun h => absurd h hnot⟩

theorem dispatchDecision_answers {decision : DequeueDecision} {s : CoordinatorState T} :
    Holds (dispatchDecision decision now ports leases) s
      (fun result s' => (handedOver decision now ports leases s.transport = none → s'.transport = s.transport) ∧
        ∀ completed, result.completed = some completed → completed.terminal.state = .succeeded →
          ∃ queued, handedOver decision now ports leases s.transport = some queued ∧
            completed.request = queued.request)
      (fun _ s' => handedOver decision now ports leases s.transport = none → s'.transport = s.transport) := by
  simp only [dispatchDecision, holds_bind]
  refine holds_mono (finishEach_keeps (P := fun _ => True) fun _ _ _ _ => trivial) ?_
    (fun _ s₁ hs₁ _ => hs₁.transport)
  intro expired s₁ hs₁
  obtain ⟨hkeeps, _⟩ := hs₁
  have hsame : s₁.transport = s.transport := hkeeps.transport
  cases hnext : decision.next with
  | none => exact ⟨fun _ => hsame, fun completed h => by cases h⟩
  | some queued =>
    have hrefused : handedOver decision now ports leases s.transport = none →
        (dispatchPreflight queued now ports leases s₁.transport).isSome := by
      intro hnone
      unfold handedOver at hnone
      rw [hnext, hsame.symm, Option.filter_eq_none_iff] at hnone
      have hfailed := hnone queued rfl
      simpa [Option.isSome_iff_ne_none] using hfailed
    simp only [holds_do]
    refine holds_mono dispatchQueued_answers ?_ (fun _ s' hs hnone => (hs (hrefused hnone)).trans hsame)
    intro completed s' hs
    obtain ⟨hrequest, hrefusal⟩ := hs
    refine ⟨fun hnone => (hrefusal (hrefused hnone)).1.trans hsame, ?_⟩
    intro answered hanswered hsucceeded
    cases hanswered
    refine ⟨queued, ?_, hrequest⟩
    unfold handedOver
    rw [hnext, Option.filter_eq_some_iff]
    refine ⟨rfl, ?_⟩
    cases hpreflight : dispatchPreflight queued now ports leases s.transport with
    | none => rfl
    | some kind =>
      rw [hsame, hpreflight] at hrefusal
      rw [(hrefusal rfl).2] at hsucceeded
      cases hsucceeded

end HyperfluxNext
