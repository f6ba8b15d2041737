import HyperfluxNext.Core.CoordinatorSpec

namespace HyperfluxNext

open TransactionCoordinator BoundedOutcomeJournal

open Procedure

/-- The facts a terminal outcome reports agree with each other. -/
structure ConsistentTerminal (terminal : TransactionTerminal) : Prop where
  retry : terminal.automaticRetry → terminal.liveWriteExecuted = false ∧
    terminal.deliveredFrames.get = 0 ∧ terminal.sideEffectCertainty = .none ∧
    (terminal.state = .failed ∨ terminal.state = .revoked)
  delivered : 0 < terminal.deliveredFrames.get → terminal.liveWriteExecuted
  effect : terminal.sideEffectCertainty ≠ .none → terminal.liveWriteExecuted
  failure : terminal.state = .failed → terminal.errorKind.isSome

/-- The same agreement before the outcome is written down. -/
structure ConsistentAnswer (answer : ClassifiedTransport) : Prop where
  delivered : 0 < answer.2.2.deliveredFrames.get → answer.2.2.liveWriteExecuted
  effect : answer.2.2.sideEffectCertainty ≠ .none → answer.2.2.liveWriteExecuted
  failure : answer.1 = .failed → answer.2.1.isSome
  success : answer.1 = .succeeded → answer.2.2.liveWriteExecuted
  ends : answer.1 = .succeeded ∨ answer.1 = .failed ∨ answer.1 = .revoked ∨ answer.1 = .superseded

theorem retryIsSafe_iff {facts : TransportFailureFacts} :
    retryIsSafe facts ↔ facts.automaticRetrySafe ∧ facts.liveWriteExecuted = false ∧
      facts.deliveredFrames.get = 0 ∧ facts.sideEffectCertainty = .none := by
  simp [retryIsSafe]

theorem ConsistentAnswer.terminal {state : TransactionState} {errorKind : Option ProtocolErrorKind}
    {facts : TransportFailureFacts} (h : ConsistentAnswer (state, errorKind, facts))
    (queued : QueuedTransaction) (supersededBy : Option TransactionId) (declared : FrameCount)
    (sequence : SequenceNumber) :
    ConsistentTerminal (terminalOf queued state errorKind supersededBy facts declared sequence) := by
  refine ⟨?_, h.delivered, h.effect, h.failure⟩
  intro hretry
  simp only [terminalOf, Bool.decide_and, Bool.and_eq_true, decide_eq_true_eq] at hretry
  obtain ⟨hstate, hsafe⟩ := hretry
  obtain ⟨_, hlive, hdelivered, hcertainty⟩ := retryIsSafe_iff.mp hsafe
  refine ⟨hlive, hdelivered, hcertainty, ?_⟩
  show state = .failed ∨ state = .revoked
  rcases h.ends with hs | hs | hs | hs
  · have hlive' := h.success hs
    rw [hlive] at hlive'
    cases hlive'
  · exact .inl hs
  · exact .inr hs
  · exact absurd hs hstate

theorem unsent_consistent {state : TransactionState} (errorKind : Option ProtocolErrorKind)
    (hstate : state = .revoked ∨ state = .superseded) :
    ConsistentAnswer (state, errorKind, unsentFacts) := by
  rcases hstate with rfl | rfl <;>
    exact ⟨by simp [unsentFacts, zeroDelivered], by simp [unsentFacts], by simp, by simp, by simp⟩

theorem normalizeFacts_consistent (facts : TransportFailureFacts) (declared : FrameCount) :
    (0 < (normalizeFacts facts declared).deliveredFrames.get →
      (normalizeFacts facts declared).liveWriteExecuted) ∧
    ((normalizeFacts facts declared).sideEffectCertainty ≠ .none →
      (normalizeFacts facts declared).liveWriteExecuted) := by
  have hle : min facts.deliveredFrames.get declared.get ≤ 4096 :=
    Nat.le_trans (Nat.min_le_right _ _) declared.upper
  simp only [normalizeFacts, Bounded.tryFrom_of_mem (Nat.zero_le _) hle, Option.getD_some]
  generalize hcertainty : (if min facts.deliveredFrames.get declared.get > 0 ∧
    min facts.deliveredFrames.get declared.get < declared.get then SideEffectCertainty.partially
    else facts.sideEffectCertainty) = certainty
  constructor
  · intro hpos
    have hpos : min facts.deliveredFrames.get declared.get > 0 := hpos
    simp [hpos]
  intro hne
  by_cases hnone : certainty = .none
  · by_contra hlive
    exact hne (by rw [if_neg (fun hboth => hlive hboth.1)]; exact hnone)
  · simp [hnone]

theorem classifyReceipt_consistent (receipt : TransportReceipt) (declared : FrameCount) :
    ConsistentAnswer (classifyReceipt receipt declared) := by
  obtain ⟨hd, he⟩ := normalizeFacts_consistent receipt.facts declared
  unfold classifyReceipt
  dsimp only
  split
  · exact ⟨hd, he, by simp, by simp, by simp⟩
  split
  · split
    next hok => exact ⟨hd, he, by simp, fun _ => hok.2.2, by simp⟩
    · exact ⟨hd, he, by simp, by simp, by simp⟩
  · exact ⟨hd, he, by simp, by simp, by simp⟩
  · exact ⟨hd, he, by simp, by simp, by simp⟩

theorem classifyFailure_consistent (facts : TransportFailureFacts) (declared : FrameCount) :
    ConsistentAnswer (classifyFailure facts declared) := by
  obtain ⟨hd, he⟩ := normalizeFacts_consistent facts declared
  exact ⟨hd, he, by simp [classifyFailure], by simp [classifyFailure], by simp [classifyFailure]⟩

theorem unknown_consistent (errorKind : ProtocolErrorKind) :
    ConsistentAnswer (.failed, some errorKind, unknownSideEffectFacts) :=
  ⟨fun _ => rfl, fun _ => rfl, by simp, by simp, by simp⟩

section Transport

variable {T : Type} [ReceiverTransport T]

theorem reconcileOrDispatch_consistent (transport : T) (dispatch : TransportDispatch) (declared : FrameCount) :
    ConsistentAnswer (reconcileOrDispatch transport dispatch declared).1 := by
  unfold reconcileOrDispatch
  split
  · split
    · exact classifyReceipt_consistent _ _
    · exact classifyFailure_consistent _ _
  · exact classifyReceipt_consistent _ _
  · exact classifyFailure_consistent _ _
  all_goals exact unknown_consistent _

end Transport

def ConsistentJournal (journal : BoundedOutcomeJournal) : Prop :=
  ∀ (id : TransactionId) (record : OutcomeRecord) (terminal : TransactionTerminal),
    journal.retained[id]? = some record → record.result = .terminal terminal → ConsistentTerminal terminal

theorem ConsistentJournal.store {journal : BoundedOutcomeJournal} {id : TransactionId}
    {order : List TransactionId} {record : OutcomeRecord} (h : ConsistentJournal journal)
    (hrecord : ∀ terminal, record.result = .terminal terminal → ConsistentTerminal terminal) :
    ConsistentJournal (journal.store id order record) := by
  intro k stored terminal hr ht
  rw [getElem?_store] at hr
  split at hr
  · cases hr; exact hrecord terminal ht
  · exact h k stored terminal hr ht

/-- What holds of a coordinator after any run of its operations, also when calls failed. -/
structure CoordinatorSafe (c : TransactionCoordinator) : Prop where
  opened : Opened c.outcomes (waiting c.queue.pending)
  consistent : ConsistentJournal c.outcomes

/-- The state inside a call: `live` is what the call still has to answer for besides the queue. -/
structure Held {T : Type} (queue : BoundedTransactionQueue) (transport : T)
    (live : List (QueuedTransaction × TransactionState)) (s : CoordinatorState T) : Prop where
  opened : Opened s.coordinator.outcomes live
  consistent : ConsistentJournal s.coordinator.outcomes
  queue : s.coordinator.queue = queue
  transport : s.transport = transport

section Finish

variable {T : Type} {s : CoordinatorState T} {queued : QueuedTransaction}
  {last state : TransactionState} {errorKind : Option ProtocolErrorKind}
  {supersededBy : Option TransactionId} {facts : TransportFailureFacts}
  {gone rest : List (QueuedTransaction × TransactionState)} {queue : BoundedTransactionQueue}
  {transport : T}

theorem Held.right (h : Held queue transport (gone ++ rest) s) : Held queue transport rest s :=
  ⟨h.opened.right, h.consistent, h.queue, h.transport⟩

theorem Held.safe (h : Held queue transport (waiting queue.pending) s) : CoordinatorSafe s.coordinator := by
  refine ⟨?_, h.consistent⟩
  rw [h.queue]
  exact h.opened

def FinishedAs (queued : QueuedTransaction) (state : TransactionState)
    (errorKind : Option ProtocolErrorKind) (supersededBy : Option TransactionId)
    (facts : TransportFailureFacts) (terminal : TransactionTerminal) : Prop :=
  ∃ declared sequence, declaredFrames queued = .ok declared ∧
    terminal = terminalOf queued state errorKind supersededBy facts declared sequence

theorem FinishedAs.consistent {terminal : TransactionTerminal}
    (h : FinishedAs queued state errorKind supersededBy facts terminal)
    (hanswer : ConsistentAnswer (state, errorKind, facts)) : ConsistentTerminal terminal := by
  obtain ⟨declared, sequence, _, rfl⟩ := h
  exact hanswer.terminal queued supersededBy declared sequence

/-- The call took one place of the log. -/
def LeavesRoom (s s' : CoordinatorState T) : Prop :=
  ∀ n, s.events.HasRoom (n + 1) → s'.events.HasRoom n

/-- The call failed on the log, which did not have the places it needs. -/
def LogFull (s : CoordinatorState T) (n : Nat) (error : TransactionCoordinatorError) : Prop :=
  (∃ e, error = .event e) ∧ ¬ s.events.HasRoom n

theorem finish_held (h : Held queue transport ((queued, last) :: rest) s)
    (hend : LegalEnd last state) (hanswer : ConsistentAnswer (state, errorKind, facts)) :
    Holds (finish queued state errorKind supersededBy facts) s
      (fun completed s' => Held queue transport rest s' ∧ completed.request = queued.request ∧
        FinishedAs queued state errorKind supersededBy facts completed.terminal ∧ LeavesRoom s s')
      (fun error s' => Held queue transport rest s' ∧ LogFull s 1 error) := by
  have hrest : Held queue transport rest s :=
    Held.right (show Held queue transport ([(queued, last)] ++ rest) s from h)
  have hopen := h.opened.recorded (queued, last) List.mem_cons_self
  obtain ⟨declared, hd⟩ := hopen.declared
  simp only [finish, appendEvent, recordOutcome, holds_do, hd, reduceCtorEq, false_implies, implies_true,
    and_true, Except.ok.injEq, forall_eq']
  refine ⟨?_, fun error herror => ⟨hrest, ⟨error, rfl⟩, BoundedEventLog.append_full herror⟩⟩
  rintro ⟨event, log⟩ hlog
  have hrec := record_terminal_ok hopen hend hd errorKind supersededBy facts event.sequence
  simp only [hrec, Except.ok.injEq, forall_eq', reduceCtorEq, false_implies, implies_true, and_true]
  refine ⟨⟨h.opened.store rfl, ?_, h.queue, h.transport⟩, trivial, ⟨declared, event.sequence, hd, rfl⟩,
    fun _ => BoundedEventLog.append_room hlog⟩
  refine h.consistent.store ?_
  intro terminal ht
  cases ht
  exact hanswer.terminal queued supersededBy declared event.sequence

theorem finishUnsentCompletion_held (h : Held queue transport ((queued, .queued) :: rest) s)
    (hstate : state = .revoked ∨ state = .superseded) :
    Holds (finishUnsentCompletion queued state errorKind supersededBy) s
      (fun completed s' => Held queue transport rest s' ∧ completed.request = queued.request ∧
        FinishedAs queued state errorKind supersededBy unsentFacts completed.terminal ∧ LeavesRoom s s')
      (fun error s' => Held queue transport rest s' ∧ LogFull s 1 error) := by
  have hmachine : queuedMachine = .ok .queued := rfl
  have hadvance : advance .queued state = .ok state := by
    rcases hstate with rfl | rfl <;> rfl
  simp only [finishUnsentCompletion, holds_do, hmachine, hadvance, reduceCtorEq, false_implies, implies_true,
    and_true, Except.ok.injEq, forall_eq']
  exact finish_held h (.inl ⟨rfl, hstate⟩) (unsent_consistent errorKind hstate)

theorem finishUnsent_held (h : Held queue transport ((queued, .queued) :: rest) s)
    (hstate : state = .revoked ∨ state = .superseded) :
    Holds (finishUnsent queued state errorKind supersededBy) s
      (fun terminal s' => Held queue transport rest s' ∧
        FinishedAs queued state errorKind supersededBy unsentFacts terminal ∧ LeavesRoom s s')
      (fun error s' => Held queue transport rest s' ∧ LogFull s 1 error) := by
  simp only [finishUnsent, holds_do]
  exact holds_post (finishUnsentCompletion_held h hstate) (fun _ _ hc => ⟨hc.1, hc.2.2⟩)

/-- The terminals of a list of removed entries, as far as the calls got. -/
theorem finishEach_held {removed : List QueuedTransaction} (h : Held queue transport (waiting removed ++ rest) s) :
    Holds (each (fun queued => finishUnsent queued .revoked errorKind supersededBy) removed) s
      (fun terminals s' => Held queue transport rest s' ∧ ∀ terminal ∈ terminals, ∃ q ∈ removed,
        FinishedAs q .revoked errorKind supersededBy unsentFacts terminal)
      (fun error s' => Held queue transport rest s' ∧ LogFull s removed.length error) := by
  refine holds_post (holds_each (fun todo done s' => todo ⊆ removed ∧
    Held queue transport (waiting todo ++ rest) s' ∧ (∀ terminal ∈ done, ∃ q ∈ removed,
      FinishedAs q .revoked errorKind supersededBy unsentFacts terminal) ∧
    (s.events.HasRoom removed.length → s'.events.HasRoom todo.length)) ?_
    ⟨fun _ hq => hq, h, by simp, fun hroom => hroom⟩) ?_
  · rintro queued todo done s' ⟨hsub, hs, hdone, hroom⟩
    have hs : Held queue transport ((queued, .queued) :: (waiting todo ++ rest)) s' := hs
    refine holds_mono (finishUnsent_held hs (.inl rfl)) ?_ ?_
    · rintro terminal s'' ⟨hs'', hterminal, hleaves⟩
      refine ⟨fun _ hq => hsub (List.mem_cons_of_mem _ hq), hs'', ?_, fun hall => hleaves _ (hroom hall)⟩
      intro t ht
      rcases List.mem_append.mp ht with ht | ht
      · exact hdone t ht
      · exact ⟨queued, hsub List.mem_cons_self, List.mem_singleton.mp ht ▸ hterminal⟩
    rintro error s'' ⟨hs'', hevent, hfull⟩
    refine ⟨hs''.right, hevent, fun hall => hfull ?_⟩
    obtain ⟨hlatest, hdropped⟩ := hroom hall
    rw [List.length_cons] at hlatest hdropped
    exact ⟨by omega, by omega⟩
  rintro terminals s' ⟨_, hs, hall, _⟩
  exact ⟨by simpa [waiting] using hs, by simpa using hall⟩

end Finish

section Operations

variable {T : Type} [ReceiverTransport T] {s : CoordinatorState T} {now : MonotonicMs}
  {ports : Authorities} {leases : LeaseManager} {queue : BoundedTransactionQueue} {transport : T}
  {rest : List (QueuedTransaction × TransactionState)}

/-- The transport was left alone, or it was asked to write one dispatch it knew nothing of. -/
def Moved (before after : T) (dispatch : TransportDispatch) : Prop :=
  after = before ∨ (ReceiverTransport.reconcile before dispatch = .notObserved ∧
    after = (ReceiverTransport.dispatch before dispatch).2)

theorem reconcileOrDispatch_moved (transport : T) (dispatch : TransportDispatch) (declared : FrameCount) :
    Moved transport (reconcileOrDispatch transport dispatch declared).2 dispatch := by
  unfold reconcileOrDispatch
  split
  next hnone =>
    right
    refine ⟨hnone, ?_⟩
    split
    next hd => rw [hd]
    next hd => rw [hd]
  all_goals exact .inl rfl

/-- The terminal of a transaction the transport was asked about. -/
def AnsweredAs (before after : T) (queued : QueuedTransaction) (terminal : TransactionTerminal) : Prop :=
  ∃ declared, after = (reconcileOrDispatch before queued.toDispatch declared).2 ∧
    FinishedAs queued (reconcileOrDispatch before queued.toDispatch declared).1.1
      (reconcileOrDispatch before queued.toDispatch declared).1.2.1 none
      (reconcileOrDispatch before queued.toDispatch declared).1.2.2 terminal

def TakenAs (before after : T) (queued : QueuedTransaction) (terminal : TransactionTerminal) : Prop :=
  (after = before ∧ ∃ kind, FinishedAs queued .revoked (some kind) none unsentFacts terminal) ∨
    AnsweredAs before after queued terminal

variable {queued : QueuedTransaction} {terminal : TransactionTerminal} {journal : BoundedOutcomeJournal}

theorem dispatchQueued_held (h : Held queue transport ((queued, .queued) :: rest) s) :
    Holds (dispatchQueued queued now ports leases) s
      (fun completed s' => Held queue s'.transport rest s' ∧
        Moved transport s'.transport queued.toDispatch ∧
        TakenAs transport s'.transport queued completed.terminal)
      (fun error s' => (Held queue s'.transport rest s' ∧ Moved transport s'.transport queued.toDispatch) ∧
        ∃ e, error = .event e) := by
  have hopen := h.opened.recorded (queued, .queued) List.mem_cons_self
  simp only [dispatchQueued, holds_do]
  split
  next errorKind _ =>
    refine holds_mono (finishUnsentCompletion_held h (.inl rfl)) ?_ ?_
    · rintro completed s' ⟨hs, _, hfinished, _⟩
      exact ⟨hs.transport ▸ hs, .inl hs.transport, .inl ⟨hs.transport, errorKind, hfinished⟩⟩
    rintro _ s' ⟨hs, hevent, _⟩
    exact ⟨⟨hs.transport ▸ hs, .inl hs.transport⟩, hevent⟩
  obtain ⟨declared, hd⟩ := hopen.declared
  have hmachine : queuedMachine = .ok .queued := rfl
  have hsend : advance .queued .sent = .ok .sent := rfl
  obtain ⟨sent, hsent⟩ : ∃ p, progress queued .sent = .ok p := by
    simp [progress, hd, bind, Except.bind, pure, Except.pure]
  have hrec := record_sent_ok hopen hsent
  set answer := reconcileOrDispatch s.transport queued.toDispatch declared with hanswer
  have hend := reconcileOrDispatch_terminal s.transport queued.toDispatch declared
  have hadvance : advance .sent answer.1.1 = .ok answer.1.1 := by
    rcases hend with he | he | he <;> rw [hanswer, he] <;> rfl
  simp only [holds_do, hmachine, hsend, hsent, hd, reduceCtorEq, false_implies, implies_true, and_true,
    Except.ok.injEq, forall_eq', recordOutcome, hrec, ← hanswer, hadvance]
  have hmoved : Moved transport answer.2 queued.toDispatch :=
    h.transport ▸ reconcileOrDispatch_moved s.transport queued.toDispatch declared
  have hsentstate : ∀ state : CoordinatorState T, state.coordinator = { s.coordinator with
      outcomes := s.coordinator.outcomes.store queued.id s.coordinator.outcomes.order
        ⟨queued.request.clientId, queued.request.requestId, queued.requestDigest,
          .progress sent⟩ } → Held queue state.transport ((queued, .sent) :: rest) state := by
    intro state hstate
    refine ⟨hstate ▸ h.opened.send hsent, hstate ▸ h.consistent.store (by simp), ?_, rfl⟩
    rw [hstate]
    exact h.queue
  refine holds_mono (finish_held (hsentstate _ rfl) (.inr ⟨rfl, hend⟩)
    (reconcileOrDispatch_consistent s.transport queued.toDispatch declared)) ?_ ?_
  · rintro completed s' ⟨hs, _, hfinished, _⟩
    rw [← h.transport]
    rw [← h.transport] at hmoved
    exact ⟨hs.transport ▸ hs, hs.transport ▸ hmoved, .inr ⟨declared, hs.transport, hfinished⟩⟩
  rintro _ s' ⟨hs, hevent, _⟩
  exact ⟨⟨hs.transport ▸ hs, hs.transport ▸ hmoved⟩, hevent⟩

/-- What a dequeue leaves behind, returned or failed: it only takes entries out, and at most one
of those it took out reached the transport. -/
structure Dequeued (s s' : CoordinatorState T) : Prop where
  safe : CoordinatorSafe s'.coordinator
  subset : s'.coordinator.queue.pending ⊆ s.coordinator.queue.pending
  moved : s'.transport = s.transport ∨ ∃ q ∈ s.coordinator.queue.pending,
    Moved s.transport s'.transport q.toDispatch ∧ ∀ q' ∈ s'.coordinator.queue.pending, q'.id ≠ q.id

def DispatchResult.terminals (result : DispatchResult) : List TransactionTerminal :=
  result.expired ++ (result.completed.map (·.terminal)).toList

structure Answered (s s' : CoordinatorState T) (result : DispatchResult) : Prop where
  expired : ∀ terminal ∈ result.expired, ∃ q ∈ s.coordinator.queue.pending,
    FinishedAs q .revoked (some .deadlineExceeded) none unsentFacts terminal ∧
      ∀ completed, result.completed = some completed → q.id ≠ completed.terminal.transactionId
  completed : ∀ completed, result.completed = some completed →
    ∃ q ∈ s.coordinator.queue.pending, TakenAs s.transport s'.transport q completed.terminal
  idle : result.completed = none → s'.transport = s.transport
  gone : ∀ terminal ∈ result.terminals, ∀ q ∈ s'.coordinator.queue.pending, q.id ≠ terminal.transactionId

omit [ReceiverTransport T] in
theorem FinishedAs.id {state : TransactionState} {errorKind : Option ProtocolErrorKind}
    {supersededBy : Option TransactionId} {facts : TransportFailureFacts}
    (h : FinishedAs queued state errorKind supersededBy facts terminal) :
    terminal.transactionId = queued.id := by
  obtain ⟨declared, sequence, _, rfl⟩ := h
  rfl

theorem TakenAs.id {before after : T} (h : TakenAs before after queued terminal)
    : terminal.transactionId = queued.id := by
  rcases h with ⟨_, _, hfinished⟩ | ⟨_, _, hfinished⟩ <;> exact hfinished.id

theorem TakenAs.consistent {before after : T} (h : TakenAs before after queued terminal) :
    ConsistentTerminal terminal := by
  rcases h with ⟨_, kind, hfinished⟩ | ⟨declared, _, hfinished⟩
  · exact hfinished.consistent (unsent_consistent (some kind) (.inl rfl))
  · exact hfinished.consistent (reconcileOrDispatch_consistent _ _ declared)

/-- The entries a dequeue takes out and those it leaves have different transactions. -/
theorem taken_apart {taken left : List QueuedTransaction} (h : Opened journal (waiting (taken ++ left))) :
    ∀ q ∈ taken, ∀ q' ∈ left, q.id ≠ q'.id := by
  have hd := h.distinct
  rw [ids_waiting, List.map_append] at hd
  intro q hq q' hq'
  exact (List.nodup_append.mp hd).2.2 _ (List.mem_map_of_mem hq) _ (List.mem_map_of_mem hq')

theorem dispatchDecision_held {decision : DequeueDecision} (h : CoordinatorSafe s.coordinator)
    (hperm : (decision.expired ++ decision.next.toList ++ queue.pending).Perm s.coordinator.queue.pending) :
    Holds (dispatchDecision decision now ports leases)
      { s with coordinator := { s.coordinator with queue := queue } }
      (fun result s' => Dequeued s s' ∧ Answered s s' result)
      (fun error s' => Dequeued s s' ∧ ∃ e, error = .event e) := by
  have hopened : Opened s.coordinator.outcomes
      (waiting (decision.expired ++ decision.next.toList ++ queue.pending)) :=
    h.opened.perm (hperm.map (·, TransactionState.queued))
  have hleft : ∀ q ∈ queue.pending, q ∈ s.coordinator.queue.pending := fun q hq =>
    hperm.subset (List.mem_append_right _ hq)
  have hexpired : ∀ q ∈ decision.expired, q ∈ s.coordinator.queue.pending := fun q hq =>
    hperm.subset (List.mem_append_left _ (List.mem_append_left _ hq))
  have hdone : ∀ s' : CoordinatorState T, Held queue s'.transport (waiting queue.pending) s' →
      (s'.transport = s.transport ∨ ∃ q ∈ s.coordinator.queue.pending,
        Moved s.transport s'.transport q.toDispatch ∧
          ∀ q' ∈ s'.coordinator.queue.pending, q'.id ≠ q.id) → Dequeued s s' := by
    intro s' hs hmoved
    refine ⟨hs.safe, ?_, hmoved⟩
    rw [hs.queue]
    exact hleft
  have hexpiredGone : ∀ terminal, (∃ q ∈ decision.expired, FinishedAs q .revoked
      (some .deadlineExceeded) none unsentFacts terminal) →
      ∀ q' ∈ queue.pending, q'.id ≠ terminal.transactionId := by
    rintro terminal ⟨q, hq, hfinished⟩ q' hq'
    rw [hfinished.id]
    exact (taken_apart hopened q (List.mem_append_left _ hq) q' hq').symm
  have hheld : Held queue s.transport (waiting decision.expired ++
      (waiting decision.next.toList ++ waiting queue.pending))
      { s with coordinator := { s.coordinator with queue := queue } } := by
    refine ⟨?_, h.consistent, rfl, rfl⟩
    simpa [waiting] using hopened
  simp only [dispatchDecision, holds_bind]
  refine holds_mono (finishEach_held hheld) ?_ ?_
  · rintro terminals s₁ ⟨hs₁, hterminals⟩
    cases hnext : decision.next with
    | none =>
      rw [hnext] at hs₁
      refine ⟨hdone s₁ (hs₁.transport ▸ hs₁) (.inl hs₁.transport), ⟨?_, by simp, fun _ => hs₁.transport, ?_⟩⟩
      · intro terminal ht
        obtain ⟨q, hq, hfinished⟩ := hterminals terminal ht
        exact ⟨q, hexpired q hq, hfinished, by simp⟩
      intro terminal ht q' hq'
      have ht : terminal ∈ terminals := by simpa [DispatchResult.terminals] using ht
      rw [hs₁.queue] at hq'
      exact hexpiredGone terminal (hterminals terminal ht) q' hq'
    | some queued =>
      rw [hnext] at hs₁ hopened hperm
      have hq : queued ∈ s.coordinator.queue.pending :=
        hperm.subset (List.mem_append_left _ (List.mem_append_right _ (by simp)))
      have hgone : ∀ q' ∈ queue.pending, q'.id ≠ queued.id := by
        intro q' hq'
        exact (taken_apart hopened queued (by simp) q' hq').symm
      have hapart : ∀ q ∈ decision.expired, q.id ≠ queued.id := by
        intro q hqe
        rw [List.append_assoc] at hopened
        exact taken_apart hopened q hqe queued (by simp)
      have hs₁ : Held queue s.transport ((queued, .queued) :: waiting queue.pending) s₁ := hs₁
      simp only [holds_do]
      refine holds_mono (dispatchQueued_held hs₁) ?_ ?_
      · rintro completed s' ⟨hs', hmoved, htaken⟩
        refine ⟨hdone s' hs' (.inr ⟨queued, hq, hmoved, hs'.queue ▸ hgone⟩), ⟨?_, ?_, by simp, ?_⟩⟩
        · intro terminal ht
          obtain ⟨q, hqe, hfinished⟩ := hterminals terminal ht
          refine ⟨q, hexpired q hqe, hfinished, ?_⟩
          rintro _ ⟨⟩
          rw [htaken.id]
          exact hapart q hqe
        · rintro _ ⟨⟩
          exact ⟨queued, hq, htaken⟩
        intro terminal ht q' hq'
        rw [hs'.queue] at hq'
        rcases List.mem_append.mp ht with ht | ht
        · exact hexpiredGone terminal (hterminals terminal ht) q' hq'
        have ht : terminal = completed.terminal := by simpa using ht
        rw [ht, htaken.id]
        exact hgone q' hq'
      · rintro _ s' ⟨⟨hs', hmoved⟩, hevent⟩
        exact ⟨hdone s' hs' (.inr ⟨queued, hq, hmoved, hs'.queue ▸ hgone⟩), hevent⟩
  · rintro _ s' ⟨hs', hevent, _⟩
    exact ⟨hdone s' (hs'.transport ▸ hs'.right) (.inl hs'.transport), hevent⟩

theorem dispatchNext_held (h : CoordinatorSafe s.coordinator) :
    Holds (dispatchNext now ports leases) s
      (fun result s' => Dequeued s s' ∧ Answered s s' result) (fun _ s' => Dequeued s s') := by
  simp only [dispatchNext, setQueue, holds_do]
  exact holds_mono (dispatchDecision_held h (takeNext_perm _ _)) (fun _ _ hs => hs) (fun _ _ hs => hs.1)

theorem dispatchTransaction_held {id : TransactionId} (h : CoordinatorSafe s.coordinator) :
    Holds (dispatchTransaction id now ports leases) s
      (fun result s' => Dequeued s s' ∧ Answered s s' result) (fun _ s' => Dequeued s s') := by
  simp only [dispatchTransaction, setQueue, holds_do]
  have hperm := takeTransaction_perm s.coordinator.queue id now
  refine ⟨fun _ => ⟨⟨?_, h.consistent⟩, ?_, .inl rfl⟩, fun _ =>
    holds_mono (dispatchDecision_held h hperm) (fun _ _ hs => hs) (fun _ _ hs => hs.1)⟩
  · have hopened := h.opened.perm (hperm.map (·, TransactionState.queued))
    rw [List.map_append] at hopened
    exact hopened.right
  intro q hq
  exact hperm.subset (List.mem_append_right _ hq)

omit [ReceiverTransport T] in
/-- A cancelled transaction leaves the queue, and its terminal says that nothing was sent. -/
theorem cancelTransaction_held {id : TransactionId} (h : CoordinatorSafe s.coordinator) :
    Holds (cancelTransaction id) s
      (fun terminal s' => CoordinatorSafe s'.coordinator ∧ s'.transport = s.transport ∧
        s'.coordinator.queue.pending ⊆ s.coordinator.queue.pending ∧
        (∀ q ∈ s'.coordinator.queue.pending, q.id ≠ id) ∧
        ∃ q ∈ s.coordinator.queue.pending, q.id = id ∧ FinishedAs q .revoked none none unsentFacts terminal)
      (fun _ s' => CoordinatorSafe s'.coordinator ∧ s'.transport = s.transport ∧
        s'.coordinator.queue.pending ⊆ s.coordinator.queue.pending ∧
        ∀ q ∈ s'.coordinator.queue.pending, q.id ≠ id) := by
  simp only [cancelTransaction, holds_do]
  split
  next queue hrem =>
    have hnone : (s.coordinator.queue.removeTransaction id).1 = none := by rw [hrem]
    exact ⟨h, rfl, fun _ hq => hq, (BoundedTransactionQueue.removeTransaction_none hnone).1⟩
  next queued queue hrem =>
    have hsome : (s.coordinator.queue.removeTransaction id).1 = some queued := by rw [hrem]
    obtain ⟨hid, hperm⟩ := BoundedTransactionQueue.removeTransaction_some hsome
    rw [hrem] at hperm
    have hopened : Opened s.coordinator.outcomes (waiting ([queued] ++ queue.pending)) :=
      h.opened.perm (hperm.map (·, TransactionState.queued))
    have hheld : Held queue s.transport ((queued, .queued) :: waiting queue.pending)
        { s with coordinator := { s.coordinator with queue := queue } } :=
      ⟨hopened, h.consistent, rfl, rfl⟩
    have hdone : ∀ s' : CoordinatorState T, Held queue s.transport (waiting queue.pending) s' →
        CoordinatorSafe s'.coordinator ∧ s'.transport = s.transport ∧
        s'.coordinator.queue.pending ⊆ s.coordinator.queue.pending ∧
        ∀ q ∈ s'.coordinator.queue.pending, q.id ≠ id := by
      intro s' hs'
      refine ⟨hs'.safe, hs'.transport, ?_, ?_⟩
      · rw [hs'.queue]
        exact fun q hq => hperm.subset (List.mem_cons_of_mem _ hq)
      rw [hs'.queue]
      intro q hq
      have hne := taken_apart hopened queued List.mem_cons_self q hq
      rw [hid] at hne
      exact hne.symm
    simp only [setQueue, holds_do]
    refine holds_mono (finishUnsent_held hheld (.inl rfl)) ?_ (fun _ s' hs' => hdone s' hs'.1)
    rintro terminal s' ⟨hs', hfinished, _⟩
    obtain ⟨hsafe, htransport, hsubset, hgone⟩ := hdone s' hs'
    exact ⟨hsafe, htransport, hsubset, hgone, queued, hperm.subset List.mem_cons_self, hid, hfinished⟩

theorem replay_retained {clientId : ClientId} {requestId : RequestId} {digest : RequestDigest}
    {result : TransactionResult} (h : journal.replay clientId requestId digest = .retained result) :
    ∃ (id : TransactionId) (record : OutcomeRecord), journal.retained[id]? = some record ∧
      record.result = result := by
  unfold replay at h
  split at h
  next record hfind =>
    split at h
    · cases h
      obtain ⟨id, hr⟩ := mem_records.mp (List.mem_of_find?_eq_some hfind)
      exact ⟨id, record, hr, rfl⟩
    · cases h
  split at h
  · cases h
  · split at h <;> cases h

theorem Opened.replay {q : QueuedTransaction} {live : List (QueuedTransaction × TransactionState)}
    (h : Opened journal live) (hq : (q, .queued) ∈ live) :
    ∃ p, journal.replay q.request.clientId q.request.requestId q.requestDigest = .retained (.progress p) := by
  obtain ⟨p, _, hret⟩ := h.recorded (q, .queued) hq
  refine ⟨p, ?_⟩
  unfold BoundedOutcomeJournal.replay
  split
  next record hfind =>
    obtain ⟨id, hr⟩ := BoundedOutcomeJournal.mem_records.mp (List.mem_of_find?_eq_some hfind)
    have hmatch := List.find?_some hfind
    simp only [decide_eq_true_eq] at hmatch
    have hid := h.unique id q.id _ _ hr hret hmatch.1 hmatch.2
    rw [hid, hret] at hr
    cases hr
    rw [if_pos rfl]
  next hnone =>
    have hmem := BoundedOutcomeJournal.mem_records.mpr ⟨q.id, hret⟩
    simpa using List.find?_eq_none.mp hnone _ hmem

theorem ConsistentJournal.evict {journal' : BoundedOutcomeJournal} (h : ConsistentJournal journal)
    (hevict : journal.evictTerminal = .ok journal') :
    ConsistentJournal journal' := by
  intro id record terminal hr ht
  rcases (evictTerminal_spec hevict).2 id with hsame | ⟨hnone, _⟩
  · exact h id record terminal (hsame ▸ hr) ht
  rw [hnone] at hr
  cases hr

variable [CanonicalDigests]

def SubmittedAs (request : TransactionRequest) (binding : SubmissionBinding) (queued : QueuedTransaction) : Prop :=
  queued.request = request ∧ canonicalRequestDigest request = .ok queued.requestDigest ∧
    queued.sessionId = binding.sessionId ∧
    queued.authorizationEpoch = binding.authorizationEpoch ∧
    queued.dispatchNonce = binding.dispatchNonce

omit [CanonicalDigests] in
theorem admitTransaction_uncoalesced {queue queue' : BoundedTransactionQueue} {decision : QueueDecision}
    (h : queue.admitTransaction queued now = .ok (decision, queue'))
    (hclass : queued.request.transactionClass ≠ .effectFrame) :
    decision.superseded = none ∧
      queue'.pending = queue.pending ++ [{ queued with admission := decision.admission }] := by
  have hposition : queue.coalescingPosition queued = none := if_neg hclass
  unfold BoundedTransactionQueue.admitTransaction at h
  split at h
  · cases h
  split at h
  · cases h
  split at h
  next heq =>
    rw [hposition] at heq
    cases heq
  split at h
  · cases h
  · cases h; exact ⟨rfl, rfl⟩

omit [ReceiverTransport T] [CanonicalDigests] in
/-- A transaction of a class that is never coalesced joins the end of the queue or changes
nothing. -/
theorem enqueue_held {machine : TransactionState} (h : CoordinatorSafe s.coordinator)
    (hclass : queued.request.transactionClass ≠ .effectFrame)
    (hfresh : s.coordinator.outcomes.retained[queued.id]? = none) (hmachine : machine = .generationBound) :
    Holds (enqueue machine queued now) s
      (fun result s' => CoordinatorSafe s'.coordinator ∧ s'.transport = s.transport ∧
        (∃ p, result = .queued p) ∧ ∃ admission, s'.coordinator.queue.pending =
          s.coordinator.queue.pending ++ [{ queued with admission := admission }])
      (fun _ s' => CoordinatorSafe s'.coordinator ∧ s'.transport = s.transport ∧
        s'.coordinator.queue.pending = s.coordinator.queue.pending) := by
  subst hmachine
  simp only [enqueue, setQueue, holds_bind, holds_get, holds_lift, holds_modify]
  refine ⟨?_, fun _ _ => ⟨h, trivial, trivial⟩⟩
  rintro ⟨decision, queue⟩ hadmit
  obtain ⟨hvalid, _⟩ := admitTransaction_spec hadmit
  obtain ⟨hsuperseded, hpending⟩ := admitTransaction_uncoalesced hadmit hclass
  have hadvance : advance .generationBound .queued = .ok .queued := rfl
  set queued' : QueuedTransaction := { queued with admission := decision.admission }
  have hfresh : s.coordinator.outcomes.retained[queued'.id]? = none := hfresh
  obtain ⟨p, hp⟩ := progress_of_valid (show validateTransaction queued'.request = .ok () from hvalid) .queued
  simp only [hadvance, Except.ok.injEq, forall_eq', reduceCtorEq, false_implies, implies_true,
    and_true, finishSuperseded, hsuperseded, holds_pure, hp, holds_attempt,
    recordOutcome, holds_bind, holds_get, holds_lift, holds_set]
  refine ⟨fun journal hrec => ?_, fun error _ => ?_⟩
  · refine ⟨⟨?_, ?_⟩, trivial, ⟨p, rfl⟩, decision.admission, hpending⟩
    · have henrolled := h.opened.enroll hfresh hp hrec
      refine henrolled.perm ?_
      rw [hpending]
      exact (List.perm_append_singleton queued' s.coordinator.queue.pending).map (·, TransactionState.queued)
    obtain ⟨_, journal₁, hevict, rfl⟩ := record_fresh hfresh hp hrec
    exact (h.consistent.evict hevict).store (by simp)
  simp only [holds_modify, holds_throw]
  have hrest : (queue.removeTransaction queued'.id).2.pending = s.coordinator.queue.pending := by
    refine removeTransaction_fresh hpending ?_
    intro q hq heq
    obtain ⟨_, _, hret⟩ := h.opened.recorded (q, .queued) (List.mem_map_of_mem hq)
    rw [heq, hfresh] at hret
    cases hret
  exact ⟨⟨hrest ▸ h.opened, h.consistent⟩, trivial, hrest⟩

theorem submit_held {request : TransactionRequest} {binding : SubmissionBinding}
    (h : CoordinatorSafe s.coordinator) (hclass : request.transactionClass ≠ .effectFrame) :
    Holds (submit request binding now ports leases) s
      (fun result s' => CoordinatorSafe s'.coordinator ∧ s'.transport = s.transport ∧
        match result with
        | .queued _ => ∃ q, SubmittedAs request binding q ∧
            s'.coordinator.queue.pending = s.coordinator.queue.pending ++ [q]
        | .replay answer => s'.coordinator.queue.pending = s.coordinator.queue.pending ∧
            ∀ terminal, answer = .terminal terminal → ConsistentTerminal terminal)
      (fun _ s' => CoordinatorSafe s'.coordinator ∧ s'.transport = s.transport ∧
        s'.coordinator.queue.pending = s.coordinator.queue.pending) := by
  have hkeep : CoordinatorSafe s.coordinator ∧ True ∧ True := ⟨h, trivial, trivial⟩
  simp only [submit, holds_do]
  refine ⟨fun _ => hkeep, fun _ => ⟨fun digest hdigest => ?_, fun _ _ => hkeep⟩⟩
  split
  next result hreplay =>
    refine ⟨h, rfl, rfl, ?_⟩
    rintro terminal rfl
    obtain ⟨id, record, hr, hresult⟩ := replay_retained hreplay
    exact h.consistent id record terminal hr hresult
  · exact ⟨h, rfl, rfl⟩
  · exact ⟨h, rfl, rfl⟩
  simp only [holds_do]
  refine ⟨fun _ => hkeep, fun hlookup => ⟨fun machine hgates => ?_, fun _ _ => hkeep⟩⟩
  refine holds_post (enqueue_held h hclass (lookup_unknown (not_not.mp hlookup))
    (submitGates_machine hgates)) ?_
  rintro _ s' ⟨hsafe, htransport, ⟨p, rfl⟩, admission, hpending⟩
  exact ⟨hsafe, htransport, _, ⟨rfl, hdigest, rfl, rfl, rfl⟩, hpending⟩

theorem submit_waiting {q : QueuedTransaction} {binding : SubmissionBinding}
    (h : CoordinatorSafe s.coordinator) (hq : q ∈ s.coordinator.queue.pending)
    (hdigest : canonicalRequestDigest q.request = .ok q.requestDigest)
    (hsession : ports.sessions.authorizes binding.sessionId binding.authorizationEpoch) :
    ∃ p, submit q.request binding now ports leases s = .ok (.replay (.progress p)) s := by
  obtain ⟨p, hreplay⟩ := h.opened.replay (List.mem_map_of_mem hq)
  refine ⟨p, ?_⟩
  simp [submit, refuse, hsession, lift, hdigest, hreplay, bind, EStateM.bind,
    get, getThe, MonadStateOf.get, get_apply, pure, EStateM.pure]

end Operations

end HyperfluxNext
