import HyperfluxNext.Core.CoordinatorCapacity

namespace HyperfluxNext

open TransactionCoordinator List Procedure

variable {decision : DequeueDecision} {removed : List QueuedTransaction}

section Calls

variable {T : Type} [ReceiverTransport T] {s : CoordinatorState T} {now : MonotonicMs} {ports : Authorities}
  {leases : LeaseManager} {queue : BoundedTransactionQueue} {id : TransactionId}

theorem dispatchDecision_queue
    (hlive : ∀ queued, decision.next = some queued → now < queued.request.deadlineMs) :
    Ensures (dispatchDecision decision now ports leases) s
      (fun s' => s'.coordinator.queue = s.coordinator.queue) := by
  have hanything : ∀ entries : List QueuedTransaction, Produces T (fun _ => True) entries :=
    fun _ => ⟨by simp, by simp, by simp, by simp⟩
  simp only [dispatchDecision, holds_bind]
  refine holds_mono (finishEach_keeps (P := fun _ => True) (by simp)) ?_ (fun _ _ hs => hs.queue)
  intro _ s₁ hkept
  have hqueue := hkept.1.queue
  cases hnext : decision.next with
  | none => exact hqueue
  | some queued =>
    simp only [holds_do]
    exact holds_mono (dispatchQueued_effect (hanything [queued]) mem_cons_self (hlive queued hnext))
      (fun _ _ hs => hs.2.1.trans hqueue) (fun _ _ hs => hs.2.1.trans hqueue)

/-- What is known after a call that only takes entries out. -/
structure Drained (s s' : CoordinatorState T) : Prop where
  safe : CoordinatorSafe s'.coordinator
  capacity : s'.coordinator.queue.capacity = s.coordinator.queue.capacity

omit [ReceiverTransport T] in
/-- Entries are taken out and finished. -/
theorem finishRemoved_drained {kind : ProtocolErrorKind} (h : CoordinatorSafe s.coordinator)
    (hcapacity : queue.capacity = s.coordinator.queue.capacity)
    (hperm : (removed ++ queue.pending).Perm s.coordinator.queue.pending) :
    Holds (finishRemoved removed kind)
      { s with coordinator := { s.coordinator with queue := queue } }
      (fun _ s' => Drained s s') (fun error s' => Drained s s' ∧ error.isOutcome = false) := by
  have hopened : Opened s.coordinator.outcomes (waiting removed ++ waiting queue.pending) := by
    have hall := h.opened.perm (hperm.map (·, TransactionState.queued))
    rw [map_append] at hall
    exact hall
  have hheld : Held queue s.transport (waiting removed ++ waiting queue.pending)
      { s with coordinator := { s.coordinator with queue := queue } } :=
    ⟨hopened, h.consistent, rfl, rfl⟩
  have hdone : ∀ s' : CoordinatorState T, Held queue s.transport (waiting queue.pending) s' → Drained s s' := by
    intro s' hs'
    refine ⟨hs'.safe, ?_⟩
    rw [hs'.queue]
    exact hcapacity
  exact holds_mono (finishEach_held hheld) (fun _ s' hs => hdone s' hs.1)
    (fun _ s' hs => ⟨hdone s' hs.1, isOutcome_event hs.2.1⟩)

theorem dispatch_drained (h : CoordinatorSafe s.coordinator)
    (hcapacity : queue.capacity = s.coordinator.queue.capacity)
    (hdequeues : Dequeues decision now s.coordinator.queue queue) :
    Holds (dispatchDecision decision now ports leases)
      { s with coordinator := { s.coordinator with queue := queue } }
      (fun _ s' => Drained s s') (fun error s' => Drained s s' ∧ error.isOutcome = false) := by
  have hdone : ∀ s' : CoordinatorState T, Dequeued s s' → s'.coordinator.queue = queue → Drained s s' := by
    intro s' hs' hsame
    refine ⟨hs'.safe, ?_⟩
    rw [hsame]
    exact hcapacity
  exact holds_mono (holds_and (dispatchDecision_held h hdequeues.perm) (dispatchDecision_queue hdequeues.live))
    (fun _ s' hs => hdone s' hs.1.1 hs.2) (fun _ s' hs => ⟨hdone s' hs.1.1 hs.2, isOutcome_event hs.1.2⟩)

theorem dispatchNext_drained (h : CoordinatorSafe s.coordinator) :
    Holds (dispatchNext now ports leases) s
      (fun _ s' => Drained s s') (fun error s' => Drained s s' ∧ error.isOutcome = false) := by
  simp only [dispatchNext, setQueue, holds_do]
  exact dispatch_drained h rfl (takeNext_dequeues _ _)

theorem takeTransaction_capacity (queue : BoundedTransactionQueue) (id : TransactionId)
    (now : MonotonicMs) : (queue.takeTransaction id now).2.capacity = queue.capacity :=
  removeTransaction_capacity _ id

theorem dispatchTransaction_drained (h : CoordinatorSafe s.coordinator) :
    Holds (dispatchTransaction id now ports leases) s
      (fun _ s' => Drained s s') (fun error s' => Drained s s' ∧ error.isOutcome = false) := by
  have hcapacity := takeTransaction_capacity s.coordinator.queue id now
  have hdequeues := takeTransaction_dequeues s.coordinator.queue id now
  simp only [dispatchTransaction, setQueue, holds_do]
  refine ⟨fun _ => ⟨⟨⟨?_, h.consistent⟩, hcapacity⟩, rfl⟩, fun _ => dispatch_drained h hcapacity hdequeues⟩
  have hall := h.opened.perm (hdequeues.perm.map (·, TransactionState.queued))
  rw [map_append] at hall
  exact hall.right

omit [ReceiverTransport T] in
theorem cancelTransaction_drained (h : CoordinatorSafe s.coordinator) :
    Holds (cancelTransaction id) s
      (fun _ s' => Drained s s') (fun error s' => Drained s s' ∧ error.isOutcome = false) := by
  simp only [cancelTransaction, holds_do]
  split
  · exact ⟨⟨h, rfl⟩, rfl⟩
  next queued queue hremoved =>
    have hsome : (s.coordinator.queue.removeTransaction id).1 = some queued := by rw [hremoved]
    have hcapacity := removeTransaction_capacity s.coordinator.queue id
    obtain ⟨_, hperm⟩ := BoundedTransactionQueue.removeTransaction_some hsome
    rw [hremoved] at hperm hcapacity
    have hheld : Held queue s.transport ((queued, .queued) :: waiting queue.pending)
        { s with coordinator := { s.coordinator with queue := queue } } :=
      ⟨h.opened.perm (hperm.map (·, TransactionState.queued)), h.consistent, rfl, rfl⟩
    have hdone : ∀ s' : CoordinatorState T, Held queue s.transport (waiting queue.pending) s' →
        Drained s s' := by
      intro s' hs'
      refine ⟨hs'.safe, ?_⟩
      rw [hs'.queue]
      exact hcapacity
    simp only [setQueue, holds_do]
    exact holds_mono (finishUnsent_held hheld (.inl rfl)) (fun _ s' hs => hdone s' hs.1)
      (fun _ s' hs => ⟨hdone s' hs.1, isOutcome_event hs.2.1⟩)

end Calls

/-- The error of a call that fails. -/
def failure {T α : Type} (m : CoordinatorM T α) (s : CoordinatorState T) : Option TransactionCoordinatorError :=
  match m s with
  | .ok _ _ => none
  | .error error _ => some error

theorem holds_failure {T α : Type} {m : CoordinatorM T α} {s : CoordinatorState T}
    {Q : α → CoordinatorState T → Prop} {E : TransactionCoordinatorError → CoordinatorState T → Prop}
    {error : TransactionCoordinatorError} (h : Holds m s Q E) (hfailure : failure m s = some error) :
    ∃ s', E error s' := by
  unfold failure at hfailure
  split at hfailure
  · cases hfailure
  next failed s' hm =>
    cases hfailure
    exact ⟨s', holds_error h hm⟩

section Runs

variable {T : Type} [ReceiverTransport T] [CanonicalDigests] {c start : TransactionCoordinator} {capacity : Nat}

/-- How a call fails, if it does. -/
def CoordinatorOp.failure (op : CoordinatorOp) (s : CoordinatorState T) : Option TransactionCoordinatorError :=
  match op with
  | .submit request binding now ports leases =>
    HyperfluxNext.failure (TransactionCoordinator.submit request binding now ports leases) s
  | .dispatchNext now ports leases =>
    HyperfluxNext.failure (TransactionCoordinator.dispatchNext now ports leases) s
  | .dispatchTransaction id now ports leases =>
    HyperfluxNext.failure (TransactionCoordinator.dispatchTransaction id now ports leases) s
  | .cancelTransaction id => HyperfluxNext.failure (TransactionCoordinator.cancelTransaction id) s
  | .invalidateGeneration receiverId generationId =>
    HyperfluxNext.failure (TransactionCoordinator.invalidateGeneration receiverId generationId) s
  | .invalidateSession sessionId => HyperfluxNext.failure (TransactionCoordinator.invalidateSession sessionId) s

/-- A submission that replaces a queued frame is handed a log that takes the event of its end. -/
def SupersessionRecorded (c : TransactionCoordinator) (step : CoordinatorStep T) : Prop :=
  match step.op with
  | .submit request binding now ports leases =>
    (c.replacedFrame request binding now ports leases step.transport).isSome → step.events.TakesEvent
  | _ => True

omit [CanonicalDigests] in
theorem TransactionCoordinator.new_enrolled (h : new capacity = .ok start) : Enrolled start := by
  unfold new at h
  split at h
  · cases h
  next hrange =>
    have hrange := not_not.mp hrange
    simp only [BoundedTransactionQueue.new, BoundedOutcomeJournal.new, hrange, and_self,
      ↓reduceDIte, Except.ok.injEq] at h
    subst h
    refine ⟨⟨Opened.nil (fun _ => rfl), ?_⟩, ⟨?_, ?_⟩, rfl⟩
    · intro id record terminal hrecord
      simp at hrecord
    · intro id hretained
      simp at hretained
    · exact Nat.zero_le _

/-- What a call other than a submission leaves behind, and that it spares the journal. -/
theorem CoordinatorOp.drained {op : CoordinatorOp} {s : CoordinatorState T} (h : CoordinatorSafe s.coordinator)
    (hop : ∀ request binding now ports leases, op ≠ .submit request binding now ports leases) :
    Drained s (op.apply s) ∧ ∀ error, op.failure s = some error → error.isOutcome = false := by
  have hread : ∀ {α : Type} {m : CoordinatorM T α},
      Holds m s (fun _ s' => Drained s s') (fun error s' => Drained s s' ∧ error.isOutcome = false) →
      Drained s (final m s) ∧ ∀ error, HyperfluxNext.failure m s = some error → error.isOutcome = false := by
    intro α m hm
    refine ⟨holds_final (holds_mono hm (fun _ _ hs => hs) (fun _ _ hs => hs.1)), ?_⟩
    intro error herror
    obtain ⟨_, hfailed⟩ := holds_failure hm herror
    exact hfailed.2
  have hperm : ∀ p, ((s.coordinator.queue.removeMatching p).1 ++
      (s.coordinator.queue.removeMatching p).2.pending).Perm s.coordinator.queue.pending :=
    BoundedTransactionQueue.removeMatching_perm s.coordinator.queue
  cases op with
  | submit request binding now ports leases => exact absurd rfl (hop request binding now ports leases)
  | dispatchNext now ports leases => exact hread (dispatchNext_drained h)
  | dispatchTransaction id now ports leases => exact hread (dispatchTransaction_drained h)
  | cancelTransaction id => exact hread (cancelTransaction_drained h)
  | invalidateGeneration receiverId generationId =>
    exact hread (finishRemoved_drained h rfl (hperm fun transaction =>
      transaction.request.receiverId = receiverId ∧ transaction.request.generationId = generationId))
  | invalidateSession sessionId =>
    exact hread (finishRemoved_drained h rfl (hperm fun transaction => transaction.sessionId = sessionId))

theorem CoordinatorStep.run_enrolled {step : CoordinatorStep T} (h : Enrolled c)
    (hok : SupersessionRecorded c step) : Enrolled (step.run c) := by
  have hanything : ∀ entries : List QueuedTransaction, Produces T (fun _ => True) entries :=
    fun _ => ⟨by simp, by simp, by simp, by simp⟩
  have heffect : CoordinatorOp.Effect (fun _ => True) step.op ⟨c, step.events, step.transport⟩
      (step.op.apply ⟨c, step.events, step.transport⟩) :=
    (CoordinatorOp.apply_effect (fun entries _ => hanything entries) (by simp)).1
  obtain ⟨hindexed, hsame⟩ := heffect.1.indexed h.indexed
  by_cases hsubmit : ∃ request binding now ports leases, step.op = .submit request binding now ports leases
  · obtain ⟨request, binding, now, ports, leases, hop⟩ := hsubmit
    unfold SupersessionRecorded at hok
    rw [hop] at hok
    unfold CoordinatorStep.run CoordinatorOp.apply
    rw [hop]
    refine holds_final (P := fun s' : CoordinatorState T => Enrolled s'.coordinator)
      (holds_mono (submit_open (s := ⟨c, step.events, step.transport⟩) h hok) (fun _ _ hs => hs) ?_)
    intro _ s' hs'
    rw [hs'.coordinator]
    exact h
  have hdrained : Drained ⟨c, step.events, step.transport⟩ (step.op.apply ⟨c, step.events, step.transport⟩) :=
    (CoordinatorOp.drained h.safe (fun request binding now ports leases hop =>
      hsubmit ⟨request, binding, now, ports, leases, hop⟩)).1
  exact ⟨hdrained.safe, hindexed, hsame.trans (h.capacity.trans hdrained.capacity.symm)⟩

theorem coordinatorReach_enrolled (hnew : new capacity = .ok start)
    (hrun : CoordinatorReach (SupersessionRecorded (T := T)) start c) : Enrolled c := by
  induction hrun with
  | start => exact new_enrolled hnew
  | step _ hok ih => exact CoordinatorStep.run_enrolled ih hok

/-- A failed call leaves the queue and the journal as they were. -/
def AtomicOnError {α : Type} (m : CoordinatorM T α) (s : CoordinatorState T) : Prop :=
  ∀ error s', m s = .error error s' →
    s'.coordinator.queue = s.coordinator.queue ∧ s'.coordinator.outcomes = s.coordinator.outcomes

/-- In every run whose supersessions get their events, a submission that fails changes nothing exactly
when it replaces no queued frame or the log takes one more event. -/
theorem coordinatorReach_submitAtomic {capacity : Nat} (hnew : new capacity = .ok start)
    (hrun : CoordinatorReach (SupersessionRecorded (T := T)) start c) (request : TransactionRequest)
    (binding : SubmissionBinding) (now : MonotonicMs) (ports : Authorities) (leases : LeaseManager)
    (events : BoundedEventLog) (transport : T) :
    AtomicOnError (submit request binding now ports leases) ⟨c, events, transport⟩ ↔
      ((c.replacedFrame request binding now ports leases transport).isSome → events.TakesEvent) := by
  have henrolled := coordinatorReach_enrolled hnew hrun
  constructor
  · intro hatomic hreplaced
    by_contra hevent
    have hstuck := submit_stuck (s := ⟨c, events, transport⟩) henrolled hreplaced hevent
    cases hm : submit request binding now ports leases ⟨c, events, transport⟩ with
    | ok result s' => exact holds_ok hstuck hm
    | error error s' => exact (holds_error hstuck hm).1 (hatomic error s' hm).1
  intro hevent error s' hm
  have hfailed := holds_error (submit_open (s := ⟨c, events, transport⟩) henrolled hevent) hm
  rw [hfailed.coordinator]
  exact ⟨rfl, rfl⟩

def WaitingRecord (journal : BoundedOutcomeJournal) (queued : QueuedTransaction) : Prop :=
  ∃ (record : OutcomeRecord) (p : TransactionProgress), journal.retained[queued.id]? = some record ∧
    record.result = .progress p ∧ p.state = .queued ∧ p.admission = queued.admission ∧
    record.clientId = queued.request.clientId ∧ record.requestId = queued.request.requestId ∧
    record.requestDigest = queued.requestDigest

def NonterminalsQueued (c : TransactionCoordinator) : Prop :=
  ∀ id, (∃ record, c.outcomes.retained[id]? = some record ∧ record.result.isProgress) ↔
    ∃ q ∈ c.queue.pending, q.id = id

omit [ReceiverTransport T] [CanonicalDigests] in
/-- A queue with room leaves a slot in the journal. -/
theorem Enrolled.hasSlot (h : Enrolled c) (hqueued : NonterminalsQueued c)
    (hroom : c.queue.pending.length ≠ c.queue.capacity) : HasSlot c.outcomes := by
  by_contra hfull
  unfold HasSlot at hfull
  rw [not_or, not_not] at hfull
  obtain ⟨hsize, hnone⟩ := hfull
  have hkeys : ∀ id ∈ c.outcomes.retained.keys, id ∈ c.queue.pending.map (·.id) := by
    intro id hid
    obtain ⟨record, hrecord⟩ := Option.isSome_iff_exists.mp
      (Std.TreeMap.mem_iff_isSome_getElem?.mp (Std.TreeMap.mem_keys.mp hid))
    have hkey := h.safe.opened.keyed id record hrecord
    have hprogress : record.result.isProgress := by
      cases hresult : record.result with
      | progress _ => rfl
      | terminal _ =>
        refine absurd ⟨id, record, hrecord, ?_⟩ hnone
        rw [hresult]
        rfl
      | unavailable _ =>
        rw [hresult] at hkey
        cases hkey
    obtain ⟨q, hq, heq⟩ := (hqueued id).mp ⟨record, hrecord, hprogress⟩
    exact mem_map.mpr ⟨q, hq, heq⟩
  have hcount := (Std.TreeMap.nodup_keys (t := c.outcomes.retained)).subperm hkeys |>.length_le
  rw [Std.TreeMap.length_keys, length_map, hsize, h.capacity] at hcount
  have hbounded := c.queue.bounded
  omega

/-- In every run whose supersessions get their events the queue holds distinct transactions, within
its bound, each with its record; and where the nonterminal records are those of the queue, no call and
no finishing of a queued transaction fails on the journal. -/
theorem coordinatorReach_capacities {capacity : Nat} (hnew : TransactionCoordinator.new capacity = .ok start)
    (hrun : CoordinatorReach (SupersessionRecorded (T := T)) start c) :
    (c.queue.pending.map (·.id)).Nodup ∧ c.queue.pending.length ≤ c.queue.capacity ∧
    (∀ q ∈ c.queue.pending, WaitingRecord c.outcomes q) ∧
    (NonterminalsQueued c → ∀ (events : BoundedEventLog) (transport : T),
      (∀ (op : CoordinatorOp) error, op.failure (⟨c, events, transport⟩ : CoordinatorState T) = some error →
        error.isOutcome = false) ∧
      ∀ q ∈ c.queue.pending,
        (∀ state ∈ [TransactionState.revoked, .superseded], ∀ errorKind supersededBy error,
          failure (finishUnsent q state errorKind supersededBy)
            (⟨c, events, transport⟩ : CoordinatorState T) = some error → error.isOutcome = false) ∧
        ∀ now ports leases error,
          failure (TransactionCoordinator.dispatchQueued q now ports leases)
            (⟨c, events, transport⟩ : CoordinatorState T) = some error → error.isOutcome = false) := by
  have henrolled := coordinatorReach_enrolled hnew hrun
  have hopened := henrolled.safe.opened
  have hopen : ∀ q ∈ c.queue.pending, OpenAt c.outcomes q .queued :=
    fun q hq => hopened.recorded (q, .queued) (mem_map_of_mem hq)
  refine ⟨?_, c.queue.bounded, ?_, ?_⟩
  · have hdistinct := hopened.distinct
    rw [ids_waiting] at hdistinct
    exact hdistinct
  · intro q hq
    obtain ⟨p, hp, hrecord⟩ := hopen q hq
    obtain ⟨declared, _, heq⟩ := progress_fields hp
    subst heq
    exact ⟨_, _, hrecord, rfl, rfl, rfl, rfl, rfl, rfl⟩
  intro hqueued events transport
  constructor
  · intro op error herror
    by_cases hsubmit : ∃ request binding now ports leases, op = .submit request binding now ports leases
    · obtain ⟨request, binding, now, ports, leases, hop⟩ := hsubmit
      subst hop
      by_cases hevent : (c.replacedFrame request binding now ports leases transport).isSome → events.TakesEvent
      · obtain ⟨s', hfailed⟩ := holds_failure
          (submit_open (s := ⟨c, events, transport⟩) henrolled hevent) herror
        by_contra houtcome
        rw [Bool.not_eq_false] at houtcome
        obtain ⟨hslot, hroom⟩ := hfailed.outcome houtcome
        exact hslot (henrolled.hasSlot hqueued hroom)
      rw [Classical.not_imp] at hevent
      obtain ⟨_, hfailed⟩ := holds_failure
        (submit_stuck (s := ⟨c, events, transport⟩) henrolled hevent.1 hevent.2) herror
      exact hfailed.2
    exact (CoordinatorOp.drained (s := ⟨c, events, transport⟩) henrolled.safe
      (fun request binding now ports leases hop =>
        hsubmit ⟨request, binding, now, ports, leases, hop⟩)).2 error herror
  · intro q hq
    obtain ⟨front, back, hsplit⟩ := append_of_mem hq
    have hperm : c.queue.pending.Perm (q :: (front ++ back)) := hsplit ▸ perm_middle
    have hheld : Held c.queue transport ((q, .queued) :: waiting (front ++ back)) ⟨c, events, transport⟩ :=
      ⟨hopened.perm (hperm.symm.map (·, TransactionState.queued)), henrolled.safe.consistent, rfl, rfl⟩
    constructor
    · intro state hstate errorKind supersededBy error herror
      have hends : state = .revoked ∨ state = .superseded := by simpa using hstate
      obtain ⟨_, _, hevent, _⟩ := holds_failure (finishUnsent_held hheld hends) herror
      exact isOutcome_event hevent
    intro now ports leases error herror
    obtain ⟨_, _, hevent⟩ := holds_failure (dispatchQueued_held hheld) herror
    exact isOutcome_event hevent

end Runs

def exhaustedLog : BoundedEventLog := { sampleLog with latest := .lit u64Max }

/-- The sample effect frame under other ids. -/
def laterRequest : TransactionRequest :=
  { sampleRequest with
    requestId := .lit "later", transactionId := .lit "later" }

def sampleReplacement (events : BoundedEventLog) : CoordinatorStep FixedTransport :=
  ⟨.submit laterRequest sampleBinding (.lit 0) sampleAuthorities sampleLeases, events,
    sampleTransport⟩

theorem coordinatorReach_replaced :
    letI := sampleDigests
    CoordinatorReach (SupersessionRecorded (T := FixedTransport)) emptyCoordinator
        (sampleSubmit.run emptyCoordinator) ∧
      CoordinatorReach (SupersessionRecorded (T := FixedTransport)) emptyCoordinator
        ((sampleReplacement sampleLog).run (sampleSubmit.run emptyCoordinator)) := by
  let _ := sampleDigests
  have hfirst : CoordinatorReach (SupersessionRecorded (T := FixedTransport)) emptyCoordinator
      (sampleSubmit.run emptyCoordinator) := by
    refine .step .start ?_
    show _ → sampleLog.TakesEvent
    decide
  refine ⟨hfirst, .step hfirst ?_⟩
  show _ → sampleLog.TakesEvent
  decide

/-- A restoration replaces no frame: the full queue refuses it, whatever the log takes. -/
def refusedRequest : TransactionRequest := { laterRequest with transactionClass := .restore }

def exhaustedState : CoordinatorState FixedTransport :=
  letI := sampleDigests
  ⟨sampleSubmit.run emptyCoordinator, exhaustedLog, sampleTransport⟩

theorem coordinatorReach_submitAtomic_sample :
    letI := sampleDigests
    failure (submit refusedRequest sampleBinding (.lit 0) sampleAuthorities sampleLeases) exhaustedState =
        some (.queue .full) ∧
      AtomicOnError (submit refusedRequest sampleBinding (.lit 0) sampleAuthorities sampleLeases)
        exhaustedState := by
  let _ := sampleDigests
  have hnew : new 1 = .ok emptyCoordinator := rfl
  refine ⟨by decide +kernel, (coordinatorReach_submitAtomic hnew coordinatorReach_replaced.1
    refusedRequest sampleBinding (.lit 0) sampleAuthorities sampleLeases exhaustedLog
    sampleTransport).mpr ?_⟩
  have hreplaced : ((sampleSubmit.run emptyCoordinator).replacedFrame refusedRequest sampleBinding
      (.lit 0) sampleAuthorities sampleLeases sampleTransport).isSome = false := by
    decide +kernel
  rw [hreplaced]
  exact fun h => absurd h Bool.false_ne_true

/-- A submission that fails because the log is exhausted has already replaced the queued frame. -/
theorem coordinator_submit_not_atomic :
    letI := sampleDigests
    ¬ ∀ (c : TransactionCoordinator) (request : TransactionRequest) (binding : SubmissionBinding)
      (now : MonotonicMs) (ports : Authorities) (leases : LeaseManager) (events : BoundedEventLog)
      (transport : FixedTransport),
      CoordinatorReach (fun _ (_ : CoordinatorStep FixedTransport) => True) emptyCoordinator c →
      AtomicOnError (submit request binding now ports leases) ⟨c, events, transport⟩ := by
  let _ := sampleDigests
  intro h
  have hnew : new 1 = .ok emptyCoordinator := rfl
  have henrolled : Enrolled (sampleSubmit.run emptyCoordinator) :=
    coordinatorReach_enrolled hnew coordinatorReach_replaced.1
  have hatomic := h (sampleSubmit.run emptyCoordinator) laterRequest sampleBinding
    (.lit 0) sampleAuthorities sampleLeases exhaustedLog sampleTransport
    (.step .start trivial)
  have hreplaced : ((sampleSubmit.run emptyCoordinator).replacedFrame laterRequest sampleBinding
      (.lit 0) sampleAuthorities sampleLeases sampleTransport).isSome := by
    decide
  have hstuck := submit_stuck
    (s := ⟨sampleSubmit.run emptyCoordinator, exhaustedLog, sampleTransport⟩) henrolled hreplaced
    (by decide)
  cases hm : submit laterRequest sampleBinding (.lit 0)
      sampleAuthorities sampleLeases
      (⟨sampleSubmit.run emptyCoordinator, exhaustedLog, sampleTransport⟩ :
        CoordinatorState FixedTransport) with
  | ok result s' => exact holds_ok hstuck hm
  | error error s' => exact (holds_error hstuck hm).1 (hatomic error s' hm).1

theorem sampleLog_hasRoom (c : TransactionCoordinator) : sampleLog.HasRoom c.queue.pending.length := by
  have hbounded := c.queue.bounded
  have hrange := c.queue.inRange
  have hlatest : sampleLog.latest.get = 0 := rfl
  have hdropped : sampleLog.dropped.get = 0 := rfl
  unfold BoundedEventLog.HasRoom u64Max
  omega

theorem submit_sampleLog_accounted {c : TransactionCoordinator} (h : Accounted c) (request : TransactionRequest) :
    letI := sampleDigests
    Accounted ((⟨.submit request sampleBinding (.lit 0) sampleAuthorities sampleLeases,
      sampleLog, sampleTransport⟩ : CoordinatorStep FixedTransport).run c) := by
  let _ := sampleDigests
  exact CoordinatorStep.run_accounted h (sampleLog_hasRoom c) trivial

theorem sampleReplacement_queued :
    letI := sampleDigests
    NonterminalsQueued ((sampleReplacement sampleLog).run (sampleSubmit.run emptyCoordinator)) := by
  let _ := sampleDigests
  have hempty : new 1 = .ok emptyCoordinator := rfl
  have hnew : Accounted emptyCoordinator := new_accounted hempty
  have hfirst := submit_sampleLog_accounted hnew sampleRequest
  have hsecond := submit_sampleLog_accounted hfirst laterRequest
  exact hsecond.noTransactionLost.1

theorem coordinatorReach_capacities_sample :
    letI := sampleDigests
    let c := (sampleReplacement sampleLog).run (sampleSubmit.run emptyCoordinator)
    (∀ q ∈ c.queue.pending, WaitingRecord c.outcomes q) ∧
      ∀ (op : CoordinatorOp) error,
        op.failure (⟨c, sampleLog, sampleTransport⟩ : CoordinatorState FixedTransport) = some error →
          error.isOutcome = false := by
  let _ := sampleDigests
  have hnew : new 1 = .ok emptyCoordinator := rfl
  obtain ⟨_, _, hrecords, hspared⟩ := coordinatorReach_capacities hnew coordinatorReach_replaced.2
  exact ⟨hrecords, (hspared sampleReplacement_queued sampleLog sampleTransport).1⟩

/-- The frame that replaced another one under an exhausted log waits without a record. -/
theorem coordinator_queues_without_record :
    letI := sampleDigests
    ¬ ∀ c, CoordinatorReach (fun _ (_ : CoordinatorStep FixedTransport) => True) emptyCoordinator c →
      ∀ q ∈ c.queue.pending, WaitingRecord c.outcomes q := by
  let _ := sampleDigests
  intro h
  have hreach : CoordinatorReach (fun _ (_ : CoordinatorStep FixedTransport) => True) emptyCoordinator
      ((sampleReplacement exhaustedLog).run (sampleSubmit.run emptyCoordinator)) :=
    .step (.step .start trivial) trivial
  have hunrecorded : ∃ q ∈ ((sampleReplacement exhaustedLog).run
      (sampleSubmit.run emptyCoordinator)).queue.pending, ((sampleReplacement exhaustedLog).run
        (sampleSubmit.run emptyCoordinator)).outcomes.retained[q.id]? = none := by
    decide
  obtain ⟨q, hq, hnone⟩ := hunrecorded
  obtain ⟨record, _, hrecord, _⟩ := h _ hreach q hq
  rw [hnone] at hrecord
  cases hrecord

end HyperfluxNext
