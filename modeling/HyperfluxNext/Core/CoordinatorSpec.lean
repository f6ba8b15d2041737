import HyperfluxNext.Core.Ledger

namespace HyperfluxNext

open BoundedTransactionQueue TransactionCoordinator List Procedure

def waiting (pending : List QueuedTransaction) : List (QueuedTransaction × TransactionState) :=
  pending.map (·, .queued)

theorem ids_waiting (pending : List QueuedTransaction) : ids (waiting pending) = pending.map (·.id) := by
  simp [ids, waiting]

theorem takeNext_perm (queue : BoundedTransactionQueue) (now : MonotonicMs) :
    ((queue.takeNext now).1.expired ++ (queue.takeNext now).1.next.toList ++
      (queue.takeNext now).2.pending).Perm queue.pending := by
  have hsplit : ∀ l : List QueuedTransaction, l.head?.toList ++ l.tail = l := by
    intro l
    cases l <;> rfl
  simp only [takeNext, keep, append_assoc, hsplit]
  exact removeMatching_perm queue _

theorem takeTransaction_perm (queue : BoundedTransactionQueue) (id : TransactionId) (now : MonotonicMs) :
    ((queue.takeTransaction id now).1.expired ++ (queue.takeTransaction id now).1.next.toList ++
      (queue.takeTransaction id now).2.pending).Perm queue.pending := by
  simp only [takeTransaction, append_assoc]
  refine List.Perm.trans ?_ (removeMatching_perm queue fun transaction => transaction.request.deadlineMs ≤ now)
  refine List.Perm.append_left _ ?_
  generalize hlive : (queue.expirePending now).2 = live
  rw [show (queue.removeMatching _).2 = live from hlive]
  cases hrem : (live.removeTransaction id).1 with
  | none => rw [(removeTransaction_none hrem).2]; exact List.Perm.refl _
  | some q => exact (removeTransaction_some hrem).2

variable {journal : BoundedOutcomeJournal}

section Finish

variable {T : Type} {s : CoordinatorState T} {queued : QueuedTransaction}
  {last state : TransactionState} {errorKind : Option ProtocolErrorKind}
  {supersededBy : Option TransactionId} {rest : List (QueuedTransaction × TransactionState)} {n : Nat}

/-- What a call leaves behind once it closed transactions of the ledger: the others are live, the
queue is as given, and `n` more events fit. -/
structure Settled (queue : BoundedTransactionQueue)
    (rest : List (QueuedTransaction × TransactionState)) (n : Nat) (s : CoordinatorState T) :
    Prop where
  ledger : Ledger s.coordinator.outcomes rest
  queue : s.coordinator.queue = queue
  room : s.events.HasRoom n

theorem OpenAt.declared {state : TransactionState} (h : OpenAt journal queued state)
    : ∃ declared, declaredFrames queued = .ok declared := by
  obtain ⟨p, hp, _⟩ := h
  obtain ⟨declared, hd, _⟩ := progress_fields hp
  exact ⟨declared, hd⟩

theorem finish_spec (h : Settled s.coordinator.queue ((queued, last) :: rest) (n + 1) s)
    (hend : LegalEnd last state) (facts : TransportFailureFacts) :
    Holds (finish queued state errorKind supersededBy facts) s
      (fun _ s' => Settled s.coordinator.queue rest n s' ∧ ∀ id, id ≠ queued.id →
        s'.coordinator.outcomes.retained[id]? = s.coordinator.outcomes.retained[id]?)
      (fun _ _ => False) := by
  have hopen := h.ledger.recorded (queued, last) mem_cons_self
  obtain ⟨declared, hd⟩ := hopen.declared
  obtain ⟨event, log, hlog, hroom⟩ := BoundedEventLog.append_ok h.room
    ⟨.transactionCompleted, some queued.request.receiverId, some queued.request.generationId, none,
      some queued.request.leaseId, some queued.request.transactionId, none⟩
  have hrec := record_terminal_ok hopen hend hd errorKind supersededBy facts event.sequence
  simp only [finish, appendEvent, recordOutcome, holds_do, hd, hlog, reduceCtorEq, false_implies, implies_true,
    and_true, Except.ok.injEq, forall_eq', hrec]
  refine ⟨⟨Ledger.close h.ledger rfl, rfl, hroom⟩, ?_⟩
  intro id hne
  rw [getElem?_store, if_neg (Ne.symm hne)]

theorem finishUnsentCompletion_spec
    (h : Settled s.coordinator.queue ((queued, .queued) :: rest) (n + 1) s)
    (hstate : state = .revoked ∨ state = .superseded) :
    Holds (finishUnsentCompletion queued state errorKind supersededBy) s
      (fun _ s' => Settled s.coordinator.queue rest n s' ∧ ∀ id, id ≠ queued.id →
        s'.coordinator.outcomes.retained[id]? = s.coordinator.outcomes.retained[id]?)
      (fun _ _ => False) := by
  have hmachine : queuedMachine = .ok .queued := rfl
  have hadvance : advance .queued state = .ok state := by
    rcases hstate with rfl | rfl <;> rfl
  simp only [finishUnsentCompletion, holds_do, hmachine, hadvance, reduceCtorEq, false_implies, implies_true,
    and_true, Except.ok.injEq, forall_eq']
  exact finish_spec h (.inl ⟨rfl, hstate⟩) unsentFacts

theorem finishUnsent_spec (h : Settled s.coordinator.queue ((queued, .queued) :: rest) (n + 1) s)
    (hstate : state = .revoked ∨ state = .superseded) :
    Holds (finishUnsent queued state errorKind supersededBy) s
      (fun _ s' => Settled s.coordinator.queue rest n s' ∧ ∀ id, id ≠ queued.id →
        s'.coordinator.outcomes.retained[id]? = s.coordinator.outcomes.retained[id]?)
      (fun _ _ => False) := by
  simp only [finishUnsent, holds_do]
  exact finishUnsentCompletion_spec h hstate

theorem finishEach_spec {removed : List QueuedTransaction}
    (h : Settled s.coordinator.queue (waiting removed ++ rest) (removed.length + n) s) :
    Holds (each (fun queued => finishUnsent queued .revoked errorKind supersededBy) removed) s
      (fun _ s' => Settled s.coordinator.queue rest n s') (fun _ _ => False) := by
  refine holds_post (holds_each (fun todo _ s' =>
    Settled s.coordinator.queue (waiting todo ++ rest) (todo.length + n) s') ?_ h) ?_
  · intro queued todo _ s' hs
    have hroom : (queued :: todo).length + n = todo.length + n + 1 := by
      simp only [length_cons]
      omega
    have hs' : Settled s'.coordinator.queue ((queued, .queued) :: (waiting todo ++ rest))
        (todo.length + n + 1) s' := ⟨hs.ledger, rfl, hroom ▸ hs.room⟩
    exact holds_post (finishUnsent_spec hs' (.inl rfl)) (fun _ _ ⟨hset, _⟩ => hs.queue ▸ hset)
  intro _ _ hs
  simpa [waiting] using hs

end Finish

section Operations

variable {T : Type} [ReceiverTransport T] {s : CoordinatorState T} {now : MonotonicMs}
  {ports : Authorities} {leases : LeaseManager}
  {rest : List (QueuedTransaction × TransactionState)} {n : Nat}

theorem reconcileOrDispatch_terminal (transport : T) (dispatch : TransportDispatch) (declared : FrameCount) :
    let state := (reconcileOrDispatch transport dispatch declared).1.1
    state = .succeeded ∨ state = .failed ∨ state = .revoked := by
  have hreceipt : ∀ receipt : TransportReceipt, (classifyReceipt receipt declared).1 = .succeeded ∨
      (classifyReceipt receipt declared).1 = .failed ∨
      (classifyReceipt receipt declared).1 = .revoked := by
    intro receipt
    unfold classifyReceipt
    dsimp only
    split
    · exact .inr (.inl rfl)
    split
    · split <;> simp
    · simp
    · simp
  unfold reconcileOrDispatch
  dsimp only
  split
  · split
    · exact hreceipt _
    · exact .inr (.inl rfl)
  · exact hreceipt _
  all_goals exact .inr (.inl rfl)

variable {queued : QueuedTransaction} {queue : BoundedTransactionQueue} {id : TransactionId}
  {decision : DequeueDecision} {machine : TransactionState} {request : TransactionRequest}

theorem dispatchQueued_spec (h : Settled s.coordinator.queue ((queued, .queued) :: rest) (n + 1) s) :
    Holds (dispatchQueued queued now ports leases) s
      (fun _ s' => Settled s.coordinator.queue rest n s') (fun _ _ => False) := by
  have hopen := h.ledger.recorded (queued, .queued) mem_cons_self
  simp only [dispatchQueued, holds_do]
  split
  next errorKind _ => exact holds_post (finishUnsentCompletion_spec h (.inl rfl)) (fun _ _ hs => hs.1)
  obtain ⟨declared, hd⟩ := hopen.declared
  have hmachine : queuedMachine = .ok .queued := rfl
  have hsend : advance .queued .sent = .ok .sent := rfl
  obtain ⟨sent, hsent⟩ : ∃ p, progress queued .sent = .ok p := by
    simp [progress, hd, bind, Except.bind, pure, Except.pure]
  have hrec := record_sent_ok hopen hsent
  have hend := reconcileOrDispatch_terminal s.transport queued.toDispatch declared
  have hadvance : advance .sent
      (reconcileOrDispatch s.transport queued.toDispatch declared).1.1 = .ok
      (reconcileOrDispatch s.transport queued.toDispatch declared).1.1 := by
    rcases hend with he | he | he <;> rw [he] <;> rfl
  simp only [holds_do, hmachine, hsend, hsent, hd, reduceCtorEq, false_implies, implies_true, and_true,
    Except.ok.injEq, forall_eq', recordOutcome, hrec, hadvance]
  refine holds_post (finish_spec (?hsettled : Settled _ ((queued, .sent) :: rest) (n + 1) _)
    (.inr ⟨rfl, hend⟩) _) (fun _ _ hs => hs.1)
  exact ⟨Ledger.send h.ledger hsent, rfl, h.room⟩

theorem dispatchDecision_spec
    (h : Settled s.coordinator.queue (waiting (decision.expired ++ decision.next.toList) ++ rest)
      (decision.expired.length + decision.next.toList.length + n) s) :
    Holds (dispatchDecision decision now ports leases) s
      (fun _ s' => Settled s.coordinator.queue rest n s') (fun _ _ => False) := by
  simp only [dispatchDecision, holds_bind]
  have hsplit : waiting (decision.expired ++ decision.next.toList) ++ rest =
      waiting decision.expired ++ (waiting decision.next.toList ++ rest) := by
    simp [waiting]
  rw [hsplit, Nat.add_assoc] at h
  refine holds_post (finishEach_spec h) (fun _ s' hs => ?_)
  cases hnext : decision.next with
  | none => simpa [hnext, waiting] using hs
  | some queued =>
    have hs' : Settled s'.coordinator.queue ((queued, .queued) :: rest) (n + 1) s' := by
      refine ⟨?_, rfl, ?_⟩
      · simpa [hnext, waiting] using hs.ledger
      · simpa [hnext, Nat.add_comm] using hs.room
    simp only [holds_do]
    exact holds_post (dispatchQueued_spec hs') (fun _ _ hset => hs.queue ▸ hset)

/-- Admission keeps the other entries, less the one it replaces, and puts the new one last. -/
theorem admitTransaction_spec {queue' : BoundedTransactionQueue} {decision : QueueDecision}
    (h : queue.admitTransaction queued now = .ok (decision, queue')) :
    validateTransaction queued.request = .ok () ∧
      ∃ kept, queue'.pending = kept ++ [{ queued with admission := decision.admission }] ∧
        (decision.superseded.toList ++ kept).Perm queue.pending := by
  unfold admitTransaction at h
  split at h
  · cases h
  next hvalid =>
    refine ⟨hvalid, ?_⟩
    split at h
    · cases h
    split at h
    next position superseded hpos =>
      cases h
      obtain ⟨_, _, hpos⟩ := Option.bind_eq_some_iff.mp hpos
      obtain ⟨_, hget, heq⟩ := Option.map_eq_some_iff.mp hpos
      cases heq
      obtain ⟨hlt, rfl⟩ := List.getElem?_eq_some_iff.mp hget
      exact ⟨_, rfl, List.getElem_cons_eraseIdx_perm hlt⟩
    split at h
    · cases h
    cases h
    exact ⟨_, rfl, List.Perm.refl _⟩

theorem progress_of_valid (hvalid : validateTransaction queued.request = .ok ()) (state : TransactionState) :
    ∃ p, progress queued state = .ok p := by
  obtain ⟨hpos, hle⟩ := validateTransaction_frames hvalid
  have hu : queued.request.frames.length ≤ u16Max := by unfold u16Max; omega
  have hd : declaredFrames queued = .ok ⟨queued.request.frames.length, hpos, by omega⟩ := by
    simp [declaredFrames, hu, Bounded.tryFrom_of_mem hpos (show _ ≤ 4096 by omega)]
  simp [progress, hd, bind, Except.bind, pure, Except.pure]

/-- Taking a transaction out again that is not among the others leaves the others. -/
theorem removeTransaction_fresh {kept : List QueuedTransaction} (hpending : queue.pending = kept ++ [queued])
    (hfresh : ∀ q ∈ kept, q.id ≠ queued.id) :
    (queue.removeTransaction queued.id).2.pending = kept := by
  have hfind : queue.pending.findIdx? (·.id = queued.id) = some kept.length := by
    rw [hpending, findIdx?_append]
    have hnone : kept.findIdx? (fun q => decide (q.id = queued.id)) = none :=
      findIdx?_eq_none_iff.mpr (fun q hq => by simpa using hfresh q hq)
    simp [hnone]
  unfold removeTransaction
  rw [hfind]
  simp [keep, hpending, eraseIdx_append_of_length_le]

theorem lookup_unknown {clientId : ClientId} (h : journal.lookup clientId id = .unknown)
    : journal.retained[id]? = none := by
  unfold BoundedOutcomeJournal.lookup at h
  split at h
  · split at h <;> cases h
  next hnone => exact hnone

omit [ReceiverTransport T] in
theorem finishSuperseded_spec {decision : QueueDecision} (hfresh : s.coordinator.outcomes.retained[id]? = none)
    (h : Settled s.coordinator.queue (waiting decision.superseded.toList ++ rest)
      (decision.superseded.toList.length + n) s) :
    Holds (finishSuperseded decision id) s
      (fun _ s' => Settled s.coordinator.queue rest n s' ∧ s'.coordinator.outcomes.retained[id]? = none)
      (fun _ _ => False) := by
  unfold finishSuperseded
  cases hsup : decision.superseded with
  | none =>
    simp only [hsup, Option.toList_none, waiting, map_nil, nil_append, length_nil, Nat.zero_add] at h
    exact ⟨h, hfresh⟩
  | some superseded =>
    have h' : Settled s.coordinator.queue ((superseded, .queued) :: rest) (n + 1) s := by
      simpa [hsup, waiting, Nat.add_comm] using h
    obtain ⟨_, _, hret⟩ := h'.ledger.recorded (superseded, .queued) mem_cons_self
    have hne : id ≠ superseded.id := by
      rintro rfl
      rw [hfresh] at hret
      cases hret
    simp only [holds_do]
    refine holds_post (finishUnsent_spec h' (.inr rfl)) (fun _ s' hs => ?_)
    exact ⟨hs.1, (hs.2 id hne).trans hfresh⟩

/-- The queue and the journal agree on what is unfinished. -/
def Accounted (c : TransactionCoordinator) : Prop := Ledger c.outcomes (waiting c.queue.pending)

section
omit [ReceiverTransport T]

/-- A call that took entries out of the queue answers for them. -/
theorem Accounted.taken (h : Accounted s.coordinator) (taken : List QueuedTransaction)
    {left : List QueuedTransaction} (queue : BoundedTransactionQueue)
    (hroom : s.events.HasRoom s.coordinator.queue.pending.length)
    (hperm : (taken ++ left).Perm s.coordinator.queue.pending) :
    Settled queue (waiting taken ++ waiting left) (taken.length + left.length)
      { s with coordinator := { s.coordinator with queue := queue } } := by
  have hlen := hperm.length_eq
  rw [length_append] at hlen
  refine ⟨Ledger.perm h ?_, rfl, ?_⟩
  · simpa [waiting] using hperm.map (·, TransactionState.queued)
  rw [hlen]
  exact hroom

theorem Settled.accounted (h : Settled queue (waiting queue.pending) n s) : Accounted s.coordinator := by
  show Ledger s.coordinator.outcomes (waiting s.coordinator.queue.pending)
  rw [h.queue]
  exact h.ledger

end

omit [ReceiverTransport T] in
theorem enqueue_spec (h : Accounted s.coordinator) (hroom : s.events.HasRoom s.coordinator.queue.pending.length)
    (hfresh : s.coordinator.outcomes.retained[queued.id]? = none) (hmachine : machine = .generationBound) :
    Ensures (enqueue machine queued now) s (fun s' => Accounted s'.coordinator) := by
  subst hmachine
  simp only [enqueue, setQueue, holds_do]
  refine ⟨?_, fun _ _ => h⟩
  rintro ⟨decision, queue⟩ hadmit
  obtain ⟨hvalid, kept, hpending, hperm⟩ := admitTransaction_spec hadmit
  have hadvance : advance .generationBound .queued = .ok .queued := rfl
  simp only [hadvance, Except.ok.injEq, forall_eq', reduceCtorEq, false_implies, implies_true, and_true]
  refine holds_mono (finishSuperseded_spec hfresh (h.taken _ queue hroom hperm)) ?_ (fun _ _ he => he.elim)
  rintro _ s₁ ⟨hs₁, hfresh₁⟩
  set queued' : QueuedTransaction := { queued with admission := decision.admission }
  obtain ⟨p, hp⟩ := progress_of_valid (show validateTransaction queued'.request = .ok () from hvalid) .queued
  have hperm' : (queued' :: kept).Perm queue.pending := by
    rw [hpending]
    exact (perm_append_singleton _ _).symm
  simp only [hp, Except.ok.injEq, forall_eq', reduceCtorEq, false_implies, implies_true, and_true, holds_do,
    recordOutcome]
  refine ⟨fun journal hrec => ?_, fun error _ => ?_⟩
  · have hl : Ledger journal ((queued', .queued) :: waiting kept) := Ledger.enroll hs₁.ledger hfresh₁ hp hrec
    refine Ledger.perm hl ?_
    rw [hs₁.queue]
    exact hperm'.symm.map (·, TransactionState.queued)
  simp only [Accounted]
  refine Ledger.perm hs₁.ledger (List.Perm.map (·, TransactionState.queued) ?_)
  have hrest : (queue.removeTransaction queued'.id).2.pending = kept := by
    refine removeTransaction_fresh hpending ?_
    intro q hq heq
    obtain ⟨_, _, hret⟩ := hs₁.ledger.recorded (q, .queued) (mem_map_of_mem hq)
    rw [heq, show queued'.id = queued.id from rfl, hfresh₁] at hret
    cases hret
  rw [hs₁.queue]
  exact hrest ▸ List.Perm.refl _

theorem submitGates_machine {transport : T} (h : submitGates request now ports leases transport = .ok machine) :
    machine = .generationBound := by
  unfold submitGates at h
  obtain ⟨_, hm, h⟩ := bind_eq_ok h
  obtain ⟨_, _, h⟩ := bind_eq_ok h
  obtain ⟨_, hm, h⟩ := bind_eq_ok h
  obtain ⟨_, _, h⟩ := bind_eq_ok h
  obtain ⟨_, _, h⟩ := bind_eq_ok h
  obtain ⟨m, hm, h⟩ := bind_eq_ok h
  obtain ⟨_, _, h⟩ := bind_eq_ok h
  obtain ⟨_, _, h⟩ := bind_eq_ok h
  split at h
  · cases h
  cases h
  unfold advance at hm
  split at hm
  · cases hm; rfl
  · cases hm

theorem submit_accounted [CanonicalDigests] {binding : SubmissionBinding} (h : Accounted s.coordinator)
    (hroom : s.events.HasRoom s.coordinator.queue.pending.length) :
    Ensures (submit request binding now ports leases) s (fun s' => Accounted s'.coordinator) := by
  simp only [submit, holds_do]
  refine ⟨fun _ => h, fun _ => ⟨fun digest _ => ?_, fun _ _ => h⟩⟩
  split
  · exact h
  · exact h
  · exact h
  simp only [holds_do]
  refine ⟨fun _ => h, fun hlookup => ⟨fun machine hgates => ?_, fun _ _ => h⟩⟩
  exact enqueue_spec h hroom (lookup_unknown (not_not.mp hlookup)) (submitGates_machine hgates)

/-- The entries a dequeue takes out and those it leaves are the entries that were there. -/
theorem dispatch_accounted (h : Accounted s.coordinator)
    (hroom : s.events.HasRoom s.coordinator.queue.pending.length)
    (hperm : (decision.expired ++ decision.next.toList ++ queue.pending).Perm s.coordinator.queue.pending) :
    Ensures (dispatchDecision decision now ports leases)
      { s with coordinator := { s.coordinator with queue := queue } } (fun s' => Accounted s'.coordinator) := by
  have hsettled := h.taken _ queue hroom hperm
  rw [length_append] at hsettled
  exact holds_mono (dispatchDecision_spec hsettled) (fun _ _ hs => hs.accounted) (fun _ _ he => he.elim)

theorem dispatchNext_accounted (h : Accounted s.coordinator)
    (hroom : s.events.HasRoom s.coordinator.queue.pending.length) :
    Ensures (dispatchNext now ports leases) s (fun s' => Accounted s'.coordinator) := by
  simp only [dispatchNext, setQueue, holds_do]
  exact dispatch_accounted h hroom (takeNext_perm _ _)

/-- A targeted dispatch that names a queued transaction, or that finds nothing elapsed, finishes
every entry it takes out. -/
theorem dispatchTransaction_accounted (h : Accounted s.coordinator)
    (hroom : s.events.HasRoom s.coordinator.queue.pending.length)
    (htarget : (∃ q ∈ s.coordinator.queue.pending, q.id = id) ∨
      ∀ q ∈ s.coordinator.queue.pending, ¬ q.request.deadlineMs ≤ now) :
    Ensures (dispatchTransaction id now ports leases) s (fun s' => Accounted s'.coordinator) := by
  simp only [dispatchTransaction, setQueue, holds_do]
  have hperm := takeTransaction_perm s.coordinator.queue id now
  refine ⟨?_, fun _ => dispatch_accounted h hroom hperm⟩
  rintro ⟨hnext, hexpired⟩
  rw [hnext, Option.toList_none, append_nil] at hperm
  refine Ledger.perm h (List.Perm.map _ ?_)
  rcases htarget with ⟨q, hq, hid⟩ | hnone
  · rcases mem_append.mp (hperm.mem_iff.mpr hq) with he | hlive
    · exact absurd (any_eq_true.mpr ⟨q, he, by simpa using hid⟩) hexpired
    have hnone : ((s.coordinator.queue.expirePending now).2.removeTransaction id).1 = none := hnext
    obtain ⟨habsent, hsame⟩ := removeTransaction_none hnone
    have hlive' : q ∈ (s.coordinator.queue.expirePending now).2.pending := hsame ▸ hlive
    exact absurd hid (habsent q hlive')
  have hempty : (s.coordinator.queue.takeTransaction id now).1.expired = [] := by
    simp only [takeTransaction, expirePending, removeMatching, filter_eq_nil_iff, decide_eq_true_eq]
    exact hnone
  rw [hempty, nil_append] at hperm
  exact hperm

section
omit [ReceiverTransport T]

theorem removeMatching_accounted {p : QueuedTransaction → Bool} {errorKind : ProtocolErrorKind}
    (h : Accounted s.coordinator) (hroom : s.events.HasRoom s.coordinator.queue.pending.length) :
    Ensures (finishRemoved (s.coordinator.queue.removeMatching p).1 errorKind)
      { s with coordinator := { s.coordinator with
        queue := (s.coordinator.queue.removeMatching p).2 } } (fun s' => Accounted s'.coordinator) := by
  have hsettled := h.taken _ (s.coordinator.queue.removeMatching p).2 hroom
    (removeMatching_perm s.coordinator.queue p)
  exact holds_mono (finishEach_spec hsettled) (fun _ _ hs => hs.accounted) (fun _ _ he => he.elim)

theorem cancelTransaction_accounted (h : Accounted s.coordinator)
    (hroom : s.events.HasRoom s.coordinator.queue.pending.length) :
    Ensures (cancelTransaction id) s (fun s' => Accounted s'.coordinator) := by
  simp only [cancelTransaction, holds_do]
  split
  · exact h
  next queued queue hrem =>
    have hsome : (s.coordinator.queue.removeTransaction id).1 = some queued := by rw [hrem]
    obtain ⟨_, hperm⟩ := removeTransaction_some hsome
    rw [hrem] at hperm
    have hsettled := h.taken [queued] queue hroom hperm
    rw [length_singleton, Nat.add_comm] at hsettled
    simp only [setQueue, holds_do]
    exact holds_mono (finishUnsent_spec hsettled (.inl rfl)) (fun _ _ hs => hs.1.accounted) (fun _ _ he => he.elim)

end

end Operations

end HyperfluxNext
