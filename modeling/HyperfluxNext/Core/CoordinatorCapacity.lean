import HyperfluxNext.Core.CoordinatorReplay

namespace HyperfluxNext

open BoundedOutcomeJournal TransactionCoordinator

open Procedure

/-- The order lists every retained transaction, and no more records are retained than fit. -/
structure Indexed (journal : BoundedOutcomeJournal) : Prop where
  ordered : ∀ id : TransactionId, journal.retained[id]?.isSome → id ∈ journal.order
  sized : journal.retained.size ≤ journal.capacity

section Journal

variable {journal journal' : BoundedOutcomeJournal}

/-- Making room leaves a free slot and an order that still lists what is retained. -/
theorem evictTerminal_indexed (h : Indexed journal) (hevict : journal.evictTerminal = .ok journal') :
    (∀ id : TransactionId, journal'.retained[id]?.isSome → id ∈ journal'.order) ∧
      journal'.retained.size < journal'.capacity ∧ journal'.capacity = journal.capacity := by
  have hrange := journal.inRange
  unfold evictTerminal at hevict
  split at hevict
  next hfull =>
    split at hevict
    · cases hevict
    next evictedId hfind =>
      split at hevict
      · cases hevict
      next evicted hevicted =>
        cases hevict
        refine ⟨?_, ?_, rfl⟩
        · intro id hretained
          by_cases hid : evictedId = id
          · subst hid
            simp at hretained
          have hold : journal.retained[id]?.isSome := by
            simpa [Std.TreeMap.getElem?_erase, hid] using hretained
          exact (List.mem_erase_of_ne (Ne.symm hid)).mpr (h.ordered id hold)
        have hcontains : journal.retained.contains evictedId = true := by
          rw [Std.TreeMap.contains_eq_isSome_getElem?, hevicted]
          rfl
        show (journal.retained.erase evictedId).size < journal.capacity
        rw [Std.TreeMap.size_erase, if_pos hcontains]
        omega
  next hroom =>
    cases hevict
    have hsized := h.sized
    exact ⟨h.ordered, by omega, rfl⟩

variable {clientId : ClientId} {requestId : RequestId}

theorem record_indexed {result : TransactionResult} (h : Indexed journal)
    (hrecord : journal.record clientId result = .ok journal') :
    Indexed journal' ∧ journal'.capacity = journal.capacity := by
  unfold record at hrecord
  split at hrecord
  next id requestId digest _ _ _ =>
    split at hrecord
    next existing hexisting =>
      have hstored : ∀ record : OutcomeRecord, Indexed (journal.store id journal.order record) := by
        intro record
        refine ⟨?_, ?_⟩
        · intro other hretained
          rw [getElem?_store] at hretained
          split at hretained
          next heq =>
            rw [← heq]
            exact h.ordered id (by rw [hexisting]; rfl)
          · exact h.ordered other hretained
        have hin : journal.retained.contains id = true := by
          rw [Std.TreeMap.contains_eq_isSome_getElem?, hexisting]
          rfl
        show (journal.retained.insert id record).size ≤ journal.capacity
        rw [Std.TreeMap.size_insert, if_pos hin]
        exact h.sized
      split at hrecord
      · cases hrecord
      split at hrecord
      · split at hrecord
        · cases hrecord
          exact ⟨⟨h.ordered, h.sized⟩, rfl⟩
        · cases hrecord
      split at hrecord
      · cases hrecord
      cases hrecord
      exact ⟨hstored _, rfl⟩
    · split at hrecord
      · cases hrecord
      split at hrecord
      · cases hrecord
      next journal₁ hevict =>
        cases hrecord
        obtain ⟨hordered, hroom, hcapacity⟩ := evictTerminal_indexed h hevict
        refine ⟨⟨?_, ?_⟩, hcapacity⟩
        · intro other hretained
          rw [getElem?_store] at hretained
          split at hretained
          next heq =>
            rw [← heq]
            exact List.mem_append_right _ (List.mem_singleton_self id)
          · exact List.mem_append_left _ (hordered other hretained)
        show (journal₁.retained.insert id _).size ≤ journal₁.capacity
        rw [Std.TreeMap.size_insert]
        split <;> omega
  · cases hrecord

theorem Recordings.indexed {P : TransactionResult → Prop} (h : Indexed journal)
    (hrecordings : Recordings P journal journal') :
    Indexed journal' ∧ journal'.capacity = journal.capacity := by
  induction hrecordings with
  | nil => exact ⟨h, rfl⟩
  | record _ _ hrecord ih =>
    obtain ⟨hbefore, hcapacity⟩ := ih
    obtain ⟨hafter, hsame⟩ := record_indexed hbefore hrecord
    exact ⟨hafter, hsame.trans hcapacity⟩

def HasSlot (journal : BoundedOutcomeJournal) : Prop :=
  journal.retained.size ≠ journal.capacity ∨
    ∃ (id : TransactionId) (record : OutcomeRecord),
      journal.retained[id]? = some record ∧ record.result.isTerminal

theorem evictTerminal_of_slot (h : Indexed journal) (hslot : HasSlot journal) :
    ∃ journal', journal.evictTerminal = .ok journal' := by
  unfold evictTerminal
  by_cases hfull : journal.retained.size = journal.capacity
  · obtain hroom | ⟨id, record, hrecord, hterminal⟩ := hslot
    · exact absurd hfull hroom
    have hin : id ∈ journal.order := h.ordered id (by rw [hrecord]; rfl)
    rw [if_pos hfull]
    split
    next hfind =>
      have hnot := List.find?_eq_none.mp hfind id hin
      rw [hrecord] at hnot
      exact absurd hterminal hnot
    next evictedId hfind =>
      have hfound := List.find?_some hfind
      cases hevicted : journal.retained[evictedId]? with
      | none =>
        rw [hevicted] at hfound
        cases hfound
      | some evicted => exact ⟨_, rfl⟩
  · rw [if_neg hfull]
    exact ⟨journal, rfl⟩

/-- A request that the journal answers nothing about is one that it has no memory of. -/
theorem replay_unknown {digest : RequestDigest} (h : journal.replay clientId requestId digest = .unknown) :
    ¬ Remembers journal clientId requestId := by
  unfold replay at h
  split at h
  · split at h
    · cases h
    · cases h
  next hrecords =>
    split at h
    next hnotes =>
      intro hremembers
      obtain ⟨record, hrecord, hpair⟩ | ⟨note, hnote, hpair⟩ := hremembers
      · exact List.find?_eq_none.mp hrecords record hrecord (by simpa using hpair)
      · exact List.find?_eq_none.mp hnotes note hnote (by simpa using hpair)
    split at h
    · cases h
    · cases h

theorem conflicts_of_forgotten (h : ¬ Remembers journal clientId requestId) (digest : RequestDigest)
    (id : TransactionId) :
    journal.requestIdentityConflicts clientId requestId digest id = false := by
  unfold requestIdentityConflicts
  rw [Bool.or_eq_false_iff, List.any_eq_false, List.any_eq_false]
  constructor
  · intro record hrecord hclash
    have hpair := of_decide_eq_true hclash
    exact h (.inl ⟨record, hrecord, hpair.1, hpair.2.1⟩)
  intro note hnote hclash
  have hpair := of_decide_eq_true hclash
  exact h (.inr ⟨note, hnote, hpair.1, hpair.2.1⟩)

theorem forgotten_store {id : TransactionId} {existing record : OutcomeRecord} {order : List TransactionId}
    (h : ¬ Remembers journal clientId requestId) (hexisting : journal.retained[id]? = some existing)
    (hclient : record.clientId = existing.clientId) (hrequest : record.requestId = existing.requestId) :
    ¬ Remembers (journal.store id order record) clientId requestId := by
  intro hremembers
  obtain ⟨stored, hstored, hpair⟩ | hnote := hremembers
  · obtain ⟨other, hother⟩ := mem_records.mp hstored
    rw [getElem?_store] at hother
    split at hother
    · cases hother
      rw [hclient, hrequest] at hpair
      exact h (.inl ⟨existing, mem_records.mpr ⟨id, hexisting⟩, hpair⟩)
    · exact h (.inl ⟨stored, mem_records.mpr ⟨other, hother⟩, hpair⟩)
  · exact h (.inr hnote)

/-- The first progress of a request without memory finds its slot. -/
theorem record_forgotten {queued : QueuedTransaction} {p : TransactionProgress}
    (hfresh : journal.retained[queued.id]? = none)
    (hforgotten : ¬ Remembers journal queued.request.clientId queued.request.requestId)
    (hp : progress queued .queued = .ok p) :
    journal.record queued.request.clientId (.progress p) =
      match journal.evictTerminal with
      | .error error => .error error
      | .ok journal₁ => .ok (journal₁.store queued.id (journal₁.order ++ [queued.id])
          ⟨queued.request.clientId, queued.request.requestId, queued.requestDigest, .progress p⟩) := by
  obtain ⟨declared, _, heq⟩ := progress_fields hp
  subst heq
  have hclear := conflicts_of_forgotten hforgotten queued.requestDigest queued.id
  unfold record
  cases journal.evictTerminal <;>
    simp only [TransactionResult.transactionId, TransactionResult.requestId, TransactionResult.requestDigest,
      hfresh, hclear, Bool.false_eq_true, if_false]

end Journal

def BoundedEventLog.TakesEvent (log : BoundedEventLog) : Prop :=
  log.latest.get < u64Max ∧ (log.events.length = log.capacity → log.dropped.get < u64Max)

instance (log : BoundedEventLog) : Decidable log.TakesEvent := inferInstanceAs (Decidable (_ ∧ _))

theorem append_takesEvent {log : BoundedEventLog} (h : log.TakesEvent) (draft : EventDraft) :
    ∃ event log', log.append draft = .ok (event, log') := by
  unfold BoundedEventLog.append
  rw [Bounded.tryFrom_of_mem (Nat.zero_le _) (by have := h.1; omega)]
  by_cases hfull : log.events.length = log.capacity
  · have hdropped := h.2 hfull
    rw [Bounded.tryFrom_of_mem (Nat.zero_le _) (by omega)]
    simp only [hfull, ↓reduceDIte]
    exact ⟨_, _, rfl⟩
  simp only [hfull, ↓reduceDIte]
  exact ⟨_, _, rfl⟩

theorem tryFrom_succ_none {value : Nat} (h : ¬ value < u64Max) : Bounded.tryFrom 0 u64Max (value + 1) = none := by
  unfold Bounded.tryFrom
  rw [dif_neg]
  omega

theorem append_exhausted {log : BoundedEventLog} (h : ¬ log.TakesEvent) (draft : EventDraft) :
    ∃ error, log.append draft = .error error := by
  unfold BoundedEventLog.append
  by_cases hlatest : log.latest.get < u64Max
  · have hfull : log.events.length = log.capacity := by
      by_contra hroom
      exact h ⟨hlatest, fun hfull => absurd hfull hroom⟩
    have hdropped : ¬ log.dropped.get < u64Max := fun hdropped => h ⟨hlatest, fun _ => hdropped⟩
    rw [Bounded.tryFrom_of_mem (Nat.zero_le _) (by omega), tryFrom_succ_none hdropped]
    simp only [hfull, ↓reduceDIte]
    exact ⟨_, rfl⟩
  rw [tryFrom_succ_none hlatest]
  exact ⟨_, rfl⟩

/-- What holds of a coordinator after a run: queued transactions have their records, and both
bounded memories agree on their size. -/
structure Enrolled (c : TransactionCoordinator) : Prop where
  safe : CoordinatorSafe c
  indexed : Indexed c.outcomes
  capacity : c.outcomes.capacity = c.queue.capacity

namespace TransactionCoordinator

def replacedFrame {T : Type} [ReceiverTransport T] [CanonicalDigests] (c : TransactionCoordinator)
    (request : TransactionRequest) (binding : SubmissionBinding) (now : MonotonicMs)
    (ports : Authorities) (leases : LeaseManager) (transport : T) : Option QueuedTransaction :=
  match canonicalRequestDigest request with
  | .error _ => none
  | .ok digest =>
    if ports.sessions.authorizes binding.sessionId binding.authorizationEpoch ∧
        c.outcomes.replay request.clientId request.requestId digest = .unknown ∧
        c.outcomes.lookup request.clientId request.transactionId = .unknown ∧
        (submitGates request now ports leases transport).isOk then
      match c.queue.admitTransaction ⟨request, digest, binding.sessionId, binding.authorizationEpoch,
          binding.dispatchNonce, .enqueued⟩ now with
      | .error _ => none
      | .ok (decision, _) => decision.superseded
    else
      none

end TransactionCoordinator

/-- An outcome-journal failure. -/
def TransactionCoordinatorError.isOutcome : TransactionCoordinatorError → Bool
  | .outcome _ => true
  | _ => false

theorem isOutcome_event {error : TransactionCoordinatorError} (h : ∃ e, error = .event e) :
    error.isOutcome = false := by
  obtain ⟨e, rfl⟩ := h
  rfl

section Submit

variable {T : Type} {s : CoordinatorState T} {now : MonotonicMs} {machine : TransactionState}
  {queued : QueuedTransaction} {decision : QueueDecision} {queue : BoundedTransactionQueue}

/-- How an admission that fails leaves the coordinator: as it was. -/
structure Unadmitted (s s' : CoordinatorState T) (error : TransactionCoordinatorError) : Prop where
  coordinator : s'.coordinator = s.coordinator
  outcome : error.isOutcome → ¬ HasSlot s.coordinator.outcomes ∧
    s.coordinator.queue.pending.length ≠ s.coordinator.queue.capacity

theorem admitTransaction_capacity {queue queue' : BoundedTransactionQueue}
    {transaction : QueuedTransaction} {decision : QueueDecision}
    (h : queue.admitTransaction transaction now = .ok (decision, queue')) :
    queue'.capacity = queue.capacity ∧
      (decision.superseded = none → queue.pending.length ≠ queue.capacity ∧
        queue'.pending = queue.pending ++ [{ transaction with admission := decision.admission }]) := by
  unfold BoundedTransactionQueue.admitTransaction at h
  split at h
  · cases h
  split at h
  · cases h
  split at h
  · cases h
    exact ⟨rfl, fun hnone => by cases hnone⟩
  split at h
  · cases h
  next hroom =>
    cases h
    exact ⟨rfl, fun _ => ⟨hroom, rfl⟩⟩

theorem removeTransaction_capacity (queue : BoundedTransactionQueue) (id : TransactionId) :
    (queue.removeTransaction id).2.capacity = queue.capacity := by
  unfold BoundedTransactionQueue.removeTransaction
  split <;> rfl

theorem queue_ext {left right : BoundedTransactionQueue} (hcapacity : left.capacity = right.capacity)
    (hpending : left.pending = right.pending) : left = right := by
  cases left
  cases right
  cases hcapacity
  cases hpending
  rfl

section Finishing

variable {state : TransactionState} (errorKind : Option ProtocolErrorKind)
  (supersededBy : Option TransactionId)

theorem finishUnsent_runs (hopen : OpenAt s.coordinator.outcomes queued .queued)
    (hevent : s.events.TakesEvent) (hstate : state = .revoked ∨ state = .superseded) :
    ∃ declared sequence log, declaredFrames queued = .ok declared ∧
      finishUnsent queued state errorKind supersededBy s =
        .ok (terminalOf queued state errorKind supersededBy unsentFacts declared sequence)
          { s with
            events := log
            coordinator := { s.coordinator with
              outcomes := s.coordinator.outcomes.store queued.id s.coordinator.outcomes.order
                ⟨queued.request.clientId, queued.request.requestId, queued.requestDigest, .terminal
                  (terminalOf queued state errorKind supersededBy unsentFacts declared sequence)⟩ } } := by
  obtain ⟨declared, hdeclared⟩ := hopen.declared
  obtain ⟨event, log, hlog⟩ := append_takesEvent hevent
    ⟨.transactionCompleted, some queued.request.receiverId, some queued.request.generationId, none,
      some queued.request.leaseId, some queued.request.transactionId, none⟩
  have hmachine : queuedMachine = .ok .queued := rfl
  have hadvance : advance .queued state = .ok state := by
    obtain heq | heq := hstate <;> rw [heq] <;> rfl
  have hrecord := record_terminal_ok hopen (.inl ⟨rfl, hstate⟩) hdeclared errorKind supersededBy
    unsentFacts event.sequence
  refine ⟨declared, event.sequence, log, hdeclared, ?_⟩
  simp only [finishUnsent, finishUnsentCompletion, finish, appendEvent, recordOutcome, bind,
    EStateM.bind, lift, hmachine, hadvance, hdeclared, get, getThe, MonadStateOf.get, get_apply,
    hlog, set, MonadStateOf.set, set_apply, pure, EStateM.pure, hrecord]

theorem finishUnsent_stuck (hopen : OpenAt s.coordinator.outcomes queued .queued)
    (hevent : ¬ s.events.TakesEvent) (hstate : state = .revoked ∨ state = .superseded) :
    ∃ error, finishUnsent queued state errorKind supersededBy s = .error (.event error) s := by
  obtain ⟨declared, hdeclared⟩ := hopen.declared
  obtain ⟨error, hlog⟩ := append_exhausted hevent
    ⟨.transactionCompleted, some queued.request.receiverId, some queued.request.generationId, none,
      some queued.request.leaseId, some queued.request.transactionId, none⟩
  have hmachine : queuedMachine = .ok .queued := rfl
  have hadvance : advance .queued state = .ok state := by
    obtain heq | heq := hstate <;> rw [heq] <;> rfl
  refine ⟨error, ?_⟩
  simp only [finishUnsent, finishUnsentCompletion, finish, appendEvent, bind, EStateM.bind, lift,
    hmachine, hadvance, hdeclared, get, getThe, MonadStateOf.get, get_apply, hlog]

end Finishing

theorem recordLast_spec {kept : List QueuedTransaction} {p : TransactionProgress}
    (hopened : Opened s.coordinator.outcomes (waiting kept))
    (hconsistent : ConsistentJournal s.coordinator.outcomes) (hindexed : Indexed s.coordinator.outcomes)
    (hcapacity : s.coordinator.outcomes.capacity = s.coordinator.queue.capacity)
    (hpending : s.coordinator.queue.pending = kept ++ [queued])
    (hfresh : s.coordinator.outcomes.retained[queued.id]? = none)
    (hforgotten : ¬ Remembers s.coordinator.outcomes queued.request.clientId queued.request.requestId)
    (hp : progress queued .queued = .ok p) :
    Holds (recordOutcome queued.request.clientId (.progress p)) s
      (fun _ s' => Enrolled s'.coordinator)
      (fun e s' => s' = s ∧ e.isOutcome ∧ ¬ HasSlot s.coordinator.outcomes) := by
  have hrecord := record_forgotten hfresh hforgotten hp
  simp only [recordOutcome, holds_do]
  constructor
  · intro journal hjournal
    obtain ⟨hindexed', hsame⟩ := record_indexed hindexed hjournal
    refine ⟨⟨?_, ?_⟩, hindexed', hsame.trans hcapacity⟩
    · refine (hopened.enroll hfresh hp hjournal).perm ?_
      rw [hpending]
      exact (List.perm_append_singleton queued kept).map (·, TransactionState.queued)
    obtain ⟨_, journal₁, hevict, heq⟩ := record_fresh hfresh hp hjournal
    rw [heq]
    exact (hconsistent.evict hevict).store (by simp)
  intro error herror
  refine ⟨trivial, rfl, ?_⟩
  intro hslot
  obtain ⟨journal₁, hevict⟩ := evictTerminal_of_slot hindexed hslot
  rw [hrecord, hevict] at herror
  cases herror

/-- Without a superseded frame the entry joins the end of the queue, or nothing changes. -/
theorem enqueue_joins (h : Enrolled s.coordinator)
    (hfresh : s.coordinator.outcomes.retained[queued.id]? = none)
    (hforgotten : ¬ Remembers s.coordinator.outcomes queued.request.clientId queued.request.requestId)
    (hentry : s.coordinator.queue.admitTransaction queued now = .ok (decision, queue))
    (hnone : decision.superseded = none) :
    Holds (enqueue .generationBound queued now) s
      (fun _ s' => Enrolled s'.coordinator) (fun e s' => Unadmitted s s' e) := by
  obtain ⟨hvalid, _⟩ := admitTransaction_spec hentry
  obtain ⟨hcapacity, hentered⟩ := admitTransaction_capacity hentry
  obtain ⟨hroom, hpending⟩ := hentered hnone
  have hadvance : advance .generationBound .queued = .ok .queued := rfl
  simp only [enqueue, setQueue, holds_bind, holds_get, holds_lift, hentry,
    holds_modify, hadvance, Except.ok.injEq, forall_eq', reduceCtorEq, false_implies, implies_true,
    and_true, finishSuperseded, hnone, holds_pure]
  set queued' : QueuedTransaction := { queued with admission := decision.admission }
  obtain ⟨p, hp⟩ := progress_of_valid (show validateTransaction queued'.request = .ok () from hvalid) .queued
  simp only [hp, Except.ok.injEq, forall_eq', reduceCtorEq, false_implies, implies_true, and_true,
    holds_attempt]
  have hlast := recordLast_spec (s := { s with coordinator := { s.coordinator with queue := queue } })
    h.safe.opened h.safe.consistent h.indexed (h.capacity.trans hcapacity.symm) hpending hfresh
    hforgotten hp
  refine holds_mono hlast (fun _ _ hs => hs) ?_
  intro error s' hfailed
  obtain ⟨hsame, _, hslot⟩ := hfailed
  simp only [holds_bind, holds_modify, holds_throw]
  have hfreshQueue : ∀ q ∈ s.coordinator.queue.pending, q.id ≠ queued'.id := by
    intro q hq heq
    obtain ⟨_, _, hret⟩ := h.safe.opened.recorded (q, .queued) (List.mem_map_of_mem hq)
    rw [heq, show queued'.id = queued.id from rfl, hfresh] at hret
    cases hret
  have hrest := removeTransaction_fresh hpending hfreshQueue
  rw [hsame]
  refine ⟨?_, fun _ => ⟨hslot, hroom⟩⟩
  have hqueue : (queue.removeTransaction queued'.id).2 = s.coordinator.queue :=
    queue_ext ((removeTransaction_capacity _ _).trans hcapacity) hrest
  show { s.coordinator with queue := (queue.removeTransaction queued'.id).2 } = s.coordinator
  rw [hqueue]

variable {superseded : QueuedTransaction}

/-- The entries that stay when a frame is superseded. -/
theorem superseded_spec (h : Enrolled s.coordinator)
    (hentry : s.coordinator.queue.admitTransaction queued now = .ok (decision, queue))
    (hsome : decision.superseded = some superseded) :
    ∃ kept, queue.pending = kept ++ [{ queued with admission := decision.admission }] ∧
      Opened s.coordinator.outcomes ((superseded, .queued) :: waiting kept) := by
  obtain ⟨_, kept, hpending, hperm⟩ := admitTransaction_spec hentry
  rw [hsome] at hperm
  exact ⟨kept, hpending, h.safe.opened.perm (hperm.map (·, TransactionState.queued))⟩

theorem enqueue_replaces (h : Enrolled s.coordinator)
    (hfresh : s.coordinator.outcomes.retained[queued.id]? = none)
    (hforgotten : ¬ Remembers s.coordinator.outcomes queued.request.clientId queued.request.requestId)
    (hentry : s.coordinator.queue.admitTransaction queued now = .ok (decision, queue))
    (hsome : decision.superseded = some superseded) (hevent : s.events.TakesEvent) :
    Holds (enqueue .generationBound queued now) s (fun _ s' => Enrolled s'.coordinator) (fun _ _ => False) := by
  obtain ⟨hvalid, _⟩ := admitTransaction_spec hentry
  obtain ⟨hcapacity, _⟩ := admitTransaction_capacity hentry
  obtain ⟨kept, hpending, hopened⟩ := superseded_spec h hentry hsome
  have hadvance : advance .generationBound .queued = .ok .queued := rfl
  have hopen : OpenAt s.coordinator.outcomes superseded .queued :=
    hopened.recorded (superseded, .queued) List.mem_cons_self
  obtain ⟨declared, sequence, log, hdeclared, hrun⟩ := finishUnsent_runs none
    (some queued.request.transactionId)
    (s := { s with coordinator := { s.coordinator with queue := queue } }) hopen hevent
    (show TransactionState.superseded = .revoked ∨ TransactionState.superseded = .superseded from .inr rfl)
  simp only [enqueue, setQueue, holds_do, hentry, hadvance, Except.ok.injEq, forall_eq',
    reduceCtorEq, false_implies, implies_true, and_true, finishSuperseded, hsome]
  rw [holds_of_ok hrun]
  set queued' : QueuedTransaction := { queued with admission := decision.admission }
  set terminal := terminalOf superseded .superseded none (some queued.request.transactionId) unsentFacts
    declared sequence
  obtain ⟨p, hp⟩ := progress_of_valid (show validateTransaction queued'.request = .ok () from hvalid) .queued
  obtain ⟨existing, _, hexisting⟩ := hopen
  have hne : superseded.id ≠ queued'.id := by
    intro heq
    rw [heq, show queued'.id = queued.id from rfl, hfresh] at hexisting
    cases hexisting
  have hrecord := record_terminal_ok
    (hopened.recorded (superseded, .queued) List.mem_cons_self)
    (.inl ⟨rfl, .inr rfl⟩) hdeclared none (some queued.request.transactionId) unsentFacts sequence
  obtain ⟨hindexed, hsame⟩ := record_indexed h.indexed hrecord
  have hconsistent : ConsistentJournal (s.coordinator.outcomes.store superseded.id
      s.coordinator.outcomes.order ⟨superseded.request.clientId, superseded.request.requestId,
        superseded.requestDigest, .terminal terminal⟩) := by
    refine h.safe.consistent.store ?_
    intro other hother
    cases hother
    exact (unsent_consistent none (.inr rfl)).terminal superseded _ declared sequence
  have hstored : (s.coordinator.outcomes.store superseded.id s.coordinator.outcomes.order
      ⟨superseded.request.clientId, superseded.request.requestId, superseded.requestDigest,
        .terminal terminal⟩).retained[superseded.id]? = some ⟨superseded.request.clientId,
          superseded.request.requestId, superseded.requestDigest, .terminal terminal⟩ := by
    rw [getElem?_store, if_pos rfl]
  simp only [hp, Except.ok.injEq, forall_eq', reduceCtorEq, false_implies, implies_true, and_true]
  refine holds_mono (@recordLast_spec T _ queued' kept p (hopened.store rfl) hconsistent hindexed
    (hsame.trans (h.capacity.trans hcapacity.symm)) hpending ?_
    (forgotten_store hforgotten hexisting rfl rfl) hp) (fun _ _ hs => hs) ?_
  · rw [getElem?_store, if_neg hne]
    exact hfresh
  intro error s' hfailed
  exact absurd (.inr ⟨superseded.id, _, hstored, rfl⟩) hfailed.2.2

/-- A frame that cannot get its event has lost its place, and the new entry keeps it. -/
theorem enqueue_stuck (h : Enrolled s.coordinator)
    (hentry : s.coordinator.queue.admitTransaction queued now = .ok (decision, queue))
    (hsome : decision.superseded = some superseded) (hevent : ¬ s.events.TakesEvent) :
    Holds (enqueue .generationBound queued now) s (fun _ _ => False)
      (fun e s' => s'.coordinator.queue = queue ∧ e.isOutcome = false) := by
  obtain ⟨kept, hpending, hopened⟩ := superseded_spec h hentry hsome
  have hadvance : advance .generationBound .queued = .ok .queued := rfl
  have hopen : OpenAt s.coordinator.outcomes superseded .queued :=
    hopened.recorded (superseded, .queued) List.mem_cons_self
  obtain ⟨error, hstuck⟩ := finishUnsent_stuck none (some queued.request.transactionId)
    (s := { s with coordinator := { s.coordinator with queue := queue } }) hopen hevent
    (show TransactionState.superseded = .revoked ∨ TransactionState.superseded = .superseded from .inr rfl)
  simp only [enqueue, setQueue, holds_do, hentry, hadvance, Except.ok.injEq, forall_eq',
    reduceCtorEq, false_implies, implies_true, and_true, finishSuperseded, hsome]
  rw [holds_of_error hstuck]
  exact ⟨rfl, rfl⟩

variable [ReceiverTransport T] {request : TransactionRequest} {binding : SubmissionBinding}
  {ports : Authorities} {leases : LeaseManager}

theorem submitGates_error {transport : T} {error : TransactionCoordinatorError}
    (h : submitGates request now ports leases transport = .error error) :
    error.isOutcome = false := by
  have hvalidated : advance .created .validated = .ok .validated := rfl
  have howned : advance .validated .ownershipBound = .ok .ownershipBound := rfl
  have hbound : advance .ownershipBound .generationBound = .ok .generationBound := rfl
  simp only [submitGates, hvalidated, howned, hbound, Except.mapError, reject, bind, Except.bind] at h
  repeat' split at h
  all_goals first
    | (cases h; done)
    | (cases h; rfl)
    | (rename_i hcheck; split at hcheck <;> cases hcheck; cases h; rfl)

variable [CanonicalDigests]

/-- A submission that passes every check up to the queue. -/
theorem replacedFrame_eq {digest : RequestDigest} {machine : TransactionState}
    (hsession : ports.sessions.authorizes binding.sessionId binding.authorizationEpoch)
    (hdigest : canonicalRequestDigest request = .ok digest)
    (hreplay : s.coordinator.outcomes.replay request.clientId request.requestId digest = .unknown)
    (hlookup : s.coordinator.outcomes.lookup request.clientId request.transactionId = .unknown)
    (hgates : submitGates request now ports leases s.transport = .ok machine)
    (hentry : s.coordinator.queue.admitTransaction ⟨request, digest, binding.sessionId,
      binding.authorizationEpoch, binding.dispatchNonce, .enqueued⟩ now = .ok (decision, queue)) :
    s.coordinator.replacedFrame request binding now ports leases s.transport = decision.superseded := by
  have hok : (submitGates request now ports leases s.transport).isOk := by
    rw [hgates]
    rfl
  unfold replacedFrame
  simp only [hdigest]
  rw [if_pos ⟨hsession, hreplay, hlookup, hok⟩, hentry]

/-- A submission whose supersession, if any, gets its event either goes through or changes nothing. -/
theorem submit_open (h : Enrolled s.coordinator)
    (hevent : (s.coordinator.replacedFrame request binding now ports leases s.transport).isSome →
      s.events.TakesEvent) :
    Holds (submit request binding now ports leases) s
      (fun _ s' => Enrolled s'.coordinator) (fun e s' => Unadmitted s s' e) := by
  have hkeep : ∀ {error : TransactionCoordinatorError}, error.isOutcome = false → Unadmitted s s error := by
    intro error hnot
    refine ⟨rfl, ?_⟩
    intro hyes
    rw [hnot] at hyes
    cases hyes
  simp only [submit, holds_do]
  refine ⟨fun _ => hkeep rfl, fun hsession => ⟨fun digest hdigest => ?_, fun _ _ => hkeep rfl⟩⟩
  split
  · exact h
  · exact hkeep rfl
  · exact hkeep rfl
  next hreplay =>
    simp only [holds_do]
    refine ⟨fun _ => hkeep rfl, fun hlookup => ⟨fun machine hgates => ?_, fun error herror =>
      hkeep (submitGates_error herror)⟩⟩
    have hlookup := not_not.mp hlookup
    have hfresh := lookup_unknown hlookup
    have hforgotten := replay_unknown hreplay
    rw [submitGates_machine hgates]
    cases hentry : s.coordinator.queue.admitTransaction ⟨request, digest, binding.sessionId,
        binding.authorizationEpoch, binding.dispatchNonce, .enqueued⟩ now with
    | error refused =>
      simp only [enqueue, holds_do, hentry]
      exact ⟨fun _ hno => (by cases hno), fun _ _ => hkeep rfl⟩
    | ok admitted =>
      obtain ⟨decision, queue⟩ := admitted
      have hreplaced := replacedFrame_eq (not_not.mp hsession) hdigest hreplay hlookup hgates hentry
      cases hsuperseded : decision.superseded with
      | none => exact enqueue_joins h hfresh hforgotten hentry hsuperseded
      | some superseded =>
        rw [hreplaced, hsuperseded] at hevent
        exact holds_mono (enqueue_replaces h hfresh hforgotten hentry hsuperseded (hevent rfl))
          (fun _ _ hs => hs) (fun _ _ hno => hno.elim)

/-- A submission whose supersession gets no event fails with the queue changed. -/
theorem submit_stuck (h : Enrolled s.coordinator)
    (hreplaced : (s.coordinator.replacedFrame request binding now ports leases s.transport).isSome)
    (hevent : ¬ s.events.TakesEvent) :
    Holds (submit request binding now ports leases) s (fun _ _ => False)
      (fun e s' => s'.coordinator.queue ≠ s.coordinator.queue ∧ e.isOutcome = false) := by
  cases hdigest : canonicalRequestDigest request with
  | error invalid => simp [replacedFrame, hdigest] at hreplaced
  | ok digest =>
    simp only [replacedFrame, hdigest] at hreplaced
    split at hreplaced
    next hpassed =>
      obtain ⟨hsession, hreplay, hlookup, hok⟩ := hpassed
      split at hreplaced
      · cases hreplaced
      next decision queue hentry =>
        obtain ⟨superseded, hsuperseded⟩ := Option.isSome_iff_exists.mp hreplaced
        obtain ⟨machine, hgates⟩ : ∃ machine, submitGates request now ports leases
            s.transport = .ok machine := by
          cases hgates : submitGates request now ports leases s.transport with
          | error _ =>
            rw [hgates] at hok
            cases hok
          | ok machine => exact ⟨machine, rfl⟩
        have hmachine := submitGates_machine hgates
        obtain ⟨kept, hpending, _⟩ := superseded_spec h hentry hsuperseded
        simp only [submit, holds_do, hsession, hdigest, hreplay, hlookup, hgates,
          not_true_eq_false, false_implies, true_implies, ne_eq, not_false_eq_true, Except.ok.injEq, forall_eq',
          reduceCtorEq, implies_true, and_true, true_and, hmachine]
        refine holds_mono (enqueue_stuck h hentry hsuperseded hevent) (fun _ _ hno => hno) ?_
        intro _ s' hfailed
        obtain ⟨hqueue, hkind⟩ := hfailed
        refine ⟨?_, hkind⟩
        intro hsame
        have hlast : (⟨request, digest, binding.sessionId, binding.authorizationEpoch,
            binding.dispatchNonce, decision.admission⟩ : QueuedTransaction) ∈ s.coordinator.queue.pending := by
          rw [← hsame, hqueue, hpending]
          exact List.mem_append_right _ List.mem_cons_self
        obtain ⟨_, _, hret⟩ := h.safe.opened.recorded _ (List.mem_map_of_mem hlast)
        rw [show QueuedTransaction.id _ = request.transactionId from rfl, lookup_unknown hlookup] at hret
        cases hret
    · cases hreplaced

end Submit

end HyperfluxNext
