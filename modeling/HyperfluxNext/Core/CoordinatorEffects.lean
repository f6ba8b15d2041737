import Mathlib.Data.Multiset.AddSub
import HyperfluxNext.Core.CoordinatorSafety

namespace HyperfluxNext

open ReceiverTransport TransactionCoordinator BoundedTransactionQueue List Procedure

/-- The journal after some more results were taken in, each of them with the property `P`. -/
inductive Recordings (P : TransactionResult → Prop) (journal : BoundedOutcomeJournal) :
    BoundedOutcomeJournal → Prop
  | nil : Recordings P journal journal
  | record {before after : BoundedOutcomeJournal} {clientId : ClientId} {result : TransactionResult}
      (h : Recordings P journal before) (hresult : P result)
      (hrecord : before.record clientId result = .ok after) : Recordings P journal after

theorem Recordings.trans {P : TransactionResult → Prop} {first second third : BoundedOutcomeJournal}
    (h : Recordings P first second) (h' : Recordings P second third) : Recordings P first third := by
  induction h' with
  | nil => exact h
  | record _ hresult hrecord ih => exact .record ih hresult hrecord

variable {journal journal' : BoundedOutcomeJournal} {id : TransactionId} {clientId : ClientId}
  {result : TransactionResult}

theorem Recordings.mono {P Q : TransactionResult → Prop} (h : Recordings P journal journal')
    (himp : ∀ result, P result → Q result) :
    Recordings Q journal journal' := by
  induction h with
  | nil => exact .nil
  | record _ hresult hrecord ih => exact .record ih (himp _ hresult) hrecord

theorem record_retains (h : journal.record clientId result = .ok journal')
    (hid : result.transactionId = some id) :
    journal'.retained[id]?.isSome := by
  unfold BoundedOutcomeJournal.record at h
  split at h
  next transactionId _ _ htransaction _ _ =>
    obtain rfl : transactionId = id := by simpa [hid] using htransaction.symm
    split at h
    next existing hexisting =>
      split at h
      · cases h
      split at h
      · split at h
        · cases h
          rw [hexisting]
          rfl
        · cases h
      split at h
      · cases h
      cases h
      rw [getElem?_store, if_pos rfl]
      rfl
    split at h
    · cases h
    split at h
    · cases h
    cases h
    rw [getElem?_store, if_pos rfl]
    rfl
  · cases h

theorem Recordings.retains (h : Recordings (fun result => result.transactionId = some id) journal journal')
    (hretained : journal.retained[id]?.isSome) : journal'.retained[id]?.isSome := by
  cases h with
  | nil => exact hretained
  | record _ hresult hrecord => exact record_retains hrecord hresult

/-- The state inside a call that has only written to the journal and to the event log so far. -/
structure Keeps {T : Type} (P : TransactionResult → Prop) (s s' : CoordinatorState T) : Prop where
  recorded : Recordings P s.coordinator.outcomes s'.coordinator.outcomes
  queue : s'.coordinator.queue = s.coordinator.queue
  transport : s'.transport = s.transport

section Keeping

variable {T : Type} {P : TransactionResult → Prop} {s s' s'' : CoordinatorState T}

theorem Keeps.refl : Keeps P s s := ⟨.nil, rfl, rfl⟩

theorem Keeps.trans (h : Keeps P s s') (h' : Keeps P s' s'') : Keeps P s s'' :=
  ⟨h.recorded.trans h'.recorded, h'.queue.trans h.queue, h'.transport.trans h.transport⟩

theorem recordOutcome_keeps (h : P result) :
    Ensures (recordOutcome clientId result) s (Keeps P s) := by
  simp only [recordOutcome, holds_do]
  refine ⟨fun journal hrecord => ?_, fun _ _ => Keeps.refl⟩
  exact ⟨.record .nil h hrecord, rfl, rfl⟩

theorem recordOutcome_retains (hid : result.transactionId = some id) :
    Holds (recordOutcome clientId result) s
      (fun _ s' => s'.coordinator.outcomes.retained[id]?.isSome) (fun _ _ => True) := by
  simp only [recordOutcome, holds_do]
  exact ⟨fun _ hrecord => record_retains hrecord hid, fun _ _ => trivial⟩

variable {queued : QueuedTransaction} {state : TransactionState}
  {errorKind : Option ProtocolErrorKind} {supersededBy : Option TransactionId}
  {facts : TransportFailureFacts}

theorem finish_keeps
    (h : ∀ terminal, FinishedAs queued state errorKind supersededBy facts terminal → P (.terminal terminal)) :
    Holds (finish queued state errorKind supersededBy facts) s
      (fun completed s' => Keeps P s s' ∧
        FinishedAs queued state errorKind supersededBy facts completed.terminal)
      (fun _ s' => Keeps P s s') := by
  simp only [finish, appendEvent, holds_do]
  refine ⟨fun declared hdeclared => ⟨?_, fun _ _ => Keeps.refl⟩, fun _ _ => Keeps.refl⟩
  rintro ⟨event, log⟩ _
  have hfinished : FinishedAs queued state errorKind supersededBy facts
      (terminalOf queued state errorKind supersededBy facts declared event.sequence) :=
    ⟨declared, event.sequence, hdeclared, rfl⟩
  have hlogged : Keeps P s { s with events := log } := ⟨.nil, rfl, rfl⟩
  refine holds_mono (recordOutcome_keeps (h _ hfinished)) (fun _ s' hs => ?_) (fun _ _ hs => hlogged.trans hs)
  exact ⟨hlogged.trans hs, hfinished⟩

theorem finishUnsentCompletion_keeps
    (h : ∀ terminal, FinishedAs queued state errorKind supersededBy unsentFacts terminal →
      P (.terminal terminal)) :
    Holds (finishUnsentCompletion queued state errorKind supersededBy) s
      (fun completed s' => Keeps P s s' ∧
        FinishedAs queued state errorKind supersededBy unsentFacts completed.terminal)
      (fun _ s' => Keeps P s s') := by
  simp only [finishUnsentCompletion, holds_do]
  refine ⟨fun _ _ => ⟨fun _ _ => finish_keeps h, fun _ _ => Keeps.refl⟩, fun _ _ => Keeps.refl⟩

theorem finishUnsent_keeps
    (h : ∀ terminal, FinishedAs queued state errorKind supersededBy unsentFacts terminal →
      P (.terminal terminal)) :
    Holds (finishUnsent queued state errorKind supersededBy) s
      (fun terminal s' => Keeps P s s' ∧ FinishedAs queued state errorKind supersededBy unsentFacts terminal)
      (fun _ s' => Keeps P s s') := by
  simp only [finishUnsent, holds_do]
  exact finishUnsentCompletion_keeps h

theorem finishEach_keeps {removed : List QueuedTransaction}
    (h : ∀ queued ∈ removed, ∀ terminal,
      FinishedAs queued .revoked errorKind none unsentFacts terminal → P (.terminal terminal)) :
    Holds (each (fun queued => finishUnsent queued .revoked errorKind none) removed) s
      (fun terminals s' => Keeps P s s' ∧ ∀ terminal ∈ terminals, P (.terminal terminal))
      (fun _ s' => Keeps P s s') := by
  refine holds_post (holds_each (fun todo done s' => todo ⊆ removed ∧ Keeps P s s' ∧
    ∀ terminal ∈ done, P (.terminal terminal)) ?_ ⟨fun _ hq => hq, Keeps.refl, by simp⟩)
    (fun _ _ hdone => hdone.2)
  intro queued todo done s' hstep
  obtain ⟨hsub, hs, hdone⟩ := hstep
  have hqueued := h queued (hsub mem_cons_self)
  refine holds_mono (finishUnsent_keeps hqueued) ?_ (fun _ _ hs' => hs.trans hs')
  intro terminal s'' hfinished
  refine ⟨fun _ hq => hsub (mem_cons_of_mem _ hq), hs.trans hfinished.1, ?_⟩
  intro t ht
  rcases mem_append.mp ht with ht | ht
  · exact hdone t ht
  rw [mem_singleton.mp ht]
  exact hqueued terminal hfinished.2

end Keeping

/-- Everything that is required of a write at the instant it is made. -/
structure WriteAuthorized {T : Type} [ReceiverTransport T] (queued : QueuedTransaction)
    (now : MonotonicMs) (ports : Authorities) (leases : LeaseManager) (transport : T) : Prop where
  session : ports.sessions.authorizes queued.sessionId queued.authorizationEpoch = true
  lease : ∃ grant, leases.leases[queued.request.leaseId]? = some grant ∧
    grant.clientId = queued.request.clientId ∧ now < grant.expiresAtMs ∧
      ∀ resource ∈ queued.request.resources, resource ∈ grant.resources
  generation : currentGeneration transport queued.request.receiverId = some queued.request.generationId
  available : writeAvailable transport queued.request.receiverId queued.request.generationId = true
  supported : ∀ resource ∈ queued.request.resources, ports.profiles.supports resource = true
  profiles : profilesMatch queued.request ports.profiles = true
  ready : ∀ resource ∈ queued.request.resources, ports.devices.writeReadiness resource = .ready
  deadline : now < queued.request.deadlineMs
  unobserved : reconcile transport queued.toDispatch = .notObserved

theorem LeaseManager.owns_iff {leases : LeaseManager} {leaseId : LeaseId} {resources : List ResourceKey}
    {now : MonotonicMs} :
    leases.owns clientId leaseId resources now = true ↔
      ∃ grant, leases.leases[leaseId]? = some grant ∧ grant.clientId = clientId ∧
        now < grant.expiresAtMs ∧ ∀ resource ∈ resources, resource ∈ grant.resources := by
  unfold LeaseManager.owns
  split
  next hnone =>
    constructor
    · intro hfalse
      cases hfalse
    rintro ⟨grant, hgrant, _⟩
    rw [hnone] at hgrant
    cases hgrant
  next grant hgrant =>
    simp only [decide_eq_true_eq]
    constructor
    · intro h
      exact ⟨grant, hgrant, h.1, h.2.1, h.2.2⟩
    rintro ⟨grant', hgrant', h⟩
    rw [hgrant] at hgrant'
    cases hgrant'
    exact h

section Dispatching

variable {T : Type} [ReceiverTransport T] {P : TransactionResult → Prop} {s s' : CoordinatorState T}
  {now : MonotonicMs} {ports : Authorities} {leases : LeaseManager} {queued : QueuedTransaction}

theorem dispatchPreflight_none {transport : T} (h : dispatchPreflight queued now ports leases transport = none)
    (hdeadline : now < queued.request.deadlineMs)
    (hunobserved : reconcile transport queued.toDispatch = .notObserved) :
    WriteAuthorized queued now ports leases transport := by
  unfold dispatchPreflight at h
  dsimp only at h
  split at h
  · cases h
  next hauthority =>
    simp only [not_or, not_not] at hauthority
    split at h
    · cases h
    next hgeneration =>
      split at h
      · cases h
      next havailable =>
        split at h
        · cases h
        next hsupports =>
          split at h
          · cases h
          next hprofiles =>
            split at h
            · cases h
            next hready =>
              refine ⟨hauthority.1, LeaseManager.owns_iff.mp hauthority.2, not_not.mp hgeneration,
                not_not.mp havailable, ?_, not_not.mp hprofiles, ?_, hdeadline, hunobserved⟩
              · exact all_eq_true.mp (not_not.mp hsupports)
              intro resource hresource
              by_contra hne
              apply hready
              unfold firstUnready
              rw [findSome?_isSome_iff]
              exact ⟨resource, hresource, by simp [hne]⟩

/-- What the write of one dequeued transaction did: the transport was left alone, or it was asked
to write with everything in place, and the journal has the transaction. -/
def WritesOnce (queued : QueuedTransaction) (now : MonotonicMs) (ports : Authorities)
    (leases : LeaseManager) (before : T) (s' : CoordinatorState T) : Prop :=
  s'.transport = before ∨ (WriteAuthorized queued now ports leases before ∧
    s'.transport = (dispatch before queued.toDispatch).2 ∧
    s'.coordinator.outcomes.retained[queued.id]?.isSome)

/-- `P` holds of every result the coordinator makes for one of these entries, a cancellation
apart. -/
structure Produces (T : Type) [ReceiverTransport T] (P : TransactionResult → Prop)
    (entries : List QueuedTransaction) : Prop where
  refused : ∀ queued ∈ entries, ∀ kind terminal,
    FinishedAs queued .revoked (some kind) none unsentFacts terminal → P (.terminal terminal)
  replaced : ∀ queued ∈ entries, ∀ successor terminal,
    FinishedAs queued .superseded none (some successor) unsentFacts terminal → P (.terminal terminal)
  progressed : ∀ queued ∈ entries, ∀ state p, state = .queued ∨ state = .sent →
    progress queued state = .ok p → P (.progress p)
  answered : ∀ queued ∈ entries, ∀ (transport : T) (declared : FrameCount) (terminal : TransactionTerminal),
    declaredFrames queued = .ok declared →
    FinishedAs queued (reconcileOrDispatch transport queued.toDispatch declared).1.1
      (reconcileOrDispatch transport queued.toDispatch declared).1.2.1 none
      (reconcileOrDispatch transport queued.toDispatch declared).1.2.2 terminal →
    P (.terminal terminal)

theorem dispatchQueued_effect {entries : List QueuedTransaction} (hproduces : Produces T P entries)
    (hqueued : queued ∈ entries) (hdeadline : now < queued.request.deadlineMs) :
    Holds (dispatchQueued queued now ports leases) s
      (fun completed s' => Recordings P s.coordinator.outcomes s'.coordinator.outcomes ∧
        s'.coordinator.queue = s.coordinator.queue ∧
        WritesOnce queued now ports leases s.transport s' ∧ P (.terminal completed.terminal))
      (fun _ s' => Recordings P s.coordinator.outcomes s'.coordinator.outcomes ∧
        s'.coordinator.queue = s.coordinator.queue ∧
        WritesOnce queued now ports leases s.transport s') := by
  have hkeep : ∀ s' : CoordinatorState T, Keeps P s s' →
      Recordings P s.coordinator.outcomes s'.coordinator.outcomes ∧
        s'.coordinator.queue = s.coordinator.queue ∧
        WritesOnce queued now ports leases s.transport s' :=
    fun s' hs => ⟨hs.recorded, hs.queue, .inl hs.transport⟩
  simp only [dispatchQueued, holds_bind, holds_get]
  split
  next kind _ =>
    have hrefused := hproduces.refused queued hqueued kind
    refine holds_mono (finishUnsentCompletion_keeps hrefused) ?_ (fun _ s' hs => hkeep s' hs)
    intro completed s' hfinished
    obtain ⟨hrecorded, hqueue, hwrites⟩ := hkeep s' hfinished.1
    exact ⟨hrecorded, hqueue, hwrites, hrefused _ hfinished.2⟩
  next hpreflight =>
    simp only [holds_bind, holds_lift]
    have hsame := hkeep s Keeps.refl
    refine ⟨fun _ _ => ⟨fun _ _ => ⟨fun sent hsent => ?_, fun _ _ => ⟨hsame.1, trivial, hsame.2.2⟩⟩,
      fun _ _ => ⟨hsame.1, trivial, hsame.2.2⟩⟩, fun _ _ => ⟨hsame.1, trivial, hsame.2.2⟩⟩
    have hprogressed := hproduces.progressed queued hqueued .sent sent (.inr rfl) hsent
    have hid : (TransactionResult.progress sent).transactionId = some queued.id := by
      obtain ⟨_, _, rfl⟩ := progress_fields hsent
      rfl
    refine holds_mono (holds_and (recordOutcome_keeps hprogressed) (recordOutcome_retains hid)) ?_
      (fun _ s' hs => hkeep s' hs.1)
    rintro _ s₁ ⟨hs₁, hretained⟩
    refine ⟨fun declared hdeclared => ?_, fun _ _ => hkeep s₁ hs₁⟩
    simp only [holds_get, holds_set]
    set answer := reconcileOrDispatch s₁.transport queued.toDispatch declared with hanswer
    have hmoved : answer.2 = s.transport ∨ (WriteAuthorized queued now ports leases s.transport ∧
        answer.2 = (dispatch s.transport queued.toDispatch).2) := by
      rw [hanswer, hs₁.transport]
      rcases reconcileOrDispatch_moved s.transport queued.toDispatch declared with hsame | hmoved
      · exact .inl hsame
      · exact .inr ⟨dispatchPreflight_none hpreflight hdeadline hmoved.1, hmoved.2⟩
    have hdone : ∀ s' : CoordinatorState T,
        Keeps (fun result => P result ∧ result.transactionId = some queued.id)
          { s₁ with transport := answer.2 } s' →
        Recordings P s.coordinator.outcomes s'.coordinator.outcomes ∧
          s'.coordinator.queue = s.coordinator.queue ∧
          WritesOnce queued now ports leases s.transport s' := by
      intro s' hs'
      have hretained' := (hs'.recorded.mono fun _ h => h.2).retains hretained
      refine ⟨hs₁.recorded.trans (hs'.recorded.mono fun _ h => h.1), hs'.queue.trans hs₁.queue, ?_⟩
      unfold WritesOnce
      rw [hs'.transport]
      rcases hmoved with hsame | ⟨hauthorized, hmoved⟩
      · exact .inl hsame
      · exact .inr ⟨hauthorized, hmoved, hretained'⟩
    refine ⟨fun _ _ => ?_, fun _ _ => hdone _ Keeps.refl⟩
    have hterminal : ∀ terminal, FinishedAs queued answer.1.1 answer.1.2.1 none answer.1.2.2 terminal →
        P (.terminal terminal) ∧ (TransactionResult.terminal terminal).transactionId = some queued.id := by
      intro terminal hfinished
      refine ⟨hproduces.answered queued hqueued s₁.transport declared terminal hdeclared hfinished, ?_⟩
      exact congrArg some hfinished.id
    refine holds_mono (finish_keeps hterminal) ?_ (fun _ s' hs' => hdone s' hs')
    intro completed s' hfinished
    obtain ⟨hrecorded, hqueue, hwritten⟩ := hdone s' hfinished.1
    exact ⟨hrecorded, hqueue, hwritten, (hterminal _ hfinished.2).1⟩

/-- What a call did to the queue and to the transport: entries only leave, and at most one of those
that left was written, with everything in place. -/
def Leaves (now : MonotonicMs) (ports : Authorities) (leases : LeaseManager) (s s' : CoordinatorState T) : Prop :=
  (s'.transport = s.transport ∧
      (s'.coordinator.queue.pending : Multiset QueuedTransaction) ≤ s.coordinator.queue.pending) ∨
    ∃ queued, WritesOnce queued now ports leases s.transport s' ∧
      queued ::ₘ (s'.coordinator.queue.pending : Multiset QueuedTransaction) ≤ s.coordinator.queue.pending

/-- The dequeued entries: each is one of the queue's, and the one to write has not elapsed. -/
structure Dequeues (decision : DequeueDecision) (now : MonotonicMs)
    (queue rest : BoundedTransactionQueue) : Prop where
  perm : (decision.expired ++ decision.next.toList ++ rest.pending).Perm queue.pending
  live : ∀ queued, decision.next = some queued → now < queued.request.deadlineMs

variable {decision : DequeueDecision} {queue rest : BoundedTransactionQueue}

theorem Dequeues.rest_le (h : Dequeues decision now queue rest) :
    (rest.pending : Multiset QueuedTransaction) ≤ queue.pending := by
  rw [← Multiset.coe_eq_coe.mpr h.perm, ← Multiset.coe_add]
  exact Multiset.le_add_left _ _

theorem Dequeues.next_le (h : Dequeues decision now queue rest) (hnext : decision.next = some queued) :
    queued ::ₘ (rest.pending : Multiset QueuedTransaction) ≤ queue.pending := by
  have hperm := h.perm
  rw [hnext, append_assoc] at hperm
  rw [← Multiset.coe_eq_coe.mpr hperm, ← Multiset.coe_add]
  exact Multiset.le_add_left _ _

/-- An entry that outlives the expiry has not elapsed. -/
theorem expirePending_live (h : queued ∈ (queue.expirePending now).2.pending)
    : now < queued.request.deadlineMs := by
  simp only [expirePending, removeMatching, keep, mem_filter, Bool.not_eq_true', decide_eq_false_iff_not] at h
  exact Nat.lt_of_not_le h.2

theorem takeNext_dequeues (queue : BoundedTransactionQueue) (now : MonotonicMs) :
    Dequeues (queue.takeNext now).1 now queue (queue.takeNext now).2 := by
  refine ⟨takeNext_perm queue now, ?_⟩
  intro queued hnext
  exact expirePending_live (mem_of_head? hnext)

theorem takeTransaction_dequeues (queue : BoundedTransactionQueue) (id : TransactionId) (now : MonotonicMs) :
    Dequeues (queue.takeTransaction id now).1 now queue (queue.takeTransaction id now).2 := by
  refine ⟨takeTransaction_perm queue id now, ?_⟩
  intro queued hnext
  have hperm := (removeTransaction_some hnext).2
  exact expirePending_live (hperm.subset mem_cons_self)

theorem dispatchDecision_effect (hproduces : Produces T P s.coordinator.queue.pending)
    (hdequeues : Dequeues decision now s.coordinator.queue rest) :
    Holds (dispatchDecision decision now ports leases)
      { s with coordinator := { s.coordinator with queue := rest } }
      (fun result s' => Recordings P s.coordinator.outcomes s'.coordinator.outcomes ∧
        Leaves now ports leases s s' ∧ ∀ terminal ∈ result.terminals, P (.terminal terminal))
      (fun _ s' => Recordings P s.coordinator.outcomes s'.coordinator.outcomes ∧
        Leaves now ports leases s s') := by
  have hkeep : ∀ s₁ : CoordinatorState T,
      Keeps P { s with coordinator := { s.coordinator with queue := rest } } s₁ →
      Recordings P s.coordinator.outcomes s₁.coordinator.outcomes ∧ Leaves now ports leases s s₁ := by
    intro s₁ hs₁
    refine ⟨hs₁.recorded, .inl ⟨hs₁.transport, ?_⟩⟩
    rw [hs₁.queue]
    exact hdequeues.rest_le
  have hexpiredIn : decision.expired ⊆ s.coordinator.queue.pending := fun q hq =>
    hdequeues.perm.subset (mem_append_left _ (mem_append_left _ hq))
  simp only [dispatchDecision, holds_bind]
  refine holds_mono (finishEach_keeps (fun queued hq =>
    hproduces.refused queued (hexpiredIn hq) .deadlineExceeded)) ?_ (fun _ s₁ hs₁ => hkeep s₁ hs₁)
  intro expired s₁ hexpired
  obtain ⟨hs₁, hterminals⟩ := hexpired
  obtain ⟨hrecorded, hleaves⟩ := hkeep s₁ hs₁
  cases hnext : decision.next with
  | none =>
    refine ⟨hrecorded, hleaves, ?_⟩
    simpa [DispatchResult.terminals] using hterminals
  | some queued =>
    have hqueued : queued ∈ s.coordinator.queue.pending :=
      Multiset.mem_of_le (hdequeues.next_le hnext) (Multiset.mem_cons_self _ _)
    have hdone : ∀ s' : CoordinatorState T,
        Recordings P s₁.coordinator.outcomes s'.coordinator.outcomes →
        s'.coordinator.queue = s₁.coordinator.queue →
        WritesOnce queued now ports leases s₁.transport s' →
        Recordings P s.coordinator.outcomes s'.coordinator.outcomes ∧ Leaves now ports leases s s' := by
      intro s' hrecorded' hqueue hwrites
      refine ⟨hrecorded.trans hrecorded', .inr ⟨queued, ?_, ?_⟩⟩
      · rw [← show s₁.transport = s.transport from hs₁.transport]
        exact hwrites
      rw [hqueue, hs₁.queue]
      exact hdequeues.next_le hnext
    simp only [holds_do]
    refine holds_mono (dispatchQueued_effect hproduces hqueued (hdequeues.live queued hnext)) ?_
      (fun _ s' hs' => hdone s' hs'.1 hs'.2.1 hs'.2.2)
    intro completed s' hs'
    obtain ⟨hrecorded', hqueue, hwrites, hcompleted⟩ := hs'
    obtain ⟨hall, hleft⟩ := hdone s' hrecorded' hqueue hwrites
    refine ⟨hall, hleft, ?_⟩
    intro terminal hterminal
    rcases mem_append.mp hterminal with hmem | hmem
    · exact hterminals terminal hmem
    have heq : terminal = completed.terminal := by simpa using hmem
    rw [heq]
    exact hcompleted

theorem dispatchNext_effect (hproduces : Produces T P s.coordinator.queue.pending) :
    Holds (dispatchNext now ports leases) s
      (fun result s' => Recordings P s.coordinator.outcomes s'.coordinator.outcomes ∧
        Leaves now ports leases s s' ∧ ∀ terminal ∈ result.terminals, P (.terminal terminal))
      (fun _ s' => Recordings P s.coordinator.outcomes s'.coordinator.outcomes ∧
        Leaves now ports leases s s') := by
  simp only [dispatchNext, setQueue, holds_do]
  exact dispatchDecision_effect hproduces (takeNext_dequeues _ _)

theorem dispatchTransaction_effect (hproduces : Produces T P s.coordinator.queue.pending) :
    Holds (dispatchTransaction id now ports leases) s
      (fun result s' => Recordings P s.coordinator.outcomes s'.coordinator.outcomes ∧
        Leaves now ports leases s s' ∧ ∀ terminal ∈ result.terminals, P (.terminal terminal))
      (fun _ s' => Recordings P s.coordinator.outcomes s'.coordinator.outcomes ∧
        Leaves now ports leases s s') := by
  have hdequeues := takeTransaction_dequeues s.coordinator.queue id now
  simp only [dispatchTransaction, setQueue, holds_do]
  refine ⟨fun _ => ⟨.nil, .inl ⟨rfl, hdequeues.rest_le⟩⟩, fun _ => ?_⟩
  exact dispatchDecision_effect hproduces hdequeues

end Dispatching

section Leaving

variable {T : Type} {P : TransactionResult → Prop} {s : CoordinatorState T}

/-- Entries only left the queue and nothing was written. -/
def Removes (P : TransactionResult → Prop) (s s' : CoordinatorState T) : Prop :=
  Recordings P s.coordinator.outcomes s'.coordinator.outcomes ∧ s'.transport = s.transport ∧
    (s'.coordinator.queue.pending : Multiset QueuedTransaction) ≤ s.coordinator.queue.pending

theorem removeTransaction_le (queue : BoundedTransactionQueue) (id : TransactionId) :
    ((queue.removeTransaction id).2.pending : Multiset QueuedTransaction) ≤ queue.pending := by
  cases hrem : (queue.removeTransaction id).1 with
  | none => rw [(removeTransaction_none hrem).2]
  | some q =>
    rw [← Multiset.coe_eq_coe.mpr (removeTransaction_some hrem).2]
    exact Multiset.le_cons_self _ _

theorem Keeps.removes {rest : BoundedTransactionQueue} {s' : CoordinatorState T}
    (h : Keeps P { s with coordinator := { s.coordinator with queue := rest } } s')
    (hrest : (rest.pending : Multiset QueuedTransaction) ≤ s.coordinator.queue.pending) :
    Removes P s s' := by
  refine ⟨h.recorded, h.transport, ?_⟩
  rw [h.queue]
  exact hrest

theorem removeMatching_effect {p : QueuedTransaction → Bool} {kind : ProtocolErrorKind}
    (hrefused : ∀ queued ∈ s.coordinator.queue.pending, ∀ terminal,
      FinishedAs queued .revoked (some kind) none unsentFacts terminal → P (.terminal terminal)) :
    Holds (finishRemoved (s.coordinator.queue.removeMatching p).1 kind)
      { s with coordinator := { s.coordinator with queue := (s.coordinator.queue.removeMatching p).2 } }
      (fun terminals s' => Removes P s s' ∧ ∀ terminal ∈ terminals, P (.terminal terminal))
      (fun _ s' => Removes P s s') := by
  have hperm := removeMatching_perm s.coordinator.queue p
  have hrest : ((s.coordinator.queue.removeMatching p).2.pending : Multiset QueuedTransaction) ≤
      s.coordinator.queue.pending := by
    rw [← Multiset.coe_eq_coe.mpr hperm, ← Multiset.coe_add]
    exact Multiset.le_add_left _ _
  refine holds_mono (finishEach_keeps (fun queued hq => ?_)) (fun _ _ hs => ⟨hs.1.removes hrest, hs.2⟩)
    (fun _ _ hs => hs.removes hrest)
  exact hrefused queued (hperm.subset (mem_append_left _ hq))

theorem cancelTransaction_effect
    (hcancelled : ∀ queued ∈ s.coordinator.queue.pending, queued.id = id → ∀ terminal,
      FinishedAs queued .revoked none none unsentFacts terminal → P (.terminal terminal)) :
    Holds (cancelTransaction id) s
      (fun terminal s' => Removes P s s' ∧ P (.terminal terminal)) (fun _ s' => Removes P s s') := by
  simp only [cancelTransaction, holds_do]
  split
  · exact ⟨.nil, rfl, le_refl _⟩
  next queued queue hrem =>
    have hsome : (s.coordinator.queue.removeTransaction id).1 = some queued := by rw [hrem]
    obtain ⟨hid, hperm⟩ := removeTransaction_some hsome
    rw [hrem] at hperm
    have hrest : (queue.pending : Multiset QueuedTransaction) ≤ s.coordinator.queue.pending := by
      rw [← Multiset.coe_eq_coe.mpr hperm]
      exact Multiset.le_cons_self _ _
    have hterminal := hcancelled queued (hperm.subset mem_cons_self) hid
    simp only [setQueue, holds_do]
    refine holds_mono (finishUnsent_keeps hterminal) ?_ (fun _ _ hs => hs.removes hrest)
    intro terminal s' hs
    exact ⟨hs.1.removes hrest, hterminal terminal hs.2⟩

end Leaving

section Submitting

variable {T : Type} [ReceiverTransport T] [CanonicalDigests] {P : TransactionResult → Prop}
  {s : CoordinatorState T} {now : MonotonicMs} {ports : Authorities} {leases : LeaseManager}
  {queued : QueuedTransaction}

/-- The queue took in at most this one entry and nothing was written. -/
def Admits (P : TransactionResult → Prop) (queued : QueuedTransaction) (s s' : CoordinatorState T) : Prop :=
  Recordings P s.coordinator.outcomes s'.coordinator.outcomes ∧ s'.transport = s.transport ∧
    (s'.coordinator.queue.pending : Multiset QueuedTransaction) ≤
      queued ::ₘ (s.coordinator.queue.pending : Multiset QueuedTransaction)

section
omit [ReceiverTransport T] [CanonicalDigests]

theorem Keeps.admits {queue : BoundedTransactionQueue} {s' : CoordinatorState T}
    (h : Keeps P { s with coordinator := { s.coordinator with queue := queue } } s')
    (hqueue : (queue.pending : Multiset QueuedTransaction) ≤
      queued ::ₘ (s.coordinator.queue.pending : Multiset QueuedTransaction)) :
    Admits P queued s s' := by
  refine ⟨h.recorded, h.transport, ?_⟩
  rw [h.queue]
  exact hqueue

theorem finishSuperseded_keeps {decision : QueueDecision} (h : ∀ queued ∈ decision.superseded, ∀ terminal,
      FinishedAs queued .superseded none (some id) unsentFacts terminal → P (.terminal terminal)) :
    Ensures (finishSuperseded decision id) s (Keeps P s) := by
  unfold finishSuperseded
  split
  · exact Keeps.refl
  next superseded hsuperseded =>
    simp only [holds_do]
    exact holds_post (finishUnsent_keeps (h superseded hsuperseded)) (fun _ _ hs => hs.1)

end

omit [CanonicalDigests] in
theorem enqueue_effect {machine : TransactionState} (hproduces : ∀ admission, Produces T P
      ({ queued with admission := admission } :: s.coordinator.queue.pending)) :
    Holds (enqueue machine queued now) s
      (fun result s' => ∃ admission, Admits P { queued with admission := admission } s s' ∧
        ∃ p, result = .queued p ∧ P (.progress p))
      (fun _ s' => ∃ admission, Admits P { queued with admission := admission } s s') := by
  have hnone : Admits P { queued with admission := .enqueued } s s := ⟨.nil, rfl, Multiset.le_cons_self _ _⟩
  simp only [enqueue, setQueue, holds_bind, holds_get, holds_lift, holds_modify]
  refine ⟨?_, fun _ _ => ⟨.enqueued, hnone⟩⟩
  rintro ⟨decision, queue⟩ hadmit
  obtain ⟨_, kept, hpending, hperm⟩ := admitTransaction_spec hadmit
  have hproduces := hproduces decision.admission
  set queued' : QueuedTransaction := { queued with admission := decision.admission }
  have hqueue : (queue.pending : Multiset QueuedTransaction) ≤
      queued' ::ₘ (s.coordinator.queue.pending : Multiset QueuedTransaction) := by
    rw [hpending, Multiset.coe_eq_coe.mpr (perm_append_singleton _ _),
      ← Multiset.coe_eq_coe.mpr hperm, ← Multiset.cons_coe, ← Multiset.coe_add]
    exact Multiset.cons_le_cons _ (Multiset.le_add_left _ _)
  have hreplaced : ∀ q ∈ decision.superseded, ∀ terminal,
      FinishedAs q .superseded none (some queued.id) unsentFacts terminal → P (.terminal terminal) := by
    intro q hq
    have hmem : q ∈ s.coordinator.queue.pending := hperm.subset (mem_append_left _ (Option.mem_toList.mpr hq))
    exact hproduces.replaced q (mem_cons_of_mem _ hmem) queued.id
  refine ⟨fun _ _ => ?_, fun _ _ => ⟨decision.admission, Keeps.refl.admits hqueue⟩⟩
  refine holds_mono (finishSuperseded_keeps hreplaced) ?_
    (fun _ s' hs => ⟨decision.admission, hs.admits hqueue⟩)
  intro _ s₁ hs₁
  refine ⟨fun p hp => ?_, fun _ _ => ⟨decision.admission, hs₁.admits hqueue⟩⟩
  have hprogressed := hproduces.progressed queued' mem_cons_self .queued p (.inl rfl) hp
  simp only [holds_attempt]
  refine holds_mono (recordOutcome_keeps hprogressed) ?_ ?_
  · intro _ s₂ hs₂
    exact ⟨decision.admission, (hs₁.trans hs₂).admits hqueue, p, rfl, hprogressed⟩
  intro error s₂ hs₂
  simp only [holds_bind, holds_modify, holds_throw]
  obtain ⟨hrecorded, htransport, hle⟩ := (hs₁.trans hs₂).admits hqueue
  exact ⟨decision.admission, hrecorded, htransport, (removeTransaction_le _ _).trans hle⟩

def Unknown (journal : BoundedOutcomeJournal) (queued : QueuedTransaction) : Prop :=
  journal.replay queued.request.clientId queued.request.requestId queued.requestDigest = .unknown ∧
    journal.lookup queued.request.clientId queued.id = .unknown

theorem submit_effect {request : TransactionRequest} {binding : SubmissionBinding}
    (hproduces : ∀ queued, SubmittedAs request binding queued →
      Unknown s.coordinator.outcomes queued → Produces T P (queued :: s.coordinator.queue.pending)) :
    Holds (submit request binding now ports leases) s
      (fun result s' => (s' = s ∧ ∃ (id : TransactionId) (record : OutcomeRecord),
          s.coordinator.outcomes.retained[id]? = some record ∧ result = .replay record.result) ∨
        ∃ queued, SubmittedAs request binding queued ∧ Unknown s.coordinator.outcomes queued ∧
          Admits P queued s s' ∧ ∃ p, result = .queued p ∧ P (.progress p))
      (fun _ s' => s' = s ∨ ∃ queued, SubmittedAs request binding queued ∧
        Unknown s.coordinator.outcomes queued ∧ Admits P queued s s') := by
  simp only [submit, holds_do]
  refine ⟨fun _ => .inl trivial, fun _ => ⟨fun digest hdigest => ?_, fun _ _ => .inl trivial⟩⟩
  split
  next result hreplay =>
    obtain ⟨id, record, hr, hresult⟩ := replay_retained hreplay
    exact .inl ⟨rfl, id, record, hr, by rw [hresult]⟩
  · exact .inl rfl
  · exact .inl rfl
  next hreplay =>
    simp only [holds_do]
    refine ⟨fun _ => .inl trivial, fun hlookup => ⟨fun machine _ => ?_, fun _ _ => .inl trivial⟩⟩
    have hsubmitted : ∀ admission, SubmittedAs request binding
        ⟨request, digest, binding.sessionId, binding.authorizationEpoch, binding.dispatchNonce,
          admission⟩ := fun _ => ⟨rfl, hdigest, rfl, rfl, rfl⟩
    have hunknown : ∀ admission, Unknown s.coordinator.outcomes
        ⟨request, digest, binding.sessionId, binding.authorizationEpoch, binding.dispatchNonce,
          admission⟩ := fun _ => ⟨hreplay, not_not.mp hlookup⟩
    refine holds_mono (enqueue_effect (fun admission =>
      hproduces _ (hsubmitted admission) (hunknown admission))) ?_ ?_
    · rintro result s' ⟨admission, hadmits, hresult⟩
      exact .inr ⟨_, hsubmitted admission, hunknown admission, hadmits, hresult⟩
    rintro _ s' ⟨admission, hadmits⟩
    exact .inr ⟨_, hsubmitted admission, hunknown admission, hadmits⟩

end Submitting

end HyperfluxNext
