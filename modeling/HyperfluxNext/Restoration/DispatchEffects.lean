import HyperfluxNext.Restoration.AdvanceEffects

namespace HyperfluxNext

open ReceiverTransport Procedure

section Observing

variable {T : Type} [RestorationDigests] {s : RestorationState T} {now : MonotonicMs}

/-- What putting a list of transaction terminals into the restore records can do. The calls may
stop anywhere. -/
inductive Observes : List TransactionTerminal → RestorationState T → RestorationState T → Prop
  | stop (terminals : List TransactionTerminal) (s : RestorationState T) : Observes terminals s s
  | skip {terminal : TransactionTerminal} {terminals : List TransactionTerminal}
      {s s' : RestorationState T} : Observes terminals s s' → Observes (terminal :: terminals) s s'
  | finish {terminal : TransactionTerminal} {terminals : List TransactionTerminal}
      {s s₁ s' : RestorationState T} {record : RestoreRecord} {attempt : RestoreAttempt}
      {wrote : Option RestoreRecord} (stored : record ∈ s.records)
      (valid : validateRecord record = .ok ())
      (active : record.status.activeAttempt = some attempt)
      (named : attempt.request.transactionId = terminal.transactionId)
      (quits : Quits attempt record (FromTerminal attempt terminal) s s₁ wrote) :
      Observes terminals s₁ s' → Observes (terminal :: terminals) s s'

theorem observeTerminal_spec (hs : Grounded s) (terminal : TransactionTerminal) :
    Holds (observeTerminal now terminal) s
      (fun wrote s' => (wrote = none ∧ s' = s) ∨ ∃ record ∈ s.records, ∃ attempt,
        validateRecord record = .ok () ∧ record.status.activeAttempt = some attempt ∧
        attempt.request.transactionId = terminal.transactionId ∧
        Quits attempt record (FromTerminal attempt terminal) s s' wrote)
      (fun _ s' => s' = s ∨ ∃ record ∈ s.records, ∃ attempt wrote, validateRecord record = .ok () ∧
        record.status.activeAttempt = some attempt ∧
        attempt.request.transactionId = terminal.transactionId ∧
        Quits attempt record (FromTerminal attempt terminal) s s' wrote) := by
  simp only [observeTerminal, holds_do]
  refine ⟨fun records hload => ?_, fun _ _ => .inl trivial⟩
  split
  · exact .inl ⟨rfl, rfl⟩
  next record hfind =>
    have hmem := List.mem_of_find?_eq_some hfind
    have hnamed := List.find?_some hfind
    obtain ⟨attempt, hactive, hid⟩ := (Option.any_eq_true ..).mp hnamed
    have hid : attempt.request.transactionId = terminal.transactionId := by simpa using hid
    have hquits := release_quits attempt now hs (finishFromTransaction_ends hactive terminal)
    simp only [holds_bind] at hquits
    simp only [releaseActiveLease, hactive, holds_do]
    refine holds_mono hquits (fun _ s₁ hfinish => ?_) ?_
    · refine holds_mono hfinish ?_ ?_
      · intro result s' hquit
        exact .inr ⟨record, mem_of_loadRecords hload hmem, attempt,
          (loadRecords_ok hload).2 record hmem, hactive, hid, hquit⟩
      rintro _ s' ⟨wrote, hquit⟩
      exact .inr ⟨record, mem_of_loadRecords hload hmem, attempt, wrote,
        (loadRecords_ok hload).2 record hmem, hactive, hid, hquit⟩
    rintro _ s' ⟨wrote, hquit⟩
    exact .inr ⟨record, mem_of_loadRecords hload hmem, attempt, wrote,
      (loadRecords_ok hload).2 record hmem, hactive, hid, hquit⟩

theorem observeEach_observes (hs : Grounded s) (terminals : List TransactionTerminal) :
    Ensures (each (observeTerminal now) terminals) s (Observes terminals s) := by
  induction terminals generalizing s with
  | nil => exact .stop [] s
  | cons terminal terminals ih =>
    simp only [each, holds_do]
    refine holds_mono (observeTerminal_spec hs terminal) ?_ ?_
    · rintro wrote s₁ (⟨_, rfl⟩ | ⟨record, hstored, attempt, hvalid, hactive, hnamed, hquits⟩)
      · exact holds_mono (ih hs) (fun _ _ h => .skip h) (fun _ _ h => .skip h)
      exact holds_mono (ih hquits.grounded)
        (fun _ _ h => .finish hstored hvalid hactive hnamed hquits h)
        (fun _ _ h => .finish hstored hvalid hactive hnamed hquits h)
    rintro _ s₁ (rfl | ⟨record, hstored, attempt, wrote, hvalid, hactive, hnamed, hquits⟩)
    · exact .stop _ _
    · exact .finish hstored hvalid hactive hnamed hquits (.stop _ _)

theorem observeDispatch_observes (hs : Grounded s) (result : DispatchResult) :
    Ensures (observeDispatch result now) s (Observes result.terminals s) := by
  simp only [observeDispatch, holds_do]
  exact observeEach_observes hs _

end Observing

section Dispatching

variable {T : Type} [ReceiverTransport T] [RestorationDigests] {s : RestorationState T}
  {now : MonotonicMs} {ports : Authorities}

/-- A dequeue of the coordinator inside a restoration call. -/
structure Drains (s s' : RestorationState T) : Prop where
  dequeued : Dequeued s.core s'.core
  leases : s'.leases = s.leases
  store : s'.store = s.store

omit [RestorationDigests] in
theorem Drains.grounded {s s' : RestorationState T} (h : Drains s s') (hs : Grounded s) : Grounded s' := by
  refine ⟨?_, h.dequeued.safe⟩
  unfold RestorationState.records
  rw [h.store]
  exact hs.sound

/-- A dequeue whose answer may then be put into the restore records. -/
inductive DrainsAndObserves (s s' : RestorationState T) : Prop
  | drained (drains : Drains s s')
  | observed (s₁ : RestorationState T) (result : DispatchResult) (drains : Drains s s₁)
      (answered : Answered s.core s₁.core result) (observes : Observes result.terminals s₁ s')

/-- The statuses of a claim whose queued transaction was cancelled. -/
def Cancelled (attempt : RestoreAttempt) (st : RestoreRecordStatus) : Prop :=
  (∃ reason queued terminal completion, FinishedAs queued .revoked none none unsentFacts terminal ∧
    completionFromTerminal attempt terminal = .ok completion ∧
    st = .deferred ⟨reason, some completion⟩) ∨ ∃ reason, st = .invalidated reason

/-- What dispatching a loaded queued claim can do. -/
inductive DispatchesClaim (record : RestoreRecord) (attempt : RestoreAttempt) (s s' : RestorationState T) : Prop
  | failed (same : s' = s)
  | reconciled (wrote : Option RestoreRecord)
      (observed : reconcile s.core.transport (dispatchFromAttempt attempt) ≠ .notObserved)
      (quits : Quits attempt record (FromReconciliation attempt (reconcile
        s.core.transport (dispatchFromAttempt attempt))) s s' wrote)
  | cancelled (s₁ : RestorationState T) (wrote : Option RestoreRecord)
      (unobserved : reconcile s.core.transport (dispatchFromAttempt attempt) = .notObserved)
      (safe : CoordinatorSafe s₁.core.coordinator)
      (transport : s₁.core.transport = s.core.transport) (subset : s₁.pending ⊆ s.pending)
      (gone : ∀ q ∈ s₁.pending, q.id ≠ attempt.request.transactionId)
      (leases : s₁.leases = s.leases) (store : s₁.store = s.store)
      (quits : Quits attempt record (Cancelled attempt) s₁ s' wrote)
  | unapplied (wrote : Option RestoreRecord)
      (unobserved : reconcile s.core.transport (dispatchFromAttempt attempt) = .notObserved)
      (carried : Carried s s' wrote)
      (coordinator : s'.core.coordinator = s.core.coordinator) (leases : s'.leases = s.leases)
      (moved : ∀ next, wrote = some next → transitionRecord record (.applying attempt) = .ok next)
  | applied (applying : RestoreRecord) (s₁ : RestorationState T)
      (unobserved : reconcile s.core.transport (dispatchFromAttempt attempt) = .notObserved)
      (moved : transitionRecord record (.applying attempt) = .ok applying)
      (carried : Carried s s₁ (some applying))
      (coordinator : s₁.core.coordinator = s.core.coordinator) (leases : s₁.leases = s.leases)
      (drains : DrainsAndObserves s₁ s')

variable {record : RestoreRecord} {attempt : RestoreAttempt}

theorem cancel_dispatches (now : MonotonicMs) (hs : Grounded s)
    (hunobserved : reconcile s.core.transport (dispatchFromAttempt attempt)
      = .notObserved) {m : TransactionTerminal → RestorationM T RestoreAdvanceResult}
    (hm : ∀ queued terminal, FinishedAs queued .revoked none none unsentFacts terminal →
      Ends record (Cancelled attempt) (m terminal)) :
    Ensures (do
      let terminal ← withTransactions (TransactionCoordinator.cancelTransaction attempt.request.transactionId)
      releaseAttemptLease attempt now
      let finished ← m terminal
      pure (recordFromAdvance finished)) s (DispatchesClaim record attempt s) := by
  simp only [withTransactions, holds_do]
  refine holds_mono (cancelTransaction_held hs.safe) ?_ ?_
  · rintro terminal core ⟨hsafe, htransport, hsubset, hgone, queued, _, _, hfinished⟩
    have hs₁ : Grounded { s with core := core } := ⟨hs.sound, hsafe⟩
    have hquits := release_quits attempt now hs₁ (hm queued terminal hfinished)
    simp only [holds_bind] at hquits
    refine holds_mono hquits (fun _ s₁ hfinish => ?_) ?_
    · refine holds_mono hfinish ?_ ?_
      · intro result s' hquit
        exact .cancelled { s with core := core } _ hunobserved hsafe htransport hsubset hgone rfl rfl hquit
      rintro _ s' ⟨wrote, hquit⟩
      exact .cancelled { s with core := core } wrote hunobserved hsafe htransport hsubset hgone rfl rfl hquit
    rintro _ s' ⟨wrote, hquit⟩
    exact .cancelled { s with core := core } wrote hunobserved hsafe htransport hsubset hgone rfl rfl hquit
  rintro _ core ⟨hsafe, htransport, hsubset, hgone⟩
  have hs₁ : Grounded { s with core := core } := ⟨hs.sound, hsafe⟩
  refine .cancelled { s with core := core } none hunobserved hsafe htransport hsubset hgone rfl rfl ?_
  exact ⟨hs₁.carried, rfl, LeaseManager.Shrinks.refl _, by simp⟩

theorem cancelAndDefer_dispatches (hs : Grounded s)
    (hunobserved : reconcile s.core.transport (dispatchFromAttempt attempt)
      = .notObserved) (reason : RestoreDeferReason) :
    Ensures (cancelAndDefer record attempt reason now) s (DispatchesClaim record attempt s) := by
  have hends : ∀ queued terminal, FinishedAs queued .revoked none none unsentFacts terminal →
      Ends record (Cancelled attempt) (do
        let completion ← lift id (completionFromTerminal attempt terminal)
        defer record reason (some completion) : RestorationM T RestoreAdvanceResult) := by
    intro queued terminal hfinished s₁ hsound
    simp only [holds_do]
    refine ⟨fun completion hcompletion => ?_, fun _ _ => .inl (Stored.refl hsound)⟩
    refine (defer_ends record reason (some completion)).mono ?_ s₁ hsound
    rintro _ rfl
    exact .inl ⟨reason, queued, terminal, completion, hfinished, hcompletion, rfl⟩
  have hcancel := cancel_dispatches now hs hunobserved hends
  simp only [holds_bind] at hcancel
  simp only [cancelAndDefer, holds_bind]
  exact hcancel

omit [RestorationDigests] in
/-- A dequeue run inside a restoration call. -/
theorem drain_holds {m : CoordinatorM T DispatchResult} {P : RestorationState T → Prop}
    {Q : DispatchResult → RestorationState T → Prop}
    (hm : Holds m s.core (fun result core => Dequeued s.core core ∧ Answered s.core core result)
      (fun _ core => Dequeued s.core core))
    (hdrained : ∀ s', Drains s s' → P s')
    (hanswered : ∀ s₁ result, Drains s s₁ → Answered s.core s₁.core result → Q result s₁) :
    Holds (withTransactions m) s Q (fun _ s' => P s') := by
  simp only [withTransactions, holds_zoom]
  refine holds_mono hm ?_ ?_
  · rintro result core ⟨hdequeued, hanswer⟩
    exact hanswered { s with core := core } result ⟨hdequeued, rfl, rfl⟩ hanswer
  intro _ core hdequeued
  exact hdrained { s with core := core } ⟨hdequeued, rfl, rfl⟩

theorem dispatchApplying_dispatches {claimId : RestoreClaimId} (hs : Grounded s)
    (hunobserved : reconcile s.core.transport (dispatchFromAttempt attempt)
      = .notObserved) (hload : loadRecord claimId s.store = .ok record)
    (hqueued : record.status = .queued attempt) :
    Ensures (dispatchApplying claimId attempt now ports) s (DispatchesClaim record attempt s) := by
  have hcarried : ∀ (wrote : Option RestoreRecord) (s' : RestorationState T),
      Stored wrote.toList s s' → Carried s s' wrote := by
    intro wrote s' hstored
    refine ⟨?_, hstored.transport, hstored.replaced, hstored.sound⟩
    rw [hstored.coordinator]
    exact hs.safe
  simp only [dispatchApplying, markApplying, holds_do, hload, Except.ok.injEq, forall_eq', reduceCtorEq,
    false_implies, implies_true, and_true, hqueued]
  refine holds_mono (saveTransition_moves hs.sound) ?_ ?_
  · rintro applying s₁ ⟨⟨_, rfl, hnext⟩, hstored⟩
    have hc := hcarried (some applying) s₁ hstored
    have hdone : ∀ s', DrainsAndObserves s₁ s' → DispatchesClaim record attempt s s' :=
      fun s' hdrains => .applied applying s₁ hunobserved hnext hc hstored.coordinator hstored.leases hdrains
    refine drain_holds (dispatchTransaction_held hc.safe) (fun s' hdrains => hdone s' (.drained hdrains)) ?_
    intro s₂ result hdrains hanswered
    refine holds_mono (observeDispatch_observes (hdrains.grounded hc.grounded) result) ?_ ?_
    · intro records s' hobserves
      split
      · exact hdone s' (.observed s₂ result hdrains hanswered hobserves)
      · exact hdone s' (.observed s₂ result hdrains hanswered hobserves)
    intro _ s' hobserves
    exact hdone s' (.observed s₂ result hdrains hanswered hobserves)
  rintro _ s' (hstored | ⟨next, ⟨_, rfl, hnext⟩, hstored⟩)
  · exact .unapplied none hunobserved (hcarried none s' hstored) hstored.coordinator hstored.leases (by simp)
  refine .unapplied (some next) hunobserved (hcarried (some next) s' hstored)
    hstored.coordinator hstored.leases ?_
  rintro _ ⟨⟩
  exact hnext

theorem dispatchClaim_dispatches {claimId : RestoreClaimId} (hs : Grounded s) :
    Ensures (dispatchClaim claimId now ports) s
      (fun s' => s' = s ∨ ∃ record ∈ s.records, ∃ attempt, record.claimId = claimId ∧
        validateRecord record = .ok () ∧ record.status = .queued attempt ∧
        DispatchesClaim record attempt s s') := by
  simp only [dispatchClaim, holds_do]
  refine ⟨fun record hload => ?_, fun _ _ => .inl trivial⟩
  obtain ⟨hstored, hclaim, hvalid⟩ := loadRecord_ok hload
  split
  next attempt hqueued =>
    have hdone : ∀ m : RestorationM T RestoreRecord,
        Ensures m s (DispatchesClaim record attempt s) →
        Ensures m s
          (fun s' => s' = s ∨ ∃ record ∈ s.records, ∃ attempt, record.claimId = claimId ∧
            validateRecord record = .ok () ∧ record.status = .queued attempt ∧
            DispatchesClaim record attempt s s') := fun m hm =>
      holds_mono hm (fun _ s' h => .inr ⟨record, hstored, attempt, hclaim, hvalid, hqueued, h⟩)
        (fun _ s' h => .inr ⟨record, hstored, attempt, hclaim, hvalid, hqueued, h⟩)
    refine hdone _ ?_
    split
    next hunobserved =>
      simp only [holds_do]
      refine ⟨fun gate _ => ?_, fun _ _ => .failed rfl⟩
      cases gate with
      | deferred reason => exact cancelAndDefer_dispatches hs hunobserved reason
      | invalidated reason =>
        refine cancel_dispatches now hs hunobserved ?_
        intro queued terminal _
        exact (invalidate_ends record reason).mono fun st hst => .inr ⟨reason, hst⟩
      | ready =>
        dsimp only
        split
        · exact cancelAndDefer_dispatches hs hunobserved _
        · exact dispatchApplying_dispatches hs hunobserved hload hqueued
    next hobserved =>
      have hquits := release_quits attempt now hs (reconcileTerminal_ends record attempt
        (reconcile s.core.transport (dispatchFromAttempt attempt)))
      simp only [holds_bind] at hquits
      simp only [holds_do]
      refine holds_mono hquits (fun _ s₁ hfinish => ?_) ?_
      · refine holds_mono hfinish ?_ ?_
        · intro result s' hquit
          exact .reconciled _ hobserved hquit
        rintro _ s' ⟨wrote, hquit⟩
        exact .reconciled wrote hobserved hquit
      rintro _ s' ⟨wrote, hquit⟩
      exact .reconciled wrote hobserved hquit
  · exact .inl rfl

end Dispatching

end HyperfluxNext
