import HyperfluxNext.Core.CoordinatorReplay
import HyperfluxNext.Library.StepRelation
import HyperfluxNext.Restoration.Retirement
import HyperfluxNext.Restoration.StableIntents

namespace HyperfluxNext

open Procedure

/-- Every waiting request passed the protocol's check. -/
def QueueValid (c : TransactionCoordinator) : Prop :=
  ∀ queued ∈ c.queue.pending, validateTransaction queued.request = .ok ()

theorem SubmittedAs.valid [CanonicalDigests] {request : TransactionRequest}
    {binding : SubmissionBinding} {queued : QueuedTransaction} (h : SubmittedAs request binding queued) :
    validateTransaction queued.request = .ok () := by
  obtain ⟨hrequest, hdigest, _⟩ := h
  rw [hrequest]
  unfold canonicalRequestDigest at hdigest
  split at hdigest
  · cases hdigest
  next hvalid => exact hvalid

theorem CoordinatorOp.apply_queueValid {T : Type} [ReceiverTransport T] [CanonicalDigests]
    (op : CoordinatorOp) {s : CoordinatorState T} (h : QueueValid s.coordinator) :
    QueueValid (op.apply s).coordinator := by
  have heffect : op.Effect (fun _ => True) s (op.apply s) :=
    (CoordinatorOp.apply_effect (fun entries _ =>
      ⟨fun _ _ _ _ _ => trivial, fun _ _ _ _ _ => trivial, fun _ _ _ _ _ _ => trivial,
        fun _ _ _ _ _ _ _ => trivial⟩) (fun _ _ _ _ _ _ _ => trivial)).1
  intro queued hqueued
  obtain hold | hnew := heffect.2.pending hqueued
  · exact h queued hold
  cases op with
  | submit => exact hnew.1.valid
  | dispatchNext => exact hnew.elim
  | dispatchTransaction | cancelTransaction | invalidateGeneration | invalidateSession => exact hnew.elim

variable {T : Type}

/-- The part of the state that the stable intents are about. -/
structure IntentsChecked (s : RestorationState T) : Prop where
  distinct : OneEntryEach s
  queue : QueueValid s.core.coordinator

theorem Rebound.refl (intent : PersistedStableIntent) : Rebound intent intent := ⟨rfl, rfl, rfl, rfl, rfl, rfl⟩

theorem Rebound.trans {first second third : PersistedStableIntent} (h : Rebound first second)
    (h' : Rebound second third) : Rebound first third :=
  ⟨h'.receiver.trans h.receiver, h'.device.trans h.device, h'.transaction.trans h.transaction,
    h'.digest.trans h.digest, h'.slots.trans h.slots, h'.lighting.trans h.lighting⟩

/-- No intent is new: each one in the store was there before, up to its device profile. -/
structure Rebinds (s s' : RestorationState T) : Prop where
  checked : IntentsChecked s'
  saved : ∀ intent, Saved s' intent → ∃ old, Saved s old ∧ Rebound old intent

open Rebinds

theorem Rebinds.refl {s : RestorationState T} (h : IntentsChecked s) : Rebinds s s :=
  ⟨h, fun intent hsaved => ⟨intent, hsaved, Rebound.refl intent⟩⟩

theorem Rebinds.trans {s₁ s₂ s₃ : RestorationState T} (h : Rebinds s₁ s₂) (h' : Rebinds s₂ s₃) :
    Rebinds s₁ s₃ := by
  refine ⟨h'.checked, fun intent hsaved => ?_⟩
  obtain ⟨middle, hmiddle, hlast⟩ := h'.saved intent hsaved
  obtain ⟨old, hold, hfirst⟩ := h.saved middle hmiddle
  exact ⟨old, hold, hfirst.trans hlast⟩

theorem Rebinds.of_perm {s s' : RestorationState T} (h : IntentsChecked s)
    (hentries : s'.store.document.stableEntries.Perm s.store.document.stableEntries)
    (hqueue : QueueValid s'.core.coordinator) : Rebinds s s' := by
  refine ⟨⟨(hentries.map entryKey).nodup_iff.mpr h.distinct, hqueue⟩, fun intent hsaved => ?_⟩
  exact ⟨intent, hentries.mem_iff.mp hsaved, Rebound.refl intent⟩

theorem Rebinds.of_store {s s' : RestorationState T} (h : IntentsChecked s) (hstore : s'.store = s.store)
    (hqueue : QueueValid s'.core.coordinator) : Rebinds s s' :=
  of_perm h (by rw [hstore]) hqueue

/-- A call that adds no stable intent. -/
abbrev Framed {α : Type} (m : RestorationM T α) : Prop := Steps (Under IntentsChecked Rebinds) m

instance : Std.Refl (Under IntentsChecked (Rebinds (T := T))) := ⟨fun _ => refl⟩

instance : IsTrans (RestorationState T) (Under IntentsChecked Rebinds) :=
  ⟨fun _ _ _ h h' hs => (h hs).trans (h' (h hs).checked)⟩

variable {α β : Type}

theorem framed_withLeases (m : LeaseM α) : Framed (withLeases m : RestorationM T α) := by
  refine steps_under fun s hs => ?_
  simp only [withLeases, holds_zoom]
  have hkept : ∀ leases : LeaseManager, Rebinds s { s with leases := leases } :=
    fun leases => of_store hs rfl hs.queue
  unfold Holds
  split
  · exact hkept _
  · exact hkept _

/-- A call on the coordinator that leaves checked requests in the queue. -/
theorem framed_withTransactions {m : CoordinatorM T α}
    (h : ∀ core, QueueValid core.coordinator → QueueValid (final m core).coordinator) :
    Framed (withTransactions m) := by
  refine steps_under fun s hs => ?_
  have hfinal := h s.core hs.queue
  simp only [withTransactions, holds_zoom]
  unfold final at hfinal
  unfold Holds
  split at hfinal
  · exact of_store hs rfl hfinal
  · exact of_store hs rfl hfinal

theorem framed_attempt {m : CoordinatorM T α}
    (h : ∀ core, QueueValid core.coordinator → QueueValid (final m core).coordinator) :
    Framed (withTransactions (attempt m) : RestorationM T (Except TransactionCoordinatorError α)) := by
  refine framed_withTransactions fun core hcore => ?_
  have hfinal := h core hcore
  unfold final attempt at *
  cases hm : m core with
  | ok a core' | error e core' => simpa only [hm] using hfinal

theorem persistRecords_framed (changes : List RestoreRecordChange) :
    Framed (persistRecords changes : RestorationM T Unit) := by
  refine steps_under fun s hs => ?_
  have hkept : ∀ store : FilePersistenceStore,
      store.document.stableEntries.Perm s.store.document.stableEntries →
      Rebinds s { s with store := store } :=
    fun store hentries => of_perm hs hentries hs.queue
  simp only [persistRecords, withStore, holds_do]
  unfold FilePersistenceStore.compareAndSetRestoreRecords
  split
  · exact refl hs
  simp only [holds_do]
  refine ⟨fun _ => refl hs, fun _ => ⟨fun compared _ => ?_, fun _ _ => refl hs⟩⟩
  cases compared with
  | conflict => exact refl hs
  | applied =>
    simp only [holds_do]
    refine ⟨fun compacted hcompacted => ?_, fun _ _ => refl hs⟩
    have hothers := (compactRestoreHistory_others hcompacted).2
    have hnew : ∀ store : FilePersistenceStore, store.document = canonicalize compacted →
        Rebinds s { s with store := store } := by
      intro store hstore
      refine hkept store ?_
      rw [hstore]
      exact (sortBy_perm _ _ _).trans (by rw [hothers]; rfl)
    refine holds_mono FilePersistenceStore.commit_spec ?_ ?_
    · intro _ store hstore
      exact hnew store hstore.1
    intro _ store hstore
    obtain hsame | ⟨hdocument, _⟩ := hstore
    · exact hkept store (by rw [hsame])
    · exact hnew store hdocument

section Records

section

variable (record : RestoreRecord)

theorem saveTransition_framed (status : RestoreRecordStatus) :
    Framed (saveTransition record status : RestorationM T RestoreRecord) :=
  steps_bind (steps_lift _ _) fun _ => steps_bind (persistRecords_framed _) fun _ => steps_pure _

theorem defer_framed (reason : RestoreDeferReason)
    (priorOutcome : Option RestoreCompletion) :
    Framed (defer record reason priorOutcome : RestorationM T RestoreAdvanceResult) :=
  steps_bind (saveTransition_framed _ _) fun _ => steps_pure _

theorem emitTerminal_framed : Framed (emitTerminal record : RestorationM T Unit) := by
  refine steps_under fun s hs => ?_
  simp only [emitTerminal, holds_do]
  exact ⟨fun _ _ => of_store hs rfl hs.queue, fun _ _ => refl hs⟩

theorem conclude_framed (status : RestoreRecordStatus) :
    Framed (conclude record status : RestorationM T RestoreAdvanceResult) :=
  steps_bind (saveTransition_framed _ _) fun _ => steps_bind (emitTerminal_framed _) fun _ => steps_pure _

theorem finishRecord_framed (completion : RestoreCompletion) :
    Framed (finishRecord record completion : RestorationM T RestoreAdvanceResult) := by
  unfold finishRecord
  split
  · exact conclude_framed _ _
  split
  · exact defer_framed _ _ _
  split
  · exact conclude_framed _ _
  · exact conclude_framed _ _

theorem finishFromTransaction_framed (terminal : TransactionTerminal) :
    Framed (finishFromTransaction record terminal : RestorationM T RestoreAdvanceResult) := by
  unfold finishFromTransaction
  split
  · exact steps_throw _
  · exact steps_bind (steps_lift _ _) fun _ => finishRecord_framed _ _

theorem reconcileTerminal_framed (attempt : RestoreAttempt)
    (reconciliation : TransportReconciliation) :
    Framed (reconcileTerminal record attempt reconciliation : RestorationM T RestoreAdvanceResult) := by
  refine steps_bind (steps_lift _ _) fun completion => ?_
  cases completion with
  | none => exact steps_throw _
  | some completion => exact finishRecord_framed _ _

end

theorem releaseAttemptLease_framed (attempt : RestoreAttempt) (now : MonotonicMs) :
    Framed (releaseAttemptLease attempt now : RestorationM T Unit) := by
  refine steps_under fun s hs => ?_
  simp only [releaseAttemptLease, holds_zoom]
  have hkept : ∀ leases : LeaseManager, Rebinds s { s with leases := leases } :=
    fun leases => of_store hs rfl hs.queue
  unfold Holds
  split
  · exact hkept _
  · exact hkept _

theorem handleSubmissionError_framed (record : RestoreRecord) (error : TransactionCoordinatorError) :
    Framed (handleSubmissionError record error : RestorationM T RestoreAdvanceResult) := by
  unfold handleSubmissionError
  split
  · exact defer_framed _ _ _
  · exact defer_framed _ _ _
  · exact conclude_framed _ _
  · exact conclude_framed _ _
  · exact conclude_framed _ _
  · split
    · exact steps_throw _
    · exact defer_framed _ _ _
  · exact defer_framed _ _ _
  · exact defer_framed _ _ _
  · exact steps_throw _

end Records

section Engine

variable [ReceiverTransport T] [RestorationDigests]

section
omit [ReceiverTransport T] [RestorationDigests]

theorem acquireResult_framed (attempt : RestoreAttempt) (now : MonotonicMs) :
    Framed (acquireResult attempt now : RestorationM T LeaseAcquireResult) := by
  refine steps_bind (framed_withLeases _) fun result => ?_
  cases result with
  | granted | conflict | rejected => exact steps_pure _

theorem observeSubmission_framed (record : RestoreRecord) (attempt : RestoreAttempt)
    (now : MonotonicMs) (answer : Except TransactionCoordinatorError SubmissionResult) :
    Framed (observeSubmission record attempt now answer : RestorationM T RestoreAdvanceResult) := by
  unfold observeSubmission
  split
  · exact steps_bind (saveTransition_framed _ _) fun _ => steps_pure _
  · exact steps_bind (saveTransition_framed _ _) fun _ => steps_pure _
  · exact steps_bind (releaseAttemptLease_framed _ _) fun _ => finishFromTransaction_framed _ _
  · exact steps_bind (releaseAttemptLease_framed _ _) fun _ => finishRecord_framed _ _
  · exact steps_bind (releaseAttemptLease_framed _ _) fun _ => handleSubmissionError_framed _ _

end

theorem submitAttempt_framed (record : RestoreRecord) (attempt : RestoreAttempt) (now : MonotonicMs)
    (ports : Authorities) :
    Framed (submitAttempt record attempt now ports : RestorationM T RestoreAdvanceResult) := by
  refine steps_bind (acquireResult_framed attempt now) fun acquired => ?_
  cases acquired with
  | conflict => exact defer_framed _ _ _
  | granted =>
    refine steps_read fun state => ?_
    split
    · exact defer_framed _ _ _
    refine steps_bind (framed_attempt fun core hcore => ?_) fun _ => observeSubmission_framed _ _ _ _
    exact CoordinatorOp.apply_queueValid
      (.submit attempt.request attempt.submission now ports state.leases) hcore

theorem advanceUnobserved_framed (record : RestoreRecord) (authority : RestorationAuthority)
    (now : MonotonicMs) (ports : Authorities) :
    Framed (advanceUnobserved record authority now ports : RestorationM T RestoreAdvanceResult) := by
  refine steps_read fun state => ?_
  refine steps_bind (steps_lift _ _) fun gate => ?_
  cases gate with
  | invalidated reason => exact conclude_framed _ _
  | deferred reason => exact defer_framed _ _ _
  | ready intent =>
    dsimp only
    split
    · exact submitAttempt_framed _ _ _ _
    refine steps_bind ?_ fun prepared => submitAttempt_framed _ _ _ _
    exact steps_bind (steps_lift _ _) fun _ => steps_bind (steps_lift _ _) fun _ =>
      steps_bind (saveTransition_framed _ _) fun _ => steps_pure _

theorem advanceClaim_framed (claimId : RestoreClaimId) (authority : RestorationAuthority)
    (now : MonotonicMs) (ports : Authorities) :
    Framed (advanceClaim claimId authority now ports : RestorationM T RestoreAdvanceResult) := by
  refine steps_read fun state => ?_
  refine steps_bind (steps_lift _ _) fun record => ?_
  split
  · exact steps_pure _
  refine steps_bind (steps_lift _ _) fun _ => ?_
  split
  · exact advanceUnobserved_framed _ _ _ _
  split
  · exact advanceUnobserved_framed _ _ _ _
  · exact steps_bind (releaseAttemptLease_framed _ _) fun _ => reconcileTerminal_framed _ _ _

omit [ReceiverTransport T] in
theorem markApplying_framed (claimId : RestoreClaimId) :
    Framed (markApplying claimId : RestorationM T RestoreRecord) := by
  refine steps_read fun state => ?_
  refine steps_bind (steps_lift _ _) fun record => ?_
  split
  · exact saveTransition_framed _ _
  · exact steps_throw _

theorem cancelTransaction_framed (id : TransactionId) :
    Framed (withTransactions (TransactionCoordinator.cancelTransaction id) :
      RestorationM T TransactionTerminal) :=
  framed_withTransactions fun _ hcore => CoordinatorOp.apply_queueValid (.cancelTransaction id) hcore

theorem cancelAndDefer_framed (record : RestoreRecord) (attempt : RestoreAttempt)
    (reason : RestoreDeferReason) (now : MonotonicMs) :
    Framed (cancelAndDefer record attempt reason now : RestorationM T RestoreRecord) :=
  steps_bind (cancelTransaction_framed _) fun _ =>
    steps_bind (releaseAttemptLease_framed _ _) fun _ => steps_bind (steps_lift _ _) fun _ =>
      steps_bind (defer_framed _ _ _) fun _ => steps_pure _

omit [ReceiverTransport T] in
theorem observeDispatch_framed (result : DispatchResult) (now : MonotonicMs) :
    Framed (observeDispatch result now : RestorationM T (List RestoreRecord)) := by
  refine steps_bind (steps_each (fun terminal => ?_) _) fun _ => steps_pure _
  refine steps_read fun state => ?_
  refine steps_bind (steps_lift _ _) fun records => ?_
  split
  · exact steps_pure _
  next record _ =>
    refine steps_bind ?_ fun _ => steps_bind (finishFromTransaction_framed _ _) fun _ => steps_pure _
    unfold releaseActiveLease
    split
    · exact steps_pure _
    · exact releaseAttemptLease_framed _ _

theorem dispatchTransaction_framed (id : TransactionId) (now : MonotonicMs) (ports : Authorities)
    (leases : LeaseManager) :
    Framed (withTransactions (TransactionCoordinator.dispatchTransaction id now ports leases) :
      RestorationM T DispatchResult) :=
  framed_withTransactions fun _ hcore =>
    CoordinatorOp.apply_queueValid (.dispatchTransaction id now ports leases) hcore

theorem dispatchClaim_framed (claimId : RestoreClaimId) (now : MonotonicMs) (ports : Authorities) :
    Framed (dispatchClaim claimId now ports : RestorationM T RestoreRecord) := by
  refine steps_read fun state => ?_
  refine steps_bind (steps_lift _ _) fun record => ?_
  split
  next attempt _ =>
    split
    · refine steps_bind (steps_lift _ _) fun gate => ?_
      cases gate with
      | deferred reason => exact cancelAndDefer_framed _ _ _ _
      | invalidated reason =>
        exact steps_bind (cancelTransaction_framed _) fun _ =>
          steps_bind (releaseAttemptLease_framed _ _) fun _ =>
            steps_bind (conclude_framed _ _) fun _ => steps_pure _
      | ready =>
        dsimp only
        split
        · exact cancelAndDefer_framed _ _ _ _
        refine steps_bind (markApplying_framed claimId) fun applying => steps_read fun state => ?_
        refine steps_bind (dispatchTransaction_framed _ _ _ _) fun result => ?_
        refine steps_bind (observeDispatch_framed _ _) fun records => ?_
        split
        · exact steps_throw _
        · exact steps_pure _
    · exact steps_bind (releaseAttemptLease_framed _ _) fun _ =>
        steps_bind (reconcileTerminal_framed _ _ _) fun _ => steps_pure _
  · exact steps_throw _

section
omit [ReceiverTransport T]

theorem migrateCompatibleStableIntents_framed (trigger : RestoreTrigger) (profiles : ProfileRegistry)
    (records : List RestoreRecord) :
    Framed (migrateCompatibleStableIntents trigger profiles records : RestorationM T Nat) := by
  refine steps_under fun s hs => ?_
  have hgains : ∀ s' : RestorationState T,
      Gains (fun intent => ∃ old, Saved s old ∧ Rebound old intent) s s' → Rebinds s s' := by
    intro s' hs'
    refine ⟨⟨hs'.distinct, ?_⟩, fun intent hsaved => ?_⟩
    · rw [hs'.core]
      exact hs.queue
    obtain hold | hnew := hs'.saved intent hsaved
    · exact ⟨intent, hold, Rebound.refl intent⟩
    · exact hnew
  exact holds_mono (migrateCompatibleStableIntents_gains hs.distinct) (fun _ s' h => hgains s' h)
    (fun _ s' h => hgains s' h)

theorem planClaims_framed (trigger : RestoreTrigger) (intents : List PersistedStableIntent)
    (records : List RestoreRecord) :
    Framed (planClaims trigger intents records : RestorationM T (List RestoreRecord)) := by
  induction intents generalizing records with
  | nil => exact steps_pure []
  | cons intent intents ih =>
    unfold planClaims
    refine steps_bind (steps_lift _ _) fun candidate => ?_
    refine steps_bind (steps_each (fun record => ?_) records) fun records => ?_
    · split
      · exact saveTransition_framed _ _
      · exact steps_pure _
    split
    · exact steps_bind (steps_lift _ _) fun _ => steps_bind (ih _) fun _ => steps_pure _
    · exact steps_bind (persistRecords_framed _) fun _ => steps_bind (ih _) fun _ => steps_pure _

theorem planRestore_framed (trigger : RestoreTrigger) (profiles : ProfileRegistry) :
    Framed (planRestore trigger profiles : RestorationM T RestorePlanResult) := by
  refine steps_bind (steps_lift _ _) fun _ => steps_read fun state => ?_
  refine steps_bind (steps_lift _ _) fun enabled => ?_
  split
  · refine steps_read fun state => ?_
    refine steps_bind (steps_lift _ _) fun records => steps_bind (steps_lift _ _) fun _ => ?_
    refine steps_bind (migrateCompatibleStableIntents_framed _ _ _) fun _ => steps_read fun state => ?_
    refine steps_bind (steps_lift _ _) fun entries => ?_
    dsimp only
    split
    · exact steps_pure _
    split
    · exact steps_pure _
    · exact steps_bind (planClaims_framed _ _ _) fun _ => steps_pure _
  · exact steps_pure _

end

theorem retireGeneration_framed (receiverId : ReceiverId) (generationId : GenerationId) (now : MonotonicMs) :
    Framed (retireGeneration receiverId generationId now : RestorationM T RestoreGenerationRetirement) := by
  refine steps_read fun state => ?_
  refine steps_bind (steps_refuse _ _) fun _ => steps_bind (steps_lift _ _) fun records => ?_
  dsimp only
  split
  · exact steps_throw _
  refine steps_bind (steps_lift _ _) fun _ => steps_bind (persistRecords_framed _) fun _ => ?_
  refine steps_bind ?_ fun _ => steps_pure _
  refine steps_under fun s hs => ?_
  rw [holds_modify]
  exact of_store hs rfl hs.queue

end Engine

end HyperfluxNext
