import HyperfluxNext.Core.CoordinatorSafety
import HyperfluxNext.Restoration.Retirement
import HyperfluxNext.Restoration.StoreSpec

namespace HyperfluxNext

open Procedure

variable {T : Type}

def RestorationState.records (s : RestorationState T) : List RestoreRecord := s.store.document.restoreRecords

def RestorationState.pending (s : RestorationState T) : List QueuedTransaction :=
  s.core.coordinator.queue.pending

/-- Nothing but the durable records and the event log changed, and the records by one batch. -/
structure Stored (written : List RestoreRecord) (s s' : RestorationState T) : Prop where
  coordinator : s'.core.coordinator = s.core.coordinator
  transport : s'.core.transport = s.core.transport
  leases : s'.leases = s.leases
  replaced : Replaced s.records s'.records written
  sound : StoreSound s'.records

variable {s : RestorationState T} {record : RestoreRecord} {status : RestoreRecordStatus → Prop}

theorem Stored.refl (h : StoreSound s.records) : Stored [] s s := ⟨rfl, rfl, rfl, Replaced.refl _, h⟩

theorem Stored.emit {written : List RestoreRecord} {s' : RestorationState T} (h : Stored written s s')
    (events : BoundedEventLog) :
    Stored written s { s' with core := { s'.core with events := events } } :=
  ⟨h.coordinator, h.transport, h.leases, h.replaced, h.sound⟩

theorem persistRecords_stored {changes : List RestoreRecordChange} (hsound : StoreSound s.records) :
    Holds (persistRecords changes) s
      (fun _ s' => Stored (changes.map (·.record)) s s' ∧ FilePersistenceStore.Expected changes s.store)
      (fun _ s' => Stored [] s s' ∨ (Stored (changes.map (·.record)) s s' ∧
        FilePersistenceStore.Expected changes s.store ∧ s.store.Torn)) := by
  simp only [persistRecords, withStore, holds_do]
  refine holds_mono (FilePersistenceStore.compareAndSetRestoreRecords_spec hsound) ?_ ?_
  · intro outcome store hstore
    cases outcome with
    | applied => exact ⟨⟨rfl, rfl, rfl, hstore.1.1, hstore.1.2⟩, hstore.2⟩
    | conflict =>
      subst hstore
      exact .inl (Stored.refl hsound)
  rintro _ store (hsame | hwrote)
  · left
    refine ⟨rfl, rfl, rfl, ?_, ?_⟩
    · show Replaced s.records store.document.restoreRecords []
      rw [hsame]
      exact Replaced.refl _
    show StoreSound store.document.restoreRecords
    rw [hsame]
    exact hsound
  · exact .inr ⟨⟨rfl, rfl, rfl, hwrote.1.1, hwrote.1.2⟩, hwrote.2⟩

def MovedTo (record : RestoreRecord) (status : RestoreRecordStatus → Prop) (next : RestoreRecord)
    (s s' : RestorationState T) : Prop :=
  (∃ st, status st ∧ transitionRecord record st = .ok next) ∧ Stored [next] s s'

/-- A call that ends the claim's turn: it moves the record to one of some statuses, or fails
before or after that became durable. -/
def Ends (record : RestoreRecord) (status : RestoreRecordStatus → Prop)
    (m : RestorationM T RestoreAdvanceResult) : Prop :=
  ∀ s, StoreSound s.records → Holds m s
    (fun result s' => MovedTo record status (recordFromAdvance result) s s')
    (fun _ s' => Stored [] s s' ∨ ∃ next, MovedTo record status next s s')

theorem saveTransition_moves {st : RestoreRecordStatus} (hsound : StoreSound s.records) :
    Holds (saveTransition record st) s (fun next s' => MovedTo record (· = st) next s s')
      (fun _ s' => Stored [] s s' ∨ ∃ next, MovedTo record (· = st) next s s') := by
  simp only [saveTransition, persistRecord, holds_do]
  refine ⟨fun next hnext => ?_, fun _ _ => .inl (Stored.refl hsound)⟩
  refine holds_mono (persistRecords_stored hsound) ?_ ?_
  · intro _ s' hs'
    exact ⟨⟨st, rfl, hnext⟩, hs'.1⟩
  rintro _ s' (hs' | hs')
  · exact .inl hs'
  · exact .inr ⟨next, ⟨st, rfl, hnext⟩, hs'.1⟩

theorem MovedTo.mono {next : RestoreRecord} {status' : RestoreRecordStatus → Prop} {s' : RestorationState T}
    (h : MovedTo record status next s s') (himp : ∀ st, status st → status' st)
    : MovedTo record status' next s s' := by
  obtain ⟨⟨st, hst, hnext⟩, hstored⟩ := h
  exact ⟨⟨st, himp st hst, hnext⟩, hstored⟩

theorem Ends.mono {status' : RestoreRecordStatus → Prop} {m : RestorationM T RestoreAdvanceResult}
    (h : Ends record status m) (himp : ∀ st, status st → status' st) : Ends record status' m := by
  intro s hsound
  refine holds_mono (h s hsound) (fun _ _ hm => hm.mono himp) ?_
  rintro _ s' (hs' | ⟨next, hm⟩)
  · exact .inl hs'
  · exact .inr ⟨next, hm.mono himp⟩

theorem ends_throw (error : RestorationError) :
    Ends record status (throw error : RestorationM T RestoreAdvanceResult) :=
  fun _ hsound => .inl (Stored.refl hsound)

theorem defer_ends (record : RestoreRecord) (reason : RestoreDeferReason)
    (priorOutcome : Option RestoreCompletion) :
    Ends record (· = .deferred ⟨reason, priorOutcome⟩)
      (defer record reason priorOutcome : RestorationM T RestoreAdvanceResult) := by
  intro s hsound
  simp only [defer, holds_do]
  exact saveTransition_moves hsound

theorem conclude_ends (record : RestoreRecord) (st : RestoreRecordStatus) :
    Ends record (· = st) (conclude record st : RestorationM T RestoreAdvanceResult) := by
  intro s hsound
  simp only [conclude, emitTerminal, holds_do]
  refine holds_post (saveTransition_moves hsound) ?_
  intro next s' hm
  refine ⟨fun answer _ => ⟨hm.1, hm.2.emit answer.2⟩, fun _ _ => .inr ⟨next, hm⟩⟩

theorem invalidate_ends (record : RestoreRecord) (reason : RestoreInvalidationReason) :
    Ends record (· = .invalidated reason) (invalidate record reason : RestorationM T RestoreAdvanceResult) :=
  conclude_ends record _

def finishStatus (completion : RestoreCompletion) : RestoreRecordStatus :=
  if completedSuccessfully completion then .succeeded completion
  else if safeRetry completion then .deferred ⟨.safeTransactionFailure, some completion⟩
  else if completion.state = .revoked ∧ completion.errorKind = some .staleGeneration then
    .invalidated .staleGeneration
  else .failed (failedCompletion completion)

theorem finishStatus_ended (completion : RestoreCompletion) : (finishStatus completion).activeAttempt = none := by
  unfold finishStatus
  split
  · rfl
  split
  · rfl
  · split <;> rfl

theorem finishRecord_ends (record : RestoreRecord) (completion : RestoreCompletion) :
    Ends record (· = finishStatus completion)
      (finishRecord record completion : RestorationM T RestoreAdvanceResult) := by
  unfold finishRecord finishStatus
  split
  · exact conclude_ends record _
  split
  · exact defer_ends record _ _
  split
  · exact invalidate_ends record _
  · exact conclude_ends record _

def FromTerminal (attempt : RestoreAttempt) (terminal : TransactionTerminal) (st : RestoreRecordStatus) : Prop :=
  ∃ completion, completionFromTerminal attempt terminal = .ok completion ∧ st = finishStatus completion

theorem finishFromTransaction_ends {attempt : RestoreAttempt}
    (hactive : record.status.activeAttempt = some attempt) (terminal : TransactionTerminal) :
    Ends record (FromTerminal attempt terminal)
      (finishFromTransaction record terminal : RestorationM T RestoreAdvanceResult) := by
  intro s hsound
  simp only [finishFromTransaction, hactive, holds_do]
  refine ⟨fun completion hcompletion => ?_, fun _ _ => .inl (Stored.refl hsound)⟩
  refine (finishRecord_ends record completion).mono ?_ s hsound
  rintro _ rfl
  exact ⟨completion, hcompletion, rfl⟩

/-- The statuses a transport's answer about the attempt's dispatch leads to. -/
def FromReconciliation (attempt : RestoreAttempt) (reconciliation : TransportReconciliation)
    (st : RestoreRecordStatus) : Prop :=
  ∃ completion, completionFromReconciliation attempt reconciliation = .ok (some completion) ∧
    st = finishStatus completion

theorem reconcileTerminal_ends (record : RestoreRecord) (attempt : RestoreAttempt)
    (reconciliation : TransportReconciliation) :
    Ends record (FromReconciliation attempt reconciliation)
      (reconcileTerminal record attempt reconciliation : RestorationM T RestoreAdvanceResult) := by
  intro s hsound
  simp only [reconcileTerminal, holds_do]
  refine ⟨fun answer hanswer => ?_, fun _ _ => .inl (Stored.refl hsound)⟩
  cases answer with
  | none => exact .inl (Stored.refl hsound)
  | some completion =>
    refine (finishRecord_ends record completion).mono ?_ s hsound
    rintro _ rfl
    exact ⟨completion, hanswer, rfl⟩

/-- The statuses that hold nothing of an attempt but a reason. -/
def Withdrawn (st : RestoreRecordStatus) : Prop :=
  (∃ reason, st = .deferred ⟨reason, none⟩) ∨ ∃ reason, st = .invalidated reason

theorem defer_withdrawn (record : RestoreRecord) (reason : RestoreDeferReason) :
    Ends record Withdrawn (defer record reason none : RestorationM T RestoreAdvanceResult) :=
  (defer_ends record reason none).mono fun _ hst => .inl ⟨reason, hst⟩

theorem invalidate_withdrawn (record : RestoreRecord) (reason : RestoreInvalidationReason) :
    Ends record Withdrawn (invalidate record reason : RestorationM T RestoreAdvanceResult) :=
  (invalidate_ends record reason).mono fun _ hst => .inr ⟨reason, hst⟩

theorem handleSubmissionError_ends (record : RestoreRecord) (error : TransactionCoordinatorError) :
    Ends record Withdrawn (handleSubmissionError record error : RestorationM T RestoreAdvanceResult) := by
  unfold handleSubmissionError
  split
  · exact defer_withdrawn record _
  · exact defer_withdrawn record _
  · exact invalidate_withdrawn record _
  · exact invalidate_withdrawn record _
  · exact invalidate_withdrawn record _
  · split
    · exact ends_throw _
    · exact defer_withdrawn record _
  · exact defer_withdrawn record _
  · exact defer_withdrawn record _
  · exact ends_throw _

end HyperfluxNext
