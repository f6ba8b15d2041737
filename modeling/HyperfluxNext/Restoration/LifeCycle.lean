import HyperfluxNext.Restoration.Runs

namespace HyperfluxNext

open FilePersistenceStore List Procedure

def RestoreRecord.attemptsMade (record : RestoreRecord) : Nat :=
  match record.lastAttempt with
  | none => 0
  | some number => number.get

/-- One lawful change of a record: an allowed transition under the next revision that keeps all the
claim is identified by. -/
structure Succeeds (record next : RestoreRecord) : Prop where
  allowed : restoreTransitionAllowed record.status.state next.status.state
  revision : next.revision.get = record.revision.get + 1
  attempts : record.attemptsMade ≤ next.attemptsMade
  identity : next = { record with
    revision := next.revision, lastAttempt := next.lastAttempt, status := next.status }

/-- A claim as planning creates it. -/
structure NewlyPlanned (record : RestoreRecord) : Prop where
  status : record.status = .planned
  revision : record.revision.get = 1
  attempt : record.lastAttempt = none

/-- What one durable write may make of the records. Only the history limit removes a claim. -/
structure Persisted (before after : List RestoreRecord) : Prop where
  changed : ∀ r ∈ before, ∀ r' ∈ after, r'.claimId = r.claimId → r' = r ∨ Succeeds r r'
  settled : ∀ r ∈ before, ∀ r' ∈ after, r'.claimId = r.claimId → r.status.isTerminal → r' = r
  created : ∀ r' ∈ after, (∀ r ∈ before, r.claimId ≠ r'.claimId) → NewlyPlanned r'
  dropped : ∀ r ∈ before, (∀ r' ∈ after, r'.claimId ≠ r.claimId) → compactableTerminal r.status

/-- The writes of a call on the store, one after the other, each of which makes of the records what
`P` allows. -/
inductive StoreTrace (P : List RestoreRecord → List RestoreRecord → Prop) :
    FilePersistenceStore → FilePersistenceStore → Prop
  | stop (store : FilePersistenceStore) : StoreTrace P store store
  | records {store store' : FilePersistenceStore} (changes : List RestoreRecordChange)
      (allowed : P store.document.restoreRecords
        (final (compareAndSetRestoreRecords changes) store).document.restoreRecords)
      (rest : StoreTrace P (final (compareAndSetRestoreRecords changes) store)
        store') : StoreTrace P store store'
  | entries {store store' : FilePersistenceStore} (changes : List StableIntentChange)
      (allowed : P store.document.restoreRecords
        (final (compareAndSetStableEntries changes) store).document.restoreRecords)
      (rest : StoreTrace P (final (compareAndSetStableEntries changes) store)
        store') : StoreTrace P store store'

theorem StoreTrace.trans {P : List RestoreRecord → List RestoreRecord → Prop}
    {store store₁ store' : FilePersistenceStore} (h : StoreTrace P store store₁)
    (h' : StoreTrace P store₁ store') : StoreTrace P store store' := by
  induction h with
  | stop => exact h'
  | records changes allowed _ ih => exact .records changes allowed (ih h')
  | entries changes allowed _ ih => exact .entries changes allowed (ih h')

variable {record next stored : RestoreRecord} {α : Type} {records : List RestoreRecord}
  {status : RestoreRecordStatus}

theorem Succeeds.claimId (h : Succeeds record next) : next.claimId = record.claimId := by
  rw [h.identity]

theorem Succeeds.unfinished (h : Succeeds record next) : record.status.isTerminal = false := by
  have hallowed := h.allowed
  cases hstatus : record.status <;> rw [hstatus] at hallowed <;>
    simp [RestoreRecordStatus.state, restoreTransitionAllowed, RestoreRecordStatus.isTerminal] at hallowed ⊢

theorem Persisted.refl (h : StoreSound records) : Persisted records records := by
  have hsame : ∀ r ∈ records, ∀ r' ∈ records, r'.claimId = r.claimId → r' = r :=
    fun r hr r' hr' heq => eq_of_claimId h.distinct hr' hr heq
  refine ⟨fun r hr r' hr' heq => .inl (hsame r hr r' hr' heq),
    fun r hr r' hr' heq _ => hsame r hr r' hr' heq, ?_, ?_⟩
  · intro r hr hne
    exact absurd rfl (hne r hr)
  intro r hr hne
  exact absurd rfl (hne r hr)

/-- A written record follows a stored one, or it is a new claim. -/
def Lawful (before : List RestoreRecord) (next : RestoreRecord) : Prop :=
  (∃ record ∈ before, Succeeds record next) ∨ (NewlyPlanned next ∧ ∀ r ∈ before, r.claimId ≠ next.claimId)

theorem persisted_of_replaced {before after written : List RestoreRecord}
    (hsound : StoreSound before) (h : Replaced before after written)
    (hlawful : ∀ next ∈ written, Lawful before next) : Persisted before after := by
  have hchanged : ∀ r ∈ before, ∀ r' ∈ after, r'.claimId = r.claimId → r' = r ∨ Succeeds r r' := by
    intro r hr r' hr' heq
    rcases h.origin r' hr' with hwritten | ⟨hold, _⟩
    · rcases hlawful r' hwritten with ⟨record, hrecord, hsucceeds⟩ | ⟨_, hfresh⟩
      · have hsame : record = r := eq_of_claimId hsound.distinct hrecord hr (hsucceeds.claimId.symm.trans heq)
        exact .inr (hsame ▸ hsucceeds)
      · exact absurd heq.symm (hfresh r hr)
    · exact .inl (eq_of_claimId hsound.distinct hold hr heq)
  refine ⟨hchanged, ?_, ?_, ?_⟩
  · intro r hr r' hr' heq hterminal
    rcases hchanged r hr r' hr' heq with hsame | hsucceeds
    · exact hsame
    have hopen := hsucceeds.unfinished
    rw [hterminal] at hopen
    cases hopen
  · intro r' hr' hne
    rcases h.origin r' hr' with hwritten | ⟨hold, _⟩
    · rcases hlawful r' hwritten with ⟨record, hrecord, hsucceeds⟩ | ⟨hplanned, _⟩
      · exact absurd hsucceeds.claimId.symm (hne record hrecord)
      · exact hplanned
    · exact absurd rfl (hne r' hold)
  intro r hr hgone
  have hkept := h.kept r hr fun w hw heq => hgone w (h.arrived w hw) heq
  rcases hkept with hkept | hterminal
  · exact absurd rfl (hgone r hkept)
  · exact hterminal

theorem nextCounter_get {hi : Nat} {current next : Bounded 1 hi}
    (h : nextCounter (some current) = .ok next) : next.get = current.get + 1 := by
  unfold nextCounter at h
  split at h
  · cases h
  next value hvalue =>
    cases h
    exact Bounded.get_of_tryFrom hvalue

theorem nextAttemptNumber_le {number : RestoreAttemptNumber}
    (h : nextAttemptNumber record.lastAttempt = .ok number) : record.attemptsMade ≤ number.get := by
  unfold RestoreRecord.attemptsMade
  cases hlast : record.lastAttempt with
  | none => exact Nat.zero_le _
  | some last =>
    rw [hlast] at h
    have hnext := nextCounter_get h
    show last.get ≤ number.get
    omega

def Renumbered (stored record : RestoreRecord) : Prop :=
  record = { stored with lastAttempt := record.lastAttempt } ∧ stored.attemptsMade ≤ record.attemptsMade

theorem Renumbered.refl (record : RestoreRecord) : Renumbered record record := ⟨rfl, Nat.le_refl _⟩

theorem transitionRecord_succeeds (hrecord : Renumbered stored record)
    (h : transitionRecord record status = .ok next) :
    Succeeds stored next := by
  obtain ⟨heq, hattempts⟩ := hrecord
  unfold transitionRecord at h
  obtain ⟨_, hallowed, h⟩ := bind_eq_ok h
  obtain ⟨revision, hrevision, h⟩ := bind_eq_ok h
  cases h
  rw [heq] at hallowed hrevision
  refine ⟨not_not.mp (reject_eq_ok hallowed), nextCounter_get hrevision, hattempts, ?_⟩
  dsimp only
  rw [heq]

variable {T β : Type} {s s₁ s' : RestorationState T} (attempt : RestoreAttempt)

/-- The store's records lived through lawful writes only. -/
structure Evolves (s s' : RestorationState T) : Prop where
  trace : StoreTrace Persisted s.store s'.store
  sound : StoreSound s'.records

theorem Evolves.of_store (hsound : StoreSound s.records) (h : s'.store = s.store) : Evolves s s' := by
  refine ⟨h ▸ .stop _, ?_⟩
  unfold RestorationState.records
  rw [h]
  exact hsound

theorem Evolves.trans (h : Evolves s s₁) (h' : Evolves s₁ s') : Evolves s s' :=
  ⟨h.trace.trans h'.trace, h'.sound⟩

theorem persistRecords_evolves {changes : List RestoreRecordChange} (hsound : StoreSound s.records)
    (hlawful : FilePersistenceStore.Expected changes s.store →
      ∀ next ∈ changes.map (·.record), Lawful s.records next) :
    Holds (persistRecords changes) s
      (fun _ s' => Evolves s s' ∧ Replaced s.records s'.records (changes.map (·.record)))
      (fun _ s' => Evolves s s') := by
  have hcall : ∀ store : FilePersistenceStore,
      store = final (compareAndSetRestoreRecords changes) s.store →
      StoreSound store.document.restoreRecords →
      Persisted s.records store.document.restoreRecords → Evolves s { s with store := store } := by
    intro store hstore hafter hpersisted
    refine ⟨?_, hafter⟩
    have hstop : StoreTrace Persisted (final (compareAndSetRestoreRecords changes) s.store) store :=
      hstore ▸ .stop _
    exact .records changes (hstore ▸ hpersisted) hstop
  simp only [persistRecords, withStore, holds_do]
  refine holds_mono (holds_at_final (compareAndSetRestoreRecords_spec hsound)) ?_ ?_
  · rintro outcome store ⟨hspec, hfinal⟩
    cases outcome with
    | applied =>
      obtain ⟨hwrote, hexpected⟩ := hspec
      have hpersisted := persisted_of_replaced hsound hwrote.1 (hlawful hexpected)
      exact ⟨hcall store hfinal hwrote.2 hpersisted, hwrote.1⟩
    | conflict =>
      subst hspec
      exact hcall s.store hfinal hsound (Persisted.refl hsound)
  rintro _ store ⟨hsame | ⟨hwrote, hexpected, _⟩, hfinal⟩
  · have hrecords : store.document.restoreRecords = s.records := by
      rw [hsame]
      rfl
    refine hcall store hfinal ?_ ?_
    · rw [hrecords]
      exact hsound
    rw [hrecords]
    exact Persisted.refl hsound
  · exact hcall store hfinal hwrote.2 (persisted_of_replaced hsound hwrote.1 (hlawful hexpected))

/-- A call that keeps to lawful writes while the record is stored. -/
def Lives (record : RestoreRecord) {α : Type} (m : RestorationM T α) : Prop :=
  ∀ s : RestorationState T, StoreSound s.records → record ∈ s.records →
    Holds m s (fun _ s' => Evolves s s') (fun _ s' => Evolves s s')

theorem saveTransition_evolves (hsound : StoreSound s.records) (hstored : stored ∈ s.records)
    (hrecord : Renumbered stored record) :
    Holds (saveTransition record status) s (fun next s' => Evolves s s' ∧ next ∈ s'.records)
      (fun _ s' => Evolves s s') := by
  simp only [saveTransition, persistRecord, holds_do]
  refine ⟨fun next hnext => ?_, fun _ _ => .of_store hsound rfl⟩
  have hlawful : ∀ w ∈ ([⟨some record.revision, next⟩] : List RestoreRecordChange).map (·.record),
      Lawful s.records w := by
    intro w hw
    rw [mem_singleton.mp hw]
    exact .inl ⟨stored, hstored, transitionRecord_succeeds hrecord hnext⟩
  refine holds_mono (persistRecords_evolves hsound fun _ => hlawful) ?_ (fun _ _ h => h)
  rintro _ s' ⟨hevolves, hreplaced⟩
  exact ⟨hevolves, hreplaced.arrived next mem_cons_self⟩

theorem saveTransition_lives (record : RestoreRecord) (status : RestoreRecordStatus) :
    Lives record (saveTransition record status : RestorationM T RestoreRecord) := by
  intro s hsound hstored
  exact holds_post (saveTransition_evolves hsound hstored (.refl record)) (fun _ _ h => h.1)

/-- A call that leaves the store alone. -/
def Quiet {α : Type} (m : RestorationM T α) : Prop :=
  ∀ s : RestorationState T, Holds m s (fun _ s' => s'.store = s.store) (fun _ s' => s'.store = s.store)

theorem Lives.after {m : RestorationM T α} {f : α → RestorationM T β} (hm : Quiet m)
    (hf : ∀ a, Lives record (f a)) :
    Lives record (m >>= f) := by
  intro s hsound hstored
  rw [holds_bind]
  refine holds_mono (hm s) ?_ (fun _ s' h => .of_store hsound h)
  intro a s₁ hstore
  have hrecords : s₁.records = s.records := by
    unfold RestorationState.records
    rw [hstore]
  have hrest := hf a s₁ (hrecords ▸ hsound) (hrecords ▸ hstored)
  have hfirst : Evolves s s₁ := .of_store hsound hstore
  exact holds_mono hrest (fun _ _ h => hfirst.trans h) (fun _ _ h => hfirst.trans h)

theorem Lives.before {m : RestorationM T α} {f : α → RestorationM T β} (hm : Lives record m)
    (hf : ∀ a, Quiet (f a)) :
    Lives record (m >>= f) := by
  intro s hsound hstored
  rw [holds_bind]
  refine holds_post (hm s hsound hstored) ?_
  intro a s₁ hevolves
  have hquiet : ∀ s', s'.store = s₁.store → Evolves s s' := fun s' hstore =>
    hevolves.trans (.of_store hevolves.sound hstore)
  exact holds_mono (hf a s₁) (fun _ s' h => hquiet s' h) (fun _ s' h => hquiet s' h)

theorem quiet_pure (a : α) : Quiet (pure a : RestorationM T α) := fun _ => rfl

theorem quiet_throw (error : RestorationError) : Quiet (throw error : RestorationM T α) := fun _ => rfl

theorem quiet_get : Quiet (get : RestorationM T (RestorationState T)) := fun _ => rfl

theorem quiet_lift {ε : Type} (f : ε → RestorationError) (r : Except ε α) : Quiet (lift f r : RestorationM T α) :=
  fun _ => holds_lift.mpr ⟨fun _ _ => rfl, fun _ _ => rfl⟩

theorem quiet_withTransactions (m : CoordinatorM T α) : Quiet (withTransactions m) :=
  fun _ => holds_zoom.mpr (holds_mono holds_any (fun _ _ _ => rfl) (fun _ _ _ => rfl))

theorem quiet_withLeases (m : LeaseM α) : Quiet (withLeases m : RestorationM T α) :=
  fun _ => holds_zoom.mpr (holds_mono holds_any (fun _ _ _ => rfl) (fun _ _ _ => rfl))

theorem quiet_releaseAttemptLease (now : MonotonicMs) :
    Quiet (releaseAttemptLease attempt now : RestorationM T Unit) :=
  fun _ => holds_zoom.mpr (holds_mono holds_any (fun _ _ _ => rfl) (fun _ _ _ => rfl))

theorem Quiet.lives {m : RestorationM T α} (h : Quiet m) : Lives record m := by
  intro s hsound _
  exact holds_mono (h s) (fun _ _ hs => .of_store hsound hs) (fun _ _ hs => .of_store hsound hs)

section

variable (record : RestoreRecord)

theorem emitTerminal_quiet : Quiet (emitTerminal record : RestorationM T Unit) := by
  intro s
  simp only [emitTerminal, holds_do]
  exact ⟨fun _ _ => trivial, fun _ _ => trivial⟩

theorem defer_lives (reason : RestoreDeferReason)
    (priorOutcome : Option RestoreCompletion) :
    Lives record (defer record reason priorOutcome : RestorationM T RestoreAdvanceResult) :=
  (saveTransition_lives record _).before fun _ => quiet_pure _

theorem conclude_lives (status : RestoreRecordStatus) :
    Lives record (conclude record status : RestorationM T RestoreAdvanceResult) := by
  refine (saveTransition_lives record status).before fun concluded => ?_
  intro s
  rw [holds_bind]
  exact holds_post (emitTerminal_quiet concluded s) (fun _ _ h => h)

theorem finishRecord_lives (completion : RestoreCompletion) :
    Lives record (finishRecord record completion : RestorationM T RestoreAdvanceResult) := by
  unfold finishRecord
  split
  · exact conclude_lives record _
  split
  · exact defer_lives record _ _
  split
  · exact conclude_lives record _
  · exact conclude_lives record _

theorem finishFromTransaction_lives (terminal : TransactionTerminal) :
    Lives record (finishFromTransaction record terminal : RestorationM T RestoreAdvanceResult) := by
  unfold finishFromTransaction
  split
  · exact (quiet_throw _).lives
  · exact .after (quiet_lift _ _) fun completion => finishRecord_lives record completion

theorem reconcileTerminal_lives (attempt : RestoreAttempt)
    (reconciliation : TransportReconciliation) :
    Lives record (reconcileTerminal record attempt reconciliation : RestorationM T RestoreAdvanceResult) := by
  refine .after (quiet_lift _ _) fun answer => ?_
  cases answer with
  | none => exact (quiet_throw _).lives
  | some completion => exact finishRecord_lives record completion

theorem handleSubmissionError_lives (error : TransactionCoordinatorError) :
    Lives record (handleSubmissionError record error : RestorationM T RestoreAdvanceResult) := by
  unfold handleSubmissionError
  split
  · exact defer_lives record _ _
  · exact defer_lives record _ _
  · exact conclude_lives record _
  · exact conclude_lives record _
  · exact conclude_lives record _
  · split
    · exact (quiet_throw _).lives
    · exact defer_lives record _ _
  · exact defer_lives record _ _
  · exact defer_lives record _ _
  · exact (quiet_throw _).lives

end

section Engine

variable [ReceiverTransport T] [RestorationDigests] {intent : PersistedStableIntent} (claimId : RestoreClaimId)

section
omit [ReceiverTransport T] [RestorationDigests]

theorem observeSubmission_lives (record : RestoreRecord) (attempt : RestoreAttempt)
    (now : MonotonicMs) (submitted : Except TransactionCoordinatorError SubmissionResult) :
    Lives record (observeSubmission record attempt now submitted : RestorationM T RestoreAdvanceResult) := by
  have hqueued : Lives record (do
      let queued ← saveTransition record (.queued attempt)
      pure (.queued queued) : RestorationM T RestoreAdvanceResult) :=
    (saveTransition_lives record _).before fun _ => quiet_pure _
  have hrelease := quiet_releaseAttemptLease (T := T) attempt now
  unfold observeSubmission
  split
  · exact hqueued
  · exact hqueued
  · exact .after hrelease fun _ => finishFromTransaction_lives record _
  · exact .after hrelease fun _ => finishRecord_lives record _
  · exact .after hrelease fun _ => handleSubmissionError_lives record _

theorem acquireResult_quiet (now : MonotonicMs) :
    Quiet (acquireResult attempt now : RestorationM T LeaseAcquireResult) := by
  intro s
  simp only [acquireResult, holds_bind]
  refine holds_post (quiet_withLeases _ s) ?_
  intro result s₁ hstore
  split <;> exact hstore

end

theorem submitAttempt_lives (record : RestoreRecord) (attempt : RestoreAttempt) (now : MonotonicMs)
    (ports : Authorities) :
    Lives record (submitAttempt record attempt now ports : RestorationM T RestoreAdvanceResult) := by
  refine .after (acquireResult_quiet attempt now) fun acquired => ?_
  cases acquired with
  | conflict => exact defer_lives record _ _
  | granted =>
    refine .after quiet_get fun state => ?_
    split
    · exact defer_lives record _ _
    exact .after (quiet_withTransactions _) fun submitted =>
      observeSubmission_lives record attempt now submitted

omit [ReceiverTransport T] in
theorem prepareAttempt_evolves {authority : RestorationAuthority} (hsound : StoreSound s.records)
    (hstored : record ∈ s.records) :
    Holds (prepareAttempt record intent authority) s
      (fun prepared s' => Evolves s s' ∧ prepared.1 ∈ s'.records) (fun _ s' => Evolves s s') := by
  simp only [prepareAttempt, holds_do]
  refine ⟨fun number hnumber => ⟨fun attempt _ => ?_, fun _ _ => .of_store hsound rfl⟩,
    fun _ _ => .of_store hsound rfl⟩
  have hrenumbered : Renumbered record { record with lastAttempt := some number } :=
    ⟨rfl, nextAttemptNumber_le hnumber⟩
  exact saveTransition_evolves hsound hstored hrenumbered

theorem advanceUnobserved_lives (record : RestoreRecord) (authority : RestorationAuthority)
    (now : MonotonicMs) (ports : Authorities) :
    Lives record (advanceUnobserved record authority now ports : RestorationM T RestoreAdvanceResult) := by
  refine .after quiet_get fun state => .after (quiet_lift _ _) fun gate => ?_
  cases gate with
  | invalidated reason => exact conclude_lives record _
  | deferred reason => exact defer_lives record _ _
  | ready intent =>
    dsimp only
    split
    next attempt _ => exact submitAttempt_lives record attempt now ports
    intro s hsound hstored
    rw [holds_bind]
    refine holds_post (prepareAttempt_evolves hsound hstored) ?_
    rintro ⟨prepared, attempt⟩ s₁ ⟨hevolves, hprepared⟩
    exact holds_mono (submitAttempt_lives prepared attempt now ports s₁ hevolves.sound hprepared)
      (fun _ _ h => hevolves.trans h) (fun _ _ h => hevolves.trans h)

/-- A call that keeps to lawful writes in every sound store. -/
def Evolving {α : Type} (m : RestorationM T α) : Prop :=
  ∀ s : RestorationState T, StoreSound s.records →
    Holds m s (fun _ s' => Evolves s s') (fun _ s' => Evolves s s')

section
omit [ReceiverTransport T] [RestorationDigests]

theorem Evolving.bind {m : RestorationM T α} {f : α → RestorationM T β} (hm : Evolving m)
    (hf : ∀ a, Evolving (f a)) : Evolving (m >>= f) := by
  intro s hsound
  rw [holds_bind]
  refine holds_post (hm s hsound) ?_
  intro a s₁ hevolves
  exact holds_mono (hf a s₁ hevolves.sound) (fun _ _ h => hevolves.trans h) (fun _ _ h => hevolves.trans h)

theorem Quiet.evolving {m : RestorationM T α} (h : Quiet m) : Evolving m := by
  intro s hsound
  exact holds_mono (h s) (fun _ _ hs => .of_store hsound hs) (fun _ _ hs => .of_store hsound hs)

/-- What is done with a record of the store the call has just read. -/
theorem evolving_load {load : FilePersistenceStore → Except RestorationError RestoreRecord}
    {f : RestorationState T → RestoreRecord → RestorationM T α}
    (hload : ∀ store record, load store = .ok record → record ∈ store.document.restoreRecords)
    (hf : ∀ state record, Lives record (f state record)) :
    Evolving (do
      let state ← get
      let record ← lift id (load state.store)
      f state record) := by
  intro s hsound
  simp only [holds_do]
  refine ⟨fun record hrecord => ?_, fun _ _ => .of_store hsound rfl⟩
  exact hf s record s hsound (hload s.store record hrecord)

end

theorem advanceClaim_evolves (authority : RestorationAuthority) (now : MonotonicMs) (ports : Authorities) :
    Evolving (advanceClaim claimId authority now ports : RestorationM T RestoreAdvanceResult) := by
  refine evolving_load (fun _ _ h => (loadRecord_ok h).1) fun state record => ?_
  have hunobserved := advanceUnobserved_lives (T := T) record authority now ports
  split
  · exact (quiet_pure _).lives
  refine .after (quiet_lift _ _) fun _ => ?_
  split
  · exact hunobserved
  next attempt _ =>
    split
    · exact hunobserved
    exact .after (quiet_releaseAttemptLease attempt now) fun _ => reconcileTerminal_lives record attempt _

omit [ReceiverTransport T] in
theorem markApplying_evolves : Evolving (markApplying claimId : RestorationM T RestoreRecord) := by
  refine evolving_load (fun _ _ h => (loadRecord_ok h).1) fun state record => ?_
  split
  · exact saveTransition_lives record _
  · exact (quiet_throw _).lives

section
omit [ReceiverTransport T] [RestorationDigests]

theorem cancelAndDefer_lives (record : RestoreRecord) (attempt : RestoreAttempt)
    (reason : RestoreDeferReason) (now : MonotonicMs) :
    Lives record (cancelAndDefer record attempt reason now : RestorationM T RestoreRecord) :=
  .after (quiet_withTransactions _) fun _ => .after (quiet_releaseAttemptLease attempt now) fun _ =>
    .after (quiet_lift _ _) fun _ => (defer_lives record _ _).before fun _ => quiet_pure _

theorem releaseActiveLease_quiet (record : RestoreRecord) (now : MonotonicMs) :
    Quiet (releaseActiveLease record now : RestorationM T Unit) := by
  unfold releaseActiveLease
  split
  · exact quiet_pure _
  next attempt _ => exact quiet_releaseAttemptLease attempt now

end

section
omit [ReceiverTransport T]

theorem observeTerminal_evolves (now : MonotonicMs) (terminal : TransactionTerminal) :
    Evolving (observeTerminal now terminal : RestorationM T (Option RestoreRecord)) := by
  intro s hsound
  simp only [observeTerminal, holds_do]
  refine ⟨fun records hload => ?_, fun _ _ => .of_store hsound rfl⟩
  split
  · exact .of_store hsound rfl
  next record hfind =>
    have hstored := mem_of_loadRecords hload (mem_of_find?_eq_some hfind)
    have hlives : Lives record (do
        releaseActiveLease record now
        let finished ← finishFromTransaction record terminal
        pure (some (recordFromAdvance finished)) : RestorationM T (Option RestoreRecord)) :=
      .after (releaseActiveLease_quiet record now) fun _ =>
        (finishFromTransaction_lives record terminal).before fun _ => quiet_pure _
    exact hlives s hsound hstored

theorem observeDispatch_evolves (result : DispatchResult) (now : MonotonicMs) :
    Evolving (observeDispatch result now : RestorationM T (List RestoreRecord)) := by
  intro s hsound
  simp only [observeDispatch, holds_do]
  have hstart : Evolves s s := .of_store hsound rfl
  refine holds_each (E := fun _ s' => Evolves s s') (fun _ _ s' => Evolves s s') ?_ hstart
  intro terminal _ _ s₁ hevolves
  exact holds_mono (observeTerminal_evolves now terminal s₁ hevolves.sound)
    (fun _ _ h => hevolves.trans h) (fun _ _ h => hevolves.trans h)

end

theorem dispatchApplying_evolves (attempt : RestoreAttempt) (now : MonotonicMs) (ports : Authorities) :
    Evolving (dispatchApplying claimId attempt now ports : RestorationM T RestoreRecord) := by
  refine (markApplying_evolves claimId).bind fun applying => quiet_get.evolving.bind fun state =>
    (quiet_withTransactions _).evolving.bind fun result =>
      (observeDispatch_evolves result now).bind fun records => ?_
  split
  · exact (quiet_throw _).evolving
  · exact (quiet_pure _).evolving

omit [ReceiverTransport T] [RestorationDigests] in
theorem Evolving.lives {m : RestorationM T α} (h : Evolving m) :
    Lives record m :=
  fun s hsound _ => h s hsound

theorem dispatchClaim_evolves (now : MonotonicMs) (ports : Authorities) :
    Evolving (dispatchClaim claimId now ports : RestorationM T RestoreRecord) := by
  refine evolving_load (fun _ _ h => (loadRecord_ok h).1) fun state record => ?_
  split
  next attempt _ =>
    have hrelease := quiet_releaseAttemptLease (T := T) attempt now
    split
    · refine .after (quiet_lift _ _) fun gate => ?_
      cases gate with
      | deferred reason => exact cancelAndDefer_lives record attempt reason now
      | invalidated reason =>
        exact .after (quiet_withTransactions _) fun _ => .after hrelease fun _ =>
          (conclude_lives record _).before fun _ => quiet_pure _
      | ready =>
        dsimp only
        split
        · exact cancelAndDefer_lives record attempt _ now
        · exact (dispatchApplying_evolves claimId attempt now ports).lives
    · exact .after hrelease fun _ => (reconcileTerminal_lives record attempt _).before fun _ => quiet_pure _
  · exact (quiet_throw _).lives

section
omit [ReceiverTransport T]

variable {candidate : RestoreRecord}

theorem supersedePriorClaims_evolves (hs : Carries records s) :
    Holds (supersedePriorClaims candidate records) s
      (fun records' s' => Evolves s s' ∧ Carries records' s') (fun _ s' => Evolves s s') := by
  have hstart : Evolves s s := .of_store hs.sound rfl
  refine holds_post (holds_each (fun todo done s' => Evolves s s' ∧ Carries (done ++ todo) s') ?_
    ⟨hstart, hs⟩) (fun records' s' h => by simpa using h)
  rintro record todo done s₁ ⟨hevolves, hcarries⟩
  split
  next hsuperseded =>
    obtain ⟨hstored, _⟩ := hcarries.stored record (by simp) (supersedable_of_superseded hsuperseded)
    refine holds_mono (holds_and (saveTransition_lives record _ s₁ hcarries.sound hstored)
      (saveTransition_moves hcarries.sound)) ?_ (fun _ _ h => hevolves.trans h.1)
    rintro next s₂ ⟨hstep, hmoved⟩
    exact ⟨hevolves.trans hstep, hcarries.superseded hmoved⟩
  rw [holds_pure]
  refine ⟨hevolves, ?_⟩
  rw [append_assoc]
  exact hcarries

variable {trigger : RestoreTrigger}

theorem persistNew_evolves (hsound : StoreSound s.records)
    (hbuilt : newRestoreRecord trigger intent = .ok candidate) :
    Holds (persistRecord none candidate) s
      (fun _ s' => Evolves s s' ∧ Stored [candidate] s s') (fun _ s' => Evolves s s') := by
  have hlawful : FilePersistenceStore.Expected [⟨none, candidate⟩] s.store →
      ∀ next ∈ ([⟨none, candidate⟩] : List RestoreRecordChange).map (·.record), Lawful s.records next := by
    intro hexpected next hnext
    rw [mem_singleton.mp hnext]
    obtain ⟨hrevision, hattempt⟩ := newRestoreRecord_planned hbuilt
    exact .inr ⟨⟨(newRestoreRecord_ok hbuilt).1, hrevision, hattempt⟩, hexpected.fresh⟩
  have hsave := holds_and (persistRecords_evolves hsound hlawful) (persistRecords_stored hsound)
  refine holds_mono hsave ?_ (fun _ _ h => h.1)
  rintro _ s' ⟨⟨hevolves, _⟩, hstored, _⟩
  exact ⟨hevolves, hstored⟩

theorem planClaims_evolves {intents : List PersistedStableIntent} (hs : Carries records s) :
    Holds (planClaims trigger intents records) s (fun _ s' => Evolves s s') (fun _ s' => Evolves s s') := by
  induction intents generalizing records s with
  | nil => exact .of_store hs.sound rfl
  | cons intent intents ih =>
    simp only [planClaims, holds_do]
    refine ⟨fun candidate hbuilt => ?_, fun _ _ => .of_store hs.sound rfl⟩
    refine holds_post (supersedePriorClaims_evolves hs) ?_
    rintro records₁ s₁ ⟨hevolves, hcarries⟩
    split
    · simp only [holds_do]
      refine ⟨fun _ _ => ?_, fun _ _ => hevolves⟩
      exact holds_mono (ih hcarries) (fun _ _ h => hevolves.trans h) (fun _ _ h => hevolves.trans h)
    next hnone =>
      simp only [holds_do]
      refine holds_mono (persistNew_evolves hcarries.sound hbuilt) ?_ (fun _ _ h => hevolves.trans h)
      rintro _ s₂ ⟨hstep, hstored⟩
      have hnew : ∀ r ∈ records₁, r.claimId ≠ candidate.claimId := by
        simpa using find?_eq_none.mp hnone
      have hcreated : Evolves s s₂ := hevolves.trans hstep
      exact holds_mono (ih (hcarries.created hbuilt hnew hstored)) (fun _ _ h => hcreated.trans h)
        (fun _ _ h => hcreated.trans h)

theorem migrateCompatibleStableIntents_evolves (trigger : RestoreTrigger)
    (profiles : ProfileRegistry) (records : List RestoreRecord) :
    Evolving (migrateCompatibleStableIntents trigger profiles records : RestorationM T Nat) := by
  intro s hsound
  have hstart : Evolves s s := .of_store hsound rfl
  unfold migrateCompatibleStableIntents
  split
  · exact hstart
  simp only [holds_do]
  refine ⟨fun entries _ => ⟨fun changes _ => ?_, fun _ _ => hstart⟩, fun _ _ => hstart⟩
  split
  · exact hstart
  have hcall : ∀ store, FilePersistenceStore.Wrote [] s.store store →
      store = final (compareAndSetStableEntries changes) s.store →
      Evolves s { s with store := store } := by
    intro store hwrote hstore
    have hpersisted := persisted_of_replaced hsound hwrote.1 (by simp)
    refine ⟨.entries changes (hstore ▸ hpersisted) (hstore ▸ .stop _), hwrote.2⟩
  simp only [withStore, holds_do]
  refine holds_mono (holds_at_final (compareAndSetStableEntries_spec hsound)) ?_ ?_
  · rintro outcome store ⟨hwrote, hfinal⟩
    cases outcome <;> exact hcall store hwrote hfinal
  rintro _ store ⟨hwrote, hfinal⟩
  exact hcall store hwrote hfinal

theorem planEnabled_evolves (trigger : RestoreTrigger) (profiles : ProfileRegistry) :
    Evolving (planEnabled trigger profiles : RestorationM T RestorePlanResult) := by
  intro s hsound
  have hstart : Evolves s s := .of_store hsound rfl
  simp only [planEnabled, holds_do]
  refine ⟨fun records hload => ⟨fun _ _ => ?_, fun _ _ => hstart⟩, fun _ _ => hstart⟩
  refine holds_mono (holds_and (migrateCompatibleStableIntents_evolves trigger profiles records s hsound)
    (migrateCompatibleStableIntents_stored hsound)) ?_ (fun _ _ h => h.1)
  rintro _ s₁ ⟨hmigrated, hkept⟩
  refine ⟨fun entries _ => ?_, fun _ _ => hmigrated⟩
  split
  · exact hmigrated
  split
  · exact hmigrated
  simp only [holds_do]
  exact holds_mono (planClaims_evolves (carries_of_load hsound hload hkept))
    (fun _ _ h => hmigrated.trans h) (fun _ _ h => hmigrated.trans h)

theorem planRestore_evolves (trigger : RestoreTrigger) (profiles : ProfileRegistry) :
    Evolving (planRestore trigger profiles : RestorationM T RestorePlanResult) := by
  refine (quiet_lift _ _).evolving.bind fun _ => quiet_get.evolving.bind fun state =>
    (quiet_lift _ _).evolving.bind fun enabled => ?_
  split
  · exact planEnabled_evolves trigger profiles
  · exact (quiet_pure _).evolving

end

omit [RestorationDigests] in
theorem RetiredAs.succeeds {transport : T} {transactions : TransactionCoordinator} {next : RestoreRecord}
    (h : RetiredAs transport transactions record next) :
    Succeeds record next := by
  rcases h with ⟨_, hmoved⟩ | ⟨attempt, completion, _, _, hmoved⟩
  · exact transitionRecord_succeeds (.refl record) hmoved
  · exact transitionRecord_succeeds (.refl record) hmoved

theorem retireGeneration_evolves (receiverId : ReceiverId) (generationId : GenerationId) (now : MonotonicMs) :
    Evolving (retireGeneration receiverId generationId now : RestorationM T RestoreGenerationRetirement) := by
  intro s hsound
  have hstart : Evolves s s := .of_store hsound rfl
  simp only [retireGeneration, holds_do]
  refine ⟨fun _ => hstart, fun _ => ⟨fun records hload => ?_, fun _ _ => hstart⟩⟩
  split
  · exact hstart
  next updated leases heach =>
    have hretired := (retireEach_spec heach).1
    simp only [holds_do]
    refine ⟨fun events _ => ?_, fun _ _ => hstart⟩
    refine holds_mono (persistRecords_evolves hsound fun _ => ?_) ?_ (fun _ _ h => h)
    · rw [retired_changes hretired]
      intro next hnext
      obtain ⟨record, hrecord, hsucceeds⟩ := forall₂_right hretired next hnext
      have hloaded := (mem_filter.mp (mem_filter.mp hrecord).1).1
      exact .inl ⟨record, mem_of_loadRecords hload hloaded, hsucceeds.succeeds⟩
    rintro _ s₁ ⟨hevolves, _⟩
    exact ⟨hevolves.trace, hevolves.sound⟩

theorem dispatchNextClaims_evolves (observe : Bool) (now : MonotonicMs) (ports : Authorities) :
    Evolving (dispatchNextClaims observe now ports : RestorationM T Unit) := by
  refine quiet_get.evolving.bind fun state => (quiet_withTransactions _).evolving.bind fun result => ?_
  cases observe with
  | false => exact (quiet_pure _).evolving
  | true => exact (observeDispatch_evolves result now).bind fun _ => (quiet_pure _).evolving

theorem RestorationStep.run_evolves (step : RestorationStep T) (hsound : StoreSound s.records) :
    Evolves (step.enter s) (step.run s) := by
  have hentered : StoreSound (step.enter s).records := hsound
  unfold RestorationStep.run
  split
  next trigger _ => exact holds_final (planRestore_evolves trigger _ _ hentered)
  next claimId authority _ => exact holds_final (advanceClaim_evolves claimId authority _ _ _ hentered)
  next claimId _ => exact holds_final (dispatchClaim_evolves claimId _ _ _ hentered)
  next observe _ => exact holds_final (dispatchNextClaims_evolves observe _ _ _ hentered)
  next receiverId generationId _ =>
    exact holds_final (retireGeneration_evolves receiverId generationId _ _ hentered)
  next capacity _ =>
    refine .of_store hentered ?_
    unfold restarted
    split <;> rfl

/-- In every run, each durable change of a claim's record is a lawful one. -/
theorem restorationReach_lifeCycle {ok : RestorationState T → RestorationStep T → Prop}
    {start : RestorationState T} (hsound : StoreSound start.records)
    (h : RestorationReach ok start s) (step : RestorationStep T) :
    StoreTrace Persisted (step.enter s).store (step.run s).store := by
  have hreached : StoreSound s.records := by
    induction h with
    | start => exact hsound
    | step _ _ ih => exact (RestorationStep.run_evolves _ ih).sound
  exact (step.run_evolves hreached).trace

end Engine

theorem restorationReach_lifeCycle_advance :
    letI := sampleRestorationDigests
    StoreTrace Persisted (sampleAdvance.enter samplePlanned).store sampleQueued.store := by
  let _ := sampleRestorationDigests
  have hreach : RestorationReach (fun _ _ => True) (sampleStart _ sampleTransport) samplePlanned :=
    .step .start trivial
  exact restorationReach_lifeCycle (sampleStart_starts sampleTransport).sound hreach sampleAdvance

end HyperfluxNext
