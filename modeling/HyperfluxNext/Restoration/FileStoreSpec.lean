import HyperfluxNext.Core.CoordinatorRuns
import HyperfluxNext.Restoration.FileStore

namespace HyperfluxNext

open FilePersistenceStore List Procedure

section Ordered

variable {α κ : Type} {cmp : κ → κ → Ordering} [Std.TransCmp cmp] {key : α → κ}

theorem strictlyOrderedBy_pairwise {l : List α} (h : strictlyOrderedBy cmp key l) :
    l.Pairwise fun a b => cmp (key a) (key b) = .lt := by
  induction l with
  | nil => exact .nil
  | cons a l ih =>
    cases l with
    | nil => simp
    | cons b rest =>
      simp only [strictlyOrderedBy, Bool.decide_and, Bool.and_eq_true, decide_eq_true_eq] at h
      have htail := ih h.2
      refine pairwise_cons.mpr ⟨?_, htail⟩
      intro c hc
      rcases mem_cons.mp hc with heq | hin
      · rw [heq]
        exact h.1
      · exact Std.TransCmp.lt_trans h.1 ((pairwise_cons.mp htail).1 c hin)

theorem strictlyOrderedBy_nodup {l : List α} (h : strictlyOrderedBy cmp key l) : (l.map key).Nodup := by
  rw [nodup_iff_pairwise_ne, pairwise_map]
  refine (strictlyOrderedBy_pairwise h).imp ?_
  intro a b hlt heq
  have hself : cmp (key b) (key b) = .eq := Std.ReflCmp.compare_self
  rw [heq, hself] at hlt
  cases hlt

/-- The sort of the source keeps a list that passes the order check. -/
theorem sortBy_ordered {l : List α} (h : strictlyOrderedBy cmp key l) : sortBy cmp key l = l := by
  refine List.Pairwise.insertionSort_eq ((strictlyOrderedBy_pairwise h).imp ?_)
  intro a b hlt
  rw [hlt]
  rfl

end Ordered

instance {α β : Type} [Ord α] [Ord β] [Std.TransOrd α] [Std.TransOrd β] :
    Std.TransCmp (comparePair (α := α) (β := β)) :=
  inferInstanceAs (Std.TransCmp (compareLex (compareOn Prod.fst) (compareOn Prod.snd)))

theorem validateDocument_distinct {maxReceivers : Nat} {document : BridgePersistenceDocument}
    (h : validateDocument maxReceivers document = .ok ()) :
    (document.policies.map (·.receiverId)).Nodup ∧ (document.stableEntries.map entryKey).Nodup := by
  unfold validateDocument at h
  obtain ⟨_, _, h⟩ := bind_eq_ok h
  obtain ⟨_, hpolicies, h⟩ := bind_eq_ok h
  obtain ⟨_, _, h⟩ := bind_eq_ok h
  obtain ⟨_, hentries, _⟩ := bind_eq_ok h
  exact ⟨strictlyOrderedBy_nodup (not_not.mp (reject_eq_ok hpolicies)),
    strictlyOrderedBy_nodup (not_not.mp (reject_eq_ok hentries))⟩

/-- The document check never fails with an I/O error. -/
theorem validateDocument_error {maxReceivers : Nat} {document : BridgePersistenceDocument}
    {error : FilePersistenceError} (h : validateDocument maxReceivers document = .error error) :
    error.replacementVisible = false := by
  have hreject : ∀ (c : Prop) [Decidable c] (e : FilePersistenceError), e.replacementVisible = false →
      ∀ rest : Unit → Except FilePersistenceError Unit, (∀ e', rest () = .error e' →
        e'.replacementVisible = false) → ∀ e', (reject c e >>= rest) = .error e' →
        e'.replacementVisible = false := by
    intro c _ e he rest hrest e' h
    by_cases hc : c
    · simp only [reject, hc, if_true, bind, Except.bind, Except.error.injEq] at h
      rw [← h]
      exact he
    rw [reject_of_not hc] at h
    exact hrest e' h
  unfold validateDocument at h
  iterate 9 refine hreject _ _ rfl _ ?_ _ h; clear h; intro error h
  unfold reject at h
  split at h
  · cases h; rfl
  · cases h

section Specs

variable [DocumentCodec] {store store' : OpenStore} {candidate : BridgePersistenceDocument}

structure Committed (candidate : BridgePersistenceDocument) (store store' : OpenStore) : Prop where
  config : store'.config = store.config
  document : store'.document = candidate
  valid : validateDocument store.config.maxReceivers candidate = .ok ()
  disk : ∃ bytes, DocumentCodec.toVec bridgePersistenceSchema candidate = some bytes ∧
    bytes.length ≤ store.config.maxBytes ∧ store'.disk = some bytes

/-- Neither memory nor disk changed. -/
structure Untouched (store store' : OpenStore) : Prop where
  config : store'.config = store.config
  document : store'.document = store.document
  disk : store'.disk = store.disk

/-- How a failed call left the store: the error says whether the replacement was visible. -/
def FailedWith (candidate : BridgePersistenceDocument) (store : OpenStore)
    (error : FilePersistenceError) (store' : OpenStore) : Prop :=
  if error.replacementVisible then Committed candidate store store' else Untouched store store'

namespace OpenStore

omit [DocumentCodec] in
theorem atomicCommit_spec {bytes : List UInt8} :
    Holds (atomicCommit bytes) store
      (fun _ store' => store'.config = store.config ∧ store'.document = store.document ∧
        store'.disk = some bytes)
      (fun error store' => store'.config = store.config ∧ store'.document = store.document ∧
        store'.disk = if error.replacementVisible then some bytes else store.disk) := by
  simp only [atomicCommit, holds_do]
  refine ⟨fun _ => ⟨trivial, trivial, rfl⟩, fun _ => ?_⟩
  split
  · exact ⟨rfl, rfl, rfl⟩
  · exact ⟨rfl, rfl, rfl⟩
  next stage hne _ =>
    refine ⟨rfl, rfl, ?_⟩
    have hbefore : (FilePersistenceError.ofStage stage).replacementVisible = false := by
      have hstage : stage ≠ .syncDirectory := hne
      simp [FilePersistenceError.ofStage, FilePersistenceError.replacementVisible, hstage]
    rw [hbefore]
    rfl

theorem openCommit_spec :
    Holds (OpenStore.commit candidate) store (fun _ store' => Committed candidate store store')
      (FailedWith candidate store) := by
  have hnever : ∀ error : FilePersistenceError, error.replacementVisible = false →
      FailedWith candidate store error store := by
    intro error herror
    unfold FailedWith
    rw [herror]
    exact ⟨rfl, rfl, rfl⟩
  simp only [OpenStore.commit, holds_bind, holds_get, holds_lift]
  refine ⟨fun _ hvalid => ?_, fun error hinvalid => hnever error (validateDocument_error hinvalid)⟩
  split
  · exact hnever .malformedState rfl
  next bytes hbytes =>
    simp only [holds_bind, holds_refuse, holds_attempt]
    refine ⟨fun _ => hnever .stateTooLarge rfl, fun hsize => ?_⟩
    refine holds_mono atomicCommit_spec ?_ ?_
    · intro _ store' hstore
      obtain ⟨hconfig, _, hdisk⟩ := hstore
      exact ⟨hconfig, rfl, hvalid, bytes, hbytes, Nat.le_of_not_lt hsize, hdisk⟩
    intro error store' hstore
    obtain ⟨hconfig, hdocument, hdisk⟩ := hstore
    simp only [holds_modify, holds_throw]
    unfold FailedWith
    split
    next hvisible =>
      rw [if_pos hvisible] at hdisk
      exact ⟨hconfig, by simp, hvalid, bytes, hbytes, Nat.le_of_not_lt hsize, hdisk⟩
    next hhidden =>
      rw [if_neg hhidden] at hdisk
      exact ⟨hconfig, by simp [hdocument], hdisk⟩

end OpenStore

/-- The batch was written whole: every revision matched, and memory and disk hold the result. -/
def StoreOp.Written (op : StoreOp) (store store' : OpenStore) : Prop :=
  op.Expected store.document ∧ op.Applied store.document store'.document ∧
    (Untouched store store' ∨ Committed store'.document store store')

/-- What a write does: all of it or nothing. -/
def StoreOp.AllOrNothing (op : StoreOp) (store : OpenStore) : Prop :=
  Holds op.run store
    (fun outcome store' => match outcome with
      | .applied => op.Written store store'
      | .conflict => Untouched store store')
    (fun error store' =>
      if error.replacementVisible then op.Written store store' else Untouched store store')

omit [DocumentCodec] in
theorem Untouched.refl (store : OpenStore) : Untouched store store := ⟨rfl, rfl, rfl⟩

theorem Committed.written {op : StoreOp} (h : Committed candidate store store')
    (hexpected : op.Expected store.document) (happlied : op.Applied store.document candidate) :
    op.Written store store' := by
  refine ⟨hexpected, ?_, .inr ?_⟩
  · rw [h.document]
    exact happlied
  rw [h.document]
  exact h

/-- The end of every write: the commit of a candidate that carries the whole batch. -/
theorem commit_allOrNothing (op : StoreOp) (hexpected : op.Expected store.document)
    (happlied : op.Applied store.document candidate) :
    Holds (OpenStore.commit candidate >>= fun _ => pure PersistenceCasOutcome.applied) store
      (fun outcome store' => match outcome with
        | .applied => op.Written store store'
        | .conflict => Untouched store store')
      (fun error store' =>
        if error.replacementVisible then op.Written store store' else Untouched store store') := by
  simp only [holds_do]
  refine holds_mono OpenStore.openCommit_spec (fun _ _ hs => hs.written hexpected happlied) ?_
  intro error store' hfailed
  unfold FailedWith at hfailed
  split at hfailed
  next hvisible =>
    rw [if_pos hvisible]
    exact hfailed.written hexpected happlied
  next hhidden =>
    rw [if_neg hhidden]
    exact hfailed

variable {error : FilePersistenceError} {document : BridgePersistenceDocument}
  {changes : List StableIntentChange}

theorem untouched_of_hidden {op : StoreOp} (h : error.replacementVisible = false) :
    if error.replacementVisible then op.Written store store else Untouched store store := by
  rw [h]
  exact Untouched.refl store

omit [DocumentCodec] in
theorem validateRecordSchema_error {version : PersistenceSchemaVersion}
    (h : validateRecordSchema version = .error error) : error.replacementVisible = false := by
  unfold validateRecordSchema reject at h
  split at h
  · cases h
    rfl
  · cases h

theorem restorePolicy_allOrNothing {expectedRevision : Option PersistenceRevision}
    {policy : PersistedRestorePolicy}
    (hvalid : validateDocument store.config.maxReceivers store.document = .ok ()) :
    (StoreOp.restorePolicy expectedRevision policy).AllOrNothing store := by
  unfold StoreOp.AllOrNothing
  simp only [StoreOp.run, OpenStore.compareAndSetRestorePolicy, casRestorePolicy, holds_do]
  refine ⟨fun _ _ => ?_, fun error herror => untouched_of_hidden (validateRecordSchema_error herror)⟩
  split
  · exact Untouched.refl store
  next hexpected =>
    have hdistinct := (validateDocument_distinct hvalid).1
    refine commit_allOrNothing (.restorePolicy expectedRevision policy) (not_not.mp hexpected) ?_
    refine ⟨?_, sortBy_perm _ _ _, sortBy_perm _ _ _⟩
    intro x
    have hmem := (sortBy_perm compare (fun p : PersistedRestorePolicy => p.receiverId)
      (upsert (·.receiverId) policy store.document.policies)).mem_iff (a := x)
    refine hmem.trans ((mem_upsert hdistinct).trans ?_)
    simp

section
omit [DocumentCodec]

theorem compareStableEntries_spec
    (h : compareStableEntries document changes = .ok .applied) :
    (StoreOp.stableEntries changes).Expected document := by
  induction changes with
  | nil =>
    intro change hchange
    cases hchange
  | cons change changes ih =>
    unfold compareStableEntries at h
    obtain ⟨_, _, h⟩ := bind_eq_ok h
    dsimp only at h
    split at h
    · cases h
    next heq =>
      intro c hc
      rcases mem_cons.mp hc with rfl | hc
      · exact not_not.mp heq
      · exact ih h c hc

theorem compareStableEntries_error
    (h : compareStableEntries document changes = .error error) :
    error.replacementVisible = false := by
  induction changes with
  | nil => cases h
  | cons change changes ih =>
    unfold compareStableEntries at h
    cases hschema : validateRecordSchema change.entry.schemaVersion with
    | error e =>
      rw [hschema] at h
      cases h
      exact validateRecordSchema_error hschema
    | ok _ =>
      rw [hschema] at h
      simp only [bind, Except.bind] at h
      split at h
      · cases h
      · exact ih h

end

theorem stableEntries_allOrNothing
    (hvalid : validateDocument store.config.maxReceivers store.document = .ok ()) :
    (StoreOp.stableEntries changes).AllOrNothing store := by
  unfold StoreOp.AllOrNothing
  simp only [StoreOp.run, OpenStore.compareAndSetStableEntries, casStableEntries]
  split
  next hnil =>
    subst hnil
    refine ⟨?_, ⟨.refl _, ?_, .refl _⟩, .inl (Untouched.refl store)⟩
    · intro change hchange
      cases hchange
    intro x
    simp
  simp only [holds_do]
  refine ⟨fun _ => untouched_of_hidden rfl, fun hchanges => ⟨fun compared hcompared => ?_,
    fun error herror => untouched_of_hidden (compareStableEntries_error herror)⟩⟩
  cases compared with
  | conflict => exact Untouched.refl store
  | applied =>
    have hexpected := compareStableEntries_spec hcompared
    obtain ⟨_, hmem⟩ := foldl_upsert_mem (validateDocument_distinct hvalid).2 (not_not.mp hchanges)
    refine commit_allOrNothing (.stableEntries changes) hexpected ?_
    refine ⟨sortBy_perm _ _ _, ?_, sortBy_perm _ _ _⟩
    intro x
    exact (sortBy_perm _ _ _).mem_iff.trans (hmem x)

section
omit [DocumentCodec]

theorem compareRestoreRecords_error {changes : List RestoreRecordChange}
    (h : compareRestoreRecords document changes = .error error) :
    error.replacementVisible = false ∧ error ≠ .capacity := by
  induction changes with
  | nil => cases h
  | cons change changes ih =>
    unfold compareRestoreRecords validateRecordSchema reject at h
    simp only [bind, Except.bind] at h
    split at h
    next hschema =>
      split at hschema
      · cases hschema
        cases h
        exact ⟨rfl, fun hno => by cases hno⟩
      · cases hschema
    split at h
    next hidentity =>
      split at hidentity
      · cases hidentity
        cases h
        exact ⟨rfl, fun hno => by cases hno⟩
      · cases hidentity
    split at h
    · cases h
    · exact ih h

/-- A receiver has more claims than its history holds, and too few of them can be replayed to drop
the overflow, or too few of these are free. -/
def NoRoom (records : List RestoreRecord) (protectedClaims : List RestoreClaimId) (receiverId : ReceiverId) : Prop :=
  let own := records.filter (·.receiverId = receiverId)
  let overflow := own.length - maxRestoreRecordsPerReceiver
  0 < overflow ∧ (own.countP (fun r => compactableTerminal r.status) < overflow + minTerminalReplayRecords ∨
    own.countP (fun r => compactableTerminal r.status ∧ r.claimId ∉ protectedClaims) < overflow)

variable {protectedClaims : List RestoreClaimId}

theorem compactedClaims_error_iff {receiverId : ReceiverId} :
    compactedClaims records protectedClaims receiverId = .error error ↔
      error = .capacity ∧ NoRoom records protectedClaims receiverId := by
  unfold compactedClaims NoRoom
  generalize records.filter (·.receiverId = receiverId) = own
  dsimp only
  split
  next hfits =>
    rw [hfits]
    exact ⟨fun h => (by cases h), fun h => absurd h.2.1 (Nat.lt_irrefl 0)⟩
  rw [(sortBy_perm _ _ _).length_eq, length_map, ← countP_eq_length_filter]
  split
  next hcrowded =>
    refine ⟨fun h => ?_, fun h => h.1 ▸ rfl⟩
    cases h
    exact ⟨rfl, by omega, by omega⟩
  next hroom => exact ⟨fun h => (by cases h), fun h => by omega⟩

theorem compactRestoreHistory_error
    (h : compactRestoreHistory document protectedClaims = .error error) :
    error = .capacity ∧ ∃ receiverId, NoRoom document.restoreRecords protectedClaims receiverId := by
  unfold compactRestoreHistory at h
  cases hremoved : ((document.restoreRecords.map (·.receiverId)).dedup).mapM
      (compactedClaims document.restoreRecords protectedClaims) with
  | ok removed =>
    rw [hremoved] at h
    cases h
  | error e =>
    rw [hremoved] at h
    cases h
    obtain ⟨receiverId, _, hclaims⟩ := mapM_error hremoved
    obtain ⟨hcapacity, hroom⟩ := compactedClaims_error_iff.mp hclaims
    exact ⟨hcapacity, receiverId, hroom⟩

theorem compactRestoreHistory_room {compacted : BridgePersistenceDocument}
    (h : compactRestoreHistory document protectedClaims = .ok compacted) (receiverId : ReceiverId) :
    ¬ NoRoom document.restoreRecords protectedClaims receiverId := by
  unfold compactRestoreHistory at h
  obtain ⟨lists, hlists, -⟩ := bind_eq_ok h
  intro hroom
  by_cases hlisted : receiverId ∈ (document.restoreRecords.map (·.receiverId)).dedup
  · obtain ⟨removed, _, hok⟩ := mapM_ok_image hlists receiverId hlisted
    cases hok.symm.trans (compactedClaims_error_iff.mpr ⟨rfl, hroom⟩)
  have hnone : document.restoreRecords.filter (·.receiverId = receiverId) = [] := by
    rw [filter_eq_nil_iff]
    intro r hr hown
    rw [mem_dedup] at hlisted
    exact hlisted (of_decide_eq_true hown ▸ mem_map_of_mem hr)
  unfold NoRoom at hroom
  rw [hnone] at hroom
  exact absurd hroom.1 (Nat.lt_irrefl 0)

end

theorem restoreRecords_allOrNothing {changes : List RestoreRecordChange}
    (hvalid : validateDocument store.config.maxReceivers store.document = .ok ()) :
    (StoreOp.restoreRecords changes).AllOrNothing store := by
  have hsound := validateDocument_sound hvalid
  unfold StoreOp.AllOrNothing
  simp only [StoreOp.run, OpenStore.compareAndSetRestoreRecords, casRestoreRecords]
  split
  next hnil =>
    subst hnil
    refine ⟨?_, ⟨.refl _, .refl _, Replaced.refl _⟩, .inl (Untouched.refl store)⟩
    intro change hchange
    cases hchange
  simp only [holds_do]
  refine ⟨fun _ => untouched_of_hidden rfl, fun hchanges => ⟨fun compared hcompared => ?_,
    fun error herror => untouched_of_hidden (compareRestoreRecords_error herror).1⟩⟩
  cases compared with
  | conflict => exact Untouched.refl store
  | applied =>
    simp only [holds_do]
    refine ⟨fun compacted hcompact => ?_,
      fun error herror => untouched_of_hidden (by rw [(compactRestoreHistory_error herror).1]; rfl)⟩
    have hscripted : FilePersistenceStore.Expected changes ⟨0, store.document, []⟩ :=
      compareRestoreRecords_applied hcompared
    have hexpected : (StoreOp.restoreRecords changes).Expected store.document := hscripted
    have hreplaced := restoreChanges_replaced hsound.distinct (not_not.mp hchanges) hcompact
    obtain ⟨hpolicies, hentries⟩ := compactRestoreHistory_others hcompact
    refine holds_bind.mp (commit_allOrNothing (.restoreRecords changes) hexpected ?_)
    refine ⟨?_, ?_, hreplaced⟩
    · exact (sortBy_perm _ _ _).trans (hpolicies ▸ .refl _)
    · exact (sortBy_perm _ _ _).trans (hentries ▸ .refl _)

end Specs

section Runs

variable [DocumentCodec]

/-- What memory holds is valid and is what opening the store again loads. -/
structure StoreConsistent (store : OpenStore) : Prop where
  valid : validateDocument store.config.maxReceivers store.document = .ok ()
  reopens : ∀ faults, ∃ reopened, openWithCommitter store.config store.disk faults = .ok reopened ∧
    reopened.document = store.document

variable {config : FilePersistenceConfig} {disk : Option (List UInt8)} {store store' : OpenStore}

theorem openWithCommitter_of_load {document : BridgePersistenceDocument}
    (faults : List (Option PersistenceIoStage)) (hconfig : ¬ (config.maxReceivers = 0 ∨ config.maxBytes = 0))
    (hload : loadDocument config disk = .ok (bridgePersistenceSchema, document))
    (hvalid : validateDocument config.maxReceivers document = .ok ()) :
    openWithCommitter config disk faults = .ok ⟨config, document, 0, disk, faults⟩ := by
  unfold openWithCommitter
  rw [reject_of_not hconfig, hload]
  simp [bind, Except.bind, reject, hvalid, pure, Except.pure]

theorem openWithCommitter_ok {faults : List (Option PersistenceIoStage)}
    (h : openWithCommitter config disk faults = .ok store) :
    ¬ (config.maxReceivers = 0 ∨ config.maxBytes = 0) ∧
      loadDocument config disk = .ok (bridgePersistenceSchema, store.document) ∧
      validateDocument config.maxReceivers store.document = .ok () ∧ store.config = config ∧
      store.disk = disk := by
  unfold openWithCommitter at h
  obtain ⟨_, hconfig, h⟩ := bind_eq_ok h
  obtain ⟨⟨schema, document⟩, hload, h⟩ := bind_eq_ok h
  obtain ⟨_, hschema, h⟩ := bind_eq_ok h
  obtain ⟨_, hvalid, h⟩ := bind_eq_ok h
  cases h
  have hname : schema = bridgePersistenceSchema := not_not.mp (reject_eq_ok hschema)
  rw [hname] at hload
  exact ⟨reject_eq_ok hconfig, hload, hvalid, rfl, rfl⟩

theorem StoreConsistent.bounds (h : StoreConsistent store) :
    ¬ (store.config.maxReceivers = 0 ∨ store.config.maxBytes = 0) := by
  obtain ⟨reopened, hopen, _⟩ := h.reopens []
  exact (openWithCommitter_ok hopen).1

theorem openWithCommitter_consistent {faults : List (Option PersistenceIoStage)}
    (h : openWithCommitter config disk faults = .ok store) : StoreConsistent store := by
  obtain ⟨hconfig, hload, hvalid, hsame, hdisk⟩ := openWithCommitter_ok h
  refine ⟨by rw [hsame]; exact hvalid, fun faults => ?_⟩
  rw [hsame, hdisk]
  exact ⟨_, openWithCommitter_of_load faults hconfig hload hvalid, rfl⟩

theorem Untouched.consistent (h : Untouched store store') (hstore : StoreConsistent store)
    : StoreConsistent store' := by
  refine ⟨?_, fun faults => ?_⟩
  · rw [h.config, h.document]
    exact hstore.valid
  rw [h.config, h.disk, h.document]
  exact hstore.reopens faults

theorem Committed.consistent {candidate : BridgePersistenceDocument} (h : Committed candidate store store')
    (hstore : StoreConsistent store) :
    StoreConsistent store' := by
  obtain ⟨bytes, hbytes, hsize, hdisk⟩ := h.disk
  have hload : loadDocument store.config (some bytes) = .ok (bridgePersistenceSchema, candidate) := by
    have hfits : ¬ bytes.length > store.config.maxBytes := by omega
    have hread := DocumentCodec.fromSlice_toVec _ _ _ hbytes
    simp [loadDocument, hfits, hread]
  refine ⟨?_, fun faults => ?_⟩
  · rw [h.config, h.document]
    exact h.valid
  rw [h.config, hdisk, h.document]
  exact ⟨_, openWithCommitter_of_load faults hstore.bounds hload h.valid, rfl⟩

theorem StoreOp.Written.consistent {op : StoreOp} (h : op.Written store store')
    (hstore : StoreConsistent store) : StoreConsistent store' := by
  obtain ⟨_, _, hsame | hcommitted⟩ := h
  · exact hsame.consistent hstore
  · exact hcommitted.consistent hstore

theorem StoreOp.allOrNothing (op : StoreOp) (h : StoreConsistent store) : op.AllOrNothing store := by
  cases op with
  | restorePolicy => exact restorePolicy_allOrNothing h.valid
  | stableEntries => exact stableEntries_allOrNothing h.valid
  | restoreRecords => exact restoreRecords_allOrNothing h.valid

theorem StoreOp.run_consistent (op : StoreOp) (h : StoreConsistent store) :
    StoreConsistent (final op.run store) := by
  refine holds_final (holds_mono (op.allOrNothing h) ?_ ?_)
  · intro outcome store' hs
    cases outcome with
    | applied | conflict => exact hs.consistent h
  intro error store' hs
  split at hs
  · exact hs.consistent h
  · exact hs.consistent h

inductive StoreReach (start : OpenStore) : OpenStore → Prop
  | start : StoreReach start start
  | step {store : OpenStore} (op : StoreOp) (faults : List (Option PersistenceIoStage)) :
      StoreReach start store → StoreReach start (final op.run { store with faults := faults })

theorem StoreConsistent.faults (h : StoreConsistent store) (faults : List (Option PersistenceIoStage))
    : StoreConsistent { store with faults := faults } :=
  ⟨h.valid, h.reopens⟩

/-- Whatever commits fail, before or after the replacement, memory stays valid and equal to what a
reopen loads, and every write is applied whole or not at all. -/
theorem storeReach_consistent {config : FilePersistenceConfig} {disk : Option (List UInt8)}
    {faults : List (Option PersistenceIoStage)} {start store : OpenStore}
    (hopen : openWithCommitter config disk faults = .ok start) (hrun : StoreReach start store) :
    StoreConsistent store ∧ ∀ (op : StoreOp) (faults : List (Option PersistenceIoStage)),
      op.AllOrNothing { store with faults := faults } := by
  have hconsistent : StoreConsistent store := by
    induction hrun with
    | start => exact openWithCommitter_consistent hopen
    | step op faults _ ih => exact op.run_consistent (ih.faults faults)
  refine ⟨hconsistent, fun op faults => ?_⟩
  exact op.allOrNothing (hconsistent.faults faults)

end Runs

def samplePolicy : PersistedRestorePolicy :=
  ⟨currentSchemaVersion, .lit "receiver", true, .lit 1⟩

def emptyDocument : BridgePersistenceDocument := ⟨[], [], []⟩

def policyDocument : BridgePersistenceDocument := ⟨[samplePolicy], [], []⟩

def jsonHead : String := "\x7b\"schema\":\"hyperflux-bridge-persistence-v1\",\"policies\":["

def jsonPolicy : String :=
  "\x7b\"schema_version\":1,\"receiver_id\":\"receiver\",\"enabled\":true,\"revision\":\"1\"\x7d"

def jsonTail : String := "],\"stable_entries\":[],\"restore_records\":[]\x7d"

def emptyJson : List UInt8 := (jsonHead ++ jsonTail).toUTF8.toList

def policyJson : List UInt8 := (jsonHead ++ jsonPolicy ++ jsonTail).toUTF8.toList

@[reducible] def sampleCodec : DocumentCodec where
  toVec schema document :=
    if schema ≠ bridgePersistenceSchema then none
    else if document = emptyDocument then some emptyJson
    else if document = policyDocument then some policyJson
    else none
  fromSlice bytes :=
    if bytes = emptyJson then some (bridgePersistenceSchema, emptyDocument)
    else if bytes = policyJson then some (bridgePersistenceSchema, policyDocument)
    else none
  fromSlice_toVec := by
    have hne : policyJson ≠ emptyJson := by decide +kernel
    intro schema document bytes h
    by_cases hschema : schema = bridgePersistenceSchema
    · by_cases hempty : document = emptyDocument
      · simp_all
      by_cases hpolicy : document = policyDocument
      · simp_all
      · simp_all
    · simp_all

def sampleStore : OpenStore := ⟨⟨16, 4194304⟩, emptyDocument, 0, none, []⟩

/-- A policy is saved while the directory cannot be synced: the call fails, and memory and the file
have the policy. -/
theorem storeReach_consistent_sample :
    letI := sampleCodec
    openWithCommitter ⟨16, 4194304⟩ none [] = .ok sampleStore ∧
      StoreConsistent (final (StoreOp.restorePolicy none samplePolicy).run
        { sampleStore with faults := [some .syncDirectory] }) := by
  let _ := sampleCodec
  have hopen : openWithCommitter ⟨16, 4194304⟩ none [] = .ok sampleStore := rfl
  exact ⟨hopen, (storeReach_consistent hopen (.step _ [some .syncDirectory] .start)).1⟩

end HyperfluxNext
