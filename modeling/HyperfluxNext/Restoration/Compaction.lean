import HyperfluxNext.Restoration.HistoryLimit
import HyperfluxNext.Restoration.RetirementSpec

namespace HyperfluxNext

open FilePersistenceStore List Procedure

/-- What compaction may do to a history. -/
structure SafelyCompacted (protectedClaims : List RestoreClaimId)
    (document compacted : BridgePersistenceDocument) : Prop where
  others : compacted.policies = document.policies ∧ compacted.stableEntries = document.stableEntries
  kept : compacted.restoreRecords.Sublist document.restoreRecords
  removed : ∀ r ∈ document.restoreRecords, r ∉ compacted.restoreRecords → r.claimId ∉ protectedClaims ∧
    ((∃ completion, r.status = .succeeded completion) ∨ ∃ reason, r.status = .invalidated reason)
  limit : ∀ receiverId, compacted.restoreRecords.countP (·.receiverId = receiverId) ≤
    maxRestoreRecordsPerReceiver
  overflow : ∀ receiverId, document.restoreRecords.countP (·.receiverId = receiverId) -
      compacted.restoreRecords.countP (·.receiverId = receiverId) ≤
    document.restoreRecords.countP (·.receiverId = receiverId) - maxRestoreRecordsPerReceiver
  replayable : ∀ receiverId, compacted.restoreRecords.countP (·.receiverId = receiverId) <
      document.restoreRecords.countP (·.receiverId = receiverId) →
    minTerminalReplayRecords ≤ compacted.restoreRecords.countP fun r =>
      r.receiverId = receiverId ∧ compactableTerminal r.status

section Counting

variable {records : List RestoreRecord} {protectedClaims : List RestoreClaimId} {receiverId : ReceiverId}
  {removed : List RestoreClaimId}

/-- The claims to drop are as many as the receiver has too many, and leave enough to replay. -/
theorem compactedClaims_count (hd : (records.map (·.claimId)).Nodup)
    (h : compactedClaims records protectedClaims receiverId = .ok removed) :
    removed.Nodup ∧
      removed.length = records.countP (·.receiverId = receiverId) - maxRestoreRecordsPerReceiver ∧
      (0 < removed.length → removed.length + minTerminalReplayRecords ≤
        records.countP fun r => r.receiverId = receiverId ∧ compactableTerminal r.status) := by
  unfold compactedClaims at h
  dsimp only at h
  rw [countP_eq_length_filter]
  split at h
  next hfits =>
    cases h
    rw [hfits]
    exact ⟨nodup_nil, rfl, fun hpositive => absurd hpositive (Nat.lt_irrefl 0)⟩
  split at h
  · cases h
  next henough =>
    obtain ⟨hreplay, heligible⟩ := not_or.mp henough
    have h := Except.ok.inj h
    rw [← h]
    have hclaims : ((sortBy comparePair id ((records.filter (·.receiverId = receiverId)).filter (fun record =>
        compactableTerminal record.status ∧ record.claimId ∉ protectedClaims) |>.map
          fun record => (record.revision, record.claimId))).map (·.2)).Nodup := by
      rw [((sortBy_perm _ _ _).map _).nodup_iff, map_map]
      exact hd.sublist ((filter_sublist.trans filter_sublist).map _)
    refine ⟨hclaims.sublist ((take_sublist _ _).map _), ?_, ?_⟩
    · rw [length_map, length_take]
      omega
    intro _
    rw [length_map, length_take]
    have hsame : (records.filter (·.receiverId = receiverId)).countP
        (fun record => compactableTerminal record.status) =
          records.countP fun r => r.receiverId = receiverId ∧ compactableTerminal r.status := by
      rw [countP_filter]
      apply countP_congr
      intro r _
      simp [and_comm]
    rw [← hsame]
    omega

variable {lists : List (List RestoreClaimId)}

/-- The claims of one receiver among all that are dropped are the ones dropped for it. -/
theorem mem_flatten_compacted (hd : (records.map (·.claimId)).Nodup)
    (hlists : ((records.map (·.receiverId)).dedup).mapM (compactedClaims records protectedClaims) = .ok lists)
    (h : compactedClaims records protectedClaims receiverId = .ok removed) {r : RestoreRecord}
    (hr : r ∈ records) (hreceiver : r.receiverId = receiverId) :
    r.claimId ∈ lists.flatten ↔ r.claimId ∈ removed := by
  constructor
  · intro hmem
    obtain ⟨claims, hclaims, hclaim⟩ := mem_flatten.mp hmem
    obtain ⟨other, _, hother⟩ := mapM_ok_mem hlists claims hclaims
    obtain ⟨_, r', hr', hown, heq, _⟩ := compactedClaims_spec hother r.claimId hclaim
    have hsame := eq_of_claimId hd hr' hr heq
    rw [hsame, hreceiver] at hown
    subst hown
    rw [h] at hother
    cases hother
    exact hclaim
  intro hmem
  have hlisted : receiverId ∈ (records.map (·.receiverId)).dedup := by
    rw [mem_dedup, ← hreceiver]
    exact mem_map_of_mem hr
  obtain ⟨claims, hclaims, hok⟩ := mapM_ok_image hlists receiverId hlisted
  rw [h] at hok
  cases hok
  exact mem_flatten.mpr ⟨_, hclaims, hmem⟩

theorem countP_compacted (hd : (records.map (·.claimId)).Nodup)
    (hlists : ((records.map (·.receiverId)).dedup).mapM (compactedClaims records protectedClaims) = .ok lists)
    (h : compactedClaims records protectedClaims receiverId = .ok removed) (hnodup : removed.Nodup)
    {p : RestoreRecord → Bool} (hp : ∀ r ∈ records, r.receiverId = receiverId → compactableTerminal r.status → p r) :
    records.countP (fun r => r.receiverId = receiverId ∧ p r) =
      (records.filter (·.claimId ∉ lists.flatten)).countP (fun r => r.receiverId = receiverId ∧ p r) +
        removed.length := by
  have hgone : (records.filter fun r => (r.receiverId = receiverId ∧ p r) ∧ r.claimId ∈ lists.flatten).map
      (·.claimId) |>.Perm removed := by
    rw [perm_ext_iff_of_nodup (hd.sublist (filter_sublist.map _)) hnodup]
    intro claimId
    rw [mem_map]
    constructor
    · intro ⟨r, hr, heq⟩
      obtain ⟨hmem, hchosen⟩ := mem_filter.mp hr
      obtain ⟨⟨hreceiver, -⟩, hflatten⟩ := of_decide_eq_true hchosen
      rw [← heq]
      exact (mem_flatten_compacted hd hlists h hmem hreceiver).mp hflatten
    intro hclaim
    obtain ⟨_, r, hr, hreceiver, heq, hterminal⟩ := compactedClaims_spec h claimId hclaim
    refine ⟨r, mem_filter.mpr ⟨hr, decide_eq_true ⟨⟨hreceiver, hp r hr hreceiver hterminal⟩, ?_⟩⟩, heq⟩
    rw [mem_flatten_compacted hd hlists h hr hreceiver, heq]
    exact hclaim
  have hsplit := length_eq_length_filter_add (l := records.filter fun r => r.receiverId = receiverId ∧ p r)
    fun r => decide (r.claimId ∈ lists.flatten)
  have hlength := hgone.length_eq
  rw [length_map] at hlength
  have hdropped : ((records.filter fun r => r.receiverId = receiverId ∧ p r).filter
      fun r => decide (r.claimId ∈ lists.flatten)).length = removed.length := by
    rw [← hlength, filter_filter]
    apply congrArg List.length
    apply filter_congr
    intro r _
    rw [Bool.and_comm, Bool.decide_and (_ ∧ _)]
  have hrest : ((records.filter fun r => r.receiverId = receiverId ∧ p r).filter
      fun r => ! decide (r.claimId ∈ lists.flatten)).length =
        (records.filter (·.claimId ∉ lists.flatten)).countP fun r => r.receiverId = receiverId ∧ p r := by
    rw [countP_eq_length_filter, filter_filter, filter_filter]
    apply congrArg List.length
    apply filter_congr
    intro r _
    rw [decide_not, Bool.and_comm]
  rw [countP_eq_length_filter, hsplit, hdropped, hrest]
  exact Nat.add_comm _ _

end Counting

theorem compactRestoreHistory_safe {document compacted : BridgePersistenceDocument}
    {protectedClaims : List RestoreClaimId} (hd : (document.restoreRecords.map (·.claimId)).Nodup)
    (h : compactRestoreHistory document protectedClaims = .ok compacted) :
    SafelyCompacted protectedClaims document compacted := by
  have hothers := compactRestoreHistory_others h
  obtain ⟨-, hkept⟩ := compactRestoreHistory_spec hd h
  unfold compactRestoreHistory at h
  obtain ⟨lists, hlists, h⟩ := bind_eq_ok h
  cases h
  have hcounts : ∀ receiverId, ∃ count,
      count = document.restoreRecords.countP (·.receiverId = receiverId) - maxRestoreRecordsPerReceiver ∧
      (0 < count → count + minTerminalReplayRecords ≤
        document.restoreRecords.countP fun r => r.receiverId = receiverId ∧ compactableTerminal r.status) ∧
      ∀ p : RestoreRecord → Bool, (∀ r, compactableTerminal r.status → p r) →
        document.restoreRecords.countP (fun r => r.receiverId = receiverId ∧ p r) =
          (document.restoreRecords.filter (·.claimId ∉ lists.flatten)).countP
            (fun r => r.receiverId = receiverId ∧ p r) + count := by
    intro receiverId
    by_cases hlisted : receiverId ∈ (document.restoreRecords.map (·.receiverId)).dedup
    · obtain ⟨removed, _, hok⟩ := mapM_ok_image hlists receiverId hlisted
      obtain ⟨hnodup, hlength, hreplay⟩ := compactedClaims_count hd hok
      exact ⟨removed.length, hlength, hreplay,
        fun p hp => countP_compacted hd hlists hok hnodup fun r _ _ => hp r⟩
    rw [mem_dedup] at hlisted
    have hnone : ∀ p : RestoreRecord → Bool, ∀ records : List RestoreRecord,
        records ⊆ document.restoreRecords → records.countP (fun r => r.receiverId = receiverId ∧ p r) = 0 := by
      intro p records hsubset
      rw [countP_eq_zero]
      intro r hr hown
      apply hlisted
      rw [← (of_decide_eq_true hown).1]
      exact mem_map_of_mem (hsubset hr)
    have hempty := hnone (fun _ => true) _ (List.Subset.refl _)
    simp only [and_true] at hempty
    refine ⟨0, by rw [hempty]; rfl, fun hpositive => absurd hpositive (Nat.lt_irrefl 0), ?_⟩
    intro p _
    rw [hnone p _ (List.Subset.refl _), hnone p _ (filter_subset_self _)]
  have hplain : ∀ receiverId, ∃ count,
      count = document.restoreRecords.countP (·.receiverId = receiverId) - maxRestoreRecordsPerReceiver ∧
      document.restoreRecords.countP (·.receiverId = receiverId) =
        (document.restoreRecords.filter (·.claimId ∉ lists.flatten)).countP (·.receiverId = receiverId) + count := by
    intro receiverId
    obtain ⟨count, hcount, -, hall⟩ := hcounts receiverId
    have htotal := hall (fun _ => true) fun _ _ => rfl
    simp only [and_true] at htotal
    exact ⟨count, hcount, htotal⟩
  refine ⟨hothers, filter_sublist, ?_, ?_, ?_, ?_⟩
  · intro r hr hgone
    obtain ⟨hfree, hterminal⟩ := (hkept r hr).resolve_left hgone
    refine ⟨hfree, ?_⟩
    cases hstatus : r.status with
    | succeeded completion => exact .inl ⟨completion, rfl⟩
    | invalidated reason => exact .inr ⟨reason, rfl⟩
    | _ =>
      rw [hstatus] at hterminal
      cases hterminal
  · intro receiverId
    obtain ⟨count, hcount, htotal⟩ := hplain receiverId
    dsimp only
    omega
  · intro receiverId
    obtain ⟨count, hcount, htotal⟩ := hplain receiverId
    dsimp only
    omega
  intro receiverId hfewer
  obtain ⟨count, hcount, htotal⟩ := hplain receiverId
  obtain ⟨count', hcount', hreplay, hall⟩ := hcounts receiverId
  have hsome := hall (fun r => compactableTerminal r.status) fun _ h => h
  have hsame : count' = count := hcount'.trans hcount.symm
  subst hsame
  dsimp only at hfewer ⊢
  have hpositive : 0 < count' := by omega
  have henough := hreplay hpositive
  omega

variable {document : BridgePersistenceDocument}

theorem compareRestoreRecords_checked {changes : List RestoreRecordChange}
    (h : compareRestoreRecords document changes = .ok .applied) :
    ∀ change ∈ changes, change.record.schemaVersion = currentSchemaVersion ∧
      ∀ current, document.restoreRecords.find? (·.claimId = change.record.claimId) = some current →
        current.receiverId = change.record.receiverId := by
  induction changes with
  | nil => exact fun _ hmem => (by cases hmem)
  | cons first changes ih =>
    unfold compareRestoreRecords at h
    obtain ⟨_, hschema, h⟩ := bind_eq_ok h
    obtain ⟨_, hidentity, h⟩ := bind_eq_ok h
    split at h
    · cases h
    intro change hchange
    obtain hsame | hrest := mem_cons.mp hchange
    · rw [hsame]
      refine ⟨not_not.mp (reject_eq_ok hschema), ?_⟩
      intro current hcurrent
      have hsound := reject_eq_ok hidentity
      rw [hcurrent] at hsound
      simp only [Option.any_some, decide_eq_true_eq, not_or, not_not] at hsound
      exact hsound.1
    · exact ih h change hrest

/-- A batch over stored claims has room, and leaves a document that passes its check. -/
theorem updates_fit {maxReceivers : Nat} {changes : List RestoreRecordChange}
    (hvalid : validateDocument maxReceivers document = .ok ())
    (hcompared : compareRestoreRecords document changes = .ok .applied)
    (hchanges : (changes.map (·.record.claimId)).Nodup)
    (hupdates : ∀ change ∈ changes, change.record.claimId ∈ document.restoreRecords.map (·.claimId)) :
    DocumentFits maxReceivers (applyRestoreChanges document changes) := by
  have hstore : FilePersistenceStore.Valid ⟨maxReceivers, document, []⟩ := hvalid
  have hfits := hstore.fits
  have hchecked := compareRestoreRecords_checked hcompared
  have hstored : ∀ change ∈ changes, (change.record.claimId, change.record.receiverId) ∈
      document.restoreRecords.map fun r => (r.claimId, r.receiverId) := by
    intro change hchange
    obtain ⟨r, hr, heq⟩ := mem_map.mp (hupdates change hchange)
    have hfound : document.restoreRecords.find? (·.claimId = change.record.claimId) = some r := by
      cases hfind : document.restoreRecords.find? (·.claimId = change.record.claimId) with
      | none =>
        have hnone := find?_eq_none.mp hfind r hr
        rw [decide_eq_true_eq] at hnone
        exact absurd heq hnone
      | some other =>
        have hclaim := find?_some hfind
        rw [decide_eq_true_eq] at hclaim
        rw [eq_of_claimId hfits.claims (mem_of_find?_eq_some hfind) hr (hclaim.trans heq.symm)]
    rw [← heq, ← (hchecked change hchange).2 r hfound]
    exact mem_map_of_mem (f := fun r : RestoreRecord => (r.claimId, r.receiverId)) hr
  have hmarks := foldl_upsert_marks (fun change : RestoreRecordChange => change.record) hfits.claims hstored
  have hreceivers := congrArg (List.map Prod.snd) hmarks
  simp only [map_map] at hreceivers
  obtain ⟨hnodup, hmem⟩ := foldl_upsert_mem hfits.claims hchanges
  refine ⟨hfits.policies, hfits.policyKeys, hfits.policySchemas, hfits.entryKeys, hfits.entrySchemas, hnodup, ?_, ?_,
    hfits.entryCounts, ?_⟩
  · intro r hr
    obtain hwritten | ⟨hold, -⟩ := (hmem r).mp hr
    · obtain ⟨change, hchange, hsame⟩ := mem_map.mp hwritten
      rw [← hsame]
      exact (hchecked change hchange).1
    · exact hfits.recordSchemas r hold
  · have hsame : documentReceivers (applyRestoreChanges document changes) = documentReceivers document := by
      unfold documentReceivers
      exact congrArg (fun receivers => (document.policies.map (·.receiverId) ++
        document.stableEntries.map (·.receiverId) ++ receivers).dedup) hreceivers
    rw [hsame]
    exact hfits.receivers
  intro receiverId
  have hcount := hfits.recordCounts receiverId
  have hcountP : ∀ records : List RestoreRecord, records.countP (·.receiverId = receiverId) =
      (records.map (·.receiverId)).countP (· = receiverId) := by
    intro records
    rw [countP_map]
    rfl
  rw [hcountP] at hcount ⊢
  exact hreceivers ▸ hcount

section Batches

variable [DocumentCodec] {store : OpenStore} {changes : List RestoreRecordChange}

theorem openCommit_never_capacity {candidate : BridgePersistenceDocument}
    (hvalid : validateDocument store.config.maxReceivers candidate = .ok ()) :
    Holds (OpenStore.commit candidate) store (fun _ _ => True) (fun error _ => error ≠ .capacity) := by
  simp only [OpenStore.commit, holds_do]
  refine ⟨fun _ _ => ?_, fun error herror => ?_⟩
  · split
    · exact fun h => FilePersistenceError.noConfusion h
    simp only [holds_do]
    refine ⟨fun _ hno => (by cases hno), fun _ => ?_⟩
    simp only [OpenStore.atomicCommit, holds_do]
    refine ⟨fun _ => ?_, fun _ => ?_⟩
    · simp
    split
    · trivial
    · exact fun h => FilePersistenceError.noConfusion h
    · exact fun h => FilePersistenceError.noConfusion h
  have hcheck : validateDocument store.config.maxReceivers candidate = .error error := herror
  rw [hvalid] at hcheck
  cases hcheck

theorem updateBatch_never_capacity
    (hvalid : validateDocument store.config.maxReceivers store.document = .ok ())
    (hupdates : ∀ change ∈ changes, change.record.claimId ∈ store.document.restoreRecords.map (·.claimId)) :
    Holds (OpenStore.compareAndSetRestoreRecords changes) store (fun _ _ => True)
      (fun error _ => error ≠ .capacity) := by
  unfold OpenStore.compareAndSetRestoreRecords casRestoreRecords
  split
  · trivial
  simp only [holds_do]
  refine ⟨fun _ hno => (by cases hno), fun hchanges => ⟨fun compared hcompared => ?_,
    fun error herror => (compareRestoreRecords_error herror).2⟩⟩
  cases compared with
  | conflict => trivial
  | applied =>
    have hfits := updates_fit hvalid hcompared (not_not.mp hchanges) hupdates
    simp only [holds_do]
    refine ⟨fun compacted hcompact => ?_, fun error herror => ?_⟩
    · have hsame := compactRestoreHistory_within hfits.recordCounts hcompact
      obtain ⟨hpolicies, hentries⟩ := compactRestoreHistory_others hcompact
      have hdocument : compacted = applyRestoreChanges store.document changes := by
        cases compacted
        cases hsame
        cases hpolicies
        cases hentries
        rfl
      rw [hdocument]
      exact openCommit_never_capacity hfits.canonical
    obtain ⟨-, receiverId, hover, -⟩ := compactRestoreHistory_error herror
    rw [← countP_eq_length_filter] at hover
    have hcount := hfits.recordCounts receiverId
    omega

/-- Compaction fails exactly when some receiver has no room, for want of capacity. Otherwise it drops no
more than the overflow of a stored document and a batch, and only finished claims that can be replayed.
A batch that fails so changes nothing, and one over stored claims never does. -/
theorem compaction_safe :
    (∀ (document : BridgePersistenceDocument) (protectedClaims : List RestoreClaimId),
      match compactRestoreHistory document protectedClaims with
      | .ok _ => ∀ receiverId, ¬ NoRoom document.restoreRecords protectedClaims receiverId
      | .error error => error = .capacity ∧
        ∃ receiverId, NoRoom document.restoreRecords protectedClaims receiverId) ∧
    (∀ (maxReceivers : Nat) (document compacted : BridgePersistenceDocument) (changes : List RestoreRecordChange),
      validateDocument maxReceivers document = .ok () → (changes.map (·.record.claimId)).Nodup →
      compactRestoreHistory (applyRestoreChanges document changes) (changes.map (·.record.claimId)) = .ok compacted →
      SafelyCompacted (changes.map (·.record.claimId)) (applyRestoreChanges document changes) compacted) ∧
    ∀ (config : FilePersistenceConfig) (disk : Option (List UInt8)) (faults : List (Option PersistenceIoStage))
      (start store : OpenStore), openWithCommitter config disk faults = .ok start → StoreReach start store →
      ∀ (changes : List RestoreRecordChange) (faults : List (Option PersistenceIoStage)),
        Holds (OpenStore.compareAndSetRestoreRecords changes) { store with faults := faults } (fun _ _ => True)
          (fun error store' => error = .capacity →
            Untouched { store with faults := faults } store' ∧
              ∃ change ∈ changes, change.record.claimId ∉ store.document.restoreRecords.map (·.claimId)) := by
  refine ⟨?_, ?_, ?_⟩
  · intro document protectedClaims
    cases h : compactRestoreHistory document protectedClaims with
    | ok compacted => exact compactRestoreHistory_room h
    | error error => exact compactRestoreHistory_error h
  · intro maxReceivers document compacted changes hvalid hchanges h
    refine compactRestoreHistory_safe ?_ h
    exact (foldl_upsert_mem (validateDocument_sound hvalid).distinct hchanges).1
  intro config disk faults start store hopen hreach changes faults
  obtain ⟨hconsistent, hwrites⟩ := storeReach_consistent hopen hreach
  have hwhole := hwrites (.restoreRecords changes) faults
  by_cases hupdates : ∀ change ∈ changes, change.record.claimId ∈ store.document.restoreRecords.map (·.claimId)
  · refine holds_mono (updateBatch_never_capacity (hconsistent.faults faults).valid hupdates)
      (fun _ _ _ => trivial) ?_
    intro error _ hne hcapacity
    exact absurd hcapacity hne
  refine holds_mono hwhole (fun _ _ _ => trivial) ?_
  intro error store' huntouched hcapacity
  rw [hcapacity] at huntouched
  obtain ⟨change, hchange, hfresh⟩ := not_forall₂.mp hupdates
  exact ⟨huntouched, change, hchange, hfresh⟩

end Batches

/-- One claim more than the history of the receiver holds. -/
def newestRecord : RestoreRecord := { latestRecord with claimId := revisionClaim 257 }

def newestChange : RestoreRecordChange := ⟨none, newestRecord⟩

/-- The claims of the store whose history is full. -/
abbrev fullHistory : List RestoreRecord := fullStart.store.document.restoreRecords

theorem fullHistory_perm : fullHistory.Perm revisionHistory := by
  unfold fullHistory
  rw [fullStart_store]
  exact sortBy_perm _ _ _

theorem newest_fresh : ∀ r ∈ fullHistory, r.claimId ≠ newestRecord.claimId := by
  intro r hr heq
  obtain ⟨i, rfl⟩ := mem_revisionHistory.mp (fullHistory_perm.mem_iff.mp hr)
  have hi : i.val + 1 ≤ u64Max := Nat.le_trans i.isLt (by decide)
  have hsame : i.val + 1 = 257 := revisionClaim_injective hi (by decide) heq
  have hbound := i.isLt
  unfold maxRestoreRecordsPerReceiver at hbound
  omega

theorem applyRestoreChanges_fresh {record : RestoreRecord}
    (h : ∀ r ∈ document.restoreRecords, r.claimId ≠ record.claimId) :
    (applyRestoreChanges document [⟨none, record⟩]).restoreRecords = document.restoreRecords ++ [record] := by
  have hupsert : upsert (·.claimId) record document.restoreRecords = document.restoreRecords ++ [record] :=
    upsert_fresh h
  simp only [applyRestoreChanges, foldl_cons, foldl_nil, hupsert]

theorem newest_records : (applyRestoreChanges fullStart.store.document [newestChange]).restoreRecords =
    fullHistory ++ [newestRecord] :=
  applyRestoreChanges_fresh newest_fresh

theorem full_length : fullHistory.length = maxRestoreRecordsPerReceiver := by
  rw [fullHistory_perm.length_eq]
  unfold revisionHistory
  rw [length_map, length_finRange]
theorem newest_own : ∀ r ∈ fullHistory ++ [newestRecord], r.receiverId = resumeTrigger.receiverId ∧
    r.status = .invalidated .supersededTrigger := by
  intro r hr
  obtain hold | hnew := mem_append.mp hr
  · obtain ⟨i, rfl⟩ := mem_revisionHistory.mp (fullHistory_perm.mem_iff.mp hold)
    exact ⟨rfl, rfl⟩
  · rw [mem_singleton.mp hnew]
    exact ⟨rfl, rfl⟩

theorem newest_length : (fullHistory ++ [newestRecord]).length = 257 := by
  rw [length_append, full_length]
  rfl

/-- All claims of the receiver can be replayed, so the history has room for one more. -/
theorem newest_room (receiverId : ReceiverId) :
    ¬ NoRoom (fullHistory ++ [newestRecord]) [newestRecord.claimId] receiverId := by
  unfold NoRoom maxRestoreRecordsPerReceiver minTerminalReplayRecords
  dsimp only
  by_cases hown : receiverId = resumeTrigger.receiverId
  · have hfilter : (fullHistory ++ [newestRecord]).filter (·.receiverId = receiverId) =
        fullHistory ++ [newestRecord] :=
      filter_eq_self.mpr fun r hr => decide_eq_true ((newest_own r hr).1.trans hown.symm)
    have hreplay : (fullHistory ++ [newestRecord]).countP (fun r => compactableTerminal r.status) = 257 := by
      rw [countP_eq_length.mpr fun r hr => (by rw [(newest_own r hr).2]; rfl), newest_length]
    have hfree : fullHistory.countP
        (fun r => compactableTerminal r.status ∧ r.claimId ∉ [newestRecord.claimId]) = 256 := by
      rw [countP_eq_length.mpr, full_length]
      · rfl
      intro r hr
      rw [(newest_own r (mem_append_left _ hr)).2]
      exact decide_eq_true ⟨rfl, fun hmem => newest_fresh r hr (mem_singleton.mp hmem)⟩
    rw [hfilter, hreplay, countP_append, hfree, newest_length]
    omega
  have hnone : (fullHistory ++ [newestRecord]).filter (·.receiverId = receiverId) = [] :=
    filter_eq_nil_iff.mpr fun r hr hsame => hown ((of_decide_eq_true hsame).symm.trans (newest_own r hr).1)
  rw [hnone]
  exact fun h => absurd h.1 (Nat.lt_irrefl 0)

/-- The same claims, none of which has run. -/
@[irreducible] def plannedHistory : List RestoreRecord :=
  (fullHistory ++ [newestRecord]).map ({ · with status := .planned })

theorem planned_own (r : RestoreRecord) (h : r ∈ plannedHistory) :
    r.receiverId = resumeTrigger.receiverId ∧ r.status = .planned := by
  unfold plannedHistory at h
  obtain ⟨own, hown, heq⟩ := mem_map.mp h
  rw [← heq]
  exact ⟨(newest_own own hown).1, rfl⟩

theorem planned_noRoom : NoRoom plannedHistory [] resumeTrigger.receiverId := by
  have hlength : plannedHistory.length = 257 := by
    unfold plannedHistory
    rw [length_map, newest_length]
  have hnone : plannedHistory.countP (fun r => compactableTerminal r.status) = 0 := by
    rw [countP_eq_zero]
    intro r hr
    rw [(planned_own r hr).2]
    exact Bool.false_ne_true
  have hfilter : plannedHistory.filter (·.receiverId = resumeTrigger.receiverId) = plannedHistory :=
    filter_eq_self.mpr fun r hr => decide_eq_true (planned_own r hr).1
  refine ⟨?_, .inl ?_⟩
  · rw [hfilter, hlength]
    decide
  rw [hfilter, hlength, hnone]
  decide

/-- A new claim drops one claim of a full history. There is no capacity for it when none of the claims has
run, and a first claim of an empty store has room. -/
theorem compaction_safe_full :
    let _ := sampleCodec
    (∃ compacted, compactRestoreHistory (applyRestoreChanges fullStart.store.document [newestChange])
        [newestRecord.claimId] = .ok compacted ∧
      (applyRestoreChanges fullStart.store.document [newestChange]).restoreRecords.length = 257 ∧
      compacted.restoreRecords.countP (·.receiverId = resumeTrigger.receiverId) = 256) ∧
    compactRestoreHistory ⟨[], [], plannedHistory⟩ [] = .error .capacity ∧
    Holds (OpenStore.compareAndSetRestoreRecords [⟨none, latestRecord⟩]) sampleStore (fun _ _ => True)
      (fun error store' => error = .capacity → Untouched sampleStore store' ∧
        ∃ change ∈ [(⟨none, latestRecord⟩ : RestoreRecordChange)],
          change.record.claimId ∉ sampleStore.document.restoreRecords.map (·.claimId)) := by
  let _ := sampleCodec
  obtain ⟨hanswers, hsafe, hbatch⟩ := compaction_safe
  have hopen : openWithCommitter ⟨16, 4194304⟩ none [] = .ok sampleStore := rfl
  refine ⟨?_, ?_, hbatch _ _ _ _ _ hopen .start [⟨none, latestRecord⟩] []⟩
  · have hanswer := hanswers (applyRestoreChanges fullStart.store.document [newestChange]) [newestRecord.claimId]
    cases hcompact : compactRestoreHistory (applyRestoreChanges fullStart.store.document [newestChange])
        [newestRecord.claimId] with
    | error error =>
      rw [hcompact, newest_records] at hanswer
      obtain ⟨-, receiverId, hnone⟩ := hanswer
      exact absurd hnone (newest_room receiverId)
    | ok compacted =>
      have hcompacted := hsafe _ _ compacted [newestChange] fullStart_valid (nodup_singleton _) hcompact
      have hlimit := hcompacted.limit resumeTrigger.receiverId
      have hoverflow := hcompacted.overflow resumeTrigger.receiverId
      rw [newest_records, countP_eq_length.mpr fun r hr => decide_eq_true (newest_own r hr).1,
        newest_length] at hoverflow
      unfold maxRestoreRecordsPerReceiver at hlimit hoverflow
      rw [newest_records, newest_length]
      exact ⟨compacted, rfl, rfl, by omega⟩
  have hanswer := hanswers ⟨[], [], plannedHistory⟩ []
  cases hcompact : compactRestoreHistory ⟨[], [], plannedHistory⟩ [] with
  | ok =>
    rw [hcompact] at hanswer
    exact absurd planned_noRoom (hanswer _)
  | error error =>
    rw [hcompact] at hanswer
    rw [hanswer.1]

end HyperfluxNext
