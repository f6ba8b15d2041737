import HyperfluxNext.Restoration.LifeCycle

namespace HyperfluxNext

open FilePersistenceStore List Procedure

section Batches

variable {α κ β : Type} [DecidableEq κ] {key : α → κ} {mark : α → β}

theorem upsert_marks {value : α} {l : List α} (hd : (l.map key).Nodup)
    (hv : (key value, mark value) ∈ l.map fun x => (key x, mark x)) :
    (upsert key value l).map (fun x => (key x, mark x)) = l.map fun x => (key x, mark x) := by
  induction l with
  | nil => simp at hv
  | cons y l ih =>
    rw [map_cons, nodup_cons] at hd
    rw [map_cons, mem_cons] at hv
    unfold upsert
    by_cases heq : key y = key value
    · have hsame : (key value, mark value) = (key y, mark y) := by
        rcases hv with hv | hv
        · exact hv
        obtain ⟨x, hx, hpair⟩ := mem_map.mp hv
        have hkey : key x = key y := (congrArg Prod.fst hpair).trans heq.symm
        exact absurd (hkey ▸ mem_map_of_mem hx) hd.1
      rw [if_pos heq, map_cons, map_cons, hsame]
    have htail : (key value, mark value) ∈ l.map fun x => (key x, mark x) := by
      rcases hv with hv | hv
      · exact absurd (congrArg Prod.fst hv).symm heq
      · exact hv
    rw [if_neg heq, map_cons, map_cons, ih hd.2 htail]

theorem foldl_upsert_marks {γ : Type} (value : γ → α) {changes : List γ} {l : List α} (hd : (l.map key).Nodup)
    (hv : ∀ change ∈ changes, (key (value change), mark (value change)) ∈ l.map fun x => (key x, mark x)) :
    (changes.foldl (fun l change => upsert key (value change) l) l).map
      (fun x => (key x, mark x)) = l.map fun x => (key x, mark x) := by
  induction changes generalizing l with
  | nil => rfl
  | cons change changes ih =>
    have hfirst := upsert_marks hd (hv change mem_cons_self)
    rw [foldl_cons, ← hfirst]
    refine ih (nodup_upsert hd) ?_
    intro later hlater
    rw [hfirst]
    exact hv later (mem_cons_of_mem _ hlater)

end Batches

/-- Compaction removes nothing while no receiver is over the limit. -/
theorem compactRestoreHistory_within {document compacted : BridgePersistenceDocument}
    {protectedClaims : List RestoreClaimId}
    (hcapacity : ∀ receiverId, document.restoreRecords.countP (·.receiverId = receiverId) ≤
      maxRestoreRecordsPerReceiver)
    (h : compactRestoreHistory document protectedClaims = .ok compacted) :
    compacted.restoreRecords = document.restoreRecords := by
  unfold compactRestoreHistory at h
  obtain ⟨removed, hremoved, h⟩ := bind_eq_ok h
  cases h
  have hnone : ∀ claims ∈ removed, claims = [] := by
    intro claims hclaims
    obtain ⟨receiverId, _, hok⟩ := mapM_ok_mem hremoved claims hclaims
    have hcount := hcapacity receiverId
    rw [countP_eq_length_filter] at hcount
    have hoverflow : (document.restoreRecords.filter (·.receiverId = receiverId)).length -
        maxRestoreRecordsPerReceiver = 0 := by omega
    simp only [compactedClaims, hoverflow, if_true] at hok
    exact (Except.ok.inj hok).symm
  rw [flatten_eq_nil_iff.mpr hnone]
  simp

variable {changes : List RestoreRecordChange}

namespace FilePersistenceStore

def Updates (changes : List RestoreRecordChange) (store : FilePersistenceStore) : Prop :=
  ∀ change ∈ changes, (change.record.claimId, change.record.receiverId) ∈
    store.document.restoreRecords.map fun r => (r.claimId, r.receiverId)

/-- Every record the batch does not name is still there. -/
def KeepsOthers (changes : List RestoreRecordChange) (store store' : FilePersistenceStore) : Prop :=
  ∀ r ∈ store.document.restoreRecords, (∀ w ∈ changes.map (·.record), w.claimId ≠ r.claimId) →
    r ∈ store'.document.restoreRecords

theorem compareAndSetRestoreRecords_updates {store : FilePersistenceStore}
    (hsound : StoreSound store.document.restoreRecords) (hupdates : Updates changes store) :
    Holds (compareAndSetRestoreRecords changes) store
      (fun outcome store' => outcome = .applied → KeepsOthers changes store store')
      (fun _ store' => store'.document = store.document ∨ KeepsOthers changes store store') := by
  unfold compareAndSetRestoreRecords
  split
  · intro _ r hr _
    exact hr
  simp only [holds_do]
  refine ⟨fun _ => .inl trivial, fun hchanges => ⟨fun compared _ => ?_, fun _ _ => .inl trivial⟩⟩
  cases compared with
  | conflict => exact fun hno => by cases hno
  | applied =>
    simp only [holds_do]
    refine ⟨fun compacted hcompact => ?_, fun _ _ => .inl trivial⟩
    have hmarks := foldl_upsert_marks (fun change : RestoreRecordChange => change.record)
      hsound.distinct hupdates
    have hreceivers := congrArg (List.map Prod.snd) hmarks
    simp only [map_map] at hreceivers
    have hwithin : compacted.restoreRecords = (applyRestoreChanges store.document changes).restoreRecords := by
      refine compactRestoreHistory_within ?_ hcompact
      intro receiverId
      have hcount := hsound.capacity receiverId
      have hcountP : ∀ records : List RestoreRecord,
          records.countP (·.receiverId = receiverId) =
            (records.map (·.receiverId)).countP (· = receiverId) := by
        intro records
        rw [countP_map]
        rfl
      rw [hcountP] at hcount ⊢
      exact hreceivers ▸ hcount
    have hkeeps : ∀ store' : FilePersistenceStore, store'.document = canonicalize compacted →
        KeepsOthers changes store store' := by
      intro store' hdocument r hr hne
      rw [hdocument]
      refine (sortBy_perm comparePair recordKey compacted.restoreRecords).mem_iff.mpr ?_
      rw [hwithin]
      exact ((foldl_upsert_mem hsound.distinct (not_not.mp hchanges)).2 r).mpr (.inr ⟨hr, hne⟩)
    refine holds_mono commit_spec ?_ ?_
    · rintro _ store' ⟨hdocument, _⟩ _
      exact hkeeps store' hdocument
    rintro _ store' (hsame | ⟨hdocument, _⟩)
    · exact .inl hsame
    · exact .inr (hkeeps store' hdocument)

end FilePersistenceStore

/-- One event for each draft was appended, in order and with consecutive numbers; the log keeps the
newest of all. -/
def Announced (drafts : List EventDraft) (log log' : BoundedEventLog) : Prop :=
  ∃ emitted : List BridgeEvent,
    List.Forall₂ (fun draft event => event = draft.toEvent event.sequence) drafts emitted ∧
      emitted.map (·.sequence.get) = List.range' (log.latest.get + 1) drafts.length ∧
      log'.latest.get = log.latest.get + drafts.length ∧ log'.capacity = log.capacity ∧
      log'.events = (log.events ++ emitted).drop ((log.events ++ emitted).length - log.capacity)

theorem append_announced {log log' : BoundedEventLog} {draft : EventDraft} {event : BridgeEvent}
    (h : log.append draft = .ok (event, log')) :
    event = draft.toEvent event.sequence ∧ event.sequence.get = log.latest.get + 1 ∧
      log'.latest = event.sequence ∧ log'.capacity = log.capacity ∧
      log'.events = (log.events ++ [event]).drop ((log.events ++ [event]).length - log.capacity) := by
  have hbounded := log.bounded
  have hrange := log.inRange
  unfold BoundedEventLog.append at h
  split at h
  · cases h
  next sequence hsequence =>
    have hnumber := Bounded.get_of_tryFrom hsequence
    dsimp only at h
    split at h
    next hfull =>
      split at h
      · cases h
      cases h
      refine ⟨rfl, hnumber, rfl, rfl, ?_⟩
      have hone : (log.events ++ [draft.toEvent sequence]).length - log.capacity = 1 := by
        simp only [length_append, length_cons, length_nil]
        omega
      rw [hone, drop_append_of_le_length (by omega)]
    next hroom =>
      cases h
      refine ⟨rfl, hnumber, rfl, rfl, ?_⟩
      have hzero : (log.events ++ [draft.toEvent sequence]).length - log.capacity = 0 := by
        simp only [length_append, length_cons, length_nil]
        omega
      rw [hzero, drop_zero]

variable {records : List RestoreRecord}

theorem appendTerminals_announced {log log' : BoundedEventLog} (h : appendTerminals log records = .ok log') :
    Announced (records.map terminalEventDraft) log log' := by
  induction records generalizing log with
  | nil =>
    have hbounded := log.bounded
    have hzero : (log.events ++ []).length - log.capacity = 0 := by
      rw [append_nil]
      omega
    cases h
    refine ⟨[], .nil, rfl, rfl, rfl, ?_⟩
    rw [hzero, drop_zero, append_nil]
  | cons record records ih =>
    unfold appendTerminals at h
    obtain ⟨⟨event, log₁⟩, happend, h⟩ := bind_eq_ok h
    obtain ⟨hevent, hnumber, hlatest, hcapacity, hevents⟩ := append_announced happend
    obtain ⟨emitted, hall, hnumbers, hlatest', hcapacity', hevents'⟩ := ih h
    rw [hlatest, hnumber] at hnumbers hlatest'
    refine ⟨event :: emitted, .cons hevent hall, ?_, ?_, hcapacity'.trans hcapacity, ?_⟩
    · simp only [map_cons, length_cons, List.range'_succ, hnumber, hnumbers]
    · simp only [map_cons, length_cons, length_map] at hlatest' ⊢
      omega
    rw [hevents', hcapacity, hevents]
    have hsplit : log.events ++ event :: emitted = (log.events ++ [event]) ++ emitted := by simp
    have hover : (log.events ++ [event]).length - log.capacity ≤ (log.events ++ [event]).length :=
      Nat.sub_le _ _
    rw [hsplit, ← drop_append_of_le_length hover, drop_drop]
    congr 1
    simp only [length_drop, length_append]
    omega

section Retirement

variable {T : Type} [ReceiverTransport T] {receiverId : ReceiverId} {generationId : GenerationId}
  {now : MonotonicMs} {s s' : RestorationState T} {transactions : TransactionCoordinator}
  {updated : List RestoreRecord}

def openClaims (receiverId : ReceiverId) (generationId : GenerationId)
    (records : List RestoreRecord) : List RestoreRecord :=
  records.filter fun r => r.receiverId = receiverId ∧ r.generationId = generationId ∧ ¬ r.status.isTerminal

/-- No claim of the generation is open any more, and every other record is as it was. -/
structure GenerationRetired (receiverId : ReceiverId) (generationId : GenerationId)
    (before after : List RestoreRecord) : Prop where
  terminal : ∀ r ∈ after, r.receiverId = receiverId → r.generationId = generationId → r.status.isTerminal
  others : ∀ r, r.receiverId ≠ receiverId ∨ r.generationId ≠ generationId → (r ∈ after ↔ r ∈ before)

/-- What a retirement that returns leaves behind. -/
structure RetirementDone (receiverId : ReceiverId) (generationId : GenerationId)
    (s s' : RestorationState T) (retirement : RestoreGenerationRetirement) : Prop where
  records : GenerationRetired receiverId generationId s.records s'.records
  updated : retirement.updated.map (·.claimId) = (openClaims receiverId generationId s.records).map (·.claimId)
  stored : ∀ r ∈ retirement.updated, r ∈ s'.records
  released : ∀ r ∈ openClaims receiverId generationId s.records, ∀ attempt,
    r.status.activeAttempt = some attempt → s'.leases.leases[attempt.request.leaseId]? = none
  announced : Announced (retirement.updated.map terminalEventDraft) s.core.events s'.core.events

/-- What a retirement that fails leaves behind. The batch is in the store only when the commit
reported that its replacement had become visible. -/
structure RetirementUndone (receiverId : ReceiverId) (generationId : GenerationId)
    (s s' : RestorationState T) : Prop where
  leases : s'.leases = s.leases
  core : s'.core = s.core
  store : s'.store.document = s.store.document ∨
    (s.store.Torn ∧ GenerationRetired receiverId generationId s.records s'.records)

omit [ReceiverTransport T] in
theorem RetirementUndone.refl : RetirementUndone receiverId generationId s s := ⟨rfl, rfl, .inl rfl⟩

theorem retireStatus_terminal (completion : RestoreCompletion) : (retireStatus completion).isTerminal := by
  unfold retireStatus
  split
  · rfl
  · split <;> rfl

theorem RetiredAs.terminal {transport : T} {record next : RestoreRecord}
    (h : RetiredAs transport transactions record next) :
    next.status.isTerminal := by
  rcases h with ⟨_, hmoved⟩ | ⟨attempt, completion, _, _, hmoved⟩
  · rw [transitionRecord_status hmoved]
    rfl
  rw [transitionRecord_status hmoved]
  cases completion with
  | none => rfl
  | some completion => exact retireStatus_terminal completion

theorem forall₂_map_eq {α β γ : Type} {R : α → β → Prop} {f : α → γ} {g : β → γ}
    (hfg : ∀ a b, R a b → g b = f a) {xs : List α} {ys : List β} (h : List.Forall₂ R xs ys) :
    ys.map g = xs.map f := by
  induction h with
  | nil => rfl
  | cons hab _ ih => rw [map_cons, map_cons, hfg _ _ hab, ih]

theorem generationRetired_of_replaced {transport : T} {before after : List RestoreRecord}
    (hsound : StoreSound before) (hretired : List.Forall₂ (RetiredAs transport transactions)
      (openClaims receiverId generationId before) updated) (hreplaced : Replaced before after updated)
    (hkept : ∀ r ∈ before, (∀ w ∈ updated, w.claimId ≠ r.claimId) → r ∈ after) :
    GenerationRetired receiverId generationId before after := by
  have hopen : ∀ w ∈ updated, ∃ r ∈ openClaims receiverId generationId before,
      RetiredAs transport transactions r w := forall₂_right hretired
  refine ⟨?_, ?_⟩
  · intro r hr hreceiver hgeneration
    rcases hreplaced.origin r hr with hwritten | ⟨hold, hne⟩
    · obtain ⟨record, _, hnext⟩ := hopen r hwritten
      exact hnext.terminal
    by_contra hunfinished
    have hmember : r ∈ openClaims receiverId generationId before := by
      simp only [openClaims, mem_filter, decide_eq_true_eq]
      exact ⟨hold, hreceiver, hgeneration, hunfinished⟩
    have hclaims := forall₂_map_eq (f := (·.claimId)) (g := (·.claimId))
      (fun _ _ h => RetiredAs.succeeds h |>.claimId) hretired
    have hclaim : r.claimId ∈ updated.map (·.claimId) := hclaims ▸ mem_map_of_mem hmember
    obtain ⟨w, hw, heq⟩ := mem_map.mp hclaim
    exact hne w hw heq
  intro r hother
  have hforeign : ∀ w ∈ updated, ∀ old ∈ before, old.claimId = w.claimId →
      w.receiverId = receiverId ∧ w.generationId = generationId ∧
        old.receiverId = receiverId ∧ old.generationId = generationId := by
    intro w hw old hold heq
    obtain ⟨record, hrecord, hnext⟩ := hopen w hw
    simp only [openClaims, mem_filter, decide_eq_true_eq] at hrecord
    obtain ⟨hstored, hreceiver, hgeneration, _⟩ := hrecord
    have hsucceeds := hnext.succeeds
    have hsame : old = record := eq_of_claimId hsound.distinct hold hstored (heq.trans hsucceeds.claimId)
    rw [hsame, hsucceeds.identity]
    exact ⟨hreceiver, hgeneration, hreceiver, hgeneration⟩
  constructor
  · intro hr
    rcases hreplaced.origin r hr with hwritten | ⟨hold, _⟩
    · obtain ⟨record, hrecord, hnext⟩ := hopen r hwritten
      have hstored := (mem_filter.mp hrecord).1
      obtain ⟨hreceiver, hgeneration, _⟩ := hforeign r hwritten record hstored hnext.succeeds.claimId.symm
      rcases hother with hne | hne
      · exact absurd hreceiver hne
      · exact absurd hgeneration hne
    · exact hold
  intro hr
  refine hkept r hr fun w hw heq => ?_
  obtain ⟨_, _, hreceiver, hgeneration⟩ := hforeign w hw r hr heq.symm
  rcases hother with hne | hne
  · exact hne hreceiver
  · exact hne hgeneration

variable [RestorationDigests]

omit [ReceiverTransport T] in
theorem openClaims_of_load (hload : loadRecords receiverId s.store = .ok records) :
    (records.filter (·.generationId = generationId)).filter (! ·.status.isTerminal) =
      openClaims receiverId generationId s.records := by
  rw [(loadRecords_ok hload).1]
  simp only [restoreRecords, openClaims, filter_filter]
  refine filter_congr fun r _ => ?_
  simp [Bool.and_comm, Bool.and_left_comm, Bool.and_assoc]

omit [RestorationDigests] in
/-- The durable part of a retirement: the successors of the open claims as one batch. -/
theorem persistRecords_retires (hsound : StoreSound s.records) (hwritten : changes.map (·.record) = updated)
    (hretired : List.Forall₂ (RetiredAs s.core.transport s.core.coordinator)
      (openClaims receiverId generationId s.records) updated) :
    Holds (persistRecords changes) s
      (fun _ s' => GenerationRetired receiverId generationId s.records s'.records ∧
        ∀ r ∈ updated, r ∈ s'.records)
      (fun _ s' => RetirementUndone receiverId generationId s s') := by
  have hupdates : FilePersistenceStore.Updates changes s.store := by
    intro change hchange
    have hmember : change.record ∈ updated := hwritten ▸ mem_map_of_mem hchange
    obtain ⟨record, hrecord, hnext⟩ := forall₂_right hretired _ hmember
    have hstored := (mem_filter.mp hrecord).1
    rw [hnext.succeeds.identity]
    exact mem_map.mpr ⟨record, hstored, rfl⟩
  have hbatch : ∀ store, FilePersistenceStore.Wrote (changes.map (·.record)) s.store store →
      FilePersistenceStore.KeepsOthers changes s.store store →
      GenerationRetired receiverId generationId s.records store.document.restoreRecords ∧
        ∀ r ∈ updated, r ∈ store.document.restoreRecords := by
    intro store hwrote hkeeps
    have hreplaced := hwrote.1
    unfold FilePersistenceStore.KeepsOthers at hkeeps
    rw [hwritten] at hreplaced hkeeps
    exact ⟨generationRetired_of_replaced hsound hretired hreplaced hkeeps, hreplaced.arrived⟩
  simp only [persistRecords, withStore, holds_do]
  refine holds_mono (holds_and (compareAndSetRestoreRecords_spec hsound)
    (compareAndSetRestoreRecords_updates hsound hupdates)) ?_ ?_
  · rintro outcome store ⟨hspec, hkeeps⟩
    cases outcome with
    | applied => exact hbatch store hspec.1 (hkeeps rfl)
    | conflict => exact ⟨rfl, rfl, .inl (congrArg _ hspec)⟩
  rintro _ store ⟨hspec, hkeeps⟩
  rcases hspec with hsame | ⟨hwrote, _, htorn⟩
  · exact ⟨rfl, rfl, .inl hsame⟩
  rcases hkeeps with hsame | hkeeps
  · exact ⟨rfl, rfl, .inl hsame⟩
  · exact ⟨rfl, rfl, .inr ⟨htorn, (hbatch store hwrote hkeeps).1⟩⟩

theorem retireGeneration_allOrNothing (receiverId : ReceiverId) (generationId : GenerationId)
    (now : MonotonicMs) (hsound : StoreSound s.records) :
    Holds (retireGeneration receiverId generationId now) s
      (fun retirement s' => RetirementDone receiverId generationId s s' retirement)
      (fun _ s' => RetirementUndone receiverId generationId s s') := by
  simp only [retireGeneration, holds_do]
  refine ⟨fun _ => .refl, fun _ => ⟨fun records hload => ?_, fun _ _ => .refl⟩⟩
  rw [openClaims_of_load hload]
  split
  · exact .refl
  next updated leases heach =>
    obtain ⟨hretired, _, habsent⟩ := retireEach_spec heach
    have hclaims := forall₂_map_eq (f := (·.claimId)) (g := (·.claimId))
      (fun _ _ h => RetiredAs.succeeds h |>.claimId) hretired
    simp only [holds_do]
    refine ⟨fun events hevents => ?_, fun _ _ => .refl⟩
    refine holds_post (persistRecords_retires hsound (retired_changes hretired) hretired) ?_
    rintro _ s₁ ⟨hrecords, hstored⟩
    exact ⟨hrecords, hclaims, hstored, habsent, appendTerminals_announced hevents⟩

end Retirement

def sampleRetiring (commits : List (Except FilePersistenceError Unit)) : RestorationState FixedTransport :=
  { samplePlanned with
    core := { samplePlanned.core with transport := { sampleTransport with generation := none } }
    store := { samplePlanned.store with commits := commits } }

theorem retireGeneration_allOrNothing_planned :
    letI := sampleRestorationDigests
    ∃ retirement, answer (retireGeneration sampleResource.receiverId sampleGeneration
        (.lit 0)) (sampleRetiring []) = .ok retirement ∧
      RetirementDone sampleResource.receiverId sampleGeneration (sampleRetiring [])
        (final (retireGeneration sampleResource.receiverId sampleGeneration
          (.lit 0)) (sampleRetiring [])) retirement := by
  let _ := sampleRestorationDigests
  have hplanned : Evolves (samplePlan.enter (sampleStart _ sampleTransport)) samplePlanned :=
    samplePlan.run_evolves (sampleStart_starts sampleTransport).sound
  have hsound : StoreSound (sampleRetiring []).records := hplanned.sound
  have hok : (answer (retireGeneration sampleResource.receiverId sampleGeneration
      (.lit 0)) (sampleRetiring [])).isOk := by
    decide +kernel
  obtain ⟨retirement, hanswer⟩ := exists_answer hok
  exact ⟨retirement, hanswer, holds_of_answer (retireGeneration_allOrNothing sampleResource.receiverId
    sampleGeneration (.lit 0) hsound) hanswer⟩

/-- The commit fails after its replacement became visible: the call reports the failure, and the
claim is retired in the store. -/
theorem retireGeneration_tornBatch :
    letI := sampleRestorationDigests
    answer (retireGeneration sampleResource.receiverId sampleGeneration (.lit 0))
        (sampleRetiring [.error (.io true)]) = .error (.persistence .saveRestore) ∧
      (final (retireGeneration sampleResource.receiverId sampleGeneration (.lit 0))
        (sampleRetiring [.error (.io true)])).records ≠ (sampleRetiring [.error (.io true)]).records := by
  decide +kernel

end HyperfluxNext
