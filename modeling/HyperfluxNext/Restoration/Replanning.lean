import HyperfluxNext.Restoration.FileStoreSpec
import HyperfluxNext.Restoration.Migration
import HyperfluxNext.Restoration.SelfReadable

namespace HyperfluxNext

open Procedure List

/-- The store's document passes the check that every open and every commit makes. -/
def FilePersistenceStore.Valid (store : FilePersistenceStore) : Prop :=
  validateDocument store.maxReceivers store.document = .ok ()

variable {changes : List RestoreRecordChange}

namespace FilePersistenceStore

variable {store store' : FilePersistenceStore}

theorem Valid.sound (h : store.Valid) : StoreSound store.document.restoreRecords := validateDocument_sound h

theorem Valid.ordered (h : store.Valid) :
    sortBy compare (·.receiverId) store.document.policies = store.document.policies ∧
      sortBy comparePair entryKey store.document.stableEntries = store.document.stableEntries := by
  unfold Valid validateDocument at h
  obtain ⟨_, _, h⟩ := bind_eq_ok h
  obtain ⟨_, hpolicies, h⟩ := bind_eq_ok h
  obtain ⟨_, _, h⟩ := bind_eq_ok h
  obtain ⟨_, hentries, _⟩ := bind_eq_ok h
  exact ⟨sortBy_ordered (not_not.mp (reject_eq_ok hpolicies)),
    sortBy_ordered (not_not.mp (reject_eq_ok hentries))⟩

theorem commit_valid {candidate : BridgePersistenceDocument} (h : store.Valid) :
    Holds (commit candidate) store
      (fun _ store' => store'.Valid ∧ store'.document = candidate)
      (fun _ store' => store'.Valid ∧ (store'.document = candidate ∨ store'.document = store.document)) := by
  simp only [commit, holds_do]
  refine ⟨fun _ hvalid => ?_, fun _ _ => ⟨h, .inr trivial⟩⟩
  split
  · exact ⟨hvalid, rfl⟩
  next error _ =>
    simp only [holds_do]
    cases error.replacementVisible with
    | true => exact ⟨hvalid, .inl rfl⟩
    | false => exact ⟨h, .inr rfl⟩

structure KeepsPlans (store store' : FilePersistenceStore) : Prop where
  valid : store'.Valid
  policies : store'.document.policies = store.document.policies
  entries : store'.document.stableEntries = store.document.stableEntries

theorem KeepsPlans.refl (h : store.Valid) : KeepsPlans store store := ⟨h, rfl, rfl⟩

theorem KeepsPlans.trans {store'' : FilePersistenceStore} (h : KeepsPlans store store')
    (h' : KeepsPlans store' store'') : KeepsPlans store store'' :=
  ⟨h'.valid, h'.policies.trans h.policies, h'.entries.trans h.entries⟩

theorem compareAndSetRestoreRecords_keeps (h : store.Valid) :
    Ensures (compareAndSetRestoreRecords changes) store (KeepsPlans store) := by
  have hsame := KeepsPlans.refl h
  unfold compareAndSetRestoreRecords
  split
  · exact hsame
  simp only [holds_do]
  refine ⟨fun _ => hsame, fun _ => ⟨fun compared _ => ?_, fun _ _ => hsame⟩⟩
  cases compared with
  | conflict => exact hsame
  | applied =>
    simp only [holds_do]
    refine ⟨fun compacted hcompact => ?_, fun _ _ => hsame⟩
    obtain ⟨hpolicies, hentries⟩ := compactRestoreHistory_others hcompact
    have hwritten : ∀ store' : FilePersistenceStore, store'.Valid →
        store'.document = canonicalize compacted → KeepsPlans store store' := by
      intro store' hvalid hdocument
      refine ⟨hvalid, ?_, ?_⟩
      · rw [hdocument]
        show sortBy compare (·.receiverId) compacted.policies = _
        rw [hpolicies]
        exact h.ordered.1
      rw [hdocument]
      show sortBy comparePair entryKey compacted.stableEntries = _
      rw [hentries]
      exact h.ordered.2
    refine holds_mono (commit_valid h) (fun _ store' hs => hwritten store' hs.1 hs.2) ?_
    intro _ store' hs
    obtain ⟨hvalid, hnew | hold⟩ := hs
    · exact hwritten store' hvalid hnew
    · exact ⟨hvalid, by rw [hold], by rw [hold]⟩

theorem compareAndSetStableEntries_keeps {changes : List StableIntentChange} (h : store.Valid) :
    Ensures (compareAndSetStableEntries changes) store
      (fun store' => store'.Valid ∧ store'.document.policies = store.document.policies) := by
  unfold compareAndSetStableEntries
  split
  · exact ⟨h, rfl⟩
  simp only [holds_do]
  refine ⟨fun _ => ⟨h, trivial⟩, fun _ => ⟨fun compared _ => ?_, fun _ _ => ⟨h, trivial⟩⟩⟩
  cases compared with
  | conflict => exact ⟨h, rfl⟩
  | applied =>
    simp only [holds_do]
    refine holds_mono (commit_valid h) ?_ ?_
    · intro _ store' hs
      obtain ⟨hvalid, hdocument⟩ := hs
      rw [hdocument]
      exact ⟨hvalid, h.ordered.1⟩
    intro _ store' hs
    obtain ⟨hvalid, hnew | hold⟩ := hs
    · rw [hnew]
      exact ⟨hvalid, h.ordered.1⟩
    rw [hold]
    exact ⟨hvalid, rfl⟩

end FilePersistenceStore


def FitsTrigger (trigger : RestoreTrigger) (record : RestoreRecord) : Prop :=
  record.triggerId = trigger.triggerId → record.triggerKind = trigger.kind ∧
    record.receiverId = trigger.receiverId ∧ record.generationId = trigger.generationId ∧
      inScope trigger record.deviceId = true

theorem targetMatches_iff {trigger : RestoreTrigger} {records : List RestoreRecord} :
    (match trigger.targetDeviceId with
      | none => true
      | some target => (records.filter (·.triggerId = trigger.triggerId)).all (·.deviceId = target)) =
        true ↔ ∀ r ∈ records, r.triggerId = trigger.triggerId → inScope trigger r.deviceId = true := by
  have htarget : ∀ r : RestoreRecord, inScope trigger r.deviceId = true ↔
      ∀ target, trigger.targetDeviceId = some target → r.deviceId = target := by
    intro r
    unfold inScope
    cases trigger.targetDeviceId with
    | none => simp
    | some target => simp [eq_comm]
  simp only [htarget]
  cases trigger.targetDeviceId with
  | none => simp
  | some target =>
    simp
    exact forall₂_congr fun _ _ => imp_iff_not_or.symm

theorem validateTriggerHistory_iff {trigger : RestoreTrigger} {records : List RestoreRecord} :
    validateTriggerHistory trigger records = .ok () ↔ ∀ r ∈ records, FitsTrigger trigger r := by
  unfold validateTriggerHistory
  dsimp only
  constructor
  · intro h r hr hown
    have hboth := not_not.mp (reject_eq_ok h)
    have hidentity := all_eq_true.mp hboth.1 r (mem_filter.mpr ⟨hr, by simpa using hown⟩)
    simp only [decide_eq_true_eq] at hidentity
    exact ⟨hidentity.1, hidentity.2.1, hidentity.2.2, targetMatches_iff.mp hboth.2 r hr hown⟩
  intro h
  refine reject_of_not (not_not.mpr ⟨?_, ?_⟩)
  · rw [all_eq_true]
    intro r hr
    obtain ⟨hr, hown⟩ := mem_filter.mp hr
    obtain ⟨hkind, hreceiver, hgeneration, _⟩ := h r hr (by simpa using hown)
    simp [hkind, hreceiver, hgeneration]
  · exact targetMatches_iff.mpr fun r hr hown => (h r hr hown).2.2.2

variable {intent : PersistedStableIntent}

section Planned

variable {T : Type} [RestorationDigests] {s s' : RestorationState T} {trigger : RestoreTrigger}
  {records : List RestoreRecord} {candidate : RestoreRecord}

def OneWaiting (s : RestorationState T) : Prop :=
  ∀ r ∈ s.records, ∀ r' ∈ s.records, Supersedable r → Supersedable r' →
    r.receiverId = r'.receiverId → r.deviceId = r'.deviceId → r = r'

def Unopposed (candidate : RestoreRecord) (records : List RestoreRecord) : Prop :=
  ∀ r ∈ records, supersededBy candidate r = false

/-- The planner's list has every stored record of the receiver, and each would be loaded again. -/
structure Tracks (trigger : RestoreTrigger) (records : List RestoreRecord) (s : RestorationState T) :
    Prop where
  carries : Carries records s
  complete : ∀ r ∈ s.records, r.receiverId = trigger.receiverId → r ∈ records
  readable : ∀ r ∈ records, validateRecord r = .ok ()
  fits : ∀ r ∈ records, FitsTrigger trigger r

omit [RestorationDigests] in
theorem Stored.oneWaiting {written : List RestoreRecord} (hstored : Stored written s s')
    (hended : ∀ r ∈ written, ¬ Supersedable r) (h : OneWaiting s) : OneWaiting s' := by
  have hold : ∀ r ∈ s'.records, Supersedable r → r ∈ s.records := by
    intro r hr hwaits
    obtain hwritten | ⟨hold, _⟩ := hstored.replaced.origin r hr
    · exact absurd hwaits (hended r hwritten)
    · exact hold
  intro r hr r' hr' hwaits hwaits' hreceiver hdevice
  exact h r (hold r hr hwaits) r' (hold r' hr' hwaits') hwaits hwaits' hreceiver hdevice

variable {record next : RestoreRecord} {reason : RestoreInvalidationReason}

omit [RestorationDigests] in
theorem MovedTo.oneWaiting (hmoved : MovedTo record (· = .invalidated reason) next s s') (h : OneWaiting s)
    : OneWaiting s' := by
  obtain ⟨⟨_, rfl, hnext⟩, hstored⟩ := hmoved
  obtain ⟨_, _, rfl⟩ := transitionRecord_ok hnext
  refine hstored.oneWaiting ?_ h
  intro r hr
  rw [mem_singleton.mp hr]
  simp [Supersedable, RestoreRecordStatus.state]

omit [RestorationDigests] in
theorem Supersedable.supersededBy (h : Supersedable record) (hdevice : record.deviceId = candidate.deviceId)
    (hclaim : record.claimId ≠ candidate.claimId) :
    supersededBy candidate record = true := by
  have hstate : record.status.state ∈ [RestoreRecordState.planned, .deferred] := by
    simpa [Supersedable] using h
  simp [HyperfluxNext.supersededBy, hdevice, hclaim, hstate]

theorem Tracks.unopposed_stored (h : Tracks trigger records s) (hunopposed : Unopposed candidate records)
    {r : RestoreRecord} (hr : r ∈ s.records) (hreceiver : r.receiverId = trigger.receiverId)
    (hdevice : r.deviceId = candidate.deviceId) (hwaits : Supersedable r) :
    r.claimId = candidate.claimId := by
  by_contra hclaim
  have hsuperseded := hwaits.supersededBy hdevice hclaim
  rw [hunopposed r (h.complete r hr hreceiver)] at hsuperseded
  cases hsuperseded

theorem Tracks.created_oneWaiting (h : Tracks trigger records s) (hunopposed : Unopposed candidate records)
    (hreceiver : candidate.receiverId = trigger.receiverId)
    (hfresh : ∀ r ∈ s.records, r.claimId ≠ candidate.claimId) (hstored : Stored [candidate] s s')
    (hone : OneWaiting s) : OneWaiting s' := by
  have hold : ∀ r ∈ s'.records, r = candidate ∨ r ∈ s.records := by
    intro r hr
    obtain hwritten | ⟨hold, _⟩ := hstored.replaced.origin r hr
    · exact .inl (mem_singleton.mp hwritten)
    · exact .inr hold
  have hnone : ∀ r ∈ s.records, Supersedable r → r.receiverId = candidate.receiverId →
      r.deviceId ≠ candidate.deviceId := by
    intro r hr hwaits hown hdevice
    exact hfresh r hr (h.unopposed_stored hunopposed hr (hown.trans hreceiver) hdevice hwaits)
  intro r hr r' hr' hwaits hwaits' hown hdevice
  obtain heq | hr := hold r hr
  · obtain heq' | hr' := hold r' hr'
    · rw [heq, heq']
    rw [heq] at hown hdevice
    exact absurd hdevice.symm (hnone r' hr' hwaits' hown.symm)
  obtain heq' | hr' := hold r' hr'
  · rw [heq'] at hown hdevice
    exact absurd hdevice (hnone r hr hwaits hown)
  · exact hone r hr r' hr' hwaits hwaits' hown hdevice

theorem validateRecord_invalidated (h : validateRecord record = .ok ())
    (hnext : transitionRecord record (.invalidated reason) = .ok next) : validateRecord next = .ok () := by
  obtain ⟨_, _, rfl⟩ := transitionRecord_ok hnext
  unfold validateRecord at h ⊢
  obtain ⟨_, hschema, h⟩ := bind_eq_ok h
  obtain ⟨claimId, hclaim, h⟩ := bind_eq_ok h
  obtain ⟨_, hsame, _⟩ := bind_eq_ok h
  rw [hschema]
  show claimIdForRecord record >>= (fun claimId => reject (claimId ≠ record.claimId) _ >>= fun _ => _) = _
  rw [hclaim]
  show reject (claimId ≠ record.claimId) _ >>= (fun _ => _) = _
  rw [hsame]
  rfl

theorem Tracks.superseded {done todo : List RestoreRecord} (h : Tracks trigger (done ++ record :: todo) s)
    (hmoved : MovedTo record (· = .invalidated reason) next s s') :
    Tracks trigger (done ++ [next] ++ todo) s' := by
  have hcarries := h.carries.superseded hmoved
  obtain ⟨⟨_, rfl, hnext⟩, hstored⟩ := hmoved
  have hreadable := validateRecord_invalidated (h.readable record (by simp)) hnext
  have hfits : FitsTrigger trigger next := by
    have hrecord := h.fits record (by simp)
    obtain ⟨_, _, rfl⟩ := transitionRecord_ok hnext
    exact hrecord
  have hmem : ∀ r ∈ done ++ [next] ++ todo, r = next ∨ r ∈ done ++ record :: todo := by
    intro r hr
    simp only [append_assoc, singleton_append, mem_append, mem_cons] at hr ⊢
    tauto
  refine ⟨hcarries, ?_, ?_, ?_⟩
  · intro r hr hreceiver
    obtain hwritten | ⟨hold, hother⟩ := hstored.replaced.origin r hr
    · rw [mem_singleton.mp hwritten]
      simp
    have hlisted := h.complete r hold hreceiver
    simp only [append_assoc, singleton_append, mem_append, mem_cons] at hlisted ⊢
    obtain hdone | heq | htodo := hlisted
    · exact .inl hdone
    · have hclaim := hother next mem_cons_self
      obtain ⟨_, _, rfl⟩ := transitionRecord_ok hnext
      exact absurd (congrArg RestoreRecord.claimId heq.symm) hclaim
    · exact .inr (.inr htodo)
  · intro r hr
    obtain heq | hold := hmem r hr
    · rw [heq]
      exact hreadable
    · exact h.readable r hold
  intro r hr
  obtain heq | hold := hmem r hr
  · rw [heq]
    exact hfits
  · exact h.fits r hold

theorem newRestoreRecord_own (h : newRestoreRecord trigger intent = .ok candidate) :
    candidate.receiverId = trigger.receiverId ∧ candidate.deviceId = intent.deviceId ∧
      candidate.triggerId = trigger.triggerId ∧ candidate.triggerKind = trigger.kind ∧
      candidate.generationId = trigger.generationId := by
  unfold newRestoreRecord at h
  obtain ⟨_, _, h⟩ := bind_eq_ok h
  obtain ⟨_, _, h⟩ := bind_eq_ok h
  cases h
  exact ⟨rfl, rfl, rfl, rfl, rfl⟩

theorem Tracks.created (h : Tracks trigger records s) (hbuilt : newRestoreRecord trigger intent = .ok candidate)
    (hscope : inScope trigger intent.deviceId = true) (hnew : ∀ r ∈ records, r.claimId ≠ candidate.claimId)
    (hstored : Stored [candidate] s s') :
    Tracks trigger (records ++ [candidate]) s' := by
  obtain ⟨hreceiver, hdevice, htrigger, hkind, hgeneration⟩ := newRestoreRecord_own hbuilt
  refine ⟨h.carries.created hbuilt hnew hstored, ?_, ?_, ?_⟩
  · intro r hr hown
    obtain hwritten | ⟨hold, _⟩ := hstored.replaced.origin r hr
    · exact mem_append.mpr (.inr hwritten)
    · exact mem_append.mpr (.inl (h.complete r hold hown))
  · intro r hr
    obtain hold | heq := mem_append.mp hr
    · exact h.readable r hold
    rw [mem_singleton.mp heq]
    exact (newRestoreRecord_ok hbuilt).2
  intro r hr
  obtain hold | heq := mem_append.mp hr
  · exact h.fits r hold
  rw [mem_singleton.mp heq]
  intro _
  rw [hdevice]
  exact ⟨hkind, hreceiver, hgeneration, hscope⟩

theorem supersedePriorClaims_tracks (h : Tracks trigger records s) :
    Holds (supersedePriorClaims candidate records) s
      (fun records' s' => Tracks trigger records' s' ∧ Unopposed candidate records' ∧
        (∀ other, Unopposed other records → Unopposed other records') ∧ (OneWaiting s → OneWaiting s'))
      (fun _ s' => OneWaiting s → OneWaiting s') := by
  refine holds_post (holds_each (fun todo done s' => Tracks trigger (done ++ todo) s' ∧
    Unopposed candidate done ∧ (∀ other, Unopposed other records → Unopposed other (done ++ todo)) ∧
    (OneWaiting s → OneWaiting s')) ?_
    ⟨h, (fun _ hr => by cases hr), (fun _ hother => hother), id⟩) ?_
  · intro record todo done s₁ hinv
    obtain ⟨htracks, hdone, hothers, hone⟩ := hinv
    split
    next hsuperseded =>
      refine holds_mono (saveTransition_moves htracks.carries.sound) ?_ ?_
      · intro next s₂ hmoved
        have hended : ∀ other, supersededBy other next = false := by
          intro other
          obtain ⟨⟨_, rfl, hnext⟩, _⟩ := hmoved
          obtain ⟨_, _, rfl⟩ := transitionRecord_ok hnext
          simp [supersededBy, RestoreRecordStatus.state]
        refine ⟨htracks.superseded hmoved, ?_, ?_, fun hstart => hmoved.oneWaiting (hone hstart)⟩
        · intro r hr
          obtain hr | hr := mem_append.mp hr
          · exact hdone r hr
          rw [mem_singleton.mp hr]
          exact hended candidate
        intro other hother r hr
        have hbefore := hothers other hother
        simp only [append_assoc, singleton_append, mem_append, mem_cons] at hr
        obtain hr | heq | hr := hr
        · exact hbefore r (mem_append.mpr (.inl hr))
        · rw [heq]
          exact hended other
        · exact hbefore r (by simp [hr])
      · intro _ s₂ hs
        obtain hkept | ⟨next, hmoved⟩ := hs
        · exact fun hstart => hkept.oneWaiting (fun _ hr => by cases hr) (hone hstart)
        · exact fun hstart => hmoved.oneWaiting (hone hstart)
    next hquiet =>
      rw [holds_pure]
      have hsplit : done ++ [record] ++ todo = done ++ record :: todo := by simp
      rw [hsplit]
      refine ⟨htracks, ?_, hothers, hone⟩
      intro r hr
      obtain hr | hr := mem_append.mp hr
      · exact hdone r hr
      rw [mem_singleton.mp hr]
      exact Bool.eq_false_iff.mpr hquiet
  · intro records' s' hs
    simpa using hs

/-- What planning leaves for each intent: a claim of the candidate, which nothing waits beside. -/
def PlannedFor (trigger : RestoreTrigger) (records : List RestoreRecord) (intent : PersistedStableIntent)
    (planned : RestoreRecord) : Prop :=
  ∃ candidate, newRestoreRecord trigger intent = .ok candidate ∧
    validateSameClaim planned candidate = .ok () ∧ Unopposed candidate records

theorem planClaims_tracks {intents : List PersistedStableIntent} (h : Tracks trigger records s)
    (hdevices : intents.Pairwise fun a b => a.deviceId ≠ b.deviceId)
    (hscope : ∀ intent ∈ intents, inScope trigger intent.deviceId = true) :
    Holds (planClaims trigger intents records) s
      (fun planned s' => ∃ records', Tracks trigger records' s' ∧
        List.Forall₂ (PlannedFor trigger records') intents planned ∧
        (∀ other, (∀ intent ∈ intents, other.deviceId ≠ intent.deviceId) → Unopposed other records →
          Unopposed other records') ∧ (OneWaiting s → OneWaiting s'))
      (fun _ s' => OneWaiting s → OneWaiting s') := by
  induction intents generalizing records s with
  | nil => exact ⟨records, h, .nil, fun _ _ hother => hother, id⟩
  | cons intent intents ih =>
    obtain ⟨hfirst, hdevices⟩ := pairwise_cons.mp hdevices
    have hscope' : ∀ intent ∈ intents, inScope trigger intent.deviceId = true :=
      fun other hother => hscope other (mem_cons_of_mem _ hother)
    simp only [planClaims, holds_do]
    refine ⟨fun candidate hbuilt => ?_, fun _ _ => id⟩
    obtain ⟨hreceiver, hdevice, _⟩ := newRestoreRecord_own hbuilt
    have hlater : ∀ later ∈ intents, candidate.deviceId ≠ later.deviceId := by
      intro later hlater
      rw [hdevice]
      exact hfirst later hlater
    refine holds_mono (supersedePriorClaims_tracks h) ?_ (fun _ _ hs => hs)
    intro records₁ s₁ hs
    obtain ⟨htracks, hunopposed, hothers, hone⟩ := hs
    split
    next existing hfind =>
      simp only [holds_do]
      refine ⟨fun _ hsame => ?_, fun _ _ => hone⟩
      refine holds_mono (ih htracks hdevices hscope') ?_ (fun _ _ hs hstart => hs (hone hstart))
      intro planned s₂ hs
      obtain ⟨records₂, htracks₂, hplanned, hkeep, hone₂⟩ := hs
      refine ⟨records₂, htracks₂, .cons ⟨candidate, hbuilt, hsame, hkeep _ hlater hunopposed⟩ hplanned,
        ?_, fun hstart => hone₂ (hone hstart)⟩
      intro other hdifferent hother
      exact hkeep other (fun later hmem => hdifferent later (mem_cons_of_mem _ hmem)) (hothers other hother)
    next hnone =>
      have hnew : ∀ r ∈ records₁, r.claimId ≠ candidate.claimId := by
        simpa using find?_eq_none.mp hnone
      simp only [holds_do]
      refine holds_mono (persistRecord_fresh htracks.carries.sound) ?_ ?_
      · intro _ s₂ hs
        obtain ⟨hstored, hfresh⟩ := hs
        have hcreated : OneWaiting s → OneWaiting s₂ := fun hstart =>
          htracks.created_oneWaiting hunopposed hreceiver hfresh hstored (hone hstart)
        have htracks₂ := htracks.created hbuilt (hscope intent mem_cons_self) hnew hstored
        have hself : Unopposed candidate (records₁ ++ [candidate]) := by
          intro r hr
          obtain hr | hr := mem_append.mp hr
          · exact hunopposed r hr
          rw [mem_singleton.mp hr]
          simp [supersededBy]
        refine holds_mono (ih htracks₂ hdevices hscope') ?_ (fun _ _ hs hstart => hs (hcreated hstart))
        intro planned s₃ hs
        obtain ⟨records₃, htracks₃, hplanned, hkeep, hone₃⟩ := hs
        have hsame : validateSameClaim candidate candidate = .ok () := by
          simp [validateSameClaim, reject]
        refine ⟨records₃, htracks₃, .cons ⟨candidate, hbuilt, hsame, hkeep _ hlater hself⟩ hplanned, ?_,
          fun hstart => hone₃ (hcreated hstart)⟩
        intro other hdifferent hother
        refine hkeep other (fun later hmem => hdifferent later (mem_cons_of_mem _ hmem)) ?_
        intro r hr
        obtain hr | hr := mem_append.mp hr
        · exact hothers other hother r hr
        have hapart := hdifferent intent mem_cons_self
        rw [mem_singleton.mp hr]
        simp [supersededBy, hdevice, Ne.symm hapart]
      · intro _ s₂ hs hstart
        obtain hkept | ⟨hstored, hfresh⟩ := hs
        · exact hkept.oneWaiting (fun _ hr => by cases hr) (hone hstart)
        · exact htracks.created_oneWaiting hunopposed hreceiver hfresh hstored (hone hstart)

end Planned


section Again

variable {T : Type} [RestorationDigests] {s s' : RestorationState T} {trigger : RestoreTrigger}
  {profiles : ProfileRegistry} {records : List RestoreRecord} {entries : List PersistedStableEntry}
  {candidate : RestoreRecord}

omit [RestorationDigests] in
theorem persistRecords_keeps (h : s.store.Valid) :
    Ensures (persistRecords changes) s (fun s' => s.store.KeepsPlans s'.store) := by
  simp only [persistRecords, withStore, holds_do]
  refine holds_mono (FilePersistenceStore.compareAndSetRestoreRecords_keeps h) ?_ (fun _ _ hs => hs)
  intro outcome store hs
  cases outcome with
  | applied | conflict => exact hs

omit [RestorationDigests] in
theorem saveTransition_keeps {record : RestoreRecord} {status : RestoreRecordStatus} (h : s.store.Valid) :
    Ensures (saveTransition record status) s (fun s' => s.store.KeepsPlans s'.store) := by
  simp only [saveTransition, persistRecord, holds_do]
  exact ⟨fun _ _ => persistRecords_keeps h, fun _ _ => .refl h⟩

omit [RestorationDigests] in
theorem supersedePriorClaims_keeps (h : s.store.Valid) :
    Ensures (supersedePriorClaims candidate records) s (fun s' => s.store.KeepsPlans s'.store) := by
  refine holds_each (fun _ _ (s' : RestorationState T) => s.store.KeepsPlans s'.store) ?_ (.refl h)
  intro record _ _ s₁ hkeeps
  split
  · exact holds_mono (saveTransition_keeps hkeeps.valid) (fun _ _ hs => hkeeps.trans hs)
      (fun _ _ hs => hkeeps.trans hs)
  · exact hkeeps

variable {intents : List PersistedStableIntent} {store store' : FilePersistenceStore} {s₂ : RestorationState T}
  {result : RestorePlanResult} {planned : List RestoreRecord} (receiverId : ReceiverId)

theorem planClaims_keeps (h : s.store.Valid) :
    Ensures (planClaims trigger intents records) s (fun s' => s.store.KeepsPlans s'.store) := by
  induction intents generalizing records s with
  | nil => exact .refl h
  | cons intent intents ih =>
    simp only [planClaims, holds_do]
    refine ⟨fun candidate _ => ?_, fun _ _ => .refl h⟩
    refine holds_mono (supersedePriorClaims_keeps h) ?_ (fun _ _ hs => hs)
    intro records₁ s₁ hkeeps
    have hlater : ∀ {s₂ : RestorationState T} {records : List RestoreRecord},
        s.store.KeepsPlans s₂.store → Ensures (planClaims trigger intents records) s₂
          (fun s' => s.store.KeepsPlans s'.store) := by
      intro s₂ records hkeeps
      exact holds_mono (ih hkeeps.valid) (fun _ _ hs => hkeeps.trans hs) (fun _ _ hs => hkeeps.trans hs)
    split
    · simp only [holds_do]
      exact ⟨fun _ _ => hlater hkeeps, fun _ _ => hkeeps⟩
    simp only [holds_do]
    exact holds_mono (persistRecords_keeps hkeeps.valid) (fun _ _ hs => hlater (hkeeps.trans hs))
      (fun _ _ hs => hkeeps.trans hs)

theorem migrateCompatibleStableIntents_valid (h : s.store.Valid) :
    Ensures (migrateCompatibleStableIntents trigger profiles records) s
      (fun s' => s'.store.Valid ∧ s'.store.document.policies = s.store.document.policies) := by
  unfold migrateCompatibleStableIntents
  split
  · exact ⟨h, rfl⟩
  simp only [holds_do]
  refine ⟨fun entries _ => ⟨fun changes _ => ?_, fun _ _ => ⟨h, trivial⟩⟩, fun _ _ => ⟨h, trivial⟩⟩
  split
  · exact ⟨h, rfl⟩
  simp only [withStore, holds_do]
  refine holds_mono (FilePersistenceStore.compareAndSetStableEntries_keeps h) ?_ (fun _ _ hs => hs)
  intro outcome store hs
  cases outcome with
  | applied | conflict => exact hs

/-- A migration that answers leaves nothing to migrate in entries that load. -/
theorem migrateCompatibleStableIntents_current :
    Holds (migrateCompatibleStableIntents trigger profiles records) s
      (fun _ s' => Loads trigger.receiverId s'.store → ∀ intent, Saved s' intent →
        ∀ profile, ¬ Outdated trigger profiles profile intent) (fun _ _ => True) := by
  by_cases hloads : Loads trigger.receiverId s.store
  · refine holds_mono (migrateCompatibleStableIntents_run trigger profiles records s hloads).1 ?_
      (fun _ _ _ => trivial)
    intro _ s' hs _ intent hsaved
    exact hs.document.settled hsaved
  unfold migrateCompatibleStableIntents
  split
  · exact fun hloads' => absurd hloads' hloads
  simp only [holds_do]
  exact ⟨fun entries hentries => absurd ⟨entries, hentries⟩ hloads, fun _ _ => trivial⟩

def targetIntents (trigger : RestoreTrigger) (entries : List PersistedStableEntry) : List PersistedStableIntent :=
  entries.filterMap fun entry =>
    match entry with
    | .present intent => if inScope trigger intent.deviceId then some intent else none
    | .deleted _ => none

def planCompatibility (trigger : RestoreTrigger) (profiles : ProfileRegistry)
    (intent : PersistedStableIntent) : IntentProfileCompatibility :=
  intentProfileCompatibility trigger.receiverId trigger.generationId intent
    (lightingResource trigger.receiverId trigger.generationId intent.deviceId) profiles

def compatibleIntents (trigger : RestoreTrigger) (profiles : ProfileRegistry)
    (entries : List PersistedStableEntry) : List PersistedStableIntent :=
  (targetIntents trigger entries).filter (planCompatibility trigger profiles · = .compatible)

omit [RestorationDigests] in
theorem targetIntents_mem (h : intent ∈ targetIntents trigger entries) :
    .present intent ∈ entries ∧ inScope trigger intent.deviceId = true := by
  obtain ⟨entry, hentry, hmade⟩ := mem_filterMap.mp h
  cases entry with
  | deleted tombstone => cases hmade
  | present found =>
    dsimp only at hmade
    split at hmade
    next hscope =>
      cases hmade
      exact ⟨hentry, hscope⟩
    · cases hmade

omit [RestorationDigests] in
theorem compatibleIntents_apart (h : (entries.map (·.deviceId)).Nodup) :
    (compatibleIntents trigger profiles entries).Pairwise fun a b => a.deviceId ≠ b.deviceId := by
  refine List.Pairwise.filter _ ?_
  unfold targetIntents
  rw [pairwise_filterMap]
  rw [nodup_iff_pairwise_ne, pairwise_map] at h
  refine h.imp ?_
  intro entry entry' hne intent hmade intent' hmade'
  have hdevice : ∀ {entry : PersistedStableEntry} {intent : PersistedStableIntent},
      (match entry with
        | .present intent => if inScope trigger intent.deviceId then some intent else none
        | .deleted _ => none) = some intent → entry.deviceId = intent.deviceId := by
    intro entry intent hmade
    cases entry with
    | deleted tombstone => cases hmade
    | present found =>
      dsimp only at hmade
      split at hmade
      · cases hmade
        rfl
      · cases hmade
  rw [← hdevice hmade, ← hdevice hmade']
  exact hne

/-- Planning the trigger again finds these entries, current and with readable records. -/
structure Replannable (trigger : RestoreTrigger) (profiles : ProfileRegistry)
    (entries : List PersistedStableEntry) (s : RestorationState T) : Prop where
  sound : StoreSound s.records
  readable : ∀ r ∈ s.records, r.receiverId = trigger.receiverId → validateRecord r = .ok ()
  fits : ∀ r ∈ s.records, r.receiverId = trigger.receiverId → FitsTrigger trigger r
  entries : loadEntries trigger.receiverId s.store = .ok entries
  current : ∀ intent, Saved s intent → ∀ profile, ¬ Outdated trigger profiles profile intent

/-- What the planner answers for the entries. -/
def PlannedAs (trigger : RestoreTrigger) (profiles : ProfileRegistry)
    (entries : List PersistedStableEntry) (s : RestorationState T) : RestorePlanResult → Prop
  | .disabled => False
  | .noStableIntents => targetIntents trigger entries = []
  | .noCompatibleStableIntents =>
    targetIntents trigger entries ≠ [] ∧ compatibleIntents trigger profiles entries = [] ∧
      (targetIntents trigger entries).any (planCompatibility trigger profiles · = .unavailable) = false
  | .profileAuthorityUnavailable =>
    targetIntents trigger entries ≠ [] ∧ compatibleIntents trigger profiles entries = [] ∧
      (targetIntents trigger entries).any (planCompatibility trigger profiles · = .unavailable) = true
  | .planned planned =>
    targetIntents trigger entries ≠ [] ∧ compatibleIntents trigger profiles entries ≠ [] ∧
      ∃ records, Tracks trigger records s ∧
        List.Forall₂ (PlannedFor trigger records) (compatibleIntents trigger profiles entries) planned

theorem loadEntries_same (h : store'.document.stableEntries = store.document.stableEntries) :
    loadEntries receiverId store' = loadEntries receiverId store := by
  unfold loadEntries FilePersistenceStore.stableEntries
  rw [h]

theorem loadEntries_distinct {receiverId : ReceiverId} (h : loadEntries receiverId store = .ok entries)
    : (entries.map (·.deviceId)).Nodup := by
  obtain ⟨hsorted, hloadable⟩ := loadEntries_iff.mp h
  rw [hsorted]
  exact ((sortBy_perm _ _ _).map _).nodup_iff.mpr hloadable.distinct

omit [RestorationDigests] in
theorem compatibleIntents_inScope :
    ∀ intent ∈ compatibleIntents trigger profiles entries, inScope trigger intent.deviceId = true :=
  fun _ hmem => (targetIntents_mem (mem_filter.mp hmem).1).2

omit [RestorationDigests] in
theorem restoreEnabled_same (h : store'.document.policies = store.document.policies) :
    restoreEnabled receiverId store' = restoreEnabled receiverId store := by
  unfold restoreEnabled FilePersistenceStore.restorePolicy
  rw [h]

theorem tracks_of_load (h : StoreSound s.records) (hload : loadRecords trigger.receiverId s.store = .ok records)
    (hhistory : validateTriggerHistory trigger records = .ok ()) (hstored : Stored [] s s') :
    Tracks trigger records s' := by
  refine ⟨carries_of_load h hload hstored, ?_, (loadRecords_ok hload).2, validateTriggerHistory_iff.mp hhistory⟩
  intro r hr hreceiver
  obtain hwritten | ⟨hold, _⟩ := hstored.replaced.origin r hr
  · cases hwritten
  rw [(loadRecords_ok hload).1]
  exact mem_filter.mpr ⟨hold, decide_eq_true hreceiver⟩

theorem planEnabled_plannedAs (h : s.store.Valid) :
    Holds (planEnabled trigger profiles) s
      (fun result s' => s'.store.document.policies = s.store.document.policies ∧
        ∃ entries, Replannable trigger profiles entries s' ∧ PlannedAs trigger profiles entries s' result)
      (fun _ _ => True) := by
  simp only [planEnabled, holds_do]
  refine ⟨fun records hload => ⟨fun _ hhistory => ?_, fun _ _ => trivial⟩, fun _ _ => trivial⟩
  refine holds_mono (holds_and (migrateCompatibleStableIntents_valid h)
    (holds_and migrateCompatibleStableIntents_current
      (migrateCompatibleStableIntents_stored h.sound))) ?_ (fun _ _ _ => trivial)
  intro _ s₁ hmigrated
  obtain ⟨⟨hvalid, hpolicies⟩, hcurrent, hstored⟩ := hmigrated
  refine ⟨fun entries hentries => ?_, fun _ _ => trivial⟩
  have hcurrent := hcurrent ⟨entries, hentries⟩
  have htracks : Tracks trigger records s₁ := tracks_of_load h.sound hload hhistory hstored
  have hreplans : ∀ {records : List RestoreRecord} {s₂ : RestorationState T},
      Tracks trigger records s₂ → s₁.store.KeepsPlans s₂.store →
      Replannable trigger profiles entries s₂ := by
    intro records s₂ htracks hkeeps
    refine ⟨htracks.carries.sound, fun r hr hown => htracks.readable r (htracks.complete r hr hown),
      fun r hr hown => htracks.fits r (htracks.complete r hr hown), ?_, ?_⟩
    · rw [loadEntries_same _ hkeeps.entries]
      exact hentries
    intro intent hsaved
    unfold Saved at hsaved
    rw [hkeeps.entries] at hsaved
    exact hcurrent intent hsaved
  have hhere := hreplans htracks (.refl hvalid)
  split
  next hnone => exact ⟨hpolicies, entries, hhere, hnone⟩
  next hsome =>
    split
    next hincompatible =>
      rw [holds_pure]
      refine ⟨hpolicies, entries, hhere, ?_⟩
      split
      next hany => exact ⟨hsome, hincompatible, hany⟩
      next hany => exact ⟨hsome, hincompatible, Bool.eq_false_iff.mpr hany⟩
    next hcompatible =>
      have hclaims := planClaims_tracks htracks
        (compatibleIntents_apart (loadEntries_distinct hentries) : (compatibleIntents trigger profiles
          entries).Pairwise _) compatibleIntents_inScope
      simp only [holds_do]
      refine holds_mono (holds_and hclaims (planClaims_keeps hvalid)) ?_ (fun _ _ _ => trivial)
      intro planned s₂ hs
      obtain ⟨⟨records₂, htracks₂, hplanned, _⟩, hkeeps⟩ := hs
      exact ⟨hkeeps.policies.trans hpolicies, entries, hreplans htracks₂ hkeeps, hsome, hcompatible,
        records₂, htracks₂, hplanned⟩

omit [RestorationDigests] in
theorem eq_ok_of_holds {α ε σ : Type} {m : EStateM ε σ α} {s s' : σ} {a : α}
    (h : Holds m s (fun b t => b = a ∧ t = s') (fun _ _ => False)) : m s = .ok a s' := by
  unfold Holds at h
  cases hm : m s with
  | ok b t =>
    rw [hm] at h
    obtain ⟨rfl, rfl⟩ := h
    rfl
  | error e t =>
    rw [hm] at h
    exact h.elim

omit [RestorationDigests] in
theorem supersedePriorClaims_unopposed (h : Unopposed candidate records) :
    supersedePriorClaims candidate records s = .ok records s := by
  unfold supersedePriorClaims
  refine eq_ok_of_holds ?_
  induction records with
  | nil => exact ⟨rfl, rfl⟩
  | cons record records ih =>
    have hquiet := h record mem_cons_self
    have hrest := ih fun r hr => h r (mem_cons_of_mem _ hr)
    simp only [each, hquiet, Bool.false_eq_true, ↓reduceIte, holds_do]
    refine holds_mono hrest ?_ (fun _ _ hs => hs)
    intro records' s' hs
    exact ⟨by rw [hs.1], hs.2⟩

theorem planClaims_again {listed : List RestoreRecord} (hdistinct : (listed.map (·.claimId)).Nodup)
    (h : List.Forall₂ (fun intent claim => claim ∈ listed ∧ PlannedFor trigger listed intent claim)
      intents planned) : planClaims trigger intents listed s = .ok planned s := by
  refine eq_ok_of_holds ?_
  induction h with
  | nil => exact ⟨rfl, rfl⟩
  | @cons intent claim intents planned hclaim _ ih =>
    obtain ⟨hlisted, candidate, hbuilt, hsame, hunopposed⟩ := hclaim
    have hid : claim.claimId = candidate.claimId := (not_not.mp (reject_eq_ok hsame)).1
    have hfind : listed.find? (·.claimId = candidate.claimId) = some claim := by
      cases hfound : listed.find? (·.claimId = candidate.claimId) with
      | none =>
        have hnone := find?_eq_none.mp hfound claim hlisted
        simp [hid] at hnone
      | some found =>
        have hfoundId := find?_some hfound
        rw [decide_eq_true_iff] at hfoundId
        exact congrArg some (eq_of_claimId hdistinct (mem_of_find?_eq_some hfound) hlisted
          (hfoundId.trans hid.symm))
    simp only [planClaims, holds_do, hbuilt]
    refine ⟨fun built heq => ?_, fun _ heq => by cases heq⟩
    cases heq
    rw [holds_of_ok (supersedePriorClaims_unopposed hunopposed)]
    simp only [hfind, holds_do, hsame]
    refine ⟨fun _ _ => ?_, fun _ heq => by cases heq⟩
    refine holds_mono ih ?_ (fun _ _ hs => hs)
    intro planned' s' hs
    exact ⟨by rw [hs.1], hs.2⟩

theorem Replannable.of_document (h : Replannable trigger profiles entries s)
    (hsame : s₂.store.document = s.store.document) :
    Replannable trigger profiles entries s₂ := by
  have hrecords : s₂.records = s.records := congrArg (·.restoreRecords) hsame
  refine ⟨hrecords ▸ h.sound, hrecords ▸ h.readable, hrecords ▸ h.fits, ?_, ?_⟩
  · rw [loadEntries_same _ (congrArg (·.stableEntries) hsame)]
    exact h.entries
  intro intent hsaved
  unfold Saved at hsaved
  rw [hsame] at hsaved
  exact h.current intent hsaved

theorem plannedFor_listed (htracks : Tracks trigger records s) (hstored : ∀ claim ∈ planned, claim ∈ s.records)
    (h : List.Forall₂ (PlannedFor trigger records) intents planned) :
    List.Forall₂ (fun intent claim => claim ∈ s.store.restoreRecords trigger.receiverId ∧
      PlannedFor trigger (s.store.restoreRecords trigger.receiverId) intent claim) intents planned := by
  induction h with
  | nil => exact .nil
  | @cons intent claim intents planned hclaim _ ih =>
    refine .cons ?_ (ih fun later hlater => hstored later (mem_cons_of_mem _ hlater))
    obtain ⟨candidate, hbuilt, hsame, hunopposed⟩ := hclaim
    have hreceiver : claim.receiverId = trigger.receiverId :=
      (not_not.mp (reject_eq_ok hsame)).2.2.2.1.trans (newRestoreRecord_own hbuilt).1
    refine ⟨mem_filter.mpr ⟨hstored claim mem_cons_self, decide_eq_true hreceiver⟩,
      candidate, hbuilt, hsame, fun r hr => ?_⟩
    obtain ⟨hr, hown⟩ := mem_filter.mp hr
    exact hunopposed r (htracks.complete r hr (of_decide_eq_true hown))

theorem PlannedAs.of_document (h : PlannedAs trigger profiles entries s result)
    (hsame : s₂.store.document = s.store.document) :
    PlannedAs trigger profiles entries s₂ result := by
  cases result with
  | planned planned =>
    obtain ⟨hsome, hcompatible, records, htracks, hplanned⟩ := h
    have hrecords : s₂.records = s.records := congrArg (·.restoreRecords) hsame
    refine ⟨hsome, hcompatible, records, ⟨⟨?_, htracks.carries.distinct, ?_⟩, ?_, htracks.readable,
      htracks.fits⟩, hplanned⟩
    · rw [hrecords]
      exact htracks.carries.sound
    · rw [hrecords]
      exact htracks.carries.stored
    rw [hrecords]
    exact htracks.complete
  | _ => exact h

/-- The planning once the migration and the loaders are through. -/
def planTargets (trigger : RestoreTrigger) (profiles : ProfileRegistry)
    (entries : List PersistedStableEntry) (records : List RestoreRecord) :
    RestorationM T RestorePlanResult :=
  if targetIntents trigger entries = [] then
    pure .noStableIntents
  else if compatibleIntents trigger profiles entries = [] then
    pure (if (targetIntents trigger entries).any (planCompatibility trigger profiles · = .unavailable)
      then .profileAuthorityUnavailable else .noCompatibleStableIntents)
  else do
    let planned ← planClaims trigger (compatibleIntents trigger profiles entries) records
    pure (.planned planned)

theorem Replannable.planEnabled {Q : RestorePlanResult → RestorationState T → Prop}
    {E : RestorationError → RestorationState T → Prop} (h : Replannable trigger profiles entries s) :
    Holds (HyperfluxNext.planEnabled trigger profiles) s Q E ↔
      Holds (planTargets trigger profiles entries (s.store.restoreRecords trigger.receiverId)) s Q E := by
  have hload : loadRecords trigger.receiverId s.store = .ok (s.store.restoreRecords trigger.receiverId) := by
    have hlength : ¬ (s.store.restoreRecords trigger.receiverId).length > maxRestoreRecordsPerReceiver := by
      have hcapacity := h.sound.capacity trigger.receiverId
      rw [countP_eq_length_filter] at hcapacity
      exact Nat.not_lt.mpr hcapacity
    have hchecked : validateRecords trigger.receiverId []
        (s.store.restoreRecords trigger.receiverId) = .ok () := by
      refine validateRecords_eq_ok ?_ ?_ ?_ (by simp)
      · intro r hr
        obtain ⟨hr, hreceiver⟩ := mem_filter.mp hr
        exact h.readable r hr (of_decide_eq_true hreceiver)
      · intro r hr
        exact of_decide_eq_true (mem_filter.mp hr).2
      · exact h.sound.distinct.sublist (filter_sublist.map _)
    simp only [loadRecords, reject, hlength, if_false, hchecked, bind, Except.bind, pure, Except.pure]
  have hhistory : validateTriggerHistory trigger (s.store.restoreRecords trigger.receiverId) = .ok () := by
    refine validateTriggerHistory_iff.mpr fun r hr => ?_
    obtain ⟨hr, hreceiver⟩ := mem_filter.mp hr
    exact h.fits r hr (of_decide_eq_true hreceiver)
  have hlift : ∀ {α : Type} {answer : Except RestorationError α} {a : α}, answer = .ok a →
      (lift id answer : RestorationM T α) s = .ok a s := by
    intro α answer a heq
    rw [heq]
    rfl
  have hget : (get : RestorationM T (RestorationState T)) s = .ok s s := rfl
  unfold HyperfluxNext.planEnabled
  rw [holds_bind_of_ok hget, holds_bind_of_ok (hlift hload), holds_bind_of_ok (hlift hhistory),
    holds_bind_of_ok (migrateCompatibleStableIntents_settled ⟨entries, h.entries⟩ h.current),
    holds_bind_of_ok hget, holds_bind_of_ok (hlift h.entries)]
  exact Iff.rfl

theorem planEnabled_again (h : Replannable trigger profiles entries s)
    (hresult : PlannedAs trigger profiles entries s result)
    (hheld : ∀ planned, result = .planned planned → ∀ claim ∈ planned, claim ∈ s.records) :
    planEnabled trigger profiles s = .ok result s := by
  refine eq_ok_of_holds ?_
  rw [h.planEnabled]
  unfold planTargets
  cases result with
  | disabled => exact hresult.elim
  | noStableIntents =>
    have hnone : targetIntents trigger entries = [] := hresult
    rw [if_pos hnone]
    exact ⟨rfl, rfl⟩
  | noCompatibleStableIntents =>
    obtain ⟨hsome, hincompatible, hany⟩ := hresult
    rw [if_neg hsome, if_pos hincompatible, if_neg (Bool.eq_false_iff.mp hany)]
    exact ⟨rfl, rfl⟩
  | profileAuthorityUnavailable =>
    obtain ⟨hsome, hincompatible, hany⟩ := hresult
    rw [if_neg hsome, if_pos hincompatible, if_pos hany]
    exact ⟨rfl, rfl⟩
  | planned planned =>
    obtain ⟨hsome, hcompatible, records, htracks, hplanned⟩ := hresult
    have hlisted : List.Forall₂ (fun intent claim =>
        claim ∈ s.store.restoreRecords trigger.receiverId ∧
          PlannedFor trigger (s.store.restoreRecords trigger.receiverId) intent claim)
        (compatibleIntents trigger profiles entries) planned :=
      plannedFor_listed htracks (hheld planned rfl) hplanned
    have hplans := planClaims_again (s := s) (h.sound.distinct.sublist (filter_sublist.map _)) hlisted
    rw [if_neg hsome, if_neg hcompatible]
    simp only [holds_do]
    exact (holds_of_ok hplans).mpr ⟨rfl, rfl⟩

theorem planEnabled_valid (h : s.store.Valid) :
    Ensures (planEnabled trigger profiles) s (fun s' => s'.store.Valid ∧ (OneWaiting s → OneWaiting s')) := by
  have hsame : s.store.Valid ∧ (OneWaiting s → OneWaiting s) := ⟨h, id⟩
  simp only [planEnabled, holds_do]
  refine ⟨fun records hload => ⟨fun _ hhistory => ?_, fun _ _ => hsame⟩, fun _ _ => hsame⟩
  have hmigrated : ∀ s₁ : RestorationState T, Stored [] s s₁ → OneWaiting s → OneWaiting s₁ :=
    fun _ hstored => hstored.oneWaiting fun _ hr => by cases hr
  refine holds_mono (holds_and (migrateCompatibleStableIntents_valid h)
    (migrateCompatibleStableIntents_stored h.sound)) ?_
    (fun _ s₁ hs => ⟨hs.1.1, hmigrated s₁ hs.2⟩)
  intro _ s₁ hs
  obtain ⟨⟨hvalid, _⟩, hstored⟩ := hs
  have hhere : s₁.store.Valid ∧ (OneWaiting s → OneWaiting s₁) := ⟨hvalid, hmigrated s₁ hstored⟩
  have htracks : Tracks trigger records s₁ := tracks_of_load h.sound hload hhistory hstored
  refine ⟨fun entries hentries => ?_, fun _ _ => hhere⟩
  split
  · exact hhere
  split
  · exact hhere
  simp only [holds_do]
  refine holds_mono (holds_and (planClaims_tracks htracks
    (compatibleIntents_apart (loadEntries_distinct hentries)) compatibleIntents_inScope)
    (planClaims_keeps hvalid)) ?_ ?_
  · intro planned s₂ hs
    obtain ⟨⟨_, _, _, _, hone⟩, hkeeps⟩ := hs
    exact ⟨hkeeps.valid, fun hstart => hone (hhere.2 hstart)⟩
  intro _ s₂ hs
  exact ⟨hs.2.valid, fun hstart => hs.1 (hhere.2 hstart)⟩

theorem planRestore_valid (h : s.store.Valid) :
    Ensures (planRestore trigger profiles) s (fun s' => s'.store.Valid ∧ (OneWaiting s → OneWaiting s')) := by
  have hsame : s.store.Valid ∧ (OneWaiting s → OneWaiting s) := ⟨h, id⟩
  simp only [planRestore, holds_do]
  refine ⟨fun _ _ => ⟨fun enabled _ => ?_, fun _ _ => hsame⟩, fun _ _ => hsame⟩
  split
  · exact planEnabled_valid h
  · exact hsame

theorem planRestore_again {s₁ : RestorationState T} (h : s.store.Valid)
    (hplan : planRestore trigger profiles s = .ok result s₁)
    (hheld : ∀ planned, result = .planned planned → ∀ claim ∈ planned, claim ∈ s₁.records)
    (hsame : s₂.store.document = s₁.store.document) :
    planRestore trigger profiles s₂ = .ok result s₂ := by
  have houtcome : Holds (planRestore trigger profiles) s
      (fun result s₁ => validateTrigger trigger = .ok () ∧ (
        (restoreEnabled trigger.receiverId s₁.store = .ok false ∧ result = .disabled) ∨
        (restoreEnabled trigger.receiverId s₁.store = .ok true ∧ ∃ entries,
          Replannable trigger profiles entries s₁ ∧ PlannedAs trigger profiles entries s₁ result)))
      (fun _ _ => True) := by
    simp only [planRestore, holds_do]
    refine ⟨fun _ htrigger => ⟨fun enabled henabled => ?_, fun _ _ => trivial⟩, fun _ _ => trivial⟩
    cases enabled with
    | false => exact ⟨htrigger, .inl ⟨henabled, rfl⟩⟩
    | true =>
      refine holds_post (planEnabled_plannedAs h) ?_
      intro result s₁ hs
      obtain ⟨hpolicies, hplanned⟩ := hs
      rw [← restoreEnabled_same trigger.receiverId hpolicies] at henabled
      exact ⟨htrigger, .inr ⟨henabled, hplanned⟩⟩
  obtain ⟨htrigger, hcase⟩ := holds_ok houtcome hplan
  have hpolicies := restoreEnabled_same trigger.receiverId (congrArg (·.policies) hsame)
  refine eq_ok_of_holds ?_
  simp only [planRestore, holds_do]
  refine ⟨fun _ _ => ?_, fun _ heq => by cases htrigger.symm.trans heq⟩
  obtain ⟨henabled, hdisabled⟩ | ⟨henabled, entries, hreplans, hplanned⟩ := hcase
  · rw [← hpolicies] at henabled
    refine ⟨fun enabled heq => ?_, fun _ heq => by cases henabled.symm.trans heq⟩
    cases henabled.symm.trans heq
    exact ⟨hdisabled.symm, rfl⟩
  rw [← hpolicies] at henabled
  refine ⟨fun enabled heq => ?_, fun _ heq => by cases henabled.symm.trans heq⟩
  cases henabled.symm.trans heq
  have hagain : planEnabled trigger profiles s₂ = .ok result s₂ := by
    refine planEnabled_again (hreplans.of_document hsame) (hplanned.of_document hsame) ?_
    intro planned hresult claim hclaim
    have hrecords : s₂.records = s₁.records := congrArg (·.restoreRecords) hsame
    rw [hrecords]
    exact hheld planned hresult claim hclaim
  exact (holds_of_ok hagain).mpr ⟨rfl, rfl⟩

/-- The states that planning calls lead to from `start`: any triggers, profiles and commit answers,
while everything but the records may change in between. -/
inductive PlanReach (start : RestorationState T) : RestorationState T → Prop
  | start : PlanReach start start
  | plan {s : RestorationState T} (h : PlanReach start s) (trigger : RestoreTrigger)
      (profiles : ProfileRegistry) (commits : List (Except FilePersistenceError Unit)) :
      PlanReach start
        (final (planRestore trigger profiles) { s with store := { s.store with commits := commits } })
  | elsewhere {s s' : RestorationState T} (h : PlanReach start s) (hvalid : s'.store.Valid)
      (hsame : s'.records = s.records) : PlanReach start s'

theorem planReach_oneWaiting {start : RestorationState T} (h : PlanReach start s)
    (hvalid : start.store.Valid) (hone : OneWaiting start) : s.store.Valid ∧ OneWaiting s := by
  induction h with
  | start => exact ⟨hvalid, hone⟩
  | @plan s _ trigger profiles commits ih =>
    have hstep := holds_final (m := planRestore trigger profiles)
      (planRestore_valid (s := { s with store := { s.store with commits := commits } }) ih.1)
    exact ⟨hstep.1, hstep.2 ih.2⟩
  | elsewhere _ hvalid' hsame ih =>
    refine ⟨hvalid', ?_⟩
    unfold OneWaiting
    rw [hsame]
    exact ih.2

/-- Planning a trigger again answers the same and changes nothing, unless history compaction took one
of the claims it answered; and planning leaves each device at most one claim that waits. -/
theorem planRestore_idempotent_exclusive {start : RestorationState T} (hvalid : start.store.Valid) :
    (∀ trigger profiles result s₁, planRestore trigger profiles start = .ok result s₁ →
      (∀ planned, result = .planned planned → ∀ claim ∈ planned, claim ∈ s₁.records) →
      ∀ s₂ : RestorationState T, s₂.store.document = s₁.store.document →
        planRestore trigger profiles s₂ = .ok result s₂) ∧
    (OneWaiting start → ∀ s, PlanReach start s → OneWaiting s) :=
  ⟨fun _ _ _ _ hplan hheld _ hsame => planRestore_again hvalid hplan hheld hsame,
    fun hone _ hreach => (planReach_oneWaiting hreach hvalid hone).2⟩

end Again

def enabledStart : RestorationState Unit :=
  { outdatedStart with
    store := { outdatedStart.store with
      document := { outdatedStart.store.document with
        policies := [⟨currentSchemaVersion, sampleTrigger.receiverId, true, .lit 1⟩] } } }

/-- The intent was migrated and its claim planned. -/
def plannedOnce : RestorationState Unit :=
  letI := profileDigests
  final (planRestore sampleTrigger upgradedProfiles) enabledStart

theorem planRestore_idempotent_exclusive_sample :
    letI := profileDigests
    planRestore sampleTrigger upgradedProfiles plannedOnce = .ok (.planned plannedOnce.records) plannedOnce ∧
      plannedOnce.records.length = 1 ∧ OneWaiting plannedOnce := by
  let _ := profileDigests
  have hvalid : enabledStart.store.Valid := by
    unfold FilePersistenceStore.Valid
    decide +kernel
  have hanswer : answer (planRestore sampleTrigger upgradedProfiles) enabledStart =
      .ok (.planned plannedOnce.records) := by decide +kernel
  have hplan : planRestore sampleTrigger upgradedProfiles enabledStart =
      .ok (.planned plannedOnce.records) plannedOnce := eq_ok_of_answer hanswer
  have hwaiting : OneWaiting enabledStart := fun r hr => by cases hr
  obtain ⟨hagain, hexclusive⟩ := planRestore_idempotent_exclusive hvalid
  refine ⟨hagain sampleTrigger upgradedProfiles _ _ hplan ?_ plannedOnce rfl, by decide +kernel,
    hexclusive hwaiting _ (.plan .start sampleTrigger upgradedProfiles [])⟩
  intro planned heq claim hclaim
  cases heq
  exact hclaim

end HyperfluxNext
