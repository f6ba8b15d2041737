import HyperfluxNext.Restoration.AdvanceEffects

namespace HyperfluxNext

open Procedure List

variable {T : Type} [RestorationDigests] {s : RestorationState T}

/-- A claim that was planned or deferred and holds no attempt. -/
def Supersedable (record : RestoreRecord) : Prop :=
  record.status.state = .planned ∨ record.status.state = .deferred

variable {record candidate : RestoreRecord} {s' : RestorationState T} {trigger : RestoreTrigger}
  {intent : PersistedStableIntent} {records : List RestoreRecord} {profiles : ProfileRegistry}

section
omit [RestorationDigests]

theorem Supersedable.not_compactable (h : Supersedable record) : ¬ compactableTerminal record.status := by
  unfold Supersedable at h
  cases hstatus : record.status <;> rw [hstatus] at h <;>
    simp [RestoreRecordStatus.state, compactableTerminal] at h ⊢

theorem Supersedable.inactive (h : Supersedable record) : record.status.activeAttempt = none := by
  unfold Supersedable at h
  cases hstatus : record.status <;> rw [hstatus] at h <;>
    simp [RestoreRecordStatus.state, RestoreRecordStatus.activeAttempt] at h ⊢

end

/-- What planning can do to the records: one durable change after the other. -/
inductive Plans : RestorationState T → RestorationState T → Prop
  | stop (s : RestorationState T) : Plans s s
  | keep {s s₁ s' : RestorationState T} (stored : Stored [] s s₁) : Plans s₁ s' → Plans s s'
  | supersede {s s₁ s' : RestorationState T} {record next : RestoreRecord}
      {reason : RestoreInvalidationReason} (present : record ∈ s.records)
      (supersedable : Supersedable record) (valid : validateRecord record = .ok ())
      (moved : transitionRecord record (.invalidated reason) = .ok next)
      (stored : Stored [next] s s₁) : Plans s₁ s' → Plans s s'
  | create {s s₁ s' : RestorationState T} {trigger : RestoreTrigger}
      {intent : PersistedStableIntent} {candidate : RestoreRecord}
      (fresh : ∀ r ∈ s.records, r.claimId ≠ candidate.claimId)
      (built : newRestoreRecord trigger intent = .ok candidate)
      (stored : Stored [candidate] s s₁) : Plans s₁ s' → Plans s s'

theorem Plans.trans {s s₁ : RestorationState T} (h : Plans s s₁) (h' : Plans s₁ s') : Plans s s' := by
  induction h with
  | stop => exact h'
  | keep stored _ ih => exact .keep stored (ih h')
  | supersede present supersedable valid moved stored _ ih =>
    exact .supersede present supersedable valid moved stored (ih h')
  | create fresh built stored _ ih => exact .create fresh built stored (ih h')

/-- The receiver's records as the planner carries them along: distinct claims, of which those
that may still be superseded are as stored and passed the loader. -/
structure Carries (records : List RestoreRecord) (s : RestorationState T) : Prop where
  sound : StoreSound s.records
  distinct : (records.map (·.claimId)).Nodup
  stored : ∀ r ∈ records, Supersedable r → r ∈ s.records ∧ validateRecord r = .ok ()

section
omit [RestorationDigests]

theorem newRestoreRecord_ok [RestorationDigests] (h : newRestoreRecord trigger intent = .ok record) :
    record.status = .planned ∧ validateRecord record = .ok () := by
  unfold newRestoreRecord at h
  obtain ⟨claimId, hclaim, h⟩ := bind_eq_ok h
  obtain ⟨revision, _, h⟩ := bind_eq_ok h
  cases h
  refine ⟨rfl, ?_⟩
  simp [validateRecord, validateSchema, reject, claimIdForRecord, hclaim, validateStatus, bind, Except.bind]

theorem Replaced.supersedable {before after written : List RestoreRecord} (h : Replaced before after written)
    (hr : record ∈ before) (hs : Supersedable record) (hne : ∀ w ∈ written, w.claimId ≠ record.claimId)
    : record ∈ after :=
  (h.kept record hr hne).resolve_right hs.not_compactable

end

theorem Carries.superseded {done todo : List RestoreRecord} {next : RestoreRecord}
    {reason : RestoreInvalidationReason} (h : Carries (done ++ record :: todo) s)
    (hmoved : MovedTo record (· = .invalidated reason) next s s') :
    Carries (done ++ [next] ++ todo) s' := by
  obtain ⟨⟨_, rfl, hnext⟩, hstored⟩ := hmoved
  obtain ⟨_, revision, rfl⟩ := transitionRecord_ok hnext
  have hdistinct := h.distinct
  rw [map_append, map_cons, nodup_append, nodup_cons] at hdistinct
  have hother : ∀ r ∈ done ++ record :: todo, Supersedable r → r.claimId ≠ record.claimId →
      r ∈ s'.records ∧ validateRecord r = .ok () := by
    intro r hr hsup hne
    obtain ⟨hold, hvalid⟩ := h.stored r hr hsup
    refine ⟨hstored.replaced.supersedable hold hsup ?_, hvalid⟩
    intro w hw heq
    rw [mem_singleton.mp hw] at heq
    exact hne heq.symm
  refine ⟨hstored.sound, by simpa using h.distinct, ?_⟩
  intro r hr hsup
  simp only [append_assoc, singleton_append, mem_append, mem_cons] at hr
  rcases hr with hr | rfl | hr
  · exact hother r (by simp [hr]) hsup
      (hdistinct.2.2 _ (mem_map_of_mem hr) _ mem_cons_self)
  · simp [Supersedable, RestoreRecordStatus.state] at hsup
  refine hother r (by simp [hr]) hsup fun heq => ?_
  exact hdistinct.2.1.1 (heq ▸ mem_map_of_mem hr)

theorem Carries.created (h : Carries records s) (hbuilt : newRestoreRecord trigger intent = .ok candidate)
    (hnew : ∀ r ∈ records, r.claimId ≠ candidate.claimId) (hstored : Stored [candidate] s s') :
    Carries (records ++ [candidate]) s' := by
  refine ⟨hstored.sound, ?_, ?_⟩
  · rw [map_append, nodup_append]
    refine ⟨h.distinct, by simp, ?_⟩
    intro a ha b hb heq
    obtain ⟨r, hr, rfl⟩ := mem_map.mp ha
    simp only [map_cons, map_nil, mem_singleton] at hb
    exact hnew r hr (heq.trans hb)
  intro r hr hsup
  rcases mem_append.mp hr with hr | hr
  · obtain ⟨hold, hvalid⟩ := h.stored r hr hsup
    refine ⟨hstored.replaced.supersedable hold hsup ?_, hvalid⟩
    intro w hw heq
    rw [mem_singleton.mp hw] at heq
    exact hnew r hr heq.symm
  rw [mem_singleton.mp hr]
  exact ⟨hstored.replaced.arrived _ mem_cons_self, (newRestoreRecord_ok hbuilt).2⟩

omit [RestorationDigests] in
theorem supersedable_of_superseded (h : supersededBy candidate record = true) : Supersedable record := by
  simp only [supersededBy, decide_eq_true_eq] at h
  simpa [Supersedable] using h.2.2

theorem supersedePriorClaims_plans (hs : Carries records s) :
    Holds (supersedePriorClaims candidate records) s
      (fun records' s' => Plans s s' ∧ Carries records' s')
      (fun _ s' => Plans s s') := by
  refine holds_post (holds_each (fun todo done s' => Plans s s' ∧ Carries (done ++ todo) s') ?_
    ⟨.stop s, hs⟩) (fun records' s' h => by simpa using h)
  rintro record todo done s₁ ⟨hplans, hcarries⟩
  split
  next hsuperseded =>
    have hsupersedable := supersedable_of_superseded hsuperseded
    obtain ⟨hstored, hvalid⟩ := hcarries.stored record (by simp) hsupersedable
    refine holds_mono (saveTransition_moves hcarries.sound) ?_ ?_
    · intro next s₂ hmoved
      have hcarries₂ := hcarries.superseded hmoved
      obtain ⟨⟨_, rfl, hnext⟩, hwritten⟩ := hmoved
      exact ⟨hplans.trans (.supersede hstored hsupersedable hvalid hnext hwritten (.stop _)), hcarries₂⟩
    rintro _ s₂ (hkept | ⟨next, ⟨_, rfl, hnext⟩, hmoved⟩)
    · exact hplans.trans (.keep hkept (.stop _))
    · exact hplans.trans (.supersede hstored hsupersedable hvalid hnext hmoved (.stop _))
  rw [holds_pure]
  refine ⟨hplans, ?_⟩
  rw [append_assoc]
  exact hcarries

section
omit [RestorationDigests]

theorem newRestoreRecord_planned [RestorationDigests] (h : newRestoreRecord trigger intent = .ok record) :
    record.revision.get = 1 ∧ record.lastAttempt = none := by
  unfold newRestoreRecord at h
  obtain ⟨claimId, _, h⟩ := bind_eq_ok h
  obtain ⟨revision, hrevision, h⟩ := bind_eq_ok h
  cases h
  refine ⟨?_, rfl⟩
  cases hrevision
  rfl

theorem FilePersistenceStore.Expected.fresh {store : FilePersistenceStore}
    (h : FilePersistenceStore.Expected [⟨none, record⟩] store) :
    ∀ r ∈ store.document.restoreRecords, r.claimId ≠ record.claimId := by
  intro r hr heq
  have hnone := h ⟨none, record⟩ (by simp)
  simp only [Option.map_eq_none_iff, FilePersistenceStore.restoreRecord,
    find?_eq_none, decide_eq_true_eq] at hnone
  exact hnone r hr heq

theorem persistRecord_fresh (hsound : StoreSound s.records) :
    Holds (persistRecord none record) s
      (fun _ s' => Stored [record] s s' ∧ ∀ r ∈ s.records, r.claimId ≠ record.claimId)
      (fun _ s' => Stored [] s s' ∨ (Stored [record] s s' ∧ ∀ r ∈ s.records, r.claimId ≠ record.claimId)) := by
  refine holds_mono (persistRecords_stored hsound) (fun _ _ h => ⟨h.1, h.2.fresh⟩) ?_
  rintro _ s' (h | h)
  · exact .inl h
  · exact .inr ⟨h.1, h.2.1.fresh⟩

end

theorem planClaims_plans {intents : List PersistedStableIntent} (hs : Carries records s) :
    Ensures (planClaims trigger intents records) s (Plans s) := by
  induction intents generalizing records s with
  | nil => exact .stop s
  | cons intent intents ih =>
    simp only [planClaims, holds_do]
    refine ⟨fun candidate hbuilt => ?_, fun _ _ => .stop s⟩
    refine holds_mono (supersedePriorClaims_plans hs) ?_ (fun _ _ h => h)
    rintro records₁ s₁ ⟨hplans, hcarries⟩
    split
    · simp only [holds_do]
      refine ⟨fun _ _ => ?_, fun _ _ => hplans⟩
      exact holds_mono (ih hcarries) (fun _ _ h => hplans.trans h) (fun _ _ h => hplans.trans h)
    next hnone =>
      simp only [holds_do]
      refine holds_mono (persistRecord_fresh hcarries.sound) ?_ ?_
      · rintro _ s₂ ⟨hstored, hfresh⟩
        have hcreate : Plans s s₂ := hplans.trans (.create hfresh hbuilt hstored (.stop _))
        have hnew : ∀ r ∈ records₁, r.claimId ≠ candidate.claimId := by
          simpa using find?_eq_none.mp hnone
        have hcarries₂ := hcarries.created hbuilt hnew hstored
        exact holds_mono (ih hcarries₂) (fun _ _ h => hcreate.trans h) (fun _ _ h => hcreate.trans h)
      rintro _ s₂ (hstored | ⟨hstored, hfresh⟩)
      · exact hplans.trans (.keep hstored (.stop _))
      · exact hplans.trans (.create hfresh hbuilt hstored (.stop _))

theorem migrateCompatibleStableIntents_stored (hsound : StoreSound s.records) :
    Ensures (migrateCompatibleStableIntents trigger profiles records) s (Stored [] s) := by
  have hrefl : Stored [] s s := Stored.refl hsound
  unfold migrateCompatibleStableIntents
  split
  · exact hrefl
  simp only [holds_do]
  refine ⟨fun entries _ => ⟨fun changes _ => ?_, fun _ _ => hrefl⟩, fun _ _ => hrefl⟩
  split
  · exact hrefl
  simp only [withStore, holds_do]
  refine holds_mono (FilePersistenceStore.compareAndSetStableEntries_spec hsound) ?_ ?_
  · intro outcome store hwrote
    cases outcome <;> exact ⟨rfl, rfl, rfl, hwrote.1, hwrote.2⟩
  intro _ store hwrote
  exact ⟨rfl, rfl, rfl, hwrote.1, hwrote.2⟩

theorem carries_of_load {s₁ : RestorationState T} (hsound : StoreSound s.records)
    (hload : loadRecords trigger.receiverId s.store = .ok records) (hkept : Stored [] s s₁) :
    Carries records s₁ := by
  refine ⟨hkept.sound, ?_, ?_⟩
  · rw [(loadRecords_ok hload).1]
    exact List.Nodup.sublist (List.Sublist.map _ filter_sublist) hsound.distinct
  intro r hr hsup
  exact ⟨hkept.replaced.supersedable (mem_of_loadRecords hload hr) hsup (by simp),
    (loadRecords_ok hload).2 r hr⟩

theorem planEnabled_plans (hsound : StoreSound s.records) :
    Ensures (planEnabled trigger profiles) s (Plans s) := by
  simp only [planEnabled, holds_do]
  refine ⟨fun records hload => ⟨fun _ _ => ?_, fun _ _ => .stop s⟩, fun _ _ => .stop s⟩
  refine holds_mono (migrateCompatibleStableIntents_stored hsound) ?_ (fun _ _ h => .keep h (.stop _))
  intro _ s₁ hmigrated
  refine ⟨fun entries _ => ?_, fun _ _ => .keep hmigrated (.stop _)⟩
  split
  · exact .keep hmigrated (.stop _)
  split
  · exact .keep hmigrated (.stop _)
  have hcarries := carries_of_load hsound hload hmigrated
  simp only [holds_do]
  exact holds_mono (planClaims_plans hcarries) (fun _ _ h => .keep hmigrated h) (fun _ _ h => .keep hmigrated h)

theorem planRestore_plans (hsound : StoreSound s.records) :
    Ensures (planRestore trigger profiles) s (Plans s) := by
  simp only [planRestore, holds_do]
  refine ⟨fun _ _ => ⟨fun enabled _ => ?_, fun _ _ => .stop s⟩, fun _ _ => .stop s⟩
  split
  · exact planEnabled_plans hsound
  · exact .stop s

section Retiring

def retireStatus (completion : RestoreCompletion) : RestoreRecordStatus :=
  if completedSuccessfully completion then .succeeded completion
  else if (completion.liveWriteExecuted = false ∧ completion.deliveredFrames.get = 0 ∧
      completion.sideEffectCertainty = .none) ∨
      (completion.state = .revoked ∧ completion.errorKind = some .staleGeneration) then
    .invalidated .staleGeneration
  else .failed (failedCompletion completion)

section
omit [RestorationDigests]

theorem retireStatus_ended (completion : RestoreCompletion) : (retireStatus completion).activeAttempt = none := by
  unfold retireStatus
  split
  · rfl
  · split <;> rfl

theorem retireWithCompletion_eq (record : RestoreRecord) (completion : RestoreCompletion) :
    retireWithCompletion record completion = transitionRecord record (retireStatus completion) := by
  unfold retireWithCompletion retireStatus
  simp only [decide_eq_true_eq]
  split
  · rfl
  · split <;> rfl

end

variable [ReceiverTransport T] {now : MonotonicMs} {transactions : TransactionCoordinator}

def RetiredAs (transport : T) (transactions : TransactionCoordinator) (record next : RestoreRecord) : Prop :=
  (record.status.activeAttempt = none ∧ transitionRecord record (.invalidated .staleGeneration) = .ok next) ∨
  ∃ attempt completion, record.status.activeAttempt = some attempt ∧
    retirementCompletion attempt transport transactions = .ok completion ∧
    transitionRecord record ((completion.map retireStatus).getD (.invalidated .staleGeneration)) = .ok next

section
omit [RestorationDigests]

theorem retireRecord_spec {transport : T} {leases : LeaseManager} (record : RestoreRecord) :
    Holds (retireRecord now transport transactions record) leases
      (fun next leases' => RetiredAs transport transactions record next ∧
        LeaseManager.Shrinks leases leases' ∧
        ∀ attempt, record.status.activeAttempt = some attempt → leases'.leases[attempt.request.leaseId]? = none)
      (fun _ _ => True) := by
  unfold retireRecord
  split
  next hinactive =>
    refine holds_lift.mpr ⟨fun next hnext => ?_, fun _ _ => trivial⟩
    exact ⟨.inl ⟨hinactive, hnext⟩, LeaseManager.Shrinks.refl _, by simp [hinactive]⟩
  next attempt hactive =>
    simp only [holds_do]
    refine ⟨fun completion hcompletion => ?_, fun _ _ => trivial⟩
    refine holds_mono releaseLease_spec ?_ (fun _ _ _ => trivial)
    rintro _ leases' ⟨hshrinks, habsent⟩
    have hleases : ∀ attempt', record.status.activeAttempt = some attempt' →
        leases'.leases[attempt'.request.leaseId]? = none := by
      intro attempt' hactive'
      rw [hactive] at hactive'
      cases hactive'
      exact habsent
    cases completion with
    | none =>
      refine holds_lift.mpr ⟨fun next hnext => ?_, fun _ _ => trivial⟩
      exact ⟨.inr ⟨attempt, none, hactive, hcompletion, hnext⟩, hshrinks, hleases⟩
    | some completion =>
      refine holds_lift.mpr ⟨fun next hnext => ?_, fun _ _ => trivial⟩
      rw [retireWithCompletion_eq] at hnext
      exact ⟨.inr ⟨attempt, some completion, hactive, hcompletion, hnext⟩, hshrinks, hleases⟩

theorem retireEach_spec {transport : T} {leases leases' : LeaseManager} {updated : List RestoreRecord}
    (h : each (retireRecord now transport transactions) records leases = .ok updated leases') :
    List.Forall₂ (RetiredAs transport transactions) records updated ∧
      LeaseManager.Shrinks leases leases' ∧
      ∀ r ∈ records, ∀ attempt, r.status.activeAttempt = some attempt →
        leases'.leases[attempt.request.leaseId]? = none := by
  have hspec : Holds (each (retireRecord now transport transactions) records) leases
      (fun updated leases' => ∃ handled, records = handled ++ [] ∧
        List.Forall₂ (RetiredAs transport transactions) handled updated ∧
        LeaseManager.Shrinks leases leases' ∧
        ∀ r ∈ handled, ∀ attempt, r.status.activeAttempt = some attempt →
          leases'.leases[attempt.request.leaseId]? = none) (fun _ _ => True) := by
    refine holds_each (fun todo done leases' => ∃ handled, records = handled ++ todo ∧
        List.Forall₂ (RetiredAs transport transactions) handled done ∧
        LeaseManager.Shrinks leases leases' ∧
        ∀ r ∈ handled, ∀ attempt, r.status.activeAttempt = some attempt →
          leases'.leases[attempt.request.leaseId]? = none) ?_
      ⟨[], rfl, .nil, LeaseManager.Shrinks.refl _, by simp⟩
    rintro record todo done leases₁ ⟨handled, hsplit, hdone, hshrinks, habsent⟩
    refine holds_post (retireRecord_spec record) ?_
    rintro next leases₂ ⟨hnext, hshrinks₂, habsent₂⟩
    refine ⟨handled ++ [record], by simpa using hsplit, ?_, hshrinks.trans hshrinks₂, ?_⟩
    · exact rel_append hdone (.cons hnext .nil)
    intro r hr attempt hactive
    rcases mem_append.mp hr with hr | hr
    · cases hlease : leases₂.leases[attempt.request.leaseId]? with
      | none => rfl
      | some grant =>
        have hold := hshrinks₂ _ _ hlease
        rw [habsent r hr attempt hactive] at hold
        cases hold
    rw [mem_singleton.mp hr] at hactive
    exact habsent₂ attempt hactive
  obtain ⟨handled, hsplit, hall, hshrinks, habsent⟩ := holds_ok hspec h
  rw [append_nil] at hsplit
  exact hsplit ▸ ⟨hall, hshrinks, habsent⟩

end

def OwnRecord (receiverId : ReceiverId) (generationId : GenerationId) (s : RestorationState T)
    (record : RestoreRecord) : Prop :=
  record ∈ s.records ∧ record.receiverId = receiverId ∧ record.generationId = generationId ∧
    validateRecord record = .ok ()

inductive Retires (receiverId : ReceiverId) (generationId : GenerationId) (s s' : RestorationState T) : Prop
  /-- Nothing became durable. -/
  | failed (stored : Stored [] s s')
  /-- The batch became durable but the call failed: the leases are as they were. -/
  | torn (records updated : List RestoreRecord)
      (own : ∀ r ∈ records, OwnRecord receiverId generationId s r)
      (retired : List.Forall₂ (RetiredAs s.core.transport s.core.coordinator) records updated)
      (visible : s.store.Torn) (stored : Stored updated s s')
  /-- The batch became durable and the leases of its attempts are given back. -/
  | retired (records updated : List RestoreRecord)
      (own : ∀ r ∈ records, OwnRecord receiverId generationId s r)
      (retired : List.Forall₂ (RetiredAs s.core.transport s.core.coordinator) records updated)
      (shrinks : LeaseManager.Shrinks s.leases s'.leases)
      (absent : ∀ r ∈ records, ∀ attempt, r.status.activeAttempt = some attempt →
        s'.leases.leases[attempt.request.leaseId]? = none)
      (coordinator : s'.core.coordinator = s.core.coordinator)
      (transport : s'.core.transport = s.core.transport)
      (replaced : Replaced s.records s'.records updated) (sound : StoreSound s'.records)

omit [RestorationDigests] in
theorem retired_changes {transport : T} {updated : List RestoreRecord}
    (h : List.Forall₂ (RetiredAs transport transactions) records updated) :
    (records.zipWith (fun record retired => (⟨some record.revision, retired⟩ : RestoreRecordChange))
      updated).map (·.record) = updated := by
  induction h with
  | nil => rfl
  | cons _ _ ih => simp [ih]

theorem retireGeneration_retires {receiverId : ReceiverId} {generationId : GenerationId}
    (hsound : StoreSound s.records) :
    Ensures (retireGeneration receiverId generationId now) s (Retires receiverId generationId s) := by
  have hrefl : Retires receiverId generationId s s := .failed (Stored.refl hsound)
  simp only [retireGeneration, holds_do]
  refine ⟨fun _ => hrefl, fun _ => ⟨fun records hload => ?_, fun _ _ => hrefl⟩⟩
  have hown : ∀ r ∈ (records.filter (·.generationId = generationId)).filter
      (! ·.status.isTerminal), OwnRecord receiverId generationId s r := by
    intro r hr
    obtain ⟨hr, hgeneration⟩ := mem_filter.mp (mem_filter.mp hr).1
    have hreceiver : r ∈ s.store.restoreRecords receiverId := (loadRecords_ok hload).1 ▸ hr
    exact ⟨mem_of_loadRecords hload hr, by simpa using (mem_filter.mp hreceiver).2,
      by simpa using hgeneration, (loadRecords_ok hload).2 r hr⟩
  split
  · exact hrefl
  next updated leases heach =>
    obtain ⟨hretired, hshrinks, habsent⟩ := retireEach_spec heach
    simp only [holds_do]
    refine ⟨fun events _ => ?_, fun _ _ => hrefl⟩
    refine holds_mono (persistRecords_stored hsound) ?_ ?_
    · rintro _ s₁ ⟨hstored, _⟩
      rw [retired_changes hretired] at hstored
      exact .retired _ updated hown hretired hshrinks habsent hstored.coordinator hstored.transport
        hstored.replaced hstored.sound
    rintro _ s₁ (hstored | ⟨hstored, _, htorn⟩)
    · exact .failed hstored
    rw [retired_changes hretired] at hstored
    exact .torn _ updated hown hretired htorn hstored

end Retiring

end HyperfluxNext
