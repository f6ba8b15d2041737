import Mathlib.Data.List.Dedup
import HyperfluxNext.Restoration.Store

namespace HyperfluxNext

open FilePersistenceStore List Procedure

/-- What the document check promises about the restore records: one record a claim, and no more
records of a receiver than the loader takes. -/
structure StoreSound (records : List RestoreRecord) : Prop where
  distinct : (records.map (·.claimId)).Nodup
  capacity : ∀ receiverId, records.countP (·.receiverId = receiverId) ≤ maxRestoreRecordsPerReceiver

/-- A batch of records was written: each is there, every other record is as it was, and only
replayable terminals may have been dropped. -/
structure Replaced (before after written : List RestoreRecord) : Prop where
  origin : ∀ r ∈ after, r ∈ written ∨ (r ∈ before ∧ ∀ w ∈ written, w.claimId ≠ r.claimId)
  arrived : ∀ w ∈ written, w ∈ after
  kept : ∀ r ∈ before, (∀ w ∈ written, w.claimId ≠ r.claimId) → r ∈ after ∨ compactableTerminal r.status

theorem Replaced.refl (records : List RestoreRecord) : Replaced records records [] :=
  ⟨fun _ hr => .inr ⟨hr, by simp⟩, by simp, fun _ hr _ => .inl hr⟩

theorem Replaced.perm {before after written after' : List RestoreRecord}
    (h : Replaced before after written) (hp : after'.Perm after) : Replaced before after' written :=
  ⟨fun r hr => h.origin r (hp.mem_iff.mp hr), fun w hw => hp.mem_iff.mpr (h.arrived w hw),
    fun r hr hne => (h.kept r hr hne).imp hp.mem_iff.mpr id⟩

variable {records : List RestoreRecord}

theorem eq_of_claimId {r r' : RestoreRecord} (h : (records.map (·.claimId)).Nodup) (hr : r ∈ records)
    (hr' : r' ∈ records) (heq : r.claimId = r'.claimId) : r = r' :=
  inj_on_of_nodup_map h hr hr' heq

section Upsert

variable {α κ : Type} [DecidableEq κ] {key : α → κ}

theorem mem_upsert {value x : α} {l : List α} (h : (l.map key).Nodup) :
    x ∈ upsert key value l ↔ x = value ∨ (x ∈ l ∧ key value ≠ key x) := by
  induction l with
  | nil => simp [upsert]
  | cons y l ih =>
    rw [map_cons, nodup_cons] at h
    unfold upsert
    split
    next heq =>
      have hne : ∀ z ∈ l, key value ≠ key z := by
        intro z hz hz'
        exact h.1 (heq.trans hz' ▸ mem_map_of_mem hz)
      simp only [mem_cons]
      constructor
      · rintro (rfl | hx)
        · exact .inl rfl
        · exact .inr ⟨.inr hx, hne x hx⟩
      rintro (rfl | ⟨rfl | hx, hk⟩)
      · exact .inl rfl
      · exact absurd heq.symm hk
      · exact .inr hx
    next hneq =>
      simp only [mem_cons, ih h.2]
      constructor
      · rintro (rfl | rfl | ⟨hx, hk⟩)
        · exact .inr ⟨.inl rfl, fun heq => hneq heq.symm⟩
        · exact .inl rfl
        · exact .inr ⟨.inr hx, hk⟩
      rintro (rfl | ⟨rfl | hx, hk⟩)
      · exact .inr (.inl rfl)
      · exact .inl rfl
      · exact .inr (.inr ⟨hx, hk⟩)

theorem nodup_upsert {value : α} {l : List α} (h : (l.map key).Nodup) :
    ((upsert key value l).map key).Nodup := by
  induction l with
  | nil => simp [upsert]
  | cons y l ih =>
    have hcons := nodup_cons.mp h
    unfold upsert
    split
    next heq =>
      rw [map_cons, ← heq]
      exact h
    next hneq =>
      refine nodup_cons.mpr ⟨?_, ih hcons.2⟩
      intro hmem
      obtain ⟨x, hx, hkey⟩ := mem_map.mp hmem
      rcases (mem_upsert hcons.2).mp hx with rfl | ⟨hx, _⟩
      · exact hneq hkey.symm
      · exact hcons.1 (hkey ▸ mem_map_of_mem hx)

/-- Applying a batch of changes to distinct keys replaces exactly these. -/
theorem foldl_upsert_mem {γ : Type} {value : γ → α} {changes : List γ} {l : List α}
    (hd : (l.map key).Nodup) (hc : (changes.map (key <| value ·)).Nodup) :
    let after := changes.foldl (fun l change => upsert key (value change) l) l
    (after.map key).Nodup ∧ ∀ x, x ∈ after ↔ x ∈ changes.map value ∨
      (x ∈ l ∧ ∀ w ∈ changes.map value, key w ≠ key x) := by
  induction changes generalizing l with
  | nil => simp [hd]
  | cons change changes ih =>
    rw [map_cons, nodup_cons] at hc
    have hd' : ((upsert key (value change) l).map key).Nodup := nodup_upsert hd
    obtain ⟨hnodup, hmem⟩ := ih hd' hc.2
    refine ⟨hnodup, fun x => ?_⟩
    simp only [foldl_cons]
    rw [hmem x, mem_upsert hd, map_cons]
    constructor
    · rintro (hx | ⟨rfl | ⟨hx, hne⟩, hall⟩)
      · exact .inl (mem_cons_of_mem _ hx)
      · exact .inl mem_cons_self
      refine .inr ⟨hx, ?_⟩
      intro w hw
      rcases mem_cons.mp hw with rfl | hw
      · exact hne
      · exact hall w hw
    rintro (hx | ⟨hx, hall⟩)
    · rcases mem_cons.mp hx with rfl | hx
      · refine .inr ⟨.inl rfl, ?_⟩
        intro w hw heq
        obtain ⟨c, hc', rfl⟩ := mem_map.mp hw
        exact hc.1 (heq ▸ mem_map_of_mem hc')
      · exact .inl hx
    exact .inr ⟨.inr ⟨hx, hall _ mem_cons_self⟩, fun w hw => hall w (mem_cons_of_mem _ hw)⟩

end Upsert

theorem sortBy_perm {α κ : Type} (cmp : κ → κ → Ordering) (key : α → κ) (l : List α) : (sortBy cmp key l).Perm l :=
  perm_insertionSort _ l

variable {protectedClaims : List RestoreClaimId} {document compacted : BridgePersistenceDocument}
  {changes : List RestoreRecordChange}

/-- A claim that compaction drops is a replayable terminal the batch did not touch. -/
theorem compactedClaims_spec {receiverId : ReceiverId} {removed : List RestoreClaimId}
    (h : compactedClaims records protectedClaims receiverId = .ok removed) :
    ∀ claimId ∈ removed, claimId ∉ protectedClaims ∧
      ∃ r ∈ records, r.receiverId = receiverId ∧ r.claimId = claimId ∧ compactableTerminal r.status := by
  unfold compactedClaims at h
  dsimp only at h
  split at h
  · cases h; simp
  split at h
  · cases h
  have h := Except.ok.inj h
  intro claimId hmem
  rw [← h] at hmem
  obtain ⟨entry, hentry, rfl⟩ := mem_map.mp hmem
  have hentry := (sortBy_perm _ _ _).mem_iff.mp (mem_of_mem_take hentry)
  obtain ⟨r, hr, rfl⟩ := mem_map.mp hentry
  simp only [mem_filter, decide_eq_true_eq] at hr
  exact ⟨hr.2.2, r, hr.1.1, hr.1.2, rfl, hr.2.1⟩

/-- Compaction keeps the written claims and drops replayable terminals only. -/
theorem compactRestoreHistory_spec (hd : (document.restoreRecords.map (·.claimId)).Nodup)
    (h : compactRestoreHistory document protectedClaims = .ok compacted) :
    (∀ r ∈ compacted.restoreRecords, r ∈ document.restoreRecords) ∧
      ∀ r ∈ document.restoreRecords, r ∈ compacted.restoreRecords ∨
        (r.claimId ∉ protectedClaims ∧ compactableTerminal r.status) := by
  unfold compactRestoreHistory at h
  obtain ⟨removed, hremoved, h⟩ := bind_eq_ok h
  cases h
  refine ⟨fun r hr => (mem_filter.mp hr).1, fun r hr => ?_⟩
  by_cases hin : r.claimId ∈ removed.flatten
  · right
    obtain ⟨claims, hclaims, hmem⟩ := mem_flatten.mp hin
    obtain ⟨receiverId, _, hok⟩ := mapM_ok_mem hremoved claims hclaims
    obtain ⟨hfree, r', hr', _, heq, hterminal⟩ := compactedClaims_spec hok r.claimId hmem
    rw [eq_of_claimId hd hr hr' heq.symm]
    exact ⟨heq ▸ hfree, hterminal⟩
  · exact .inl (mem_filter.mpr ⟨hr, by simpa using hin⟩)

theorem restoreChanges_replaced (hd : (document.restoreRecords.map (·.claimId)).Nodup)
    (hc : (changes.map (·.record.claimId)).Nodup)
    (h : compactRestoreHistory (applyRestoreChanges document changes)
      (changes.map (·.record.claimId)) = .ok compacted) :
    Replaced document.restoreRecords (canonicalize compacted).restoreRecords (changes.map (·.record)) := by
  obtain ⟨hnodup, hmem⟩ := foldl_upsert_mem hd hc
  obtain ⟨hsub, hkept⟩ := compactRestoreHistory_spec (show ((applyRestoreChanges
    document changes).restoreRecords.map (·.claimId)).Nodup from hnodup) h
  suffices hraw : Replaced document.restoreRecords compacted.restoreRecords
      (changes.map (·.record)) from hraw.perm (sortBy_perm _ _ _)
  refine ⟨?_, ?_, ?_⟩
  · intro r hr
    exact (hmem r).mp (hsub r hr)
  · intro w hw
    rcases hkept w ((hmem w).mpr (.inl hw)) with hin | ⟨hfree, _⟩
    · exact hin
    obtain ⟨change, hchange, rfl⟩ := mem_map.mp hw
    exact absurd (mem_map_of_mem hchange) hfree
  intro r hr hne
  exact (hkept r ((hmem r).mpr (.inr ⟨hr, hne⟩))).imp id And.right

/-- Compaction and the batch touch the restore records only. -/
theorem compactRestoreHistory_others (h : compactRestoreHistory document protectedClaims = .ok compacted) :
    compacted.policies = document.policies ∧ compacted.stableEntries = document.stableEntries := by
  unfold compactRestoreHistory at h
  obtain ⟨removed, _, h⟩ := bind_eq_ok h
  cases h
  exact ⟨rfl, rfl⟩

theorem validateDocument_sound {maxReceivers : Nat} (h : validateDocument maxReceivers document = .ok ())
    : StoreSound document.restoreRecords := by
  unfold validateDocument at h
  obtain ⟨_, _, h⟩ := bind_eq_ok h
  obtain ⟨_, _, h⟩ := bind_eq_ok h
  obtain ⟨_, _, h⟩ := bind_eq_ok h
  obtain ⟨_, _, h⟩ := bind_eq_ok h
  obtain ⟨_, _, h⟩ := bind_eq_ok h
  obtain ⟨_, _, h⟩ := bind_eq_ok h
  obtain ⟨_, hdistinct, h⟩ := bind_eq_ok h
  obtain ⟨_, _, h⟩ := bind_eq_ok h
  obtain ⟨_, _, h⟩ := bind_eq_ok h
  have hcapacity := reject_eq_ok h
  refine ⟨not_not.mp (reject_eq_ok hdistinct), fun receiverId => ?_⟩
  by_cases hin : receiverId ∈ documentReceivers document
  · simp only [Bool.not_eq_true, any_eq_false, decide_eq_true_eq, not_or, gt_iff_lt, Nat.not_lt] at hcapacity
    exact (hcapacity receiverId hin).2
  have hzero : document.restoreRecords.countP (·.receiverId = receiverId) = 0 := by
    rw [countP_eq_zero]
    intro r hr heq
    refine hin ?_
    simp only [documentReceivers, mem_dedup, mem_append, mem_map]
    exact .inr ⟨r, hr, by simpa using heq⟩
  rw [hzero]
  exact Nat.zero_le _

namespace FilePersistenceStore

/-- The next commit fails although the replacement became visible. -/
def Torn (store : FilePersistenceStore) : Prop :=
  ∃ error, store.commits.headD (.ok ()) = .error error ∧ error.replacementVisible

variable {store : FilePersistenceStore}

/-- A commit puts the candidate in place or leaves the document alone; it can fail either way. -/
theorem commit_spec {candidate : BridgePersistenceDocument} :
    Holds (commit candidate) store
      (fun _ store' => store'.document = candidate ∧ StoreSound candidate.restoreRecords)
      (fun _ store' => store'.document = store.document ∨
        (store'.document = candidate ∧ StoreSound candidate.restoreRecords ∧ Torn store)) := by
  simp only [commit, holds_do]
  refine ⟨fun _ hvalid => ?_, fun _ _ => .inl trivial⟩
  have hsound := validateDocument_sound hvalid
  split
  · exact ⟨rfl, hsound⟩
  next error hcommit =>
    simp only [holds_do]
    by_cases hvisible : error.replacementVisible
    · exact .inr ⟨by simp [hvisible], hsound, error, hcommit, hvisible⟩
    · exact .inl (by simp [hvisible])

/-- The document before and after a call that writes the given records or nothing. -/
def Wrote (written : List RestoreRecord) (store store' : FilePersistenceStore) : Prop :=
  Replaced store.document.restoreRecords store'.document.restoreRecords written ∧
    StoreSound store'.document.restoreRecords

def Expected (changes : List RestoreRecordChange) (store : FilePersistenceStore) : Prop :=
  ∀ change ∈ changes, (store.restoreRecord change.record.claimId).map (·.revision) = change.expectedRevision

theorem compareRestoreRecords_applied (h : compareRestoreRecords store.document changes = .ok .applied)
    : Expected changes store := by
  induction changes with
  | nil => simp [Expected]
  | cons change changes ih =>
    unfold compareRestoreRecords at h
    obtain ⟨_, _, h⟩ := bind_eq_ok h
    obtain ⟨_, _, h⟩ := bind_eq_ok h
    split at h
    · cases h
    next heq =>
      intro c hc
      rcases mem_cons.mp hc with rfl | hc
      · exact not_not.mp heq
      · exact ih h c hc

theorem compareAndSetRestoreRecords_spec (hsound : StoreSound store.document.restoreRecords) :
    Holds (compareAndSetRestoreRecords changes) store
      (fun outcome store' => match outcome with
        | .applied => Wrote (changes.map (·.record)) store store' ∧ Expected changes store
        | .conflict => store' = store)
      (fun _ store' => store'.document = store.document ∨
        (Wrote (changes.map (·.record)) store store' ∧ Expected changes store ∧ Torn store)) := by
  unfold compareAndSetRestoreRecords
  split
  next hnil =>
    subst hnil
    exact ⟨⟨Replaced.refl _, hsound⟩, by simp [Expected]⟩
  simp only [holds_do]
  refine ⟨fun _ => .inl trivial, fun hchanges => ⟨fun compared hcompared => ?_, fun _ _ => .inl trivial⟩⟩
  have hchanges := not_not.mp hchanges
  cases compared with
  | conflict => exact rfl
  | applied =>
    simp only [holds_do]
    refine ⟨fun compacted hcompact => ?_, fun _ _ => .inl trivial⟩
    have hreplaced := restoreChanges_replaced hsound.distinct hchanges hcompact
    have hexpected := compareRestoreRecords_applied hcompared
    refine holds_mono commit_spec ?_ ?_
    · rintro _ store' ⟨hdocument, hsound'⟩
      exact ⟨⟨hdocument ▸ hreplaced, hdocument ▸ hsound'⟩, hexpected⟩
    rintro _ store' (hsame | ⟨hdocument, hsound', htorn⟩)
    · exact .inl hsame
    · exact .inr ⟨⟨hdocument ▸ hreplaced, hdocument ▸ hsound'⟩, hexpected, htorn⟩

theorem compareAndSetStableEntries_spec {changes : List StableIntentChange}
    (hsound : StoreSound store.document.restoreRecords) :
    Ensures (compareAndSetStableEntries changes) store (Wrote [] store) := by
  have hkeep : ∀ store' : FilePersistenceStore, store'.document = store.document →
      Wrote [] store store' := fun store' heq =>
    ⟨heq ▸ Replaced.refl _, heq ▸ hsound⟩
  unfold compareAndSetStableEntries
  split
  · exact hkeep store rfl
  simp only [holds_do]
  refine ⟨fun _ => hkeep store rfl, fun _ => ⟨fun compared _ => ?_, fun _ _ => hkeep store rfl⟩⟩
  cases compared with
  | conflict => exact hkeep store rfl
  | applied =>
    simp only [holds_do]
    refine holds_mono commit_spec ?_ ?_
    · rintro _ store' ⟨hdocument, hsound'⟩
      refine ⟨?_, hdocument ▸ hsound'⟩
      rw [hdocument]
      exact (Replaced.refl _).perm (sortBy_perm _ _ _)
    rintro _ store' (hsame | ⟨hdocument, hsound', _⟩)
    · exact hkeep store' hsame
    refine ⟨?_, hdocument ▸ hsound'⟩
    rw [hdocument]
    exact (Replaced.refl _).perm (sortBy_perm _ _ _)

end FilePersistenceStore

end HyperfluxNext
