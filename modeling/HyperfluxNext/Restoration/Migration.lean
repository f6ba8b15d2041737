import HyperfluxNext.Restoration.Runs
import HyperfluxNext.Restoration.StableIntents

namespace HyperfluxNext

open FilePersistenceStore

open Procedure

section Overlay

variable {α γ κ : Type} [DecidableEq κ] {key : α → κ} {value : γ → α}

/-- What a batch of replacements leaves of one element. -/
def overlay (key : α → κ) (value : γ → α) (changes : List γ) (x : α) : α :=
  changes.foldl (fun x change => if key x = key (value change) then value change else x) x

theorem overlay_kept {changes : List γ} {x : α} (h : ∀ change ∈ changes, key x ≠ key (value change)) :
    overlay key value changes x = x := by
  induction changes with
  | nil => rfl
  | cons change changes ih =>
    show overlay key value changes (if key x = key (value change) then value change else x) = x
    rw [if_neg (h change List.mem_cons_self)]
    exact ih fun other hother => h other (List.mem_cons_of_mem _ hother)

theorem overlay_replaced {changes : List γ} {x : α} (hdistinct : (changes.map (key <| value ·)).Nodup)
    {change : γ} (hmem : change ∈ changes) (hkey : key x = key (value change)) :
    overlay key value changes x = value change := by
  induction changes generalizing x with
  | nil => cases hmem
  | cons first changes ih =>
    rw [List.map_cons, List.nodup_cons] at hdistinct
    show overlay key value changes (if key x = key (value first) then value first else x) = value change
    obtain hfirst | hlater := List.mem_cons.mp hmem
    · subst hfirst
      rw [if_pos hkey]
      refine overlay_kept fun other hother heq => hdistinct.1 ?_
      exact List.mem_map.mpr ⟨other, hother, heq.symm⟩
    rw [if_neg]
    · exact ih hdistinct.2 hlater hkey
    intro heq
    exact hdistinct.1 (List.mem_map.mpr ⟨change, hlater, hkey.symm.trans heq⟩)

/-- Where one element has the key, the update in place replaces that element. -/
theorem upsert_eq_map {x : α} {l : List α} (h : l.countP (key · = key x) = 1) :
    upsert key x l = l.map fun y => if key y = key x then x else y := by
  induction l with
  | nil => cases h
  | cons y l ih =>
    unfold upsert
    rw [List.map_cons]
    by_cases heq : key y = key x
    · have hnone : l.countP (key · = key x) = 0 := by
        rw [List.countP_cons_of_pos (by simpa using heq)] at h
        omega
      rw [if_pos heq, if_pos heq]
      congr 1
      refine (List.map_id l).symm.trans (List.map_congr_left fun z hz => ?_)
      have hother : ¬ key z = key x := by simpa using List.countP_eq_zero.mp hnone z hz
      rw [if_neg hother]
      rfl
    rw [List.countP_cons_of_neg (by simpa using heq)] at h
    rw [if_neg heq, if_neg heq, ih h]

theorem foldl_upsert_eq_map {changes : List γ} {l : List α}
    (h : ∀ change ∈ changes, l.countP (key · = key (value change)) = 1) :
    changes.foldl (fun l change => upsert key (value change) l) l = l.map (overlay key value changes) := by
  induction changes generalizing l with
  | nil => exact (List.map_id l).symm
  | cons change changes ih =>
    rw [List.foldl_cons, upsert_eq_map (h change List.mem_cons_self), ih, List.map_map]
    · rfl
    intro other hother
    rw [List.countP_map, ← h other (List.mem_cons_of_mem _ hother)]
    refine List.countP_congr fun y _ => ?_
    have hkey : key (if key y = key (value change) then value change else y) = key y := by
      split
      next heq => exact heq.symm
      · rfl
    simp only [Function.comp_apply, hkey]

end Overlay

variable {store : FilePersistenceStore}

section Loader

variable [RestorationDigests]

/-- What the loader asks of one entry. -/
structure LoadableEntry (receiverId : ReceiverId) (entry : PersistedStableEntry) : Prop where
  schema : entry.schemaVersion = currentSchemaVersion
  receiver : entry.receiverId = receiverId
  valid : validateEntryIntent entry = .ok ()

/-- What the loader asks of a receiver's entries. -/
structure Loadable (receiverId : ReceiverId) (entries : List PersistedStableEntry) : Prop where
  count : entries.length ≤ maxStableEntriesPerReceiver
  each : ∀ entry ∈ entries, LoadableEntry receiverId entry
  distinct : (entries.map (·.deviceId)).Nodup

variable {receiverId : ReceiverId} {entries : List PersistedStableEntry}

theorem validateEntries_iff {devices : List LogicalDeviceId} :
    validateEntries receiverId devices entries = .ok () ↔
      (∀ entry ∈ entries, LoadableEntry receiverId entry ∧ entry.deviceId ∉ devices) ∧
        (entries.map (·.deviceId)).Nodup := by
  induction entries generalizing devices with
  | nil => simp [validateEntries]
  | cons entry entries ih =>
    constructor
    · intro h
      unfold validateEntries at h
      obtain ⟨_, hschema, h⟩ := bind_eq_ok h
      obtain ⟨_, hreceiver, h⟩ := bind_eq_ok h
      obtain ⟨_, hdevice, h⟩ := bind_eq_ok h
      obtain ⟨_, hvalid, h⟩ := bind_eq_ok h
      obtain ⟨hall, hdistinct⟩ := ih.mp h
      refine ⟨?_, ?_⟩
      · intro other hother
        obtain hfirst | hlater := List.mem_cons.mp hother
        · subst hfirst
          exact ⟨⟨not_not.mp (reject_eq_ok hschema), not_not.mp (reject_eq_ok hreceiver), hvalid⟩,
            reject_eq_ok hdevice⟩
        obtain ⟨hloadable, hfree⟩ := hall other hlater
        exact ⟨hloadable, fun hmem => hfree (List.mem_cons_of_mem _ hmem)⟩
      rw [List.map_cons, List.nodup_cons]
      refine ⟨?_, hdistinct⟩
      intro hmem
      obtain ⟨other, hother, hsame⟩ := List.mem_map.mp hmem
      exact (hall other hother).2 (hsame ▸ List.mem_cons_self)
    · intro ⟨hall, hdistinct⟩
      rw [List.map_cons, List.nodup_cons] at hdistinct
      obtain ⟨hfirst, hfree⟩ := hall entry List.mem_cons_self
      have hrest : validateEntries receiverId (entry.deviceId :: devices) entries = .ok () := by
        refine ih.mpr ⟨fun other hother => ?_, hdistinct.2⟩
        obtain ⟨hloadable, hother'⟩ := hall other (List.mem_cons_of_mem _ hother)
        refine ⟨hloadable, fun hmem => ?_⟩
        obtain hsame | hold := List.mem_cons.mp hmem
        · exact hdistinct.1 (List.mem_map.mpr ⟨other, hother, hsame⟩)
        · exact hother' hold
      unfold validateEntries validateSchema
      rw [reject_of_not (not_not.mpr hfirst.schema), reject_of_not (not_not.mpr hfirst.receiver),
        reject_of_not hfree, hfirst.valid]
      exact hrest

/-- The loader accepts a receiver's entries whatever their order. -/
theorem Loadable.perm {entries' : List PersistedStableEntry} (h : Loadable receiverId entries)
    (hperm : entries'.Perm entries) :
    Loadable receiverId entries' := by
  refine ⟨hperm.length_eq ▸ h.count, ?_, (hperm.map _).nodup_iff.mpr h.distinct⟩
  intro entry hentry
  exact h.each entry (hperm.mem_iff.mp hentry)

theorem loadEntries_iff :
    loadEntries receiverId store = .ok entries ↔
      entries = sortBy compare (·.deviceId) (store.stableEntries receiverId) ∧
        Loadable receiverId (store.stableEntries receiverId) := by
  have hsorted := sortBy_perm compare (·.deviceId) (store.stableEntries receiverId)
  constructor
  · intro h
    unfold loadEntries at h
    obtain ⟨_, hcount, h⟩ := bind_eq_ok h
    obtain ⟨_, hvalid, h⟩ := bind_eq_ok h
    cases h
    obtain ⟨hall, hdistinct⟩ := validateEntries_iff.mp hvalid
    refine ⟨rfl, Loadable.perm ⟨?_, fun entry hentry => (hall entry hentry).1, hdistinct⟩ hsorted.symm⟩
    rw [hsorted.length_eq]
    exact Nat.not_lt.mp (reject_eq_ok hcount)
  intro ⟨hentries, hloadable⟩
  subst hentries
  have hvalid : validateEntries receiverId [] (sortBy compare (·.deviceId)
      (store.stableEntries receiverId)) = .ok () := by
    have hloadable := hloadable.perm hsorted
    exact validateEntries_iff.mpr ⟨fun entry hentry => ⟨hloadable.each entry hentry, by simp⟩,
      hloadable.distinct⟩
  unfold loadEntries
  dsimp only
  rw [reject_of_not (Nat.not_lt.mpr hloadable.count), hvalid]
  rfl

/-- The loader accepts the stable entries of this receiver. -/
def Loads (receiverId : ReceiverId) (store : FilePersistenceStore) : Prop :=
  ∃ entries, loadEntries receiverId store = .ok entries

theorem loads_iff : Loads receiverId store ↔ Loadable receiverId (store.stableEntries receiverId) := by
  constructor
  · intro ⟨entries, h⟩
    exact (loadEntries_iff.mp h).2
  intro h
  exact ⟨_, loadEntries_iff.mpr ⟨rfl, h⟩⟩

end Loader

variable {changes : List StableIntentChange}

section Rebinding

structure Outdated (trigger : RestoreTrigger) (profiles : ProfileRegistry)
    (current : QualifiedDeviceProfile) (intent : PersistedStableIntent) : Prop where
  receiver : intent.receiverId = trigger.receiverId
  scope : inScope trigger intent.deviceId = true
  receiverProfile : ∃ receiverProfile,
    profiles.receiverProfile trigger.receiverId trigger.generationId = some receiverProfile ∧
      intent.receiverProfileId = receiverProfile.profileId ∧
      intent.receiverProfileDigest = receiverProfile.profileDigest
  profile : profiles.deviceProfile
    (lightingResource trigger.receiverId trigger.generationId intent.deviceId) = some current
  changed : intent.profileDigest ≠ current.profileDigest
  sameProfile : intent.profileId = current.profileId
  sameSlots : intent.applicationSlotCount = current.applicationSlotCount
  permitted : profiles.permitsStableLightingMigration
    (lightingResource trigger.receiverId trigger.generationId intent.deviceId) intent.profileDigest = true

variable [RestorationDigests]

structure Upgraded (current : QualifiedDeviceProfile) (old new : PersistedStableIntent) : Prop where
  kept : new = { old with
    profileDigest := new.profileDigest, revision := new.revision, contentDigest := new.contentDigest }
  profileDigest : new.profileDigest = current.profileDigest
  revision : new.revision.get = old.revision.get + 1
  contentDigest : new.contentDigest = intentDigest new

omit [RestorationDigests] in
theorem nextCounter_some {hi : Nat} {current next : Bounded 1 hi}
    (h : (nextCounter (some current) : Except RestorationError (Bounded 1 hi)) = .ok next) :
    next.get = current.get + 1 := by
  unfold nextCounter Bounded.tryFrom at h
  dsimp only at h
  split at h
  · cases h
  next hfits =>
    split at hfits
    · cases hfits
      cases h
      rfl
    · cases hfits

variable {trigger : RestoreTrigger} {profiles : ProfileRegistry}
  {receiverProfile : QualifiedReceiverProfile} {records : List RestoreRecord}

variable {intent : PersistedStableIntent} {before after : PersistedStableEntry}
  {entries : List PersistedStableEntry} {receiverId : ReceiverId}

section

variable (hreceiverProfile : profiles.receiverProfile trigger.receiverId trigger.generationId = some receiverProfile)
include hreceiverProfile

theorem migratedIntent_some {change : StableIntentChange} (hreceiver : intent.receiverId = trigger.receiverId)
    (h : migratedIntent trigger profiles receiverProfile records intent = .ok (some change)) :
    ∃ current new, change = ⟨some intent.revision, .present new⟩ ∧
      Outdated trigger profiles current intent ∧ Upgraded current intent new := by
  unfold migratedIntent at h
  dsimp only at h
  split at h
  · cases h
  next hscope =>
    split at h
    · cases h
    next current hcurrent =>
      split at h
      · cases h
      next hbinding =>
        obtain ⟨_, _, h⟩ := bind_eq_ok h
        obtain ⟨revision, hrevision, h⟩ := bind_eq_ok h
        cases h
        simp only [not_or, not_not] at hscope hbinding
        refine ⟨current, _, rfl, ?_, ⟨rfl, rfl, nextCounter_some hrevision, rfl⟩⟩
        exact ⟨hreceiver, hscope.1, ⟨receiverProfile, hreceiverProfile, hscope.2⟩, hcurrent,
          hbinding.1, hbinding.2.1, hbinding.2.2.1, hbinding.2.2.2⟩

theorem migratedIntent_none (h : migratedIntent trigger profiles receiverProfile records intent = .ok none)
    (current : QualifiedDeviceProfile) : ¬ Outdated trigger profiles current intent := by
  intro hout
  obtain ⟨found, hfound, hid, hdigest⟩ := hout.receiverProfile
  obtain rfl : found = receiverProfile := Option.some.inj (hfound.symm.trans hreceiverProfile)
  unfold migratedIntent at h
  dsimp only at h
  rw [if_neg (by simp [hout.scope, hid, hdigest]), hout.profile] at h
  dsimp only at h
  rw [if_neg (by simp [hout.changed, hout.sameProfile, hout.sameSlots, hout.permitted])] at h
  obtain ⟨_, _, h⟩ := bind_eq_ok h
  obtain ⟨_, _, h⟩ := bind_eq_ok h
  cases h

theorem migratedIntent_current
    (hreceiver : intent.receiverId = trigger.receiverId)
    (h : ∀ current, ¬ Outdated trigger profiles current intent) :
    migratedIntent trigger profiles receiverProfile records intent = .ok none := by
  unfold migratedIntent
  dsimp only
  split
  · rfl
  next hscope =>
    split
    · rfl
    next current hcurrent =>
      rw [if_pos]
      by_contra hbinding
      simp only [not_or, not_not] at hscope hbinding
      exact h current ⟨hreceiver, hscope.1, ⟨receiverProfile, hreceiverProfile, hscope.2⟩, hcurrent,
        hbinding.1, hbinding.2.1, hbinding.2.2.1, hbinding.2.2.2⟩

end

inductive EntryMigration (trigger : RestoreTrigger) (profiles : ProfileRegistry) :
    PersistedStableEntry → PersistedStableEntry → Prop
  | kept {entry : PersistedStableEntry}
      (current : ∀ intent, entry = .present intent → ∀ profile, ¬ Outdated trigger profiles profile intent) :
      EntryMigration trigger profiles entry entry
  | migrated {profile : QualifiedDeviceProfile} {old new : PersistedStableIntent}
      (outdated : Outdated trigger profiles profile old) (upgraded : Upgraded profile old new) :
      EntryMigration trigger profiles (.present old) (.present new)

structure Migrations (trigger : RestoreTrigger) (profiles : ProfileRegistry)
    (entries : List PersistedStableEntry) (changes : List StableIntentChange) : Prop where
  made : ∀ change ∈ changes, ∃ profile old new, .present old ∈ entries ∧
    change = ⟨some old.revision, .present new⟩ ∧ Outdated trigger profiles profile old ∧
    Upgraded profile old new
  complete : ∀ old, .present old ∈ entries → ∀ profile, Outdated trigger profiles profile old →
    ∃ change ∈ changes, entryKey change.entry = entryKey (.present old)
  keys : (changes.map (entryKey ·.entry)).Sublist (entries.map entryKey)

theorem Upgraded.key {profile : QualifiedDeviceProfile} {old new : PersistedStableIntent}
    (h : Upgraded profile old new) : entryKey (.present new) = entryKey (.present old) := by
  rw [h.kept]
  rfl

theorem migratedEntries_migrations
    (hreceiverProfile : profiles.receiverProfile trigger.receiverId trigger.generationId =
      some receiverProfile) (hreceiver : ∀ entry ∈ entries, entry.receiverId = trigger.receiverId)
    (h : migratedEntries trigger profiles receiverProfile records entries = .ok changes) :
    Migrations trigger profiles entries changes := by
  induction entries generalizing changes with
  | nil =>
    cases h
    exact ⟨fun _ hmem => (by cases hmem), fun _ hmem => (by cases hmem), List.Sublist.slnil⟩
  | cons entry entries ih =>
    have hlater : ∀ entry ∈ entries, entry.receiverId = trigger.receiverId :=
      fun entry hmem => hreceiver entry (List.mem_cons_of_mem _ hmem)
    cases entry with
    | deleted tombstone =>
      obtain ⟨hmade, hcomplete, hkeys⟩ := ih hlater h
      refine ⟨?_, ?_, hkeys.cons _⟩
      · intro change hchange
        obtain ⟨profile, old, new, hold, hrest⟩ := hmade change hchange
        exact ⟨profile, old, new, List.mem_cons_of_mem _ hold, hrest⟩
      intro old hold profile hout
      obtain hfirst | hrest := List.mem_cons.mp hold
      · cases hfirst
      · exact hcomplete old hrest profile hout
    | present intent =>
      unfold migratedEntries at h
      obtain ⟨first, hfirst, h⟩ := bind_eq_ok h
      obtain ⟨rest, hrest, h⟩ := bind_eq_ok h
      cases h
      obtain ⟨hmade, hcomplete, hkeys⟩ := ih hlater hrest
      have hown : intent.receiverId = trigger.receiverId := hreceiver _ List.mem_cons_self
      cases first with
      | none =>
        refine ⟨?_, ?_, hkeys.cons _⟩
        · intro change hchange
          obtain ⟨profile, old, new, hold, hrest⟩ := hmade change hchange
          exact ⟨profile, old, new, List.mem_cons_of_mem _ hold, hrest⟩
        intro old hold profile hout
        obtain hsame | hold := List.mem_cons.mp hold
        · cases hsame
          exact absurd hout (migratedIntent_none hreceiverProfile hfirst profile)
        · exact hcomplete old hold profile hout
      | some change =>
        obtain ⟨profile, new, hchange, hout, hup⟩ := migratedIntent_some hreceiverProfile hown hfirst
        subst hchange
        refine ⟨?_, ?_, ?_⟩
        · intro change hchange
          obtain hsame | hlast := List.mem_cons.mp hchange
          · subst hsame
            exact ⟨profile, intent, new, List.mem_cons_self, rfl, hout, hup⟩
          obtain ⟨profile, old, new, hold, hrest⟩ := hmade change hlast
          exact ⟨profile, old, new, List.mem_cons_of_mem _ hold, hrest⟩
        · intro old hold profile hout
          obtain hsame | hold := List.mem_cons.mp hold
          · cases hsame
            exact ⟨_, List.mem_cons_self, hup.key⟩
          obtain ⟨change, hchange, hkey⟩ := hcomplete old hold profile hout
          exact ⟨change, List.mem_cons_of_mem _ hchange, hkey⟩
        show (entryKey (.present new) :: rest.map (entryKey ·.entry)).Sublist
          (entryKey (.present intent) :: entries.map entryKey)
        rw [hup.key]
        exact hkeys.cons_cons _

theorem migratedEntries_settled
    (hreceiverProfile : profiles.receiverProfile trigger.receiverId trigger.generationId =
      some receiverProfile) (hreceiver : ∀ entry ∈ entries, entry.receiverId = trigger.receiverId)
    (h : ∀ intent, .present intent ∈ entries → ∀ profile, ¬ Outdated trigger profiles profile intent) :
    migratedEntries trigger profiles receiverProfile records entries = .ok [] := by
  induction entries with
  | nil => rfl
  | cons entry entries ih =>
    have hlater := ih (fun entry hmem => hreceiver entry (List.mem_cons_of_mem _ hmem))
      (fun intent hmem => h intent (List.mem_cons_of_mem _ hmem))
    cases entry with
    | deleted tombstone => exact hlater
    | present intent =>
      unfold migratedEntries
      rw [migratedIntent_current hreceiverProfile (hreceiver _ List.mem_cons_self)
        (h intent List.mem_cons_self), hlater]
      rfl

structure StoreMigrated (trigger : RestoreTrigger) (profiles : ProfileRegistry)
    (before after : BridgePersistenceDocument) : Prop where
  policies : after.policies.Perm before.policies
  records : after.restoreRecords.Perm before.restoreRecords
  entries : ∃ migrated, List.Forall₂ (EntryMigration trigger profiles) before.stableEntries migrated ∧
    after.stableEntries.Perm migrated

theorem EntryMigration.loadable (h : EntryMigration trigger profiles before after)
    (hloadable : LoadableEntry receiverId before) :
    LoadableEntry receiverId after := by
  cases h with
  | kept _ => exact hloadable
  | migrated hout hup =>
    rename_i profile old new
    obtain ⟨hkept, _, _, hdigest⟩ := hup
    obtain ⟨hschema, hreceiver, hvalid⟩ := hloadable
    obtain ⟨_, hslots, hvalid⟩ := bind_eq_ok (show validateIntentDigest old = .ok () from hvalid)
    have hdimensions : validateLightingDimensions old = true := (not_not.mp (reject_eq_ok hvalid)).2
    refine ⟨?_, ?_, ?_⟩
    · rw [hkept]
      exact hschema
    · rw [hkept]
      exact hreceiver
    have hslots' : new.applicationSlotCount = old.applicationSlotCount := by rw [hkept]
    have hdimensions' : validateLightingDimensions new = true := by
      rw [hkept]
      exact hdimensions
    show validateIntentDigest new = .ok ()
    unfold validateIntentDigest
    rw [hslots', reject_of_not (reject_eq_ok hslots), reject_of_not (not_not.mpr ⟨hdigest.symm, hdimensions'⟩)]
    rfl

theorem EntryMigration.key (h : EntryMigration trigger profiles before after)
    : entryKey after = entryKey before := by
  cases h with
  | kept _ => rfl
  | migrated _ hup => exact hup.key

theorem EntryMigration.settled (h : EntryMigration trigger profiles before (.present intent))
    (profile : QualifiedDeviceProfile) :
    ¬ Outdated trigger profiles profile intent := by
  cases h with
  | kept hcurrent => exact hcurrent intent rfl profile
  | migrated hout hup =>
    rename_i current old
    intro hagain
    have hdevice : intent.deviceId = old.deviceId := by rw [hup.kept]
    have hsame : some current = some profile := by
      rw [← hout.profile, ← hagain.profile, hdevice]
    exact hagain.changed (hup.profileDigest.trans (congrArg _ (Option.some.inj hsame)))

theorem entryMigration_filter {before after : List PersistedStableEntry} (receiverId : ReceiverId)
    (h : List.Forall₂ (EntryMigration trigger profiles) before after) :
    List.Forall₂ (EntryMigration trigger profiles) (before.filter (·.receiverId = receiverId))
      (after.filter (·.receiverId = receiverId)) := by
  induction h with
  | nil => exact .nil
  | @cons entry entry' rest rest' hfirst _ ih =>
    have hreceiver : entry'.receiverId = entry.receiverId := congrArg Prod.fst hfirst.key
    by_cases hown : entry.receiverId = receiverId
    · rw [List.filter_cons_of_pos (by simpa using hown),
        List.filter_cons_of_pos (by simpa [hreceiver] using hown)]
      exact .cons hfirst ih
    rw [List.filter_cons_of_neg (by simpa using hown),
      List.filter_cons_of_neg (by simpa [hreceiver] using hown)]
    exact ih

theorem StoreMigrated.loads {store' : FilePersistenceStore}
    (h : StoreMigrated trigger profiles store.document store'.document) (hloads : Loads receiverId store)
    : Loads receiverId store' := by
  obtain ⟨migrated, hmigrated, hperm⟩ := h.entries
  have hown := entryMigration_filter receiverId hmigrated
  obtain ⟨hcount, heach, hdistinct⟩ := loads_iff.mp hloads
  have hdevices : ∀ {before after : List PersistedStableEntry},
      List.Forall₂ (EntryMigration trigger profiles) before after →
      after.map (·.deviceId) = before.map (·.deviceId) := by
    intro before after hpairs
    induction hpairs with
    | nil => rfl
    | cons hfirst _ ih =>
      rw [List.map_cons, List.map_cons, ih]
      congr 1
      exact congrArg Prod.snd hfirst.key
  refine loads_iff.mpr (Loadable.perm ?_ (hperm.filter _))
  refine ⟨hown.length_eq ▸ hcount, ?_, ?_⟩
  · intro entry hentry
    obtain ⟨i, hi, hget⟩ := List.mem_iff_getElem.mp hentry
    have hi' : i < (store.document.stableEntries.filter (·.receiverId = receiverId)).length := by
      rw [hown.length_eq]
      exact hi
    have hpair := List.forall₂_iff_get.mp hown
    have hstep := hpair.2 i hi' hi
    rw [← hget]
    exact hstep.loadable (heach _ (List.getElem_mem hi'))
  rw [hdevices hown]
  exact hdistinct

end Rebinding

section Run

variable [RestorationDigests] {T : Type} {trigger : RestoreTrigger} {profiles : ProfileRegistry}

variable {s : RestorationState T} {receiverId : ReceiverId} {entries : List PersistedStableEntry}
  {entry : PersistedStableEntry}

theorem loaded_entry (h : loadEntries receiverId s.store = .ok entries) :
    entry ∈ entries ↔ entry ∈ s.store.document.stableEntries ∧ entry.receiverId = receiverId := by
  obtain ⟨rfl, _⟩ := loadEntries_iff.mp h
  rw [(sortBy_perm _ _ _).mem_iff]
  simp [stableEntries]

theorem loaded_count (h : loadEntries receiverId s.store = .ok entries) (hentry : entry ∈ entries) :
    s.store.document.stableEntries.countP (entryKey · = entryKey entry) = 1 := by
  obtain ⟨_, _, _, hdistinct⟩ := loadEntries_iff.mp h
  obtain ⟨hstored, hown⟩ := (loaded_entry h).mp hentry
  have hdevice : entry.deviceId ∈ (s.store.stableEntries receiverId).map (·.deviceId) := by
    refine List.mem_map.mpr ⟨entry, ?_, rfl⟩
    exact List.mem_filter.mpr ⟨hstored, by simpa using hown⟩
  have hone := List.count_eq_one_of_mem hdistinct hdevice
  rw [List.count_eq_countP, List.countP_map, stableEntries, List.countP_filter] at hone
  refine (List.countP_congr fun other _ => ?_).trans hone
  subst hown
  simp only [Function.comp_apply, Bool.and_eq_true, beq_iff_eq, decide_eq_true_eq]
  constructor
  · intro heq
    exact ⟨congrArg Prod.snd heq, congrArg Prod.fst heq⟩
  intro ⟨hdevice, hreceiver⟩
  exact Prod.ext hreceiver hdevice

theorem loaded_unique (h : loadEntries receiverId s.store = .ok entries) {other : PersistedStableEntry}
    (hentry : entry ∈ entries) (hother : other ∈ s.store.document.stableEntries)
    (hkey : entryKey other = entryKey entry) :
    other = entry := by
  have hcount := loaded_count h hentry
  rw [List.countP_eq_length_filter] at hcount
  obtain ⟨only, honly⟩ := List.length_eq_one_iff.mp hcount
  have hmem : ∀ x ∈ s.store.document.stableEntries, entryKey x = entryKey entry → x = only := by
    intro x hx hxkey
    have hx : x ∈ s.store.document.stableEntries.filter (entryKey · = entryKey entry) :=
      List.mem_filter.mpr ⟨hx, by simpa using hxkey⟩
    rw [honly] at hx
    exact List.mem_singleton.mp hx
  rw [hmem other hother hkey, hmem entry ((loaded_entry h).mp hentry).1 rfl]

theorem Migrations.document (h : loadEntries trigger.receiverId s.store = .ok entries)
    (hbatch : Migrations trigger profiles entries changes) :
    StoreMigrated trigger profiles s.store.document (canonicalize { s.store.document with
      stableEntries := changes.foldl
        (fun entries change => upsert entryKey change.entry entries)
        s.store.document.stableEntries }) := by
  have hdistinct : (changes.map (entryKey ·.entry)).Nodup := by
    refine hbatch.keys.nodup ?_
    obtain ⟨hsorted, hloadable⟩ := loadEntries_iff.mp h
    have hdevices := (hloadable.perm (hsorted ▸ sortBy_perm _ _ _)).distinct
    refine List.Nodup.of_map Prod.snd ?_
    rw [List.map_map]
    exact hdevices
  refine ⟨sortBy_perm _ _ _, sortBy_perm _ _ _, ?_⟩
  refine ⟨s.store.document.stableEntries.map (overlay entryKey (·.entry) changes), ?_, ?_⟩
  · rw [List.forall₂_map_right_iff, List.forall₂_same]
    intro entry hentry
    by_cases hchanged : ∃ change ∈ changes, entryKey entry = entryKey change.entry
    · obtain ⟨change, hchange, hkey⟩ := hchanged
      rw [overlay_replaced hdistinct hchange hkey]
      obtain ⟨profile, old, new, hold, rfl, hout, hup⟩ := hbatch.made change hchange
      obtain rfl : entry = .present old := loaded_unique h hold hentry (hkey.trans hup.key)
      exact .migrated hout hup
    rw [overlay_kept fun change hchange hkey => hchanged ⟨change, hchange, hkey⟩]
    refine .kept fun intent hintent profile hout => hchanged ?_
    subst hintent
    have hloaded := (loaded_entry h).mpr ⟨hentry, hout.receiver⟩
    obtain ⟨change, hchange, hkey⟩ := hbatch.complete intent hloaded profile hout
    exact ⟨change, hchange, hkey.symm⟩
  refine (sortBy_perm _ _ _).trans (List.Perm.of_eq ?_)
  refine foldl_upsert_eq_map fun change hchange => ?_
  obtain ⟨profile, old, new, hold, rfl, hout, hup⟩ := hbatch.made change hchange
  show s.store.document.stableEntries.countP (entryKey · = entryKey (.present new)) = 1
  rw [hup.key]
  exact loaded_count h hold

theorem Migrations.compared (h : loadEntries trigger.receiverId s.store = .ok entries)
    (hmade : ∀ change ∈ changes, ∃ profile old new, .present old ∈ entries ∧
      change = ⟨some old.revision, .present new⟩ ∧ Outdated trigger profiles profile old ∧
      Upgraded profile old new) :
    compareStableEntries s.store.document changes = .ok .applied := by
  induction changes with
  | nil => rfl
  | cons change changes ih =>
    obtain ⟨profile, old, new, hold, rfl, hout, hup⟩ := hmade change List.mem_cons_self
    have hlater := ih fun change hchange => hmade change (List.mem_cons_of_mem _ hchange)
    have hloadable := (loadEntries_iff.mp h).2.each (.present old) (by
      rw [← (sortBy_perm compare (·.deviceId) _).mem_iff, ← (loadEntries_iff.mp h).1]
      exact hold)
    have hschema : new.schemaVersion = currentSchemaVersion := by
      rw [hup.kept]
      exact hloadable.schema
    have hfound : s.store.document.stableEntries.find?
        (fun entry => entryKey entry = entryKey (.present new)) = some (.present old) := by
      rw [hup.key]
      cases hfind : s.store.document.stableEntries.find?
          (fun entry => entryKey entry = entryKey (.present old)) with
      | none =>
        have hnone := List.find?_eq_none.mp hfind _ ((loaded_entry h).mp hold).1
        simp at hnone
      | some found =>
        have hkey := List.find?_some hfind
        rw [loaded_unique h hold (List.mem_of_find?_eq_some hfind) (by simpa using hkey)]
    unfold compareStableEntries validateRecordSchema
    show (reject (new.schemaVersion ≠ currentSchemaVersion) _ >>= fun _ => _) = _
    rw [reject_of_not (not_not.mpr hschema)]
    simp only [bind, Except.bind]
    rw [hfound, if_neg fun hne => hne rfl]
    exact hlater

theorem migrateCompatibleStableIntents_settled {records : List RestoreRecord}
    (hloads : Loads trigger.receiverId s.store)
    (h : ∀ intent, Saved s intent → ∀ profile, ¬ Outdated trigger profiles profile intent) :
    migrateCompatibleStableIntents trigger profiles records s = .ok 0 s := by
  obtain ⟨entries, hentries⟩ := hloads
  unfold migrateCompatibleStableIntents
  cases hreceiverProfile : profiles.receiverProfile trigger.receiverId trigger.generationId with
  | none => rfl
  | some receiverProfile =>
    have hnone : migratedEntries trigger profiles receiverProfile records entries = .ok [] := by
      refine migratedEntries_settled hreceiverProfile ?_ ?_
      · intro entry hentry
        exact ((loaded_entry hentries).mp hentry).2
      intro intent hintent
      exact h intent ((loaded_entry hentries).mp hintent).1
    simp only [bind, EStateM.bind, get, getThe, MonadStateOf.get, get_apply, hentries, lift, hnone]
    rfl

theorem StoreMigrated.settled {before after : BridgePersistenceDocument}
    (h : StoreMigrated trigger profiles before after) {intent : PersistedStableIntent}
    (hsaved : .present intent ∈ after.stableEntries) (profile : QualifiedDeviceProfile) :
    ¬ Outdated trigger profiles profile intent := by
  obtain ⟨migrated, hmigrated, hperm⟩ := h.entries
  obtain ⟨i, hi, hget⟩ := List.mem_iff_getElem.mp (hperm.mem_iff.mp hsaved)
  have hpair := (List.forall₂_iff_get.mp hmigrated).2 i (hmigrated.length_eq ▸ hi) hi
  rw [List.get_eq_getElem, List.get_eq_getElem, hget] at hpair
  exact hpair.settled profile

/-- The migration reached the store, all of it, and left nothing to migrate. -/
structure MigratedTo (trigger : RestoreTrigger) (profiles : ProfileRegistry)
    (s s' : RestorationState T) : Prop where
  core : s'.core = s.core
  leases : s'.leases = s.leases
  document : StoreMigrated trigger profiles s.store.document s'.store.document
  again : ∀ records, migrateCompatibleStableIntents trigger profiles records s' = .ok 0 s'

theorem migratedTo_of_document {s' : RestorationState T} (hcore : s'.core = s.core)
    (hleases : s'.leases = s.leases)
    (hdocument : StoreMigrated trigger profiles s.store.document s'.store.document)
    (hloads : Loads trigger.receiverId s.store) : MigratedTo trigger profiles s s' := by
  refine ⟨hcore, hleases, hdocument, fun records => ?_⟩
  exact migrateCompatibleStableIntents_settled (hdocument.loads hloads) fun _ => hdocument.settled

section
omit [RestorationDigests]

/-- The commit failed before the replacement could be seen. -/
def WriteLost (s s' : RestorationState T) : Prop :=
  s' = { s with store := { s.store with commits := s.store.commits.tail } } ∧
    ∃ error, s.store.commits.head? = some (.error error) ∧ error.replacementVisible = false

theorem commit_outcome {candidate : BridgePersistenceDocument} :
    Holds (commit candidate) store
      (fun _ store' => store'.document = candidate)
      (fun _ store' => store' = store ∨ store'.document = candidate ∨
        (store' = { store with commits := store.commits.tail } ∧
          ∃ error, store.commits.head? = some (.error error) ∧ error.replacementVisible = false)) := by
  simp only [commit, holds_do]
  refine ⟨fun _ _ => ?_, fun _ _ => .inl trivial⟩
  cases hcommits : store.commits with
  | nil => exact rfl
  | cons outcome commits =>
    cases outcome with
    | ok _ => exact rfl
    | error error =>
      simp only [List.headD_cons, holds_do]
      cases hvisible : error.replacementVisible with
      | true => exact .inr (.inl rfl)
      | false => exact .inr (.inr ⟨rfl, error, rfl, hvisible⟩)

end

/-- Migration rebinds the outdated intents of a store the loader accepts, all of them or none. -/
theorem migrateCompatibleStableIntents_run (trigger : RestoreTrigger) (profiles : ProfileRegistry)
    (records : List RestoreRecord) (s : RestorationState T) (hloads : Loads trigger.receiverId s.store) :
    Holds (migrateCompatibleStableIntents trigger profiles records) s
      (fun _ s' => MigratedTo trigger profiles s s')
      (fun _ s' => MigratedTo trigger profiles s s' ∨ s' = s ∨ WriteLost s s') ∧
    ∀ receiverId, Loads receiverId s.store →
      Loads receiverId (final (migrateCompatibleStableIntents trigger profiles records) s).store := by
  have houtcome : Holds (migrateCompatibleStableIntents trigger profiles records) s
      (fun _ s' => MigratedTo trigger profiles s s')
      (fun _ s' => MigratedTo trigger profiles s s' ∨ s' = s ∨ WriteLost s s') := by
    obtain ⟨entries, hentries⟩ := hloads
    have hloads : Loads trigger.receiverId s.store := ⟨entries, hentries⟩
    have hidle : (∀ intent, Saved s intent → ∀ profile, ¬ Outdated trigger profiles profile intent) →
        MigratedTo trigger profiles s s := by
      intro hcurrent
      refine migratedTo_of_document rfl rfl ⟨.refl _, .refl _, _, ?_, .refl _⟩ hloads
      refine List.forall₂_same.mpr fun entry hentry => .kept fun intent hintent => ?_
      subst hintent
      exact hcurrent intent hentry
    unfold migrateCompatibleStableIntents
    cases hreceiverProfile : profiles.receiverProfile trigger.receiverId trigger.generationId with
    | none =>
      refine hidle fun intent _ profile hout => ?_
      obtain ⟨_, hfound, _⟩ := hout.receiverProfile
      cases hreceiverProfile.symm.trans hfound
    | some receiverProfile =>
      simp only [holds_do]
      refine ⟨fun loaded hloaded => ⟨fun changes hchanges => ?_, fun _ _ => .inr (.inl trivial)⟩,
        fun _ _ => .inr (.inl trivial)⟩
      have hbatch : Migrations trigger profiles loaded changes :=
        migratedEntries_migrations hreceiverProfile
          (fun entry hentry => ((loaded_entry hloaded).mp hentry).2) hchanges
      split
      next hnil =>
        subst hnil
        refine hidle fun intent hsaved profile hout => ?_
        have hmem := (loaded_entry hloaded).mpr ⟨hsaved, hout.receiver⟩
        obtain ⟨_, hchange, _⟩ := hbatch.complete intent hmem profile hout
        cases hchange
      next hchanged =>
        have hdocument := hbatch.document hloaded
        have hwritten : ∀ store : FilePersistenceStore, store.document = canonicalize
            { s.store.document with
              stableEntries := changes.foldl
                (fun entries change => upsert entryKey change.entry entries)
                s.store.document.stableEntries } →
            MigratedTo trigger profiles s { s with store := store } := by
          intro store hstore
          refine migratedTo_of_document rfl rfl ?_ hloads
          show StoreMigrated trigger profiles s.store.document store.document
          rw [hstore]
          exact hdocument
        simp only [withStore, holds_do]
        unfold compareAndSetStableEntries
        rw [if_neg hchanged]
        simp only [holds_do]
        refine ⟨fun _ => .inr (.inl trivial), fun _ => ⟨fun compared hcompared => ?_,
          fun _ _ => .inr (.inl trivial)⟩⟩
        rw [Migrations.compared hloaded hbatch.made] at hcompared
        cases hcompared
        simp only [holds_do]
        refine holds_mono commit_outcome (fun _ store hstore => hwritten store hstore) ?_
        intro _ store hstore
        obtain hsame | hreplaced | ⟨hlost, hscript⟩ := hstore
        · subst hsame
          exact .inr (.inl rfl)
        · exact .inl (hwritten store hreplaced)
        subst hlost
        exact .inr (.inr ⟨rfl, hscript⟩)
  refine ⟨houtcome, fun receiverId hreceiver => ?_⟩
  refine holds_final (P := fun s' => Loads receiverId s'.store) (holds_mono houtcome ?_ ?_)
  · intro _ s' hs
    exact hs.document.loads hreceiver
  intro _ s' hs
  obtain hmigrated | hsame | ⟨hlost, _⟩ := hs
  · exact hmigrated.document.loads hreceiver
  · rw [hsame]
    exact hreceiver
  rw [hlost]
  exact hreceiver

end Run

/-- A digest that tells the device profiles apart. -/
@[reducible] def profileDigests : RestorationDigests where
  toCanonicalDigests := sampleDigests
  claimDigest _ := sampleDigest
  intentDigest input := input.profileDigest

/-- A store with an intent of an older device profile and a tombstone of another receiver. -/
def outdatedStart : RestorationState Unit where
  core := ⟨emptyCoordinator, sampleLog, ()⟩
  leases := ⟨4, 4, ∅, ∅, []⟩
  store := ⟨2, ⟨[], [.deleted ⟨currentSchemaVersion, .lit "other",
    sampleResource.deviceId, .lit 1, none, .lit 0⟩,
    .present sampleIntent], []⟩, []⟩

def upgradedDigest : ProfileDigest :=
  .lit "fedcba9876543210fedcba9876543210fedcba9876543210fedcba9876543210"

def upgradedProfiles : ProfileRegistry :=
  ⟨fun _ => true, fun _ _ => some ⟨sampleProfile, sampleDigest⟩,
    fun _ => some ⟨sampleProfile, upgradedDigest, .lit 1⟩, fun _ _ => true⟩

theorem migrateCompatibleStableIntents_run_sample :
    letI := profileDigests
    (Holds (migrateCompatibleStableIntents sampleTrigger upgradedProfiles []) outdatedStart
      (fun _ s' => MigratedTo sampleTrigger upgradedProfiles outdatedStart s')
      (fun _ s' => MigratedTo sampleTrigger upgradedProfiles outdatedStart s' ∨ s' = outdatedStart ∨
        WriteLost outdatedStart s') ∧
    ∀ receiverId, Loads receiverId outdatedStart.store → Loads receiverId
      (final (migrateCompatibleStableIntents sampleTrigger upgradedProfiles []) outdatedStart).store) ∧
    answer (migrateCompatibleStableIntents sampleTrigger upgradedProfiles []) outdatedStart = .ok 1 := by
  refine ⟨?_, by decide +kernel⟩
  exact @migrateCompatibleStableIntents_run profileDigests Unit sampleTrigger upgradedProfiles []
    outdatedStart ⟨[.present sampleIntent], by decide +kernel⟩

end HyperfluxNext
