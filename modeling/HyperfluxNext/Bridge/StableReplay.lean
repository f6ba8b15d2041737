import HyperfluxNext.Bridge.CaptureRestore

namespace HyperfluxNext

open Procedure List

/-- The calls that write stable entries, with their arguments. -/
inductive StableOp where
  | commit (request : TransactionRequest) (terminal : TransactionTerminal)
      (captures : List StableIntentCapture) (capturedAt : WallClockUnixMs)
  | commitDeclared (request : TransactionRequest) (terminal : TransactionTerminal)
      (capturedAt : WallClockUnixMs)
  | clear (receiverId : ReceiverId) (deviceIds : List LogicalDeviceId) (deletedAt : WallClockUnixMs)
  | migrate (trigger : RestoreTrigger) (profiles : ProfileRegistry) (records : List RestoreRecord)

section History

variable {T : Type} [RestorationDigests]

/-- The state a call leaves behind when the commit boundary gives it these answers. -/
def StableOp.run (op : StableOp) (commits : List (Except FilePersistenceError Unit))
    (s : RestorationState T) : RestorationState T :=
  let s := { s with store := { s.store with commits := commits } }
  match op with
  | .commit request terminal captures capturedAt =>
    final (commitStableTransaction request terminal captures capturedAt) s
  | .commitDeclared request terminal capturedAt =>
    final (commitDeclaredStableTransaction request terminal capturedAt) s
  | .clear receiverId deviceIds deletedAt => final (clearStableIntents receiverId deviceIds deletedAt) s
  | .migrate trigger profiles records => final (migrateCompatibleStableIntents trigger profiles records) s

/-- The states that come after `start` when every call that writes stable entries satisfies `ok`;
everything else leaves the stable entries alone. -/
inductive StableHistory (ok : StableOp → Prop) (start : RestorationState T) : RestorationState T → Prop
  | refl : StableHistory ok start start
  | call {s : RestorationState T} (h : StableHistory ok start s) (op : StableOp) (hok : ok op)
      (commits : List (Except FilePersistenceError Unit)) : StableHistory ok start (op.run commits s)
  | elsewhere {s s' : RestorationState T} (h : StableHistory ok start s)
      (hsame : s'.store.document.stableEntries = s.store.document.stableEntries) :
      StableHistory ok start s'

/-- The store still has what the transaction set on the device. -/
def HoldsCapture (s : RestorationState T) (receiverId : ReceiverId) (deviceId : LogicalDeviceId)
    (transactionId : TransactionId) : Prop :=
  ∃ intent, Saved s intent ∧ intent.receiverId = receiverId ∧ intent.deviceId = deviceId ∧
    intent.sourceTransactionId = transactionId

/-- Neither a capture by another transaction nor a tombstone for the device. -/
def StableOp.Spares (receiverId : ReceiverId) (deviceId : LogicalDeviceId)
    (transactionId : TransactionId) : StableOp → Prop
  | .commit request _ _ _ | .commitDeclared request _ _ =>
    request.transactionId = transactionId ∨ request.receiverId ≠ receiverId ∨
      ∀ frame ∈ request.frames, frame.deviceId ≠ deviceId
  | .clear receiver deviceIds _ => receiver ≠ receiverId ∨ deviceId ∉ deviceIds
  | .migrate _ _ _ => True

variable {s : RestorationState T} {receiverId : ReceiverId} {deviceId : LogicalDeviceId}
  {transactionId : TransactionId} {request : TransactionRequest} {terminal : TransactionTerminal}
  {captures : List StableIntentCapture} {capturedAt : WallClockUnixMs} {entry : PersistedStableEntry}

omit [RestorationDigests] in
theorem entry_of_key {other : PersistedStableEntry} (h : OneEntryEach s)
    (hentry : entry ∈ s.store.document.stableEntries) (hother : other ∈ s.store.document.stableEntries)
    (hkey : entryKey entry = entryKey other) : entry = other :=
  inj_on_of_nodup_map h hentry hother hkey

variable {entries : List PersistedStableEntry} {trigger : RestoreTrigger} {profiles : ProfileRegistry}
  {deletedAt : WallClockUnixMs} {deviceIds : List LogicalDeviceId}

theorem loadEntries_find (h : OneEntryEach s) (hload : loadEntries receiverId s.store = .ok entries)
    (hentry : entry ∈ s.store.document.stableEntries) (hreceiver : entry.receiverId = receiverId)
    (hdevice : entry.deviceId = deviceId) : entries.find? (·.deviceId = deviceId) = some entry := by
  have hmem : entry ∈ entries := (loaded_entry hload).mpr ⟨hentry, hreceiver⟩
  cases hfind : entries.find? (·.deviceId = deviceId) with
  | none =>
    have hnone := find?_eq_none.mp hfind entry hmem
    rw [hdevice] at hnone
    simp at hnone
  | some found =>
    have hfound := find?_some hfind
    rw [decide_eq_true_iff] at hfound
    obtain ⟨hstored, hown⟩ := (loaded_entry hload).mp (mem_of_find?_eq_some hfind)
    refine congrArg some (entry_of_key h hstored hentry ?_)
    show (found.receiverId, found.deviceId) = (entry.receiverId, entry.deviceId)
    rw [hown, hfound, hreceiver, hdevice]

def Recognised (s : RestorationState T) (request : TransactionRequest) (terminal : TransactionTerminal) : Prop :=
  ∃ frame ∈ request.frames, ∃ intent, Saved s intent ∧ intent.receiverId = request.receiverId ∧
    intent.deviceId = frame.deviceId ∧ (intent.sourceTransactionId = request.transactionId ∨
      intent.sourceRequestDigest = terminal.requestDigest)

/-- What the turn for a frame makes of the stored entry. -/
theorem captureFrame_current {frame : LightingFrame} {capture : FrameCapture}
    (h : captureFrame request terminal captures entries capturedAt frame = .ok capture) :
    (∃ existing, entries.find? (·.deviceId = frame.deviceId) = some (.present existing) ∧
      existing.sourceTransactionId = request.transactionId ∧ capture = .replayed existing) ∨
    ∃ intent, capture = .change ((entries.find? (·.deviceId = frame.deviceId)).map (·.revision)) intent ∧
      intent.receiverId = request.receiverId ∧ intent.deviceId = frame.deviceId ∧
      intent.sourceTransactionId = request.transactionId ∧
      nextIntentRevision ((entries.find? (·.deviceId = frame.deviceId)).map (·.revision)) =
        .ok intent.revision ∧
      ∀ existing, entries.find? (·.deviceId = frame.deviceId) = some (.present existing) →
        ¬ (existing.sourceTransactionId = request.transactionId ∨
          existing.sourceRequestDigest = terminal.requestDigest) := by
  unfold captureFrame at h
  split at h
  · cases h
  next found _ =>
    obtain ⟨_, _, h⟩ := bind_eq_ok h
    split at h
    · cases h
    next binding _ =>
      obtain ⟨revision, hrevision, h⟩ := bind_eq_ok h
      unfold settleFrame at h
      split at h
      next existing hcurrent =>
        split at h
        · split at h
          next hexact =>
            cases h
            unfold exactReplay at hexact
            exact .inl ⟨existing, hcurrent, (of_decide_eq_true hexact).1, rfl⟩
          · cases h
        next hother =>
          cases h
          refine .inr ⟨capturedIntent request terminal capturedAt frame binding found.lighting revision,
            ?_, rfl, rfl, rfl, hrevision, ?_⟩
          · rw [hcurrent]
            rfl
          intro stored hstored
          rw [hcurrent] at hstored
          cases hstored
          exact hother
      next tombstone hcurrent =>
        cases h
        refine .inr ⟨capturedIntent request terminal capturedAt frame binding found.lighting revision,
          ?_, rfl, rfl, rfl, hrevision, ?_⟩
        · rw [hcurrent]
          rfl
        intro stored hstored
        rw [hcurrent] at hstored
        cases hstored
      next hcurrent =>
        cases h
        refine .inr ⟨capturedIntent request terminal capturedAt frame binding found.lighting revision,
          ?_, rfl, rfl, rfl, hrevision, ?_⟩
        · rw [hcurrent]
          rfl
        intro stored hstored
        rw [hcurrent] at hstored
        cases hstored

/-- A transaction that a stored intent is recognised by writes nothing. -/
theorem commitStableTransaction_recognised (h : OneEntryEach s) (hrecognised : Recognised s request terminal) :
    Ensures (commitStableTransaction request terminal captures capturedAt) s (fun s' => s' = s) := by
  simp only [commitStableTransaction, holds_do]
  refine ⟨fun _ _ => ⟨fun _ _ => ⟨fun captures _ => ⟨fun entries hload => ⟨fun frames hframes => ?_,
    fun _ _ => trivial⟩, fun _ _ => trivial⟩, fun _ _ => trivial⟩, fun _ _ => trivial⟩,
    fun _ _ => trivial⟩
  obtain ⟨frame, hframe, intent, hsaved, hreceiver, hdevice, hsource⟩ := hrecognised
  obtain ⟨capture, hcapture, hmade⟩ := mapM_ok_image hframes frame hframe
  have hfind := loadEntries_find h hload hsaved hreceiver hdevice
  have hreplayed : frames.any (·.change?.isNone) = true := by
    obtain ⟨existing, _, _, heq⟩ | ⟨_, _, _, _, _, _, hother⟩ := captureFrame_current hmade
    · exact any_eq_true.mpr ⟨capture, hcapture, by rw [heq]; rfl⟩
    · exact absurd hsource (hother intent hfind)
  rw [if_pos hreplayed]
  simp only [holds_do]
  exact ⟨fun _ => trivial, fun _ => trivial⟩

theorem commitStableTransaction_unrecognised (h : OneEntryEach s)
    (hunrecognised : ¬ Recognised s request terminal) :
    Holds (commitStableTransaction request terminal captures capturedAt) s
      (fun _ s' => s'.store.document ≠ s.store.document) (fun _ _ => True) := by
  simp only [commitStableTransaction, holds_do]
  refine ⟨fun _ _ => ⟨fun _ hvalid => ⟨fun captures _ => ⟨fun entries hload => ⟨fun frames hframes => ?_,
    fun _ _ => trivial⟩, fun _ _ => trivial⟩, fun _ _ => trivial⟩, fun _ _ => trivial⟩,
    fun _ _ => trivial⟩
  have hchange : ∀ capture ∈ frames, ∃ frame ∈ request.frames, ∃ intent,
      capture = .change ((entries.find? (·.deviceId = frame.deviceId)).map (·.revision)) intent ∧
      intent.receiverId = request.receiverId ∧ intent.deviceId = frame.deviceId ∧
      nextIntentRevision ((entries.find? (·.deviceId = frame.deviceId)).map (·.revision)) =
        .ok intent.revision := by
    intro capture hcapture
    obtain ⟨frame, hframe, hmade⟩ := mapM_ok_mem hframes capture hcapture
    obtain ⟨existing, hfind, hsource, _⟩ | ⟨intent, heq, hreceiver, hdevice, _, hrevision, _⟩ :=
      captureFrame_current hmade
    · have hloaded := mem_of_find?_eq_some hfind
      have hown := ((loaded_entry hload).mp hloaded).2
      have hdevice := find?_some hfind
      rw [decide_eq_true_iff] at hdevice
      exact absurd ⟨frame, hframe, existing, saved_of_loaded hload hloaded, hown, hdevice,
        .inl hsource⟩ hunrecognised
    · exact ⟨frame, hframe, intent, heq, hreceiver, hdevice, hrevision⟩
  have hnone : frames.any (·.change?.isNone) = false := by
    rw [any_eq_false]
    intro capture hcapture
    obtain ⟨_, _, intent, heq, _⟩ := hchange capture hcapture
    rw [heq]
    exact Bool.false_ne_true
  rw [hnone]
  simp only [Bool.false_eq_true, ↓reduceIte, holds_do]
  refine holds_mono (saveStableEntries_overlaid h) ?_ (fun _ _ _ => trivial)
  intro _ s' hs hsame
  obtain ⟨first, hfirst⟩ : ∃ first, first ∈ request.frames :=
    exists_mem_of_length_pos (validateTransaction_frames hvalid).1
  obtain ⟨capture, hcapture, _⟩ := mapM_ok_image hframes first hfirst
  obtain ⟨frame, _, intent, heq, hreceiver, hdevice, hrevision⟩ := hchange capture hcapture
  have hwritten : PersistedStableEntry.present intent ∈ s'.store.document.stableEntries := by
    refine (hs.entries _).mpr (.inl ?_)
    have hmade : capture.change? = some ⟨_, .present intent⟩ := congrArg FrameCapture.change? heq
    have hmem := mem_filterMap.mpr ⟨capture, hcapture, hmade⟩
    exact mem_map.mpr ⟨_, (sortBy_perm _ _ _).mem_iff.mpr hmem, rfl⟩
  rw [hsame] at hwritten
  rw [loadEntries_find h hload hwritten hreceiver hdevice] at hrevision
  have hnext := nextCounter_some hrevision
  change intent.revision.get = intent.revision.get + 1 at hnext
  omega

theorem commitStableTransaction_overlaid (h : OneEntryEach s) :
    Ensures (commitStableTransaction request terminal captures capturedAt) s
      (fun s' => ∃ written, Overlaid written s s' ∧ ∀ entry ∈ written,
        ∃ frame ∈ request.frames, entryKey entry = (request.receiverId, frame.deviceId)) := by
  have hnothing : ∃ written, Overlaid written s s ∧ ∀ entry ∈ written,
      ∃ frame ∈ request.frames, entryKey entry = (request.receiverId, frame.deviceId) :=
    ⟨[], Overlaid.refl h, fun _ hentry => by cases hentry⟩
  simp only [commitStableTransaction, holds_do]
  refine ⟨fun _ _ => ⟨fun _ _ => ⟨fun captures _ => ⟨fun entries _ => ⟨fun frames hframes => ?_,
    fun _ _ => hnothing⟩, fun _ _ => hnothing⟩, fun _ _ => hnothing⟩, fun _ _ => hnothing⟩,
    fun _ _ => hnothing⟩
  split
  · simp only [holds_do]
    exact ⟨fun _ => hnothing, fun _ => hnothing⟩
  have hkeys : ∀ entry ∈ (sortBy compare (fun change => change.entry.deviceId)
      (frames.filterMap (·.change?))).map (·.entry),
      ∃ frame ∈ request.frames, entryKey entry = (request.receiverId, frame.deviceId) := by
    intro entry hentry
    obtain ⟨change, hchange, hmade⟩ := mem_map.mp hentry
    obtain ⟨capture, hcapture, hsome⟩ := mem_filterMap.mp ((sortBy_perm _ _ _).mem_iff.mp hchange)
    obtain ⟨frame, hframe, hcaptured⟩ := mapM_ok_mem hframes capture hcapture
    refine ⟨frame, hframe, ?_⟩
    obtain ⟨_, _, _, heq⟩ | ⟨intent, heq, hreceiver, hdevice, _⟩ := captureFrame_current hcaptured
    · rw [heq] at hsome
      cases hsome
    rw [heq] at hsome
    cases hsome
    rw [← hmade]
    show (intent.receiverId, intent.deviceId) = _
    rw [hreceiver, hdevice]
  simp only [holds_do]
  refine holds_mono (saveStableEntries_overlaid h) (fun _ s' hs => ⟨_, hs, hkeys⟩) ?_
  intro _ s' hs
  obtain hs | hs := hs
  · exact ⟨[], hs, fun _ hentry => by cases hentry⟩
  · exact ⟨_, hs, hkeys⟩

theorem commitStableTransaction_holds (h : OneEntryEach s) :
    Holds (commitStableTransaction request terminal captures capturedAt) s
      (fun _ s' => ∀ frame ∈ request.frames,
        HoldsCapture s' request.receiverId frame.deviceId request.transactionId)
      (fun _ _ => True) := by
  simp only [commitStableTransaction, holds_do]
  refine ⟨fun _ _ => ⟨fun _ _ => ⟨fun captures _ => ⟨fun entries hload => ⟨fun frames hframes => ?_,
    fun _ _ => trivial⟩, fun _ _ => trivial⟩, fun _ _ => trivial⟩, fun _ _ => trivial⟩,
    fun _ _ => trivial⟩
  split
  · simp only [holds_do]
    refine ⟨fun _ => trivial, fun hunchanged frame hframe => ?_⟩
    obtain ⟨capture, hcapture, hmade⟩ := mapM_ok_image hframes frame hframe
    obtain ⟨existing, hfind, hsource, _⟩ | ⟨intent, heq, _⟩ := captureFrame_current hmade
    · have hloaded := mem_of_find?_eq_some hfind
      have hdevice := find?_some hfind
      rw [decide_eq_true_iff] at hdevice
      exact ⟨existing, saved_of_loaded hload hloaded, ((loaded_entry hload).mp hloaded).2, hdevice, hsource⟩
    have hchange : capture.change? = some ⟨_, .present intent⟩ := congrArg FrameCapture.change? heq
    have hmem := mem_filterMap.mpr ⟨capture, hcapture, hchange⟩
    rw [not_not.mp hunchanged] at hmem
    cases hmem
  next hfresh =>
    simp only [holds_do]
    refine holds_mono (saveStableEntries_overlaid h) ?_ (fun _ _ _ => trivial)
    intro _ s' hs frame hframe
    obtain ⟨capture, hcapture, hmade⟩ := mapM_ok_image hframes frame hframe
    obtain ⟨_, _, _, heq⟩ | ⟨intent, heq, hreceiver, hdevice, hsource, _⟩ := captureFrame_current hmade
    · exact absurd (any_eq_true.mpr ⟨capture, hcapture, by rw [heq]; rfl⟩) hfresh
    have hchange : capture.change? = some ⟨_, .present intent⟩ := congrArg FrameCapture.change? heq
    have hmem := mem_filterMap.mpr ⟨capture, hcapture, hchange⟩
    have hwritten := (hs.entries (.present intent)).mpr
      (.inl (mem_map.mpr ⟨_, (sortBy_perm _ _ _).mem_iff.mpr hmem, rfl⟩))
    exact ⟨intent, hwritten, hreceiver, hdevice, hsource⟩

omit [RestorationDigests] in
theorem tombstoneChanges_owned {tombstones : List (Option IntentRevision × StableIntentTombstone)}
    (h : tombstoneChanges receiverId entries deletedAt deviceIds = .ok tombstones) :
    ∀ tombstone ∈ tombstones, tombstone.2.receiverId = receiverId ∧ tombstone.2.deviceId ∈ deviceIds := by
  induction deviceIds generalizing tombstones with
  | nil =>
    cases h
    intro tombstone hmem
    cases hmem
  | cons first deviceIds ih =>
    unfold tombstoneChanges at h
    obtain ⟨revision, _, h⟩ := bind_eq_ok h
    obtain ⟨rest, hrest, h⟩ := bind_eq_ok h
    cases h
    intro tombstone hmem
    obtain heq | hlater := mem_cons.mp hmem
    · rw [heq]
      exact ⟨rfl, mem_cons_self⟩
    obtain ⟨hreceiver, hdevice⟩ := ih hrest tombstone hlater
    exact ⟨hreceiver, mem_cons_of_mem _ hdevice⟩

theorem clearStableIntents_overlaid (h : OneEntryEach s) :
    Ensures (clearStableIntents receiverId deviceIds deletedAt) s
      (fun s' => ∃ written, Overlaid written s s' ∧ ∀ entry ∈ written,
        ∃ deviceId ∈ deviceIds, entryKey entry = (receiverId, deviceId)) := by
  have hnothing : ∃ written, Overlaid written s s ∧ ∀ entry ∈ written,
      ∃ deviceId ∈ deviceIds, entryKey entry = (receiverId, deviceId) :=
    ⟨[], Overlaid.refl h, fun _ hentry => by cases hentry⟩
  simp only [clearStableIntents, holds_bind, holds_refuse, holds_get, holds_lift]
  refine ⟨fun _ => hnothing, fun _ => ⟨fun entries _ => ⟨fun tombstones htombstones => ?_,
    fun _ _ => hnothing⟩, fun _ _ => hnothing⟩⟩
  have hkeys : ∀ entry ∈ (tombstones.map fun tombstone =>
      (⟨tombstone.1, .deleted tombstone.2⟩ : StableIntentChange)).map (·.entry),
      ∃ deviceId ∈ deviceIds, entryKey entry = (receiverId, deviceId) := by
    intro entry hentry
    obtain ⟨change, hchange, hmade⟩ := mem_map.mp hentry
    obtain ⟨tombstone, htombstone, hthis⟩ := mem_map.mp hchange
    obtain ⟨hreceiver, hdevice⟩ := tombstoneChanges_owned htombstones tombstone htombstone
    refine ⟨tombstone.2.deviceId, (sortBy_perm _ _ _).mem_iff.mp hdevice, ?_⟩
    rw [← hmade, ← hthis]
    show (tombstone.2.receiverId, tombstone.2.deviceId) = _
    rw [hreceiver]
  simp only [holds_pure]
  refine holds_mono (saveStableEntries_overlaid h) (fun _ s' hs => ⟨_, hs, hkeys⟩) ?_
  intro _ s' hs
  obtain hs | hs := hs
  · exact ⟨[], hs, fun _ hentry => by cases hentry⟩
  · exact ⟨_, hs, hkeys⟩

structure KeepsIntent (receiverId : ReceiverId) (deviceId : LogicalDeviceId) (transactionId : TransactionId)
    (s s' : RestorationState T) : Prop where
  distinct : OneEntryEach s'
  capture : HoldsCapture s receiverId deviceId transactionId → HoldsCapture s' receiverId deviceId transactionId

section
omit [RestorationDigests]

theorem Overlaid.keeps {s' : RestorationState T} {written : List PersistedStableEntry}
    (h : Overlaid written s s') (hother : ∀ entry ∈ written, entryKey entry ≠ (receiverId, deviceId)) :
    KeepsIntent receiverId deviceId transactionId s s' := by
  refine ⟨h.distinct, fun hholds => ?_⟩
  obtain ⟨intent, hsaved, hreceiver, hdevice, hsource⟩ := hholds
  refine ⟨intent, (h.entries _).mpr (.inr ⟨hsaved, fun w hw hkey => hother w hw ?_⟩), hreceiver, hdevice,
    hsource⟩
  rw [hkey]
  show (intent.receiverId, intent.deviceId) = _
  rw [hreceiver, hdevice]

theorem keeps_of_entries {s' : RestorationState T} (h : OneEntryEach s)
    (hsame : s'.store.document.stableEntries = s.store.document.stableEntries) :
    KeepsIntent receiverId deviceId transactionId s s' := by
  refine ⟨?_, fun hholds => ?_⟩
  · unfold OneEntryEach
    rw [hsame]
    exact h
  obtain ⟨intent, hsaved, hown⟩ := hholds
  refine ⟨intent, ?_, hown⟩
  unfold Saved
  rw [hsame]
  exact hsaved

end

theorem entryMigration_keys {before after : List PersistedStableEntry}
    (h : List.Forall₂ (EntryMigration trigger profiles) before after) :
    after.map entryKey = before.map entryKey := by
  induction h with
  | nil => rfl
  | cons hfirst _ ih => rw [map_cons, map_cons, ih, hfirst.key]

theorem entryMigration_source {before after : List PersistedStableEntry}
    (h : List.Forall₂ (EntryMigration trigger profiles) before after) {old : PersistedStableIntent}
    (hold : .present old ∈ before) :
    ∃ new, .present new ∈ after ∧ new.receiverId = old.receiverId ∧ new.deviceId = old.deviceId ∧
      new.sourceTransactionId = old.sourceTransactionId := by
  induction h with
  | nil => cases hold
  | cons hfirst _ ih =>
    obtain heq | hlater := mem_cons.mp hold
    · subst heq
      cases hfirst with
      | kept _ => exact ⟨old, mem_cons_self, rfl, rfl, rfl⟩
      | @migrated _ _ new _ hup =>
        refine ⟨new, mem_cons_self, ?_, ?_, ?_⟩
        all_goals rw [hup.kept]
    obtain ⟨new, hnew, hown⟩ := ih hlater
    exact ⟨new, mem_cons_of_mem _ hnew, hown⟩

theorem StoreMigrated.keeps {s' : RestorationState T}
    (hmigrated : StoreMigrated trigger profiles s.store.document s'.store.document) (h : OneEntryEach s)
    : KeepsIntent receiverId deviceId transactionId s s' := by
  obtain ⟨migrated, hpairs, hperm⟩ := hmigrated.entries
  refine ⟨?_, fun hholds => ?_⟩
  · unfold OneEntryEach
    rw [(hperm.map entryKey).nodup_iff, entryMigration_keys hpairs]
    exact h
  obtain ⟨intent, hsaved, hreceiver, hdevice, hsource⟩ := hholds
  obtain ⟨new, hnew, hreceiver', hdevice', hsource'⟩ := entryMigration_source hpairs hsaved
  exact ⟨new, hperm.mem_iff.mpr hnew, hreceiver'.trans hreceiver, hdevice'.trans hdevice,
    hsource'.trans hsource⟩

theorem migrateCompatibleStableIntents_keeps {records : List RestoreRecord} (h : OneEntryEach s) :
    Ensures (migrateCompatibleStableIntents trigger profiles records) s
      (KeepsIntent receiverId deviceId transactionId s) := by
  have hsame : KeepsIntent receiverId deviceId transactionId s s := ⟨h, id⟩
  by_cases hloads : Loads trigger.receiverId s.store
  · refine holds_mono (migrateCompatibleStableIntents_run trigger profiles records s hloads).1
      (fun _ s' hs => hs.document.keeps h) ?_
    intro _ s' hs
    obtain hmigrated | heq | ⟨hlost, _⟩ := hs
    · exact hmigrated.document.keeps h
    · rw [heq]
      exact hsame
    rw [hlost]
    exact keeps_of_entries h rfl
  unfold migrateCompatibleStableIntents
  cases profiles.receiverProfile trigger.receiverId trigger.generationId with
  | none => exact hsame
  | some receiverProfile =>
    simp only [holds_do]
    exact ⟨fun entries hload => absurd ⟨entries, hload⟩ hloads, fun _ _ => hsame⟩

theorem commitStableTransaction_keeps (h : OneEntryEach s)
    (hspares : request.transactionId = transactionId ∨ request.receiverId ≠ receiverId ∨
      ∀ frame ∈ request.frames, frame.deviceId ≠ deviceId) :
    Ensures (commitStableTransaction request terminal captures capturedAt) s
      (KeepsIntent receiverId deviceId transactionId s) := by
  have hsame : KeepsIntent receiverId deviceId transactionId s s := ⟨h, id⟩
  by_cases hcovers : ∃ frame ∈ request.frames, (request.receiverId, frame.deviceId) = (receiverId, deviceId)
  · obtain ⟨frame, hframe, hkey⟩ := hcovers
    cases hkey
    obtain htransaction | hreceiver | hdevice := hspares
    · by_cases hholds : HoldsCapture s request.receiverId frame.deviceId transactionId
      · obtain ⟨intent, hsaved, hreceiver, hdevice, hsource⟩ := hholds
        have hrecognised : Recognised s request terminal :=
          ⟨frame, hframe, intent, hsaved, hreceiver, hdevice, .inl (hsource.trans htransaction.symm)⟩
        refine holds_mono (commitStableTransaction_recognised h hrecognised) ?_ ?_
        all_goals
          intro _ s' hs
          rw [hs]
          exact hsame
      refine holds_mono (commitStableTransaction_overlaid h) ?_ ?_
      all_goals
        intro _ s' hs
        obtain ⟨_, hs, _⟩ := hs
        exact ⟨hs.distinct, fun hholds' => absurd hholds' hholds⟩
    · exact absurd rfl hreceiver
    · exact absurd rfl (hdevice frame hframe)
  · have hother : ∀ written : List PersistedStableEntry, (∀ entry ∈ written, ∃ frame ∈ request.frames,
        entryKey entry = (request.receiverId, frame.deviceId)) →
        ∀ entry ∈ written, entryKey entry ≠ (receiverId, deviceId) := by
      intro written hkeys entry hentry hkey
      obtain ⟨frame, hframe, hown⟩ := hkeys entry hentry
      exact hcovers ⟨frame, hframe, hown.symm.trans hkey⟩
    refine holds_mono (commitStableTransaction_overlaid h) ?_ ?_
    all_goals
      intro _ s' hs
      obtain ⟨written, hs, hkeys⟩ := hs
      exact hs.keeps (hother written hkeys)

theorem StableOp.run_keeps (h : OneEntryEach s) {op : StableOp}
    (hspares : op.Spares receiverId deviceId transactionId)
    (commits : List (Except FilePersistenceError Unit)) :
    KeepsIntent receiverId deviceId transactionId s (op.run commits s) := by
  have hstart : OneEntryEach { s with store := { s.store with commits := commits } } := h
  have hkept : KeepsIntent receiverId deviceId transactionId
      { s with store := { s.store with commits := commits } } (op.run commits s) := by
    cases op with
    | commit request terminal captures capturedAt =>
      exact holds_final (commitStableTransaction_keeps hstart hspares)
    | commitDeclared request terminal capturedAt =>
      refine holds_final (m := commitDeclaredStableTransaction request terminal capturedAt) ?_
      unfold commitDeclaredStableTransaction
      split
      · exact ⟨hstart, id⟩
      simp only [holds_do]
      refine ⟨fun _ _ => ⟨fun captures _ => ?_, fun _ _ => ⟨hstart, id⟩⟩, fun _ _ => ⟨hstart, id⟩⟩
      exact commitStableTransaction_keeps hstart hspares
    | clear receiver deviceIds deletedAt =>
      have hother : ∀ written : List PersistedStableEntry, (∀ entry ∈ written, ∃ deviceId ∈ deviceIds,
          entryKey entry = (receiver, deviceId)) →
          ∀ entry ∈ written, entryKey entry ≠ (receiverId, deviceId) := by
        intro written hkeys entry hentry hkey
        obtain ⟨other, hcleared, hown⟩ := hkeys entry hentry
        cases hown.symm.trans hkey
        obtain hreceiver | hdevice := hspares
        · exact hreceiver rfl
        · exact hdevice hcleared
      refine holds_final (m := clearStableIntents receiver deviceIds deletedAt)
        (holds_mono (clearStableIntents_overlaid hstart) ?_ ?_)
      all_goals
        intro _ s' hs
        obtain ⟨written, hs, hkeys⟩ := hs
        exact hs.keeps (hother written hkeys)
    | migrate trigger profiles records => exact holds_final (migrateCompatibleStableIntents_keeps hstart)
  exact ⟨hkept.distinct, hkept.capture⟩

theorem StableHistory.keeps {start : RestorationState T} (h : OneEntryEach start)
    (hhistory : StableHistory (StableOp.Spares receiverId deviceId transactionId) start s) :
    KeepsIntent receiverId deviceId transactionId start s := by
  induction hhistory with
  | refl => exact ⟨h, id⟩
  | call _ op hok commits ih =>
    have hstep := StableOp.run_keeps ih.distinct hok commits
    exact ⟨hstep.distinct, fun hholds => hstep.capture (ih.capture hholds)⟩
  | elsewhere _ hsame ih =>
    have hstep : KeepsIntent receiverId deviceId transactionId _ _ := keeps_of_entries ih.distinct hsame
    exact ⟨hstep.distinct, fun hholds => hstep.capture (ih.capture hholds)⟩

theorem StableOp.run_distinct (h : OneEntryEach s) (op : StableOp)
    (commits : List (Except FilePersistenceError Unit)) : OneEntryEach (op.run commits s) := by
  have hstart : OneEntryEach { s with store := { s.store with commits := commits } } := h
  cases op with
  | commit request terminal captures capturedAt =>
    exact holds_final (holds_mono (commitStableTransaction_gains hstart)
      (fun _ _ hs => hs.distinct) (fun _ _ hs => hs.distinct))
  | commitDeclared request terminal capturedAt =>
    exact holds_final (holds_mono (commitDeclaredStableTransaction_gains hstart)
      (fun _ _ hs => hs.distinct) (fun _ _ hs => hs.distinct))
  | clear receiver deviceIds deletedAt =>
    refine holds_final (holds_mono (clearStableIntents_overlaid hstart) ?_ ?_)
    all_goals
      intro _ _ hs
      obtain ⟨_, hs, _⟩ := hs
      exact hs.distinct
  | migrate trigger profiles records =>
    exact holds_final (holds_mono (migrateCompatibleStableIntents_gains hstart)
      (fun _ _ hs => hs.distinct) (fun _ _ hs => hs.distinct))

theorem StableHistory.distinct {ok : StableOp → Prop} {start : RestorationState T}
    (hhistory : StableHistory ok start s) (h : OneEntryEach start) : OneEntryEach s := by
  induction hhistory with
  | refl => exact h
  | call _ op _ commits ih => exact StableOp.run_distinct ih op commits
  | elsewhere _ hsame ih =>
    unfold OneEntryEach
    rw [hsame]
    exact ih

/-- After a transaction's capture, its replay writes nothing as long as one of its devices has no newer
capture or tombstone; after any history, a replay that is answered writes nothing exactly when a stored
intent is recognised as the transaction's. -/
theorem stableHistory_replay {start captured : RestorationState T} {intents : List PersistedStableIntent}
    (hstart : OneEntryEach start)
    (hcommit : commitStableTransaction request terminal captures capturedAt start = .ok intents captured) :
    (∀ frame ∈ request.frames, ∀ s, StableHistory
        (StableOp.Spares request.receiverId frame.deviceId request.transactionId) captured s →
      ∀ captures' capturedAt' commits,
        ((StableOp.commit request terminal captures' capturedAt').run commits s).store.document =
            s.store.document ∧
          ((StableOp.commitDeclared request terminal capturedAt').run commits s).store.document =
            s.store.document) ∧
    ∀ s, StableHistory (fun _ => True) captured s → ∀ captures' capturedAt' commits intents' s',
      commitStableTransaction request terminal captures' capturedAt'
          { s with store := { s.store with commits := commits } } = .ok intents' s' →
        (s'.store.document = s.store.document ↔ Recognised s request terminal) := by
  have hcaptured : OneEntryEach captured := by
    have hgains := holds_ok (commitStableTransaction_gains hstart) hcommit
    exact hgains.distinct
  refine ⟨fun frame hframe s hhistory captures' capturedAt' commits => ?_,
    fun s hhistory captures' capturedAt' commits intents' s' hreplay => ⟨fun hsame => ?_, fun hown => ?_⟩⟩
  · have hset := holds_ok (commitStableTransaction_holds hstart) hcommit
    have hkeeps := hhistory.keeps hcaptured
    obtain ⟨intent, hsaved, hreceiver, hdevice, hsource⟩ := hkeeps.capture (hset frame hframe)
    have hrecognised : Recognised { s with store := { s.store with commits := commits } } request terminal :=
      ⟨frame, hframe, intent, hsaved, hreceiver, hdevice, .inl hsource⟩
    have hdistinct : OneEntryEach { s with store := { s.store with commits := commits } } := hkeeps.distinct
    have hreplay : ∀ captures', Holds (commitStableTransaction request terminal captures' capturedAt')
        { s with store := { s.store with commits := commits } }
        (fun _ s' => s'.store.document = s.store.document)
        (fun _ s' => s'.store.document = s.store.document) := by
      intro captures'
      refine holds_mono (commitStableTransaction_recognised hdistinct hrecognised) ?_ ?_
      all_goals
        intro _ s' hs
        rw [hs]
    refine ⟨holds_final (hreplay captures'), ?_⟩
    refine holds_final (m := commitDeclaredStableTransaction request terminal capturedAt')
      (P := fun s' : RestorationState T => s'.store.document = s.store.document) ?_
    unfold commitDeclaredStableTransaction
    split
    · exact rfl
    simp only [holds_do]
    exact ⟨fun _ _ => ⟨fun captures _ => hreplay captures, fun _ _ => trivial⟩, fun _ _ => trivial⟩
  · by_contra hunrecognised
    have hwritten := holds_ok (commitStableTransaction_unrecognised
      (s := { s with store := { s.store with commits := commits } })
      (hhistory.distinct hcaptured) hunrecognised) hreplay
    exact hwritten hsame
  · have hsame := holds_ok (commitStableTransaction_recognised
      (s := { s with store := { s.store with commits := commits } })
      (hhistory.distinct hcaptured) hown) hreplay
    rw [hsame]

end History

@[reducible] def paintDigests : RestorationDigests where
  requestDigest request :=
    if request.transactionId = redRequest.transactionId then sampleDigest else upgradedDigest
  claimDigest _ := sampleDigest
  intentDigest _ := sampleDigest

/-- A later request that turns the keyboard off. -/
def darkRequest : TransactionRequest := sampleStatic (.lit "dark")

def darkTerminal : TransactionTerminal :=
  { redTerminal with
    requestId := darkRequest.requestId
    transactionId := darkRequest.transactionId
    requestDigest := upgradedDigest }

def paintCommit (request : TransactionRequest) (terminal : TransactionTerminal) (lighting : StableLighting) :
    StableOp :=
  .commit request terminal [⟨sampleKeyboard.deviceId, lighting⟩] (.lit 0)

def redLighting : StableLighting :=
  .static [⟨.lit 255, .lit 0, .lit 0⟩]

/-- The keyboard was turned red. -/
def redCaptured : RestorationState FixedTransport :=
  letI := paintDigests
  (paintCommit redRequest redTerminal redLighting).run [] redStart.state

def darkCaptured : RestorationState FixedTransport :=
  letI := paintDigests
  (paintCommit darkRequest darkTerminal .off).run [] redCaptured

theorem redCaptured_ok :
    letI := paintDigests
    commitStableTransaction redRequest redTerminal [⟨sampleKeyboard.deviceId, redLighting⟩]
      (.lit 0) redStart.state = .ok [redIntent] redCaptured := by
  let _ := paintDigests
  have hanswer : answer (commitStableTransaction redRequest redTerminal
      [⟨sampleKeyboard.deviceId, redLighting⟩] (.lit 0)) redStart.state =
        .ok [redIntent] := by decide +kernel
  exact eq_ok_of_answer hanswer

theorem redStart_distinct : OneEntryEach redStart.state := by
  unfold OneEntryEach
  decide +kernel

/-- A request that turns the mouse off. -/
def mouseRequest : TransactionRequest :=
  { sampleRequest with
    transactionClass := .staticLighting
    stableIntents := [⟨sampleResource.deviceId, .off⟩] }

def mouseCommit : StableOp :=
  .commit mouseRequest
    { darkTerminal with requestId := mouseRequest.requestId, transactionId := mouseRequest.transactionId }
    [⟨sampleResource.deviceId, .off⟩] (.lit 0)

def mouseCaptured : RestorationState FixedTransport :=
  letI := paintDigests
  mouseCommit.run [] redCaptured

/-- After the mouse was turned off its profile is upgraded. -/
def mouseMigrated : RestorationState FixedTransport :=
  letI := paintDigests
  (StableOp.migrate sampleTrigger upgradedProfiles []).run [] mouseCaptured

theorem stableHistory_replay_red :
    letI := paintDigests
    mouseCaptured.store.document ≠ redCaptured.store.document ∧
      mouseMigrated.store.document ≠ mouseCaptured.store.document ∧
      ((paintCommit redRequest redTerminal redLighting).run [] mouseMigrated).store.document =
        mouseMigrated.store.document := by
  let _ := paintDigests
  have hspares : mouseCommit.Spares redRequest.receiverId sampleKeyboard.deviceId redRequest.transactionId := by
    refine .inr (.inr ?_)
    decide +kernel
  have hhistory : StableHistory (StableOp.Spares redRequest.receiverId sampleKeyboard.deviceId
      redRequest.transactionId) redCaptured mouseMigrated :=
    .call (.call .refl mouseCommit hspares []) (.migrate sampleTrigger upgradedProfiles []) trivial []
  exact ⟨by decide +kernel, by decide +kernel,
    ((stableHistory_replay redStart_distinct redCaptured_ok).1 _ mem_cons_self _ hhistory _ _ _).1⟩

/-- The replay of the older transaction turns the keyboard red again in the store. -/
theorem replay_overwrites_newer :
    letI := paintDigests
    ¬ ∀ (start captured s : RestorationState FixedTransport) (request : TransactionRequest)
      (terminal : TransactionTerminal) (captures : List StableIntentCapture)
      (capturedAt : WallClockUnixMs) (intents : List PersistedStableIntent),
      OneEntryEach start →
      commitStableTransaction request terminal captures capturedAt start = .ok intents captured →
      StableHistory (fun _ => True) captured s →
      ((StableOp.commit request terminal captures capturedAt).run [] s).store.document = s.store.document := by
  let _ := paintDigests
  intro h
  have hsame := h redStart.state redCaptured darkCaptured redRequest redTerminal _ _ _
    redStart_distinct redCaptured_ok (.call .refl (paintCommit darkRequest darkTerminal .off) trivial [])
  exact absurd hsame (by decide +kernel)

end HyperfluxNext
