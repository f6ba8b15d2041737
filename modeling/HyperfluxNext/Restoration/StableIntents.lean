import HyperfluxNext.Restoration.Planning
import HyperfluxNext.Restoration.StoreSpec

namespace HyperfluxNext

open Procedure List

structure StableIntentCapture where
  deviceId : LogicalDeviceId
  lighting : StableLighting

inductive StableCommitOutcome where
  | notApplicable
  | captured (intents : List PersistedStableIntent)
deriving DecidableEq

def isDefinitiveStableTerminal (request : TransactionRequest) (terminal : TransactionTerminal) : Bool :=
  request.frames.length ≤ u16Max ∧ request.transactionClass = .staticLighting ∧
    terminal.requestId = request.requestId ∧ terminal.transactionId = request.transactionId ∧
    terminal.receiverId = request.receiverId ∧ terminal.generationId = request.generationId ∧
    terminal.state = .succeeded ∧ terminal.declaredFrames.get = request.frames.length ∧
    terminal.deliveredFrames.get = request.frames.length ∧
    terminal.sideEffectCertainty = .committed ∧ terminal.liveWriteExecuted ∧
    terminal.automaticRetry = false ∧ terminal.deviceApplication ≠ .rejected ∧
    terminal.errorKind = none

def capturedLighting (mode : StableLightingMode) (frame : LightingFrame) : StableLighting :=
  match mode with
  | .static => .static frame.colors
  | .off => .off

def declaredCaptures (request : TransactionRequest) :
    List StableLightingIntent → Except RestorationError (List StableIntentCapture)
  | [] => .ok []
  | intent :: intents =>
    match request.frames.find? (·.deviceId = intent.deviceId) with
    | none => .error .captureMismatch
    | some frame => do
      let captures ← declaredCaptures request intents
      return ⟨intent.deviceId, capturedLighting intent.mode frame⟩ :: captures

def lightingHasMode : StableLightingMode → StableLighting → Bool
  | .static, .static _ => true
  | .off, .off => true
  | _, _ => false

def checkCaptures (request : TransactionRequest) (seen : List LogicalDeviceId) :
    List StableIntentCapture → Except RestorationError Unit
  | [] => .ok ()
  | capture :: captures =>
    match request.stableIntents.find? (·.deviceId = capture.deviceId) with
    | none => .error .captureMismatch
    | some intent => do
      reject (lightingHasMode intent.mode capture.lighting = false) .captureMismatch
      reject (capture.deviceId ∈ seen) .duplicateDevice
      checkCaptures request (capture.deviceId :: seen) captures

def captureMap (request : TransactionRequest) (captures : List StableIntentCapture) :
    Except RestorationError (List StableIntentCapture) := do
  reject (captures.length ≠ request.frames.length) .captureMismatch
  checkCaptures request [] captures
  reject (request.frames.any fun frame => captures.all (·.deviceId ≠ frame.deviceId)) .captureMismatch
  return captures

def isBlack (color : RgbColor) : Bool := color.red.get = 0 ∧ color.green.get = 0 ∧ color.blue.get = 0

def validateCapture (lighting : StableLighting) (frame : List RgbColor) : Except RestorationError Unit :=
  match lighting with
  | .off => reject (frame.all isBlack = false) .captureMismatch
  | .static colors => reject (colors ≠ frame) .captureMismatch

/-- What one frame of the transaction does to the store. -/
inductive FrameCapture where
  | replayed (existing : PersistedStableIntent)
  | change (expectedRevision : Option IntentRevision) (intent : PersistedStableIntent)

def FrameCapture.intent : FrameCapture → PersistedStableIntent
  | .replayed existing => existing
  | .change _ intent => intent

def FrameCapture.change? : FrameCapture → Option StableIntentChange
  | .replayed _ => none
  | .change expectedRevision intent => some ⟨expectedRevision, .present intent⟩

section Digests

variable [RestorationDigests]

def validateStableTerminal (request : TransactionRequest) (terminal : TransactionTerminal) :
    Except RestorationError Unit := do
  let digest ← (canonicalRequestDigest request).mapError fun _ => .invalidStableTransaction
  reject (request.frames.length > u16Max) .invalidStableTransaction
  reject (¬ (isDefinitiveStableTerminal request terminal ∧ terminal.requestDigest = digest ∧
    terminal.declaredFrames.get = request.frames.length)) .invalidStableTransaction

def capturedIntent (request : TransactionRequest) (terminal : TransactionTerminal)
    (capturedAt : WallClockUnixMs) (frame : LightingFrame) (binding : DeviceProfileBinding)
    (lighting : StableLighting) (revision : IntentRevision) : PersistedStableIntent where
  schemaVersion := currentSchemaVersion
  receiverId := request.receiverId
  deviceId := frame.deviceId
  receiverProfileId := request.receiverProfileId
  receiverProfileDigest := request.receiverProfileDigest
  profileId := binding.profileId
  profileDigest := binding.profileDigest
  applicationSlotCount := binding.applicationSlotCount
  revision := revision
  contentDigest := RestorationDigests.intentDigest ⟨request.receiverId, frame.deviceId,
    request.receiverProfileId, request.receiverProfileDigest, binding.profileId,
    binding.profileDigest, binding.applicationSlotCount, lighting⟩
  sourceTransactionId := request.transactionId
  sourceRequestDigest := terminal.requestDigest
  lighting := lighting
  capturedAt := capturedAt

def exactReplay (existing intent : PersistedStableIntent) : Bool :=
  existing.sourceTransactionId = intent.sourceTransactionId ∧
    existing.sourceRequestDigest = intent.sourceRequestDigest ∧
    existing.receiverProfileId = intent.receiverProfileId ∧
    existing.receiverProfileDigest = intent.receiverProfileDigest ∧
    existing.profileId = intent.profileId ∧ existing.profileDigest = intent.profileDigest ∧
    existing.applicationSlotCount = intent.applicationSlotCount ∧
    existing.contentDigest = intent.contentDigest ∧ existing.lighting = intent.lighting

/-- A transaction that is already the source of the stored intent must repeat it exactly. -/
def settleFrame (current : Option PersistedStableEntry) (intent : PersistedStableIntent) :
    Except RestorationError FrameCapture :=
  match current with
  | some (.present existing) =>
    if existing.sourceTransactionId = intent.sourceTransactionId ∨
        existing.sourceRequestDigest = intent.sourceRequestDigest then
      if exactReplay existing intent then .ok (.replayed existing) else .error .stableReplayConflict
    else
      .ok (.change (some existing.revision) intent)
  | some (.deleted tombstone) => .ok (.change (some tombstone.revision) intent)
  | none => .ok (.change none intent)

/-- One turn of the loop over the frames. -/
def captureFrame (request : TransactionRequest) (terminal : TransactionTerminal)
    (captures : List StableIntentCapture) (entries : List PersistedStableEntry)
    (capturedAt : WallClockUnixMs) (frame : LightingFrame) : Except RestorationError FrameCapture :=
  match captures.find? (·.deviceId = frame.deviceId) with
  | none => .error .captureMismatch
  | some capture => do
    validateCapture capture.lighting frame.colors
    match request.deviceProfiles.find? (·.deviceId = frame.deviceId) with
    | none => .error .captureMismatch
    | some binding =>
      let current := entries.find? (·.deviceId = frame.deviceId)
      let revision ← nextIntentRevision (current.map (·.revision))
      settleFrame current (capturedIntent request terminal capturedAt frame binding capture.lighting revision)

variable {T : Type}

def saveStableEntries (changes : List StableIntentChange) : RestorationM T Unit := do
  match ← withStore .saveIntent (FilePersistenceStore.compareAndSetStableEntries changes) with
  | .applied => pure ()
  | .conflict => throw (.persistenceConflict .saveIntent)

def commitStableTransaction (request : TransactionRequest) (terminal : TransactionTerminal)
    (captures : List StableIntentCapture) (capturedAt : WallClockUnixMs) :
    RestorationM T (List PersistedStableIntent) := do
  lift id (validateStableTerminal request terminal)
  lift (fun _ => .invalidStableTransaction) (validateTransaction request)
  let captures ← lift id (captureMap request captures)
  let state ← get
  let entries ← lift id (loadEntries request.receiverId state.store)
  let frames ← lift id (request.frames.mapM (captureFrame request terminal captures entries capturedAt))
  let intents := frames.map (·.intent)
  let changes := frames.filterMap (·.change?)
  if frames.any (·.change?.isNone) then
    refuse (changes ≠ []) .stableReplayConflict
    pure intents
  else
    saveStableEntries (sortBy compare (·.entry.deviceId) changes)
    pure intents

def commitDeclaredStableTransaction (request : TransactionRequest) (terminal : TransactionTerminal)
    (capturedAt : WallClockUnixMs) : RestorationM T StableCommitOutcome := do
  if isDefinitiveStableTerminal request terminal = false then
    pure .notApplicable
  else
    lift (fun _ => .invalidStableTransaction) (validateTransaction request)
    let captures ← lift id (declaredCaptures request request.stableIntents)
    let intents ← commitStableTransaction request terminal captures capturedAt
    pure (.captured intents)

section
omit [RestorationDigests]

def previousContentDigest : PersistedStableEntry → Option IntentDigest
  | .present intent => some intent.contentDigest
  | .deleted tombstone => tombstone.previousContentDigest

def tombstoneChanges (receiverId : ReceiverId) (entries : List PersistedStableEntry)
    (deletedAt : WallClockUnixMs) :
    List LogicalDeviceId → Except RestorationError (List (Option IntentRevision × StableIntentTombstone))
  | [] => .ok []
  | deviceId :: deviceIds => do
    let prior := entries.find? (·.deviceId = deviceId)
    let expectedRevision := prior.map (·.revision)
    let revision ← nextIntentRevision expectedRevision
    let rest ← tombstoneChanges receiverId entries deletedAt deviceIds
    return (expectedRevision, ⟨currentSchemaVersion, receiverId, deviceId, revision,
      prior.bind previousContentDigest, deletedAt⟩) :: rest

end

def clearStableIntents (receiverId : ReceiverId) (deviceIds : List LogicalDeviceId)
    (deletedAt : WallClockUnixMs) : RestorationM T (List StableIntentTombstone) := do
  refuse (¬ deviceIds.Nodup) .duplicateDevice
  let state ← get
  let entries ← lift id (loadEntries receiverId state.store)
  let tombstones ← lift id (tombstoneChanges receiverId entries deletedAt (sortBy compare id deviceIds))
  saveStableEntries (tombstones.map fun tombstone => ⟨tombstone.1, .deleted tombstone.2⟩)
  pure (tombstones.map (·.2))

def Saved (s : RestorationState T) (intent : PersistedStableIntent) : Prop :=
  .present intent ∈ s.store.document.stableEntries

def OneEntryEach (s : RestorationState T) : Prop := (s.store.document.stableEntries.map entryKey).Nodup

structure Overlaid (written : List PersistedStableEntry) (s s' : RestorationState T) : Prop where
  core : s'.core = s.core
  leases : s'.leases = s.leases
  distinct : OneEntryEach s'
  entries : ∀ entry, entry ∈ s'.store.document.stableEntries ↔ entry ∈ written ∨
    (entry ∈ s.store.document.stableEntries ∧ ∀ w ∈ written, entryKey w ≠ entryKey entry)

variable {s : RestorationState T} {changes : List StableIntentChange} {new : PersistedStableIntent → Prop}
  {receiverId : ReceiverId} {entries : List PersistedStableEntry} {intent : PersistedStableIntent}
  {change : StableIntentChange} {request : TransactionRequest} {terminal : TransactionTerminal}
  {capturedAt deletedAt : WallClockUnixMs} {deviceIds : List LogicalDeviceId} {capture : FrameCapture}
  {captures : List StableIntentCapture} {trigger : RestoreTrigger} {profiles : ProfileRegistry}
  {records : List RestoreRecord}

section
omit [RestorationDigests]

theorem Overlaid.refl (h : OneEntryEach s) : Overlaid [] s s := ⟨rfl, rfl, h, by simp⟩

theorem saveStableEntries_overlaid (h : OneEntryEach s) :
    Holds (saveStableEntries changes) s
      (fun _ s' => Overlaid (changes.map (·.entry)) s s')
      (fun _ s' => Overlaid [] s s' ∨ Overlaid (changes.map (·.entry)) s s') := by
  have hkept : ∀ store : FilePersistenceStore, store.document = s.store.document →
      Overlaid [] s { s with store := store } := by
    intro store hsame
    refine ⟨rfl, rfl, ?_, ?_⟩
    · show (store.document.stableEntries.map entryKey).Nodup
      rw [hsame]
      exact h
    intro entry
    show entry ∈ store.document.stableEntries ↔ _
    rw [hsame]
    simp
  simp only [saveStableEntries, withStore, holds_do]
  unfold FilePersistenceStore.compareAndSetStableEntries
  split
  next hnil =>
    subst hnil
    exact Overlaid.refl h
  simp only [holds_do]
  refine ⟨fun _ => .inl (hkept s.store rfl), fun hnodup => ⟨fun compared _ => ?_,
    fun _ _ => .inl (hkept s.store rfl)⟩⟩
  cases compared with
  | conflict => exact .inl (hkept s.store rfl)
  | applied =>
    obtain ⟨hdistinct, hmem⟩ := foldl_upsert_mem h (not_not.mp hnodup)
    have hwritten : ∀ store : FilePersistenceStore,
        store.document = canonicalize { s.store.document with
          stableEntries := changes.foldl
            (fun entries change => FilePersistenceStore.upsert entryKey change.entry entries)
            s.store.document.stableEntries } →
        Overlaid (changes.map (·.entry)) s { s with store := store } := by
      intro store hsame
      refine ⟨rfl, rfl, ?_, ?_⟩
      · show (store.document.stableEntries.map entryKey).Nodup
        rw [hsame]
        exact ((sortBy_perm _ _ _).map entryKey).nodup_iff.mpr hdistinct
      intro entry
      show entry ∈ store.document.stableEntries ↔ _
      rw [hsame]
      exact (sortBy_perm _ _ _).mem_iff.trans (hmem entry)
    simp only [holds_do]
    refine holds_mono FilePersistenceStore.commit_spec ?_ ?_
    · intro _ store hstore
      exact hwritten store hstore.1
    intro _ store hstore
    obtain hsame | ⟨hnew, _⟩ := hstore
    · exact .inl (hkept store hsame)
    · exact .inr (hwritten store hnew)

end

/-- The store may have lost intents, and what is new in it satisfies `new`. -/
structure Gains (new : PersistedStableIntent → Prop) (s s' : RestorationState T) : Prop where
  core : s'.core = s.core
  leases : s'.leases = s.leases
  distinct : OneEntryEach s'
  saved : ∀ intent, Saved s' intent → Saved s intent ∨ new intent

section
omit [RestorationDigests]

theorem Gains.refl (h : OneEntryEach s) : Gains new s s := ⟨rfl, rfl, h, fun _ hsaved => .inl hsaved⟩

theorem Overlaid.gains {written : List PersistedStableEntry} {s' : RestorationState T}
    (h : Overlaid written s s') (hnew : ∀ intent, .present intent ∈ written → new intent) : Gains new s s' := by
  refine ⟨h.core, h.leases, h.distinct, ?_⟩
  intro intent hsaved
  obtain hwritten | ⟨hold, _⟩ := (h.entries _).mp hsaved
  · exact .inr (hnew intent hwritten)
  · exact .inl hold

theorem Overlaid.gains_nil {s' : RestorationState T} (h : Overlaid [] s s') : Gains new s s' :=
  h.gains fun _ hmem => by cases hmem

theorem saveStableEntries_gains (h : OneEntryEach s)
    (hnew : ∀ change ∈ changes, ∀ intent, change.entry = .present intent → new intent) :
    Ensures (saveStableEntries changes) s (Gains new s) := by
  have hwritten : ∀ intent, .present intent ∈ changes.map (·.entry) → new intent := by
    intro intent hmem
    obtain ⟨change, hchange, hentry⟩ := mem_map.mp hmem
    exact hnew change hchange intent hentry
  refine holds_mono (saveStableEntries_overlaid h) (fun _ s' hs => hs.gains hwritten) ?_
  intro _ s' hs
  obtain hnothing | hall := hs
  · exact hnothing.gains_nil
  · exact hall.gains hwritten

theorem tombstoneChanges_keys {tombstones : List (Option IntentRevision × StableIntentTombstone)}
    (h : tombstoneChanges receiverId entries deletedAt deviceIds = .ok tombstones) {deviceId : LogicalDeviceId}
    (hdevice : deviceId ∈ deviceIds) :
    ∃ tombstone ∈ tombstones, tombstone.2.receiverId = receiverId ∧ tombstone.2.deviceId = deviceId := by
  induction deviceIds generalizing tombstones with
  | nil => cases hdevice
  | cons first deviceIds ih =>
    obtain ⟨revision, _, h⟩ := bind_eq_ok h
    obtain ⟨rest, hrest, h⟩ := bind_eq_ok h
    cases h
    obtain hfirst | hlater := mem_cons.mp hdevice
    · subst hfirst
      exact ⟨_, mem_cons_self, rfl, rfl⟩
    obtain ⟨tombstone, hmem, hkeys⟩ := ih hrest hlater
    exact ⟨tombstone, mem_cons_of_mem _ hmem, hkeys⟩

end

theorem clearStableIntents_spec (h : OneEntryEach s) :
    Holds (clearStableIntents receiverId deviceIds deletedAt) s
      (fun _ s' => Gains (fun _ => False) s s' ∧ ∀ intent, Saved s' intent →
        intent.receiverId = receiverId → intent.deviceId ∉ deviceIds)
      (fun _ s' => Gains (fun _ => False) s s') := by
  have hsame : Gains (fun _ => False) s s := Gains.refl h
  simp only [clearStableIntents, holds_do]
  refine ⟨fun _ => hsame, fun _ => ⟨fun entries _ => ⟨fun tombstones htombstones => ?_,
    fun _ _ => hsame⟩, fun _ _ => hsame⟩⟩
  have hdeleted : ∀ intent, .present intent ∈
      (tombstones.map fun tombstone => (⟨tombstone.1, .deleted tombstone.2⟩ : StableIntentChange)).map
        (·.entry) → False := by
    intro intent hmem
    simp at hmem
  refine holds_mono (saveStableEntries_overlaid h) ?_ ?_
  · intro _ s' hs
    refine ⟨hs.gains hdeleted, ?_⟩
    intro intent hsaved hreceiver hdevice
    obtain hwritten | ⟨_, hfree⟩ := (hs.entries _).mp hsaved
    · exact hdeleted intent hwritten
    have hsorted : intent.deviceId ∈ sortBy compare id deviceIds := (sortBy_perm _ _ _).mem_iff.mpr hdevice
    obtain ⟨tombstone, hmem, hkey, hkey'⟩ := tombstoneChanges_keys htombstones hsorted
    refine hfree (.deleted tombstone.2) ?_ ?_
    · simp only [map_map, mem_map]
      exact ⟨tombstone, hmem, rfl⟩
    show (tombstone.2.receiverId, tombstone.2.deviceId) = (intent.receiverId, intent.deviceId)
    rw [hkey, hkey', hreceiver]
  intro _ s' hs
  obtain hnothing | hall := hs
  · exact hnothing.gains_nil
  · exact hall.gains hdeleted

structure CapturedFrom (request : TransactionRequest) (terminal : TransactionTerminal)
    (intent : PersistedStableIntent) : Prop where
  receiver : intent.receiverId = request.receiverId
  transaction : intent.sourceTransactionId = request.transactionId
  digest : intent.sourceRequestDigest = terminal.requestDigest
  frame : ∃ frame ∈ request.frames, intent.deviceId = frame.deviceId ∧
    validateCapture intent.lighting frame.colors = .ok ()

omit [RestorationDigests] in
theorem settleFrame_intent {current : Option PersistedStableEntry} {made : PersistedStableIntent}
    (h : settleFrame current made = .ok capture) (hchange : capture.change? = some change)
    (hentry : change.entry = .present intent) : intent = made := by
  unfold settleFrame at h
  split at h
  · split at h
    · split at h
      · cases h
        cases hchange
      · cases h
    cases h
    cases hchange
    cases hentry
    rfl
  · cases h
    cases hchange
    cases hentry
    rfl
  cases h
  cases hchange
  cases hentry
  rfl

theorem captureFrame_captured {frame : LightingFrame}
    (h : captureFrame request terminal captures entries capturedAt frame = .ok capture)
    (hframe : frame ∈ request.frames) (hchange : capture.change? = some change)
    (hentry : change.entry = .present intent) : CapturedFrom request terminal intent := by
  unfold captureFrame at h
  split at h
  · cases h
  next found _ =>
    obtain ⟨_, hvalid, h⟩ := bind_eq_ok h
    split at h
    · cases h
    next binding _ =>
      obtain ⟨revision, _, h⟩ := bind_eq_ok h
      obtain rfl := settleFrame_intent h hchange hentry
      exact ⟨rfl, rfl, rfl, frame, hframe, rfl, hvalid⟩

theorem commitStableTransaction_gains (h : OneEntryEach s) :
    Ensures (commitStableTransaction request terminal captures capturedAt) s
      (Gains (CapturedFrom request terminal) s) := by
  have hsame : Gains (CapturedFrom request terminal) s s := Gains.refl h
  simp only [commitStableTransaction, holds_do]
  refine ⟨fun _ _ => ⟨fun _ _ => ⟨fun captures _ => ⟨fun entries _ => ⟨fun frames hframes => ?_,
    fun _ _ => hsame⟩, fun _ _ => hsame⟩, fun _ _ => hsame⟩, fun _ _ => hsame⟩, fun _ _ => hsame⟩
  split
  · simp only [holds_do]
    exact ⟨fun _ => hsame, fun _ => hsame⟩
  simp only [holds_do]
  refine saveStableEntries_gains h ?_
  intro change hchange intent hentry
  have hmem := (sortBy_perm _ _ _).mem_iff.mp hchange
  obtain ⟨capture, hcapture, hmade⟩ := mem_filterMap.mp hmem
  obtain ⟨frame, hframe, hcaptured⟩ := mapM_ok_mem hframes capture hcapture
  exact captureFrame_captured hcaptured hframe hmade hentry

/-- A transaction that did not definitively succeed leaves the store alone. -/
theorem commitDeclaredStableTransaction_gains (h : OneEntryEach s) :
    Ensures (commitDeclaredStableTransaction request terminal capturedAt) s
      (Gains (fun intent => isDefinitiveStableTerminal request terminal = true ∧ CapturedFrom request terminal intent) s) := by
  unfold commitDeclaredStableTransaction
  split
  · exact Gains.refl h
  next hdefinitive =>
    have hdefinitive : isDefinitiveStableTerminal request terminal = true := by simpa using hdefinitive
    have hgains : ∀ s' : RestorationState T, Gains (CapturedFrom request terminal) s s' →
        Gains (fun intent => isDefinitiveStableTerminal request terminal = true ∧
          CapturedFrom request terminal intent) s s' := by
      intro s' hs
      refine ⟨hs.core, hs.leases, hs.distinct, fun intent hsaved => ?_⟩
      obtain hold | hnew := hs.saved intent hsaved
      · exact .inl hold
      · exact .inr ⟨hdefinitive, hnew⟩
    simp only [holds_do]
    refine ⟨fun _ _ => ⟨fun captures _ => ?_, fun _ _ => Gains.refl h⟩, fun _ _ => Gains.refl h⟩
    exact holds_mono (commitStableTransaction_gains h) (fun _ s' hs => hgains s' hs)
      (fun _ s' hs => hgains s' hs)

structure Rebound (old intent : PersistedStableIntent) : Prop where
  receiver : intent.receiverId = old.receiverId
  device : intent.deviceId = old.deviceId
  transaction : intent.sourceTransactionId = old.sourceTransactionId
  digest : intent.sourceRequestDigest = old.sourceRequestDigest
  slots : intent.applicationSlotCount = old.applicationSlotCount
  lighting : intent.lighting = old.lighting

theorem migratedEntries_rebound {receiverProfile : QualifiedReceiverProfile}
    (h : migratedEntries trigger profiles receiverProfile records entries = .ok changes)
    (hchange : change ∈ changes) (hentry : change.entry = .present intent)
    : ∃ old, .present old ∈ entries ∧ Rebound old intent := by
  induction entries generalizing changes with
  | nil =>
    cases h
    cases hchange
  | cons entry entries ih =>
    cases entry with
    | deleted tombstone =>
      obtain ⟨old, hold, hrebound⟩ := ih h hchange
      exact ⟨old, mem_cons_of_mem _ hold, hrebound⟩
    | present old =>
      unfold migratedEntries at h
      obtain ⟨first, hfirst, h⟩ := bind_eq_ok h
      obtain ⟨rest, hrest, h⟩ := bind_eq_ok h
      cases h
      obtain hnew | hlater := mem_append.mp hchange
      · refine ⟨old, mem_cons_self, ?_⟩
        have hmade := Option.mem_toList.mp hnew
        subst hmade
        unfold migratedIntent at hfirst
        dsimp only at hfirst
        split at hfirst
        · cases hfirst
        split at hfirst
        · cases hfirst
        split at hfirst
        · cases hfirst
        obtain ⟨_, _, hfirst⟩ := bind_eq_ok hfirst
        obtain ⟨_, _, hfirst⟩ := bind_eq_ok hfirst
        cases hfirst
        cases hentry
        exact ⟨rfl, rfl, rfl, rfl, rfl, rfl⟩
      · obtain ⟨old', hold, hrebound⟩ := ih hrest hlater
        exact ⟨old', mem_cons_of_mem _ hold, hrebound⟩

theorem saved_of_loaded (h : loadEntries receiverId s.store = .ok entries) (hmem : .present intent ∈ entries)
    : Saved s intent := by
  unfold loadEntries at h
  obtain ⟨_, _, h⟩ := bind_eq_ok h
  obtain ⟨_, _, h⟩ := bind_eq_ok h
  cases h
  have hstored := (sortBy_perm _ _ _).mem_iff.mp hmem
  exact (mem_filter.mp hstored).1

theorem migrateCompatibleStableIntents_gains (h : OneEntryEach s) :
    Holds (migrateCompatibleStableIntents trigger profiles records) s
      (fun _ s' => Gains (fun intent => ∃ old, Saved s old ∧ Rebound old intent) s s')
      (fun _ s' => Gains (fun intent => ∃ old, Saved s old ∧ Rebound old intent) s s') := by
  have hsame : Gains (fun intent => ∃ old, Saved s old ∧ Rebound old intent) s s := Gains.refl h
  unfold migrateCompatibleStableIntents
  split
  · exact hsame
  next receiverProfile _ =>
    simp only [holds_do]
    refine ⟨fun entries hentries => ⟨fun changes hchanges => ?_, fun _ _ => hsame⟩, fun _ _ => hsame⟩
    split
    · exact hsame
    have hsaves : Holds (saveStableEntries changes) s
        (fun _ s' => Gains (fun intent => ∃ old, Saved s old ∧ Rebound old intent) s s')
        (fun _ s' => Gains (fun intent => ∃ old, Saved s old ∧ Rebound old intent) s s') := by
      refine saveStableEntries_gains h ?_
      intro change hchange intent hentry
      obtain ⟨old, hold, hrebound⟩ := migratedEntries_rebound hchanges hchange hentry
      exact ⟨old, saved_of_loaded hentries hold, hrebound⟩
    unfold saveStableEntries at hsaves
    rw [holds_bind] at hsaves ⊢
    refine holds_mono hsaves ?_ (fun _ _ hs => hs)
    intro outcome s' hs
    cases outcome with
    | applied | conflict => exact hs

end Digests

end HyperfluxNext
