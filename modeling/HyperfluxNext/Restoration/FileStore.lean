import HyperfluxNext.Restoration.StoreSpec

namespace HyperfluxNext

open Procedure

/-- The stages of a commit at which the file system can fail. -/
inductive PersistenceIoStage where
  | createTemporary | writeTemporary | replaceState | syncDirectory
deriving DecidableEq

/-- An I/O error is one after the replacement only when the directory could not be synced. -/
def FilePersistenceError.ofStage (stage : PersistenceIoStage) : FilePersistenceError :=
  .io (stage = .syncDirectory)

def bridgePersistenceSchema : String := "hyperflux-bridge-persistence-v1"

/-- The JSON form of a document with its schema name; what is written can be read back. -/
class DocumentCodec where
  toVec : String → BridgePersistenceDocument → Option (List UInt8)
  fromSlice : List UInt8 → Option (String × BridgePersistenceDocument)
  fromSlice_toVec : ∀ schema document bytes, toVec schema document = some bytes →
    fromSlice bytes = some (schema, document)

structure FilePersistenceConfig where
  maxReceivers : Nat
  maxBytes : Nat

/-- An opened store: its memory, the committer's counter, the bytes at the state path, if there are
any, and the failures the file system is going to have. -/
structure OpenStore where
  config : FilePersistenceConfig
  document : BridgePersistenceDocument
  nextTemporary : Nat
  disk : Option (List UInt8)
  faults : List (Option PersistenceIoStage)

abbrev OpenStoreM := EStateM FilePersistenceError OpenStore

section Disk

variable [DocumentCodec]

def loadDocument (config : FilePersistenceConfig) :
    Option (List UInt8) → Except FilePersistenceError (String × BridgePersistenceDocument)
  | none => .ok (bridgePersistenceSchema, ⟨[], [], []⟩)
  | some bytes =>
    if bytes.length > config.maxBytes then
      .error .stateTooLarge
    else
      match DocumentCodec.fromSlice bytes with
      | none => .error .malformedState
      | some document => .ok document

/-- Opens the store on the bytes at its state path; the path and lock checks come before. -/
def openWithCommitter (config : FilePersistenceConfig) (disk : Option (List UInt8))
    (faults : List (Option PersistenceIoStage)) : Except FilePersistenceError OpenStore := do
  reject (config.maxReceivers = 0 ∨ config.maxBytes = 0) .invalidConfig
  let (schema, document) ← loadDocument config disk
  reject (schema ≠ bridgePersistenceSchema) .unsupportedSchema
  validateDocument config.maxReceivers document
  return ⟨config, document, 0, disk, faults⟩

namespace OpenStore

/-- `AtomicFileCommitter::commit`: a temporary file is written and renamed over the state path, and
then the directory is synced. -/
def atomicCommit (bytes : List UInt8) : OpenStoreM Unit := do
  let store ← get
  refuse (store.nextTemporary = u64Max) .invalidConfig
  let next := { store with nextTemporary := store.nextTemporary + 1, faults := store.faults.tail }
  match store.faults.headD none with
  | none => set { next with disk := some bytes }
  | some .syncDirectory =>
    set { next with disk := some bytes }
    throw (.ofStage .syncDirectory)
  | some stage =>
    set next
    throw (.ofStage stage)

def commit (candidate : BridgePersistenceDocument) : OpenStoreM Unit := do
  let store ← get
  lift id (validateDocument store.config.maxReceivers candidate)
  match DocumentCodec.toVec bridgePersistenceSchema candidate with
  | none => throw .malformedState
  | some bytes =>
    refuse (bytes.length > store.config.maxBytes) .stateTooLarge
    match ← attempt (atomicCommit bytes) with
    | .ok () => modify fun store => { store with document := candidate }
    | .error error =>
      modify fun store =>
        { store with document := if error.replacementVisible then candidate else store.document }
      throw error

end OpenStore

end Disk

section CompareAndSet

variable {σ : Type} (document : σ → BridgePersistenceDocument)
  (commit : BridgePersistenceDocument → EStateM FilePersistenceError σ Unit)

def casRestorePolicy (expectedRevision : Option PersistenceRevision)
    (policy : PersistedRestorePolicy) : EStateM FilePersistenceError σ PersistenceCasOutcome := do
  lift id (validateRecordSchema policy.schemaVersion)
  let store ← get
  let actual := (document store).policies.find? (·.receiverId = policy.receiverId)
  if actual.map (·.revision) ≠ expectedRevision then
    pure .conflict
  else do
    commit (canonicalize { document store with
      policies := FilePersistenceStore.upsert (·.receiverId) policy (document store).policies })
    pure .applied

def casStableEntries (changes : List StableIntentChange) :
    EStateM FilePersistenceError σ PersistenceCasOutcome := do
  if changes = [] then
    pure .applied
  else
    refuse (¬ (changes.map (entryKey ·.entry)).Nodup) .duplicateChange
    let store ← get
    let compared ← lift id (FilePersistenceStore.compareStableEntries (document store) changes)
    match compared with
    | .conflict => pure .conflict
    | .applied =>
      commit (canonicalize { document store with
        stableEntries := changes.foldl
          (fun entries change => FilePersistenceStore.upsert entryKey change.entry entries)
          (document store).stableEntries })
      pure .applied

def casRestoreRecords (changes : List RestoreRecordChange) :
    EStateM FilePersistenceError σ PersistenceCasOutcome := do
  if changes = [] then
    pure .applied
  else
    refuse (¬ (changes.map (·.record.claimId)).Nodup) .duplicateChange
    let store ← get
    let compared ← lift id (FilePersistenceStore.compareRestoreRecords (document store) changes)
    match compared with
    | .conflict => pure .conflict
    | .applied =>
      let compacted ← lift id (compactRestoreHistory
        (FilePersistenceStore.applyRestoreChanges (document store) changes)
        (changes.map (·.record.claimId)))
      commit (canonicalize compacted)
      pure .applied

end CompareAndSet

/-- One write to the store with its arguments. -/
inductive StoreOp where
  | restorePolicy (expectedRevision : Option PersistenceRevision) (policy : PersistedRestorePolicy)
  | stableEntries (changes : List StableIntentChange)
  | restoreRecords (changes : List RestoreRecordChange)

section Operations

variable [DocumentCodec]

/-- The operations of the store with their source names. -/
def OpenStore.compareAndSetRestorePolicy (expectedRevision : Option PersistenceRevision)
    (policy : PersistedRestorePolicy) : OpenStoreM PersistenceCasOutcome :=
  casRestorePolicy OpenStore.document OpenStore.commit expectedRevision policy

def OpenStore.compareAndSetStableEntries (changes : List StableIntentChange) : OpenStoreM PersistenceCasOutcome :=
  casStableEntries OpenStore.document OpenStore.commit changes

def OpenStore.compareAndSetRestoreRecords (changes : List RestoreRecordChange) :
    OpenStoreM PersistenceCasOutcome :=
  casRestoreRecords OpenStore.document OpenStore.commit changes

def StoreOp.run : StoreOp → OpenStoreM PersistenceCasOutcome
  | .restorePolicy expectedRevision policy => OpenStore.compareAndSetRestorePolicy expectedRevision policy
  | .stableEntries changes => OpenStore.compareAndSetStableEntries changes
  | .restoreRecords changes => OpenStore.compareAndSetRestoreRecords changes

end Operations

def StoreOp.Expected (op : StoreOp) (document : BridgePersistenceDocument) : Prop :=
  match op with
  | .restorePolicy expectedRevision policy =>
    (document.policies.find? (·.receiverId = policy.receiverId)).map (·.revision) = expectedRevision
  | .stableEntries changes => ∀ change ∈ changes,
    (document.stableEntries.find? fun entry => entryKey entry = entryKey change.entry).map
      (·.revision) = change.expectedRevision
  | .restoreRecords changes => ∀ change ∈ changes,
    (document.restoreRecords.find? (·.claimId = change.record.claimId)).map (·.revision) =
      change.expectedRevision

/-- Exactly the entries under the written keys were replaced. -/
def Overwrites {α κ : Type} (key : α → κ) (before after written : List α) : Prop :=
  ∀ x, x ∈ after ↔ x ∈ written ∨ (x ∈ before ∧ ∀ w ∈ written, key w ≠ key x)

/-- The whole batch is in the document and nothing else changed, but for history that compaction
may drop. -/
def StoreOp.Applied (op : StoreOp) (before after : BridgePersistenceDocument) : Prop :=
  match op with
  | .restorePolicy _ policy =>
    Overwrites (·.receiverId) before.policies after.policies [policy] ∧
      after.stableEntries.Perm before.stableEntries ∧ after.restoreRecords.Perm before.restoreRecords
  | .stableEntries changes => after.policies.Perm before.policies ∧
    Overwrites entryKey before.stableEntries after.stableEntries (changes.map (·.entry)) ∧
      after.restoreRecords.Perm before.restoreRecords
  | .restoreRecords changes => after.policies.Perm before.policies ∧
    after.stableEntries.Perm before.stableEntries ∧
      Replaced before.restoreRecords after.restoreRecords (changes.map (·.record))

end HyperfluxNext
