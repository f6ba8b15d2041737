import Mathlib.Data.List.Sort
import HyperfluxNext.Restoration.Records

namespace HyperfluxNext

open Procedure

/-- Failures of the file store. The text of a noncanonical state is a diagnostic only. -/
inductive FilePersistenceError where
  | io (replacementVisible : Bool)
  | stateTooLarge | malformedState | unsupportedSchema | noncanonicalState | capacity
  | duplicateChange | identityConflict | invalidConfig
deriving DecidableEq

def FilePersistenceError.replacementVisible : FilePersistenceError → Bool
  | .io visible => visible
  | _ => false

structure BridgePersistenceDocument where
  policies : List PersistedRestorePolicy
  stableEntries : List PersistedStableEntry
  restoreRecords : List RestoreRecord
deriving DecidableEq

/-- The store with the answers the commit boundary is going to give; a commit beyond them
succeeds. -/
structure FilePersistenceStore where
  maxReceivers : Nat
  document : BridgePersistenceDocument
  commits : List (Except FilePersistenceError Unit)

abbrev StoreM := EStateM FilePersistenceError FilePersistenceStore

def minTerminalReplayRecords : Nat := 32

def validateRecordSchema (version : PersistenceSchemaVersion) : Except FilePersistenceError Unit :=
  reject (version ≠ currentSchemaVersion) .unsupportedSchema

/-- The key under which the document orders its restore records. -/
def recordKey (record : RestoreRecord) : ReceiverId × RestoreClaimId := (record.receiverId, record.claimId)

def entryKey (entry : PersistedStableEntry) : ReceiverId × LogicalDeviceId := (entry.receiverId, entry.deviceId)

def comparePair {α β : Type} [Ord α] [Ord β] (left right : α × β) : Ordering :=
  (compare left.1 right.1).then (compare left.2 right.2)

/-- The sort of the source: insertion sort agrees with it because the keys are distinct. -/
def sortBy {α κ : Type} (cmp : κ → κ → Ordering) (key : α → κ) (l : List α) : List α :=
  l.insertionSort fun a b => (cmp (key a) (key b)).isLE

def strictlyOrderedBy {α κ : Type} (cmp : κ → κ → Ordering) (key : α → κ) : List α → Bool
  | a :: b :: rest => cmp (key a) (key b) = .lt ∧ strictlyOrderedBy cmp key (b :: rest)
  | _ => true

def canonicalize (document : BridgePersistenceDocument) : BridgePersistenceDocument where
  policies := sortBy compare (·.receiverId) document.policies
  stableEntries := sortBy comparePair entryKey document.stableEntries
  restoreRecords := sortBy comparePair recordKey document.restoreRecords

def documentReceivers (document : BridgePersistenceDocument) : List ReceiverId :=
  (document.policies.map (·.receiverId) ++ document.stableEntries.map (·.receiverId) ++
    document.restoreRecords.map (·.receiverId)).dedup

def validateDocument (maxReceivers : Nat) (document : BridgePersistenceDocument) :
    Except FilePersistenceError Unit := do
  reject (document.policies.length > maxReceivers) .capacity
  reject (¬ strictlyOrderedBy compare (·.receiverId) document.policies) .noncanonicalState
  reject (document.policies.any (·.schemaVersion ≠ currentSchemaVersion)) .unsupportedSchema
  reject (¬ strictlyOrderedBy comparePair entryKey document.stableEntries) .noncanonicalState
  reject (document.stableEntries.any (·.schemaVersion ≠ currentSchemaVersion)) .unsupportedSchema
  reject (¬ strictlyOrderedBy comparePair recordKey document.restoreRecords) .noncanonicalState
  reject (¬ (document.restoreRecords.map (·.claimId)).Nodup) .noncanonicalState
  reject (document.restoreRecords.any (·.schemaVersion ≠ currentSchemaVersion)) .unsupportedSchema
  reject ((documentReceivers document).length > maxReceivers) .capacity
  reject ((documentReceivers document).any fun receiverId =>
    document.stableEntries.countP (·.receiverId = receiverId) > maxStableEntriesPerReceiver ∨
    document.restoreRecords.countP (·.receiverId = receiverId) > maxRestoreRecordsPerReceiver)
    .capacity

def compactableTerminal : RestoreRecordStatus → Bool
  | .succeeded _ => true
  | .invalidated _ => true
  | _ => false

/-- The claims of one receiver that history compaction drops: the oldest replayable terminals that
the batch does not touch. -/
def compactedClaims (records : List RestoreRecord) (protectedClaims : List RestoreClaimId)
    (receiverId : ReceiverId) : Except FilePersistenceError (List RestoreClaimId) :=
  let own := records.filter (·.receiverId = receiverId)
  let overflow := own.length - maxRestoreRecordsPerReceiver
  if overflow = 0 then
    .ok []
  else
    let replayRecords := own.countP fun record => compactableTerminal record.status
    let eligible := sortBy comparePair id <| (own.filter fun record =>
      compactableTerminal record.status ∧ record.claimId ∉ protectedClaims).map
        fun record => (record.revision, record.claimId)
    if overflow > replayRecords - minTerminalReplayRecords ∨ eligible.length < overflow then
      .error .capacity
    else
      .ok ((eligible.take overflow).map (·.2))

def compactRestoreHistory (document : BridgePersistenceDocument) (protectedClaims : List RestoreClaimId) :
    Except FilePersistenceError BridgePersistenceDocument := do
  let removed ← ((document.restoreRecords.map (·.receiverId)).dedup).mapM
    (compactedClaims document.restoreRecords protectedClaims)
  return { document with
    restoreRecords := document.restoreRecords.filter (·.claimId ∉ removed.flatten) }

namespace FilePersistenceStore

/-- Replaces the document when the bytes reached the state path, also when the error came after
the replacement became visible. -/
def commit (candidate : BridgePersistenceDocument) : StoreM Unit := do
  let store ← get
  lift id (validateDocument store.maxReceivers candidate)
  match store.commits.headD (.ok ()) with
  | .ok () => set { store with document := candidate, commits := store.commits.tail }
  | .error error =>
    set { store with
      document := if error.replacementVisible then candidate else store.document
      commits := store.commits.tail }
    throw error

def restorePolicy (store : FilePersistenceStore) (receiverId : ReceiverId) : Option PersistedRestorePolicy :=
  store.document.policies.find? (·.receiverId = receiverId)

def stableEntries (store : FilePersistenceStore) (receiverId : ReceiverId) : List PersistedStableEntry :=
  store.document.stableEntries.filter (·.receiverId = receiverId)

def restoreRecords (store : FilePersistenceStore) (receiverId : ReceiverId) : List RestoreRecord :=
  store.document.restoreRecords.filter (·.receiverId = receiverId)

def restoreRecord (store : FilePersistenceStore) (claimId : RestoreClaimId) : Option RestoreRecord :=
  store.document.restoreRecords.find? (·.claimId = claimId)

/-- The in-place update of a keyed list: replace the first match, or add at the end. -/
def upsert {α κ : Type} [DecidableEq κ] (key : α → κ) (value : α) : List α → List α
  | [] => [value]
  | x :: xs => if key x = key value then value :: xs else x :: upsert key value xs

def compareStableEntries (document : BridgePersistenceDocument) :
    List StableIntentChange → Except FilePersistenceError PersistenceCasOutcome
  | [] => .ok .applied
  | change :: changes => do
    validateRecordSchema change.entry.schemaVersion
    let actual := (document.stableEntries.find? fun entry => entryKey entry = entryKey change.entry)
    if actual.map (·.revision) ≠ change.expectedRevision then
      return .conflict
    else
      compareStableEntries document changes

def compareAndSetStableEntries (changes : List StableIntentChange) : StoreM PersistenceCasOutcome := do
  if changes = [] then
    pure .applied
  else
    refuse (¬ (changes.map (entryKey ·.entry)).Nodup) .duplicateChange
    let store ← get
    let compared ← lift id (compareStableEntries store.document changes)
    match compared with
    | .conflict => pure .conflict
    | .applied =>
      commit (canonicalize { store.document with
        stableEntries := changes.foldl (fun entries change => upsert entryKey change.entry entries)
          store.document.stableEntries })
      pure .applied

def compareRestoreRecords (document : BridgePersistenceDocument) :
    List RestoreRecordChange → Except FilePersistenceError PersistenceCasOutcome
  | [] => .ok .applied
  | change :: changes => do
    validateRecordSchema change.record.schemaVersion
    let current := document.restoreRecords.find? (·.claimId = change.record.claimId)
    reject (current.any fun current => current.receiverId ≠ change.record.receiverId ∨
      current.deviceId ≠ change.record.deviceId ∨ current.triggerId ≠ change.record.triggerId)
      .identityConflict
    if current.map (·.revision) ≠ change.expectedRevision then
      return .conflict
    else
      compareRestoreRecords document changes

def applyRestoreChanges (document : BridgePersistenceDocument) (changes : List RestoreRecordChange) :
    BridgePersistenceDocument :=
  { document with
    restoreRecords := changes.foldl (fun records change => upsert (·.claimId) change.record records)
      document.restoreRecords }

def compareAndSetRestoreRecords (changes : List RestoreRecordChange) : StoreM PersistenceCasOutcome := do
  if changes = [] then
    pure .applied
  else
    refuse (¬ (changes.map (·.record.claimId)).Nodup) .duplicateChange
    let store ← get
    let compared ← lift id (compareRestoreRecords store.document changes)
    match compared with
    | .conflict => pure .conflict
    | .applied =>
      let compacted ← lift id (compactRestoreHistory (applyRestoreChanges store.document changes)
        (changes.map (·.record.claimId)))
      commit (canonicalize compacted)
      pure .applied

end FilePersistenceStore

end HyperfluxNext
