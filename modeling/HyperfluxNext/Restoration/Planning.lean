import HyperfluxNext.Restoration.Completion

namespace HyperfluxNext

open Procedure

inductive RestorePlanResult where
  | disabled | noStableIntents | noCompatibleStableIntents | profileAuthorityUnavailable
  | planned (records : List RestoreRecord)
deriving DecidableEq

inductive IntentProfileCompatibility where
  | compatible | incompatible | unavailable
deriving DecidableEq

def intentProfileCompatibility (receiverId : ReceiverId) (generationId : GenerationId)
    (intent : PersistedStableIntent) (resource : ResourceKey) (profiles : ProfileRegistry) :
    IntentProfileCompatibility :=
  match profiles.receiverProfile receiverId generationId with
  | none => .unavailable
  | some receiverProfile =>
    if receiverProfile.profileId ≠ intent.receiverProfileId ∨
        receiverProfile.profileDigest ≠ intent.receiverProfileDigest then
      .incompatible
    else
      match profiles.deviceProfile resource with
      | none => .unavailable
      | some deviceProfile =>
        if ¬ profiles.supports resource ∨ deviceProfile.profileId ≠ intent.profileId ∨
            deviceProfile.profileDigest ≠ intent.profileDigest ∨
            deviceProfile.applicationSlotCount ≠ intent.applicationSlotCount then
          .incompatible
        else
          .compatible

def profileMatches (record : RestoreRecord) (intent : PersistedStableIntent)
    (resource : ResourceKey) (profiles : ProfileRegistry) : Bool :=
  intentProfileCompatibility record.receiverId record.generationId intent resource profiles = .compatible

def validateTrigger (trigger : RestoreTrigger) : Except RestorationError Unit :=
  let scopedCorrectly : Bool := match trigger.kind with
    | .deviceReturn => trigger.targetDeviceId.isSome
    | .serviceStart => trigger.targetDeviceId.isNone
    | .receiverGeneration => trigger.targetDeviceId.isNone
    | .systemResume => trigger.targetDeviceId.isNone
  reject (¬ scopedCorrectly) .invalidTrigger

def validateTriggerHistory (trigger : RestoreTrigger) (records : List RestoreRecord) :
    Except RestorationError Unit :=
  let sameTrigger := records.filter (·.triggerId = trigger.triggerId)
  let identityMatches := sameTrigger.all fun record =>
    record.triggerKind = trigger.kind ∧ record.receiverId = trigger.receiverId ∧
      record.generationId = trigger.generationId
  let targetMatches : Bool := match trigger.targetDeviceId with
    | none => true
    | some target => sameTrigger.all (·.deviceId = target)
  reject (¬ (identityMatches ∧ targetMatches)) .recordIdentityConflict

def inScope (trigger : RestoreTrigger) (deviceId : LogicalDeviceId) : Bool :=
  match trigger.targetDeviceId with
  | none => true
  | some target => target = deviceId

section Planning

variable [RestorationDigests]

/-- The change that rebinds one saved intent to an upgraded device profile, if it needs one. -/
def migratedIntent (trigger : RestoreTrigger) (profiles : ProfileRegistry)
    (receiverProfile : QualifiedReceiverProfile) (records : List RestoreRecord)
    (intent : PersistedStableIntent) : Except RestorationError (Option StableIntentChange) :=
  let resource := lightingResource trigger.receiverId trigger.generationId intent.deviceId
  if ¬ inScope trigger intent.deviceId ∨ intent.receiverProfileId ≠ receiverProfile.profileId ∨
      intent.receiverProfileDigest ≠ receiverProfile.profileDigest then
    .ok none
  else
    match profiles.deviceProfile resource with
    | none => .ok none
    | some current =>
      if intent.profileDigest = current.profileDigest ∨ intent.profileId ≠ current.profileId ∨
          intent.applicationSlotCount ≠ current.applicationSlotCount ∨
          ¬ profiles.permitsStableLightingMigration resource intent.profileDigest then
        .ok none
      else do
        enforcePriorOutcomes (records.filter fun record =>
          record.receiverId = intent.receiverId ∧ record.deviceId = intent.deviceId ∧
            record.intentRevision = intent.revision ∧ record.intentDigest = intent.contentDigest)
        let revision ← nextIntentRevision (some intent.revision)
        let migrated := { intent with profileDigest := current.profileDigest, revision := revision }
        return some ⟨some intent.revision, .present { migrated with contentDigest := intentDigest migrated }⟩

def migratedEntries (trigger : RestoreTrigger) (profiles : ProfileRegistry)
    (receiverProfile : QualifiedReceiverProfile) (records : List RestoreRecord) :
    List PersistedStableEntry → Except RestorationError (List StableIntentChange)
  | [] => .ok []
  | .deleted _ :: entries => migratedEntries trigger profiles receiverProfile records entries
  | .present intent :: entries => do
    let change ← migratedIntent trigger profiles receiverProfile records intent
    let changes ← migratedEntries trigger profiles receiverProfile records entries
    return change.toList ++ changes

variable {T : Type}

def migrateCompatibleStableIntents (trigger : RestoreTrigger) (profiles : ProfileRegistry)
    (records : List RestoreRecord) : RestorationM T Nat := do
  match profiles.receiverProfile trigger.receiverId trigger.generationId with
  | none => pure 0
  | some receiverProfile =>
    let state ← get
    let entries ← lift id (loadEntries trigger.receiverId state.store)
    let changes ← lift id (migratedEntries trigger profiles receiverProfile records entries)
    if changes = [] then
      pure 0
    else
      match ← withStore .saveIntent (FilePersistenceStore.compareAndSetStableEntries changes) with
      | .applied => pure changes.length
      | .conflict => throw (.persistenceConflict .saveIntent)

/-- The claims of the candidate's device that still hold no attempt give way to the candidate. -/
def supersededBy (candidate record : RestoreRecord) : Bool :=
  record.deviceId = candidate.deviceId ∧ record.claimId ≠ candidate.claimId ∧
    record.status.state ∈ [RestoreRecordState.planned, .deferred]

def supersedePriorClaims (candidate : RestoreRecord) (records : List RestoreRecord) :
    RestorationM T (List RestoreRecord) :=
  each (fun record =>
    if supersededBy candidate record then
      saveTransition record (.invalidated
        (if record.generationId = candidate.generationId then .supersededTrigger else .staleGeneration))
    else
      pure record) records

/-- Plans the claims of the compatible intents in order; `records` are the receiver's records as
they stand. -/
def planClaims (trigger : RestoreTrigger) :
    List PersistedStableIntent → List RestoreRecord → RestorationM T (List RestoreRecord)
  | [], _ => pure []
  | intent :: intents, records => do
    let candidate ← lift id (newRestoreRecord trigger intent)
    let records ← supersedePriorClaims candidate records
    match records.find? (·.claimId = candidate.claimId) with
    | some existing =>
      lift id (validateSameClaim existing candidate)
      let planned ← planClaims trigger intents records
      pure (existing :: planned)
    | none =>
      persistRecord none candidate
      let planned ← planClaims trigger intents (records ++ [candidate])
      pure (candidate :: planned)

def planEnabled (trigger : RestoreTrigger) (profiles : ProfileRegistry) : RestorationM T RestorePlanResult := do
  let state ← get
  let records ← lift id (loadRecords trigger.receiverId state.store)
  lift id (validateTriggerHistory trigger records)
  let _ ← migrateCompatibleStableIntents trigger profiles records
  let state ← get
  let entries ← lift id (loadEntries trigger.receiverId state.store)
  let targetIntents := entries.filterMap fun entry =>
    match entry with
    | .present intent => if inScope trigger intent.deviceId then some intent else none
    | .deleted _ => none
  let compatibility := fun intent : PersistedStableIntent =>
    intentProfileCompatibility trigger.receiverId trigger.generationId intent
      (lightingResource trigger.receiverId trigger.generationId intent.deviceId) profiles
  let intents := targetIntents.filter (compatibility · = .compatible)
  if targetIntents = [] then
    pure .noStableIntents
  else if intents = [] then
    pure (if targetIntents.any (compatibility · = .unavailable) then .profileAuthorityUnavailable
      else .noCompatibleStableIntents)
  else
    let planned ← planClaims trigger intents records
    pure (.planned planned)

/-- Creates one durable claim per profile-compatible stable intent for a lifecycle trigger. -/
def planRestore (trigger : RestoreTrigger) (profiles : ProfileRegistry) : RestorationM T RestorePlanResult := do
  lift id (validateTrigger trigger)
  let state ← get
  let enabled ← lift id (restoreEnabled trigger.receiverId state.store)
  if enabled then planEnabled trigger profiles else pure .disabled

end Planning

end HyperfluxNext
