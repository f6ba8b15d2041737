import HyperfluxNext.Restoration.Planning

namespace HyperfluxNext

open Procedure

inductive RestorationScheduleError where
  | invalidConfiguration | triggerCapacity | claimCapacity | timeOverflow | identifier | effectReplay
  | restoration (error : RestorationError)
deriving DecidableEq

inductive ScheduledTriggerPurpose where
  | primary
  | returnAttempt (attempt : Nat)
deriving DecidableEq

structure ScheduledTrigger where
  trigger : RestoreTrigger
  due : MonotonicMs
  sequence : Option SequenceNumber
  purpose : ScheduledTriggerPurpose
deriving DecidableEq

structure ScheduledClaim where
  receiverId : ReceiverId
  generationId : GenerationId
  deviceId : LogicalDeviceId
  revision : PersistenceRevision
  due : MonotonicMs
  deferCount : Nat

structure DeviceKey where
  receiverId : ReceiverId
  generationId : GenerationId
  deviceId : LogicalDeviceId
deriving DecidableEq

instance : Ord DeviceKey where
  compare := compareLex (compareOn DeviceKey.receiverId) (compareLex
    (compareOn DeviceKey.generationId) (compareOn DeviceKey.deviceId))

/-- Owns only volatile scheduling. -/
structure RestorationScheduler where
  enabled : Bool
  processNonce : List UInt8
  retryIntervalMs : Nat
  claimsPerTick : Nat
  maxTriggers : Nat
  maxClaims : Nat
  configuredReceivers : List ReceiverId
  readyDevices : Std.TreeMap DeviceKey MonotonicMs
  returnEpochs : Std.TreeMap DeviceKey SequenceNumber
  triggers : Std.TreeMap RestoreTriggerId ScheduledTrigger
  claims : Std.TreeMap RestoreClaimId ScheduledClaim

abbrev SchedulerM := EStateM RestorationScheduleError RestorationScheduler

class TriggerDigests where
  triggerId : RestoreTriggerKind → ReceiverId → GenerationId → Option LogicalDeviceId →
    Option SequenceNumber → Option (List UInt8) → ScheduledTriggerPurpose →
    Except RestorationScheduleError RestoreTriggerId

def isBroadTrigger : RestoreTriggerKind → Bool
  | .serviceStart => true
  | .receiverGeneration => true
  | .systemResume => true
  | .deviceReturn => false

def readinessGatedTrigger : RestoreTriggerKind → Bool
  | .receiverGeneration => true
  | .systemResume => true
  | _ => false

def parkedDue : MonotonicMs := ⟨u64Max, Nat.zero_le _, le_refl _⟩

def immediateDue : MonotonicMs := .lit 0

def dueAfter (now : MonotonicMs) (delayMs : Nat) : Except RestorationScheduleError MonotonicMs :=
  match Bounded.tryFrom 0 u64Max (now.get + delayMs) with
  | none => .error .timeOverflow
  | some due => .ok due

def deferredDue (now : MonotonicMs) (reason : RestoreDeferReason) (retryIntervalMs deferCount : Nat) :
    Except RestorationScheduleError MonotonicMs :=
  if reason = .deviceSleeping ∨ reason = .deviceUnavailable ∨ reason = .deviceUnknown then
    .ok parkedDue
  else
    let delay := retryIntervalMs * 2 ^ min (deferCount - 1) 6
    if delay > u64Max then .error .timeOverflow else dueAfter now delay

def sequenceIsNewer : Option SequenceNumber → Option SequenceNumber → Bool
  | some candidate, some existing => existing < candidate
  | some _, none => true
  | none, _ => false

/-- The entry with the smallest due time, the earlier one of equals; over the entries of a map in
key order that is the smallest by due time and key. -/
def earliest : List (RestoreTriggerId × ScheduledTrigger) → Option (RestoreTriggerId × ScheduledTrigger)
  | [] => none
  | entry :: entries =>
    match earliest entries with
    | none => some entry
    | some best => if best.2.due < entry.2.due then some best else some entry

def dueTriggerId (triggers : Std.TreeMap RestoreTriggerId ScheduledTrigger) (now : MonotonicMs) :
    Option RestoreTriggerId :=
  (earliest (triggers.toList.filter (·.2.due ≤ now))).map (·.1)

def earliestClaim : List (RestoreClaimId × ScheduledClaim) → Option (RestoreClaimId × ScheduledClaim)
  | [] => none
  | entry :: entries =>
    match earliestClaim entries with
    | none => some entry
    | some best =>
      if best.2.due < entry.2.due ∨ (best.2.due = entry.2.due ∧ best.2.revision < entry.2.revision)
      then some best else some entry

def dueClaimId (claims : Std.TreeMap RestoreClaimId ScheduledClaim) (now : MonotonicMs) : Option RestoreClaimId :=
  (earliestClaim (claims.toList.filter (·.2.due ≤ now))).map (·.1)

namespace RestorationScheduler

/-- An empty scheduler; it is enabled exactly when there is an internal session to act for. -/
def new {Session : Type} (enabled : Bool) (session : Option Session) (processNonce : List UInt8)
    (leaseDurationMs : LeaseDurationMs)
    (authorityWindowMs retryIntervalMs claimsPerTick maxTriggers maxClaims : Nat) :
    Except RestorationScheduleError RestorationScheduler :=
  if enabled ≠ session.isSome ∨ authorityWindowMs ≤ leaseDurationMs.get ∨ retryIntervalMs = 0 ∨
      claimsPerTick = 0 ∨ maxTriggers = 0 ∨ maxClaims < maxTriggers then
    .error .invalidConfiguration
  else
    .ok ⟨enabled, processNonce, retryIntervalMs, claimsPerTick, maxTriggers, maxClaims, [], ∅, ∅, ∅, ∅⟩

def claimOf (receiverId : ReceiverId) (generationId : GenerationId)
    (deviceId : Option LogicalDeviceId) (claim : ScheduledClaim) : Bool :=
  claim.receiverId = receiverId ∧ claim.generationId = generationId ∧ deviceId.all (claim.deviceId = ·)

/-- Gives the matching claims a new due time; how many there were. -/
def retime (receiverId : ReceiverId) (generationId : GenerationId)
    (deviceId : Option LogicalDeviceId) (due : MonotonicMs → MonotonicMs)
    (scheduler : RestorationScheduler) : Nat × RestorationScheduler :=
  ((scheduler.claims.values.filter (claimOf receiverId generationId deviceId)).length,
    { scheduler with
      claims := scheduler.claims.map fun _ claim =>
        if claimOf receiverId generationId deviceId claim then { claim with due := due claim.due }
        else claim })

def wake (receiverId : ReceiverId) (generationId : GenerationId) (deviceId : Option LogicalDeviceId)
    (due : MonotonicMs) (scheduler : RestorationScheduler) : Nat × RestorationScheduler :=
  retime receiverId generationId deviceId (fun _ => due) scheduler

def wakeEarlier (receiverId : ReceiverId) (generationId : GenerationId) (deviceId : LogicalDeviceId)
    (due : MonotonicMs) (scheduler : RestorationScheduler) : Nat × RestorationScheduler :=
  retime receiverId generationId (some deviceId) (fun current => if due < current then due else current)
    scheduler

def park (receiverId : ReceiverId) (generationId : GenerationId) (deviceId : Option LogicalDeviceId)
    (scheduler : RestorationScheduler) : Nat × RestorationScheduler :=
  retime receiverId generationId deviceId (fun _ => parkedDue) scheduler

def wakeReadyDevices (receiverId : ReceiverId) (generationId : GenerationId)
    (scheduler : RestorationScheduler) : Nat × RestorationScheduler :=
  let devices := scheduler.readyDevices.toList.filter fun entry =>
    entry.1.receiverId = receiverId ∧ entry.1.generationId = generationId
  devices.foldl (fun answer entry =>
    let (woken, scheduler) := wake receiverId generationId (some entry.1.deviceId) entry.2 answer.2
    (answer.1 + woken, scheduler)) (0, scheduler)

def ofGeneration (receiverId : ReceiverId) (generationId : GenerationId) (scheduled : ScheduledTrigger) : Bool :=
  scheduled.trigger.receiverId = receiverId ∧ scheduled.trigger.generationId = generationId

def hasPendingBroadTrigger (scheduler : RestorationScheduler) (receiverId : ReceiverId)
    (generationId : GenerationId) : Bool :=
  scheduler.triggers.values.any fun scheduled =>
    ofGeneration receiverId generationId scheduled ∧ isBroadTrigger scheduled.trigger.kind

def clearReadiness (receiverId : ReceiverId) (generationId : GenerationId)
    (scheduler : RestorationScheduler) : RestorationScheduler :=
  { scheduler with
    readyDevices := scheduler.readyDevices.filter fun key _ =>
      key.receiverId ≠ receiverId ∨ key.generationId ≠ generationId
    returnEpochs := scheduler.returnEpochs.filter fun key _ =>
      key.receiverId ≠ receiverId ∨ key.generationId ≠ generationId
    triggers := scheduler.triggers.filter fun _ scheduled =>
      ! (ofGeneration receiverId generationId scheduled ∧ scheduled.trigger.kind = .deviceReturn) }

def returnOf (key : DeviceKey) (scheduled : ScheduledTrigger) : Bool :=
  ofGeneration key.receiverId key.generationId scheduled ∧
    scheduled.trigger.kind = .deviceReturn ∧ scheduled.trigger.targetDeviceId = some key.deviceId

def removeDeviceReturnTriggers (key : DeviceKey) (scheduler : RestorationScheduler) : RestorationScheduler :=
  { scheduler with triggers := scheduler.triggers.filter fun _ scheduled => ! returnOf key scheduled }

/-- Ends the retry envelope but keeps its sequence watermark. -/
def consumeDeviceReturnEpoch (key : DeviceKey) (scheduler : RestorationScheduler) : RestorationScheduler :=
  let scheduler := removeDeviceReturnTriggers key scheduler
  { scheduler with readyDevices := scheduler.readyDevices.erase key }

def dropPrimaryReturns (receiverId : ReceiverId) (generationId : GenerationId)
    (scheduler : RestorationScheduler) : RestorationScheduler :=
  { scheduler with
    triggers := scheduler.triggers.filter fun _ scheduled =>
      ! (ofGeneration receiverId generationId scheduled ∧
        scheduled.trigger.kind = .deviceReturn ∧ scheduled.purpose = .primary) }

def retireGeneration (receiverId : ReceiverId) (generationId : GenerationId)
    (scheduler : RestorationScheduler) : RestorationScheduler :=
  { scheduler with
    triggers := scheduler.triggers.filter fun _ scheduled => ! ofGeneration receiverId generationId scheduled
    claims := scheduler.claims.filter fun _ claim =>
      claim.receiverId ≠ receiverId ∨ claim.generationId ≠ generationId
    readyDevices := scheduler.readyDevices.filter fun key _ =>
      key.receiverId ≠ receiverId ∨ key.generationId ≠ generationId
    returnEpochs := scheduler.returnEpochs.filter fun key _ =>
      key.receiverId ≠ receiverId ∨ key.generationId ≠ generationId }

def validOffsets (retryOffsetsMs : List Nat) : Bool :=
  2 ≤ retryOffsetsMs.length ∧ retryOffsetsMs.length ≤ 32 ∧ retryOffsetsMs.head? = some 0 ∧
    (retryOffsetsMs.zip retryOffsetsMs.tail).all (fun pair => pair.1 < pair.2) ∧
    (retryOffsetsMs.getLast?).all (· ≤ 30000)

def dueTimes (openedAt : MonotonicMs) : List Nat → Except RestorationScheduleError (List MonotonicMs)
  | [] => .ok []
  | offset :: offsets => do
    let due ← dueAfter openedAt offset
    let rest ← dueTimes openedAt offsets
    return due :: rest

section Triggers

variable [TriggerDigests]

def stageAttempts (key : DeviceKey) (epochSequence : SequenceNumber) :
    Nat → List MonotonicMs → Except RestorationScheduleError (List ScheduledTrigger)
  | _, [] => .ok []
  | attempt, due :: dues => do
    let purpose := ScheduledTriggerPurpose.returnAttempt attempt
    let triggerId ← TriggerDigests.triggerId .deviceReturn key.receiverId key.generationId
      (some key.deviceId) (some epochSequence) none purpose
    let rest ← stageAttempts key epochSequence (attempt + 1) dues
    return ⟨⟨triggerId, .deviceReturn, key.receiverId, key.generationId, some key.deviceId⟩, due,
      some epochSequence, purpose⟩ :: rest

/-- Atomically installs the complete bounded retry envelope for one exact endpoint return epoch. -/
def scheduleDeviceReturnEpochAt (key : DeviceKey) (epochSequence : SequenceNumber)
    (openedAt : MonotonicMs) (retryOffsetsMs : List Nat) : SchedulerM Unit := do
  let scheduler ← get
  if scheduler.enabled = false then
    pure ()
  else
    refuse (validOffsets retryOffsetsMs = false) .invalidConfiguration
    if (scheduler.returnEpochs[key]?).any (epochSequence ≤ ·) then
      pure ()
    else
      let dues ← lift id (dueTimes openedAt retryOffsetsMs)
      let replaced := (scheduler.triggers.values.filter (returnOf key)).length
      refuse (scheduler.triggers.size - replaced + dues.length > scheduler.maxTriggers) .triggerCapacity
      let staged ← lift id (stageAttempts key epochSequence 0 dues)
      let cleared := removeDeviceReturnTriggers key scheduler
      let firstDue := dues.headD openedAt
      set (wake key.receiverId key.generationId (some key.deviceId) firstDue
        { cleared with
          triggers := staged.foldl
            (fun triggers scheduled => triggers.insert scheduled.trigger.triggerId scheduled)
            cleared.triggers
          readyDevices := cleared.readyDevices.insert key firstDue
          returnEpochs := cleared.returnEpochs.insert key epochSequence }).2

def acceleratable (key : DeviceKey) (epochSequence : SequenceNumber) (evidenceAt : MonotonicMs)
    (scheduled : ScheduledTrigger) : Bool :=
  returnOf key scheduled ∧ scheduled.sequence = some epochSequence ∧
    scheduled.purpose ≠ .primary ∧ evidenceAt < scheduled.due

omit [TriggerDigests] in
/-- Pulls the earliest still-pending attempt for one active return epoch to the new evidence
timestamp. -/
def accelerateDeviceReturnEpochAt (key : DeviceKey) (epochSequence : SequenceNumber)
    (evidenceAt : MonotonicMs) : SchedulerM Unit := do
  let scheduler ← get
  if scheduler.enabled = false ∨ scheduler.returnEpochs[key]? ≠ some epochSequence then
    pure ()
  else
    let candidate := earliest (scheduler.triggers.toList.filter
      (acceleratable key epochSequence evidenceAt ·.2))
    let triggers := match candidate with
      | none => scheduler.triggers
      | some (triggerId, scheduled) => scheduler.triggers.insert triggerId { scheduled with due := evidenceAt }
    let ready := match scheduler.readyDevices[key]? with
      | some due => if evidenceAt < due then evidenceAt else due
      | none => evidenceAt
    set (wakeEarlier key.receiverId key.generationId key.deviceId evidenceAt
      { scheduler with
        triggers := triggers
        readyDevices := scheduler.readyDevices.insert key ready }).2

/-- Puts a trigger into the schedule unless it is there already. -/
def insertTrigger (kind : RestoreTriggerKind) (receiverId : ReceiverId) (generationId : GenerationId)
    (targetDeviceId : Option LogicalDeviceId) (sequence : Option SequenceNumber) (due : MonotonicMs)
    (purpose : ScheduledTriggerPurpose) : SchedulerM Unit := do
  let scheduler ← get
  let nonce := if kind = .serviceStart then some scheduler.processNonce else none
  let triggerId ← lift id (TriggerDigests.triggerId kind receiverId generationId targetDeviceId
    sequence nonce purpose)
  if scheduler.triggers.contains triggerId then
    pure ()
  else
    refuse (scheduler.triggers.size ≥ scheduler.maxTriggers) .triggerCapacity
    set { scheduler with
      triggers := scheduler.triggers.insert triggerId
        ⟨⟨triggerId, kind, receiverId, generationId, targetDeviceId⟩, due, sequence, purpose⟩ }

/-- Enqueues a broad trigger of a generation, which takes the place of its primary device returns. -/
def scheduleBroad (kind : RestoreTriggerKind) (receiverId : ReceiverId) (generationId : GenerationId)
    (sequence : Option SequenceNumber) : SchedulerM Unit := do
  let scheduler ← get
  if scheduler.enabled = false then
    pure ()
  else
    let (woke, scheduler) : Nat × RestorationScheduler :=
      if readinessGatedTrigger kind then
        wakeReadyDevices receiverId generationId (park receiverId generationId none scheduler).2
      else
        wake receiverId generationId none immediateDue scheduler
    let scheduler := dropPrimaryReturns receiverId generationId scheduler
    set scheduler
    if woke > 0 ∨ scheduler.hasPendingBroadTrigger receiverId generationId then
      pure ()
    else
      insertTrigger kind receiverId generationId none sequence immediateDue .primary

/-- The pending primary return of the same device, with the sequence that scheduled it. -/
def sameScope (receiverId : ReceiverId) (generationId : GenerationId)
    (targetDeviceId : Option LogicalDeviceId) (scheduler : RestorationScheduler) :
    Option (RestoreTriggerId × Option SequenceNumber) :=
  (scheduler.triggers.toList.find? fun entry =>
    ofGeneration receiverId generationId entry.2 ∧ entry.2.trigger.kind = .deviceReturn ∧
      entry.2.trigger.targetDeviceId = targetDeviceId ∧ entry.2.purpose = .primary).map
    fun entry => (entry.1, entry.2.sequence)

/-- Enqueues a single primary return, which takes the place of an older one of the same device. -/
def schedulePrimaryReturn (receiverId : ReceiverId) (generationId : GenerationId)
    (targetDeviceId : Option LogicalDeviceId) (sequence : Option SequenceNumber) (due : MonotonicMs) :
    SchedulerM Unit := do
  let scheduler ← get
  if scheduler.enabled = false then
    pure ()
  else
    let scheduler := (wake receiverId generationId targetDeviceId due scheduler).2
    set scheduler
    if scheduler.hasPendingBroadTrigger receiverId generationId then
      pure ()
    else
      match sameScope receiverId generationId targetDeviceId scheduler with
      | none => insertTrigger .deviceReturn receiverId generationId targetDeviceId sequence due .primary
      | some (existingId, existingSequence) =>
        if sequenceIsNewer sequence existingSequence = false then
          pure ()
        else do
          set { scheduler with triggers := scheduler.triggers.erase existingId }
          insertTrigger .deviceReturn receiverId generationId targetDeviceId sequence due .primary

def scheduleServiceStart (receiverId : ReceiverId) (generationId : GenerationId) : SchedulerM Unit :=
  scheduleBroad .serviceStart receiverId generationId none

def scheduleReceiverGeneration (receiverId : ReceiverId) (generationId : GenerationId) : SchedulerM Unit := do
  modify (clearReadiness receiverId generationId)
  scheduleBroad .receiverGeneration receiverId generationId none

omit [TriggerDigests] in
def scheduleSystemSuspend (receiverId : ReceiverId) (generationId : GenerationId) : SchedulerM Unit :=
  modify fun scheduler =>
    (park receiverId generationId none (clearReadiness receiverId generationId scheduler)).2

def scheduleSystemResume (receiverId : ReceiverId) (generationId : GenerationId)
    (sequence : SequenceNumber) : SchedulerM Unit :=
  scheduleBroad .systemResume receiverId generationId (some sequence)

end Triggers

def scheduleRecordWithDefer (record : RestoreRecord) (due : MonotonicMs) (deferCount : Nat) :
    SchedulerM Unit := do
  let scheduler ← get
  if record.status.isTerminal then
    set { scheduler with claims := scheduler.claims.erase record.claimId }
  else
    refuse (scheduler.claims.contains record.claimId = false ∧
      scheduler.claims.size ≥ scheduler.maxClaims) .claimCapacity
    set { scheduler with
      claims := scheduler.claims.insert record.claimId ⟨record.receiverId, record.generationId,
        record.deviceId, record.revision, due, deferCount⟩ }

def scheduleTriggerRecord (record : RestoreRecord) (triggerKind : RestoreTriggerKind)
    (now : MonotonicMs) : SchedulerM Unit := do
  let scheduler ← get
  let due :=
    if readinessGatedTrigger triggerKind ∨ readinessGatedTrigger record.triggerKind then
      match scheduler.readyDevices[DeviceKey.mk record.receiverId record.generationId record.deviceId]? with
      | none => parkedDue
      | some readyAt => if now < readyAt then readyAt else now
    else
      now
  scheduleRecordWithDefer record due 0

inductive PendingClaimSchedule where
  | at (due : MonotonicMs)
  | trigger (kind : RestoreTriggerKind)

/-- Takes the receiver's pending records over into the claim schedule; how many there are. -/
def synchronizePendingClaims (pending : Except RestorationError (List RestoreRecord))
    (receiverId : ReceiverId) (schedule : PendingClaimSchedule) (now : MonotonicMs) :
    SchedulerM Nat := do
  let pending ← lift .restoration pending
  modify fun scheduler => { scheduler with
    claims := scheduler.claims.filter fun claimId claim =>
      claim.receiverId ≠ receiverId ∨ pending.any (·.claimId = claimId) }
  let _ ← each (fun record => do
    let scheduler ← get
    if scheduler.claims.contains record.claimId then
      pure ()
    else
      match schedule with
      | .at due => scheduleRecordWithDefer record due 0
      | .trigger kind => scheduleTriggerRecord record kind now) pending
  pure pending.length

end RestorationScheduler

end HyperfluxNext
