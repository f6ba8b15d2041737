import HyperfluxNext.Core.EventReads
import HyperfluxNext.Qualification.View

namespace HyperfluxNext

/-- The SHA-256 of the serialized cursor, in lower-case hexadecimal. -/
class CursorDigest where
  cursorSha256 : EventCursor → String

namespace Qualification

inductive EventEvidenceError where
  | historyIncomplete | anchorUnavailable | restoreUnavailable

def EventEvidenceError.message : EventEvidenceError → String
  | .historyIncomplete => "The bridge event history is incomplete for this lifecycle checkpoint."
  | .anchorUnavailable => "The retained lifecycle cursor is no longer available in the bridge event history."
  | .restoreUnavailable =>
    "The exact profile-bound restore event is not visible after this lifecycle checkpoint."

inductive DeviceReturnEvidenceMode where
  | receiverTransition | watchedRetainedRoute
deriving DecidableEq

section Evidence

variable [CursorDigest]

def cursorEvidence (cursor : EventCursor) : EvidenceRef := .bridgeCursor (CursorDigest.cursorSha256 cursor)

@[simp] theorem cursorEvidence_isCursor (cursor : EventCursor) : (cursorEvidence cursor).isCursor = true := rfl

def cursorAt (template : EventCursor) (sequence : Nat) : Option EventCursor :=
  (Bounded.tryFrom 0 u64Max sequence).map fun sequence => { template with sequence := sequence }

/-- The position in the retained history that this evidence is the cursor of. -/
def anchorOf (batch : EventBatch) (evidence : EvidenceRef) : Option Nat :=
  let lower := batch.oldestAvailable.get - 1
  (List.range' lower (batch.latestAvailable.get + 1 - lower)).find? fun sequence =>
    (cursorAt batch.nextCursor sequence).any fun candidate => cursorEvidence candidate = evidence

def latestAnchorSequence (batch : EventBatch) (evidenceRefs : List EvidenceRef) : Except EventEvidenceError Nat :=
  if batch.cursorGap ∨ batch.hasMore then .error .historyIncomplete else
    match (evidenceRefs.reverse.filter (·.isCursor)).findSome? (anchorOf batch) with
    | none => .error .anchorUnavailable
    | some sequence => .ok sequence

def eventsAfter (batch : EventBatch) (anchor : Nat) : List BridgeEvent :=
  batch.events.filter fun event => anchor < event.sequence.get

def matchesReceiver (event : BridgeEvent) (receiverId : String) : Bool :=
  event.receiverId.map (·.asStr) = some receiverId

def matchesIdentity (event : BridgeEvent) (receiverId : String) (generationId : Nat)
    (deviceId : Option String) : Bool :=
  matchesReceiver event receiverId ∧ event.generationId.map (·.get) = some generationId ∧
    deviceId.all fun expected => event.deviceId.map (·.asStr) = some expected

def restoreEvidence (sequence : Nat) (deviceId : String) : EvidenceRef := .bridgeRestoreEvent sequence deviceId

def completesRestore (event : BridgeEvent) : Bool := event.kind = .restoreCompleted ∧ event.transactionId.isSome

/-- What the walk over the device's events has seen. -/
structure ReturnWalk where
  departed : Bool
  returned : Bool

def walkReturn (mode : DeviceReturnEvidenceMode) (deviceId : String) :
    ReturnWalk → List BridgeEvent → Except EventEvidenceError EvidenceRef
  | _, [] => .error .restoreUnavailable
  | walk, event :: events =>
    if mode = .watchedRetainedRoute ∧ completesRestore event then
      .ok (restoreEvidence event.sequence.get deviceId)
    else if event.kind = .deviceSleeping ∨ event.kind = .deviceUnavailable then
      walkReturn mode deviceId ⟨true, false⟩ events
    else if event.kind = .deviceAvailable ∧ walk.departed then
      walkReturn mode deviceId { walk with returned := true } events
    else if completesRestore event ∧ walk.returned then
      .ok (restoreEvidence event.sequence.get deviceId)
    else
      walkReturn mode deviceId walk events

def deviceReturnRestore (batch : EventBatch) (evidenceRefs : List EvidenceRef) (receiverId : String)
    (generationId : Nat) (deviceId : String) (mode : DeviceReturnEvidenceMode) :
    Except EventEvidenceError EvidenceRef := do
  let anchor ← latestAnchorSequence batch evidenceRefs
  walkReturn mode deviceId ⟨false, false⟩
    ((eventsAfter batch anchor).filter fun event =>
      matchesIdentity event receiverId generationId (some deviceId))

def allDeviceRestoresAfter (batch : EventBatch) (anchor : Nat) (receiverId : String)
    (generationId : Nat) (deviceIds : List String) : Except EventEvidenceError (List EvidenceRef) :=
  deviceIds.mapM fun deviceId =>
    match (eventsAfter batch anchor).find? fun event =>
      completesRestore event ∧ matchesIdentity event receiverId generationId (some deviceId) with
    | none => .error .restoreUnavailable
    | some event => .ok (restoreEvidence event.sequence.get deviceId)

def firstAfter (batch : EventBatch) (anchor : Nat) (property : BridgeEvent → Bool) :
    Except EventEvidenceError Nat :=
  match (eventsAfter batch anchor).find? property with
  | none => .error .restoreUnavailable
  | some event => .ok event.sequence.get

def startsGeneration (receiverId : String) (generationId : Nat) (event : BridgeEvent) : Bool :=
  matchesIdentity event receiverId generationId none ∧
    (event.kind = .generationReplaced ∨ event.kind = .receiverAvailable)

def renewedGenerationRestores (batch : EventBatch) (evidenceRefs : List EvidenceRef)
    (receiverId : String) (generationId : Nat) (deviceIds : List String) :
    Except EventEvidenceError (List EvidenceRef) := do
  let anchor ← latestAnchorSequence batch evidenceRefs
  let generationStart ← firstAfter batch anchor (startsGeneration receiverId generationId)
  allDeviceRestoresAfter batch generationStart receiverId generationId deviceIds

end Evidence

end Qualification

end HyperfluxNext
