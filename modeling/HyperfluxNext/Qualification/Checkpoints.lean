import HyperfluxNext.Qualification.Lifecycle

namespace HyperfluxNext

namespace Qualification

open Procedure

def physicalObservation (prompt : String) : ObservationPrompt :=
  ⟨"physical", prompt, outcomeChoices "Physical state matches" "Physical state differs"⟩

def lifecycleControls : ObservationPrompt :=
  ⟨"controls", "Do all available controllers' ordinary controls still work correctly?",
    outcomeChoices "Controls work" "A control changed"⟩

def lifecycleObservations (prompt : String) (hasSiblings : Bool) : List ObservationPrompt :=
  [physicalObservation prompt, lifecycleControls] ++
    if hasSiblings then
      [⟨"siblings", "Did every sibling controller remain isolated and responsive?",
        outcomeChoices "Siblings remained correct" "A sibling changed"⟩]
    else []

def deviceReturnCheckpoint (evidenceRefs : List EvidenceRef) (hasSiblings : Bool) : StageCheckpoint :=
  { checkpointId := "device-return"
    instructions := [
      "Wake or power on the selected controller and exercise its ordinary controls.",
      "Wait for its saved solid-blue state to return, then record this checkpoint once."]
    observations := lifecycleObservations
      "Did the selected controller return with solid blue lighting?" hasSiblings
    evidenceRefs := evidenceRefs }

def receiverDepartureCheckpoint (evidenceRefs : List EvidenceRef) : StageCheckpoint :=
  { checkpointId := "receiver-departure"
    instructions := [
      "Unplug only the HyperFlux receiver. The retained campaign will remain visible while its generation is absent.",
      "After the receiver and both controller routes disappear, record this checkpoint once."]
    observations := [physicalObservation "Was the exact HyperFlux receiver physically unplugged?"]
    evidenceRefs := evidenceRefs }

def receiverReturnCheckpoint (evidenceRefs : List EvidenceRef) (hasSiblings : Bool) : StageCheckpoint :=
  { checkpointId := "receiver-return"
    instructions := [
      "Replug the receiver, wake every paired qualified controller, and exercise the selected controller.",
      "Wait for a newer generation and the saved solid-blue state, then record this checkpoint once."]
    observations := lifecycleObservations
      "Did the selected controller return with solid blue lighting on the renewed receiver?"
      hasSiblings
    evidenceRefs := evidenceRefs }

def systemSuspendCheckpoint (evidenceRefs : List EvidenceRef) : StageCheckpoint :=
  { checkpointId := "system-suspend-authorization"
    instructions := [
      "Save unrelated work. The next action requests exactly one system suspend and never repeats it automatically.",
      "Wake the computer normally after it suspends; the private checkpoint survives the request."]
    observations := []
    evidenceRefs := evidenceRefs }

def systemResumePendingCheckpoint (evidenceRefs : List EvidenceRef) : StageCheckpoint :=
  { checkpointId := "system-resume-pending"
    instructions := [
      "The authorized suspend is in progress. Wake this computer normally and wait for the bridge and controller routes to return."]
    observations := []
    evidenceRefs := evidenceRefs }

def awaiting (checkpoint : StageCheckpoint) : RunnerTransition :=
  ⟨⟨.awaitingObservation, none, some checkpoint⟩, false⟩

def finished (status : StageStatus) (summary : String) (evidenceRefs : List EvidenceRef) : RunnerTransition :=
  ⟨⟨status, some ⟨summary, evidenceRefs⟩, none⟩, false⟩

def retryableFailure (status : StageStatus) (summary : String) (evidenceRefs : List EvidenceRef) :
    RunnerTransition :=
  ⟨⟨status, some ⟨summary, evidenceRefs⟩, some (systemSuspendCheckpoint evidenceRefs)⟩, false⟩

def LifecycleRunState.hasSiblings (run : LifecycleRunState) : Bool := run.plans.length > 1

def LifecycleRunState.enter (run : LifecycleRunState) (active : LifecycleStageState)
    (phase : LifecyclePhase) (evidenceRefs : List EvidenceRef) : LifecycleRunState :=
  { run with active := some { active with phase := phase, evidenceRefs := evidenceRefs } }

def LifecycleRunState.finish (run : LifecycleRunState) : LifecycleRunState := { run with active := none }

def startedStage (stage : QualificationStage) (plan : QualificationPlan) (device : DeviceView)
    (observation : LifecycleObservation) : LifecycleStageState :=
  { stageId := stage.stageId
    deviceId := plan.deviceId
    deviceKind := device.kind
    phase := .deviceDeparture
    baselineGenerationId := observation.generationId.getD 0
    evidenceRefs := .receiverGeneration (observation.generationId.getD 0) :: observation.cursorRef.toList
    suspendStamp := none }

section Campaign

variable [CursorDigest] [LifecycleProfiles]

def deviceDepartureCheckpoint (run : LifecycleRunState) (evidenceRefs : List EvidenceRef) : StageCheckpoint :=
  if retainedRouteDepartureAllowed run = .ok true then
    { checkpointId := "device-departure"
      instructions := [
        "Switch the selected controller off with its physical power control. Keep every sibling controller awake.",
        "Confirm the selected controller is unlit. Its receiver route may remain listed for this exact profile; do not wait for an invented disconnect."]
      observations := lifecycleObservations
        "Is the selected controller physically powered off and unlit?" run.hasSiblings
      evidenceRefs := evidenceRefs }
  else
    { checkpointId := "device-departure"
      instructions := [
        "Power off the selected controller or allow it to enter its normal sleep state. Keep every sibling controller awake.",
        "Wait until the selected controller is unlit, then record this checkpoint once."]
      observations := lifecycleObservations "Is the selected controller asleep or powered off?" run.hasSiblings
      evidenceRefs := evidenceRefs }

def startLifecycleStage (run : LifecycleRunState) (stage : QualificationStage)
    (observation : LifecycleObservation) :
    LifecycleResult (LifecycleRunState × RunnerTransition) := do
  reject (run.active.isSome = true) ⟨"Another lifecycle stage is already active in this receiver campaign."⟩
  let plan ← okOr (run.plans.find? (stageBelongsToPlan · stage))
    "The lifecycle stage does not belong to the retained receiver campaign."
  let device ← okOr (run.device plan.deviceId) "The lifecycle target is no longer retained."
  reject ((device.kind ≠ .mouse ∧ device.kind ≠ .keyboard) ∨
      (stage.risk ≠ .deviceLifecycle ∧ stage.risk ≠ .systemLifecycle))
    ⟨"This stage is not a supported controller lifecycle campaign."⟩
  validateReadyIdentity run plan.deviceId observation
  reject (observation.stableRestoreEnabled = false)
    ⟨"Stable restoration is disabled; enable it before a watched lifecycle campaign."⟩
  let active := startedStage stage plan device observation
  let run : LifecycleRunState := { run with active := some active }
  run.validate
  pure (run, awaiting (deviceDepartureCheckpoint run active.evidenceRefs))

def receiverStateDeparture (selected : ObservedDevice) : Bool :=
  selected.controllerReady = false ∧
    (selected.availability = .sleeping ∨ selected.availability = .unavailable ∨
      selected.availability = .receiverUnavailable)

/-- The profile is consulted only for a controller that still looks ready. -/
def retainedRouteDeparture (run : LifecycleRunState) (selected : ObservedDevice) : LifecycleResult Bool :=
  if selected.controllerReady ∧ selected.availability = .available then
    retainedRouteDepartureAllowed run
  else pure false

def recordDeviceDeparture (run : LifecycleRunState) (observation : LifecycleObservation) :
    LifecycleResult PreparedLifecycleAction := do
  validateSameGeneration run observation
  let active ← okOr run.active noActiveStage
  let selected ← okOr observation.selected
    ("The selected controller " ++ active.deviceId ++ " is not retained in the current receiver inventory.")
  let retained ← retainedRouteDeparture run selected
  reject ((receiverStateDeparture selected = false ∧ retained = false) ∨ siblingsReady run observation = false)
    ⟨"The selected controller has not departed cleanly while its qualified siblings remain ready."⟩
  let departure : EvidenceRef :=
    if retained then .watchedRetainedRoute else .deviceDeparture selected.availability
  let evidenceRefs := active.evidenceRefs ++ departure :: observation.cursorRef.toList
  pure (.record (run.enter active .deviceReturn evidenceRefs)
    (awaiting (deviceReturnCheckpoint evidenceRefs run.hasSiblings)))

def returnMode (evidenceRefs : List EvidenceRef) : DeviceReturnEvidenceMode :=
  if .watchedRetainedRoute ∈ evidenceRefs then .watchedRetainedRoute else .receiverTransition

def evidenceResult {α : Type} : Except EventEvidenceError α → LifecycleResult α
  | .ok value => .ok value
  | .error error => .error ⟨error.message⟩

def recordDeviceReturn (run : LifecycleRunState) (observation : LifecycleObservation) :
    LifecycleResult PreparedLifecycleAction := do
  validateReadyIdentityForActive run observation
  reject (observation.stableRestoreEnabled = false)
    ⟨"The controller returned, but stable restoration is no longer enabled."⟩
  let active ← okOr run.active noActiveStage
  let events ← okOr observation.events eventsUnavailable
  let restore ← evidenceResult (deviceReturnRestore events active.evidenceRefs
    observation.receiverId active.baselineGenerationId active.deviceId
    (returnMode active.evidenceRefs))
  let evidenceRefs := active.evidenceRefs ++ .deviceReturnReady :: restore :: observation.cursorRef.toList
  if active.deviceKind = .keyboard then
    pure (.record (run.enter active .suspendAuthorization evidenceRefs)
      (awaiting (systemSuspendCheckpoint evidenceRefs)))
  else
    pure (.record (run.enter active .receiverDeparture evidenceRefs)
      (awaiting (receiverDepartureCheckpoint evidenceRefs)))

def recordReceiverDeparture (run : LifecycleRunState) (observation : LifecycleObservation) :
    LifecycleResult PreparedLifecycleAction := do
  reject (observation.receiverPresent = true ∧
      observation.receiverLifecycle ≠ some .disconnecting ∧
      observation.receiverLifecycle ≠ some .unknown)
    ⟨"The exact receiver generation has not disappeared yet."⟩
  let active ← okOr run.active noActiveStage
  let evidenceRefs := active.evidenceRefs ++ .receiverDepartureObserved :: observation.cursorRef.toList
  pure (.record (run.enter active .receiverReturn evidenceRefs)
    (awaiting (receiverReturnCheckpoint evidenceRefs run.hasSiblings)))

def recordReceiverReturn (run : LifecycleRunState) (observation : LifecycleObservation) :
    LifecycleResult PreparedLifecycleAction := do
  validateRestoredIdentity run observation true
  let generation ← okOr observation.generationId "The renewed receiver has no generation."
  let active ← okOr run.active noActiveStage
  reject (generation ≤ active.baselineGenerationId) ⟨"Receiver return did not create a newer generation."⟩
  let events ← okOr observation.events eventsUnavailable
  let restores ← evidenceResult (renewedGenerationRestores events active.evidenceRefs
    observation.receiverId generation (run.plans.map (·.deviceId)))
  let evidence := active.evidenceRefs ++ .receiverGeneration generation :: restores ++
    .stableRestoreSucceeded :: observation.cursorRef.toList
  let accepted ← acceptGeneration run observation
  let summary :=
    if run.hasSiblings then
      "Controller return, sibling isolation, and a newer restored receiver generation were confirmed."
    else "Controller return and a newer restored receiver generation were confirmed."
  pure (.record accepted.finish (finished .passed summary evidence))

def prepareSystemSuspend (run : LifecycleRunState) (observation : LifecycleObservation)
    (stamp : LifecycleResult SuspendStamp) : LifecycleResult PreparedLifecycleAction := do
  validateReadyIdentityForActive run observation
  let stamp ← stamp
  let active ← okOr run.active noActiveStage
  reject (active.phase ≠ .suspendAuthorization) ⟨"The lifecycle campaign is not awaiting a system suspend."⟩
  let evidenceRefs := active.evidenceRefs ++ .systemSuspendAuthorized :: observation.cursorRef.toList
  pure (.suspend
    (run.enter { active with suspendStamp := some stamp } .systemResumePending evidenceRefs)
    ⟨⟨.running, none, some (systemResumePendingCheckpoint evidenceRefs)⟩, false⟩)

def recordSystemResume (run : LifecycleRunState) (observation : LifecycleObservation) :
    LifecycleResult PreparedLifecycleAction := do
  validateRestoredIdentity run observation false
  let active ← okOr run.active noActiveStage
  reject (active.phase ≠ .systemResumeObservation)
    ⟨"A measured system resume has not reached its observation checkpoint."⟩
  let summary :=
    if run.hasSiblings then
      "Controller return, sibling isolation, measured suspend, and restored system resume were confirmed."
    else "Controller return, measured suspend, and restored system resume were confirmed."
  pure (.record run.finish (finished .passed summary (active.evidenceRefs ++ [.stableRestoreSucceeded])))

def verdictStatus (verdict : ObservationVerdict) : StageStatus :=
  if verdict = .fail then .failed else .blocked

def verdictSummary (verdict : ObservationVerdict) : String :=
  if verdict = .fail then
    "A watched lifecycle result did not match the required physical state."
  else "The watched lifecycle result was inconclusive; no physical step was repeated."

def retryEvidence (evidenceRefs : List EvidenceRef) : List EvidenceRef :=
  if .systemResumeRetryReady ∈ evidenceRefs then evidenceRefs
  else evidenceRefs ++ [.systemResumeRetryReady]

/-- A result that did not match its checkpoint. Only a measured resume can be tried again. -/
def recordMismatch (run : LifecycleRunState) (active : LifecycleStageState)
    (checkpoint : StageCheckpoint) (verdict : ObservationVerdict) : PreparedLifecycleAction :=
  if checkpoint.checkpointId = "system-resume-observation" then
    let evidence := retryEvidence active.evidenceRefs
    .record (run.enter { active with suspendStamp := none } .suspendAuthorization evidence)
      (retryableFailure (verdictStatus verdict) (verdictSummary verdict) evidence)
  else
    .record run.finish (finished (verdictStatus verdict) (verdictSummary verdict) active.evidenceRefs)

/-- Records the checkpoint that was passed. -/
def recordCheckpoint (checkpointId : String) (run : LifecycleRunState)
    (observation : LifecycleObservation) (stamp : LifecycleResult SuspendStamp) :
    LifecycleResult PreparedLifecycleAction :=
  if checkpointId = "device-departure" then recordDeviceDeparture run observation
  else if checkpointId = "device-return" then recordDeviceReturn run observation
  else if checkpointId = "receiver-departure" then recordReceiverDeparture run observation
  else if checkpointId = "receiver-return" then recordReceiverReturn run observation
  else if checkpointId = "system-suspend-authorization" then
    prepareSystemSuspend run observation stamp
  else if checkpointId = "system-resume-observation" then recordSystemResume run observation
  else .error ⟨"The lifecycle checkpoint is not recognized; no physical step was repeated."⟩

def prepareLifecycleCheckpoint (run : LifecycleRunState) (stage : QualificationStage)
    (current : StageProgress) (verdict : ObservationVerdict) (observation : LifecycleObservation)
    (stamp : LifecycleResult SuspendStamp) : LifecycleResult PreparedLifecycleAction := do
  let checkpoint ← okOr current.checkpoint
    "The lifecycle stage has no resumable checkpoint; no action was repeated."
  let active ← okOr run.active noActiveStage
  reject (active.stageId ≠ stage.stageId) ⟨"The watched checkpoint belongs to a different lifecycle stage."⟩
  if verdict ≠ .pass then pure (recordMismatch run active checkpoint verdict)
  else recordCheckpoint checkpoint.checkpointId run observation stamp

end Campaign

end Qualification

end HyperfluxNext
