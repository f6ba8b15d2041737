import HyperfluxNext.Qualification.ReturnEvidence
import HyperfluxNext.Qualification.Transitions

namespace HyperfluxNext

namespace Qualification

open Procedure List

section Anchored

variable [CursorDigest] {log : BoundedEventLog} (subscriptionId : SubscriptionId)

theorem latestAnchorSequence_departed (hdistinct : DistinctCursors log) {started : EvidenceRef}
    {departure : EvidenceRef} (hstarted : started.isCursor = false)
    (hdeparture : departure.isCursor = false) {earlier later : SequenceNumber}
    (horder : earlier ≤ later) (hpast : later ≤ log.latest) (anchor : Nat) :
    latestAnchorSequence (log.retainedEvents subscriptionId)
        [started, cursorEvidence { log.cursor with sequence := earlier }, departure,
          cursorEvidence { log.cursor with sequence := later }] = .ok anchor ↔
      anchor = later.get ∧ log.oldest.get - 1 ≤ later.get := by
  have hlater := anchorOf_iff subscriptionId hdistinct hpast
  have hearlier := anchorOf_iff subscriptionId hdistinct (Nat.le_trans horder hpast)
  have hrefs : [started, cursorEvidence { log.cursor with sequence := earlier }, departure,
      cursorEvidence { log.cursor with sequence := later }].reverse.filter (·.isCursor) =
      [cursorEvidence { log.cursor with sequence := later },
        cursorEvidence { log.cursor with sequence := earlier }] := by
    simp [filter_cons, hstarted, hdeparture]
  have horder' : earlier.get ≤ later.get := horder
  have hcomplete : ¬ ((log.retainedEvents subscriptionId).cursorGap = true ∨
      (log.retainedEvents subscriptionId).hasMore = true) := by
    simp [BoundedEventLog.retainedEvents]
  unfold latestAnchorSequence
  rw [if_neg hcomplete, hrefs, findSome?_cons, findSome?_cons]
  by_cases hkept : log.oldest.get - 1 ≤ later.get
  · rw [(hlater later.get).mpr ⟨rfl, hkept⟩]
    constructor
    · intro h
      cases h
      exact ⟨rfl, hkept⟩
    intro h
    rw [h.1]
  have hnone : anchorOf (log.retainedEvents subscriptionId)
      (cursorEvidence { log.cursor with sequence := later }) = none := by
    rw [Option.eq_none_iff_forall_ne_some]
    intro number hnumber
    exact hkept ((hlater number).mp hnumber).2
  have hnone' : anchorOf (log.retainedEvents subscriptionId)
      (cursorEvidence { log.cursor with sequence := earlier }) = none := by
    rw [Option.eq_none_iff_forall_ne_some]
    intro number hnumber
    exact hkept (Nat.le_trans ((hearlier number).mp hnumber).2 horder')
  rw [hnone, hnone']
  constructor
  · intro h
    cases h
  intro h
  exact absurd h.2 hkept

end Anchored

/-- The observation a console makes of one moment of the log. -/
def observeAt [CursorDigest] (log : BoundedEventLog) (subscriptionId : SubscriptionId)
    (receivers : List IntegrationReceiverView) (run : LifecycleRunState) (deviceId : String) :
    LifecycleObservation :=
  observeLifecycle (some ⟨⟨log.cursor, receivers⟩, log.retainedEvents subscriptionId⟩) run deviceId

def ownEvents (run : LifecycleRunState) (active : LifecycleStageState)
    (events : List BridgeEvent) : List BridgeEvent :=
  events.filter fun event =>
    matchesIdentity event run.receiver.receiverId active.baselineGenerationId (some active.deviceId)

/-- The log after the later position is what was appended since. -/
theorem eventsAfter_appended {earlier appended : List BridgeEvent} {log : BoundedEventLog}
    (subscriptionId : SubscriptionId) (h : Numbered (earlier ++ appended) log)
    (hkept : log.oldest.get - 1 ≤ earlier.length) :
    eventsAfter (log.retainedEvents subscriptionId) earlier.length = appended := by
  have hwindow := filter_numbered (·.sequence.get) earlier.length log.events _ h.retained_numbers
  have hretained := h.retained
  have hheld := h.held
  have hlatest := h.latest
  have hpred := h.oldest_pred
  rw [length_append] at hretained hheld hlatest hpred
  have hdrop : log.events = (earlier ++ appended).drop
      (earlier.length + appended.length - log.events.length) := hretained
  unfold eventsAfter BoundedEventLog.retainedEvents
  dsimp only
  rw [hwindow, hdrop, drop_drop, ← hdrop]
  rw [show earlier.length + appended.length - log.events.length +
    (earlier.length + 1 - (log.latest.get - log.events.length + 1)) = earlier.length by omega]
  exact drop_left

section Campaign

variable [CursorDigest] [LifecycleProfiles] {streamId : StreamId} {streamEpoch : StreamEpoch}
  {projectionRevision : ProjectionRevision} {capacity : Nat} {departed run : LifecycleRunState}
  {transition : RunnerTransition} {active : LifecycleStageState} {stage : QualificationStage}
  {log : BoundedEventLog}

omit [LifecycleProfiles] in
/-- The return is recorded exactly when the device is ready and the walk after the anchor ends. -/
theorem recordDeviceReturn_iff (hactive : run.active = some active) {observation : LifecycleObservation}
    {events : EventBatch} (hevents : observation.events = some events) :
    (∃ action, recordDeviceReturn run observation = .ok action) ↔
      validateReadyIdentityForActive run observation = .ok () ∧
      observation.stableRestoreEnabled = true ∧
      ∃ anchor, latestAnchorSequence events active.evidenceRefs = .ok anchor ∧
        ∃ restore, walkReturn (returnMode active.evidenceRefs) active.deviceId ⟨false, false⟩
          ((eventsAfter events anchor).filter fun event => matchesIdentity event
            observation.receiverId active.baselineGenerationId (some active.deviceId)) =
          .ok restore := by
  constructor
  · intro h
    obtain ⟨action, h⟩ := h
    obtain ⟨other, batch, restore, hother, hready, hstable, hbatch, hrestore, -⟩ := recordDeviceReturn_ok h
    rw [hactive] at hother
    cases hother
    rw [hevents] at hbatch
    cases hbatch
    obtain ⟨anchor, hanchor, hwalk⟩ := bind_eq_ok hrestore
    exact ⟨hready, hstable, anchor, hanchor, restore, hwalk⟩
  intro h
  obtain ⟨hready, hstable, anchor, hanchor, restore, hwalk⟩ := h
  have hrestore : deviceReturnRestore events active.evidenceRefs observation.receiverId
      active.baselineGenerationId active.deviceId (returnMode active.evidenceRefs) =
      .ok restore := by
    unfold deviceReturnRestore
    rw [hanchor]
    exact hwalk
  unfold recordDeviceReturn
  rw [hready, reject_of_not (by rw [hstable]; decide), hactive, hevents]
  simp only [okOr, bind, Except.bind, hrestore, evidenceResult]
  split
  · exact ⟨_, rfl⟩
  · exact ⟨_, rfl⟩

/-- What a started stage has kept once its departure is recorded. -/
structure Departed (run : LifecycleRunState) (started departure : EventCursor)
    (active : LifecycleStageState) (transition : RunnerTransition) : Prop where
  current : run.active = some active
  refs : ∃ generation gone, EvidenceRef.isCursor gone = false ∧ active.evidenceRefs =
    [.receiverGeneration generation, cursorEvidence started, gone, cursorEvidence departure]
  awaits : ∃ checkpoint, transition.progress.checkpoint = some checkpoint ∧
    checkpoint.checkpointId = "device-return"

theorem departed_of_recorded {run' : LifecycleRunState} {later : BoundedEventLog}
    {subscriptionId subscriptionId' : SubscriptionId} {receivers receivers' : List IntegrationReceiverView}
    {deviceId : String} {startTransition : RunnerTransition} {stamp : LifecycleResult SuspendStamp}
    (hstart : startLifecycleStage run stage
      (observeAt log subscriptionId receivers run deviceId) = .ok (run', startTransition))
    (hactive : run'.active = some active)
    (hdeparture : prepareLifecycleCheckpoint run' stage startTransition.progress .pass
      (observeAt later subscriptionId' receivers' run' active.deviceId) stamp =
        .ok (.record departed transition)) :
    ∃ departedStage, Departed departed log.cursor later.cursor departedStage transition ∧
      departedStage.stageId = stage.stageId ∧ departedStage.deviceId = active.deviceId ∧
      departedStage.baselineGenerationId = active.baselineGenerationId ∧
      departed.receiver = run'.receiver := by
  obtain ⟨plan, device, -, -, -, -, -, -, hrun, -, rfl⟩ := startLifecycleStage_ok hstart
  obtain ⟨checkpoint, other, hcheckpoint, hother, hstage, hverdict | ⟨-, hrecord⟩⟩ :=
    prepareLifecycleCheckpoint_ok hdeparture
  · exact absurd rfl hverdict.1
  rw [hactive] at hother
  cases hother
  cases Option.some.inj hcheckpoint
  rw [deviceDepartureCheckpoint_id] at hrecord
  obtain ⟨other, gone, hother, -, hgone, -, haction⟩ := recordDeviceDeparture_ok hrecord
  rw [hactive] at hother
  cases hother
  have hactive := hactive
  rw [hrun] at hactive
  cases hactive
  cases haction
  exact ⟨_, ⟨rfl, ⟨_, gone, hgone, rfl⟩, _, rfl, rfl⟩, hstage, rfl, rfl, rfl⟩

/-- The controller still looked ready when its departure was recorded, and its profile lets the
route stay listed. -/
def RetainedDeparture (run : LifecycleRunState) : Prop :=
  ∃ active, run.active = some active ∧ .watchedRetainedRoute ∈ active.evidenceRefs

/-- The device left before the departure was recorded, it came back and was restored afterwards,
all of it is still retained, and the device is ready. -/
structure TrueReturn (run : LifecycleRunState) (active : LifecycleStageState)
    (log : BoundedEventLog) (departing returning : List BridgeEvent)
    (observation : LifecycleObservation) : Prop where
  left : ∃ event ∈ ownEvents run active departing, DepartsAt event ∧ log.oldest.get ≤ event.sequence.get
  back : ∃ before back middle restore after,
    ownEvents run active returning = before ++ back :: middle ++ restore :: after ∧
      back.kind = .deviceAvailable ∧ completesRestore restore = true
  ready : validateReadyIdentityForActive run observation = .ok ()

omit [CursorDigest] [LifecycleProfiles] in
theorem kept_of_left {history returning : List BridgeEvent} (h : Numbered (history ++ returning) log)
    {event : BridgeEvent} (hevent : event ∈ history) (hkept : log.oldest.get ≤ event.sequence.get)
    : log.oldest.get - 1 ≤ history.length := by
  obtain ⟨position, hposition, rfl⟩ := getElem_of_mem hevent
  have hnumber : ((history ++ returning).map (·.sequence.get))[position]? =
      some (history[position].sequence.get) := by
    rw [getElem?_map, getElem?_append_left hposition, getElem?_eq_getElem hposition]
    rfl
  rw [h.numbers, getElem?_range'] at hnumber
  · have hvalue := Option.some.inj hnumber
    omega
  rw [length_append]
  omega

section Moments

variable {before departing returning : List BridgeEvent} {startLog departureLog returnLog : BoundedEventLog}
  (hbefore : LogReach streamId streamEpoch projectionRevision capacity before startLog)
  (hdeparting : LogReach streamId streamEpoch projectionRevision capacity (before ++ departing) departureLog)
  (hreturning : LogReach streamId streamEpoch projectionRevision capacity (before ++ departing ++ returning) returnLog)
  {stageState : LifecycleStageState}

include hbefore hdeparting hreturning

omit [LifecycleProfiles] in
theorem departed_anchor (hdistinct : DistinctCursors returnLog)
    (hdeparted : Departed departed startLog.cursor departureLog.cursor stageState transition)
    (subscriptionId : SubscriptionId) (anchor : Nat) :
    latestAnchorSequence (returnLog.retainedEvents subscriptionId) stageState.evidenceRefs = .ok anchor ↔
      anchor = (before ++ departing).length ∧ returnLog.oldest.get - 1 ≤ (before ++ departing).length := by
  obtain ⟨generation, gone, hgone, hrefs⟩ := hdeparted.refs
  have hnumbered := logReach_numbered hreturning
  have hstarts := logReach_numbered hbefore
  have hfirst : departureLog.latest.get = (before ++ departing).length := (logReach_numbered hdeparting).latest
  have hlength : (before ++ departing ++ returning).length =
      (before ++ departing).length + returning.length := length_append
  have hpast : departureLog.latest ≤ returnLog.latest := by
    rw [Bounded.le_iff, hfirst, hnumbered.latest, hlength]
    omega
  have horder : startLog.latest ≤ departureLog.latest := by
    rw [Bounded.le_iff, hfirst, hstarts.latest, length_append]
    omega
  rw [hrefs, logReach_cursor hbefore hreturning, logReach_cursor hdeparting hreturning, ← hfirst]
  exact latestAnchorSequence_departed subscriptionId hdistinct rfl hgone horder hpast anchor

theorem return_recorded_iff (hdistinct : DistinctCursors returnLog) (stamp : LifecycleResult SuspendStamp)
    (subscriptionId : SubscriptionId) (receivers : List IntegrationReceiverView)
    (hdeparted : Departed departed startLog.cursor departureLog.cursor stageState transition)
    (hstage : stageState.stageId = stage.stageId) :
    let observation := observeAt returnLog subscriptionId receivers departed stageState.deviceId
    (∃ returned transition', prepareLifecycleCheckpoint departed stage transition.progress .pass
        observation stamp = .ok (.record returned transition')) ↔
      validateReadyIdentityForActive departed observation = .ok () ∧
      observation.stableRestoreEnabled = true ∧
      returnLog.oldest.get - 1 ≤ (before ++ departing).length ∧
      ∃ restore, walkReturn (returnMode stageState.evidenceRefs) stageState.deviceId
        ⟨false, false⟩ (ownEvents departed stageState returning) = .ok restore := by
  intro observation
  obtain ⟨checkpoint, hcheckpoint, hid⟩ := hdeparted.awaits
  have hanchor := departed_anchor hbefore hdeparting hreturning hdistinct hdeparted subscriptionId
  have hnumbered := logReach_numbered hreturning
  have hprepare := prepareLifecycleCheckpoint_pass observation stamp hcheckpoint hdeparted.current hstage
  have hdispatch : recordCheckpoint checkpoint.checkpointId departed observation stamp =
      recordDeviceReturn departed observation := by
    rw [hid]
    rfl
  have hiff := recordDeviceReturn_iff hdeparted.current
    (show observation.events = some (returnLog.retainedEvents subscriptionId) from rfl)
  rw [hprepare, hdispatch]
  constructor
  · intro h
    obtain ⟨returned, transition', h⟩ := h
    obtain ⟨hready, hstable, anchor, hat, restore, hwalk⟩ := hiff.mp ⟨_, h⟩
    obtain ⟨rfl, hkept⟩ := (hanchor anchor).mp hat
    rw [eventsAfter_appended subscriptionId hnumbered hkept] at hwalk
    exact ⟨hready, hstable, hkept, restore, hwalk⟩
  intro h
  obtain ⟨hready, hstable, hkept, restore, hwalk⟩ := h
  rw [← eventsAfter_appended subscriptionId hnumbered hkept] at hwalk
  obtain ⟨action, haction⟩ := hiff.mpr ⟨hready, hstable, _, (hanchor _).mpr ⟨rfl, hkept⟩, restore, hwalk⟩
  obtain ⟨_, _, _, _, _, _, _, _, ⟨_, hrecord⟩ | ⟨_, hrecord⟩⟩ := recordDeviceReturn_ok haction
  · exact ⟨_, _, haction.trans (congrArg _ hrecord)⟩
  · exact ⟨_, _, haction.trans (congrArg _ hrecord)⟩

/-- A return is recorded exactly when stable restoration is still on and, off a retained route,
the device left once more after its departure was recorded. -/
theorem deviceReturn_recorded (hdistinct : DistinctCursors returnLog)
    {run started departed : LifecycleRunState} {stage : QualificationStage}
    {receivers receivers' : List IntegrationReceiverView} {deviceId : String}
    {subscriptionId subscriptionId' : SubscriptionId}
    {startTransition departureTransition : RunnerTransition}
    {active : LifecycleStageState} {stamp : LifecycleResult SuspendStamp}
    (receivers'' : List IntegrationReceiverView) (subscriptionId'' : SubscriptionId)
    (stamp' : LifecycleResult SuspendStamp)
    (hstart : startLifecycleStage run stage
      (observeAt startLog subscriptionId receivers run deviceId) = .ok (started, startTransition))
    (hactive : started.active = some active)
    (hdeparture : prepareLifecycleCheckpoint started stage startTransition.progress .pass
      (observeAt departureLog subscriptionId' receivers' started active.deviceId) stamp =
        .ok (.record departed departureTransition)) :
    let observation := observeAt returnLog subscriptionId'' receivers'' departed active.deviceId
    let Recorded := ∃ returned transition, prepareLifecycleCheckpoint departed stage
      departureTransition.progress .pass observation stamp' = .ok (.record returned transition)
    (TrueReturn departed active returnLog departing returning observation →
      (Recorded ↔ observation.stableRestoreEnabled = true ∧
        (RetainedDeparture departed ∨ DepartedIn (ownEvents departed active returning)))) ∧
    (Recorded → ¬ RetainedDeparture departed →
      DepartedIn (ownEvents departed active (departing ++ returning))) := by
  intro observation Recorded
  obtain ⟨stageState, hdeparted, hstage, hdevice, hbaseline, -⟩ :=
    departed_of_recorded hstart hactive hdeparture
  have hown : ∀ events, ownEvents departed stageState events = ownEvents departed active events := by
    intro events
    unfold ownEvents
    rw [hbaseline, hdevice]
  have hiff := return_recorded_iff hbefore hdeparting hreturning hdistinct stamp' subscriptionId''
    receivers'' hdeparted hstage
  rw [hdevice, hown] at hiff
  have hretained : RetainedDeparture departed ↔ .watchedRetainedRoute ∈ stageState.evidenceRefs := by
    constructor
    · intro h
      obtain ⟨other, hother, hmem⟩ := h
      rw [hdeparted.current] at hother
      cases hother
      exact hmem
    intro h
    exact ⟨stageState, hdeparted.current, h⟩
  have hwalk : (∃ restore, walkReturn (returnMode stageState.evidenceRefs) active.deviceId
        ⟨false, false⟩ (ownEvents departed active returning) = .ok restore) ↔
      (RetainedDeparture departed ∧
        ∃ event ∈ ownEvents departed active returning, completesRestore event = true) ∨
      (¬ RetainedDeparture departed ∧ DepartedIn (ownEvents departed active returning)) := by
    by_cases hmode : .watchedRetainedRoute ∈ stageState.evidenceRefs
    · simp only [returnMode, hmode, ↓reduceIte, walkReturn_retained, hretained, true_and,
        not_true_eq_false, false_and, or_false]
    simp only [returnMode, hmode, ↓reduceIte, hretained, false_and, not_false_eq_true, true_and, false_or]
    exact walkReturn_transition _ _ (fun h => by cases h)
  constructor
  · intro htrue
    obtain ⟨gone, hgone, -, hretain⟩ := htrue.left
    obtain ⟨earlier, back, middle, restore, after, hback, -, hrestore⟩ := htrue.back
    have hkept : returnLog.oldest.get - 1 ≤ (before ++ departing).length :=
      kept_of_left (logReach_numbered hreturning) (mem_append_right _ (mem_filter.mp hgone).1) hretain
    have hrestored : ∃ event ∈ ownEvents departed active returning, completesRestore event = true := by
      refine ⟨restore, ?_, hrestore⟩
      rw [hback]
      simp
    have hready : validateReadyIdentityForActive departed
        (observeAt returnLog subscriptionId'' receivers'' departed active.deviceId) = .ok () :=
      htrue.ready
    show Recorded ↔ _
    rw [show Recorded ↔ _ from hiff, hwalk]
    by_cases hmode : RetainedDeparture departed
    · simp only [hready, hkept, hmode, hrestored, true_and, and_true, not_true_eq_false,
        false_and, or_false, true_or]
      exact Iff.rfl
    simp only [hready, hkept, hmode, true_and, false_and, not_false_eq_true, false_or]
    exact Iff.rfl
  · intro hrecorded hmode
    obtain ⟨-, -, -, hends⟩ := hiff.mp hrecorded
    obtain ⟨hmode', -⟩ | ⟨-, hdeparts⟩ := hwalk.mp hends
    · exact absurd hmode' hmode
    have happend : ownEvents departed active (departing ++ returning) =
        ownEvents departed active departing ++ ownEvents departed active returning := by
      unfold ownEvents
      exact filter_append ..
    rw [happend]
    exact hdeparts.append _

end Moments

end Campaign

section Samples

/-- A digest that tells the positions of one stream apart. -/
@[reducible] def positionDigest : CursorDigest where
  cursorSha256 cursor := String.ofList (List.replicate cursor.sequence.get 'a')

@[reducible] def noProfiles : LifecycleProfiles where
  profileById _ := none

theorem positionDigest_distinct (log : BoundedEventLog) : @DistinctCursors positionDigest log := by
  intro sequence other _ _ hdigest
  have hlist : (String.ofList (List.replicate sequence.get 'a')).toList =
      (String.ofList (List.replicate other.get 'a')).toList := congrArg String.toList hdigest
  rw [String.toList_ofList, String.toList_ofList] at hlist
  have hlength := congrArg List.length hlist
  rw [length_replicate, length_replicate] at hlength
  exact Bounded.ext_get hlength

def consoleStream : StreamId := .lit "stream"

def consoleReceiver : ReceiverId := .lit "receiver"

def consoleMouse : LogicalDeviceId := .lit "mouse"

def consoleGeneration : GenerationId := .lit 7

def consoleSubscription : SubscriptionId := .lit "console"

def mouseDraft (kind : EventKind) : EventDraft :=
  ⟨kind, some consoleReceiver, some consoleGeneration, some consoleMouse, none,
    if kind = .restoreCompleted then some (.lit "restore") else none, none⟩

def mouseEvent (sequence : SequenceNumber) (kind : EventKind) : BridgeEvent := (mouseDraft kind).toEvent sequence

def emptyConsoleLog : BoundedEventLog :=
  ⟨consoleStream, .lit 1, .lit 1, 8, [],
    .lit 0, .lit 0, by decide, by decide⟩

def consoleLog : List EventKind → Option (List BridgeEvent × BoundedEventLog)
  | [] => some ([], emptyConsoleLog)
  | kind :: kinds => (consoleLog kinds).bind fun earlier =>
    match earlier.2.append (mouseDraft kind) with
    | .error _ => none
    | .ok next => some (earlier.1 ++ [next.1], next.2)

theorem consoleLog_reach : ∀ (kinds : List EventKind) {history : List BridgeEvent}
    {log : BoundedEventLog}, consoleLog kinds = some (history, log) →
    LogReach consoleStream (.lit 1) (.lit 1) 8 history log := by
  intro kinds
  induction kinds with
  | nil =>
    intro history log h
    cases h
    exact .start rfl
  | cons kind kinds ih =>
    intro history log h
    obtain ⟨⟨earlier, before⟩, hearlier, h⟩ := Option.bind_eq_some_iff.mp h
    dsimp only at h
    split at h
    · cases h
    next next happend =>
      cases h
      exact (ih hearlier).append happend

def consoleMoment (kinds : List EventKind) : List BridgeEvent × BoundedEventLog :=
  (consoleLog kinds).getD ([], emptyConsoleLog)

theorem consoleMoment_reach {kinds : List EventKind} {history : List BridgeEvent}
    (hlogged : (consoleLog kinds).isSome) (hhistory : (consoleMoment kinds).1 = history) :
    LogReach consoleStream (.lit 1) (.lit 1) 8 history
      (consoleMoment kinds).2 := by
  obtain ⟨⟨events, log⟩, hlog⟩ := Option.isSome_iff_exists.mp hlogged
  unfold consoleMoment at hhistory ⊢
  rw [hlog] at hhistory ⊢
  exact consoleLog_reach kinds (hlog.trans (congrArg some (congrArg (·, log) hhistory)))

def consoleProfile (id : ProfileId) : ProfileBindingView :=
  ⟨id, String.ofList (List.replicate 64 'a'), by decide, by decide⟩

def mouseProfile : ProfileBindingView := consoleProfile (.lit "mouse-profile")

def receiverProfile : ProfileBindingView := consoleProfile (.lit "receiver-profile")

def consoleStage : QualificationStage :=
  ⟨"mouse-lifecycle", .lifecycle, .deviceLifecycle, .ready, [], [], some "run:mouse-lifecycle", none⟩

def consolePlan : QualificationPlan :=
  ⟨"receiver", 7, "mouse", some (profileBinding mouseProfile), [⟨"lifecycle", [consoleStage]⟩]⟩

def consoleDevice : DeviceView := ⟨"mouse", .mouse, 1, some (profileBinding mouseProfile), .active⟩

def consoleRun : LifecycleRunState :=
  ⟨⟨"receiver", 7, some (profileBinding receiverProfile), .active, [consoleDevice]⟩, [consolePlan], [7], none⟩

def consoleView (awake : Bool) : IntegrationReceiverView :=
  { receiverId := consoleReceiver
    generationId := consoleGeneration
    profile := some receiverProfile
    lifecycle := .active
    stableRestoreEnabled := true
    inventory := [⟨consoleMouse, .mouse, .lit 1, some mouseProfile,
      if awake then .available else .sleeping⟩]
    controllers := [⟨consoleMouse, if awake then .ready else .sleeping⟩] }

section Runs

variable [CursorDigest] [LifecycleProfiles]

def consoleObservation (kinds : List EventKind) (awake : Bool) (run : LifecycleRunState) :
    LifecycleObservation :=
  observeAt (consoleMoment kinds).2 consoleSubscription [consoleView awake] run "mouse"

def consoleActive : LifecycleStageState :=
  startedStage consoleStage consolePlan consoleDevice (consoleObservation [] true consoleRun)

def consoleStarted : LifecycleRunState := { consoleRun with active := some consoleActive }

def consoleDeparted : LifecycleRunState :=
  consoleStarted.enter consoleActive .deviceReturn (consoleActive.evidenceRefs ++
    [.deviceDeparture .sleeping, cursorEvidence (consoleMoment [.deviceSleeping]).2.cursor])

def consoleDeparture : RunnerTransition :=
  awaiting (deviceDepartureCheckpoint consoleStarted consoleActive.evidenceRefs)

def consoleReturn : RunnerTransition :=
  awaiting (deviceReturnCheckpoint (consoleActive.evidenceRefs ++
    [.deviceDeparture .sleeping, cursorEvidence (consoleMoment [.deviceSleeping]).2.cursor]) false)

end Runs

def noStamp : LifecycleResult SuspendStamp := .error ⟨"The current Linux boot identity is unavailable."⟩

def sleepEvents : List BridgeEvent := [mouseEvent (.lit 1) .deviceSleeping]

def returnEvents : List BridgeEvent :=
  [mouseEvent (.lit 2) .deviceAvailable, mouseEvent (.lit 3) .restoreCompleted]

/-- The mouse left once more before it came back and was restored. -/
def secondReturnEvents : List BridgeEvent :=
  [mouseEvent (.lit 2) .deviceUnavailable, mouseEvent (.lit 3) .deviceAvailable,
    mouseEvent (.lit 4) .restoreCompleted]

theorem consoleCampaign :
    letI := positionDigest; letI := noProfiles
    startLifecycleStage consoleRun consoleStage (consoleObservation [] true consoleRun) =
      .ok (consoleStarted, consoleDeparture) ∧
    prepareLifecycleCheckpoint consoleStarted consoleStage consoleDeparture.progress .pass
      (consoleObservation [.deviceSleeping] false consoleStarted) noStamp =
      .ok (.record consoleDeparted consoleReturn) := by
  decide +kernel

/-- The mouse slept, its departure was recorded, it came back and was restored, and it is ready;
its return is refused all the same. -/
theorem deviceReturn_refused :
    letI := positionDigest; letI := noProfiles
    let returnKinds : List EventKind := [.restoreCompleted, .deviceAvailable, .deviceSleeping]
    let observation := consoleObservation returnKinds true consoleDeparted
    LogReach consoleStream (.lit 1) (.lit 1) 8
      (sleepEvents ++ returnEvents) (consoleMoment returnKinds).2 ∧
    startLifecycleStage consoleRun consoleStage (consoleObservation [] true consoleRun) =
      .ok (consoleStarted, consoleDeparture) ∧
    prepareLifecycleCheckpoint consoleStarted consoleStage consoleDeparture.progress .pass
      (consoleObservation [.deviceSleeping] false consoleStarted) noStamp =
      .ok (.record consoleDeparted consoleReturn) ∧
    TrueReturn consoleDeparted consoleActive (consoleMoment returnKinds).2 sleepEvents returnEvents
      observation ∧
    observation.stableRestoreEnabled = true ∧
    prepareLifecycleCheckpoint consoleDeparted consoleStage consoleReturn.progress .pass
      observation noStamp = .error ⟨EventEvidenceError.restoreUnavailable.message⟩ := by
  let digest := positionDigest
  let profiles := noProfiles
  have hrefused : prepareLifecycleCheckpoint consoleDeparted consoleStage consoleReturn.progress .pass
      (consoleObservation [.restoreCompleted, .deviceAvailable, .deviceSleeping] true consoleDeparted)
      noStamp = .error ⟨EventEvidenceError.restoreUnavailable.message⟩ := by decide +kernel
  refine ⟨consoleMoment_reach (by decide +kernel) (by decide +kernel), consoleCampaign.1,
    consoleCampaign.2, ⟨?_, ?_, ?_⟩, by decide +kernel, hrefused⟩
  · exact ⟨mouseEvent (.lit 1) .deviceSleeping, by decide +kernel, by decide, by decide +kernel⟩
  · exact ⟨[], mouseEvent (.lit 2) .deviceAvailable, [],
      mouseEvent (.lit 3) .restoreCompleted, [], by decide +kernel, rfl, by decide⟩
  · decide +kernel

/-- After a second departure the return of the mouse is recorded. -/
theorem deviceReturn_recorded_again :
    letI := positionDigest; letI := noProfiles
    ∃ returned transition, prepareLifecycleCheckpoint consoleDeparted consoleStage
      consoleReturn.progress .pass (consoleObservation
        [.restoreCompleted, .deviceAvailable, .deviceUnavailable, .deviceSleeping] true
        consoleDeparted) noStamp = .ok (.record returned transition) := by
  let digest := positionDigest
  let profiles := noProfiles
  have hbefore : LogReach consoleStream (.lit 1) (.lit 1) 8 []
      (consoleMoment []).2 := consoleMoment_reach (by decide +kernel) (by decide +kernel)
  have hdeparting : LogReach consoleStream (.lit 1) (.lit 1) 8
      ([] ++ sleepEvents) (consoleMoment [.deviceSleeping]).2 :=
    consoleMoment_reach (by decide +kernel) (by decide +kernel)
  have hreturning : LogReach consoleStream (.lit 1) (.lit 1) 8
      ([] ++ sleepEvents ++ secondReturnEvents) (consoleMoment
        [.restoreCompleted, .deviceAvailable, .deviceUnavailable, .deviceSleeping]).2 :=
    consoleMoment_reach (by decide +kernel) (by decide +kernel)
  have htrue : TrueReturn consoleDeparted consoleActive (consoleMoment
      [.restoreCompleted, .deviceAvailable, .deviceUnavailable, .deviceSleeping]).2 sleepEvents
      secondReturnEvents (consoleObservation
        [.restoreCompleted, .deviceAvailable, .deviceUnavailable, .deviceSleeping] true
        consoleDeparted) := by
    refine ⟨?_, ?_, by decide +kernel⟩
    · exact ⟨mouseEvent (.lit 1) .deviceSleeping, by decide +kernel, by decide, by decide +kernel⟩
    exact ⟨[mouseEvent (.lit 2) .deviceUnavailable],
      mouseEvent (.lit 3) .deviceAvailable, [],
      mouseEvent (.lit 4) .restoreCompleted, [], by decide +kernel, rfl, by decide⟩
  have hagain : DepartedIn (ownEvents consoleDeparted consoleActive secondReturnEvents) :=
    ⟨[], mouseEvent (.lit 2) .deviceUnavailable, _, rfl, by decide, [], _, _, rfl, rfl,
      [], _, _, rfl, by simp, by decide⟩
  have hrecorded := deviceReturn_recorded hbefore hdeparting hreturning (positionDigest_distinct _)
    [consoleView true] consoleSubscription noStamp consoleCampaign.1 rfl consoleCampaign.2
  exact (hrecorded.1 htrue).mpr ⟨by decide +kernel, .inr hagain⟩

end Samples

end Qualification

end HyperfluxNext
