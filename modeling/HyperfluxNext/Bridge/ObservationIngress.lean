import HyperfluxNext.Bridge.LifecycleObservation
import HyperfluxNext.Core.EventLog
import HyperfluxNext.Library.OrderedMaps

namespace HyperfluxNext

inductive LifecycleObservationError where
  | transportGenerationMismatch (receiverId : ReceiverId) (observedGeneration : GenerationId)
      (transportGeneration : Option GenerationId)
  | restrictedReceiverTransition (state : ReceiverLifecycleState)
  | missingReceiver (receiverId : ReceiverId)
  | lifecycle (error : LifecycleError)
  | event (error : EventLogError)

namespace LifecycleObservationKind

def deviceId : LifecycleObservationKind → Option LogicalDeviceId
  | .receiverState _ => none
  | .registerDevice identity => some identity.deviceId
  | .registerEndpoint deviceId _ => some deviceId
  | .pairing deviceId _ => some deviceId
  | .batteryReported deviceId _ => some deviceId
  | .batteryUnavailable deviceId => some deviceId
  | .batteryStale deviceId => some deviceId
  | .batteryCharge deviceId _ => some deviceId
  | .route deviceId _ _ => some deviceId
  | .power deviceId _ _ => some deviceId
  | .sleep deviceId _ _ => some deviceId
  | .activity deviceId _ _ => some deviceId
  | .contact deviceId _ _ => some deviceId
  | .freshness deviceId _ _ => some deviceId

def updatesBattery : LifecycleObservationKind → Bool
  | .batteryReported _ _ => true
  | .batteryUnavailable _ => true
  | .batteryStale _ => true
  | .batteryCharge _ _ => true
  | _ => false

/-- A disconnect has to revoke leases, and is not for a passive fact to make. -/
def restricted : LifecycleObservationKind → Option ReceiverLifecycleState
  | .receiverState .disconnecting => some .disconnecting
  | .receiverState .unknown => some .unknown
  | _ => none

end LifecycleObservationKind

structure AppliedLifecycleObservation where
  receiverId : ReceiverId
  generationId : GenerationId
  receiverBefore : ReceiverLifecycleState
  receiverAfter : ReceiverLifecycleState
  deviceId : Option LogicalDeviceId
  devicePresenceBefore : Option PresenceState
  devicePresenceAfter : Option PresenceState
  events : List EventKind

inductive LifecycleObservationOutcome where
  | applied (observation : AppliedLifecycleObservation)
  | ignored (outcome : ApplyOutcome)

namespace LifecycleObservation

def receiverEvent : ReceiverLifecycleState → Except LifecycleObservationError EventKind
  | .active => .ok .receiverAvailable
  | .suspended => .ok .receiverSuspended
  | .partiallySuspended => .ok .receiverSuspended
  | state => .error (.restrictedReceiverTransition state)

def presenceEvent : PresenceState → EventKind
  | .available => .deviceAvailable
  | .sleeping => .deviceSleeping
  | .unavailable => .deviceUnavailable
  | .unknown => .deviceUnknown

/-- The events of an applied observation, in order: the receiver's, the child's, the battery's. -/
def eventKinds (receiverBefore receiverAfter : ReceiverLifecycleState) (deviceId : Option LogicalDeviceId)
    (presenceBefore presenceAfter : Option PresenceState) (updatesBattery : Bool) :
    Except LifecycleObservationError (List (EventKind × Option LogicalDeviceId)) := do
  let receiver ← if receiverBefore ≠ receiverAfter then
      (receiverEvent receiverAfter).map fun kind => [(kind, none)]
    else .ok []
  let presence := if presenceBefore ≠ presenceAfter then
    presenceAfter.toList.map fun state => (presenceEvent state, deviceId) else []
  let battery := if updatesBattery then [(EventKind.batteryUpdated, deviceId)] else []
  return receiver ++ if deviceId.isSome then presence ++ battery else []

def appendEvents (receiverId : ReceiverId) (generationId : GenerationId) :
    List (EventKind × Option LogicalDeviceId) → BoundedEventLog → Except LifecycleObservationError BoundedEventLog
  | [], log => .ok log
  | (kind, deviceId) :: kinds, log =>
    match log.append ⟨kind, some receiverId, some generationId, deviceId, none, none, none⟩ with
    | .error error => .error (.event error)
    | .ok (_, log) => appendEvents receiverId generationId kinds log

/-- How present a generation holds a child for. -/
def presenceOf (generation : ReceiverGenerationLifecycle) (deviceId : Option LogicalDeviceId) :
    Option PresenceState :=
  (deviceId.bind (generation.devices[·]?)).map (·.presence)

/-- Applies one fact that the transport stands behind. Of an observation that is not applied nothing stays. -/
def apply (observation : LifecycleObservation) (transportGeneration : Option GenerationId)
    (receivers : ReceiverLifecycleRegistry) (events : BoundedEventLog) :
    Except LifecycleObservationError
      (LifecycleObservationOutcome × ReceiverLifecycleRegistry × BoundedEventLog) :=
  let receiverId := observation.receiverId
  let generationId := observation.stamp.generationId
  let deviceId := observation.kind.deviceId
  if transportGeneration ≠ some generationId then
    .error (.transportGenerationMismatch receiverId generationId transportGeneration)
  else
    match observation.kind.restricted, receivers.receivers[receiverId]? with
    | some state, _ => .error (.restrictedReceiverTransition state)
    | none, none => .error (.missingReceiver receiverId)
    | none, some machine =>
      match machine.current with
      | none => .ok (.ignored .rejectedReceiverAbsent, receivers, events)
      | some before =>
        match observation.kind.op.call observation.stamp machine with
        | (.error error, _) => .error (.lifecycle error)
        | (.ok outcome, next) =>
          if outcome ≠ .applied then .ok (.ignored outcome, receivers, events)
          else
            match next.current with
            | none => .error (.missingReceiver receiverId)
            | some after =>
              match eventKinds before.lifecycle.value after.lifecycle.value deviceId
                  (presenceOf before deviceId) (presenceOf after deviceId) observation.kind.updatesBattery with
              | .error error => .error error
              | .ok kinds =>
                match appendEvents receiverId generationId kinds events with
                | .error error => .error error
                | .ok events =>
                  .ok (.applied ⟨receiverId, generationId, before.lifecycle.value, after.lifecycle.value,
                      deviceId, presenceOf before deviceId, presenceOf after deviceId, kinds.map (·.1)⟩,
                    { receivers with receivers := receivers.receivers.insert receiverId next }, events)

/-- An answered call was ignored and changed nothing, or the machine took the fact and its events were
appended. -/
theorem apply_ok (observation : LifecycleObservation) {transport : Option GenerationId}
    {receivers receivers' : ReceiverLifecycleRegistry} {events events' : BoundedEventLog}
    {outcome : LifecycleObservationOutcome}
    (h : observation.apply transport receivers events = .ok (outcome, receivers', events')) :
    (∃ before refusal, outcome = .ignored refusal ∧ receivers' = receivers ∧
        receivers.receivers[observation.receiverId]? = some before ∧
        (before.current = none ∨ (observation.kind.op.call observation.stamp before).1 ≠ .ok .applied)) ∨
      ∃ applied before after current current', outcome = .applied applied ∧
        receivers.receivers[observation.receiverId]? = some before ∧
        observation.kind.op.call observation.stamp before = (.ok .applied, after) ∧
        receivers' = { receivers with
          receivers := receivers.receivers.insert observation.receiverId after } ∧
        before.current = some current ∧ after.current = some current' ∧
        applied.receiverBefore = current.lifecycle.value ∧ applied.receiverAfter = current'.lifecycle.value ∧
        applied.receiverId = observation.receiverId ∧ applied.deviceId = observation.kind.deviceId ∧
        ∃ kinds, eventKinds current.lifecycle.value current'.lifecycle.value observation.kind.deviceId
            (presenceOf current observation.kind.deviceId) (presenceOf current' observation.kind.deviceId)
            observation.kind.updatesBattery = .ok kinds ∧ applied.events = kinds.map (·.1) := by
  unfold LifecycleObservation.apply at h
  dsimp only at h
  split at h
  · cases h
  split at h
  · cases h
  · cases h
  next before _ hbefore =>
    split at h
    next hnone =>
      cases h
      exact .inl ⟨before, _, rfl, rfl, hbefore, .inl hnone⟩
    next current hcurrent =>
      split at h
      · cases h
      next answer after hcall =>
        split at h
        next hrefused =>
          cases h
          refine .inl ⟨before, _, rfl, rfl, hbefore, .inr ?_⟩
          rw [hcall]
          exact fun happlied => hrefused (Except.ok.inj happlied)
        next happlied =>
          have happlied : answer = .applied := Decidable.byContradiction happlied
          rw [happlied] at hcall
          split at h
          · cases h
          next current' hcurrent' =>
            split at h
            · cases h
            next kinds hkinds =>
              split at h
              · cases h
              cases h
              exact .inr ⟨_, before, after, current, current', rfl, hbefore, hcall, rfl, hcurrent,
                hcurrent', rfl, rfl, rfl, rfl, kinds, hkinds, rfl⟩

end LifecycleObservation

end HyperfluxNext
