import HyperfluxNext.Bridge.BatteryFacts
import HyperfluxNext.Lifecycle.Retirements

namespace HyperfluxNext

namespace DeviceLifecycle

open List

variable {device : DeviceLifecycle} {endpoint : EndpointLifecycle} {limits : LifecycleLimits}
  {generationId : GenerationId}

/-- Everything that the presence of a device is derived from is of the device's generation. -/
theorem Disciplined.ofGeneration (h : device.Disciplined limits generationId)
    (hmem : endpoint ∈ device.endpointList) : endpoint.OfGeneration device.pairing generationId := by
  obtain ⟨id, hid⟩ := mem_values.mp hmem
  have hheld : ∀ stamp ∈ device.stamps, stamp.generationId = generationId := by
    intro stamp hstamp
    exact (ObservationStamp.atOrAfter_iff.mp (h.dated stamp hstamp)).1.symm.trans h.generation
  have hendpoint : ∀ stamp ∈ endpoint.stamps, stamp.generationId = generationId := by
    intro stamp hstamp
    exact hheld stamp (mem_stamps.mpr (.inr (.inr (.inr (.inr (.inr ⟨id, endpoint, hid, hstamp⟩))))))
  constructor
  · intro state stamp hevidence
    cases hevidence with
    | route hstamp => exact hendpoint stamp (by simp [EndpointLifecycle.mem_stamps, hstamp])
    | power _ hstamp => exact hendpoint stamp (by simp [EndpointLifecycle.mem_stamps, hstamp])
    | activity _ hstamp => exact hendpoint stamp (by simp [EndpointLifecycle.mem_stamps, hstamp])
    | freshness _ hstamp => exact hendpoint stamp (by simp [EndpointLifecycle.mem_stamps, hstamp])
    | unpaired _ _ hstamp => exact hheld stamp (mem_stamps.mpr (.inr (.inl hstamp)))
  intro state stamp hevidence
  cases hevidence with
  | sleep hstamp | activity _ hstamp => exact hendpoint stamp (by simp [EndpointLifecycle.mem_stamps, hstamp])

end DeviceLifecycle

structure ObservationIngress where
  receivers : ReceiverLifecycleRegistry
  events : BoundedEventLog

structure IngressCall where
  observation : LifecycleObservation
  transportGeneration : Option GenerationId

namespace ObservationIngress

/-- How present a receiver's child is, where it is known. -/
def presence (ingress : ObservationIngress) (receiverId : ReceiverId) (deviceId : LogicalDeviceId) :
    Option PresenceState :=
  (ingress.receivers.receivers[receiverId]?.bind (·.deviceOf deviceId)).map (·.presence)

def isPresenceEvent (kind : EventKind) : Bool :=
  kind ∈ [EventKind.deviceAvailable, .deviceSleeping, .deviceUnavailable, .deviceUnknown]

def step (ingress : ObservationIngress) (call : IngressCall) : ObservationIngress :=
  match call.observation.apply call.transportGeneration ingress.receivers ingress.events with
  | .ok (_, receivers, events) => ⟨receivers, events⟩
  | .error _ => ingress

def announced (ingress : ObservationIngress) (call : IngressCall) (receiverId : ReceiverId)
    (deviceId : LogicalDeviceId) : List EventKind :=
  match call.observation.apply call.transportGeneration ingress.receivers ingress.events with
  | .ok (.applied applied, _, _) =>
    if applied.receiverId = receiverId ∧ applied.deviceId = some deviceId then
      applied.events.filter isPresenceEvent
    else []
  | _ => []

/-- The presence events that a run emits for a child, in order. -/
def announcements (receiverId : ReceiverId) (deviceId : LogicalDeviceId) :
    List IngressCall → ObservationIngress → List EventKind
  | [], _ => []
  | call :: calls, ingress =>
    ingress.announced call receiverId deviceId ++ announcements receiverId deviceId calls (ingress.step call)

/-- A change of the derived presence is reported with the new value. -/
def reported (before after : Option PresenceState) : List EventKind :=
  if after = before then [] else after.toList.map LifecycleObservation.presenceEvent

def changes (receiverId : ReceiverId) (deviceId : LogicalDeviceId) :
    List IngressCall → ObservationIngress → List EventKind
  | [], _ => []
  | call :: calls, ingress =>
    reported (ingress.presence receiverId deviceId) ((ingress.step call).presence receiverId deviceId) ++
      changes receiverId deviceId calls (ingress.step call)

theorem eventKinds_presence {before after : ReceiverLifecycleState} {deviceId : LogicalDeviceId}
    {presenceBefore presenceAfter : Option PresenceState} {updatesBattery : Bool}
    {kinds : List (EventKind × Option LogicalDeviceId)}
    (h : LifecycleObservation.eventKinds before after (some deviceId) presenceBefore presenceAfter
      updatesBattery = .ok kinds) :
    (kinds.map (·.1)).filter isPresenceEvent = reported presenceBefore presenceAfter := by
  have hpresence : ∀ state, isPresenceEvent (LifecycleObservation.presenceEvent state) = true := by
    intro state
    cases state <;> rfl
  have hreceiver : ∃ receiver : List (EventKind × Option LogicalDeviceId),
      (receiver.map (·.1)).filter isPresenceEvent = [] ∧ kinds = receiver ++
        ((if presenceBefore ≠ presenceAfter then presenceAfter.toList.map fun state =>
          (LifecycleObservation.presenceEvent state, some deviceId) else []) ++
        if updatesBattery then [(EventKind.batteryUpdated, some deviceId)] else []) := by
    unfold LifecycleObservation.eventKinds at h
    dsimp only at h
    by_cases hmoved : before ≠ after
    · rw [if_pos hmoved] at h
      obtain ⟨receiver, hkinds, h⟩ := Procedure.bind_eq_ok h
      cases h
      refine ⟨receiver, ?_, rfl⟩
      cases after <;> cases hkinds <;> rfl
    rw [if_neg hmoved] at h
    cases h
    exact ⟨[], rfl, rfl⟩
  obtain ⟨receiver, hnone, hkinds⟩ := hreceiver
  rw [hkinds, List.map_append, List.filter_append, hnone, List.nil_append, List.map_append, List.filter_append]
  have hbattery : ((if updatesBattery = true then [(EventKind.batteryUpdated, some deviceId)] else []).map
      (·.1)).filter isPresenceEvent = [] := by
    cases updatesBattery <;> rfl
  rw [hbattery, List.append_nil]
  unfold reported
  by_cases hsame : presenceAfter = presenceBefore
  · rw [if_pos hsame, if_neg (not_not.mpr hsame.symm)]
    rfl
  rw [if_neg hsame, if_pos (Ne.symm hsame), List.map_map]
  cases presenceAfter with
  | none => rfl
  | some state => simp [hpresence]

/-- A call emits a presence event for a child exactly when it changes the child's derived presence. -/
theorem announced_eq (ingress : ObservationIngress) (call : IngressCall) (receiverId : ReceiverId)
    (deviceId : LogicalDeviceId) :
    ingress.announced call receiverId deviceId =
      reported (ingress.presence receiverId deviceId) ((ingress.step call).presence receiverId deviceId) := by
  have hquiet : ∀ state, reported state state = [] := fun _ => if_pos rfl
  unfold announced step
  cases happly : call.observation.apply call.transportGeneration ingress.receivers ingress.events with
  | error error => exact (hquiet _).symm
  | ok answer =>
    obtain ⟨outcome, receivers, events⟩ := answer
    obtain ⟨_, refusal, hignored, hsame, -⟩ | ⟨applied, before, after, current, current', happlied, hbefore,
      hcall, hafter, hcurrent, hcurrent', -, -, hreceiver, hdevice, kinds, hkinds, hevents⟩ :=
      call.observation.apply_ok happly
    · rw [hignored, hsame]
      exact (hquiet _).symm
    rw [happlied, hafter]
    dsimp only
    rw [hreceiver, hdevice]
    unfold presence
    dsimp only
    rw [OrderedMaps.getElem?_insert_of]
    by_cases hown : receiverId = call.observation.receiverId
    · rw [if_pos hown, hown, hbefore]
      dsimp only [Option.bind_some]
      by_cases hchild : call.observation.kind.deviceId = some deviceId
      · rw [if_pos ⟨rfl, hchild⟩, hevents]
        rw [hchild] at hkinds
        have hshown := eventKinds_presence hkinds
        unfold LifecycleObservation.presenceOf at hshown
        unfold ReceiverLifecycleMachine.deviceOf
        rw [hcurrent, hcurrent']
        exact hshown
      · rw [if_neg fun h => hchild h.2, ReceiverLifecycleMachine.call_elsewhere hchild hcall, hquiet]
    · rw [if_neg hown, if_neg fun h => hown h.1.symm, hquiet]

theorem announcements_eq (receiverId : ReceiverId) (deviceId : LogicalDeviceId) (calls : List IngressCall)
    (ingress : ObservationIngress) :
    announcements receiverId deviceId calls ingress = changes receiverId deviceId calls ingress := by
  induction calls generalizing ingress with
  | nil => rfl
  | cons call calls ih =>
    unfold announcements changes
    rw [announced_eq, ih]

end ObservationIngress

open EndpointLifecycle DeviceLifecycle in
/-- Each endpoint of a reached device reads what its latest evidence says, the device is as present as its
strongest endpoint whatever the endpoints are called, and the ingress announces each change of that. -/
theorem presence_follows_evidence {receiverId : ReceiverId} {limits : LifecycleLimits}
    {retirements : List GenerationId} {machine : ReceiverLifecycleMachine}
    {generation : ReceiverGenerationLifecycle} {id : LogicalDeviceId} {device : DeviceLifecycle}
    (h : MachineReach receiverId limits retirements machine) (hcurrent : machine.current = some generation)
    (hdevice : generation.devices[id]? = some device) :
    (∀ endpoint ∈ device.endpointList, ∀ state,
      (endpoint.availabilityCandidate device.pairing = state ↔
        Reads (endpoint.AvailabilityEvidence device.pairing) .unknown state) ∧
      (endpoint.presenceCandidate device.pairing = state ↔
        (¬ Reads (endpoint.AvailabilityEvidence device.pairing) .unknown .available ∧
          Reads (endpoint.AvailabilityEvidence device.pairing) .unknown state) ∨
        (Reads (endpoint.AvailabilityEvidence device.pairing) .unknown .available ∧
          Reads endpoint.ActivityEvidence .available state))) ∧
      device.presence = (if device.readings = [] then .unknown else strongestPresence device.readings) ∧
      (∀ device' : DeviceLifecycle, device'.pairing = device.pairing →
        (∀ endpoint ∈ device.endpointList, ∃ other ∈ device'.endpointList, endpoint.SameEvidence other) →
        (∀ other ∈ device'.endpointList, ∃ endpoint ∈ device.endpointList, endpoint.SameEvidence other) →
        device'.presence = device.presence) ∧
      ∀ (calls : List IngressCall) (ingress : ObservationIngress) (receiverId : ReceiverId)
        (deviceId : LogicalDeviceId),
        ingress.announcements receiverId deviceId calls = ingress.changes receiverId deviceId calls := by
  have hdisciplined := ((machineReach_disciplined h generation hcurrent).devices id device hdevice).2
  refine ⟨fun endpoint hmem state => ?_, ?_, fun device' hpairing hthere hback => ?_,
    fun calls ingress receiverId deviceId => ?_⟩
  · have hown := hdisciplined.ofGeneration hmem
    exact ⟨availabilityCandidate_iff hown, presenceCandidate_iff hown⟩
  · by_cases hnil : device.endpointList = []
    · rw [presence_of_nil hnil, if_pos]
      unfold readings
      rw [hnil]
      rfl
    rw [presence_of_ne_nil hnil, if_neg]
    intro hreadings
    exact hnil (List.map_eq_nil_iff.mp hreadings)
  · exact presence_congr hpairing hthere hback
  · exact ObservationIngress.announcements_eq receiverId deviceId calls ingress

def mouseEndpoint : EndpointIdentity := ⟨.lit "dongle", .hyperfluxWireless, _, rfl⟩

/-- The route of the mouse opens, the mouse is used, and falls asleep. -/
def mouseCalls : List (LifecycleOp × ObservationStamp) :=
  [(.registerEndpoint sampleMouse.deviceId mouseEndpoint, firstStamp (.lit 3)),
    (.observeRoute sampleMouse.deviceId mouseEndpoint.endpointId .available, firstStamp (.lit 4)),
    (.observeActivity sampleMouse.deviceId mouseEndpoint.endpointId .active, firstStamp (.lit 5)),
    (.observeSleep sampleMouse.deviceId mouseEndpoint.endpointId .asleep, firstStamp (.lit 6))]

def mouseAsleep : ReceiverLifecycleMachine :=
  mouseCalls.foldl (fun machine call => (call.1.call call.2 machine).2) mouseRegistered

theorem foldl_reach {retirements : List GenerationId} {receiverId : ReceiverId} {limits : LifecycleLimits}
    {machine : ReceiverLifecycleMachine} (calls : List (LifecycleOp × ObservationStamp))
    (h : MachineReach receiverId limits retirements machine) :
    ∃ retirements, MachineReach receiverId limits retirements
      (calls.foldl (fun machine call => (call.1.call call.2 machine).2) machine) := by
  induction calls generalizing machine retirements with
  | nil => exact ⟨_, h⟩
  | cons call calls ih => exact ih (.call call.1 call.2 h)

open EndpointLifecycle in
/-- The latest availability evidence of the endpoint is that it was used, and its latest activity evidence
that it sleeps. -/
theorem presence_follows_evidence_mouse :
    ∃ device endpoint, mouseAsleep.deviceOf sampleMouse.deviceId = some device ∧ endpoint ∈ device.endpointList ∧
      Reads (endpoint.AvailabilityEvidence device.pairing) .unknown .available ∧
      Reads endpoint.ActivityEvidence .available .sleeping ∧ device.presence = .sleeping := by
  have hendpoint : ∃ generation device endpoint, mouseAsleep.current = some generation ∧
      generation.devices[sampleMouse.deviceId]? = some device ∧ endpoint ∈ device.endpointList ∧
      endpoint.availabilityCandidate device.pairing = .available ∧
      endpoint.presenceCandidate device.pairing = .sleeping ∧ device.readings = [.sleeping] :=
    ⟨_, _, _, rfl, rfl, List.mem_singleton.mpr rfl, rfl, rfl, rfl⟩
  obtain ⟨generation, device, endpoint, hcurrent, hdevice, hmem, havailable, hsleeping, hreadings⟩ := hendpoint
  obtain ⟨retirements, hreach⟩ := foldl_reach _ mouseRegistered_reach
  obtain ⟨hendpoints, hpresence, -⟩ := presence_follows_evidence hreach hcurrent hdevice
  have hread := (hendpoints endpoint hmem .available).1.mp havailable
  have hactive := (hendpoints endpoint hmem .sleeping).2.mp hsleeping
  refine ⟨device, endpoint, ?_, hmem, hread, ?_, ?_⟩
  · unfold ReceiverLifecycleMachine.deviceOf
    rw [hcurrent]
    exact hdevice
  · exact (hactive.resolve_left fun h => h.1 hread).2
  · rw [hpresence, hreadings]
    rfl

/-- A child that no endpoint of was registered. -/
def sampleChild : DeviceLifecycle := .new sampleMouse (firstStamp (.lit 2))

/-- No endpoint is available, sleeping or unknown, and yet the child is not read as unavailable. -/
theorem presence_without_endpoints :
    MachineReach sampleReceiver sampleLimits [] mouseRegistered ∧
      mouseRegistered.deviceOf sampleMouse.deviceId = some sampleChild ∧
      strongestPresence sampleChild.readings = .unavailable ∧ sampleChild.presence = .unknown :=
  ⟨mouseRegistered_reach, rfl, rfl, rfl⟩

end HyperfluxNext
