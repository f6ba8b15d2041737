import Std.Data.TreeMap
import HyperfluxNext.Domain.Enums

namespace HyperfluxNext

/-- Bounds that cannot exceed the public snapshot contract. -/
structure LifecycleLimits where
  maxDevices : Nat
  maxEndpointsPerDevice : Nat
  devices : 1 ≤ maxDevices ∧ maxDevices ≤ 32
  endpoints : 1 ≤ maxEndpointsPerDevice ∧ maxEndpointsPerDevice ≤ 8

inductive LifecycleError where
  | invalidChildKind (kind : DeviceKind)
  | deviceCapacity
  | endpointCapacity (deviceId : LogicalDeviceId)
  | deviceIdentityConflict (deviceId : LogicalDeviceId)
  | endpointIdentityConflict (endpointId : EndpointId)
  | unknownEndpoint (endpointId : EndpointId)
  | invalidReturnPolicy
deriving DecidableEq

/-- Generation-bound, provenance-carrying order for one passive observation. -/
structure ObservationStamp where
  generationId : GenerationId
  sequence : SequenceNumber
  observedAtMs : MonotonicMs
  confidence : EvidenceConfidence
  evidenceClaimId : EvidenceClaimId
  known : confidence ≠ .unknown

namespace ObservationStamp

def samePosition (stamp other : ObservationStamp) : Bool :=
  stamp.generationId = other.generationId ∧ stamp.sequence = other.sequence ∧
    stamp.observedAtMs = other.observedAtMs

def atOrAfter (stamp other : ObservationStamp) : Bool :=
  stamp.generationId = other.generationId ∧ other.sequence ≤ stamp.sequence ∧
    other.observedAtMs ≤ stamp.observedAtMs

def strictlyAfter (stamp other : ObservationStamp) : Bool :=
  stamp.generationId = other.generationId ∧ other.sequence < stamp.sequence ∧
    other.observedAtMs ≤ stamp.observedAtMs

def lifetimeAtOrAfter (stamp other : ObservationStamp) : Bool :=
  stamp.generationId ≠ other.generationId ∧ other.observedAtMs ≤ stamp.observedAtMs

/-- The order of the pairs of sequence and instant. -/
def before (stamp other : ObservationStamp) : Bool :=
  stamp.sequence < other.sequence ∨ (stamp.sequence = other.sequence ∧ stamp.observedAtMs < other.observedAtMs)

end ObservationStamp

/-- One independent fact and the exact evidence that last established it. -/
structure LifecycleFact (α : Type) where
  value : α
  stamp : Option ObservationStamp

namespace LifecycleFact

variable {α : Type}

def unknown (value : α) : LifecycleFact α := ⟨value, none⟩

def observed (value : α) (stamp : ObservationStamp) : LifecycleFact α := ⟨value, some stamp⟩

def isObserved (fact : LifecycleFact α) : Bool := fact.stamp.isSome

def accepts (fact : LifecycleFact α) (stamp : ObservationStamp) : Bool :=
  match fact.stamp with
  | none => true
  | some current => stamp.strictlyAfter current

def apply (fact : LifecycleFact α) (value : α) (stamp : ObservationStamp) : LifecycleFact α × Bool :=
  if fact.accepts stamp then (observed value stamp, true) else (fact, false)

end LifecycleFact

/-- Battery-value semantics kept distinct from freshness and from zero percent. -/
inductive BatteryValue where
  | unknown
  | unavailable
  | reported (percentage : BatteryPercent)

def BatteryValue.isReported : BatteryValue → Bool
  | .reported _ => true
  | _ => false

structure BatteryLifecycle where
  value : LifecycleFact BatteryValue
  freshness : LifecycleFact FreshnessState
  charge : LifecycleFact (Option BatteryCharge)

namespace BatteryLifecycle

def unknown : BatteryLifecycle := ⟨.unknown .unknown, .unknown .unknown, .unknown none⟩

def applyValue (battery : BatteryLifecycle) (value : BatteryValue) (stamp : ObservationStamp) :
    BatteryLifecycle × Bool :=
  if battery.value.accepts stamp = false ∨ battery.freshness.accepts stamp = false then
    (battery, false)
  else
    ({ value := (battery.value.apply value stamp).1
       freshness := (battery.freshness.apply .fresh stamp).1
       charge := if value.isReported then battery.charge else { battery.charge with value := none } },
      true)

def markStale (battery : BatteryLifecycle) (stamp : ObservationStamp) : BatteryLifecycle × Bool :=
  if battery.value.isObserved = false ∨ battery.freshness.accepts stamp = false then
    (battery, false)
  else
    let (freshness, applied) := battery.freshness.apply .stale stamp
    ({ battery with freshness := freshness, charge := { battery.charge with value := none } }, applied)

def applyCharge (battery : BatteryLifecycle) (charge : Option BatteryCharge)
    (stamp : ObservationStamp) : BatteryLifecycle × Bool :=
  if battery.value.value.isReported then
    let (charge, applied) := battery.charge.apply charge stamp
    ({ battery with charge := charge }, applied)
  else
    (battery, false)

end BatteryLifecycle

structure ChildIdentity where
  deviceId : LogicalDeviceId
  deviceKind : DeviceKind
  productId : ProductId
  child : deviceKind ≠ .receiver ∧ deviceKind ≠ .mat
deriving DecidableEq

def RouteKind.connectionMode : RouteKind → ConnectionMode
  | .hyperfluxWireless => .hyperflux24ghz
  | .directUsb => .directUsb
  | .bluetooth => .bluetooth

structure EndpointIdentity where
  endpointId : EndpointId
  routeKind : RouteKind
  connectionMode : ConnectionMode
  mode : connectionMode = routeKind.connectionMode
deriving DecidableEq

structure EndpointLifecycle where
  identity : EndpointIdentity
  registeredAt : ObservationStamp
  route : LifecycleFact RouteState
  power : LifecycleFact PowerState
  sleep : LifecycleFact SleepState
  activity : LifecycleFact ActivityState
  contact : LifecycleFact ContactState
  freshness : LifecycleFact FreshnessState

def maxByPosition : List ObservationStamp → Option ObservationStamp
  | [] => none
  | stamp :: stamps =>
    some (stamps.foldl (fun latest stamp => if stamp.before latest then latest else stamp) stamp)

/-- The loop over the candidates at the latest position: two that differ make it unknown. -/
def selectAgreed (latest : ObservationStamp) :
    Option PresenceState → List (PresenceState × ObservationStamp) → Option PresenceState
  | selected, [] => selected
  | selected, (state, stamp) :: candidates =>
    if stamp.samePosition latest then
      match selected with
      | none => selectAgreed latest (some state) candidates
      | some current =>
        if current = state then selectAgreed latest (some current) candidates else some .unknown
    else
      selectAgreed latest selected candidates

def selectLatestState (candidates : List (PresenceState × ObservationStamp)) : Option PresenceState :=
  match maxByPosition (candidates.map (·.2)) with
  | none => none
  | some latest => selectAgreed latest none candidates

namespace EndpointLifecycle

def new (identity : EndpointIdentity) (registeredAt : ObservationStamp) (deviceKind : DeviceKind) :
    EndpointLifecycle where
  identity := identity
  registeredAt := registeredAt
  route := .unknown .unknown
  power := .unknown .unknown
  sleep := .unknown .unknown
  activity := .unknown .unknown
  contact := .unknown (if deviceKind = .keyboard then .notApplicable else .unknown)
  freshness := .unknown .unknown

def routePresence : RouteState → PresenceState
  | .available => .available
  | .unavailable => .unavailable
  | .stale | .unknown => .unknown

def sleepPresence : SleepState → PresenceState
  | .asleep => .sleeping
  | .awake => .available
  | .unknown => .unknown

/-- What each fact says about the availability of the endpoint, in the order of the source. -/
def availabilityCandidates (endpoint : EndpointLifecycle) (pairing : LifecycleFact PairingState) :
    List (PresenceState × ObservationStamp) :=
  let route := endpoint.route.stamp.toList.map (routePresence endpoint.route.value, ·)
  let power := if endpoint.power.value = .off then
    endpoint.power.stamp.toList.map (PresenceState.unavailable, ·) else []
  let activity := if endpoint.activity.value = .active then
    endpoint.activity.stamp.toList.map (PresenceState.available, ·) else []
  let freshness := if endpoint.freshness.value = .stale then
    endpoint.freshness.stamp.toList.map (PresenceState.unknown, ·) else []
  let paired := if endpoint.identity.routeKind = .hyperfluxWireless ∧ pairing.value = .unpaired then
    pairing.stamp.toList.map (PresenceState.unavailable, ·) else []
  route ++ power ++ activity ++ freshness ++ paired

def availabilityCandidate (endpoint : EndpointLifecycle) (pairing : LifecycleFact PairingState) : PresenceState :=
  (selectLatestState (endpoint.availabilityCandidates pairing)).getD .unknown

def activityCandidates (endpoint : EndpointLifecycle) : List (PresenceState × ObservationStamp) :=
  let sleep := endpoint.sleep.stamp.toList.map (sleepPresence endpoint.sleep.value, ·)
  let activity := if endpoint.activity.value = .active then
    endpoint.activity.stamp.toList.map (PresenceState.available, ·) else []
  sleep ++ activity

def presenceCandidate (endpoint : EndpointLifecycle) (pairing : LifecycleFact PairingState) : PresenceState :=
  if endpoint.availabilityCandidate pairing ≠ .available then
    endpoint.availabilityCandidate pairing
  else
    (selectLatestState endpoint.activityCandidates).getD .available

end EndpointLifecycle

structure DeviceLifecycle where
  identity : ChildIdentity
  registeredAt : ObservationStamp
  latestObservation : ObservationStamp
  pairing : LifecycleFact PairingState
  battery : BatteryLifecycle
  endpoints : Std.TreeMap EndpointId EndpointLifecycle

namespace DeviceLifecycle

def new (identity : ChildIdentity) (registeredAt : ObservationStamp) : DeviceLifecycle :=
  ⟨identity, registeredAt, registeredAt, .unknown .unknown, .unknown, ∅⟩

def presenceLoop (pairing : LifecycleFact PairingState) : Bool → Bool → List EndpointLifecycle → PresenceState
  | sawSleeping, sawUnknown, [] =>
    if sawSleeping then .sleeping else if sawUnknown then .unknown else .unavailable
  | sawSleeping, sawUnknown, endpoint :: endpoints =>
    match endpoint.presenceCandidate pairing with
    | .available => .available
    | .sleeping => presenceLoop pairing true sawUnknown endpoints
    | .unknown => presenceLoop pairing sawSleeping true endpoints
    | .unavailable => presenceLoop pairing sawSleeping sawUnknown endpoints

/-- The endpoints in canonical order. -/
def endpointList (device : DeviceLifecycle) : List EndpointLifecycle := device.endpoints.toList.map (·.2)

def presence (device : DeviceLifecycle) : PresenceState :=
  if device.endpoints.isEmpty then .unknown else
    presenceLoop device.pairing false false device.endpointList

def accepts (device : DeviceLifecycle) (stamp : ObservationStamp) : Bool :=
  stamp.samePosition device.latestObservation ∨ stamp.strictlyAfter device.latestObservation

def note (device : DeviceLifecycle) (stamp : ObservationStamp) : DeviceLifecycle :=
  if stamp.strictlyAfter device.latestObservation then
    { device with latestObservation := stamp }
  else
    device

end DeviceLifecycle

structure ReceiverGenerationLifecycle where
  generationId : GenerationId
  activatedAt : ObservationStamp
  lifecycle : LifecycleFact ReceiverLifecycleState
  devices : Std.TreeMap LogicalDeviceId DeviceLifecycle

namespace ReceiverGenerationLifecycle

def new (stamp : ObservationStamp) : ReceiverGenerationLifecycle :=
  ⟨stamp.generationId, stamp, .observed .active stamp, ∅⟩

/-- The devices in canonical order. -/
def deviceList (generation : ReceiverGenerationLifecycle) : List DeviceLifecycle :=
  generation.devices.toList.map (·.2)

def acceptsReceiverObservation (generation : ReceiverGenerationLifecycle) (stamp : ObservationStamp) : Bool :=
  generation.lifecycle.stamp.any (stamp.strictlyAfter ·) ∧
    generation.deviceList.all fun device => stamp.atOrAfter device.latestObservation

def acceptsReplacement (generation : ReceiverGenerationLifecycle) (stamp : ObservationStamp) : Bool :=
  generation.lifecycle.stamp.any (stamp.lifetimeAtOrAfter ·) ∧
    generation.deviceList.all fun device => stamp.lifetimeAtOrAfter device.latestObservation

end ReceiverGenerationLifecycle

end HyperfluxNext
