import HyperfluxNext.Lifecycle.Facts

namespace HyperfluxNext

open EndpointLifecycle

structure ReceiverLifecycleMachine where
  receiverId : ReceiverId
  limits : LifecycleLimits
  latestGeneration : Option GenerationId
  retiredGenerations : List GenerationId
  lastReceiverObservation : Option ObservationStamp
  current : Option ReceiverGenerationLifecycle

/-- A fact of a record: how it is read and how it is replaced. -/
structure FactField (σ α : Type) where
  get : σ → LifecycleFact α
  set : σ → LifecycleFact α → σ

namespace EndpointLifecycle

def routeField : FactField EndpointLifecycle RouteState :=
  ⟨(·.route), fun endpoint fact => { endpoint with route := fact }⟩

def powerField : FactField EndpointLifecycle PowerState :=
  ⟨(·.power), fun endpoint fact => { endpoint with power := fact }⟩

def sleepField : FactField EndpointLifecycle SleepState :=
  ⟨(·.sleep), fun endpoint fact => { endpoint with sleep := fact }⟩

def activityField : FactField EndpointLifecycle ActivityState :=
  ⟨(·.activity), fun endpoint fact => { endpoint with activity := fact }⟩

def contactField : FactField EndpointLifecycle ContactState :=
  ⟨(·.contact), fun endpoint fact => { endpoint with contact := fact }⟩

def freshnessField : FactField EndpointLifecycle FreshnessState :=
  ⟨(·.freshness), fun endpoint fact => { endpoint with freshness := fact }⟩

end EndpointLifecycle

def infallible {σ : Type} (result : ApplyOutcome × σ) : Except LifecycleError ApplyOutcome × σ :=
  (.ok result.1, result.2)

def observedOutcome (applied : Bool) : ApplyOutcome :=
  if applied then .applied else .ignoredOlderObservation

namespace DeviceLifecycle

/-- Receiver-inventory pairing evidence. -/
def observePairing (device : DeviceLifecycle) (value : PairingState) (stamp : ObservationStamp) :
    ApplyOutcome × DeviceLifecycle :=
  if device.accepts stamp = false then (.ignoredOlderObservation, device) else
    let (pairing, applied) := device.pairing.apply value stamp
    (observedOutcome applied, { device.note stamp with pairing := pairing })

def observeBatteryValue (device : DeviceLifecycle) (value : BatteryValue) (stamp : ObservationStamp) :
    ApplyOutcome × DeviceLifecycle :=
  if device.accepts stamp = false then (.ignoredOlderObservation, device)
  else if device.battery.value.accepts stamp = false ∨ device.battery.freshness.accepts stamp = false then
    (.ignoredOlderObservation, device)
  else
    let (battery, applied) := device.battery.applyValue value stamp
    (observedOutcome applied, { device.note stamp with battery := battery })

def observeBatteryCharge (device : DeviceLifecycle) (charge : Option BatteryCharge)
    (stamp : ObservationStamp) : ApplyOutcome × DeviceLifecycle :=
  if device.accepts stamp = false then (.ignoredOlderObservation, device)
  else if device.battery.value.value.isReported = false then (.rejectedInvalidTransition, device)
  else if device.battery.charge.accepts stamp = false then (.ignoredOlderObservation, device)
  else
    let (battery, applied) := device.battery.applyCharge charge stamp
    (observedOutcome applied, { device.note stamp with battery := battery })

def markBatteryStale (device : DeviceLifecycle) (stamp : ObservationStamp) : ApplyOutcome × DeviceLifecycle :=
  if device.accepts stamp = false then (.ignoredOlderObservation, device)
  else if device.battery.value.isObserved = false then (.rejectedInvalidTransition, device)
  else if device.battery.freshness.accepts stamp = false then (.ignoredOlderObservation, device)
  else
    let (battery, applied) := device.battery.markStale stamp
    (observedOutcome applied, { device.note stamp with battery := battery })

def registerEndpoint (device : DeviceLifecycle) (deviceId : LogicalDeviceId)
    (limits : LifecycleLimits) (identity : EndpointIdentity) (stamp : ObservationStamp) :
    Except LifecycleError ApplyOutcome × DeviceLifecycle :=
  if device.accepts stamp = false then (.ok .ignoredOlderObservation, device) else
    match device.endpoints[identity.endpointId]? with
    | some endpoint =>
      if endpoint.identity ≠ identity then
        (.error (.endpointIdentityConflict identity.endpointId), device)
      else if stamp.strictlyAfter endpoint.registeredAt = false then
        (.ok .ignoredOlderObservation, device)
      else
        (.ok .applied, { device.note stamp with
          endpoints := device.endpoints.insert identity.endpointId { endpoint with registeredAt := stamp } })
    | none =>
      if device.endpoints.size ≥ limits.maxEndpointsPerDevice then
        (.error (.endpointCapacity deviceId), device)
      else
        (.ok .applied, { device.note stamp with
          endpoints := device.endpoints.insert identity.endpointId
            (.new identity stamp device.identity.deviceKind) })

def applyEndpointFact {α : Type} (device : DeviceLifecycle) (endpointId : EndpointId) (value : α)
    (stamp : ObservationStamp) (field : FactField EndpointLifecycle α) :
    Except LifecycleError ApplyOutcome × DeviceLifecycle :=
  if device.accepts stamp = false then (.ok .ignoredOlderObservation, device) else
    match device.endpoints[endpointId]? with
    | none => (.error (.unknownEndpoint endpointId), device)
    | some endpoint =>
      let (fact, applied) := (field.get endpoint).apply value stamp
      (.ok (observedOutcome applied), { device.note stamp with
        endpoints := device.endpoints.insert endpointId (field.set endpoint fact) })

/-- Only mice report contact with the mat. -/
def applyContact (device : DeviceLifecycle) (endpointId : EndpointId) (value : ContactState)
    (stamp : ObservationStamp) : Except LifecycleError ApplyOutcome × DeviceLifecycle :=
  if device.identity.deviceKind ≠ .mouse then (.ok .rejectedInvalidTransition, device) else
    device.applyEndpointFact endpointId value stamp contactField

end DeviceLifecycle

def maxRetiredGenerations : Nat := 256

def validReceiverTransition (source target : ReceiverLifecycleState) : Bool :=
  source ≠ .unknown ∧ target ≠ .unknown ∧ (source ≠ .disconnecting ∨ target = .disconnecting)

namespace ReceiverLifecycleMachine

def new (receiverId : ReceiverId) (limits : LifecycleLimits) : ReceiverLifecycleMachine :=
  ⟨receiverId, limits, none, [], none, none⟩

def generationRejection (machine : ReceiverLifecycleMachine) (generationId : GenerationId) : Option ApplyOutcome :=
  match machine.current with
  | some current => if generationId = current.generationId then none else some .rejectedStaleGeneration
  | none =>
    if machine.latestGeneration = some generationId ∨ generationId ∈ machine.retiredGenerations then
      some .rejectedStaleGeneration
    else
      some .rejectedReceiverAbsent

def rememberRetiredGeneration (machine : ReceiverLifecycleMachine) (generationId : GenerationId) :
    ReceiverLifecycleMachine :=
  if generationId ∈ machine.retiredGenerations then machine
  else if machine.retiredGenerations.length = maxRetiredGenerations then
    { machine with retiredGenerations := machine.retiredGenerations.tail ++ [generationId] }
  else
    { machine with retiredGenerations := machine.retiredGenerations ++ [generationId] }

def discover (machine : ReceiverLifecycleMachine) (stamp : ObservationStamp) :
    ApplyOutcome × ReceiverLifecycleMachine :=
  if machine.latestGeneration = some stamp.generationId ∨ stamp.generationId ∈ machine.retiredGenerations then
    (.rejectedStaleGeneration, machine)
  else if machine.current.isSome then (.rejectedStaleGeneration, machine)
  else if machine.lastReceiverObservation.any fun last => !stamp.lifetimeAtOrAfter last then
    (.ignoredOlderObservation, machine)
  else
    (.applied, { machine with
      latestGeneration := some stamp.generationId
      lastReceiverObservation := some stamp
      current := some (.new stamp) })

/-- Retires the current generation and starts a newer empty one. -/
def replaceGeneration (machine : ReceiverLifecycleMachine) (stamp : ObservationStamp) :
    ApplyOutcome × ReceiverLifecycleMachine :=
  match machine.current with
  | none =>
    if machine.latestGeneration = some stamp.generationId then (.rejectedStaleGeneration, machine)
    else (.rejectedReceiverAbsent, machine)
  | some current =>
    if stamp.generationId = current.generationId ∨ stamp.generationId ∈ machine.retiredGenerations then
      (.rejectedStaleGeneration, machine)
    else if current.acceptsReplacement stamp = false then (.ignoredOlderObservation, machine)
    else
      (.applied, { machine.rememberRetiredGeneration current.generationId with
        latestGeneration := some stamp.generationId
        lastReceiverObservation := some stamp
        current := some (.new stamp) })

def transitionReceiver (machine : ReceiverLifecycleMachine) (target : ReceiverLifecycleState)
    (stamp : ObservationStamp) : ApplyOutcome × ReceiverLifecycleMachine :=
  match machine.generationRejection stamp.generationId with
  | some outcome => (outcome, machine)
  | none =>
    match machine.current with
    | none => (.rejectedReceiverAbsent, machine)
    | some current =>
      if current.acceptsReceiverObservation stamp = false then (.ignoredOlderObservation, machine)
      else if validReceiverTransition current.lifecycle.value target = false then
        (.rejectedInvalidTransition, machine)
      else
        (.applied, { machine with
          lastReceiverObservation := some stamp
          current := some { current with lifecycle := (current.lifecycle.apply target stamp).1 } })

def completeDisconnect (machine : ReceiverLifecycleMachine) (stamp : ObservationStamp) :
    ApplyOutcome × ReceiverLifecycleMachine :=
  match machine.generationRejection stamp.generationId with
  | some outcome => (outcome, machine)
  | none =>
    match machine.current with
    | none => (.rejectedReceiverAbsent, machine)
    | some current =>
      if current.acceptsReceiverObservation stamp = false then (.ignoredOlderObservation, machine)
      else if current.lifecycle.value ≠ .disconnecting then (.rejectedInvalidTransition, machine)
      else
        (.applied, rememberRetiredGeneration
          { machine with lastReceiverObservation := some stamp, current := none } current.generationId)

def deviceObservationRejection (machine : ReceiverLifecycleMachine) (stamp : ObservationStamp) :
    Option ApplyOutcome :=
  match machine.generationRejection stamp.generationId with
  | some outcome => some outcome
  | none =>
    match machine.current with
    | none => none
    | some current =>
      if current.lifecycle.value = .disconnecting then some .rejectedReceiverAbsent else none

/-- Registers or refreshes one independent logical child. -/
def registerDevice (machine : ReceiverLifecycleMachine) (identity : ChildIdentity)
    (stamp : ObservationStamp) : Except LifecycleError ApplyOutcome × ReceiverLifecycleMachine :=
  match machine.deviceObservationRejection stamp with
  | some outcome => (.ok outcome, machine)
  | none =>
    match machine.current with
    | none => (.ok .rejectedReceiverAbsent, machine)
    | some current =>
      if stamp.atOrAfter current.activatedAt = false then (.ok .ignoredOlderObservation, machine) else
        match current.devices[identity.deviceId]? with
        | some device =>
          if device.accepts stamp = false then (.ok .ignoredOlderObservation, machine)
          else if device.identity ≠ identity then
            (.error (.deviceIdentityConflict identity.deviceId), machine)
          else if stamp.strictlyAfter device.registeredAt = false then
            (.ok .ignoredOlderObservation, machine)
          else
            (.ok .applied, { machine with current := some { current with
              devices := current.devices.insert identity.deviceId
                { device.note stamp with registeredAt := stamp } } })
        | none =>
          if current.devices.size ≥ machine.limits.maxDevices then (.error .deviceCapacity, machine)
          else
            (.ok .applied, { machine with current := some { current with
              devices := current.devices.insert identity.deviceId (.new identity stamp) } })

/-- What every observation of a known child does around the child's own update. -/
def onDevice (machine : ReceiverLifecycleMachine) (deviceId : LogicalDeviceId) (stamp : ObservationStamp)
    (update : DeviceLifecycle → Except LifecycleError ApplyOutcome × DeviceLifecycle) :
    Except LifecycleError ApplyOutcome × ReceiverLifecycleMachine :=
  match machine.deviceObservationRejection stamp with
  | some outcome => (.ok outcome, machine)
  | none =>
    match machine.current with
    | none => (.ok .rejectedReceiverAbsent, machine)
    | some current =>
      match current.devices[deviceId]? with
      | none => (.ok .rejectedUnknownDevice, machine)
      | some device =>
        let (result, device) := update device
        (result, { machine with current := some { current with
          devices := current.devices.insert deviceId device } })

def observePairing (machine : ReceiverLifecycleMachine) (deviceId : LogicalDeviceId)
    (value : PairingState) (stamp : ObservationStamp) :
    Except LifecycleError ApplyOutcome × ReceiverLifecycleMachine :=
  if value = .unknown then (.ok .rejectedInvalidTransition, machine) else
    machine.onDevice deviceId stamp fun device => infallible (device.observePairing value stamp)

def observeBatteryReported (machine : ReceiverLifecycleMachine) (deviceId : LogicalDeviceId)
    (percentage : BatteryPercent) (stamp : ObservationStamp) :
    Except LifecycleError ApplyOutcome × ReceiverLifecycleMachine :=
  machine.onDevice deviceId stamp fun device =>
    infallible (device.observeBatteryValue (.reported percentage) stamp)

def observeBatteryUnavailable (machine : ReceiverLifecycleMachine) (deviceId : LogicalDeviceId)
    (stamp : ObservationStamp) : Except LifecycleError ApplyOutcome × ReceiverLifecycleMachine :=
  machine.onDevice deviceId stamp fun device => infallible (device.observeBatteryValue .unavailable stamp)

def observeBatteryCharge (machine : ReceiverLifecycleMachine) (deviceId : LogicalDeviceId)
    (charge : Option BatteryCharge) (stamp : ObservationStamp) :
    Except LifecycleError ApplyOutcome × ReceiverLifecycleMachine :=
  machine.onDevice deviceId stamp fun device => infallible (device.observeBatteryCharge charge stamp)

def markBatteryStale (machine : ReceiverLifecycleMachine) (deviceId : LogicalDeviceId)
    (stamp : ObservationStamp) : Except LifecycleError ApplyOutcome × ReceiverLifecycleMachine :=
  machine.onDevice deviceId stamp fun device => infallible (device.markBatteryStale stamp)

def registerEndpoint (machine : ReceiverLifecycleMachine) (deviceId : LogicalDeviceId)
    (identity : EndpointIdentity) (stamp : ObservationStamp) :
    Except LifecycleError ApplyOutcome × ReceiverLifecycleMachine :=
  machine.onDevice deviceId stamp fun device => device.registerEndpoint deviceId machine.limits identity stamp

/-- Passive endpoint evidence; the unknown value is never evidence. -/
def observeEndpointFact {α : Type} [DecidableEq α] (machine : ReceiverLifecycleMachine)
    (deviceId : LogicalDeviceId) (endpointId : EndpointId) (unknown value : α)
    (stamp : ObservationStamp) (field : FactField EndpointLifecycle α) :
    Except LifecycleError ApplyOutcome × ReceiverLifecycleMachine :=
  if value = unknown then (.ok .rejectedInvalidTransition, machine) else
    machine.onDevice deviceId stamp fun device => device.applyEndpointFact endpointId value stamp field

def observeRoute (machine : ReceiverLifecycleMachine) (deviceId : LogicalDeviceId)
    (endpointId : EndpointId) (value : RouteState) (stamp : ObservationStamp) :
    Except LifecycleError ApplyOutcome × ReceiverLifecycleMachine :=
  machine.observeEndpointFact deviceId endpointId .unknown value stamp routeField

def observePower (machine : ReceiverLifecycleMachine) (deviceId : LogicalDeviceId)
    (endpointId : EndpointId) (value : PowerState) (stamp : ObservationStamp) :
    Except LifecycleError ApplyOutcome × ReceiverLifecycleMachine :=
  machine.observeEndpointFact deviceId endpointId .unknown value stamp powerField

def observeSleep (machine : ReceiverLifecycleMachine) (deviceId : LogicalDeviceId)
    (endpointId : EndpointId) (value : SleepState) (stamp : ObservationStamp) :
    Except LifecycleError ApplyOutcome × ReceiverLifecycleMachine :=
  machine.observeEndpointFact deviceId endpointId .unknown value stamp sleepField

def observeActivity (machine : ReceiverLifecycleMachine) (deviceId : LogicalDeviceId)
    (endpointId : EndpointId) (value : ActivityState) (stamp : ObservationStamp) :
    Except LifecycleError ApplyOutcome × ReceiverLifecycleMachine :=
  machine.observeEndpointFact deviceId endpointId .unknown value stamp activityField

def observeFreshness (machine : ReceiverLifecycleMachine) (deviceId : LogicalDeviceId)
    (endpointId : EndpointId) (value : FreshnessState) (stamp : ObservationStamp) :
    Except LifecycleError ApplyOutcome × ReceiverLifecycleMachine :=
  machine.observeEndpointFact deviceId endpointId .unknown value stamp freshnessField

def observeContact (machine : ReceiverLifecycleMachine) (deviceId : LogicalDeviceId)
    (endpointId : EndpointId) (value : ContactState) (stamp : ObservationStamp) :
    Except LifecycleError ApplyOutcome × ReceiverLifecycleMachine :=
  if value = .unknown ∨ value = .notApplicable then (.ok .rejectedInvalidTransition, machine) else
    machine.onDevice deviceId stamp fun device => device.applyContact endpointId value stamp

end ReceiverLifecycleMachine

/-- The calls on one receiver's machine, besides their stamp. -/
inductive LifecycleOp where
  | discover
  | replaceGeneration
  | transitionReceiver (target : ReceiverLifecycleState)
  | completeDisconnect
  | registerDevice (identity : ChildIdentity)
  | observePairing (deviceId : LogicalDeviceId) (value : PairingState)
  | observeBatteryReported (deviceId : LogicalDeviceId) (percentage : BatteryPercent)
  | observeBatteryUnavailable (deviceId : LogicalDeviceId)
  | observeBatteryCharge (deviceId : LogicalDeviceId) (charge : Option BatteryCharge)
  | markBatteryStale (deviceId : LogicalDeviceId)
  | registerEndpoint (deviceId : LogicalDeviceId) (identity : EndpointIdentity)
  | observeRoute (deviceId : LogicalDeviceId) (endpointId : EndpointId) (value : RouteState)
  | observePower (deviceId : LogicalDeviceId) (endpointId : EndpointId) (value : PowerState)
  | observeSleep (deviceId : LogicalDeviceId) (endpointId : EndpointId) (value : SleepState)
  | observeActivity (deviceId : LogicalDeviceId) (endpointId : EndpointId) (value : ActivityState)
  | observeContact (deviceId : LogicalDeviceId) (endpointId : EndpointId) (value : ContactState)
  | observeFreshness (deviceId : LogicalDeviceId) (endpointId : EndpointId) (value : FreshnessState)

def LifecycleOp.call (op : LifecycleOp) (stamp : ObservationStamp) (machine : ReceiverLifecycleMachine) :
    Except LifecycleError ApplyOutcome × ReceiverLifecycleMachine :=
  match op with
  | .discover => infallible (machine.discover stamp)
  | .replaceGeneration => infallible (machine.replaceGeneration stamp)
  | .transitionReceiver target => infallible (machine.transitionReceiver target stamp)
  | .completeDisconnect => infallible (machine.completeDisconnect stamp)
  | .registerDevice identity => machine.registerDevice identity stamp
  | .observePairing deviceId value => machine.observePairing deviceId value stamp
  | .observeBatteryReported deviceId percentage => machine.observeBatteryReported deviceId percentage stamp
  | .observeBatteryUnavailable deviceId => machine.observeBatteryUnavailable deviceId stamp
  | .observeBatteryCharge deviceId charge => machine.observeBatteryCharge deviceId charge stamp
  | .markBatteryStale deviceId => machine.markBatteryStale deviceId stamp
  | .registerEndpoint deviceId identity => machine.registerEndpoint deviceId identity stamp
  | .observeRoute deviceId endpointId value => machine.observeRoute deviceId endpointId value stamp
  | .observePower deviceId endpointId value => machine.observePower deviceId endpointId value stamp
  | .observeSleep deviceId endpointId value => machine.observeSleep deviceId endpointId value stamp
  | .observeActivity deviceId endpointId value => machine.observeActivity deviceId endpointId value stamp
  | .observeContact deviceId endpointId value => machine.observeContact deviceId endpointId value stamp
  | .observeFreshness deviceId endpointId value => machine.observeFreshness deviceId endpointId value stamp

inductive ReceiverRegistryError where
  | invalidCapacity
  | capacityExhausted
  | duplicateReceiver (receiverId : ReceiverId)

structure ReceiverLifecycleRegistry where
  capacity : Nat
  receivers : Std.TreeMap ReceiverId ReceiverLifecycleMachine
  bounded : 1 ≤ capacity ∧ capacity ≤ 16

namespace ReceiverLifecycleRegistry

def new (capacity : Nat) : Except ReceiverRegistryError ReceiverLifecycleRegistry :=
  if h : 1 ≤ capacity ∧ capacity ≤ 16 then .ok ⟨capacity, ∅, h⟩ else .error .invalidCapacity

def register (registry : ReceiverLifecycleRegistry) (machine : ReceiverLifecycleMachine) :
    Except ReceiverRegistryError ReceiverLifecycleRegistry :=
  if machine.receiverId ∈ registry.receivers then .error (.duplicateReceiver machine.receiverId)
  else if registry.receivers.size = registry.capacity then .error .capacityExhausted
  else .ok { registry with receivers := registry.receivers.insert machine.receiverId machine }

def observe (registry : ReceiverLifecycleRegistry) (receiverId : ReceiverId) (op : LifecycleOp)
    (stamp : ObservationStamp) : ReceiverLifecycleRegistry :=
  match registry.receivers[receiverId]? with
  | none => registry
  | some machine =>
    { registry with receivers := registry.receivers.insert receiverId (op.call stamp machine).2 }

end ReceiverLifecycleRegistry

end HyperfluxNext
