import HyperfluxNext.Bridge.RuntimeIdentity
import HyperfluxNext.Daemon.ChildBattery
import HyperfluxNext.Driver.Observation
import HyperfluxNext.Lifecycle.ReturnEpoch

namespace HyperfluxNext

open ReturnLifecycle

namespace ObservationKind

def receiverAvailable : Nat := 1
def receiverSuspended : Nat := 2
def endpointProductId : Nat := 3
def endpointRouteRaw : Nat := 4
def endpointBatteryRaw : Nat := 5
def endpointContactRaw : Nat := 6
def endpointChargeRaw : Nat := 7
def endpointActivity : Nat := 8
def identityConflict : Nat := 9

end ObservationKind

namespace ObservationSource

def hidPassive : Nat := 1
def hidInput : Nat := 2
def powerManagement : Nat := 3
def hidFeature : Nat := 4

end ObservationSource

namespace ObservationConfidence

def raw : Nat := 1
def observed : Nat := 2
def exact : Nat := 3

end ObservationConfidence

inductive PassiveEndpointLane where
  | pointer | keyboard
deriving DecidableEq

inductive PassiveBatteryEncoding where
  | linear255

/-- The values that a child's passive reports are decoded by. -/
structure PassiveTelemetryRecord where
  endpointLane : PassiveEndpointLane
  batteryEncoding : PassiveBatteryEncoding
  contactOffMat : List Nat
  contactOnMat : List Nat
  routeAvailable : List Nat
  routeUnavailable : List Nat
  routeIndeterminate : List Nat
  reportImpliesRouteAvailable : Bool
  chargeCharging : List Nat
  chargeNotCharging : List Nat
  routeChargeCharging : List Nat
  routeChargeDischarging : List Nat

inductive ReturnEvidenceSource where
  | batteryReport | contactReport | endpointActivity | routeReturn
deriving DecidableEq

def ReturnEvidenceSource.domain : ReturnEvidenceSource → ReturnEvidence
  | .batteryReport => .batteryReport
  | .contactReport => .contactReport
  | .endpointActivity => .endpointActivity
  | .routeReturn => .routeReturn

structure ReturnPolicyRecord where
  quiescenceCandidateMs : Nat
  observationJitterMs : Nat
  retryOffsetsMs : List Nat
  allowedOpenEvidence : List ReturnEvidenceSource
  allowedAcceleratorEvidence : List ReturnEvidenceSource

structure LifecyclePolicyRecord where
  returnPolicyId : String
  openEvidence : List ReturnEvidenceSource
  acceleratorEvidence : List ReturnEvidenceSource

/-- The parts of a child's profile that its passive reports are read by. -/
structure ChildProfile where
  deviceKind : DeviceKind
  modelName : String
  passive : Option PassiveTelemetryRecord
  lifecycle : Option LifecyclePolicyRecord

structure PassiveCatalog where
  child : ProductId → Option ChildProfile
  returnPolicyById : String → Option ReturnPolicyRecord

inductive PassiveDisposition where
  | applied | ignoredIndeterminateSemantic | ignoredUnknownLane | ignoredUnqualifiedSemantic
  | receiverUnavailable | identityConflict
deriving DecidableEq

inductive DeviceRestoreReadinessPhase where
  | epochOpened | epochAccelerated

structure DeviceRestoreReadiness where
  deviceId : LogicalDeviceId
  epochSequence : SequenceNumber
  openedAtMs : MonotonicMs
  evidenceAtMs : MonotonicMs
  retryOffsetsMs : List Nat
  phase : DeviceRestoreReadinessPhase

structure PassiveTranslation where
  disposition : PassiveDisposition
  observations : List LifecycleObservation
  restoreReady : Option DeviceRestoreReadiness
  charge : Option (ChildBatteryLane × ChildChargeReading)

namespace PassiveTranslation

def ofDisposition (disposition : PassiveDisposition) : PassiveTranslation := ⟨disposition, [], none, none⟩

def applied (observations : List LifecycleObservation) : PassiveTranslation :=
  ⟨.applied, observations, none, none⟩

def restoring (observations : List LifecycleObservation) (readiness : Option DeviceRestoreReadiness) :
    PassiveTranslation :=
  ⟨.applied, observations, readiness, none⟩

def ofCharge (lane : ChildBatteryLane) (reading : ChildChargeReading) (observation : LifecycleObservation) :
    PassiveTranslation :=
  ⟨.applied, [observation], none, some (lane, reading)⟩

end PassiveTranslation

inductive PassiveTranslationError where
  | unsupportedSource (source : Nat)
  | unsupportedConfidence (confidence : Nat)
  | unsupportedEndpointSlot (slot : Nat)
  | invalidObservationValue
  | profileLaneMismatch (productId : ProductId)
  | missingReturnPolicy (productId : ProductId)
  | domain
  | lifecycle (error : LifecycleError)

/-- What is known of the child of one lane. -/
structure LaneBinding where
  productId : ProductId
  deviceId : LogicalDeviceId
  endpointId : EndpointId
  passive : Option PassiveTelemetryRecord
  returnLifecycle : Option EndpointReturnLifecycle
  lastRouteState : Option RouteState
  /-- The contact byte of the latest report, for the charge field behind it. -/
  lastContact : Option (SequenceNumber × ContactState)
  /-- Where the latest level was decoded, for the route word behind it. -/
  lastBattery : Option SequenceNumber

structure PassiveObservationTranslator where
  receiverId : ReceiverId
  generationId : GenerationId
  catalog : PassiveCatalog
  lanes : Std.TreeMap Nat LaneBinding
  receiverWasSuspended : Bool

/-- The sequence right behind another, while there is one. -/
def follows (previous next : SequenceNumber) : Bool := previous.get < u64Max ∧ previous.get + 1 = next.get

def DeviceKind.asStr : DeviceKind → String
  | .receiver => "receiver"
  | .mat => "mat"
  | .mouse => "mouse"
  | .keyboard => "keyboard"
  | .unknown => "unknown"

def PassiveEndpointLane.laneName : PassiveEndpointLane → String
  | .pointer => "pointer"
  | .keyboard => "keyboard"

def passiveLane (slot : Nat) : Except PassiveTranslationError PassiveEndpointLane :=
  if slot = EndpointSlot.pointerLane then .ok .pointer
  else if slot = EndpointSlot.keyboardLane then .ok .keyboard
  else .error (.unsupportedEndpointSlot slot)

def domainText (value : String) : Except PassiveTranslationError (Text 1 128) :=
  match Text.tryFrom 1 128 value with
  | none => .error .domain
  | some identity => .ok identity

theorem domainText_ok {value : String} {identity : Text 1 128} (h : domainText value = .ok identity) :
    identity.asStr = value := by
  unfold domainText Text.tryFrom at h
  split at h
  · cases h
  next found hfound =>
    split at hfound
    · cases hfound
      cases h
      rfl
    · cases hfound

def pairedDeviceName (deviceKind : DeviceKind) (productId : ProductId) : String :=
  "paired-" ++ deviceKind.asStr ++ "-" ++ String.ofList (hexDigits 4 productId.get)

/-- The return detector of a child, from the policy that its profile names. -/
def returnLifecycle (catalog : PassiveCatalog) (productId : ProductId) (lifecycle : LifecyclePolicyRecord) :
    Except PassiveTranslationError EndpointReturnLifecycle :=
  match catalog.returnPolicyById lifecycle.returnPolicyId with
  | none => .error (.missingReturnPolicy productId)
  | some policy =>
    if lifecycle.openEvidence.all (· ∈ policy.allowedOpenEvidence) = false ∨
        lifecycle.acceleratorEvidence.all (· ∈ policy.allowedAcceleratorEvidence) = false then
      .error (.lifecycle .invalidReturnPolicy)
    else
      match EndpointReturnPolicy.new policy.quiescenceCandidateMs policy.observationJitterMs
          policy.retryOffsetsMs (lifecycle.openEvidence.map (·.domain))
          (lifecycle.acceleratorEvidence.map (·.domain)) with
      | .error error => .error (.lifecycle error)
      | .ok policy => .ok (.new policy)

namespace LaneBinding

def routeEvidence (state : RouteState) (binding : LaneBinding) : Option ReturnEvidence × LaneBinding :=
  let departed := binding.lastRouteState ≠ some .unavailable ∧ state = .unavailable
  let returned := binding.lastRouteState = some .unavailable ∧ state = .available ∧
    binding.returnLifecycle.any fun lifecycle => ReturnEvidence.routeReturn ∈ lifecycle.policy.acceleratorEvidence
  (if departed then some .routeDeparture else if returned then some .routeReturn else none,
    { binding with lastRouteState := some state })

/-- The detector is shown one piece of evidence. -/
def observe (evidence : ReturnEvidence) (stamp : ObservationStamp) (binding : LaneBinding) :
    ReturnTransition × LaneBinding :=
  match binding.returnLifecycle with
  | none => (.none, binding)
  | some lifecycle =>
    let (transition, lifecycle) := lifecycle.observe evidence stamp.sequence stamp.observedAtMs
    (transition, { binding with returnLifecycle := some lifecycle })

/-- The restoration that a transition of the detector calls for. -/
def restoreReadiness (transition : ReturnTransition) (evidenceAtMs : MonotonicMs) (binding : LaneBinding) :
    Option DeviceRestoreReadiness :=
  let ready (epoch : ReturnEpoch) (phase : DeviceRestoreReadinessPhase) : Option DeviceRestoreReadiness :=
    binding.returnLifecycle.map fun lifecycle =>
      ⟨binding.deviceId, epoch.sequence, epoch.openedAtMs, evidenceAtMs, lifecycle.policy.retryOffsetsMs, phase⟩
  match transition with
  | .epochOpened epoch => ready epoch .epochOpened
  | .epochAccelerated epoch => ready epoch .epochAccelerated
  | _ => none

/-- What a report shows the detector, if it shows it anything, and the restoration that this calls for. -/
def reported (evidence : ReturnEvidence) (shown : Bool) (stamp : ObservationStamp) (binding : LaneBinding) :
    Option DeviceRestoreReadiness × LaneBinding :=
  let observed := if shown then binding.observe evidence stamp else (.none, binding)
  (observed.2.restoreReadiness observed.1 stamp.observedAtMs, observed.2)

def reportEvidence (passive : PassiveTelemetryRecord) (fallback : ReturnEvidence) (binding : LaneBinding) :
    ReturnEvidence × LaneBinding :=
  if passive.reportImpliesRouteAvailable then
    ((binding.routeEvidence .available).1.getD fallback, (binding.routeEvidence .available).2)
  else (fallback, binding)

/-- A level was decoded. Only that of a passive report can be followed by the route word of the same report. -/
def reportLevel (passive : PassiveTelemetryRecord) (passiveReport : Bool) (stamp : ObservationStamp)
    (binding : LaneBinding) : Option DeviceRestoreReadiness × LaneBinding :=
  let armed := { binding with lastBattery := if passiveReport then some stamp.sequence else none }
  let noted := armed.reportEvidence passive .batteryReport
  noted.2.reported noted.1 true stamp

def reportContact (passive : PassiveTelemetryRecord) (state : ContactState) (stamp : ObservationStamp)
    (binding : LaneBinding) : Option DeviceRestoreReadiness × LaneBinding :=
  let touched := { binding with lastContact := some (stamp.sequence, state) }
  let noted := touched.reportEvidence passive .contactReport
  noted.2.reported noted.1 (state = .onMat) stamp

def reportRoute (state : RouteState) (stamp : ObservationStamp) (binding : LaneBinding) :
    Option DeviceRestoreReadiness × LaneBinding :=
  let noted := binding.routeEvidence state
  noted.2.reported (noted.1.getD .routeReturn) noted.1.isSome stamp

/-- Input was seen, which is evidence of itself where the route's return is not. -/
def reportActivity (stamp : ObservationStamp) (binding : LaneBinding) :
    Option DeviceRestoreReadiness × LaneBinding :=
  let noted := binding.routeEvidence .available
  noted.2.reported (noted.1.getD .endpointActivity) true stamp

end LaneBinding

namespace PassiveTelemetryRecord

def decodeBattery (passive : PassiveTelemetryRecord) (raw : Nat) (h : raw ≤ 255) : BatteryPercent :=
  match passive.batteryEncoding with
  | .linear255 => ⟨(raw * 100 + 127) / 255, Nat.zero_le _, by omega⟩

def decodeContact (passive : PassiveTelemetryRecord) (value : Nat) : ContactState :=
  if value ∈ passive.contactOffMat then .offMat
  else if value ∈ passive.contactOnMat then .onMat
  else .unknown

/-- The charge field, beside the contact of the same report. -/
def decodeCharge (passive : PassiveTelemetryRecord) (value : Nat) (contact : Option ContactState) :
    ChildChargeReading :=
  if value ∈ passive.chargeCharging then .charging
  else if value ∈ passive.chargeNotCharging ∧ contact = some .offMat then .discharging
  else .unknown

def decodeRouteCharge (passive : PassiveTelemetryRecord) (value : Nat) : ChildChargeReading :=
  if value ∈ passive.routeChargeCharging then .charging
  else if value ∈ passive.routeChargeDischarging then .discharging
  else .unknown

end PassiveTelemetryRecord

def stampConfidence (confidence : Nat) :
    Except PassiveTranslationError { known : EvidenceConfidence // known ≠ .unknown } :=
  if confidence = ObservationConfidence.raw then .ok ⟨.derived, by decide⟩
  else if confidence = ObservationConfidence.observed ∨ confidence = ObservationConfidence.exact then
    .ok ⟨.observed, observed_known⟩
  else .error (.unsupportedConfidence confidence)

def stampClaim (source : Nat) : Except PassiveTranslationError EvidenceClaimId :=
  if source = ObservationSource.hidPassive then .ok (.lit "kernel-hid-passive-v1")
  else if source = ObservationSource.hidInput then .ok (.lit "kernel-hid-input-v1")
  else if source = ObservationSource.powerManagement then
    .ok (.lit "kernel-power-management-v1")
  else if source = ObservationSource.hidFeature then .ok (.lit "kernel-hid-feature-v1")
  else .error (.unsupportedSource source)

/-- The answer to a charging-state query of a child that charges. -/
def queriedChargeCharging : Nat := 1

namespace PassiveObservationTranslator

def new (receiverId : ReceiverId) (generationId : GenerationId) (catalog : PassiveCatalog) :
    PassiveObservationTranslator :=
  ⟨receiverId, generationId, catalog, ∅, false⟩

variable (translator : PassiveObservationTranslator)

def stampOf (raw : HfxUapiObservation) : Except PassiveTranslationError ObservationStamp :=
  match stampConfidence raw.confidence with
  | .error error => .error error
  | .ok confidence =>
    match stampClaim raw.source with
    | .error error => .error error
    | .ok claim =>
      match Bounded.tryFrom 0 u64Max raw.sequence, Bounded.tryFrom 0 u64Max (raw.observedBoottimeNs / 1000000) with
      | some sequence, some observedAtMs =>
        .ok ⟨translator.generationId, sequence, observedAtMs, confidence.val, claim, confidence.property⟩
      | _, _ => .error .domain

def observation (stamp : ObservationStamp) (kind : LifecycleObservationKind) : LifecycleObservation :=
  ⟨translator.receiverId, stamp, kind⟩

def withLane (slot : Nat) (binding : LaneBinding) : PassiveObservationTranslator :=
  { translator with lanes := translator.lanes.insert slot binding }

def batteryLane (deviceId : LogicalDeviceId) : Option (ChildBatteryLane × String) :=
  match translator.lanes.toList.find? fun entry => entry.2.deviceId = deviceId with
  | none => none
  | some (slot, binding) =>
    (ChildBatteryLane.fromEndpointSlot slot).map fun lane =>
      (lane, ((translator.catalog.child binding.productId).map (·.modelName)).getD "")

def routeObservations (binding : LaneBinding) (stamp : ObservationStamp) (state : RouteState) :
    List LifecycleObservation :=
  translator.observation stamp (.route binding.deviceId binding.endpointId state) ::
    if state = .available ∨ state = .unavailable then
      [translator.observation stamp (.freshness binding.deviceId binding.endpointId .fresh)]
    else []

def impliedRoute (passive : PassiveTelemetryRecord) (binding : LaneBinding) (stamp : ObservationStamp) :
    List LifecycleObservation :=
  if passive.reportImpliesRouteAvailable then translator.routeObservations binding stamp .available else []

def receiverState (state : ReceiverLifecycleState) (stamp : ObservationStamp) :
    PassiveTranslation × PassiveObservationTranslator :=
  let forgotten := translator.lanes.map fun _ binding =>
    { binding with
      returnLifecycle := binding.returnLifecycle.map (·.resetObservationAnchor)
      lastRouteState := none }
  (.applied [translator.observation stamp (.receiverState state)],
    if state = .suspended then
      { translator with
        lanes := if translator.receiverWasSuspended then translator.lanes else forgotten
        receiverWasSuspended := true }
    else if state = .active then { translator with receiverWasSuspended := false }
    else translator)

def receiverAvailable (value : Nat) (stamp : ObservationStamp) :
    Except PassiveTranslationError PassiveTranslation × PassiveObservationTranslator :=
  if value = 1 then
    (.ok (translator.receiverState .active stamp).1, (translator.receiverState .active stamp).2)
  else if value = 0 then (.ok (.ofDisposition .receiverUnavailable), translator)
  else (.error .invalidObservationValue, translator)

def receiverSuspended (value : Nat) (stamp : ObservationStamp) :
    Except PassiveTranslationError PassiveTranslation × PassiveObservationTranslator :=
  if value = 0 then
    (.ok (translator.receiverState .active stamp).1, (translator.receiverState .active stamp).2)
  else if value = 1 then
    (.ok (translator.receiverState .suspended stamp).1, (translator.receiverState .suspended stamp).2)
  else (.error .invalidObservationValue, translator)

/-- The detector of a lane's child: the one that the lane has, or a new one by the child's profile. -/
def laneLifecycle (slot : Nat) (productId : ProductId) (profile : Option ChildProfile) :
    Except PassiveTranslationError (Option EndpointReturnLifecycle) :=
  match translator.lanes[slot]? with
  | some prior => .ok prior.returnLifecycle
  | none =>
    match profile.bind (·.lifecycle) with
    | none => .ok none
    | some lifecycle => (returnLifecycle translator.catalog productId lifecycle).map some

def registration (slot : Nat) (lane : PassiveEndpointLane) (productId : ProductId) (stamp : ObservationStamp) :
    Except PassiveTranslationError (List LifecycleObservation × LaneBinding) := do
  let profile := translator.catalog.child productId
  let deviceKind := (profile.map (·.deviceKind)).getD .unknown
  let deviceId ← domainText (pairedDeviceName deviceKind productId)
  let endpointId ← domainText ("hyperflux-" ++ lane.laneName)
  let returnLifecycle ← translator.laneLifecycle slot productId profile
  if h : deviceKind ≠ .receiver ∧ deviceKind ≠ .mat then
    return ([translator.observation stamp (.registerDevice ⟨deviceId, deviceKind, productId, h⟩),
        translator.observation stamp (.registerEndpoint deviceId
          ⟨endpointId, .hyperfluxWireless, .hyperflux24ghz, rfl⟩),
        translator.observation stamp (.pairing deviceId .paired)],
      { productId := productId
        deviceId := deviceId
        endpointId := endpointId
        passive := profile.bind (·.passive)
        returnLifecycle := returnLifecycle
        lastRouteState := translator.lanes[slot]?.bind (·.lastRouteState)
        lastContact := none
        lastBattery := none })
  else throw (.lifecycle (.invalidChildKind deviceKind))

def productIdentity (slot value : Nat) (stamp : ObservationStamp) :
    Except PassiveTranslationError PassiveTranslation × PassiveObservationTranslator :=
  match passiveLane slot with
  | .error error => (.error error, translator)
  | .ok lane =>
    if h : value ≤ u16Max ∧ value ≠ 0 ∧ value ≠ u16Max then
      let productId : ProductId := ⟨value, Nat.zero_le _, h.1⟩
      let passive := (translator.catalog.child productId).bind (·.passive)
      if passive.any fun passive => passive.endpointLane ≠ lane then
        (.error (.profileLaneMismatch productId), translator)
      else if translator.lanes[slot]?.any fun current => current.productId ≠ productId then
        (.ok (.ofDisposition .identityConflict), translator)
      else
        match translator.registration slot lane productId stamp with
        | .error error => (.error error, translator)
        | .ok (observations, binding) => (.ok (.applied observations), translator.withLane slot binding)
    else (.error .invalidObservationValue, translator)

def activity (slot value : Nat) (stamp : ObservationStamp) :
    Except PassiveTranslationError PassiveTranslation × PassiveObservationTranslator :=
  if value ≠ 1 then (.error .invalidObservationValue, translator) else
    match translator.lanes[slot]? with
    | none => (.ok (.ofDisposition .ignoredUnknownLane), translator)
    | some binding =>
      let shown := binding.reportActivity stamp
      let fact kind := translator.observation stamp (kind shown.2.deviceId shown.2.endpointId)
      (.ok (.restoring [fact (.route · · .available), fact (.power · · .on), fact (.sleep · · .awake),
          fact (.activity · · .active), fact (.freshness · · .fresh)] shown.1),
        translator.withLane slot shown.2)

def battery (slot value : Nat) (passiveReport : Bool) (stamp : ObservationStamp) :
    Except PassiveTranslationError PassiveTranslation × PassiveObservationTranslator :=
  match translator.lanes[slot]? with
  | none => (.ok (.ofDisposition .ignoredUnknownLane), translator)
  | some binding =>
    match binding.passive with
    | none => (.ok (.ofDisposition .ignoredUnqualifiedSemantic), translator)
    | some passive =>
      if h : value ≤ 255 then
        let shown := binding.reportLevel passive passiveReport stamp
        (.ok (.restoring (translator.observation stamp
              (.batteryReported shown.2.deviceId (passive.decodeBattery value h)) ::
            translator.impliedRoute passive shown.2 stamp) shown.1),
          translator.withLane slot shown.2)
      else (.error .invalidObservationValue, translator)

def contact (slot value : Nat) (stamp : ObservationStamp) : PassiveTranslation × PassiveObservationTranslator :=
  match translator.lanes[slot]? with
  | none => (.ofDisposition .ignoredUnknownLane, translator)
  | some binding =>
    match binding.passive with
    | none => (.ofDisposition .ignoredUnqualifiedSemantic, translator)
    | some passive =>
      if passive.contactOffMat = [] ∧ passive.contactOnMat = [] then
        (.ofDisposition .ignoredUnqualifiedSemantic, translator)
      else
        let state := passive.decodeContact value
        let shown := binding.reportContact passive state stamp
        (.restoring (translator.observation stamp (.contact shown.2.deviceId shown.2.endpointId state) ::
            translator.impliedRoute passive shown.2 stamp) shown.1,
          translator.withLane slot shown.2)

def chargeObservation (deviceId : LogicalDeviceId) (reading : ChildChargeReading) (stamp : ObservationStamp) :
    LifecycleObservation :=
  translator.observation stamp (.batteryCharge deviceId reading.batteryCharge)

/-- A charge field. It is read beside the contact byte only when that came right before it. -/
def charge (slot value : Nat) (stamp : ObservationStamp) : PassiveTranslation × PassiveObservationTranslator :=
  match ChildBatteryLane.fromEndpointSlot slot, translator.lanes[slot]? with
  | some lane, some binding =>
    match binding.passive with
    | none => (.ofDisposition .ignoredUnqualifiedSemantic, translator)
    | some passive =>
      if passive.chargeCharging = [] ∧ passive.chargeNotCharging = [] then
        (.ofDisposition .ignoredUnqualifiedSemantic, translator)
      else
        let sameReportContact := (binding.lastContact.filter fun contact => follows contact.1 stamp.sequence).map (·.2)
        let reading := passive.decodeCharge value sameReportContact
        (.ofCharge lane reading (translator.chargeObservation binding.deviceId reading stamp),
          translator.withLane slot { binding with lastContact := none })
  | _, _ => (.ofDisposition .ignoredUnknownLane, translator)

/-- The answer to a charging-state query; only that the child charges is taken from it. -/
def queriedCharge (slot value : Nat) (stamp : ObservationStamp) : PassiveTranslation :=
  match ChildBatteryLane.fromEndpointSlot slot, translator.lanes[slot]? with
  | some lane, some binding =>
    match binding.passive with
    | none => .ofDisposition .ignoredUnqualifiedSemantic
    | some passive =>
      if passive.chargeCharging = [] then .ofDisposition .ignoredUnqualifiedSemantic
      else if value ≠ queriedChargeCharging then .ofDisposition .ignoredIndeterminateSemantic
      else .ofCharge lane .charging (translator.chargeObservation binding.deviceId .charging stamp)
  | _, _ => .ofDisposition .ignoredUnknownLane

/-- The charge state of a keyboard's status report, from its route word. It counts only right behind the
level of the same report. -/
def routeCharge (slot value : Nat) (stamp : ObservationStamp) :
    Option (ChildBatteryLane × ChildChargeReading) × PassiveObservationTranslator :=
  match ChildBatteryLane.fromEndpointSlot slot, translator.lanes[slot]? with
  | some lane, some binding =>
    let taken := translator.withLane slot { binding with lastBattery := none }
    match binding.passive with
    | none => (none, taken)
    | some passive =>
      if binding.lastBattery.any (follows · stamp.sequence) = false ∨
          (passive.routeChargeCharging = [] ∧ passive.routeChargeDischarging = []) then
        (none, taken)
      else (some (lane, passive.decodeRouteCharge value), taken)
  | _, _ => (none, translator)

def routeState (slot value : Nat) (stamp : ObservationStamp) : PassiveTranslation × PassiveObservationTranslator :=
  match translator.lanes[slot]? with
  | none => (.ofDisposition .ignoredUnknownLane, translator)
  | some binding =>
    match binding.passive with
    | none => (.ofDisposition .ignoredUnqualifiedSemantic, translator)
    | some passive =>
      let decoded (state : RouteState) :=
        let shown := binding.reportRoute state stamp
        (PassiveTranslation.restoring (translator.routeObservations shown.2 stamp state) shown.1,
          translator.withLane slot shown.2)
      if value ∈ passive.routeAvailable then decoded .available
      else if value ∈ passive.routeUnavailable then decoded .unavailable
      else if value ∈ passive.routeIndeterminate then (.ofDisposition .ignoredIndeterminateSemantic, translator)
      else (.ofDisposition .ignoredUnqualifiedSemantic, translator)

/-- The charge observation comes behind those of the route, which share its position. -/
def route (slot value : Nat) (stamp : ObservationStamp) : PassiveTranslation × PassiveObservationTranslator :=
  let read := translator.routeCharge slot value stamp
  let chargeObservation := read.1.bind fun charge =>
    read.2.lanes[slot]?.map fun binding => read.2.chargeObservation binding.deviceId charge.2 stamp
  let state := read.2.routeState slot value stamp
  ({ state.1 with
      charge := read.1
      observations := state.1.observations ++ chargeObservation.toList }, state.2)

/-- The typed facts of one raw kernel observation. -/
def translate (raw : HfxUapiObservation) :
    Except PassiveTranslationError PassiveTranslation × PassiveObservationTranslator :=
  match translator.stampOf raw with
  | .error error => (.error error, translator)
  | .ok stamp =>
    let infallible (result : PassiveTranslation × PassiveObservationTranslator) :
        Except PassiveTranslationError PassiveTranslation × PassiveObservationTranslator :=
      (.ok result.1, result.2)
    if raw.kind = ObservationKind.receiverAvailable then translator.receiverAvailable raw.value stamp
    else if raw.kind = ObservationKind.receiverSuspended then translator.receiverSuspended raw.value stamp
    else if raw.kind = ObservationKind.endpointProductId then
      translator.productIdentity raw.endpointSlot raw.value stamp
    else if raw.kind = ObservationKind.endpointActivity then
      translator.activity raw.endpointSlot raw.value stamp
    else if raw.kind = ObservationKind.endpointBatteryRaw then
      translator.battery raw.endpointSlot raw.value (raw.source = ObservationSource.hidPassive) stamp
    else if raw.kind = ObservationKind.endpointContactRaw then
      infallible (translator.contact raw.endpointSlot raw.value stamp)
    else if raw.kind = ObservationKind.endpointRouteRaw then
      infallible (translator.route raw.endpointSlot raw.value stamp)
    else if raw.kind = ObservationKind.endpointChargeRaw then
      if raw.source = ObservationSource.hidFeature then
        (.ok (translator.queriedCharge raw.endpointSlot raw.value stamp), translator)
      else infallible (translator.charge raw.endpointSlot raw.value stamp)
    else if raw.kind = ObservationKind.identityConflict then
      (.ok (.ofDisposition .identityConflict), translator)
    else (.ok (.ofDisposition .ignoredUnqualifiedSemantic), translator)

end PassiveObservationTranslator

end HyperfluxNext
