import HyperfluxNext.Bridge.ObservationIngress
import HyperfluxNext.Daemon.PassiveTranslator

namespace HyperfluxNext

open Procedure

/-- What the runtime asks of the rest of the daemon while it works through an endpoint's observations: the
transport's routes, the restoration scheduler and the native routes. -/
class EndpointServices (σ : Type) (ε : outParam Type) where
  currentGeneration : ReceiverId → σ → Option GenerationId
  observeTransport : ReceiverId → GenerationId → σ → Except ε Unit × σ
  scheduleSystemSuspend : ReceiverId → GenerationId → σ → Except ε Unit × σ
  scheduleSystemResume : ReceiverId → GenerationId → SequenceNumber → σ → Except ε Unit × σ
  refreshNativeRoutes : ReceiverId → GenerationId → LogicalDeviceId → SequenceNumber → σ → Except ε Unit × σ
  scheduleReturnEpoch : ReceiverId → GenerationId → DeviceRestoreReadiness → σ → Except ε Unit × σ
  accelerateReturnEpoch : ReceiverId → GenerationId → DeviceRestoreReadiness → σ → Except ε Unit × σ

open EndpointServices

inductive RuntimeTickError (ε : Type) where
  | observation (error : LifecycleObservationError)
  | translation (error : PassiveTranslationError)
  | service (error : ε)

/-- One receiver endpoint of the runtime. How often its writer was released is only counted here. -/
structure ActiveEndpoint where
  receiverId : ReceiverId
  generationId : GenerationId
  translator : PassiveObservationTranslator
  battery : ChildBatteryForwarder
  writeDisqualified : Bool
  releases : Nat

/-- The endpoint beside the state of the daemon that its observations change. -/
structure EndpointRun (σ : Type) where
  endpoint : ActiveEndpoint
  receivers : ReceiverLifecycleRegistry
  events : BoundedEventLog
  services : σ

namespace EndpointRun

variable {σ ε : Type} [EndpointServices σ ε]

abbrev EndpointM (σ ε : Type) := EStateM (RuntimeTickError ε) (EndpointRun σ)

def service (call : σ → Except ε Unit × σ) : EndpointM σ ε Unit := fun run =>
  match call run.services with
  | (.ok _, services) => .ok () { run with services := services }
  | (.error error, services) => .error (.service error) { run with services := services }

def observeLifecycle (observation : LifecycleObservation) : EndpointM σ ε LifecycleObservationOutcome := fun run =>
  match observation.apply (currentGeneration observation.receiverId run.services) run.receivers run.events with
  | .error error => .error (.observation error) run
  | .ok (outcome, receivers, events) => .ok outcome { run with receivers := receivers, events := events }

def recordBattery (kind : LifecycleObservationKind) (run : EndpointRun σ) : EndpointRun σ :=
  { run with endpoint.battery := run.endpoint.battery.record kind run.endpoint.translator.batteryLane }

def isSuspended : ReceiverLifecycleState → Bool
  | .suspended => true
  | .partiallySuspended => true
  | _ => false

/-- The scheduling that an applied fact calls for: of a suspend when it begins, of a resume when it ends. -/
def scheduleTransition (applied : AppliedLifecycleObservation) (sequence : SequenceNumber) : EndpointM σ ε Unit :=
  if isSuspended applied.receiverBefore = false ∧ isSuspended applied.receiverAfter = true then
    service (scheduleSystemSuspend applied.receiverId applied.generationId)
  else if isSuspended applied.receiverBefore = true ∧ applied.receiverAfter = .active then
    service (scheduleSystemResume applied.receiverId applied.generationId sequence)
  else pure ()

def applyObservation (observation : LifecycleObservation) : EndpointM σ ε Unit := do
  match ← observeLifecycle observation with
  | .ignored _ => pure ()
  | .applied applied => do
    modify (recordBattery observation.kind)
    scheduleTransition applied observation.stamp.sequence

def noteCharge : Option (ChildBatteryLane × ChildChargeReading) → EndpointM σ ε Unit
  | none => pure ()
  | some (lane, reading) => modify fun run =>
    { run with endpoint.battery := run.endpoint.battery.recordCharge lane reading }

def scheduleReadiness : Option DeviceRestoreReadiness → EndpointM σ ε Unit
  | none => pure ()
  | some readiness => do
    let endpoint := (← get).endpoint
    match readiness.phase with
    | .epochOpened => do
      service (refreshNativeRoutes endpoint.receiverId endpoint.generationId readiness.deviceId
        readiness.epochSequence)
      service (scheduleReturnEpoch endpoint.receiverId endpoint.generationId readiness)
    | .epochAccelerated => service (accelerateReturnEpoch endpoint.receiverId endpoint.generationId readiness)

def applyLifecycleTranslation (translation : PassiveTranslation) : EndpointM σ ε Unit := do
  let _ ← each applyObservation translation.observations
  noteCharge translation.charge
  scheduleReadiness translation.restoreReady

/-- Closing the writer drops every battery that it published. -/
def releaseWriter (run : EndpointRun σ) : EndpointRun σ :=
  { run with
    endpoint.battery := run.endpoint.battery.writerReleased
    endpoint.releases := run.endpoint.releases + 1 }

def downgrade : EndpointM σ ε Unit := do
  let endpoint := (← get).endpoint
  if endpoint.writeDisqualified then pure () else do
    modify fun run => { run with endpoint.writeDisqualified := true }
    service (observeTransport endpoint.receiverId endpoint.generationId)
    modify releaseWriter

/-- Whether a translation error is one the runtime goes on behind. -/
def tolerated : PassiveTranslationError → Bool
  | .profileLaneMismatch _ => true
  | .invalidObservationValue => true
  | _ => false

def downgradeOn (disposition : PassiveDisposition) : EndpointM σ ε Unit :=
  if disposition = .identityConflict then downgrade else pure ()

/-- Whether the endpoint stays behind a translation. -/
def processTranslation (translation : PassiveTranslation) : EndpointM σ ε Bool := do
  downgradeOn translation.disposition
  if translation.disposition = .receiverUnavailable then pure false else do
    applyLifecycleTranslation translation
    pure true

def processFailure (error : PassiveTranslationError) : EndpointM σ ε Bool := do
  downgrade
  if tolerated error then pure true else throw (.translation error)

def processObservation (raw : HfxUapiObservation) : EndpointM σ ε Bool := do
  let (result, translator) := (← get).endpoint.translator.translate raw
  modify fun run => { run with endpoint.translator := translator }
  match result with
  | .ok translation => processTranslation translation
  | .error error => processFailure error

/-- What is done with an endpoint between its admission and its retirement. -/
inductive EndpointStep where
  | observation (raw : HfxUapiObservation)
  | cursorGap
  | installWriter
  | refuseWriter
  | forward (answers : ChildBatteryLane → Bool)

def perform : EndpointStep → EndpointM σ ε Bool
  | .observation raw => processObservation raw
  | .cursorGap => do
    downgrade
    pure true
  | .installWriter => do
    modify fun run => { run with endpoint.battery := run.endpoint.battery.writerInstalled }
    pure true
  | .refuseWriter => do
    modify fun run => { run with endpoint.writeDisqualified := true }
    pure true
  | .forward answers => do
    modify fun run =>
      { run with endpoint.battery :=
          (run.endpoint.battery.flush (fun lane _ (kernel : Unit) => (answers lane, kernel)) ()).2.1 }
    pure true

/-- Works through the steps until one fails or finds the receiver gone. -/
def process : List EndpointStep → EndpointM σ ε Bool
  | [] => pure true
  | step :: steps => do
    match ← perform step with
    | false => pure false
    | true => process steps

end EndpointRun

end HyperfluxNext
