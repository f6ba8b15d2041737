import HyperfluxNext.Lifecycle.Machine

namespace HyperfluxNext

/-- One typed passive fact emitted by the kernel transport boundary. -/
inductive LifecycleObservationKind where
  | receiverState (state : ReceiverLifecycleState)
  | registerDevice (identity : ChildIdentity)
  | registerEndpoint (deviceId : LogicalDeviceId) (identity : EndpointIdentity)
  | pairing (deviceId : LogicalDeviceId) (value : PairingState)
  | batteryReported (deviceId : LogicalDeviceId) (percentage : BatteryPercent)
  | batteryUnavailable (deviceId : LogicalDeviceId)
  | batteryStale (deviceId : LogicalDeviceId)
  | batteryCharge (deviceId : LogicalDeviceId) (charge : Option BatteryCharge)
  | route (deviceId : LogicalDeviceId) (endpointId : EndpointId) (value : RouteState)
  | power (deviceId : LogicalDeviceId) (endpointId : EndpointId) (value : PowerState)
  | sleep (deviceId : LogicalDeviceId) (endpointId : EndpointId) (value : SleepState)
  | activity (deviceId : LogicalDeviceId) (endpointId : EndpointId) (value : ActivityState)
  | contact (deviceId : LogicalDeviceId) (endpointId : EndpointId) (value : ContactState)
  | freshness (deviceId : LogicalDeviceId) (endpointId : EndpointId) (value : FreshnessState)

/-- The call on the receiver's machine that applies the fact. -/
def LifecycleObservationKind.op : LifecycleObservationKind → LifecycleOp
  | .receiverState state => .transitionReceiver state
  | .registerDevice identity => .registerDevice identity
  | .registerEndpoint deviceId identity => .registerEndpoint deviceId identity
  | .pairing deviceId value => .observePairing deviceId value
  | .batteryReported deviceId percentage => .observeBatteryReported deviceId percentage
  | .batteryUnavailable deviceId => .observeBatteryUnavailable deviceId
  | .batteryStale deviceId => .markBatteryStale deviceId
  | .batteryCharge deviceId charge => .observeBatteryCharge deviceId charge
  | .route deviceId endpointId value => .observeRoute deviceId endpointId value
  | .power deviceId endpointId value => .observePower deviceId endpointId value
  | .sleep deviceId endpointId value => .observeSleep deviceId endpointId value
  | .activity deviceId endpointId value => .observeActivity deviceId endpointId value
  | .contact deviceId endpointId value => .observeContact deviceId endpointId value
  | .freshness deviceId endpointId value => .observeFreshness deviceId endpointId value

structure LifecycleObservation where
  receiverId : ReceiverId
  stamp : ObservationStamp
  kind : LifecycleObservationKind

end HyperfluxNext
