import HyperfluxNext.Bridge.ObservationIngress
import HyperfluxNext.Lifecycle.Discipline

namespace HyperfluxNext

open DeviceLifecycle

/-- The facts of one endpoint of a child, as a report implies them. -/
def LifecycleObservationKind.ofEndpoint (deviceId : LogicalDeviceId) : LifecycleObservationKind → Bool
  | .route other _ _ => other = deviceId
  | .power other _ _ => other = deviceId
  | .sleep other _ _ => other = deviceId
  | .activity other _ _ => other = deviceId
  | .contact other _ _ => other = deviceId
  | .freshness other _ _ => other = deviceId
  | _ => false

theorem ofEndpoint_updates {kind : LifecycleObservationKind} {deviceId : LogicalDeviceId}
    (h : kind.ofEndpoint deviceId = true) : kind.updatesBattery = false := by
  cases kind <;> first | rfl | cases h

namespace LifecycleFact

variable {α : Type} {fact : LifecycleFact α} {value : α} {stamp : ObservationStamp}

theorem apply_of_accepts (h : fact.accepts stamp = true) : fact.apply value stamp = (observed value stamp, true) :=
  if_pos h

end LifecycleFact

namespace DeviceLifecycle

variable {device device' : DeviceLifecycle} {stamp : ObservationStamp} {α : Type}
  {charge : Option BatteryCharge}

/-- What was taken at a position is followed by what comes at the same position. -/
theorem note_accepts (h : device.accepts stamp = true) : (device.note stamp).accepts stamp = true := by
  unfold note
  split
  · unfold accepts ObservationStamp.samePosition
    simp
  · exact h

theorem observePairing_battery (value : PairingState) (device : DeviceLifecycle) (stamp : ObservationStamp) :
    (device.observePairing value stamp).2.battery = device.battery := by
  unfold observePairing
  split
  · rfl
  · exact note_battery device stamp

theorem registerEndpoint_battery (deviceId : LogicalDeviceId) (limits : LifecycleLimits)
    (identity : EndpointIdentity) (device : DeviceLifecycle) (stamp : ObservationStamp) :
    (device.registerEndpoint deviceId limits identity stamp).2.battery = device.battery := by
  unfold registerEndpoint
  split
  · rfl
  split
  · split
    · rfl
    split
    · rfl
    · exact note_battery device stamp
  split
  · rfl
  · exact note_battery device stamp

theorem applyEndpointFact_battery (endpointId : EndpointId) (value : α) (field : FactField EndpointLifecycle α)
    (device : DeviceLifecycle) (stamp : ObservationStamp) :
    (device.applyEndpointFact endpointId value stamp field).2.battery = device.battery := by
  unfold applyEndpointFact
  split
  · rfl
  split
  · rfl
  · exact note_battery device stamp

theorem applyEndpointFact_accepts {endpointId : EndpointId} {value : α} {field : FactField EndpointLifecycle α}
    (h : device.applyEndpointFact endpointId value stamp field = (.ok .applied, device')) :
    device.accepts stamp = true ∧ device'.accepts stamp = true := by
  unfold applyEndpointFact at h
  split at h
  · cases h
  next haccepts =>
    have haccepts : device.accepts stamp = true := eq_true_of_ne_false haccepts
    split at h
    · cases h
    have hdevice := (Prod.mk.inj h).2
    refine ⟨haccepts, ?_⟩
    rw [← hdevice]
    exact note_accepts haccepts

theorem observeBatteryValue_applied {value : BatteryValue} (hreported : value.isReported = true)
    (h : device.observeBatteryValue value stamp = (.applied, device')) :
    device'.battery = ⟨.observed value stamp, .observed .fresh stamp, device.battery.charge⟩ := by
  unfold observeBatteryValue at h
  split at h
  · cases h
  split at h
  · cases h
  next haccepts =>
    rw [not_or] at haccepts
    have hvalue := eq_true_of_ne_false haccepts.1
    have hfresh := eq_true_of_ne_false haccepts.2
    unfold BatteryLifecycle.applyValue at h
    rw [if_neg (not_or.mpr haccepts), LifecycleFact.apply_of_accepts hvalue,
      LifecycleFact.apply_of_accepts hfresh, if_pos hreported] at h
    rw [← (Prod.mk.inj h).2]

/-- Whether a charge state is taken at a position. -/
def takesCharge (device : DeviceLifecycle) (stamp : ObservationStamp) : Bool :=
  device.accepts stamp ∧ device.battery.value.value.isReported ∧ device.battery.charge.accepts stamp

theorem observeBatteryCharge_taken (h : device.takesCharge stamp = true) :
    device.observeBatteryCharge charge stamp = (.applied, { device.note stamp with
      battery := { device.battery with charge := .observed charge stamp } }) := by
  obtain ⟨haccepts, hreported, hcharge⟩ := of_decide_eq_true h
  unfold observeBatteryCharge BatteryLifecycle.applyCharge
  rw [if_neg (by simp [haccepts]), if_neg (by simp [hreported]), if_neg (by simp [hcharge]), if_pos hreported,
    LifecycleFact.apply_of_accepts hcharge]
  rfl

theorem observeBatteryCharge_refused (h : device.takesCharge stamp = false) :
    (device.observeBatteryCharge charge stamp).1 ≠ .applied := by
  have hsome := of_decide_eq_false h
  unfold observeBatteryCharge
  split
  · simp
  next haccepts =>
    split
    · simp
    next hreported =>
      split
      · simp
      next hcharge =>
        exact absurd ⟨eq_true_of_ne_false haccepts, eq_true_of_ne_false hreported, eq_true_of_ne_false hcharge⟩
          hsome

end DeviceLifecycle

namespace ReceiverLifecycleMachine

variable {machine machine' : ReceiverLifecycleMachine} {deviceId : LogicalDeviceId} {stamp : ObservationStamp}

def deviceOf (machine : ReceiverLifecycleMachine) (deviceId : LogicalDeviceId) : Option DeviceLifecycle :=
  machine.current.bind (·.devices[deviceId]?)

/-- What is known of a child's battery; nothing, of a child that is not known. -/
def batteryOf (machine : ReceiverLifecycleMachine) (deviceId : LogicalDeviceId) : BatteryLifecycle :=
  ((machine.deviceOf deviceId).map (·.battery)).getD .unknown

/-- Whether the machine takes a charge state of a child at a position. -/
def takesCharge (machine : ReceiverLifecycleMachine) (deviceId : LogicalDeviceId) (stamp : ObservationStamp) :
    Bool :=
  machine.deviceObservationRejection stamp = none ∧ (machine.deviceOf deviceId).any (·.takesCharge stamp)

/-- An applied observation of a child replaces the child's record and nothing else. -/
structure Replaced (machine : ReceiverLifecycleMachine) (deviceId : LogicalDeviceId) (stamp : ObservationStamp)
    (device device' : DeviceLifecycle) (machine' : ReceiverLifecycleMachine) : Prop where
  before : machine.deviceOf deviceId = some device
  admitted : machine.deviceObservationRejection stamp = none
  after : ∀ other : LogicalDeviceId,
    machine'.deviceOf other = if other = deviceId then some device' else machine.deviceOf other
  rejection : machine'.deviceObservationRejection stamp = machine.deviceObservationRejection stamp
  lifecycle : machine'.current.map (·.lifecycle) = machine.current.map (·.lifecycle)

theorem onDevice_replaced
    {update : DeviceLifecycle → Except LifecycleError ApplyOutcome × DeviceLifecycle}
    (h : machine.onDevice deviceId stamp update = (.ok .applied, machine')) :
    ∃ device device', update device = (.ok .applied, device') ∧
      Replaced machine deviceId stamp device device' machine' := by
  unfold onDevice at h
  split at h
  next outcome hrejected =>
    -- a rejection never answers that the fact was applied
    have happlied : outcome = .applied := by
      cases h
      rfl
    rw [happlied] at hrejected
    unfold deviceObservationRejection generationRejection at hrejected
    split at hrejected
    next rejection hrejection =>
      split at hrejection
      · split at hrejection <;> cases hrejection; cases hrejected
      · split at hrejection <;> cases hrejection <;> cases hrejected
    split at hrejected
    · cases hrejected
    · split at hrejected <;> cases hrejected
  next hadmitted =>
    split at h
    · cases h
    next current hcurrent =>
      split at h
      · cases h
      next device hdevice =>
        obtain ⟨hresult, hmachine⟩ := Prod.mk.inj h
        have hbefore : machine.deviceOf deviceId = some device := by
          unfold deviceOf
          rw [hcurrent]
          exact hdevice
        refine ⟨device, (update device).2, Prod.ext hresult rfl, hbefore, hadmitted, ?_, ?_, ?_⟩
        · intro other
          rw [← hmachine]
          unfold deviceOf
          rw [hcurrent]
          exact OrderedMaps.getElem?_insert_of _ _ _
        · rw [← hmachine]
          unfold deviceObservationRejection generationRejection
          rw [hcurrent]
        rw [← hmachine, hcurrent]
        rfl

variable {device device' : DeviceLifecycle} {kind : LifecycleObservationKind}

section

variable (h : Replaced machine deviceId stamp device device' machine')
include h

theorem Replaced.batteryOf :
    machine'.batteryOf = Function.update machine.batteryOf deviceId device'.battery := by
  funext other
  unfold ReceiverLifecycleMachine.batteryOf
  rw [h.after, Function.update_apply]
  split
  · rfl
  · rfl

theorem Replaced.battery : machine.batteryOf deviceId = device.battery := by
  unfold ReceiverLifecycleMachine.batteryOf
  rw [h.before]
  rfl

theorem Replaced.kept (hkept : device'.battery = device.battery) :
    machine'.batteryOf = machine.batteryOf := by
  rw [h.batteryOf, hkept, ← h.battery, Function.update_eq_self]

end

/-- What an applied fact does to the children: nothing, the registration of one, or an observation of one. -/
inductive Applied (machine : ReceiverLifecycleMachine) (stamp : ObservationStamp)
    (machine' : ReceiverLifecycleMachine) : LifecycleObservationKind → Prop
  | quiet {kind : LifecycleObservationKind} (unrelated : ∀ deviceId, kind.ofEndpoint deviceId = false)
      (same : machine'.deviceOf = machine.deviceOf) : Applied machine stamp machine' kind
  | registered (identity : ChildIdentity) (device' : DeviceLifecycle)
      (after : ∀ other : LogicalDeviceId, machine'.deviceOf other =
        if other = identity.deviceId then some device' else machine.deviceOf other)
      (battery : device'.battery = machine.batteryOf identity.deviceId) :
      Applied machine stamp machine' (.registerDevice identity)
  | observed {kind : LifecycleObservationKind} {deviceId : LogicalDeviceId} {device device' : DeviceLifecycle}
      (own : kind.deviceId = some deviceId) (replaced : Replaced machine deviceId stamp device device' machine')
      (kept : kind.updatesBattery = false → device'.battery = device.battery)
      (accepts : ∀ other, kind.ofEndpoint other = true →
        other = deviceId ∧ device.accepts stamp = true ∧ device'.accepts stamp = true) :
      Applied machine stamp machine' kind

theorem call_applied (h : kind.op.call stamp machine = (.ok .applied, machine')) :
    Applied machine stamp machine' kind := by
  have hupdated : ∀ {kind : LifecycleObservationKind} {α : Type} {deviceId : LogicalDeviceId}
      {device device' : DeviceLifecycle} (endpointId : EndpointId) (value : α)
      (field : FactField EndpointLifecycle α), kind.deviceId = some deviceId →
      (∀ other, kind.ofEndpoint other = true → deviceId = other) →
      device.applyEndpointFact endpointId value stamp field = (.ok .applied, device') →
      Replaced machine deviceId stamp device device' machine' → Applied machine stamp machine' kind := by
    intro kind α deviceId device device' endpointId value field hown hsame hupdate hreplaced
    have hbattery := applyEndpointFact_battery endpointId value field device stamp
    rw [hupdate] at hbattery
    exact .observed hown hreplaced (fun _ => hbattery) fun other hother =>
      ⟨(hsame other hother).symm, applyEndpointFact_accepts hupdate⟩
  have hendpoint : ∀ {kind : LifecycleObservationKind} {α : Type} [DecidableEq α]
      {deviceId : LogicalDeviceId} (endpointId : EndpointId) (unknown value : α)
      (field : FactField EndpointLifecycle α), kind.deviceId = some deviceId →
      (∀ other, kind.ofEndpoint other = true → deviceId = other) →
      machine.observeEndpointFact deviceId endpointId unknown value stamp field = (.ok .applied, machine') →
      Applied machine stamp machine' kind := by
    intro kind α _ deviceId endpointId unknown value field hown hsame hcall
    unfold observeEndpointFact at hcall
    split at hcall
    · cases hcall
    obtain ⟨device, device', hupdate, hreplaced⟩ := onDevice_replaced hcall
    exact hupdated endpointId value field hown hsame hupdate hreplaced
  have hbattery : ∀ {kind : LifecycleObservationKind} {deviceId : LogicalDeviceId}
      {update : DeviceLifecycle → Except LifecycleError ApplyOutcome × DeviceLifecycle},
      kind.deviceId = some deviceId → kind.updatesBattery = true → (∀ other, kind.ofEndpoint other = false) →
      machine.onDevice deviceId stamp update = (.ok .applied, machine') →
      Applied machine stamp machine' kind := by
    intro kind deviceId update hown hupdates hunrelated hcall
    obtain ⟨_, _, _, hreplaced⟩ := onDevice_replaced hcall
    refine .observed hown hreplaced (fun hnot => ?_) fun other hother => ?_
    · rw [hupdates] at hnot
      cases hnot
    · rw [hunrelated] at hother
      cases hother
  cases kind with
  | receiverState state =>
    refine .quiet (fun _ => rfl) ?_
    have hcall : machine.transitionReceiver state stamp = (.applied, machine') := by
      obtain ⟨hresult, hmachine⟩ := Prod.mk.inj h
      exact Prod.ext (Except.ok.inj hresult) hmachine
    unfold transitionReceiver at hcall
    split at hcall
    · rw [← (Prod.mk.inj hcall).2]
    split at hcall
    · cases hcall
    next current hcurrent =>
      split at hcall
      · cases hcall
      split at hcall
      · cases hcall
      rw [← (Prod.mk.inj hcall).2]
      funext other
      unfold deviceOf
      rw [hcurrent]
      rfl
  | registerDevice identity =>
    have hafter : ∀ (current : ReceiverGenerationLifecycle) (device' : DeviceLifecycle),
        machine.current = some current → ∀ other : LogicalDeviceId,
        ({ machine with current := some { current with
            devices := current.devices.insert identity.deviceId device' } } :
          ReceiverLifecycleMachine).deviceOf other =
          if other = identity.deviceId then some device' else machine.deviceOf other := by
      intro current device' hcurrent other
      unfold deviceOf
      rw [hcurrent]
      exact OrderedMaps.getElem?_insert_of _ _ _
    unfold LifecycleObservationKind.op LifecycleOp.call registerDevice at h
    dsimp only at h
    split at h
    · exact .quiet (fun _ => rfl) (by rw [← (Prod.mk.inj h).2])
    split at h
    · cases h
    next current hcurrent =>
      split at h
      · cases h
      split at h
      next device hdevice =>
        split at h
        · cases h
        split at h
        · cases h
        split at h
        · cases h
        rw [← (Prod.mk.inj h).2]
        refine .registered identity _ (hafter current _ hcurrent) ?_
        unfold batteryOf deviceOf
        rw [hcurrent, Option.bind_some, hdevice]
        exact note_battery device stamp
      next hnone =>
        split at h
        · cases h
        rw [← (Prod.mk.inj h).2]
        refine .registered identity _ (hafter current _ hcurrent) ?_
        unfold batteryOf deviceOf
        rw [hcurrent, Option.bind_some, hnone]
        rfl
  | registerEndpoint deviceId identity =>
    have hcall : machine.onDevice deviceId stamp
        (fun device => device.registerEndpoint deviceId machine.limits identity stamp) = (.ok .applied, machine') := h
    obtain ⟨device, device', hupdate, hreplaced⟩ := onDevice_replaced hcall
    have hkept := registerEndpoint_battery deviceId machine.limits identity device stamp
    rw [hupdate] at hkept
    exact .observed rfl hreplaced (fun _ => hkept) fun _ hother => by cases hother
  | pairing deviceId value =>
    have hcall : machine.observePairing deviceId value stamp = (.ok .applied, machine') := h
    unfold observePairing at hcall
    split at hcall
    · cases hcall
    obtain ⟨device, device', hupdate, hreplaced⟩ := onDevice_replaced hcall
    refine .observed rfl hreplaced (fun _ => ?_) fun _ hother => by cases hother
    rw [← (Prod.mk.inj hupdate).2]
    exact observePairing_battery value device stamp
  | batteryReported deviceId percentage =>
    have hcall : machine.observeBatteryReported deviceId percentage stamp = (.ok .applied, machine') := h
    unfold observeBatteryReported at hcall
    exact hbattery rfl rfl (fun _ => rfl) hcall
  | batteryUnavailable deviceId =>
    have hcall : machine.observeBatteryUnavailable deviceId stamp = (.ok .applied, machine') := h
    unfold observeBatteryUnavailable at hcall
    exact hbattery rfl rfl (fun _ => rfl) hcall
  | batteryStale deviceId =>
    have hcall : machine.markBatteryStale deviceId stamp = (.ok .applied, machine') := h
    unfold markBatteryStale at hcall
    exact hbattery rfl rfl (fun _ => rfl) hcall
  | batteryCharge deviceId charge =>
    have hcall : machine.observeBatteryCharge deviceId charge stamp = (.ok .applied, machine') := h
    unfold observeBatteryCharge at hcall
    exact hbattery rfl rfl (fun _ => rfl) hcall
  | route _ endpointId value => exact hendpoint endpointId _ value _ rfl (fun _ => of_decide_eq_true) h
  | power _ endpointId value => exact hendpoint endpointId _ value _ rfl (fun _ => of_decide_eq_true) h
  | sleep _ endpointId value => exact hendpoint endpointId _ value _ rfl (fun _ => of_decide_eq_true) h
  | activity _ endpointId value => exact hendpoint endpointId _ value _ rfl (fun _ => of_decide_eq_true) h
  | freshness _ endpointId value => exact hendpoint endpointId _ value _ rfl (fun _ => of_decide_eq_true) h
  | contact deviceId endpointId value =>
    have hcall : machine.observeContact deviceId endpointId value stamp = (.ok .applied, machine') := h
    unfold observeContact at hcall
    split at hcall
    · cases hcall
    obtain ⟨device, device', hupdate, hreplaced⟩ := onDevice_replaced hcall
    unfold applyContact at hupdate
    split at hupdate
    · cases hupdate
    exact hupdated endpointId value EndpointLifecycle.contactField rfl (fun _ => of_decide_eq_true)
      hupdate hreplaced

theorem call_keeps_batteries (hkind : kind.updatesBattery = false)
    (h : kind.op.call stamp machine = (.ok .applied, machine')) :
    machine'.batteryOf = machine.batteryOf := by
  cases call_applied h with
  | quiet _ same =>
    funext other
    unfold batteryOf
    rw [same]
  | registered identity device' after battery =>
    funext other
    by_cases hother : other = identity.deviceId
    · rw [hother, ← battery]
      unfold batteryOf
      rw [after, if_pos rfl]
      rfl
    · unfold batteryOf
      rw [after, if_neg hother]
  | observed own replaced kept accepts => exact replaced.kept (kept hkind)

/-- An applied fact leaves the children alone that it is not about. -/
theorem call_elsewhere {other : LogicalDeviceId} (hother : kind.deviceId ≠ some other)
    (h : kind.op.call stamp machine = (.ok .applied, machine')) :
    machine'.deviceOf other = machine.deviceOf other := by
  cases call_applied h with
  | quiet _ same => rw [same]
  | registered identity device' after battery =>
    rw [after, if_neg]
    exact fun hsame => hother (congrArg some hsame.symm)
  | observed own replaced kept accepts =>
    rw [replaced.after, if_neg]
    intro hsame
    rw [hsame] at hother
    exact hother own

theorem observeBatteryReported_battery {percentage : BatteryPercent}
    (h : machine.observeBatteryReported deviceId percentage stamp = (.ok .applied, machine')) :
    machine'.batteryOf = Function.update machine.batteryOf deviceId
      ⟨.observed (.reported percentage) stamp, .observed .fresh stamp, (machine.batteryOf deviceId).charge⟩ := by
  obtain ⟨device, device', hupdate, hreplaced⟩ := onDevice_replaced h
  obtain ⟨hresult, hdevice⟩ := Prod.mk.inj hupdate
  have happlied := observeBatteryValue_applied rfl
    (Prod.ext (Except.ok.inj hresult) hdevice :
      device.observeBatteryValue (.reported percentage) stamp = (.applied, device'))
  rw [hreplaced.batteryOf, hreplaced.battery, happlied]

/-- A charge state is applied where it is taken, and stands beside the same level then. -/
theorem observeBatteryCharge_battery (machine : ReceiverLifecycleMachine) (deviceId : LogicalDeviceId)
    (charge : Option BatteryCharge) (stamp : ObservationStamp) :
    if machine.takesCharge deviceId stamp then
      ∃ machine', machine.observeBatteryCharge deviceId charge stamp = (.ok .applied, machine') ∧
        machine'.batteryOf = Function.update machine.batteryOf deviceId
          { machine.batteryOf deviceId with charge := .observed charge stamp } ∧
        machine'.current.map (·.lifecycle) = machine.current.map (·.lifecycle)
    else (machine.observeBatteryCharge deviceId charge stamp).1 ≠ .ok .applied := by
  cases htakes : machine.takesCharge deviceId stamp with
  | true =>
    rw [if_pos rfl]
    obtain ⟨hadmitted, hany⟩ := of_decide_eq_true htakes
    obtain ⟨device, hdevice, htaken⟩ := (Option.any_eq_true _ _).mp hany
    obtain ⟨current, hcurrent, hfound⟩ := Option.bind_eq_some_iff.mp hdevice
    have hcall : machine.observeBatteryCharge deviceId charge stamp = (.ok .applied, { machine with
        current := some { current with devices := current.devices.insert deviceId { device.note stamp with
          battery := { device.battery with charge := .observed charge stamp } } } }) := by
      unfold observeBatteryCharge onDevice
      rw [hadmitted, hcurrent]
      dsimp only
      rw [hfound]
      dsimp only
      rw [observeBatteryCharge_taken htaken]
      rfl
    refine ⟨_, hcall, ?_⟩
    obtain ⟨before, device', hupdate, hreplaced⟩ := onDevice_replaced hcall
    have hsame := hreplaced.before
    rw [hdevice] at hsame
    cases hsame
    rw [observeBatteryCharge_taken htaken] at hupdate
    refine ⟨?_, hreplaced.lifecycle⟩
    rw [hreplaced.batteryOf, hreplaced.battery, ← (Prod.mk.inj hupdate).2]
  | false =>
    rw [if_neg Bool.false_ne_true]
    intro hcall
    obtain ⟨device, device', hupdate, hreplaced⟩ := onDevice_replaced
      (Prod.ext hcall rfl : machine.onDevice deviceId stamp (fun device =>
        infallible (device.observeBatteryCharge charge stamp)) = (.ok .applied, _))
    have hrefused : device.takesCharge stamp = false := by
      apply eq_false_of_ne_true
      intro htaken
      have htrue : machine.takesCharge deviceId stamp = true := by
        apply decide_eq_true
        refine ⟨hreplaced.admitted, ?_⟩
        rw [hreplaced.before]
        exact htaken
      rw [htakes] at htrue
      cases htrue
    exact observeBatteryCharge_refused hrefused (Except.ok.inj (Prod.mk.inj hupdate).1)

/-- A fact of an endpoint that is applied changes nothing about what is taken at the same position. -/
theorem Replaced.takesCharge (h : Replaced machine deviceId stamp device device' machine')
    (hkept : device'.battery = device.battery)
    (haccepts : device.accepts stamp = true ∧ device'.accepts stamp = true) :
    machine'.takesCharge deviceId stamp = machine.takesCharge deviceId stamp := by
  unfold ReceiverLifecycleMachine.takesCharge DeviceLifecycle.takesCharge
  rw [h.rejection, h.before, h.after, if_pos rfl]
  simp only [Option.any_some, hkept, haccepts]

theorem call_keeps_takesCharge (hkind : kind.ofEndpoint deviceId = true)
    (h : kind.op.call stamp machine = (.ok .applied, machine')) :
    machine'.takesCharge deviceId stamp = machine.takesCharge deviceId stamp := by
  cases call_applied h with
  | quiet unrelated _ =>
    rw [unrelated] at hkind
    cases hkind
  | registered => cases hkind
  | observed own replaced kept accepts =>
    obtain ⟨rfl, haccepts⟩ := accepts deviceId hkind
    exact replaced.takesCharge (kept (ofEndpoint_updates hkind)) haccepts

end ReceiverLifecycleMachine

end HyperfluxNext
