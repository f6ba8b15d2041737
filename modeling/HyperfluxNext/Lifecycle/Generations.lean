import HyperfluxNext.Lifecycle.Discipline

namespace HyperfluxNext

open DeviceLifecycle Std.TreeMap ObservationStamp

/-- A generation as it compares: its devices in canonical order. -/
structure GenerationContents where
  generationId : GenerationId
  activatedAt : ObservationStamp
  lifecycle : LifecycleFact ReceiverLifecycleState
  devices : List (LogicalDeviceId × DeviceContents)

structure MachineContents where
  receiverId : ReceiverId
  limits : LifecycleLimits
  latestGeneration : Option GenerationId
  retiredGenerations : List GenerationId
  lastReceiverObservation : Option ObservationStamp
  current : Option GenerationContents

namespace ReceiverGenerationLifecycle

def contents (generation : ReceiverGenerationLifecycle) : GenerationContents :=
  ⟨generation.generationId, generation.activatedAt, generation.lifecycle,
    generation.devices.toList.map fun entry => (entry.1, entry.2.contents)⟩

structure Disciplined (limits : LifecycleLimits) (generation : ReceiverGenerationLifecycle) : Prop where
  devices : ∀ (id : LogicalDeviceId) (device : DeviceLifecycle), generation.devices[id]? = some device →
    device.identity.deviceId = id ∧ device.Disciplined limits generation.generationId
  bounded : generation.devices.size ≤ limits.maxDevices

structure Advances (old new : ReceiverGenerationLifecycle) : Prop where
  activated : new.activatedAt = old.activatedAt
  lifecycle : Advanced old.lifecycle.stamp new.lifecycle.stamp
  devices : ∀ (id : LogicalDeviceId) (device : DeviceLifecycle), old.devices[id]? = some device →
    ∃ device', new.devices[id]? = some device' ∧ device.Advances device'

theorem Advances.refl (generation : ReceiverGenerationLifecycle) : generation.Advances generation :=
  ⟨rfl, .refl _, fun _ device h => ⟨device, h, .refl device⟩⟩

theorem new_disciplined (limits : LifecycleLimits) (stamp : ObservationStamp) :
    (new stamp).Disciplined limits where
  devices id device h := by
    rw [show (new stamp).devices = ∅ from rfl, getElem?_emptyc] at h
    cases h
  bounded := Nat.zero_le _

variable {limits : LifecycleLimits} {generation : ReceiverGenerationLifecycle} {id : LogicalDeviceId}
  {device device' : DeviceLifecycle}

/-- A device's entry replaced by one with the same contents. -/
theorem contents_insert (hfound : generation.devices[id]? = some device)
    (hcontents : device'.contents = device.contents) :
    contents { generation with devices := generation.devices.insert id device' } = generation.contents := by
  have hlist : ((generation.devices.insert id device').map fun _ => DeviceLifecycle.contents).toList =
      (generation.devices.map fun _ => DeviceLifecycle.contents).toList := by
    apply toList_congr
    intro other
    rw [getElem?_map, getElem?_map, getElem?_insert]
    split
    next heq =>
      rw [← Std.LawfulEqCmp.compare_eq_iff_eq.mp heq, hfound]
      exact congrArg some hcontents
    · rfl
  rw [toList_map, toList_map] at hlist
  exact congrArg (GenerationContents.mk _ _ _) hlist

theorem Disciplined.insert (h : generation.Disciplined limits) (hid : device'.identity.deviceId = id)
    (hdevice : device'.Disciplined limits generation.generationId)
    (hbounded : (generation.devices.insert id device').size ≤ limits.maxDevices) :
    Disciplined limits { generation with devices := generation.devices.insert id device' } where
  devices other found hfound := by
    obtain ⟨hkey, hsame⟩ | ⟨-, hold⟩ := getElem?_insert_cases hfound
    · rw [← hsame, ← hkey]
      exact ⟨hid, hdevice⟩
    · exact h.devices other found hold
  bounded := hbounded

theorem advances_insert
    (hadvances : ∀ device, generation.devices[id]? = some device → device.Advances device') :
    generation.Advances { generation with devices := generation.devices.insert id device' } := by
  refine { Advances.refl generation with devices := ?_ }
  intro other old hold
  by_cases hkey : id = other
  · rw [← hkey] at hold
    refine ⟨device', ?_, hadvances old hold⟩
    rw [← hkey]
    exact getElem?_insert_self
  refine ⟨old, ?_, .refl old⟩
  rw [getElem?_insert, if_neg (fun heq => hkey (Std.LawfulEqCmp.compare_eq_iff_eq.mp heq))]
  exact hold

end ReceiverGenerationLifecycle

namespace ReceiverLifecycleMachine

def contents (machine : ReceiverLifecycleMachine) : MachineContents :=
  ⟨machine.receiverId, machine.limits, machine.latestGeneration, machine.retiredGenerations,
    machine.lastReceiverObservation, machine.current.map (·.contents)⟩

def currentGeneration (machine : ReceiverLifecycleMachine) : Option GenerationId :=
  machine.current.map (·.generationId)

def Disciplined (machine : ReceiverLifecycleMachine) : Prop :=
  ∀ generation, machine.current = some generation → generation.Disciplined machine.limits

structure Called (machine : ReceiverLifecycleMachine) (result : Except LifecycleError ApplyOutcome)
    (machine' : ReceiverLifecycleMachine) : Prop where
  limits : machine'.limits = machine.limits
  disciplined : machine'.Disciplined
  advances : ∀ old new, machine.current = some old → machine'.current = some new →
    new.generationId = old.generationId → old.Advances new
  unchanged : result ≠ .ok .applied → machine'.contents = machine.contents

variable {machine machine' : ReceiverLifecycleMachine} {stamp : ObservationStamp}
  {current : ReceiverGenerationLifecycle} {deviceId : LogicalDeviceId}

theorem Called.refl (h : machine.Disciplined) (result : Except LifecycleError ApplyOutcome) :
    Called machine result machine := by
  refine ⟨rfl, h, ?_, fun _ => rfl⟩
  intro old new hold hnew _
  rw [hold] at hnew
  cases hnew
  exact .refl old

theorem called_insert (h : machine.Disciplined) (hcurrent : machine.current = some current)
    {id : LogicalDeviceId} {device' : DeviceLifecycle} {result : Except LifecycleError ApplyOutcome}
    (hid : device'.identity.deviceId = id) (hdevice : device'.Disciplined machine.limits current.generationId)
    (hbounded : (current.devices.insert id device').size ≤ machine.limits.maxDevices)
    (hadvances : ∀ device, current.devices[id]? = some device → device.Advances device')
    (hunchanged : result ≠ .ok .applied → ∃ device, current.devices[id]? = some device ∧
      device'.contents = device.contents) :
    Called machine result { machine with
      current := some { current with devices := current.devices.insert id device' } } := by
  refine ⟨rfl, ?_, ?_, ?_⟩
  · intro generation hgeneration
    cases hgeneration
    exact (h current hcurrent).insert hid hdevice hbounded
  · intro old new hold hnew _
    rw [hcurrent] at hold
    cases hold
    cases hnew
    exact ReceiverGenerationLifecycle.advances_insert hadvances
  intro hresult
  obtain ⟨device, hfound, hcontents⟩ := hunchanged hresult
  unfold contents
  rw [hcurrent]
  exact congrArg (fun generation => MachineContents.mk _ _ _ _ _ (some generation))
    (ReceiverGenerationLifecycle.contents_insert hfound hcontents)

theorem onDevice_called (h : machine.Disciplined)
    {update : DeviceLifecycle → Except LifecycleError ApplyOutcome × DeviceLifecycle}
    (hupdate : ∀ (generationId : GenerationId) (device : DeviceLifecycle),
      device.Disciplined machine.limits generationId →
      DeviceLifecycle.Observed machine.limits generationId device (update device).1 (update device).2) :
    Called machine (machine.onDevice deviceId stamp update).1 (machine.onDevice deviceId stamp update).2 := by
  unfold onDevice
  split
  · exact .refl h _
  split
  · exact .refl h _
  next current hcurrent =>
    split
    · exact .refl h _
    next device hfound =>
      obtain ⟨hid, hdevice⟩ := (h current hcurrent).devices deviceId device hfound
      have hobserved := hupdate current.generationId device hdevice
      refine called_insert h hcurrent ?_ hobserved.disciplined ?_ ?_ ?_
      · rw [hobserved.identity]
        exact hid
      · rw [size_insert_of_getElem? hfound]
        exact (h current hcurrent).bounded
      · intro old hold
        rw [hfound] at hold
        cases hold
        exact hobserved.advances
      intro hresult
      exact ⟨device, hfound, hobserved.unchanged hresult⟩

theorem refreshed_disciplined {limits : LifecycleLimits} {generationId : GenerationId}
    {device : DeviceLifecycle} (h : device.Disciplined limits generationId)
    (haccepts : device.accepts stamp = true) :
    DeviceLifecycle.Disciplined limits generationId { device.note stamp with registeredAt := stamp } := by
  refine h.update haccepts rfl ?_ ?_ ?_ ?_
  · intro held hheld
    rw [mem_stamps] at *
    simp only [note_pairing, note_battery, note_endpoints] at hheld
    obtain hheld | hheld := hheld
    · exact .inr hheld
    · exact .inl (.inr hheld)
  · simp only [note_pairing]
    exact h.pairing
  · simp only [note_endpoints]
    exact h.keyed
  simp only [note_endpoints]
  exact h.bounded

theorem new_device_disciplined (limits : LifecycleLimits) (identity : ChildIdentity) (stamp : ObservationStamp) :
    (DeviceLifecycle.new identity stamp).Disciplined limits stamp.generationId := by
  refine ⟨rfl, ?_, ⟨fun _ => rfl, fun _ => rfl⟩, ?_, Nat.zero_le _⟩
  · intro held hheld
    rw [DeviceLifecycle.mem_stamps] at hheld
    simp only [DeviceLifecycle.new, LifecycleFact.unknown, BatteryLifecycle.unknown, reduceCtorEq,
      getElem?_emptyc, false_and, exists_false, or_false] at hheld
    rw [hheld]
    exact atOrAfter_refl stamp
  intro id endpoint hfound
  rw [show (DeviceLifecycle.new identity stamp).endpoints = ∅ from rfl, getElem?_emptyc] at hfound
  cases hfound

theorem deviceObservationRejection_none (hcurrent : machine.current = some current)
    (h : machine.deviceObservationRejection stamp = none) :
    stamp.generationId = current.generationId := by
  unfold deviceObservationRejection generationRejection at h
  rw [hcurrent] at h
  by_cases hsame : stamp.generationId = current.generationId
  · exact hsame
  · simp only [if_neg hsame, reduceCtorEq] at h

theorem registerDevice_called (h : machine.Disciplined) (identity : ChildIdentity) :
    Called machine (machine.registerDevice identity stamp).1 (machine.registerDevice identity stamp).2 := by
  unfold registerDevice
  split
  · exact .refl h _
  next hrejection =>
    split
    · exact .refl h _
    next current hcurrent =>
      have hgeneration := deviceObservationRejection_none hcurrent hrejection
      split
      · exact .refl h _
      split
      next device hfound =>
        obtain ⟨hid, hdevice⟩ := (h current hcurrent).devices _ device hfound
        split
        · exact .refl h _
        next haccepts =>
          split
          · exact .refl h _
          next hidentity =>
            split
            · exact .refl h _
            next hafter =>
              have haccepted : device.accepts stamp = true := by simpa using haccepts
              refine called_insert h hcurrent ?_ (refreshed_disciplined hdevice haccepted) ?_ ?_
                (fun hresult => absurd rfl hresult)
              · rw [← hid]
                exact congrArg ChildIdentity.deviceId (DeviceLifecycle.note_identity device stamp)
              · rw [size_insert_of_getElem? hfound]
                exact (h current hcurrent).bounded
              intro old hold
              rw [hfound] at hold
              cases hold
              refine { DeviceLifecycle.note_advances device stamp with
                registered := .inr ⟨stamp, rfl, ?_⟩ }
              intro earlier hearlier
              cases hearlier
              simpa using hafter
      next hnone =>
        split
        · exact .refl h _
        next hroom =>
          refine called_insert h hcurrent rfl ?_ ?_ ?_ (fun hresult => absurd rfl hresult)
          · rw [← hgeneration]
            exact new_device_disciplined machine.limits identity stamp
          · have hsize := size_insert_le (t := current.devices) (k := identity.deviceId)
              (v := DeviceLifecycle.new identity stamp)
            omega
          intro old hold
          rw [hnone] at hold
          cases hold

theorem observeEndpointFact_called {α : Type} [DecidableEq α] (h : machine.Disciplined)
    {endpointId : EndpointId} {unknown value : α} {field : FactField EndpointLifecycle α}
    (hfield : value ≠ unknown → field.Lawful value) :
    Called machine (machine.observeEndpointFact deviceId endpointId unknown value stamp field).1
      (machine.observeEndpointFact deviceId endpointId unknown value stamp field).2 := by
  unfold observeEndpointFact
  split
  · exact .refl h _
  next hvalue =>
    apply onDevice_called h
    intro generationId device hdevice
    exact applyEndpointFact_observed hdevice (hfield hvalue) rfl

theorem called_new (limits : machine'.limits = machine.limits) (hcurrent : machine'.current = some (.new stamp))
    (hdifferent : machine.currentGeneration ≠ some stamp.generationId) :
    Called machine (.ok .applied) machine' := by
  refine ⟨limits, ?_, ?_, fun hresult => absurd rfl hresult⟩
  · intro generation hgeneration
    rw [hcurrent] at hgeneration
    cases hgeneration
    exact ReceiverGenerationLifecycle.new_disciplined _ stamp
  intro old new hold hnew hsame
  rw [hcurrent] at hnew
  cases hnew
  unfold currentGeneration at hdifferent
  rw [hold] at hdifferent
  exact absurd (congrArg some hsame.symm) hdifferent

theorem rememberRetiredGeneration_limits (machine : ReceiverLifecycleMachine) (id : GenerationId) :
    (machine.rememberRetiredGeneration id).limits = machine.limits := by
  unfold rememberRetiredGeneration
  split
  · rfl
  · split <;> rfl

theorem rememberRetiredGeneration_current (machine : ReceiverLifecycleMachine) (id : GenerationId) :
    (machine.rememberRetiredGeneration id).current = machine.current := by
  unfold rememberRetiredGeneration
  split
  · rfl
  · split <;> rfl

theorem discover_called (h : machine.Disciplined) (stamp : ObservationStamp) :
    Called machine (.ok (machine.discover stamp).1) (machine.discover stamp).2 := by
  unfold discover
  split
  · exact .refl h _
  split
  · exact .refl h _
  next habsent =>
    split
    · exact .refl h _
    refine called_new rfl rfl ?_
    unfold currentGeneration
    rw [Option.not_isSome_iff_eq_none.mp habsent]
    exact nofun

theorem replaceGeneration_called (h : machine.Disciplined) (stamp : ObservationStamp) :
    Called machine (.ok (machine.replaceGeneration stamp).1) (machine.replaceGeneration stamp).2 := by
  unfold replaceGeneration
  split
  · split
    · exact .refl h _
    · exact .refl h _
  next current hcurrent =>
    split
    · exact .refl h _
    next hfresh =>
      split
      · exact .refl h _
      refine called_new (rememberRetiredGeneration_limits machine _) rfl ?_
      unfold currentGeneration
      rw [hcurrent]
      intro hsame
      exact hfresh (.inl (Option.some.inj hsame).symm)

theorem transitionReceiver_called (h : machine.Disciplined) (target : ReceiverLifecycleState)
    (stamp : ObservationStamp) :
    Called machine (.ok (machine.transitionReceiver target stamp).1)
      (machine.transitionReceiver target stamp).2 := by
  unfold transitionReceiver
  split
  · exact .refl h _
  split
  · exact .refl h _
  next current hcurrent =>
    split
    · exact .refl h _
    split
    · exact .refl h _
    refine ⟨rfl, ?_, ?_, fun hresult => absurd rfl hresult⟩
    · intro generation hgeneration
      cases hgeneration
      have hdisciplined := h current hcurrent
      exact ⟨hdisciplined.devices, hdisciplined.bounded⟩
    intro old new hold hnew _
    rw [hcurrent] at hold
    cases hold
    cases hnew
    exact { ReceiverGenerationLifecycle.Advances.refl current with
      lifecycle := LifecycleFact.apply_advanced _ _ _ }

theorem completeDisconnect_called (h : machine.Disciplined) (stamp : ObservationStamp) :
    Called machine (.ok (machine.completeDisconnect stamp).1) (machine.completeDisconnect stamp).2 := by
  unfold completeDisconnect
  split
  · exact .refl h _
  split
  · exact .refl h _
  next current hcurrent =>
    split
    · exact .refl h _
    split
    · exact .refl h _
    refine ⟨rememberRetiredGeneration_limits _ _, ?_, ?_, fun hresult => absurd rfl hresult⟩
    · intro generation hgeneration
      rw [rememberRetiredGeneration_current] at hgeneration
      cases hgeneration
    intro old new _ hnew _
    rw [rememberRetiredGeneration_current] at hnew
    cases hnew

end ReceiverLifecycleMachine

open ReceiverLifecycleMachine EndpointLifecycle in
theorem LifecycleOp.call_called {machine : ReceiverLifecycleMachine} (h : machine.Disciplined)
    (op : LifecycleOp) (stamp : ObservationStamp) :
    Called machine (op.call stamp machine).1 (op.call stamp machine).2 := by
  cases op with
  | discover => exact discover_called h stamp
  | replaceGeneration => exact replaceGeneration_called h stamp
  | transitionReceiver target => exact transitionReceiver_called h target stamp
  | completeDisconnect => exact completeDisconnect_called h stamp
  | registerDevice identity => exact registerDevice_called h identity
  | observePairing deviceId value =>
    by_cases hvalue : value = .unknown
    · have hrefl := Called.refl h (.ok .rejectedInvalidTransition)
      simpa only [LifecycleOp.call, ReceiverLifecycleMachine.observePairing, if_pos hvalue] using hrefl
    have hcalled : Called machine
        (machine.onDevice deviceId stamp fun device => infallible (device.observePairing value stamp)).1
        (machine.onDevice deviceId stamp fun device => infallible (device.observePairing value stamp)).2 := by
      apply onDevice_called h
      intro generationId device hdevice
      exact observePairing_observed hdevice hvalue stamp
    simpa only [LifecycleOp.call, ReceiverLifecycleMachine.observePairing, if_neg hvalue] using hcalled
  | observeBatteryReported deviceId percentage =>
    apply onDevice_called h
    intro generationId device hdevice
    exact observeBatteryValue_observed hdevice (.reported percentage) stamp
  | observeBatteryUnavailable deviceId =>
    apply onDevice_called h
    intro generationId device hdevice
    exact observeBatteryValue_observed hdevice .unavailable stamp
  | observeBatteryCharge deviceId charge =>
    apply onDevice_called h
    intro generationId device hdevice
    exact observeBatteryCharge_observed hdevice charge stamp
  | markBatteryStale deviceId =>
    apply onDevice_called h
    intro generationId device hdevice
    exact markBatteryStale_observed hdevice stamp
  | registerEndpoint deviceId identity =>
    apply onDevice_called h
    intro generationId device hdevice
    exact registerEndpoint_observed hdevice rfl
  | observeRoute deviceId endpointId value => exact observeEndpointFact_called h routeField_lawful
  | observePower deviceId endpointId value => exact observeEndpointFact_called h powerField_lawful
  | observeSleep deviceId endpointId value => exact observeEndpointFact_called h sleepField_lawful
  | observeActivity deviceId endpointId value => exact observeEndpointFact_called h activityField_lawful
  | observeContact deviceId endpointId value =>
    by_cases hvalue : value = .unknown ∨ value = .notApplicable
    · have hrefl := Called.refl h (.ok .rejectedInvalidTransition)
      simpa only [LifecycleOp.call, ReceiverLifecycleMachine.observeContact, if_pos hvalue] using hrefl
    have hcalled : Called machine
        (machine.onDevice deviceId stamp fun device => device.applyContact endpointId value stamp).1
        (machine.onDevice deviceId stamp fun device => device.applyContact endpointId value stamp).2 := by
      apply onDevice_called h
      intro generationId device hdevice
      exact applyContact_observed hdevice rfl
    simpa only [LifecycleOp.call, ReceiverLifecycleMachine.observeContact, if_neg hvalue] using hcalled
  | observeFreshness deviceId endpointId value => exact observeEndpointFact_called h freshnessField_lawful

end HyperfluxNext
