import HyperfluxNext.Daemon.TranslatorFacts

namespace HyperfluxNext

open EndpointRun ReceiverLifecycleMachine ChildBatteryForwarder PassiveObservationTranslator List Procedure

namespace EndpointRun

variable {σ ε : Type} {run run' : EndpointRun σ} {fact : LifecycleObservation} {deviceId : LogicalDeviceId}
  {modelName : String}

def machine (run : EndpointRun σ) : Option ReceiverLifecycleMachine :=
  run.receivers.receivers[run.endpoint.receiverId]?

def batteryOf (run : EndpointRun σ) (deviceId : LogicalDeviceId) : BatteryLifecycle :=
  (run.machine.map (·.batteryOf deviceId)).getD .unknown

def takesCharge (run : EndpointRun σ) (deviceId : LogicalDeviceId) (stamp : ObservationStamp) : Bool :=
  run.machine.any (·.takesCharge deviceId stamp)

def applies (run : EndpointRun σ) (fact : LifecycleObservation) : Bool :=
  run.machine.any fun machine =>
    match (fact.kind.op.call fact.stamp machine).1 with
    | .ok outcome => outcome = .applied
    | .error _ => false

def forwarded (run : EndpointRun σ) (lane : ChildBatteryLane) : ForwardedLane := run.endpoint.battery.lanes lane

def binding (run : EndpointRun σ) (lane : ChildBatteryLane) : Option LaneBinding :=
  run.endpoint.translator.lanes[lane.endpointSlot]?

/-- A published level is the machine's, and its status that of the charge that the machine holds beside it. -/
def Shows (charge : ChildChargeReading) (capacity : Nat) (status : ChildBatteryStatus)
    (battery : BatteryLifecycle) : Prop :=
  (∃ percentage : BatteryPercent, battery.value.value = .reported percentage ∧ capacity = percentage.get) ∧
    charge.batteryCharge = battery.charge.value ∧ status = chargeStatus capacity charge

/-- Every lane that is wanted present shows what the machine holds for the lane's device. -/
def Agrees (run : EndpointRun σ) : Prop :=
  ∀ (lane : ChildBatteryLane) (capacity : Nat) (status : ChildBatteryStatus) (modelName : String),
    (run.forwarded lane).desired = .present capacity status modelName →
    ∃ binding charge, run.binding lane = some binding ∧
      Shows charge capacity status (run.batteryOf binding.deviceId)

/-- What agreement rests on: the forwarder's own charge states, and the lanes that its devices are bound to. -/
structure Linked (run : EndpointRun σ) : Prop where
  receiverId : run.endpoint.translator.receiverId = run.endpoint.receiverId
  bound : run.endpoint.translator.Bound
  absent : ∀ lane, (run.forwarded lane).desired = .absent → (run.forwarded lane).charge = .unknown
  present : ∀ (lane : ChildBatteryLane) (capacity : Nat) (status : ChildBatteryStatus) (modelName : String),
    (run.forwarded lane).desired = .present capacity status modelName →
    ∃ binding, run.binding lane = some binding ∧ binding.passive ≠ none ∧
      Shows (run.forwarded lane).charge capacity status (run.batteryOf binding.deviceId)

theorem Linked.agrees (h : Linked run) : run.Agrees := by
  intro lane capacity status modelName hwanted
  obtain ⟨binding, hbinding, -, hshows⟩ := h.present lane capacity status modelName hwanted
  exact ⟨binding, _, hbinding, hshows⟩

theorem Linked.congr (h : Linked run) (hendpoint : run'.endpoint = run.endpoint)
    (hreceivers : run'.receivers = run.receivers) : Linked run' := by
  have hforwarded : run'.forwarded = run.forwarded := by
    unfold forwarded
    rw [hendpoint]
  have hbinding : run'.binding = run.binding := by
    unfold binding
    rw [hendpoint]
  have hbattery : run'.batteryOf = run.batteryOf := by
    unfold batteryOf machine
    rw [hendpoint, hreceivers]
  constructor
  · rw [hendpoint]
    exact h.receiverId
  · rw [hendpoint]
    exact h.bound
  · rw [hforwarded]
    exact h.absent
  rw [hforwarded, hbinding, hbattery]
  exact h.present

theorem linked_of_empty (hreceiver : run.endpoint.translator.receiverId = run.endpoint.receiverId)
    (hbound : run.endpoint.translator.Bound) (hempty : run.endpoint.battery = .empty) : Linked run := by
  have hforwarded : ∀ lane, run.forwarded lane = .empty := by
    intro lane
    unfold forwarded
    rw [hempty]
    rfl
  refine ⟨hreceiver, hbound, ?_, ?_⟩
  · intro lane _
    rw [hforwarded]
    rfl
  intro lane capacity status modelName hwanted
  rw [hforwarded] at hwanted
  cases hwanted

section Facts

inductive Observed (fact : LifecycleObservation) (run run' : EndpointRun σ) : Prop
  | refused (hendpoint : run'.endpoint = run.endpoint) (hreceivers : run'.receivers = run.receivers)
  | applied (before after : ReceiverLifecycleMachine) (hbefore : run.machine = some before)
      (hcall : fact.kind.op.call fact.stamp before = (.ok .applied, after)) (hafter : run'.machine = some after)
      (hendpoint : run'.endpoint = (recordBattery fact.kind run).endpoint)

variable [EndpointServices σ ε] {kind : LifecycleObservationKind}

theorem applyObservation_observed (hreceiver : fact.receiverId = run.endpoint.receiverId) :
    Holds (applyObservation fact) run (fun _ run' => Observed fact run run') (fun _ run' => Observed fact run run') := by
  unfold applyObservation
  rw [holds_bind]
  cases happly : fact.apply (EndpointServices.currentGeneration fact.receiverId run.services)
      run.receivers run.events with
  | error error =>
    have hfailed : observeLifecycle fact run = .error (.observation error) run := by
      unfold observeLifecycle
      rw [happly]
    rw [holds_of_error hfailed]
    exact .refused rfl rfl
  | ok answer =>
    obtain ⟨outcome, receivers, events⟩ := answer
    have hobserved : observeLifecycle fact run =
        .ok outcome { run with receivers := receivers, events := events } := by
      unfold observeLifecycle
      rw [happly]
    rw [holds_of_ok hobserved]
    obtain ⟨_, refusal, hignored, hsame, -⟩ | ⟨applied, before, after, _, _, happlied, hbefore, hcall, hafter, -⟩ :=
      fact.apply_ok happly
    · rw [hignored, hsame]
      exact .refused rfl rfl
    rw [happlied, hafter]
    show Holds (do modify (recordBattery fact.kind); scheduleTransition applied fact.stamp.sequence) _ _ _
    rw [holds_bind, holds_modify]
    have htaken : ∀ services : σ, Observed fact run { recordBattery fact.kind { run with
        receivers := { run.receivers with
          receivers := run.receivers.receivers.insert fact.receiverId after }
        events := events } with services := services } := by
      intro services
      refine .applied before after ?_ hcall ?_ rfl
      · rw [hreceiver] at hbefore
        exact hbefore
      unfold machine recordBattery
      dsimp only
      rw [OrderedMaps.getElem?_insert_of, if_pos hreceiver.symm]
    have hserved : ∀ (call : σ → Except ε Unit × σ),
        Holds (service call) (recordBattery fact.kind { run with
          receivers := { run.receivers with
            receivers := run.receivers.receivers.insert fact.receiverId after }
          events := events }) (fun _ run' => Observed fact run run') (fun _ run' => Observed fact run run') := by
      intro call
      unfold Holds service
      dsimp only
      split
      next hcalled =>
        split at hcalled <;> cases hcalled
        exact htaken _
      next hcalled =>
        split at hcalled <;> cases hcalled
        exact htaken _
    unfold scheduleTransition
    split
    · exact hserved _
    split
    · exact hserved _
    · exact htaken run.services

/-- A fact changes of the endpoint what it forwards, and nothing else. -/
theorem Observed.frame (h : Observed fact run run') :
    run'.endpoint.receiverId = run.endpoint.receiverId ∧
      run'.endpoint.translator = run.endpoint.translator := by
  cases h with
  | refused hendpoint _ | applied _ _ _ _ _ hendpoint =>
    rw [hendpoint]
    exact ⟨rfl, rfl⟩

theorem Observed.binding (h : Observed fact run run') (lane : ChildBatteryLane) :
    run'.binding lane = run.binding lane := by
  unfold EndpointRun.binding
  rw [h.frame.2]

theorem machine_congr (hendpoint : run'.endpoint = run.endpoint) (hreceivers : run'.receivers = run.receivers) :
    run'.machine = run.machine := by
  unfold machine
  rw [hendpoint, hreceivers]

theorem Observed.batteries (h : Observed fact run run') (hkind : fact.kind.updatesBattery = false) :
    run'.batteryOf = run.batteryOf := by
  cases h with
  | refused hendpoint hreceivers =>
    unfold batteryOf
    rw [machine_congr hendpoint hreceivers]
  | applied before after hbefore hcall hafter _ =>
    funext deviceId
    unfold batteryOf
    rw [hbefore, hafter]
    exact congrFun (call_keeps_batteries hkind hcall) deviceId

theorem ofEndpoint_fact (h : kind.ofEndpoint deviceId = true) :
    batteryFact kind = none ∨ batteryFact kind = some (deviceId, none) := by
  cases kind with
  | route other endpointId value =>
    have hother : other = deviceId := of_decide_eq_true h
    unfold batteryFact
    dsimp only
    split
    · exact .inr (by rw [hother])
    · exact .inl rfl
  | power | sleep | activity | contact | freshness => exact .inl rfl
  | receiverState => cases h
  | registerDevice => cases h
  | registerEndpoint => cases h
  | pairing | batteryReported | batteryUnavailable | batteryStale | batteryCharge => cases h

theorem Observed.charges (h : Observed fact run run') (hkind : fact.kind.ofEndpoint deviceId = true) :
    run'.takesCharge deviceId fact.stamp = run.takesCharge deviceId fact.stamp := by
  cases h with
  | refused hendpoint hreceivers =>
    unfold takesCharge
    rw [machine_congr hendpoint hreceivers]
  | applied before after hbefore hcall hafter _ =>
    unfold takesCharge
    rw [hbefore, hafter]
    exact call_keeps_takesCharge hkind hcall

theorem Observed.lanes (h : Observed fact run run') (hfact : batteryFact fact.kind = none) :
    run'.forwarded = run.forwarded := by
  cases h with
  | refused hendpoint _ =>
    unfold forwarded
    rw [hendpoint]
  | applied _ _ _ _ _ hendpoint =>
    unfold forwarded
    rw [hendpoint]
    unfold recordBattery record
    rw [hfact]

variable {lane other : ChildBatteryLane} {bound : LaneBinding} {before after : ReceiverLifecycleMachine}
  {charge : Option BatteryCharge}

theorem Observed.recorded (h : Observed fact run run') {reading : Option BatteryPercent}
    (hfact : batteryFact fact.kind = some (deviceId, reading))
    (hlane : run.endpoint.translator.batteryLane deviceId = some (lane, modelName)) :
    run'.forwarded = run.forwarded ∨ run'.forwarded =
      Function.update run.forwarded lane ((run.forwarded lane).record reading modelName) := by
  cases h with
  | refused hendpoint _ =>
    unfold forwarded
    rw [hendpoint]
    exact .inl rfl
  | applied _ _ _ _ _ hendpoint =>
    right
    unfold forwarded
    rw [hendpoint]
    unfold recordBattery record
    rw [hfact]
    dsimp only
    rw [hlane]
    rfl

theorem Linked.observed (h : Linked run) (hobserved : Observed fact run run')
    (habsent : ∀ lane, (run'.forwarded lane).desired = .absent → (run'.forwarded lane).charge = .unknown)
    (hpresent : ∀ (lane : ChildBatteryLane) (capacity : Nat) (status : ChildBatteryStatus) (modelName : String),
      (run'.forwarded lane).desired = .present capacity status modelName →
      ∃ binding, run.binding lane = some binding ∧ binding.passive ≠ none ∧
        Shows (run'.forwarded lane).charge capacity status (run'.batteryOf binding.deviceId)) : Linked run' := by
  obtain ⟨hreceiver, htranslator⟩ := hobserved.frame
  refine ⟨?_, ?_, habsent, ?_⟩
  · rw [hreceiver, htranslator]
    exact h.receiverId
  · rw [htranslator]
    exact h.bound
  intro lane
  rw [hobserved.binding]
  exact hpresent lane

theorem Linked.kept (h : Linked run) (hobserved : Observed fact run run')
    (hbatteries : run'.batteryOf = run.batteryOf) (hlanes : run'.forwarded = run.forwarded) : Linked run' := by
  apply h.observed hobserved
  · rw [hlanes]
    exact h.absent
  rw [hlanes, hbatteries]
  exact h.present

theorem Linked.quiet (h : Linked run) (hobserved : Observed fact run run')
    (hkind : fact.kind.updatesBattery = false) (hfact : batteryFact fact.kind = none) : Linked run' :=
  h.kept hobserved (hobserved.batteries hkind) (hobserved.lanes hfact)

/-- A fact of a bound child's endpoint keeps the link; where it takes the route away, the lane goes absent. -/
theorem Linked.endpointFact (h : Linked run) (hobserved : Observed fact run run')
    (hbinding : run.binding lane = some bound) (hqualified : bound.passive ≠ none)
    (hkind : fact.kind.ofEndpoint bound.deviceId = true) :
    Linked run' ∧ (run'.forwarded lane = run.forwarded lane ∨ (run'.forwarded lane).desired = .absent) := by
  have hbatteries := hobserved.batteries (ofEndpoint_updates hkind)
  obtain hnone | hsome := ofEndpoint_fact hkind
  · have hlanes := hobserved.lanes hnone
    exact ⟨h.kept hobserved hbatteries hlanes, .inl (congrFun hlanes lane)⟩
  obtain ⟨modelName, hlane⟩ := h.bound.batteryLane hbinding hqualified
  obtain hlanes | hlost := hobserved.recorded hsome hlane
  · exact ⟨h.kept hobserved hbatteries hlanes, .inl (congrFun hlanes lane)⟩
  have hself : run'.forwarded lane = (run.forwarded lane).record none modelName := by
    rw [hlost, Function.update_self]
  refine ⟨h.observed hobserved ?_ ?_, .inr (by rw [hself]; rfl)⟩
  · intro other habsent
    by_cases hsame : other = lane
    · rw [hsame, hself]
      rfl
    rw [hlost, Function.update_of_ne hsame] at habsent ⊢
    exact h.absent other habsent
  intro other capacity status otherName hwanted
  by_cases hsame : other = lane
  · rw [hsame, hself] at hwanted
    cases hwanted
  rw [hlost, Function.update_of_ne hsame] at hwanted ⊢
  rw [hbatteries]
  exact h.present other capacity status otherName hwanted

theorem batteryOf_update {battery : BatteryLifecycle} (hbefore : run.machine = some before)
    (hafter : run'.machine = some after)
    (h : after.batteryOf = Function.update before.batteryOf deviceId battery) :
    run'.batteryOf = Function.update run.batteryOf deviceId battery := by
  funext other
  have hother := congrFun h other
  rw [Function.update_apply] at hother ⊢
  unfold batteryOf
  rw [hbefore, hafter]
  exact hother

theorem endpointSlot_injective (h : lane.endpointSlot = other.endpointSlot) :
    lane = other := by
  cases lane <;> cases other <;> first | rfl | cases h

/-- The devices of two lanes are different, where one of them is qualified. -/
theorem Linked.apart (h : Linked run) {bound' : LaneBinding} (hbinding : run.binding lane = some bound)
    (hqualified : bound.passive ≠ none) (hother : run.binding other = some bound') (hne : other ≠ lane)
    : bound'.deviceId ≠ bound.deviceId := by
  intro hsame
  exact hne (endpointSlot_injective (h.bound.unique hbinding hother hsame hqualified))

theorem Linked.level (h : Linked run) (hobserved : Observed fact run run') {percentage : BatteryPercent}
    (hbinding : run.binding lane = some bound) (hqualified : bound.passive ≠ none)
    (hkind : fact.kind = .batteryReported bound.deviceId percentage)
    (hheld : (run.forwarded lane).desired = .absent → run.applies fact = true →
      (run.batteryOf bound.deviceId).charge.value = none) : Linked run' := by
  obtain ⟨modelName, hlane⟩ := h.bound.batteryLane hbinding hqualified
  cases hobserved with
  | refused hendpoint hreceivers => exact h.congr hendpoint hreceivers
  | applied before after hbefore hcall hafter hendpoint =>
    have hobserved : Observed fact run run' := .applied before after hbefore hcall hafter hendpoint
    have happlies : run.applies fact = true := by
      unfold applies
      rw [hbefore, Option.any_some, hcall]
      rfl
    rw [hkind] at hcall
    have hbatteries := batteryOf_update hbefore hafter (observeBatteryReported_battery hcall)
    have hcharge : (before.batteryOf bound.deviceId).charge = (run.batteryOf bound.deviceId).charge := by
      unfold batteryOf
      rw [hbefore]
      rfl
    have hlanes : run'.forwarded = Function.update run.forwarded lane
        ((run.forwarded lane).record (some percentage) modelName) := by
      unfold forwarded
      rw [hendpoint, hkind]
      unfold recordBattery record batteryFact
      dsimp only
      rw [hlane]
      rfl
    apply h.observed hobserved
    · intro other habsent
      by_cases hsame : other = lane
      · rw [hsame, hlanes, Function.update_self] at habsent
        cases habsent
      rw [hlanes, Function.update_of_ne hsame] at habsent ⊢
      exact h.absent other habsent
    intro other capacity status otherName hwanted
    by_cases hsame : other = lane
    · rw [hsame, hlanes, Function.update_self] at hwanted ⊢
      have hremembered : (run.forwarded lane).charge.batteryCharge =
          (run.batteryOf bound.deviceId).charge.value := by
        cases hdesired : (run.forwarded lane).desired with
        | absent =>
          rw [h.absent lane hdesired, hheld hdesired happlies]
          rfl
        | present oldCapacity oldStatus oldName =>
          obtain ⟨found, hfound, -, -, hcharge, -⟩ := h.present lane oldCapacity oldStatus oldName hdesired
          rw [hbinding] at hfound
          cases hfound
          exact hcharge
      refine ⟨bound, hbinding, hqualified, ?_⟩
      have hpercentage : min percentage.get Battery.hfxUapiBatteryMaxCapacity = percentage.get :=
        Nat.min_eq_left percentage.upper
      obtain ⟨hcapacity, hstatus, -⟩ := ChildBatteryState.present.inj hwanted
      rw [hpercentage] at hcapacity
      rw [hbatteries, Function.update_self]
      refine ⟨⟨percentage, rfl, hcapacity.symm⟩, ?_, ?_⟩
      · rw [hcharge]
        exact hremembered
      rw [← hstatus, ← hcapacity]
      rfl
    · rw [hlanes, Function.update_of_ne hsame] at hwanted ⊢
      obtain ⟨found, hfound, hfoundQualified, hshows⟩ := h.present other capacity status otherName hwanted
      have hne := h.apart hbinding hqualified hfound hsame
      refine ⟨found, hfound, hfoundQualified, ?_⟩
      rw [hbatteries, Function.update_of_ne hne]
      exact hshows

theorem takesCharge_refused (hbefore : run.machine = some before)
    (hkind : fact.kind = .batteryCharge deviceId charge)
    (hrefused : before.current = none ∨ (fact.kind.op.call fact.stamp before).1 ≠ .ok .applied) :
    run.takesCharge deviceId fact.stamp = false := by
  apply eq_false_of_ne_true
  intro htakes
  unfold takesCharge at htakes
  rw [hbefore, Option.any_some] at htakes
  obtain hnone | hrefused := hrefused
  · obtain ⟨-, hany⟩ := of_decide_eq_true htakes
    unfold deviceOf at hany
    rw [hnone] at hany
    cases hany
  have htaken := before.observeBatteryCharge_battery deviceId charge fact.stamp
  rw [if_pos htakes] at htaken
  obtain ⟨after, hcall, -⟩ := htaken
  rw [hkind] at hrefused
  exact hrefused (congrArg Prod.fst hcall)

theorem takesCharge_applied (hbefore : run.machine = some before)
    (hkind : fact.kind = .batteryCharge deviceId charge)
    (hcall : fact.kind.op.call fact.stamp before = (.ok .applied, after)) :
    run.takesCharge deviceId fact.stamp = true ∧
      after.batteryOf = Function.update before.batteryOf deviceId
        { before.batteryOf deviceId with charge := .observed charge fact.stamp } ∧
      after.current.map (·.lifecycle) = before.current.map (·.lifecycle) := by
  rw [hkind] at hcall
  have htaken := before.observeBatteryCharge_battery deviceId charge fact.stamp
  have htakes : before.takesCharge deviceId fact.stamp = true := by
    apply eq_true_of_ne_false
    intro hnot
    rw [if_neg (by rw [hnot]; exact Bool.false_ne_true)] at htaken
    exact htaken (congrArg Prod.fst hcall)
  rw [if_pos htakes] at htaken
  obtain ⟨other, hother, hbatteries, hlifecycle⟩ := htaken
  have hsame : other = after := (Prod.mk.inj (hother.symm.trans hcall)).2
  rw [hsame] at hbatteries hlifecycle
  refine ⟨?_, hbatteries, hlifecycle⟩
  unfold takesCharge
  rw [hbefore]
  exact htakes

/-- A charge state changes what the machine holds exactly where the machine takes it. -/
theorem applyCharge_held (hreceiver : fact.receiverId = run.endpoint.receiverId)
    (hkind : fact.kind = .batteryCharge deviceId charge) :
    Holds (applyObservation fact) run
      (fun _ run' => run'.endpoint = run.endpoint ∧ run'.batteryOf =
        if run.takesCharge deviceId fact.stamp then
          Function.update run.batteryOf deviceId
            { run.batteryOf deviceId with charge := .observed charge fact.stamp }
        else run.batteryOf)
      (fun _ run' => run'.endpoint = run.endpoint ∧ run'.receivers = run.receivers) := by
  unfold applyObservation
  rw [holds_bind]
  cases happly : fact.apply (EndpointServices.currentGeneration fact.receiverId run.services)
      run.receivers run.events with
  | error error =>
    have hfailed : observeLifecycle fact run = .error (.observation error) run := by
      unfold observeLifecycle
      rw [happly]
    rw [holds_of_error hfailed]
    exact ⟨rfl, rfl⟩
  | ok answer =>
    obtain ⟨outcome, receivers, events⟩ := answer
    have hobserved : observeLifecycle fact run =
        .ok outcome { run with receivers := receivers, events := events } := by
      unfold observeLifecycle
      rw [happly]
    rw [holds_of_ok hobserved]
    obtain ⟨before, refusal, hignored, hsame, hbefore, hrefused⟩ |
      ⟨applied, before, after, current, current', happlied, hbefore, hcall, hafter, hcurrent, hcurrent', hwas, his,
        -⟩ :=
      fact.apply_ok happly
    · rw [hreceiver] at hbefore
      rw [hignored, hsame, takesCharge_refused hbefore hkind hrefused]
      exact ⟨rfl, rfl⟩
    have hmachine : run.machine = some before := by
      rw [hreceiver] at hbefore
      exact hbefore
    obtain ⟨htakes, hbatteries, hlifecycle⟩ := takesCharge_applied hmachine hkind hcall
    rw [hcurrent, hcurrent'] at hlifecycle
    have hlifecycle : current'.lifecycle = current.lifecycle := Option.some.inj hlifecycle
    rw [happlied, hafter]
    show Holds (do modify (recordBattery fact.kind); scheduleTransition applied fact.stamp.sequence) _ _ _
    rw [holds_bind, holds_modify]
    have hsteady : scheduleTransition applied fact.stamp.sequence = (pure () : EndpointM σ ε Unit) := by
      unfold scheduleTransition
      rw [hwas, his, hlifecycle, if_neg, if_neg]
      · intro hresumed
        have hactive := hresumed.1
        rw [hresumed.2] at hactive
        cases hactive
      intro hsuspended
      have hawake := hsuspended.1
      rw [hsuspended.2] at hawake
      cases hawake
    rw [hsteady, if_pos htakes]
    constructor
    · unfold recordBattery record
      rw [hkind]
      rfl
    have hheld : run.batteryOf deviceId = before.batteryOf deviceId := by
      unfold batteryOf
      rw [hmachine]
      rfl
    rw [← hheld] at hbatteries
    refine batteryOf_update hmachine ?_ hbatteries
    unfold machine recordBattery
    dsimp only
    rw [OrderedMaps.getElem?_insert_of, if_pos hreceiver.symm]

end Facts

section Observations

variable [EndpointServices σ ε] {lane : ChildBatteryLane} {bound : LaneBinding}

/-- The machine and the lane move to the same charge state. -/
theorem Linked.charge (h : Linked run) {reading : ChildChargeReading}
    (hreceiver : fact.receiverId = run.endpoint.translator.receiverId) (hbinding : run.binding lane = some bound)
    (hqualified : bound.passive ≠ none) (hkind : fact.kind = .batteryCharge bound.deviceId reading.batteryCharge)
    (hheld : (run.forwarded lane).desired ≠ .absent → run.takesCharge bound.deviceId fact.stamp = true ∨
      reading.batteryCharge = (run.batteryOf bound.deviceId).charge.value) :
    Holds (do applyObservation fact; noteCharge (some (lane, reading)) : EndpointM σ ε Unit) run
      (fun _ run' => Linked run') (fun _ run' => Linked run') := by
  rw [holds_bind]
  apply holds_mono (applyCharge_held (hreceiver.trans h.receiverId) hkind)
  · intro _ run' hresult
    obtain ⟨hendpoint, hbatteries⟩ := hresult
    have hlanes : run'.forwarded = run.forwarded := by
      unfold forwarded
      rw [hendpoint]
    have hbindings : run'.binding = run.binding := by
      unfold binding
      rw [hendpoint]
    have helsewhere : ∀ deviceId, deviceId ≠ bound.deviceId → run'.batteryOf deviceId = run.batteryOf deviceId := by
      intro deviceId hne
      rw [hbatteries]
      split
      · exact Function.update_of_ne hne _ _
      · rfl
    have hvalue : (run'.batteryOf bound.deviceId).value = (run.batteryOf bound.deviceId).value := by
      rw [hbatteries]
      split
      · rw [Function.update_self]
      · rfl
    have hself : (run.forwarded lane).desired ≠ .absent →
        reading.batteryCharge = (run'.batteryOf bound.deviceId).charge.value := by
      intro hpresent
      rw [hbatteries]
      split
      · rw [Function.update_self]; rfl
      next hrefused =>
        obtain htaken | hsame := hheld hpresent
        · exact absurd htaken hrefused
        · exact hsame
    show Linked { run' with endpoint.battery := run'.endpoint.battery.recordCharge lane reading }
    have hnoted : ∀ other, ({ run' with endpoint.battery :=
        run'.endpoint.battery.recordCharge lane reading } : EndpointRun σ).forwarded other =
        if other = lane then (run.forwarded lane).recordCharge reading else run.forwarded other := by
      intro other
      rw [← hlanes]
      exact setLane_lanes lane other _ _
    constructor
    · rw [hendpoint]
      exact h.receiverId
    · rw [hendpoint]
      exact h.bound
    · intro other
      rw [hnoted]
      split
      · intro habsent
        unfold ForwardedLane.recordCharge at habsent ⊢
        split at habsent
        · exact h.absent lane habsent
        · cases habsent
      · exact h.absent other
    intro other capacity status modelName
    rw [hnoted]
    split
    next hsame =>
      rw [hsame]
      intro hwanted
      refine ⟨bound, (congrFun hbindings lane).trans hbinding, hqualified, ?_⟩
      show Shows _ capacity status (run'.batteryOf bound.deviceId)
      unfold ForwardedLane.recordCharge at hwanted ⊢
      split at hwanted
      next habsent =>
        rw [habsent] at hwanted
        cases hwanted
      next oldCapacity oldStatus oldName hpresent =>
        have hother := h.present lane oldCapacity oldStatus oldName hpresent
        obtain ⟨found, hfound, -, ⟨percentage, hreported, hcapacity⟩, -⟩ := hother
        rw [hbinding] at hfound
        cases hfound
        cases hwanted
        rw [← hvalue] at hreported
        exact ⟨⟨percentage, hreported, hcapacity⟩, hself (by rw [hpresent]; exact fun h => by cases h), rfl⟩
    next hne =>
      intro hwanted
      obtain ⟨found, hfound, hfoundQualified, hshows⟩ := h.present other capacity status modelName hwanted
      refine ⟨found, (congrFun hbindings other).trans hfound, hfoundQualified, ?_⟩
      show Shows _ capacity status (run'.batteryOf found.deviceId)
      rw [helsewhere found.deviceId (h.apart hbinding hqualified hfound hne)]
      exact hshows
  · intro _ run' hresult
    exact h.congr hresult.1 hresult.2

variable {facts : List LifecycleObservation} {stamp : ObservationStamp} {translation : PassiveTranslation}
  {old : PassiveObservationTranslator} {slot : Nat}

theorem Linked.applyQuiet (h : Linked run)
    (hfacts : ∀ fact ∈ facts, fact.receiverId = run.endpoint.translator.receiverId ∧
      fact.kind.updatesBattery = false ∧ batteryFact fact.kind = none) :
    Ensures (each applyObservation facts) run Linked := by
  have hloop : Holds (each applyObservation facts) run
      (fun _ run' => Linked run' ∧ run'.endpoint.translator = run.endpoint.translator ∧
        ∀ fact ∈ [], fact ∈ facts) (fun _ run' => Linked run') := by
    refine holds_each (fun rest _ run' => Linked run' ∧
      run'.endpoint.translator = run.endpoint.translator ∧ ∀ fact ∈ rest, fact ∈ facts) ?_
      ⟨h, rfl, fun _ hfact => hfact⟩
    intro fact rest _ before hbefore
    obtain ⟨hlinked, htranslator, hrest⟩ := hbefore
    obtain ⟨hreceiver, hkind, hfact⟩ := hfacts fact (hrest fact mem_cons_self)
    rw [← htranslator] at hreceiver
    apply holds_mono (applyObservation_observed (hreceiver.trans hlinked.receiverId))
    · intro _ after hobserved
      exact ⟨hlinked.quiet hobserved hkind hfact, hobserved.frame.2.trans htranslator,
        fun other hother => hrest other (mem_cons_of_mem _ hother)⟩
    intro _ after hobserved
    exact hlinked.quiet hobserved hkind hfact
  exact holds_post hloop fun _ _ hdone => hdone.1

/-- The facts of a bound child's endpoint leave what the machine holds and takes, and may lose the lane. -/
theorem Linked.applyEndpointFacts (h : Linked run) (hbinding : run.binding lane = some bound)
    (hqualified : bound.passive ≠ none)
    (hfacts : ∀ fact ∈ facts, fact.receiverId = run.endpoint.translator.receiverId ∧ fact.stamp = stamp ∧
      fact.kind.ofEndpoint bound.deviceId = true) :
    Holds (each applyObservation facts) run
      (fun _ run' => Linked run' ∧ run'.endpoint.translator = run.endpoint.translator ∧
        run'.batteryOf = run.batteryOf ∧
        run'.takesCharge bound.deviceId stamp = run.takesCharge bound.deviceId stamp ∧
        (run'.forwarded lane = run.forwarded lane ∨ (run'.forwarded lane).desired = .absent))
      (fun _ run' => Linked run') := by
  have hloop : Holds (each applyObservation facts) run
      (fun _ run' => (Linked run' ∧ run'.endpoint.translator = run.endpoint.translator ∧
        run'.batteryOf = run.batteryOf ∧
        run'.takesCharge bound.deviceId stamp = run.takesCharge bound.deviceId stamp ∧
        (run'.forwarded lane = run.forwarded lane ∨ (run'.forwarded lane).desired = .absent)) ∧
        ∀ fact ∈ [], fact ∈ facts) (fun _ run' => Linked run') := by
    refine holds_each (fun rest _ run' => (Linked run' ∧
      run'.endpoint.translator = run.endpoint.translator ∧ run'.batteryOf = run.batteryOf ∧
      run'.takesCharge bound.deviceId stamp = run.takesCharge bound.deviceId stamp ∧
      (run'.forwarded lane = run.forwarded lane ∨ (run'.forwarded lane).desired = .absent)) ∧
      ∀ fact ∈ rest, fact ∈ facts) ?_ ⟨⟨h, rfl, rfl, rfl, .inl rfl⟩, fun _ hfact => hfact⟩
    intro fact rest _ before hbefore
    obtain ⟨⟨hlinked, htranslator, hbatteries, htakes, hlane⟩, hrest⟩ := hbefore
    obtain ⟨hreceiver, hstamp, hkind⟩ := hfacts fact (hrest fact mem_cons_self)
    rw [← htranslator] at hreceiver
    have hbound : before.binding lane = some bound := by
      unfold binding
      rw [htranslator]
      exact hbinding
    apply holds_mono (applyObservation_observed (hreceiver.trans hlinked.receiverId))
    · intro _ after hobserved
      obtain ⟨hafter, hmoved⟩ := hlinked.endpointFact hobserved hbound hqualified hkind
      have hcharges := hobserved.charges hkind
      rw [hstamp] at hcharges
      refine ⟨⟨hafter, hobserved.frame.2.trans htranslator,
        (hobserved.batteries (ofEndpoint_updates hkind)).trans hbatteries, hcharges.trans htakes, ?_⟩,
        fun other hother => hrest other (mem_cons_of_mem _ hother)⟩
      obtain hsame | habsent := hmoved
      · rw [hsame]
        exact hlane
      · exact .inr habsent
    intro _ after hobserved
    exact (hlinked.endpointFact hobserved hbound hqualified hkind).1
  exact holds_post hloop fun _ _ hdone => hdone.1

section
omit [EndpointServices σ ε]

theorem service_frame (call : σ → Except ε Unit × σ) (run : EndpointRun σ) :
    Holds (service call : EndpointM σ ε Unit) run
      (fun _ run' => run'.endpoint = run.endpoint ∧ run'.receivers = run.receivers)
      (fun _ run' => run'.endpoint = run.endpoint ∧ run'.receivers = run.receivers) := by
  unfold Holds service
  split
  next hcalled =>
    split at hcalled <;> cases hcalled
    exact ⟨rfl, rfl⟩
  next hcalled =>
    split at hcalled <;> cases hcalled
    exact ⟨rfl, rfl⟩

theorem Linked.service (h : Linked run) (call : σ → Except ε Unit × σ) :
    Ensures (service call : EndpointM σ ε Unit) run Linked :=
  holds_mono (service_frame call run) (fun _ _ hsame => h.congr hsame.1 hsame.2)
    (fun _ _ hsame => h.congr hsame.1 hsame.2)

end

theorem Linked.scheduleReadiness (h : Linked run) (readiness : Option DeviceRestoreReadiness) :
    Holds (scheduleReadiness readiness : EndpointM σ ε Unit) run (fun _ run' => Linked run')
      (fun _ run' => Linked run') := by
  cases readiness with
  | none => exact h
  | some readiness =>
    unfold EndpointRun.scheduleReadiness
    rw [holds_bind, holds_get]
    dsimp only
    split
    · rw [holds_bind]
      exact holds_post (h.service _) fun _ _ hserved => hserved.service _
    · exact h.service _

/-- What is left to show of a translation is that its facts and its charge state keep the link. -/
theorem Linked.applyLifecycle
    (h : Holds (do let _ ← each applyObservation translation.observations; noteCharge translation.charge :
      EndpointM σ ε Unit) run (fun _ run' => Linked run') (fun _ run' => Linked run')) :
    Holds (applyLifecycleTranslation translation : EndpointM σ ε Unit) run (fun _ run' => Linked run')
      (fun _ run' => Linked run') := by
  unfold applyLifecycleTranslation
  rw [holds_bind] at h ⊢
  apply holds_post h
  intro _ after hnoted
  rw [holds_bind]
  exact holds_post hnoted fun _ _ hlinked => hlinked.scheduleReadiness _

/-- Whether the two sides keep one charge state over a fact of a lane. A level that is applied must not bring
back a charge that only the machine remembers; a charge state of a lane with a level is one that the machine
takes, or that it holds already. -/
def keepsCharge (run : EndpointRun σ) (lane : ChildBatteryLane) (fact : LifecycleObservation) : Bool :=
  match fact.kind with
  | .batteryReported deviceId _ =>
    (run.forwarded lane).desired = .absent → run.applies fact = true →
      (run.batteryOf deviceId).charge.value = none
  | .batteryCharge deviceId charge =>
    (run.forwarded lane).desired ≠ .absent → run.takesCharge deviceId fact.stamp = true ∨
      charge = (run.batteryOf deviceId).charge.value
  | _ => true

theorem Linked.applyLane (h : Linked run) {found : LaneBinding} {level : Option BatteryPercent}
    {reading : Option ChildChargeReading} (hlane : ChildBatteryLane.fromEndpointSlot slot = some lane)
    (hbinding : run.binding lane = some bound) (hchild : bound.child = found.child)
    (hreceiver : old.receiverId = run.endpoint.translator.receiverId)
    (hfacts : PassiveObservationTranslator.LaneFacts old slot stamp found level facts reading translation)
    (hkeeps : ∀ fact ∈ translation.observations, run.keepsCharge lane fact = true) :
    Holds (applyLifecycleTranslation translation : EndpointM σ ε Unit) run (fun _ run' => Linked run')
      (fun _ run' => Linked run') := by
  have hdevice : bound.deviceId = found.deviceId := congrArg (·.2.1) hchild
  have hpassive : bound.passive = found.passive := congrArg (·.2.2) hchild
  have hendpoint : ∀ fact ∈ facts, fact.receiverId = run.endpoint.translator.receiverId ∧ fact.stamp = stamp ∧
      fact.kind.ofEndpoint bound.deviceId = true := by
    intro fact hfact
    obtain ⟨hown, hstamp, hkind⟩ := hfacts.endpoint fact hfact
    rw [hdevice]
    exact ⟨hown.trans hreceiver, hstamp, hkind⟩
  have hquiet : (∀ fact ∈ facts, batteryFact fact.kind = none) → ∀ fact ∈ facts,
      fact.receiverId = run.endpoint.translator.receiverId ∧ fact.kind.updatesBattery = false ∧
        batteryFact fact.kind = none := by
    intro hnone fact hfact
    obtain ⟨hown, -, hkind⟩ := hendpoint fact hfact
    exact ⟨hown, ofEndpoint_updates hkind, hnone fact hfact⟩
  apply Linked.applyLifecycle
  rw [hfacts.observations, hfacts.charge]
  rw [hfacts.observations] at hkeeps
  cases hlevel : level with
  | some percentage =>
    obtain ⟨hread, hnone⟩ := hfacts.single (by rw [hlevel]; rfl)
    have hqualified : bound.passive ≠ none := by
      intro hunqualified
      have hlevels := (hfacts.qualified (hpassive.symm.trans hunqualified)).1
      rw [hlevel] at hlevels
      cases hlevels
    rw [hlevel, hread] at hkeeps
    rw [hread]
    show Holds (do
      let _ ← each applyObservation (old.observation stamp (.batteryReported found.deviceId percentage) ::
        (facts ++ []))
      noteCharge none) run _ _
    have hfirst := hkeeps (old.observation stamp (.batteryReported found.deviceId percentage)) mem_cons_self
    have hheld := of_decide_eq_true hfirst
    rw [← hdevice] at hheld ⊢
    rw [append_nil, holds_bind]
    apply holds_each_cons
    apply holds_mono (applyObservation_observed (hreceiver.trans h.receiverId))
    · intro _ after hobserved
      have hlinked := h.level hobserved hbinding hqualified rfl hheld
      refine hlinked.applyQuiet fun fact hfact => ?_
      rw [hobserved.frame.2]
      exact hquiet hnone fact hfact
    intro _ after hobserved
    exact h.level hobserved hbinding hqualified rfl hheld
  | none =>
    rw [hlevel] at hkeeps
    show Holds (do
      let _ ← each applyObservation (facts ++ (reading.map fun reading =>
        old.chargeObservation found.deviceId reading stamp).toList)
      noteCharge _) run _ _
    cases hreading : reading with
    | none =>
      rw [holds_bind]
      show Holds (each applyObservation (facts ++ [])) run _ _
      rw [append_nil]
      by_cases hqualified : bound.passive = none
      · have hnone := (hfacts.qualified (hpassive.symm.trans hqualified)).2.2
        exact h.applyQuiet (hquiet hnone)
      · exact holds_post (h.applyEndpointFacts hbinding hqualified hendpoint) fun _ _ hdone => hdone.1
    | some reading' =>
      have hqualified : bound.passive ≠ none := by
        intro hunqualified
        have hreadings := (hfacts.qualified (hpassive.symm.trans hunqualified)).2.1
        rw [hreading] at hreadings
        cases hreadings
      rw [hreading] at hkeeps
      have hlast := hkeeps (old.chargeObservation found.deviceId reading' stamp)
        (mem_append_right _ mem_cons_self)
      have hheld := of_decide_eq_true hlast
      rw [← hdevice] at hheld ⊢
      rw [hlane, holds_bind]
      show Holds (each applyObservation (facts ++ [old.chargeObservation bound.deviceId reading' stamp])) run
        (fun _ run' => Holds (noteCharge (some (lane, reading')) : EndpointM σ ε Unit) run'
          (fun _ run'' => Linked run'') (fun _ run'' => Linked run'')) _
      apply holds_each_append
      apply holds_post (h.applyEndpointFacts hbinding hqualified hendpoint)
      intro _ before hbefore
      obtain ⟨hlinked, htranslator, hbatteries, htakes, hmoved⟩ := hbefore
      apply holds_each_cons
      have hbound : before.binding lane = some bound := by
        unfold binding
        rw [htranslator]
        exact hbinding
      have hcharge : Holds (do
          applyObservation (old.chargeObservation bound.deviceId reading' stamp)
          noteCharge (some (lane, reading')) : EndpointM σ ε Unit) before (fun _ run' => Linked run')
          (fun _ run' => Linked run') := by
        refine hlinked.charge (by rw [htranslator]; exact hreceiver) hbound hqualified rfl ?_
        intro hpresent
        obtain hsame | habsent := hmoved
        · rw [hsame] at hpresent
          rw [hbatteries]
          obtain htaken | hheld := hheld hpresent
          · exact .inl (htakes.trans htaken)
          · exact .inr hheld
        · exact absurd habsent hpresent
      rw [holds_bind] at hcharge
      exact hcharge

/-- The lanes stay with the children that they are bound to, as what was translated leaves them. -/
theorem Linked.translated (h : Linked run) {translator' : PassiveObservationTranslator}
    (htranslated : PassiveObservationTranslator.Translated run.endpoint.translator slot stamp translation
      translator') : Linked { run with endpoint.translator := translator' } := by
  have hkept : ∀ (hkept : PassiveObservationTranslator.Kept run.endpoint.translator translator'),
      Linked { run with endpoint.translator := translator' } := by
    intro hkept
    refine ⟨hkept.receiverId.trans h.receiverId, h.bound.kept hkept, h.absent, ?_⟩
    intro lane capacity status modelName hwanted
    obtain ⟨found, hfound, hqualified, hshows⟩ := h.present lane capacity status modelName hwanted
    obtain ⟨found', hfound', hchild⟩ := hkept.bound hfound
    have hdevice : found'.deviceId = found.deviceId := congrArg (·.2.1) hchild
    have hpassive : found'.passive = found.passive := congrArg (·.2.2) hchild
    refine ⟨found', hfound', by rw [hpassive]; exact hqualified, ?_⟩
    rw [hdevice]
    exact hshows
  have hbound := h.bound.translated htranslated
  cases htranslated with
  | quiet _ hquiet => exact hkept hquiet
  | lane _ _ _ _ _ hlane => exact hkept hlane
  | registered binding _ hafter hnamed hprofiled _ hprior =>
    refine ⟨?_, hbound, h.absent, ?_⟩
    · rw [hafter]
      exact h.receiverId
    intro lane capacity status modelName hwanted
    obtain ⟨found, hfound, hqualified, hshows⟩ := h.present lane capacity status modelName hwanted
    have hlookup : ({ run with endpoint.translator := translator' } : EndpointRun σ).binding lane =
        if lane.endpointSlot = slot then some binding else run.binding lane := by
      unfold EndpointRun.binding
      rw [hafter]
      exact PassiveObservationTranslator.withLane_lanes _ _ _ _
    rw [hlookup]
    split
    next hsame =>
      have hstored : run.endpoint.translator.lanes[slot]? = some found := by
        rw [← hsame]
        exact hfound
      have hproduct := hprior found hstored
      have hdevice : binding.deviceId = found.deviceId := by
        apply Text.ext_asStr
        rw [hnamed, h.bound.named slot found hstored, hproduct]
      have hpassive : binding.passive = found.passive := by
        rw [hprofiled, h.bound.profiled slot found hstored, hproduct]
      refine ⟨binding, rfl, by rw [hpassive]; exact hqualified, ?_⟩
      rw [hdevice]
      exact hshows
    · exact ⟨found, hfound, hqualified, hshows⟩

theorem Linked.downgrade (h : Linked run) :
    Holds (downgrade : EndpointM σ ε Unit) run
      (fun _ run' => Linked run' ∧ run'.endpoint.translator = run.endpoint.translator)
      (fun _ run' => Linked run') := by
  unfold EndpointRun.downgrade
  rw [holds_bind, holds_get]
  dsimp only
  split
  · exact ⟨h, rfl⟩
  rw [holds_bind, holds_modify, holds_bind]
  have hdisqualified : Linked { run with endpoint.writeDisqualified := true } :=
    ⟨h.receiverId, h.bound, h.absent, h.present⟩
  apply holds_mono (service_frame _ _)
  · intro _ after hsame
    have hafter := hdisqualified.congr hsame.1 hsame.2
    refine ⟨linked_of_empty hafter.receiverId hafter.bound rfl, ?_⟩
    show after.endpoint.translator = run.endpoint.translator
    rw [hsame.1]
  intro _ after hsame
  exact hdisqualified.congr hsame.1 hsame.2

theorem Linked.quietTranslation (h : Linked run)
    (hreceiver : old.receiverId = run.endpoint.translator.receiverId)
    (hquiet : PassiveObservationTranslator.Quiet old stamp translation) :
    Holds (processTranslation translation : EndpointM σ ε Bool) run (fun _ run' => Linked run')
      (fun _ run' => Linked run') := by
  obtain ⟨hcharge, hfacts⟩ := hquiet
  have hdowngraded : Holds (downgradeOn translation.disposition : EndpointM σ ε Unit) run
      (fun _ run' => Linked run' ∧ run'.endpoint.translator = run.endpoint.translator)
      (fun _ run' => Linked run') := by
    unfold downgradeOn
    split
    · exact h.downgrade
    · exact ⟨h, rfl⟩
  unfold processTranslation
  rw [holds_bind]
  apply holds_post hdowngraded
  intro _ after hafter
  obtain ⟨hlinked, htranslator⟩ := hafter
  split
  · exact hlinked
  rw [holds_bind]
  apply Linked.applyLifecycle
  rw [hcharge, holds_bind]
  apply hlinked.applyQuiet
  intro fact hfact
  obtain ⟨hown, -, hkind, hbattery⟩ := hfacts fact hfact
  rw [htranslator]
  exact ⟨hown.trans hreceiver, hkind, hbattery⟩

/-- Whether an observation is one that the two sides keep one charge state over. -/
def steady (run : EndpointRun σ) : EndpointStep → Bool
  | .observation raw =>
    match ChildBatteryLane.fromEndpointSlot raw.endpointSlot, (run.endpoint.translator.translate raw).1 with
    | some lane, .ok translation => translation.observations.all (run.keepsCharge lane)
    | _, _ => true
  | _ => true

theorem Linked.observation (h : Linked run) (raw : HfxUapiObservation)
    (hsteady : run.steady (.observation raw) = true) :
    Holds (processObservation raw : EndpointM σ ε Bool) run (fun _ run' => Linked run')
      (fun _ run' => Linked run') := by
  unfold processObservation
  rw [holds_bind, holds_get]
  cases htranslate : run.endpoint.translator.translate raw with
  | mk result translator' =>
    dsimp only
    rw [holds_bind, holds_modify]
    cases result with
    | error error =>
      have hsame := translate_error htranslate
      rw [hsame]
      dsimp only
      unfold processFailure
      rw [holds_bind]
      apply holds_post (h.downgrade)
      intro _ after hafter
      split
      · exact hafter.1
      · exact hafter.1
    | ok translation =>
      obtain ⟨stamp, -, htranslated⟩ := translate_translated htranslate
      have hlinked := h.translated htranslated
      dsimp only
      cases htranslated with
      | quiet hquiet hkept => exact hlinked.quietTranslation hkept.receiverId.symm hquiet
      | registered binding hquiet hafter _ _ _ _ => exact hlinked.quietTranslation (by rw [hafter]; rfl) hquiet
      | lane found level facts reading hfacts hkept =>
        obtain ⟨passive, hpassive, -⟩ := h.bound.lane raw.endpointSlot found hfacts.stored
        obtain ⟨lane, hlane, hslot⟩ := fromEndpointSlot_of_passiveLane hpassive
        obtain ⟨bound, hbound, hchild⟩ := hkept.bound hfacts.stored
        unfold steady at hsteady
        dsimp only at hsteady
        rw [hlane, htranslate] at hsteady
        rw [← hslot] at hbound
        unfold processTranslation
        rw [holds_bind]
        unfold downgradeOn
        rw [if_neg hfacts.settled]
        show Holds (if translation.disposition = .receiverUnavailable then pure false else _) _ _ _
        split
        · exact hlinked
        rw [holds_bind]
        exact hlinked.applyLane hlane hbound hchild hkept.receiverId.symm hfacts
          fun fact hfact => all_eq_true.mp hsteady fact hfact

omit [EndpointServices σ ε] in
theorem flushLane_lanes (publish : ChildBatteryForwarder.Publish Unit) (lane : ChildBatteryLane) (accepted : Nat)
    (forwarder : ChildBatteryForwarder) (other : ChildBatteryLane) :
    ((flushLane publish lane accepted forwarder ()).2.1.lanes other).desired = (forwarder.lanes other).desired ∧
      ((flushLane publish lane accepted forwarder ()).2.1.lanes other).charge =
        (forwarder.lanes other).charge := by
  unfold flushLane
  split
  · exact ⟨rfl, rfl⟩
  dsimp only
  rw [setLane_lanes]
  split
  next hsame =>
    rw [hsame]
    exact ⟨rfl, rfl⟩
  · exact ⟨rfl, rfl⟩

theorem Linked.wanted (h : Linked run) {battery : ChildBatteryForwarder}
    (hlanes : ∀ lane, (battery.lanes lane).desired = (run.forwarded lane).desired ∧
      (battery.lanes lane).charge = (run.forwarded lane).charge) :
    Linked { run with endpoint.battery := battery } := by
  refine ⟨h.receiverId, h.bound, ?_, ?_⟩
  · intro lane habsent
    obtain ⟨hdesired, hcharge⟩ := hlanes lane
    exact hcharge.trans (h.absent lane (hdesired.symm.trans habsent))
  intro lane capacity status modelName hwanted
  obtain ⟨hdesired, hcharge⟩ := hlanes lane
  obtain ⟨found, hfound, hqualified, hshows⟩ :=
    h.present lane capacity status modelName (hdesired.symm.trans hwanted)
  refine ⟨found, hfound, hqualified, ?_⟩
  show Shows (battery.lanes lane).charge capacity status _
  rw [hcharge]
  exact hshows

theorem Linked.perform (h : Linked run) (step : EndpointStep) (hsteady : run.steady step = true) :
    Holds (perform step : EndpointM σ ε Bool) run (fun _ run' => Linked run') (fun _ run' => Linked run') := by
  cases step with
  | observation raw => exact h.observation raw hsteady
  | cursorGap =>
    unfold EndpointRun.perform
    rw [holds_bind]
    exact holds_post h.downgrade fun _ _ hafter => hafter.1
  | installWriter => exact h.wanted fun lane => ⟨rfl, rfl⟩
  | refuseWriter => exact ⟨h.receiverId, h.bound, h.absent, h.present⟩
  | forward answers =>
    apply h.wanted
    intro lane
    unfold ChildBatteryForwarder.flush
    have hpointer := flushLane_lanes (fun lane _ (kernel : Unit) => (answers lane, kernel)) .pointer 0
      run.endpoint.battery lane
    have hkeyboard := flushLane_lanes (fun lane _ (kernel : Unit) => (answers lane, kernel)) .keyboard
      (ChildBatteryForwarder.flushLane (fun lane _ (kernel : Unit) => (answers lane, kernel)) .pointer 0
        run.endpoint.battery ()).1
      (ChildBatteryForwarder.flushLane (fun lane _ (kernel : Unit) => (answers lane, kernel)) .pointer 0
        run.endpoint.battery ()).2.1 lane
    exact ⟨hkeyboard.1.trans hpointer.1, hkeyboard.2.trans hpointer.2⟩

/-- Whether every step of a run is one that the two sides keep one charge state over. -/
def keepsCharges : List EndpointStep → EndpointRun σ → Bool
  | [], _ => true
  | step :: steps, run => run.steady step &&
    match (perform step : EndpointM σ ε Bool) run with
    | .ok true run' => keepsCharges steps run'
    | _ => true

theorem Linked.process (h : Linked run) (steps : List EndpointStep) (hsteps : keepsCharges steps run = true) :
    Holds (process steps : EndpointM σ ε Bool) run (fun _ run' => Linked run') (fun _ run' => Linked run') := by
  induction steps generalizing run with
  | nil => exact h
  | cons step steps ih =>
    unfold keepsCharges at hsteps
    obtain ⟨hsteady, hrest⟩ := (Bool.and_eq_true _ _).mp hsteps
    have hperformed := h.perform step hsteady
    unfold EndpointRun.process
    rw [holds_bind]
    cases hstep : (EndpointRun.perform step : EndpointM σ ε Bool) run with
    | error error run' =>
      have hlinked := holds_error hperformed hstep
      rw [holds_of_error hstep]
      exact hlinked
    | ok more run' =>
      have hlinked := holds_ok hperformed hstep
      rw [holds_of_ok hstep]
      cases more with
      | false => exact hlinked
      | true =>
        rw [hstep] at hrest
        exact ih hlinked hrest

end Observations

/-- An endpoint as its admission makes it. -/
def Admitted (run : EndpointRun σ) : Prop :=
  ∃ generationId catalog,
    run.endpoint.translator = .new run.endpoint.receiverId generationId catalog ∧ run.endpoint.battery = .empty

theorem Admitted.linked (h : run.Admitted) : Linked run := by
  obtain ⟨generationId, catalog, htranslator, hbattery⟩ := h
  refine linked_of_empty ?_ ?_ hbattery
  · rw [htranslator]
    rfl
  rw [htranslator]
  exact new_bound _ _ _

/-- The published charge states are the machine's, as long as every step keeps them. -/
theorem published_charges_agree [EndpointServices σ ε] (steps : List EndpointStep) (run : EndpointRun σ)
    (h : run.Admitted) (hsteps : keepsCharges steps run = true) :
    (final (process steps : EndpointM σ ε Bool) run).Agrees :=
  (holds_final (h.linked.process steps hsteps)).agrees

theorem Agrees.status (h : run.Agrees) {lane : ChildBatteryLane} {capacity : Nat} {status : ChildBatteryStatus}
    {held : Option BatteryCharge} (hwanted : (run.forwarded lane).desired = .present capacity status modelName)
    (hbinding : (run.binding lane).map (·.deviceId) = some deviceId)
    (hheld : (run.batteryOf deviceId).charge.value = held) :
    ∃ charge : ChildChargeReading, charge.batteryCharge = held ∧ status = chargeStatus capacity charge := by
  obtain ⟨binding, charge, hbound, -, hcharge, hstatus⟩ := h lane capacity status modelName hwanted
  rw [hbound] at hbinding
  have hsame : binding.deviceId = deviceId := Option.some.inj hbinding
  rw [hsame, hheld] at hcharge
  exact ⟨charge, hcharge, hstatus⟩

section Samples

def tklPassive : PassiveTelemetryRecord where
  endpointLane := .keyboard
  batteryEncoding := .linear255
  contactOffMat := []
  contactOnMat := []
  routeAvailable := [0, 3]
  routeUnavailable := [2]
  routeIndeterminate := [257]
  reportImpliesRouteAvailable := false
  chargeCharging := []
  chargeNotCharging := []
  routeChargeCharging := [1, 257]
  routeChargeDischarging := [0]

def tklProfile : ChildProfile where
  deviceKind := .keyboard
  modelName := "Razer DeathStalker V2 Pro TKL"
  passive := some tklPassive
  lifecycle := some ⟨"receiver-child.activity-assisted.v1", [.endpointActivity, .routeReturn],
    [.batteryReport, .endpointActivity, .routeReturn]⟩

def tklCatalog : PassiveCatalog where
  child productId := if productId.get = 662 then some tklProfile else none
  returnPolicyById id := if id = "receiver-child.activity-assisted.v1" then
      some ⟨60000, 500, [0, 100, 200, 300, 500, 750, 1000, 1500, 2250, 3250, 4500, 6000],
        [.endpointActivity, .routeReturn], [.batteryReport, .contactReport, .endpointActivity, .routeReturn]⟩
    else none

def tklReceiver : ReceiverId := .lit "receiver-1"

def tklGeneration : GenerationId := .lit 1

def tklDevice : LogicalDeviceId := .lit "paired-keyboard-0296"

/-- Every other part of the daemon does what it is asked to. -/
@[reducible] def willing : EndpointServices Unit Unit where
  currentGeneration _ _ := some tklGeneration
  observeTransport _ _ _ := (.ok (), ())
  scheduleSystemSuspend _ _ _ := (.ok (), ())
  scheduleSystemResume _ _ _ _ := (.ok (), ())
  refreshNativeRoutes _ _ _ _ _ := (.ok (), ())
  scheduleReturnEpoch _ _ _ _ := (.ok (), ())
  accelerateReturnEpoch _ _ _ _ := (.ok (), ())

def tklStart : EndpointRun Unit where
  endpoint := ⟨tklReceiver, tklGeneration, .new tklReceiver tklGeneration tklCatalog, .empty, false, 0⟩
  receivers := ⟨1, (∅ : Std.TreeMap ReceiverId ReceiverLifecycleMachine).insert tklReceiver
    ((new tklReceiver ⟨16, 4, by decide, by decide⟩).discover
      ⟨tklGeneration, .lit 0, .lit 0, .observed,
        .lit "kernel", observed_known⟩).2, by decide⟩
  events := ⟨.lit "events", .lit 1, .lit 1, 64, [],
    .lit 0, .lit 0, by decide, by decide⟩
  services := ()

theorem tklStart_admitted : tklStart.Admitted := ⟨tklGeneration, tklCatalog, rfl, rfl⟩

def tklStep (sequence kind source confidence value : Nat) : EndpointStep :=
  .observation ⟨sequence, sequence * 1000000, kind, EndpointSlot.keyboardLane, source, confidence, value, 0⟩

/-- A keyboard is named, and reports its level on its cable. -/
def onCable : List EndpointStep :=
  [tklStep 1 ObservationKind.endpointProductId ObservationSource.hidPassive ObservationConfidence.exact 662,
    tklStep 2 ObservationKind.endpointRouteRaw ObservationSource.hidPassive ObservationConfidence.raw 0,
    tklStep 3 ObservationKind.endpointBatteryRaw ObservationSource.hidPassive ObservationConfidence.raw 128,
    tklStep 4 ObservationKind.endpointRouteRaw ObservationSource.hidPassive ObservationConfidence.raw 257]

theorem published_charges_agree_onCable :
    letI := willing
    (final (process onCable : EndpointM Unit Unit Bool) tklStart).Agrees ∧
      ((final (process onCable : EndpointM Unit Unit Bool) tklStart).forwarded .keyboard).desired =
        .present 50 .charging "DeathStalker V2 Pro TKL" := by
  let _ := willing
  exact ⟨published_charges_agree onCable tklStart tklStart_admitted (by decide +kernel), by decide +kernel⟩

/-- The route is lost and the level is asked for again. -/
def offAndBack : List EndpointStep :=
  onCable ++
    [tklStep 5 ObservationKind.endpointProductId ObservationSource.hidPassive ObservationConfidence.exact 662,
      tklStep 6 ObservationKind.endpointRouteRaw ObservationSource.hidPassive ObservationConfidence.raw 2,
      tklStep 7 ObservationKind.endpointBatteryRaw ObservationSource.hidFeature ObservationConfidence.raw 128]

def afterOff : EndpointRun Unit := final (@process Unit Unit willing offAndBack) tklStart

theorem afterOff_shows : (afterOff.forwarded .keyboard).desired = .present 50 .unknown "DeathStalker V2 Pro TKL" ∧
    (afterOff.binding .keyboard).map (·.deviceId) = some tklDevice ∧
    (afterOff.batteryOf tklDevice).charge.value = some .charging ∧
    afterOff.endpoint.releases = tklStart.endpoint.releases := by
  decide +kernel

theorem afterOff_eq : final (@process Unit Unit willing offAndBack) tklStart = afterOff := rfl

/-- A level behind a lost route is published without the charge that the machine holds on to. -/
theorem published_charge_forgotten :
    ¬ ∀ (steps : List EndpointStep) (run : EndpointRun Unit), run.Admitted →
      (final (@process Unit Unit willing steps) run).endpoint.releases = run.endpoint.releases →
      (final (@process Unit Unit willing steps) run).Agrees := by
  intro hagrees
  obtain ⟨hwanted, hdevice, hheld, hreleases⟩ := afterOff_shows
  have hafter := hagrees offAndBack tklStart tklStart_admitted
  rw [afterOff_eq] at hafter
  obtain ⟨charge, hcharge, hstatus⟩ := (hafter hreleases).status hwanted hdevice hheld
  cases charge with
  | unknown => cases hcharge
  | charging => cases hstatus
  | discharging => cases hcharge

end Samples

end EndpointRun

end HyperfluxNext
