import HyperfluxNext.Bridge.BatteryFacts
import HyperfluxNext.Daemon.EndpointRuntime

namespace HyperfluxNext

open ReturnLifecycle List

variable {binding' : LaneBinding}

namespace LaneBinding

variable {binding : LaneBinding} {stamp : ObservationStamp} (state : RouteState) (evidence : ReturnEvidence)

/-- A report that shows its evidence to the detector leaves what the lane is bound to. -/
structure Framed (binding binding' : LaneBinding) : Prop where
  productId : binding'.productId = binding.productId
  deviceId : binding'.deviceId = binding.deviceId
  passive : binding'.passive = binding.passive
  lastContact : binding'.lastContact = binding.lastContact
  lastBattery : binding'.lastBattery = binding.lastBattery

theorem Framed.refl (binding : LaneBinding) : Framed binding binding := ⟨rfl, rfl, rfl, rfl, rfl⟩

theorem Framed.trans {binding'' : LaneBinding} (h : Framed binding binding') (h' : Framed binding' binding'')
    : Framed binding binding'' :=
  ⟨h'.productId.trans h.productId, h'.deviceId.trans h.deviceId, h'.passive.trans h.passive,
    h'.lastContact.trans h.lastContact, h'.lastBattery.trans h.lastBattery⟩

theorem routeEvidence_framed (binding : LaneBinding) :
    Framed binding (binding.routeEvidence state).2 :=
  ⟨rfl, rfl, rfl, rfl, rfl⟩

theorem observe_framed (stamp : ObservationStamp) (binding : LaneBinding) :
    Framed binding (binding.observe evidence stamp).2 := by
  unfold observe
  split
  · exact .refl binding
  · exact ⟨rfl, rfl, rfl, rfl, rfl⟩

theorem reported_framed (shown : Bool) (stamp : ObservationStamp) (binding : LaneBinding)
    : Framed binding (binding.reported evidence shown stamp).2 := by
  unfold reported
  dsimp only
  split
  · exact observe_framed evidence stamp binding
  · exact .refl binding

theorem reportEvidence_framed (passive : PassiveTelemetryRecord) (fallback : ReturnEvidence)
    (binding : LaneBinding) : Framed binding (binding.reportEvidence passive fallback).2 := by
  unfold reportEvidence
  split
  · exact routeEvidence_framed .available binding
  · exact .refl binding

theorem reportRoute_framed (stamp : ObservationStamp) (binding : LaneBinding) :
    Framed binding (binding.reportRoute state stamp).2 :=
  (routeEvidence_framed state binding).trans (reported_framed _ _ stamp _)

theorem reportActivity_framed (stamp : ObservationStamp) (binding : LaneBinding) :
    Framed binding (binding.reportActivity stamp).2 :=
  (routeEvidence_framed .available binding).trans (reported_framed _ _ stamp _)

theorem reportLevel_framed (passive : PassiveTelemetryRecord) (passiveReport : Bool) (stamp : ObservationStamp)
    (binding : LaneBinding) :
    Framed { binding with lastBattery := if passiveReport then some stamp.sequence else none }
      (binding.reportLevel passive passiveReport stamp).2 :=
  (reportEvidence_framed passive .batteryReport _).trans (reported_framed _ _ stamp _)

theorem reportContact_framed (passive : PassiveTelemetryRecord) (state : ContactState) (stamp : ObservationStamp)
    (binding : LaneBinding) :
    Framed { binding with lastContact := some (stamp.sequence, state) }
      (binding.reportContact passive state stamp).2 :=
  (reportEvidence_framed passive .contactReport _).trans (reported_framed _ _ stamp _)

def child (binding : LaneBinding) : ProductId × LogicalDeviceId × Option PassiveTelemetryRecord :=
  (binding.productId, binding.deviceId, binding.passive)

theorem Framed.child (h : Framed binding binding') : binding'.child = binding.child := by
  unfold LaneBinding.child
  rw [h.productId, h.deviceId, h.passive]

end LaneBinding

section Names

theorem hexDigits_length (width value : Nat) : (hexDigits width value).length = width := by
  induction width generalizing value with
  | zero => rfl
  | succ width ih =>
    unfold hexDigits
    rw [length_append, ih]
    rfl

theorem pairedDeviceName_injective {kind kind' : DeviceKind} {productId productId' : ProductId}
    (h : pairedDeviceName kind productId = pairedDeviceName kind' productId') : productId = productId' := by
  have hlists := congrArg String.toList h
  unfold pairedDeviceName at hlists
  rw [String.toList_append, String.toList_ofList] at hlists
  have hright : ("paired-" ++ kind'.asStr ++ "-" ++ String.ofList (hexDigits 4 productId'.get)).toList =
      ("paired-" ++ kind'.asStr ++ "-").toList ++ hexDigits 4 productId'.get := by
    rw [String.toList_append, String.toList_ofList]
  rw [hright] at hlists
  have hdigits := (append_inj' hlists (by rw [hexDigits_length, hexDigits_length])).2
  have hbound : productId.get < 16 ^ 4 := Nat.lt_of_le_of_lt productId.upper (by decide)
  have hbound' : productId'.get < 16 ^ 4 := Nat.lt_of_le_of_lt productId'.upper (by decide)
  exact Bounded.ext_get (hexDigits_injective hbound hbound' hdigits)

def PassiveCatalog.deviceName (catalog : PassiveCatalog) (productId : ProductId) : String :=
  pairedDeviceName (((catalog.child productId).map (·.deviceKind)).getD .unknown) productId

end Names

namespace PassiveObservationTranslator

variable {translator translator' : PassiveObservationTranslator} {slot value : Nat} {stamp : ObservationStamp}
  {binding : LaneBinding} {fact : LifecycleObservation} {lane : ChildBatteryLane} {raw : HfxUapiObservation}
  (state : ReceiverLifecycleState)

/-- Every lane stays bound to the child that it is bound to. -/
structure Kept (translator translator' : PassiveObservationTranslator) : Prop where
  receiverId : translator'.receiverId = translator.receiverId
  generationId : translator'.generationId = translator.generationId
  catalog : translator'.catalog = translator.catalog
  lanes : ∀ slot : Nat, translator'.lanes[slot]?.map (·.child) = translator.lanes[slot]?.map (·.child)

theorem Kept.refl (translator : PassiveObservationTranslator) : Kept translator translator :=
  ⟨rfl, rfl, rfl, fun _ => rfl⟩

theorem Kept.trans {translator'' : PassiveObservationTranslator} (h : Kept translator translator')
    (h' : Kept translator' translator'') : Kept translator translator'' :=
  ⟨h'.receiverId.trans h.receiverId, h'.generationId.trans h.generationId, h'.catalog.trans h.catalog,
    fun slot => (h'.lanes slot).trans (h.lanes slot)⟩

theorem withLane_lanes (translator : PassiveObservationTranslator) (slot other : Nat) (binding : LaneBinding) :
    (translator.withLane slot binding).lanes[other]? =
      if other = slot then some binding else translator.lanes[other]? :=
  OrderedMaps.getElem?_insert_of _ _ _

theorem withLane_kept (hstored : translator.lanes[slot]? = some binding)
    (hchild : binding'.child = binding.child) : Kept translator (translator.withLane slot binding') := by
  refine ⟨rfl, rfl, rfl, fun other => ?_⟩
  rw [withLane_lanes]
  split
  next hsame =>
    rw [hsame, hstored]
    exact congrArg some hchild
  · rfl

theorem receiverState_kept (stamp : ObservationStamp) (translator : PassiveObservationTranslator)
    : Kept translator (translator.receiverState state stamp).2 := by
  unfold receiverState
  dsimp only
  split
  · refine ⟨rfl, rfl, rfl, fun slot => ?_⟩
    dsimp only
    split
    · rfl
    rw [Std.TreeMap.getElem?_map, Option.map_map]
    rfl
  split
  · exact ⟨rfl, rfl, rfl, fun _ => rfl⟩
  · exact .refl translator

structure LaneFacts (translator : PassiveObservationTranslator) (slot : Nat) (stamp : ObservationStamp)
    (binding : LaneBinding) (level : Option BatteryPercent) (facts : List LifecycleObservation)
    (reading : Option ChildChargeReading) (translation : PassiveTranslation) : Prop where
  stored : translator.lanes[slot]? = some binding
  observations : translation.observations =
    (level.map fun percentage => translator.observation stamp (.batteryReported binding.deviceId percentage)).toList ++
      facts ++ (reading.map fun reading => translator.chargeObservation binding.deviceId reading stamp).toList
  charge : translation.charge =
    reading.bind fun reading => (ChildBatteryLane.fromEndpointSlot slot).map fun lane => (lane, reading)
  read : reading.isSome = true → (ChildBatteryLane.fromEndpointSlot slot).isSome = true
  endpoint : ∀ fact ∈ facts, fact.receiverId = translator.receiverId ∧ fact.stamp = stamp ∧
    fact.kind.ofEndpoint binding.deviceId = true
  single : level.isSome = true → reading = none ∧ ∀ fact ∈ facts, batteryFact fact.kind = none
  qualified : binding.passive = none → level = none ∧ reading = none ∧
    ∀ fact ∈ facts, batteryFact fact.kind = none
  settled : translation.disposition ≠ .identityConflict

def Quiet (translator : PassiveObservationTranslator) (stamp : ObservationStamp)
    (translation : PassiveTranslation) : Prop :=
  translation.charge = none ∧ ∀ fact ∈ translation.observations, fact.receiverId = translator.receiverId ∧
    fact.stamp = stamp ∧ fact.kind.updatesBattery = false ∧ batteryFact fact.kind = none

theorem ofDisposition_quiet (translator : PassiveObservationTranslator) (stamp : ObservationStamp)
    (disposition : PassiveDisposition) : Quiet translator stamp (.ofDisposition disposition) :=
  ⟨rfl, fun _ hfact => absurd hfact not_mem_nil⟩

theorem receiverState_quiet (stamp : ObservationStamp) (translator : PassiveObservationTranslator) :
    Quiet translator stamp (translator.receiverState state stamp).1 := by
  refine ⟨rfl, fun fact hfact => ?_⟩
  obtain hsame := mem_singleton.mp hfact
  rw [hsame]
  exact ⟨rfl, rfl, rfl, rfl⟩

theorem mem_routeObservations {state : RouteState} (h : fact ∈ translator.routeObservations binding stamp state)
    :
    fact = translator.observation stamp (.route binding.deviceId binding.endpointId state) ∨
      fact = translator.observation stamp (.freshness binding.deviceId binding.endpointId .fresh) := by
  unfold routeObservations at h
  obtain hroute | hfresh := mem_cons.mp h
  · exact .inl hroute
  split at hfresh
  · exact .inr (mem_singleton.mp hfresh)
  · exact absurd hfresh not_mem_nil

inductive Translated (translator : PassiveObservationTranslator) (slot : Nat) (stamp : ObservationStamp)
    (translation : PassiveTranslation) (translator' : PassiveObservationTranslator) : Prop
  | quiet (hquiet : Quiet translator stamp translation) (hkept : Kept translator translator')
  | registered (binding : LaneBinding) (hquiet : Quiet translator stamp translation)
      (hafter : translator' = translator.withLane slot binding)
      (hbound : binding.deviceId.asStr = translator.catalog.deviceName binding.productId)
      (hpassive : binding.passive = (translator.catalog.child binding.productId).bind (·.passive))
      (hlane : ∃ lane, passiveLane slot = .ok lane ∧
        ∀ passive, binding.passive = some passive → passive.endpointLane = lane)
      (hprior : ∀ current, translator.lanes[slot]? = some current → current.productId = binding.productId)
  | lane (binding : LaneBinding) (level : Option BatteryPercent) (facts : List LifecycleObservation)
      (reading : Option ChildChargeReading)
      (hfacts : LaneFacts translator slot stamp binding level facts reading translation)
      (hkept : Kept translator translator')

section Reports

variable {translation : PassiveTranslation}

theorem Translated.idle (disposition : PassiveDisposition) :
    Translated translator slot stamp (.ofDisposition disposition) translator :=
  .quiet (ofDisposition_quiet translator stamp disposition) (.refl translator)

theorem withLane_framed (hstored : translator.lanes[slot]? = some binding)
    (h : LaneBinding.Framed binding binding') : Kept translator (translator.withLane slot binding') :=
  withLane_kept hstored h.child

theorem impliedRoute_facts {passive : PassiveTelemetryRecord}
    (h : fact ∈ translator.impliedRoute passive binding stamp) :
    fact.receiverId = translator.receiverId ∧ fact.stamp = stamp ∧
      fact.kind.ofEndpoint binding.deviceId = true ∧ batteryFact fact.kind = none := by
  unfold impliedRoute at h
  split at h
  · obtain hroute | hfresh := mem_routeObservations h
    · rw [hroute]
      exact ⟨rfl, rfl, decide_eq_true rfl, rfl⟩
    rw [hfresh]
    exact ⟨rfl, rfl, decide_eq_true rfl, rfl⟩
  · exact absurd h not_mem_nil

theorem activity_translated (h : translator.activity slot value stamp = (.ok translation, translator')) :
    Translated translator slot stamp translation translator' := by
  unfold activity at h
  split at h
  · cases h
  split at h
  · cases h
    exact .idle _
  next binding hstored =>
    cases h
    have hframed := LaneBinding.reportActivity_framed stamp binding
    refine .lane binding none _ none ⟨hstored, (append_nil _).symm, rfl, (fun h => by cases h), ?_,
      (fun h => by cases h), ?_, ?_⟩ (withLane_framed hstored hframed)
    · intro fact hfact
      have hdevice := hframed.deviceId
      simp only [mem_cons, not_mem_nil, or_false] at hfact
      obtain hsame | hsame | hsame | hsame | hsame := hfact <;> rw [hsame] <;>
        exact ⟨rfl, rfl, decide_eq_true hdevice⟩
    · intro _
      refine ⟨rfl, rfl, fun fact hfact => ?_⟩
      simp only [mem_cons, not_mem_nil, or_false] at hfact
      obtain hsame | hsame | hsame | hsame | hsame := hfact <;> rw [hsame] <;> rfl
    · exact fun h => by cases h

theorem battery_translated {passiveReport : Bool}
    (h : translator.battery slot value passiveReport stamp = (.ok translation, translator')) :
    Translated translator slot stamp translation translator' := by
  unfold battery at h
  split at h
  · cases h
    exact .idle _
  next binding hstored =>
    split at h
    · cases h
      exact .idle _
    next passive hpassive =>
      split at h
      next hvalue =>
        cases h
        have hframed := LaneBinding.reportLevel_framed passive passiveReport stamp binding
        have hdevice : (binding.reportLevel passive passiveReport stamp).2.deviceId = binding.deviceId :=
          hframed.deviceId
        refine .lane binding (some (passive.decodeBattery value hvalue))
          (translator.impliedRoute passive (binding.reportLevel passive passiveReport stamp).2 stamp) none
          ⟨hstored, ?_, rfl, (fun h => by cases h), ?_, ?_, ?_, fun h => by cases h⟩
          (withLane_kept hstored hframed.child)
        · rw [hdevice]
          exact (append_nil _).symm
        · intro fact hfact
          obtain ⟨hreceiver, hstamp, hendpoint, -⟩ := impliedRoute_facts hfact
          rw [hdevice] at hendpoint
          exact ⟨hreceiver, hstamp, hendpoint⟩
        · exact fun _ => ⟨rfl, fun fact hfact => (impliedRoute_facts hfact).2.2.2⟩
        intro hnone
        rw [hpassive] at hnone
        cases hnone
      · cases h

theorem contact_translated :
    Translated translator slot stamp (translator.contact slot value stamp).1
      (translator.contact slot value stamp).2 := by
  unfold contact
  split
  · exact .idle _
  next binding hstored =>
    split
    · exact .idle _
    next passive hpassive =>
      split
      · exact .idle _
      have hframed := LaneBinding.reportContact_framed passive (passive.decodeContact value) stamp binding
      have hdevice : (binding.reportContact passive (passive.decodeContact value) stamp).2.deviceId =
          binding.deviceId := hframed.deviceId
      refine .lane binding none _ none ⟨hstored, (append_nil _).symm, rfl, (fun h => by cases h), ?_,
        (fun h => by cases h), ?_, fun h => by cases h⟩ (withLane_kept hstored hframed.child)
      · intro fact hfact
        obtain hcontact | hroute := mem_cons.mp hfact
        · rw [hcontact]
          exact ⟨rfl, rfl, decide_eq_true hdevice⟩
        obtain ⟨hreceiver, hstamp, hendpoint, -⟩ := impliedRoute_facts hroute
        rw [hdevice] at hendpoint
        exact ⟨hreceiver, hstamp, hendpoint⟩
      intro hnone
      rw [hpassive] at hnone
      cases hnone

theorem charge_translated :
    Translated translator slot stamp (translator.charge slot value stamp).1
      (translator.charge slot value stamp).2 := by
  unfold charge
  split
  next lane binding hlane hstored =>
    split
    · exact .idle _
    next passive hpassive =>
      split
      · exact .idle _
      dsimp only
      refine .lane binding none [] (some _) ⟨hstored, rfl, ?_, ?_, ?_, (fun h => by cases h), ?_,
        fun h => by cases h⟩ (withLane_kept hstored rfl)
      · rw [hlane]
        rfl
      · intro _
        rw [hlane]
        rfl
      · exact fun _ hfact => absurd hfact not_mem_nil
      intro hnone
      rw [hpassive] at hnone
      cases hnone
  · exact .idle _

theorem queriedCharge_translated :
    Translated translator slot stamp (translator.queriedCharge slot value stamp) translator := by
  unfold queriedCharge
  split
  next lane binding hlane hstored =>
    split
    · exact .idle _
    next passive hpassive =>
      split
      · exact .idle _
      split
      · exact .idle _
      refine .lane binding none [] (some .charging) ⟨hstored, rfl, ?_, ?_, ?_, (fun h => by cases h), ?_,
        fun h => by cases h⟩ (.refl translator)
      · rw [hlane]
        rfl
      · intro _
        rw [hlane]
        rfl
      · exact fun _ hfact => absurd hfact not_mem_nil
      intro hnone
      rw [hpassive] at hnone
      cases hnone
  · exact .idle _

theorem routeCharge_kept : Kept translator (translator.routeCharge slot value stamp).2 := by
  unfold routeCharge
  split
  next lane binding hlane hstored =>
    split
    · exact withLane_kept hstored rfl
    split
    · exact withLane_kept hstored rfl
    · exact withLane_kept hstored rfl
  · exact .refl translator

theorem routeCharge_read {reading : ChildChargeReading}
    (h : (translator.routeCharge slot value stamp).1 = some (lane, reading)) :
    ChildBatteryLane.fromEndpointSlot slot = some lane ∧
      ∃ binding passive, translator.lanes[slot]? = some binding ∧ binding.passive = some passive ∧
        binding.lastBattery.any (follows · stamp.sequence) = true ∧
        reading = passive.decodeRouteCharge value ∧
        (translator.routeCharge slot value stamp).2.lanes[slot]? = some { binding with lastBattery := none } := by
  unfold routeCharge at h ⊢
  split at h
  next found binding hlane hstored =>
    split at h
    · cases h
    next passive hpassive =>
      split at h
      · cases h
      next hbehind =>
        rw [not_or] at hbehind
        cases h
        refine ⟨hlane, binding, passive, hstored, hpassive, eq_true_of_ne_false hbehind.1, rfl, ?_⟩
        dsimp only
        rw [if_neg (not_or.mpr hbehind), withLane_lanes, if_pos rfl]
  · cases h

theorem Kept.bound (h : Kept translator translator') (hstored : translator.lanes[slot]? = some binding) :
    ∃ binding', translator'.lanes[slot]? = some binding' ∧ binding'.child = binding.child := by
  have hlane := h.lanes slot
  rw [hstored] at hlane
  exact Option.map_eq_some_iff.mp hlane

theorem routeState_facts (value : Nat) (stamp : ObservationStamp)
    (hstored : translator.lanes[slot]? = some binding) :
    (translator.routeState slot value stamp).1.disposition ≠ .identityConflict ∧
    (∀ fact ∈ (translator.routeState slot value stamp).1.observations, fact.receiverId = translator.receiverId ∧
      fact.stamp = stamp ∧ fact.kind.ofEndpoint binding.deviceId = true) ∧
    (binding.passive = none → (translator.routeState slot value stamp).1.observations = []) ∧
    Kept translator (translator.routeState slot value stamp).2 := by
  have hidle : ∀ disposition : PassiveDisposition, disposition ≠ .identityConflict →
      (PassiveTranslation.ofDisposition disposition).disposition ≠ .identityConflict ∧
      (∀ fact ∈ (PassiveTranslation.ofDisposition disposition).observations,
        fact.receiverId = translator.receiverId ∧ fact.stamp = stamp ∧
          fact.kind.ofEndpoint binding.deviceId = true) ∧
      (binding.passive = none → (PassiveTranslation.ofDisposition disposition).observations = []) ∧
      Kept translator translator :=
    fun _ hother => ⟨hother, fun _ hfact => absurd hfact not_mem_nil, fun _ => rfl, .refl translator⟩
  have hdecoded : ∀ (passive : PassiveTelemetryRecord) (state : RouteState), binding.passive = some passive →
      (∀ fact ∈ translator.routeObservations (binding.reportRoute state stamp).2 stamp state,
        fact.receiverId = translator.receiverId ∧ fact.stamp = stamp ∧
          fact.kind.ofEndpoint binding.deviceId = true) ∧
      (binding.passive = none →
        translator.routeObservations (binding.reportRoute state stamp).2 stamp state = []) ∧
      Kept translator (translator.withLane slot (binding.reportRoute state stamp).2) := by
    intro passive state hpassive
    have hframed := LaneBinding.reportRoute_framed state stamp binding
    have hdevice := hframed.deviceId
    refine ⟨?_, ?_, withLane_framed hstored hframed⟩
    · intro fact hfact
      obtain hsame | hsame := mem_routeObservations hfact <;> rw [hsame] <;>
        exact ⟨rfl, rfl, decide_eq_true hdevice⟩
    intro hnone
    rw [hpassive] at hnone
    cases hnone
  unfold routeState
  rw [hstored]
  dsimp only
  split
  · exact hidle _ (fun h => by cases h)
  next passive hpassive =>
    split
    · exact ⟨(fun h => by cases h), hdecoded passive .available hpassive⟩
    split
    · exact ⟨(fun h => by cases h), hdecoded passive .unavailable hpassive⟩
    split
    · exact hidle _ (fun h => by cases h)
    · exact hidle _ (fun h => by cases h)

theorem route_translated :
    Translated translator slot stamp (translator.route slot value stamp).1
      (translator.route slot value stamp).2 := by
  cases hstored : translator.lanes[slot]? with
  | none =>
    have hread : translator.routeCharge slot value stamp = (none, translator) := by
      unfold routeCharge
      rw [hstored]
      cases ChildBatteryLane.fromEndpointSlot slot <;> rfl
    have hstate : translator.routeState slot value stamp = (.ofDisposition .ignoredUnknownLane, translator) := by
      unfold routeState
      rw [hstored]
    unfold route
    rw [hread]
    dsimp only
    rw [hstate]
    exact .idle _
  | some binding =>
    have hkept : Kept translator (translator.routeCharge slot value stamp).2 := routeCharge_kept
    obtain ⟨taken, htaken, hchild⟩ := hkept.bound hstored
    have hdevice : taken.deviceId = binding.deviceId := congrArg (fun child => child.2.1) hchild
    have hpassive : taken.passive = binding.passive := congrArg (fun child => child.2.2) hchild
    obtain ⟨hsettled, hfacts, hnothing, hstate⟩ := routeState_facts value stamp htaken
    rw [hkept.receiverId, hdevice] at hfacts
    rw [hpassive] at hnothing
    refine .lane binding none _ ((translator.routeCharge slot value stamp).1.map (·.2))
      ⟨hstored, ?_, ?_, ?_, hfacts, (fun h => by cases h), ?_, hsettled⟩ (hkept.trans hstate)
    · unfold route
      dsimp only
      rw [htaken]
      cases (translator.routeCharge slot value stamp).1 with
      | none => rfl
      | some charge =>
        dsimp only [Option.map_some, Option.bind_some]
        unfold chargeObservation observation
        rw [hdevice, hkept.receiverId]
        rfl
    · unfold route
      dsimp only
      cases hread : (translator.routeCharge slot value stamp).1 with
      | none => rfl
      | some charge =>
        obtain ⟨hlane, -⟩ := routeCharge_read (Prod.eta charge ▸ hread)
        dsimp only [Option.map_some, Option.bind_some]
        rw [hlane]
        rfl
    · intro hsome
      cases hread : (translator.routeCharge slot value stamp).1 with
      | none =>
        rw [hread] at hsome
        cases hsome
      | some charge =>
        obtain ⟨hlane, -⟩ := routeCharge_read (Prod.eta charge ▸ hread)
        rw [hlane]
        rfl
    intro hnone
    refine ⟨rfl, ?_, ?_⟩
    · cases hread : (translator.routeCharge slot value stamp).1 with
      | none => rfl
      | some charge =>
        obtain ⟨-, found, passive, hfound, hqualified, -⟩ := routeCharge_read (Prod.eta charge ▸ hread)
        rw [hstored] at hfound
        cases hfound
        rw [hnone] at hqualified
        cases hqualified
    rw [hnothing hnone]
    exact fun _ hfact => absurd hfact not_mem_nil

theorem productIdentity_translated
    (h : translator.productIdentity slot value stamp = (.ok translation, translator')) :
    Translated translator slot stamp translation translator' := by
  unfold productIdentity at h
  split at h
  · cases h
  next lane hlane =>
    split at h
    next hvalue =>
      dsimp only at h
      split at h
      · cases h
      next hmatches =>
        split at h
        · cases h
          exact .idle _
        next hsame =>
          split at h
          · cases h
          next observations binding hregistration =>
            cases h
            unfold registration at hregistration
            obtain ⟨deviceId, hdeviceId, hregistration⟩ := Procedure.bind_eq_ok hregistration
            obtain ⟨endpointId, hendpointId, hregistration⟩ := Procedure.bind_eq_ok hregistration
            obtain ⟨lifecycle, hlifecycle, hregistration⟩ := Procedure.bind_eq_ok hregistration
            split at hregistration
            next hkind =>
              cases hregistration
              refine .registered _ ⟨rfl, ?_⟩ rfl ?_ rfl ⟨lane, hlane, ?_⟩ ?_
              · intro fact hfact
                have hfact : fact ∈ [_, _, _] := hfact
                simp only [mem_cons, not_mem_nil, or_false] at hfact
                obtain hfact | hfact | hfact := hfact <;> rw [hfact] <;> exact ⟨rfl, rfl, rfl, rfl⟩
              · exact domainText_ok hdeviceId
              · intro passive hpassive
                apply Decidable.byContradiction
                intro hother
                have hprofile : (translator.catalog.child ⟨value, Nat.zero_le _, hvalue.1⟩).bind (·.passive) =
                    some passive := hpassive
                apply hmatches
                rw [hprofile]
                exact decide_eq_true hother
              intro current hcurrent
              apply Decidable.byContradiction
              intro hother
              apply hsame
              rw [hcurrent]
              exact decide_eq_true hother
            · cases hregistration
    · cases h

end Reports

/-- A stamped observation is translated by the report of its kind. -/
theorem translate_reports
    {P : Except PassiveTranslationError PassiveTranslation × PassiveObservationTranslator → Prop}
    (hstamp : translator.stampOf raw = .ok stamp)
    (havailable : P (translator.receiverAvailable raw.value stamp))
    (hsuspended : P (translator.receiverSuspended raw.value stamp))
    (hidentity : P (translator.productIdentity raw.endpointSlot raw.value stamp))
    (hactivity : P (translator.activity raw.endpointSlot raw.value stamp))
    (hbattery : ∀ passiveReport, P (translator.battery raw.endpointSlot raw.value passiveReport stamp))
    (hcontact : P (.ok (translator.contact raw.endpointSlot raw.value stamp).1,
      (translator.contact raw.endpointSlot raw.value stamp).2))
    (hroute : P (.ok (translator.route raw.endpointSlot raw.value stamp).1,
      (translator.route raw.endpointSlot raw.value stamp).2))
    (hqueried : P (.ok (translator.queriedCharge raw.endpointSlot raw.value stamp), translator))
    (hcharge : P (.ok (translator.charge raw.endpointSlot raw.value stamp).1,
      (translator.charge raw.endpointSlot raw.value stamp).2))
    (hidle : ∀ disposition, P (.ok (.ofDisposition disposition), translator)) : P (translator.translate raw) := by
  unfold translate
  rw [hstamp]
  dsimp only
  apply iteInduction (fun _ => havailable)
  intro _
  apply iteInduction (fun _ => hsuspended)
  intro _
  apply iteInduction (fun _ => hidentity)
  intro _
  apply iteInduction (fun _ => hactivity)
  intro _
  apply iteInduction (fun _ => hbattery _)
  intro _
  apply iteInduction (fun _ => hcontact)
  intro _
  apply iteInduction (fun _ => hroute)
  intro _
  apply iteInduction
  · intro _
    exact iteInduction (fun _ => hqueried) (fun _ => hcharge)
  intro _
  exact iteInduction (fun _ => hidle _) (fun _ => hidle _)

theorem translate_unstamped {error : PassiveTranslationError} (hstamp : translator.stampOf raw = .error error) :
    translator.translate raw = (.error error, translator) := by
  unfold translate
  rw [hstamp]

theorem translate_translated {translation : PassiveTranslation}
    (h : translator.translate raw = (.ok translation, translator')) :
    ∃ stamp, translator.stampOf raw = .ok stamp ∧
      Translated translator raw.endpointSlot stamp translation translator' := by
  have hreceiver : ∀ (state : ReceiverLifecycleState) (stamp : ObservationStamp),
      (Except.ok (translator.receiverState state stamp).1, (translator.receiverState state stamp).2) =
        ((.ok translation, translator') : Except PassiveTranslationError PassiveTranslation × _) →
      Translated translator raw.endpointSlot stamp translation translator' := by
    intro state stamp hsame
    cases hsame
    exact .quiet (receiverState_quiet state stamp translator) (receiverState_kept state stamp translator)
  cases hstamp : translator.stampOf raw with
  | error error =>
    rw [translate_unstamped hstamp] at h
    cases h
  | ok stamp =>
    refine ⟨stamp, rfl, ?_⟩
    revert h
    refine translate_reports (P := fun result => result = (.ok translation, translator') →
      Translated translator raw.endpointSlot stamp translation translator') hstamp ?_ ?_
      productIdentity_translated activity_translated (fun _ => battery_translated) ?_ ?_ ?_ ?_ ?_
    · unfold receiverAvailable
      intro h
      split at h
      · exact hreceiver .active stamp h
      split at h
      · cases h
        exact .idle _
      · cases h
    · unfold receiverSuspended
      intro h
      split at h
      · exact hreceiver .active stamp h
      split at h
      · exact hreceiver .suspended stamp h
      · cases h
    · intro h
      cases h
      exact contact_translated
    · intro h
      cases h
      exact route_translated
    · intro h
      cases h
      exact queriedCharge_translated
    · intro h
      cases h
      exact charge_translated
    intro disposition h
    cases h
    exact .idle _

theorem translate_error {error : PassiveTranslationError}
    (h : translator.translate raw = (.error error, translator')) : translator' = translator := by
  cases hstamp : translator.stampOf raw with
  | error error =>
    rw [translate_unstamped hstamp] at h
    cases h
    rfl
  | ok stamp =>
    revert h
    refine translate_reports (P := fun result => result = (.error error, translator') → translator' = translator)
      hstamp ?_ ?_ ?_ ?_ ?_ nofun nofun nofun nofun (fun _ => nofun)
    · unfold receiverAvailable
      intro h
      repeat' split at h
      all_goals cases h <;> rfl
    · unfold receiverSuspended
      intro h
      repeat' split at h
      all_goals cases h <;> rfl
    · unfold productIdentity
      intro h
      split at h
      · cases h
        rfl
      split at h
      · dsimp only at h
        repeat' split at h
        all_goals cases h <;> rfl
      cases h
      rfl
    · unfold activity
      intro h
      repeat' split at h
      all_goals cases h <;> rfl
    intro passiveReport
    unfold battery
    intro h
    repeat' split at h
    all_goals cases h <;> rfl

section Bindings

/-- Every lane is bound to a child by the child's own profile. -/
structure Bound (translator : PassiveObservationTranslator) : Prop where
  lane : ∀ (slot : Nat) (binding : LaneBinding), translator.lanes[slot]? = some binding →
    ∃ lane, passiveLane slot = .ok lane ∧
      ∀ passive, binding.passive = some passive → passive.endpointLane = lane
  named : ∀ (slot : Nat) (binding : LaneBinding), translator.lanes[slot]? = some binding →
    binding.deviceId.asStr = translator.catalog.deviceName binding.productId
  profiled : ∀ (slot : Nat) (binding : LaneBinding), translator.lanes[slot]? = some binding →
    binding.passive = (translator.catalog.child binding.productId).bind (·.passive)

theorem new_bound (receiverId : ReceiverId) (generationId : GenerationId) (catalog : PassiveCatalog) :
    (new receiverId generationId catalog).Bound := by
  have hnone : ∀ (slot : Nat) (binding : LaneBinding),
      (new receiverId generationId catalog).lanes[slot]? ≠ some binding := by
    intro slot binding hstored
    have hempty : (∅ : Std.TreeMap Nat LaneBinding)[slot]? = some binding := hstored
    rw [Std.TreeMap.getElem?_emptyc] at hempty
    cases hempty
  exact ⟨fun slot binding h => absurd h (hnone slot binding), fun slot binding h => absurd h (hnone slot binding),
    fun slot binding h => absurd h (hnone slot binding)⟩

theorem Bound.kept (h : translator.Bound) (hkept : Kept translator translator') : translator'.Bound := by
  have hback : ∀ (slot : Nat) (binding : LaneBinding), translator'.lanes[slot]? = some binding →
      ∃ old, translator.lanes[slot]? = some old ∧ binding.child = old.child := by
    intro slot binding hstored
    have hlane := hkept.lanes slot
    rw [hstored] at hlane
    obtain ⟨old, hold, hchild⟩ := Option.map_eq_some_iff.mp hlane.symm
    exact ⟨old, hold, hchild.symm⟩
  constructor
  · intro slot binding hstored
    obtain ⟨old, hold, hchild⟩ := hback slot binding hstored
    obtain ⟨lane, hlane, hmatches⟩ := h.lane slot old hold
    have hpassive : binding.passive = old.passive := congrArg (·.2.2) hchild
    refine ⟨lane, hlane, ?_⟩
    rw [hpassive]
    exact hmatches
  · intro slot binding hstored
    obtain ⟨old, hold, hchild⟩ := hback slot binding hstored
    have hnamed := h.named slot old hold
    have hproduct : binding.productId = old.productId := congrArg (·.1) hchild
    have hdevice : binding.deviceId = old.deviceId := congrArg (·.2.1) hchild
    rw [hdevice, hproduct, hkept.catalog]
    exact hnamed
  intro slot binding hstored
  obtain ⟨old, hold, hchild⟩ := hback slot binding hstored
  have hprofiled := h.profiled slot old hold
  have hproduct : binding.productId = old.productId := congrArg (·.1) hchild
  have hpassive : binding.passive = old.passive := congrArg (·.2.2) hchild
  rw [hpassive, hproduct, hkept.catalog]
  exact hprofiled

theorem Bound.translated {translation : PassiveTranslation} (h : translator.Bound)
    (htranslated : Translated translator slot stamp translation translator') : translator'.Bound := by
  cases htranslated with
  | quiet _ hkept | lane _ _ _ _ _ hkept => exact h.kept hkept
  | registered binding _ hafter hbound hpassive hlane _ =>
    rw [hafter]
    constructor
    · intro other found hstored
      rw [withLane_lanes] at hstored
      split at hstored
      next hsame =>
        cases hstored
        rw [hsame]
        exact hlane
      · exact h.lane other found hstored
    · intro other found hstored
      rw [withLane_lanes] at hstored
      split at hstored
      · cases hstored
        exact hbound
      · exact h.named other found hstored
    intro other found hstored
    rw [withLane_lanes] at hstored
    split at hstored
    · cases hstored
      exact hpassive
    · exact h.profiled other found hstored

theorem passiveLane_injective {slot slot' : Nat} {lane : PassiveEndpointLane} (h : passiveLane slot = .ok lane)
    (h' : passiveLane slot' = .ok lane) : slot = slot' := by
  unfold passiveLane at h h'
  split at h
  next hslot =>
    cases h
    split at h'
    next hslot' => rw [hslot, hslot']
    · split at h' <;> cases h'
  split at h
  next hslot =>
    cases h
    split at h'
    · cases h'
    split at h'
    next hslot' => rw [hslot, hslot']
    · cases h'
  · cases h

theorem fromEndpointSlot_of_passiveLane {lane : PassiveEndpointLane} (h : passiveLane slot = .ok lane) :
    ∃ child, ChildBatteryLane.fromEndpointSlot slot = some child ∧ child.endpointSlot = slot := by
  unfold passiveLane at h
  unfold ChildBatteryLane.fromEndpointSlot
  split at h
  next hslot => exact ⟨.pointer, if_pos hslot, hslot.symm⟩
  next hslot =>
    split at h
    next hslot' =>
      refine ⟨.keyboard, ?_, hslot'.symm⟩
      rw [if_neg hslot, if_pos hslot']
    · cases h

theorem fromEndpointSlot_endpointSlot (lane : ChildBatteryLane) :
    ChildBatteryLane.fromEndpointSlot lane.endpointSlot = some lane := by
  cases lane <;> rfl

theorem Bound.unique (h : translator.Bound) {slot' : Nat} (hstored : translator.lanes[slot]? = some binding)
    (hstored' : translator.lanes[slot']? = some binding') (hdevice : binding'.deviceId = binding.deviceId)
    (hqualified : binding.passive ≠ none) : slot' = slot := by
  have hname := h.named slot binding hstored
  have hname' := h.named slot' binding' hstored'
  rw [hdevice, hname] at hname'
  have hproduct : binding.productId = binding'.productId := pairedDeviceName_injective hname'
  have hpassive : binding'.passive = binding.passive := by
    rw [h.profiled slot binding hstored, h.profiled slot' binding' hstored', hproduct]
  obtain ⟨passive, hsome⟩ := Option.ne_none_iff_exists'.mp hqualified
  obtain ⟨lane, hlane, hmatches⟩ := h.lane slot binding hstored
  obtain ⟨lane', hlane', hmatches'⟩ := h.lane slot' binding' hstored'
  have hsame : lane' = lane := (hmatches' passive (hpassive.trans hsome)).symm.trans (hmatches passive hsome)
  rw [hsame] at hlane'
  exact passiveLane_injective hlane' hlane

theorem Bound.batteryLane (h : translator.Bound) (hstored : translator.lanes[lane.endpointSlot]? = some binding)
    (hqualified : binding.passive ≠ none) :
    ∃ modelName, translator.batteryLane binding.deviceId = some (lane, modelName) := by
  unfold PassiveObservationTranslator.batteryLane
  have hmem : (lane.endpointSlot, binding) ∈ translator.lanes.toList :=
    Std.TreeMap.mem_toList_iff_getElem?_eq_some.mpr hstored
  split
  next hnone =>
    have hnot := find?_eq_none.mp hnone _ hmem
    exact absurd (decide_eq_true rfl) hnot
  next slot found hfound =>
    have hmatches := find?_some hfound
    have hdevice : found.deviceId = binding.deviceId := of_decide_eq_true hmatches
    have hother : translator.lanes[slot]? = some found :=
      Std.TreeMap.mem_toList_iff_getElem?_eq_some.mp (mem_of_find?_eq_some hfound)
    have hslot := h.unique hstored hother hdevice hqualified
    refine ⟨((translator.catalog.child found.productId).map (·.modelName)).getD "", ?_⟩
    rw [hslot, fromEndpointSlot_endpointSlot]
    rfl

end Bindings

end PassiveObservationTranslator

end HyperfluxNext
