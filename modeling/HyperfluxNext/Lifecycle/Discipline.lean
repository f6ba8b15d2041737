import HyperfluxNext.Lifecycle.Machine
import HyperfluxNext.Lifecycle.Presence

namespace HyperfluxNext

namespace ObservationStamp

open Std.TreeMap EndpointLifecycle LifecycleFact

theorem atOrAfter_iff {stamp other : ObservationStamp} :
    stamp.atOrAfter other = true ↔ stamp.generationId = other.generationId ∧
      other.sequence.get ≤ stamp.sequence.get ∧ other.observedAtMs.get ≤ stamp.observedAtMs.get :=
  decide_eq_true_iff

theorem strictlyAfter_iff {stamp other : ObservationStamp} :
    stamp.strictlyAfter other = true ↔ stamp.generationId = other.generationId ∧
      other.sequence.get < stamp.sequence.get ∧ other.observedAtMs.get ≤ stamp.observedAtMs.get :=
  decide_eq_true_iff

theorem atOrAfter_refl (stamp : ObservationStamp) : stamp.atOrAfter stamp = true :=
  atOrAfter_iff.mpr ⟨rfl, Nat.le_refl _, Nat.le_refl _⟩

theorem atOrAfter_trans {first second third : ObservationStamp} (h : first.atOrAfter second = true)
    (h' : second.atOrAfter third = true) : first.atOrAfter third = true := by
  rw [atOrAfter_iff] at *
  exact ⟨h.1.trans h'.1, by omega, by omega⟩

theorem atOrAfter_of_strictlyAfter {stamp other : ObservationStamp}
    (h : stamp.strictlyAfter other = true) : stamp.atOrAfter other = true := by
  rw [strictlyAfter_iff] at h
  rw [atOrAfter_iff]
  exact ⟨h.1, by omega, h.2.2⟩

end ObservationStamp

open ObservationStamp

/-- The stamp was kept, or replaced by a strictly later one. -/
def Advanced (old new : Option ObservationStamp) : Prop :=
  new = old ∨ ∃ stamp, new = some stamp ∧ ∀ earlier, old = some earlier → stamp.strictlyAfter earlier = true

theorem Advanced.refl (stamp : Option ObservationStamp) : Advanced stamp stamp := .inl rfl

variable {held : ObservationStamp}

namespace LifecycleFact

variable {α : Type}

/-- A fact is unknown exactly as long as it was not observed. -/
def Known (unknown : α) (fact : LifecycleFact α) : Prop := fact.value = unknown ↔ fact.stamp = none

theorem apply_advanced (fact : LifecycleFact α) (value : α) (stamp : ObservationStamp) :
    Advanced fact.stamp (fact.apply value stamp).1.stamp := by
  unfold apply
  split
  next haccepts =>
    refine .inr ⟨stamp, rfl, fun earlier hearlier => ?_⟩
    unfold accepts at haccepts
    rw [hearlier] at haccepts
    exact haccepts
  · exact Advanced.refl _

variable {fact : LifecycleFact α} {value : α} {stamp : ObservationStamp}

theorem apply_known {unknown : α} (h : fact.Known unknown) (hvalue : value ≠ unknown)
    (stamp : ObservationStamp) :
    (fact.apply value stamp).1.Known unknown := by
  unfold apply
  split
  · constructor
    · intro hunknown
      exact absurd hunknown hvalue
    intro hnone
    cases hnone
  · exact h

theorem apply_stamp (h : (fact.apply value stamp).1.stamp = some held)
    : fact.stamp = some held ∨ held = stamp := by
  unfold apply at h
  split at h
  · cases h
    exact .inr rfl
  · exact .inl h

theorem apply_refused (h : fact.accepts stamp = false) : fact.apply value stamp = (fact, false) := by
  unfold apply
  rw [h]
  rfl

theorem apply_accepted (h : fact.accepts stamp = true)
    : fact.apply value stamp = (.observed value stamp, true) := by
  unfold apply
  rw [h]
  rfl

end LifecycleFact

variable {endpoint : EndpointLifecycle}

namespace EndpointLifecycle

def stamps (endpoint : EndpointLifecycle) : List ObservationStamp :=
  endpoint.registeredAt :: (endpoint.route.stamp.toList ++ endpoint.power.stamp.toList ++
    endpoint.sleep.stamp.toList ++ endpoint.activity.stamp.toList ++ endpoint.contact.stamp.toList ++
    endpoint.freshness.stamp.toList)

structure AllKnown (endpoint : EndpointLifecycle) : Prop where
  route : endpoint.route.Known .unknown
  power : endpoint.power.Known .unknown
  sleep : endpoint.sleep.Known .unknown
  activity : endpoint.activity.Known .unknown
  freshness : endpoint.freshness.Known .unknown

structure Advances (old new : EndpointLifecycle) : Prop where
  registered : Advanced (some old.registeredAt) (some new.registeredAt)
  route : Advanced old.route.stamp new.route.stamp
  power : Advanced old.power.stamp new.power.stamp
  sleep : Advanced old.sleep.stamp new.sleep.stamp
  activity : Advanced old.activity.stamp new.activity.stamp
  contact : Advanced old.contact.stamp new.contact.stamp
  freshness : Advanced old.freshness.stamp new.freshness.stamp

theorem Advances.refl (endpoint : EndpointLifecycle) : Advances endpoint endpoint :=
  ⟨.refl _, .refl _, .refl _, .refl _, .refl _, .refl _, .refl _⟩

theorem mem_stamps {stamp : ObservationStamp} :
    stamp ∈ endpoint.stamps ↔ stamp = endpoint.registeredAt ∨ endpoint.route.stamp = some stamp ∨
      endpoint.power.stamp = some stamp ∨ endpoint.sleep.stamp = some stamp ∨
      endpoint.activity.stamp = some stamp ∨ endpoint.contact.stamp = some stamp ∨
      endpoint.freshness.stamp = some stamp := by
  simp only [stamps, List.mem_cons, List.mem_append, Option.mem_toList, or_assoc]

end EndpointLifecycle

structure FactField.Lawful {α : Type} (field : FactField EndpointLifecycle α) (value : α) : Prop where
  restore : ∀ endpoint, field.set endpoint (field.get endpoint) = endpoint := by intros; rfl
  identity : ∀ endpoint fact, (field.set endpoint fact).identity = endpoint.identity := by intros; rfl
  held : ∀ endpoint stamp, (field.get endpoint).stamp = some stamp → stamp ∈ endpoint.stamps
  stamps : ∀ endpoint fact stamp, stamp ∈ (field.set endpoint fact).stamps →
    stamp ∈ endpoint.stamps ∨ fact.stamp = some stamp := by
    intro endpoint fact stamp hstamp
    rw [mem_stamps] at *
    dsimp only [routeField, powerField, sleepField, activityField, contactField, freshnessField] at hstamp
    grind
  known : ∀ endpoint stamp, endpoint.AllKnown →
    (field.set endpoint ((field.get endpoint).apply value stamp).1).AllKnown
  advances : ∀ endpoint fact, Advanced (field.get endpoint).stamp fact.stamp →
    endpoint.Advances (field.set endpoint fact)

namespace EndpointLifecycle

theorem routeField_lawful {value : RouteState} (h : value ≠ .unknown) : routeField.Lawful value where
  held _ _ hstamp := mem_stamps.mpr (.inr (.inl hstamp))
  known endpoint stamp hknown := { hknown with route := LifecycleFact.apply_known hknown.route h stamp }
  advances endpoint fact hfact := { Advances.refl endpoint with route := hfact }

theorem powerField_lawful {value : PowerState} (h : value ≠ .unknown) : powerField.Lawful value where
  held _ _ hstamp := mem_stamps.mpr (.inr (.inr (.inl hstamp)))
  known endpoint stamp hknown := { hknown with power := LifecycleFact.apply_known hknown.power h stamp }
  advances endpoint fact hfact := { Advances.refl endpoint with power := hfact }

theorem sleepField_lawful {value : SleepState} (h : value ≠ .unknown) : sleepField.Lawful value where
  held _ _ hstamp := mem_stamps.mpr (.inr (.inr (.inr (.inl hstamp))))
  known endpoint stamp hknown := { hknown with sleep := LifecycleFact.apply_known hknown.sleep h stamp }
  advances endpoint fact hfact := { Advances.refl endpoint with sleep := hfact }

theorem activityField_lawful {value : ActivityState} (h : value ≠ .unknown) : activityField.Lawful value where
  held _ _ hstamp := mem_stamps.mpr (.inr (.inr (.inr (.inr (.inl hstamp)))))
  known endpoint stamp hknown := { hknown with activity := LifecycleFact.apply_known hknown.activity h stamp }
  advances endpoint fact hfact := { Advances.refl endpoint with activity := hfact }

theorem contactField_lawful (value : ContactState) : contactField.Lawful value where
  held _ _ hstamp := mem_stamps.mpr (.inr (.inr (.inr (.inr (.inr (.inl hstamp))))))
  known endpoint stamp hknown := { hknown with }
  advances endpoint fact hfact := { Advances.refl endpoint with contact := hfact }

theorem freshnessField_lawful {value : FreshnessState} (h : value ≠ .unknown) : freshnessField.Lawful value where
  held _ _ hstamp := mem_stamps.mpr (.inr (.inr (.inr (.inr (.inr (.inr hstamp))))))
  known endpoint stamp hknown := { hknown with freshness := LifecycleFact.apply_known hknown.freshness h stamp }
  advances endpoint fact hfact := { Advances.refl endpoint with freshness := hfact }

end EndpointLifecycle

/-- A device as it compares: its endpoints in canonical order. -/
structure DeviceContents where
  identity : ChildIdentity
  registeredAt : ObservationStamp
  latestObservation : ObservationStamp
  pairing : LifecycleFact PairingState
  battery : BatteryLifecycle
  endpoints : List (EndpointId × EndpointLifecycle)

theorem toList_congr {κ β : Type} [Ord κ] [Std.TransOrd κ] [Std.LawfulEqOrd κ]
    {first second : Std.TreeMap κ β} (h : ∀ key : κ, first[key]? = second[key]?) :
    first.toList = second.toList :=
  (Std.TreeMap.Equiv.of_forall_constGet?_eq h).toList_eq

theorem mem_values {κ β : Type} [Ord κ] [Std.TransOrd κ] [Std.LawfulEqOrd κ]
    {table : Std.TreeMap κ β} {value : β} :
    value ∈ table.toList.map (·.2) ↔ ∃ key : κ, table[key]? = some value := by
  rw [List.mem_map]
  constructor
  · intro h
    obtain ⟨entry, hentry, hvalue⟩ := h
    refine ⟨entry.1, ?_⟩
    rw [← hvalue]
    exact Std.TreeMap.mem_toList_iff_getElem?_eq_some.mp hentry
  intro h
  obtain ⟨key, hkey⟩ := h
  exact ⟨(key, value), Std.TreeMap.mem_toList_iff_getElem?_eq_some.mpr hkey, rfl⟩

theorem getElem?_insert_cases {κ β : Type} [Ord κ] [Std.TransOrd κ] [Std.LawfulEqOrd κ]
    {table : Std.TreeMap κ β} {key other : κ} {value found : β}
    (h : (table.insert key value)[other]? = some found) :
    (key = other ∧ value = found) ∨ (key ≠ other ∧ table[other]? = some found) := by
  rw [Std.TreeMap.getElem?_insert] at h
  split at h
  next heq =>
    cases h
    exact .inl ⟨Std.LawfulEqCmp.compare_eq_iff_eq.mp heq, rfl⟩
  next hne => exact .inr ⟨fun heq => hne (Std.LawfulEqCmp.compare_eq_iff_eq.mpr heq), h⟩

theorem size_insert_of_getElem? {κ β : Type} [Ord κ] [Std.TransOrd κ] [Std.LawfulEqOrd κ]
    {table : Std.TreeMap κ β} {key : κ} {old value : β} (h : table[key]? = some old) :
    (table.insert key value).size = table.size := by
  have hmem : key ∈ table := Std.TreeMap.mem_iff_isSome_getElem?.mpr (by rw [h]; rfl)
  rw [Std.TreeMap.size_insert, if_pos (Std.TreeMap.contains_iff_mem.mpr hmem)]

/-- Writing back what is there changes nothing. -/
theorem getElem?_insert_same {κ β : Type} [Ord κ] [Std.TransOrd κ] [Std.LawfulEqOrd κ]
    {table : Std.TreeMap κ β} {key : κ} {value : β} (h : table[key]? = some value) (other : κ) :
    (table.insert key value)[other]? = table[other]? := by
  rw [Std.TreeMap.getElem?_insert]
  split
  next heq =>
    rw [← Std.LawfulEqCmp.compare_eq_iff_eq.mp heq]
    exact h.symm
  · rfl

namespace DeviceLifecycle

def contents (device : DeviceLifecycle) : DeviceContents :=
  ⟨device.identity, device.registeredAt, device.latestObservation, device.pairing, device.battery,
    device.endpoints.toList⟩

def stamps (device : DeviceLifecycle) : List ObservationStamp :=
  device.registeredAt :: (device.pairing.stamp.toList ++ device.battery.value.stamp.toList ++
    device.battery.freshness.stamp.toList ++ device.battery.charge.stamp.toList ++
    device.endpointList.flatMap EndpointLifecycle.stamps)

variable {device device' : DeviceLifecycle} {limits : LifecycleLimits} {generationId : GenerationId}
  {stamp : ObservationStamp} {α : Type}

theorem mem_stamps :
    stamp ∈ device.stamps ↔ stamp = device.registeredAt ∨ device.pairing.stamp = some stamp ∨
      device.battery.value.stamp = some stamp ∨ device.battery.freshness.stamp = some stamp ∨
      device.battery.charge.stamp = some stamp ∨
      ∃ id endpoint, device.endpoints[(id : EndpointId)]? = some endpoint ∧ stamp ∈ endpoint.stamps := by
  have hendpoints : stamp ∈ device.endpointList.flatMap EndpointLifecycle.stamps ↔
      ∃ id endpoint, device.endpoints[(id : EndpointId)]? = some endpoint ∧ stamp ∈ endpoint.stamps := by
    rw [List.mem_flatMap]
    constructor
    · intro h
      obtain ⟨endpoint, hmem, hstamp⟩ := h
      obtain ⟨id, hid⟩ := mem_values.mp hmem
      exact ⟨id, endpoint, hid, hstamp⟩
    intro h
    obtain ⟨id, endpoint, hid, hstamp⟩ := h
    exact ⟨endpoint, mem_values.mpr ⟨id, hid⟩, hstamp⟩
  simp only [stamps, List.mem_cons, List.mem_append, Option.mem_toList, or_assoc, hendpoints]

structure Disciplined (limits : LifecycleLimits) (generationId : GenerationId)
    (device : DeviceLifecycle) : Prop where
  generation : device.latestObservation.generationId = generationId
  dated : ∀ stamp ∈ device.stamps, device.latestObservation.atOrAfter stamp = true
  pairing : device.pairing.Known .unknown
  keyed : ∀ (id : EndpointId) (endpoint : EndpointLifecycle), device.endpoints[id]? = some endpoint →
    endpoint.identity.endpointId = id ∧ endpoint.AllKnown
  bounded : device.endpoints.size ≤ limits.maxEndpointsPerDevice

structure Advances (old new : DeviceLifecycle) : Prop where
  registered : Advanced (some old.registeredAt) (some new.registeredAt)
  pairing : Advanced old.pairing.stamp new.pairing.stamp
  batteryValue : Advanced old.battery.value.stamp new.battery.value.stamp
  batteryFreshness : Advanced old.battery.freshness.stamp new.battery.freshness.stamp
  batteryCharge : Advanced old.battery.charge.stamp new.battery.charge.stamp
  endpoints : ∀ (id : EndpointId) (endpoint : EndpointLifecycle), old.endpoints[id]? = some endpoint →
    ∃ endpoint', new.endpoints[id]? = some endpoint' ∧ endpoint.Advances endpoint'

theorem Advances.refl (device : DeviceLifecycle) : Advances device device :=
  ⟨.refl _, .refl _, .refl _, .refl _, .refl _, fun _ endpoint h => ⟨endpoint, h, .refl endpoint⟩⟩

structure Observed (limits : LifecycleLimits) (generationId : GenerationId)
    (device : DeviceLifecycle) (result : Except LifecycleError ApplyOutcome)
    (device' : DeviceLifecycle) : Prop where
  disciplined : device'.Disciplined limits generationId
  identity : device'.identity = device.identity
  advances : device.Advances device'
  unchanged : result ≠ .ok .applied → device'.contents = device.contents

open Observed

theorem Observed.refl (h : device.Disciplined limits generationId)
    (result : Except LifecycleError ApplyOutcome) : Observed limits generationId device result device :=
  ⟨h, rfl, .refl device, fun _ => rfl⟩

theorem note_latest (h : device.accepts stamp = true) :
    (device.note stamp).latestObservation.atOrAfter device.latestObservation = true ∧
      (device.note stamp).latestObservation.atOrAfter stamp = true := by
  unfold accepts at h
  unfold note
  split
  next hafter => exact ⟨atOrAfter_of_strictlyAfter hafter, atOrAfter_refl stamp⟩
  next hnot =>
    refine ⟨atOrAfter_refl _, ?_⟩
    obtain hsame | hafter := decide_eq_true_iff.mp h
    · unfold samePosition at hsame
      obtain ⟨hgeneration, hsequence, hobserved⟩ := decide_eq_true_iff.mp hsame
      rw [atOrAfter_iff, hgeneration, hsequence, hobserved]
      exact ⟨rfl, Nat.le_refl _, Nat.le_refl _⟩
    · exact absurd hafter hnot

theorem note_of_refused (hheld : device.latestObservation.atOrAfter held = true)
    (hrefused : stamp.strictlyAfter held = false) : device.note stamp = device := by
  unfold note
  rw [if_neg]
  intro hafter
  have hlater : stamp.strictlyAfter held = true := by
    rw [strictlyAfter_iff] at *
    rw [atOrAfter_iff] at hheld
    exact ⟨hafter.1.trans hheld.1, by omega, by omega⟩
  rw [hrefused] at hlater
  cases hlater

section

variable (device : DeviceLifecycle)

theorem note_identity (stamp : ObservationStamp) :
    (device.note stamp).identity = device.identity := by
  unfold note
  split <;> rfl

theorem note_registeredAt (stamp : ObservationStamp) :
    (device.note stamp).registeredAt = device.registeredAt := by
  unfold note
  split <;> rfl

theorem note_pairing (stamp : ObservationStamp) :
    (device.note stamp).pairing = device.pairing := by
  unfold note
  split <;> rfl

theorem note_battery (stamp : ObservationStamp) :
    (device.note stamp).battery = device.battery := by
  unfold note
  split <;> rfl

theorem note_endpoints (stamp : ObservationStamp) :
    (device.note stamp).endpoints = device.endpoints := by
  unfold note
  split <;> rfl

theorem note_advances (stamp : ObservationStamp) :
    device.Advances (device.note stamp) where
  registered := by rw [note_registeredAt]; exact .refl _
  pairing := by rw [note_pairing]; exact .refl _
  batteryValue := by rw [note_battery]; exact .refl _
  batteryFreshness := by rw [note_battery]; exact .refl _
  batteryCharge := by rw [note_battery]; exact .refl _
  endpoints := by rw [note_endpoints]; exact (Advances.refl device).endpoints

end

section

variable (h : device.Disciplined limits generationId)
include h

theorem Disciplined.update (haccepts : device.accepts stamp = true)
    (hlatest : device'.latestObservation = (device.note stamp).latestObservation)
    (hstamps : ∀ held ∈ device'.stamps, held ∈ device.stamps ∨ held = stamp)
    (hpairing : device'.pairing.Known .unknown)
    (hkeyed : ∀ (id : EndpointId) (endpoint : EndpointLifecycle),
      device'.endpoints[id]? = some endpoint → endpoint.identity.endpointId = id ∧ endpoint.AllKnown)
    (hbounded : device'.endpoints.size ≤ limits.maxEndpointsPerDevice) :
    device'.Disciplined limits generationId := by
  obtain ⟨hold, hnew⟩ := note_latest haccepts
  refine ⟨?_, ?_, hpairing, hkeyed, hbounded⟩
  · rw [hlatest, (atOrAfter_iff.mp hold).1]
    exact h.generation
  intro held hheld
  rw [hlatest]
  obtain hmem | hsame := hstamps held hheld
  · exact atOrAfter_trans hold (h.dated held hmem)
  rw [hsame]
  exact hnew

theorem Disciplined.note_of_fact_refused {fact : LifecycleFact α}
    (hheld : ∀ held, fact.stamp = some held → held ∈ device.stamps) (hrefused : fact.accepts stamp = false)
    : device.note stamp = device := by
  unfold LifecycleFact.accepts at hrefused
  split at hrefused
  · cases hrefused
  next held hstamp => exact note_of_refused (h.dated held (hheld held hstamp)) hrefused

theorem observePairing_observed {value : PairingState}
    (hvalue : value ≠ .unknown) (stamp : ObservationStamp) :
    Observed limits generationId device (.ok (device.observePairing value stamp).1)
      (device.observePairing value stamp).2 := by
  unfold observePairing
  by_cases haccepts : device.accepts stamp = true
  · rw [if_neg (by rw [haccepts]; decide)]
    dsimp only
    refine ⟨?_, note_identity device stamp, ?_, ?_⟩
    · refine h.update haccepts rfl ?_ (LifecycleFact.apply_known h.pairing hvalue stamp) ?_ ?_
      · intro held hheld
        rw [mem_stamps] at *
        simp only [note_registeredAt, note_battery, note_endpoints] at hheld
        obtain hheld | hheld | hheld := hheld
        · exact .inl (.inl hheld)
        · obtain hold | hnew := LifecycleFact.apply_stamp hheld
          · exact .inl (.inr (.inl hold))
          · exact .inr hnew
        · exact .inl (.inr (.inr hheld))
      · simp only [note_endpoints]
        exact h.keyed
      simp only [note_endpoints]
      exact h.bounded
    · exact { note_advances device stamp with pairing := LifecycleFact.apply_advanced _ _ _ }
    intro houtcome
    cases hfact : device.pairing.accepts stamp with
    | true =>
      rw [LifecycleFact.apply_accepted hfact] at houtcome
      exact absurd rfl houtcome
    | false =>
      have hheld : ∀ held, device.pairing.stamp = some held → held ∈ device.stamps :=
        fun held hstamp => mem_stamps.mpr (.inr (.inl hstamp))
      rw [LifecycleFact.apply_refused hfact, h.note_of_fact_refused hheld hfact]
  · rw [if_pos (by simpa using haccepts)]
    exact Observed.refl h _

/-- What a battery observation does, once the new battery's stamps are known. -/
theorem battery_observed (haccepts : device.accepts stamp = true) {battery : BatteryLifecycle}
    (hvalue : Advanced device.battery.value.stamp battery.value.stamp)
    (hfreshness : Advanced device.battery.freshness.stamp battery.freshness.stamp)
    (hcharge : Advanced device.battery.charge.stamp battery.charge.stamp)
    (hheld : ∀ held, battery.value.stamp = some held ∨ battery.freshness.stamp = some held ∨
      battery.charge.stamp = some held → device.battery.value.stamp = some held ∨
      device.battery.freshness.stamp = some held ∨ device.battery.charge.stamp = some held ∨
      held = stamp) :
    Observed limits generationId device (.ok .applied) { device.note stamp with battery := battery } := by
  refine ⟨?_, note_identity device stamp, ?_, fun houtcome => absurd rfl houtcome⟩
  · refine h.update haccepts rfl ?_ ?_ ?_ ?_
    · intro held hmem
      rw [mem_stamps] at *
      simp only [note_registeredAt, note_pairing, note_endpoints] at hmem
      have hnew := hheld held
      grind
    · simp only [note_pairing]
      exact h.pairing
    · simp only [note_endpoints]
      exact h.keyed
    simp only [note_endpoints]
    exact h.bounded
  exact { note_advances device stamp with
    batteryValue := hvalue, batteryFreshness := hfreshness, batteryCharge := hcharge }

theorem observeBatteryValue_observed (value : BatteryValue) (stamp : ObservationStamp) :
    Observed limits generationId device (.ok (device.observeBatteryValue value stamp).1)
      (device.observeBatteryValue value stamp).2 := by
  unfold observeBatteryValue
  split
  · exact Observed.refl h _
  next haccepts =>
    split
    · exact Observed.refl h _
    next hfacts =>
      unfold BatteryLifecycle.applyValue
      rw [if_neg hfacts]
      dsimp only
      have hcharge : (if value.isReported = true then device.battery.charge else
          { device.battery.charge with value := none }).stamp = device.battery.charge.stamp := by
        split <;> rfl
      refine battery_observed h (by simpa using haccepts) (LifecycleFact.apply_advanced _ _ _)
        (LifecycleFact.apply_advanced _ _ _) (.inl hcharge) ?_
      intro held hheld
      dsimp only at hheld
      rw [hcharge] at hheld
      obtain hheld | hheld | hheld := hheld
      · obtain hold | hnew := LifecycleFact.apply_stamp hheld
        · exact .inl hold
        · exact .inr (.inr (.inr hnew))
      · obtain hold | hnew := LifecycleFact.apply_stamp hheld
        · exact .inr (.inl hold)
        · exact .inr (.inr (.inr hnew))
      · exact .inr (.inr (.inl hheld))

theorem observeBatteryCharge_observed (charge : Option BatteryCharge) (stamp : ObservationStamp) :
    Observed limits generationId device (.ok (device.observeBatteryCharge charge stamp).1)
      (device.observeBatteryCharge charge stamp).2 := by
  unfold observeBatteryCharge
  split
  · exact Observed.refl h _
  next haccepts =>
    split
    · exact Observed.refl h _
    next hreported =>
      split
      · exact Observed.refl h _
      next hfact =>
        unfold BatteryLifecycle.applyCharge
        rw [if_pos (by simpa using hreported), LifecycleFact.apply_accepted (by simpa using hfact)]
        refine battery_observed h (by simpa using haccepts) (.refl _) (.refl _) ?_ ?_
        · have hadvanced := LifecycleFact.apply_advanced device.battery.charge charge stamp
          rw [LifecycleFact.apply_accepted (by simpa using hfact)] at hadvanced
          exact hadvanced
        intro held hheld
        obtain hheld | hheld | hheld := hheld
        · exact .inl hheld
        · exact .inr (.inl hheld)
        cases hheld
        exact .inr (.inr (.inr rfl))

theorem markBatteryStale_observed (stamp : ObservationStamp) :
    Observed limits generationId device (.ok (device.markBatteryStale stamp).1)
      (device.markBatteryStale stamp).2 := by
  unfold markBatteryStale
  split
  · exact Observed.refl h _
  next haccepts =>
    split
    · exact Observed.refl h _
    next hobserved =>
      split
      · exact Observed.refl h _
      next hfact =>
        unfold BatteryLifecycle.markStale
        rw [if_neg (not_or.mpr ⟨hobserved, hfact⟩), LifecycleFact.apply_accepted (by simpa using hfact)]
        refine battery_observed h (by simpa using haccepts) (.refl _) ?_ (.refl _) ?_
        · have hadvanced := LifecycleFact.apply_advanced device.battery.freshness .stale stamp
          rw [LifecycleFact.apply_accepted (by simpa using hfact)] at hadvanced
          exact hadvanced
        intro held hheld
        obtain hheld | hheld | hheld := hheld
        · exact .inl hheld
        · cases hheld
          exact .inr (.inr (.inr rfl))
        · exact .inr (.inr (.inl hheld))

theorem endpoint_observed (haccepts : device.accepts stamp = true)
    {id : EndpointId} (hid : endpoint.identity.endpointId = id) (hknown : endpoint.AllKnown)
    (hstamps : ∀ held ∈ endpoint.stamps, held ∈ device.stamps ∨ held = stamp)
    (hadvances : ∀ old, device.endpoints[id]? = some old → old.Advances endpoint)
    (hbounded : (device.endpoints.insert id endpoint).size ≤ limits.maxEndpointsPerDevice) :
    Observed limits generationId device (.ok .applied)
      { device.note stamp with endpoints := device.endpoints.insert id endpoint } := by
  refine ⟨?_, note_identity device stamp, ?_, fun houtcome => absurd rfl houtcome⟩
  · refine h.update haccepts rfl ?_ ?_ ?_ hbounded
    · intro held hmem
      have hmem' := mem_stamps.mp hmem
      simp only [note_registeredAt, note_pairing, note_battery] at hmem'
      obtain hheld | hheld | hheld | hheld | hheld | ⟨other, found, hfound, hheld⟩ := hmem'
      · exact .inl (mem_stamps.mpr (.inl hheld))
      · exact .inl (mem_stamps.mpr (.inr (.inl hheld)))
      · exact .inl (mem_stamps.mpr (.inr (.inr (.inl hheld))))
      · exact .inl (mem_stamps.mpr (.inr (.inr (.inr (.inl hheld)))))
      · exact .inl (mem_stamps.mpr (.inr (.inr (.inr (.inr (.inl hheld))))))
      obtain ⟨-, hsame⟩ | ⟨-, hother⟩ := getElem?_insert_cases hfound
      · rw [← hsame] at hheld
        exact hstamps held hheld
      · exact .inl (mem_stamps.mpr (.inr (.inr (.inr (.inr (.inr ⟨other, found, hother, hheld⟩))))))
    · simp only [note_pairing]
      exact h.pairing
    intro other found hfound
    obtain ⟨hkey, hsame⟩ | ⟨-, hother⟩ := getElem?_insert_cases hfound
    · rw [← hsame, ← hkey]
      exact ⟨hid, hknown⟩
    · exact h.keyed other found hother
  · refine { note_advances device stamp with endpoints := ?_ }
    intro other old hold
    by_cases hkey : id = other
    · rw [← hkey] at hold
      refine ⟨endpoint, ?_, hadvances old hold⟩
      rw [← hkey]
      exact Std.TreeMap.getElem?_insert_self
    refine ⟨old, ?_, .refl old⟩
    rw [Std.TreeMap.getElem?_insert, if_neg (fun heq => hkey (Std.LawfulEqCmp.compare_eq_iff_eq.mp heq))]
    exact hold

end

variable {result : Except LifecycleError ApplyOutcome} {endpointId : EndpointId}

theorem registerEndpoint_observed (h : device.Disciplined limits generationId) {deviceId : LogicalDeviceId}
    {identity : EndpointIdentity}
    (hrun : device.registerEndpoint deviceId limits identity stamp = (result, device')) :
    Observed limits generationId device result device' := by
  unfold registerEndpoint at hrun
  split at hrun
  · cases hrun
    exact Observed.refl h _
  next haccepts =>
    split at hrun
    next endpoint hfound =>
      split at hrun
      · cases hrun
        exact Observed.refl h _
      next hidentity =>
        split at hrun
        · cases hrun
          exact Observed.refl h _
        next hafter =>
          cases hrun
          obtain ⟨hid, hknown⟩ := h.keyed _ _ hfound
          refine endpoint_observed h (by simpa using haccepts) hid { hknown with } ?_ ?_ ?_
          · intro held hheld
            obtain hheld | hheld := EndpointLifecycle.mem_stamps.mp hheld
            · exact .inr hheld
            have hold : held ∈ endpoint.stamps := EndpointLifecycle.mem_stamps.mpr (.inr hheld)
            exact .inl (mem_stamps.mpr (.inr (.inr (.inr (.inr (.inr ⟨_, endpoint, hfound, hold⟩))))))
          · intro old hold
            rw [hfound] at hold
            cases hold
            refine { EndpointLifecycle.Advances.refl endpoint with registered := .inr ⟨stamp, rfl, ?_⟩ }
            intro earlier hearlier
            cases hearlier
            simpa using hafter
          rw [size_insert_of_getElem? hfound]
          exact h.bounded
    next hnone =>
      split at hrun
      · cases hrun
        exact Observed.refl h _
      next hroom =>
        cases hrun
        refine endpoint_observed h (by simpa using haccepts) rfl ?_ ?_ ?_ ?_
        · exact ⟨⟨fun _ => rfl, fun _ => rfl⟩, ⟨fun _ => rfl, fun _ => rfl⟩, ⟨fun _ => rfl, fun _ => rfl⟩,
            ⟨fun _ => rfl, fun _ => rfl⟩, ⟨fun _ => rfl, fun _ => rfl⟩⟩
        · intro held hheld
          rw [EndpointLifecycle.mem_stamps] at hheld
          simp only [EndpointLifecycle.new, LifecycleFact.unknown, reduceCtorEq, or_false] at hheld
          exact .inr hheld
        · intro old hold
          rw [hnone] at hold
          cases hold
        have hsize := Std.TreeMap.size_insert_le (t := device.endpoints) (k := identity.endpointId)
          (v := EndpointLifecycle.new identity stamp device.identity.deviceKind)
        omega

theorem applyEndpointFact_observed (h : device.Disciplined limits generationId) {value : α}
    {field : FactField EndpointLifecycle α} (hfield : field.Lawful value)
    (hrun : device.applyEndpointFact endpointId value stamp field = (result, device')) :
    Observed limits generationId device result device' := by
  unfold applyEndpointFact at hrun
  split at hrun
  · cases hrun
    exact Observed.refl h _
  next haccepts =>
    split at hrun
    · cases hrun
      exact Observed.refl h _
    next endpoint hfound =>
      obtain ⟨hid, hknown⟩ := h.keyed _ _ hfound
      have hold : ∀ held ∈ endpoint.stamps, held ∈ device.stamps := fun held hheld =>
        mem_stamps.mpr (.inr (.inr (.inr (.inr (.inr ⟨_, endpoint, hfound, hheld⟩)))))
      cases hfact : (field.get endpoint).accepts stamp with
      | true =>
        have happly : (field.get endpoint).apply value stamp = (.observed value stamp, true) :=
          LifecycleFact.apply_accepted hfact
        have hadvanced := LifecycleFact.apply_advanced (field.get endpoint) value stamp
        have hnowKnown := hfield.known endpoint stamp hknown
        rw [happly] at hrun hadvanced hnowKnown
        cases hrun
        refine endpoint_observed h (by simpa using haccepts) ?_ hnowKnown ?_ ?_ ?_
        · rw [hfield.identity]
          exact hid
        · intro held hheld
          obtain hheld | hheld := hfield.stamps _ _ _ hheld
          · exact .inl (hold held hheld)
          cases hheld
          exact .inr rfl
        · intro old hfoundOld
          rw [hfound] at hfoundOld
          cases hfoundOld
          exact hfield.advances endpoint _ hadvanced
        rw [size_insert_of_getElem? hfound]
        exact h.bounded
      | false =>
        have hnote : device.note stamp = device := h.note_of_fact_refused
          (fun held hstamp => hold held (hfield.held endpoint held hstamp)) hfact
        rw [LifecycleFact.apply_refused hfact] at hrun
        dsimp only at hrun
        rw [hfield.restore, hnote] at hrun
        cases hrun
        have hsame := getElem?_insert_same hfound
        have hlist : (device.endpoints.insert endpointId endpoint).toList = device.endpoints.toList :=
          toList_congr hsame
        have hcontents : contents { device with endpoints := device.endpoints.insert endpointId endpoint } =
            device.contents := by
          unfold contents
          dsimp only
          rw [hlist]
        have hstamps : stamps { device with endpoints := device.endpoints.insert endpointId endpoint } =
            device.stamps := by
          unfold stamps endpointList
          dsimp only
          rw [hlist]
        refine ⟨⟨h.generation, ?_, h.pairing, ?_, ?_⟩, rfl, ?_, fun _ => hcontents⟩
        · rw [hstamps]
          exact h.dated
        · intro id found hid
          rw [hsame] at hid
          exact h.keyed id found hid
        · rw [size_insert_of_getElem? hfound]
          exact h.bounded
        refine { Advances.refl device with endpoints := ?_ }
        intro id old hid
        refine ⟨old, ?_, .refl old⟩
        rw [hsame]
        exact hid

theorem applyContact_observed (h : device.Disciplined limits generationId) {value : ContactState}
    (hrun : device.applyContact endpointId value stamp = (result, device')) :
    Observed limits generationId device result device' := by
  unfold applyContact at hrun
  split at hrun
  · cases hrun
    exact Observed.refl h _
  · exact applyEndpointFact_observed h (EndpointLifecycle.contactField_lawful value) hrun

end DeviceLifecycle

end HyperfluxNext
