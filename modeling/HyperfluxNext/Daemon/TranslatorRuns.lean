import HyperfluxNext.Daemon.TranslatorFacts

namespace HyperfluxNext.PassiveObservationTranslator

open List

variable {translator : PassiveObservationTranslator} {catalog : PassiveCatalog} {slot slot' : Nat}
  {kind kind' : LifecycleObservationKind}

/-- What the facts of a stream say, each with the slot of its raw observation. -/
def facts (translator : PassiveObservationTranslator) :
    List HfxUapiObservation → List (Nat × LifecycleObservationKind)
  | [] => []
  | raw :: raws =>
    ((translator.translate raw).1.toOption.elim [] (·.observations)).map (raw.endpointSlot, ·.kind) ++
      (translator.translate raw).2.facts raws

/-- The fact is about a profiled child of the catalog, on the lane that its profile says. -/
def OnProfiledLane (catalog : PassiveCatalog) (slot : Nat) (kind : LifecycleObservationKind) : Prop :=
  ∃ productId passive, kind.deviceId.map (·.asStr) = some (catalog.deviceName productId) ∧
    (catalog.child productId).bind (·.passive) = some passive ∧ passiveLane slot = .ok passive.endpointLane

theorem OnProfiledLane.unique (h : OnProfiledLane catalog slot kind) (h' : OnProfiledLane catalog slot' kind')
    (hdevice : kind.deviceId = kind'.deviceId) : slot = slot' := by
  obtain ⟨productId, passive, hnamed, hprofile, hlane⟩ := h
  obtain ⟨productId', passive', hnamed', hprofile', hlane'⟩ := h'
  rw [hdevice, hnamed'] at hnamed
  have hproduct := pairedDeviceName_injective (Option.some.inj hnamed)
  rw [hproduct, hprofile] at hprofile'
  rw [← Option.some.inj hprofile'] at hlane'
  exact passiveLane_injective hlane hlane'

theorem Bound.onProfiledLane (h : translator.Bound) {binding : LaneBinding}
    (hstored : translator.lanes[slot]? = some binding) (hqualified : binding.passive ≠ none)
    (hnames : kind.deviceId = some binding.deviceId) : OnProfiledLane translator.catalog slot kind := by
  obtain ⟨passive, hpassive⟩ := Option.ne_none_iff_exists'.mp hqualified
  obtain ⟨lane, hlane, hmatches⟩ := h.lane slot binding hstored
  rw [← hmatches passive hpassive] at hlane
  rw [h.profiled slot binding hstored] at hpassive
  refine ⟨binding.productId, passive, ?_, hpassive, hlane⟩
  rw [hnames, ← h.named slot binding hstored]
  rfl

theorem Bound.translate (h : translator.Bound) (raw : HfxUapiObservation) :
    (translator.translate raw).2.Bound ∧ (translator.translate raw).2.catalog = translator.catalog ∧
      ∀ fact ∈ (translator.translate raw).1.toOption.elim [] (·.observations),
        fact.kind.updatesBattery = true → OnProfiledLane translator.catalog raw.endpointSlot fact.kind := by
  rcases hresult : translator.translate raw with ⟨error | translation, translator'⟩
  · rw [translate_error hresult]
    exact ⟨h, rfl, fun fact hfact => absurd hfact not_mem_nil⟩
  obtain ⟨stamp, -, htranslated⟩ := translate_translated hresult
  have hcatalog : translator'.catalog = translator.catalog := by
    cases htranslated with
    | quiet _ hkept | lane _ _ _ _ _ hkept => exact hkept.catalog
    | registered _ _ hafter => exact congrArg (·.catalog) hafter
  refine ⟨h.translated htranslated, hcatalog, ?_⟩
  intro fact (hfact : fact ∈ translation.observations) hbattery
  cases htranslated with
  | quiet hquiet | registered _ hquiet =>
    rw [(hquiet.2 fact hfact).2.2.1] at hbattery
    cases hbattery
  | lane binding level facts reading hfacts =>
    rw [hfacts.observations, mem_append, mem_append] at hfact
    obtain (hlevel | hendpoint) | hcharge := hfact
    · obtain ⟨percentage, hsome, rfl⟩ := Option.map_eq_some_iff.mp (Option.mem_toList.mp hlevel)
      refine h.onProfiledLane hfacts.stored (fun hnone => ?_) rfl
      rw [(hfacts.qualified hnone).1] at hsome
      cases hsome
    · have hkind := (hfacts.endpoint fact hendpoint).2.2
      cases hsame : fact.kind <;> rw [hsame] at hkind hbattery <;> first | cases hkind | cases hbattery
    · obtain ⟨charge, hsome, rfl⟩ := Option.map_eq_some_iff.mp (Option.mem_toList.mp hcharge)
      refine h.onProfiledLane hfacts.stored (fun hnone => ?_) rfl
      rw [(hfacts.qualified hnone).2.1] at hsome
      cases hsome

theorem Bound.facts (h : translator.Bound) (raws : List HfxUapiObservation)
    (hfact : (slot, kind) ∈ translator.facts raws) (hbattery : kind.updatesBattery = true) :
    OnProfiledLane translator.catalog slot kind := by
  induction raws generalizing translator with
  | nil => cases hfact
  | cons raw raws ih =>
    obtain ⟨hbound, hcatalog, hnow⟩ := h.translate raw
    obtain hread | hlater := mem_append.mp hfact
    · obtain ⟨fact, hmem, hsame⟩ := mem_map.mp hread
      cases hsame
      exact hnow fact hmem hbattery
    · rw [← hcatalog]
      exact ih hbound hlater

/-- Whatever the stream, the levels and charges of one device come on one lane. -/
theorem battery_facts_one_lane (receiverId : ReceiverId) (generationId : GenerationId)
    (catalog : PassiveCatalog) (raws : List HfxUapiObservation) :
    (((new receiverId generationId catalog).facts raws).filter (·.2.updatesBattery)).Pairwise fun a b =>
      a.2.deviceId = b.2.deviceId → a.1 = b.1 := by
  have h := new_bound receiverId generationId catalog
  refine pairwise_iff_forall_sublist.mpr fun {a b} hsub => ?_
  obtain ⟨ha, hbattery⟩ := mem_filter.mp (hsub.subset (mem_cons_self ..))
  obtain ⟨hb, hbattery'⟩ := mem_filter.mp (hsub.subset (mem_cons_of_mem a (mem_singleton_self b)))
  exact (h.facts raws ha hbattery).unique (h.facts raws hb hbattery')

end HyperfluxNext.PassiveObservationTranslator
