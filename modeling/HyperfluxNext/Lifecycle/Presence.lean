import HyperfluxNext.Lifecycle.Facts

namespace HyperfluxNext

namespace ObservationStamp

open List

variable {stamp other : ObservationStamp}

theorem before_iff : stamp.before other = true ↔ stamp.sequence.get < other.sequence.get ∨
      (stamp.sequence.get = other.sequence.get ∧ stamp.observedAtMs.get < other.observedAtMs.get) := by
  unfold before
  rw [decide_eq_true_iff]
  constructor
  · intro h
    obtain h | ⟨h, h'⟩ := h
    · exact .inl h
    · exact .inr ⟨congrArg Bounded.get h, h'⟩
  intro h
  obtain h | ⟨h, h'⟩ := h
  · exact .inl h
  · exact .inr ⟨Bounded.ext_get h, h'⟩

theorem samePosition_iff (h : stamp.generationId = other.generationId) :
    stamp.samePosition other = true ↔ stamp.sequence.get = other.sequence.get ∧
      stamp.observedAtMs.get = other.observedAtMs.get := by
  unfold samePosition
  rw [decide_eq_true_iff]
  constructor
  · intro hsame
    exact ⟨congrArg Bounded.get hsame.2.1, congrArg Bounded.get hsame.2.2⟩
  intro hsame
  exact ⟨h, Bounded.ext_get hsame.1, Bounded.ext_get hsame.2⟩

theorem not_before_iff : stamp.before other = false ↔ ¬ (stamp.sequence.get < other.sequence.get ∨
      (stamp.sequence.get = other.sequence.get ∧ stamp.observedAtMs.get < other.observedAtMs.get)) := by
  rw [← before_iff, Bool.not_eq_true]

end ObservationStamp

open ObservationStamp

theorem foldl_latest (stamps : List ObservationStamp) (first : ObservationStamp) :
    stamps.foldl (fun latest stamp => if stamp.before latest then latest else stamp) first
        ∈ first :: stamps ∧
      ∀ stamp ∈ first :: stamps,
        (stamps.foldl (fun latest stamp => if stamp.before latest then latest else stamp) first).before
          stamp = false := by
  induction stamps generalizing first with
  | nil =>
    refine ⟨List.mem_cons_self, ?_⟩
    intro stamp hstamp
    obtain rfl := List.mem_singleton.mp hstamp
    rw [List.foldl_nil, not_before_iff]
    omega
  | cons next stamps ih =>
    rw [List.foldl_cons]
    by_cases hbefore : next.before first = true
    · rw [if_pos hbefore]
      obtain ⟨hmem, hmax⟩ := ih first
      constructor
      · obtain hfirst | hlater := List.mem_cons.mp hmem
        · rw [hfirst]
          exact List.mem_cons_self
        · exact List.mem_cons_of_mem _ (List.mem_cons_of_mem _ hlater)
      intro stamp hstamp
      obtain hfirst | hrest := List.mem_cons.mp hstamp
      · exact hmax stamp (hfirst ▸ List.mem_cons_self)
      obtain hnext | hlater := List.mem_cons.mp hrest
      · have hfirst := hmax first List.mem_cons_self
        rw [hnext]
        rw [not_before_iff] at hfirst ⊢
        rw [before_iff] at hbefore
        omega
      · exact hmax stamp (List.mem_cons_of_mem _ hlater)
    · rw [if_neg hbefore]
      obtain ⟨hmem, hmax⟩ := ih next
      refine ⟨List.mem_cons_of_mem _ hmem, ?_⟩
      intro stamp hstamp
      obtain hfirst | hrest := List.mem_cons.mp hstamp
      · have hnext := hmax next List.mem_cons_self
        rw [hfirst]
        rw [not_before_iff] at hnext ⊢
        rw [Bool.not_eq_true, not_before_iff] at hbefore
        omega
      · exact hmax stamp hrest

variable {latest : ObservationStamp} {candidates : List (PresenceState × ObservationStamp)}

theorem maxByPosition_spec {stamps : List ObservationStamp} (h : maxByPosition stamps = some latest) :
    latest ∈ stamps ∧ ∀ stamp ∈ stamps, latest.before stamp = false := by
  cases stamps with
  | nil => cases h
  | cons first stamps =>
    cases h
    exact foldl_latest stamps first

def Latest (evidence : PresenceState → ObservationStamp → Prop) (state : PresenceState)
    (stamp : ObservationStamp) : Prop :=
  evidence state stamp ∧ ∀ other otherStamp, evidence other otherStamp → stamp.before otherStamp = false

/-- What evidence says: nothing of its own where there is none, the unknown where its latest part
contradicts itself, and otherwise what that part agrees on. -/
inductive Reads (evidence : PresenceState → ObservationStamp → Prop) (silent : PresenceState) :
    PresenceState → Prop
  | silent (h : ∀ state stamp, ¬ evidence state stamp) : Reads evidence silent silent
  | agreed {state : PresenceState} {stamp : ObservationStamp} (h : Latest evidence state stamp)
      (hagree : ∀ other otherStamp, Latest evidence other otherStamp → other = state) :
      Reads evidence silent state
  | contradicted {first second : PresenceState} {stamp otherStamp : ObservationStamp}
      (h : Latest evidence first stamp) (hother : Latest evidence second otherStamp)
      (hne : first ≠ second) : Reads evidence silent .unknown

theorem Reads.unique {evidence : PresenceState → ObservationStamp → Prop} {silent first second : PresenceState}
    (h : Reads evidence silent first) (h' : Reads evidence silent second) : first = second := by
  cases h with
  | silent hnone =>
    cases h' with
    | silent => rfl
    | agreed hlatest | contradicted hlatest => exact absurd hlatest.1 (hnone _ _)
  | agreed hlatest hagree =>
    cases h' with
    | silent hnone => exact absurd hlatest.1 (hnone _ _)
    | agreed hother => exact (hagree _ _ hother).symm
    | contradicted hone htwo hne => exact absurd ((hagree _ _ hone).trans (hagree _ _ htwo).symm) hne
  | contradicted hone htwo hne =>
    cases h' with
    | silent hnone => exact absurd hone.1 (hnone _ _)
    | agreed _ hagree => exact absurd ((hagree _ _ hone).trans (hagree _ _ htwo).symm) hne
    | contradicted => rfl

theorem selectAgreed_spec (selected : Option PresenceState) (said : List PresenceState)
    (hsaid : said = selected.toList ++ (candidates.filter (·.2.samePosition latest)).map (·.1)) :
    (said = [] ∧ selectAgreed latest selected candidates = none) ∨
      (∃ state ∈ said, (∀ other ∈ said, other = state) ∧ selectAgreed latest selected candidates = some state) ∨
      ∃ first ∈ said, ∃ second ∈ said, first ≠ second ∧
        selectAgreed latest selected candidates = some .unknown := by
  induction candidates generalizing selected said with
  | nil =>
    unfold selectAgreed
    cases selected with
    | none | some state => simp [hsaid]
  | cons candidate candidates ih =>
    obtain ⟨state, stamp⟩ := candidate
    unfold selectAgreed
    by_cases hsame : stamp.samePosition latest = true
    · rw [if_pos hsame]
      have hfilter : ((state, stamp) :: candidates).filter (·.2.samePosition latest) =
          (state, stamp) :: candidates.filter (·.2.samePosition latest) := List.filter_cons_of_pos hsame
      rw [hfilter, List.map_cons] at hsaid
      cases selected with
      | none => exact ih (some state) said hsaid
      | some current =>
        dsimp only
        by_cases hcurrent : current = state
        · subst hcurrent
          rw [if_pos rfl]
          have hmem : ∀ other, other ∈ said ↔ other ∈ (some current).toList ++
              (candidates.filter (·.2.samePosition latest)).map (·.1) := by
            intro other
            simp [hsaid]
          obtain hnil | hagreed | hdiffer := ih (some current) _ rfl
          · simp at hnil
          · obtain ⟨state, hstate, hall, hresult⟩ := hagreed
            exact .inr (.inl ⟨state, (hmem state).mpr hstate, fun other h => hall other ((hmem other).mp h),
              hresult⟩)
          obtain ⟨first, hfirst, second, hsecond, hne, hresult⟩ := hdiffer
          exact .inr (.inr ⟨first, (hmem first).mpr hfirst, second, (hmem second).mpr hsecond, hne, hresult⟩)
        rw [if_neg hcurrent]
        refine .inr (.inr ⟨current, ?_, state, ?_, hcurrent, rfl⟩)
        · simp [hsaid]
        · simp [hsaid]
    · rw [if_neg hsame]
      have hfilter : ((state, stamp) :: candidates).filter (·.2.samePosition latest) =
          candidates.filter (·.2.samePosition latest) := List.filter_cons_of_neg hsame
      rw [hfilter] at hsaid
      exact ih selected said hsaid

theorem selectLatestState_reads {generationId : GenerationId}
    {evidence : PresenceState → ObservationStamp → Prop} (silent : PresenceState)
    (hevidence : ∀ state stamp, evidence state stamp ↔ (state, stamp) ∈ candidates)
    (hgeneration : ∀ state stamp, evidence state stamp → stamp.generationId = generationId) :
    Reads evidence silent ((selectLatestState candidates).getD silent) := by
  unfold selectLatestState
  cases hmax : maxByPosition (candidates.map (·.2)) with
  | none =>
    have hnil : candidates = [] := by
      cases candidates with
      | nil => rfl
      | cons candidate candidates => cases hmax
    refine .silent fun state stamp h => ?_
    rw [hevidence, hnil] at h
    cases h
  | some latest =>
    obtain ⟨hlatest, hbound⟩ := maxByPosition_spec hmax
    obtain ⟨newest, hnewest, hstamp⟩ := List.mem_map.mp hlatest
    have hown : latest.generationId = generationId := by
      rw [← hstamp]
      exact hgeneration _ _ ((hevidence _ _).mpr hnewest)
    have hlast : ∀ state stamp, Latest evidence state stamp ↔
        (state, stamp) ∈ candidates ∧ stamp.samePosition latest = true := by
      intro state stamp
      constructor
      · intro h
        have hmem := (hevidence _ _).mp h.1
        have hle := hbound stamp (List.mem_map_of_mem hmem)
        have hge := h.2 newest.1 newest.2 ((hevidence _ _).mpr hnewest)
        rw [hstamp] at hge
        rw [not_before_iff] at hle hge
        refine ⟨hmem, (samePosition_iff ((hgeneration _ _ h.1).trans hown.symm)).mpr ?_⟩
        omega
      intro h
      obtain ⟨hmem, hposition⟩ := h
      have hheld := (hevidence _ _).mpr hmem
      refine ⟨hheld, fun other otherStamp hother => ?_⟩
      have hle := hbound otherStamp (List.mem_map_of_mem ((hevidence _ _).mp hother))
      rw [samePosition_iff ((hgeneration _ _ hheld).trans hown.symm)] at hposition
      rw [not_before_iff] at hle ⊢
      omega
    have hsaid : ∀ state, state ∈ (candidates.filter (·.2.samePosition latest)).map (·.1) ↔
        ∃ stamp, Latest evidence state stamp := by
      intro state
      simp only [hlast, List.mem_map, List.mem_filter, Prod.exists, exists_and_right, exists_eq_right]
    obtain ⟨hnil, -⟩ | hagreed | hdiffer := @selectAgreed_spec latest candidates none _ rfl
    · have hself : ∃ stamp, Latest evidence newest.1 stamp := by
        refine ⟨newest.2, (hlast _ _).mpr ⟨hnewest, ?_⟩⟩
        rw [hstamp]
        exact (samePosition_iff rfl).mpr ⟨rfl, rfl⟩
      have hmem := (hsaid _).mpr hself
      rw [Option.toList_none, List.nil_append] at hnil
      rw [hnil] at hmem
      cases hmem
    · obtain ⟨state, hstate, hall, hresult⟩ := hagreed
      obtain ⟨stamp, hstamp⟩ := (hsaid state).mp hstate
      dsimp only
      rw [hresult]
      exact .agreed hstamp fun other otherStamp hother => hall other ((hsaid other).mpr ⟨otherStamp, hother⟩)
    obtain ⟨first, hfirst, second, hsecond, hne, hresult⟩ := hdiffer
    obtain ⟨stamp, hstamp⟩ := (hsaid first).mp hfirst
    obtain ⟨otherStamp, hother⟩ := (hsaid second).mp hsecond
    dsimp only
    rw [hresult]
    exact .contradicted hstamp hother hne

namespace EndpointLifecycle

inductive AvailabilityEvidence (endpoint : EndpointLifecycle) (pairing : LifecycleFact PairingState) :
    PresenceState → ObservationStamp → Prop
  | route {stamp : ObservationStamp} (h : endpoint.route.stamp = some stamp) :
      AvailabilityEvidence endpoint pairing (routePresence endpoint.route.value) stamp
  | power {stamp : ObservationStamp} (hvalue : endpoint.power.value = .off)
      (h : endpoint.power.stamp = some stamp) : AvailabilityEvidence endpoint pairing .unavailable stamp
  | activity {stamp : ObservationStamp} (hvalue : endpoint.activity.value = .active)
      (h : endpoint.activity.stamp = some stamp) : AvailabilityEvidence endpoint pairing .available stamp
  | freshness {stamp : ObservationStamp} (hvalue : endpoint.freshness.value = .stale)
      (h : endpoint.freshness.stamp = some stamp) : AvailabilityEvidence endpoint pairing .unknown stamp
  | unpaired {stamp : ObservationStamp} (hroute : endpoint.identity.routeKind = .hyperfluxWireless)
      (hvalue : pairing.value = .unpaired) (h : pairing.stamp = some stamp) :
      AvailabilityEvidence endpoint pairing .unavailable stamp

inductive ActivityEvidence (endpoint : EndpointLifecycle) : PresenceState → ObservationStamp → Prop
  | sleep {stamp : ObservationStamp} (h : endpoint.sleep.stamp = some stamp) :
      ActivityEvidence endpoint (sleepPresence endpoint.sleep.value) stamp
  | activity {stamp : ObservationStamp} (hvalue : endpoint.activity.value = .active)
      (h : endpoint.activity.stamp = some stamp) : ActivityEvidence endpoint .available stamp

variable {endpoint : EndpointLifecycle} {pairing : LifecycleFact PairingState} {state : PresenceState}
  {stamp : ObservationStamp} {generationId : GenerationId}

theorem mem_fact {c : Prop} [Decidable c] {said : PresenceState} {held : Option ObservationStamp} :
    (state, stamp) ∈ (if c then held.toList.map (said, ·) else []) ↔ c ∧ held = some stamp ∧ state = said := by
  by_cases hc : c
  · cases held with
    | none => simp
    | some other =>
      simp only [hc, if_true, Option.toList_some, List.map_cons, List.map_nil, List.mem_singleton,
        Prod.mk.injEq, true_and, Option.some.injEq]
      constructor
      · intro h
        exact ⟨h.2.symm, h.1⟩
      intro h
      exact ⟨h.2, h.1.symm⟩
  · simp [hc]

theorem availabilityEvidence_iff : endpoint.AvailabilityEvidence pairing state stamp ↔
    (state, stamp) ∈ endpoint.availabilityCandidates pairing := by
  have hroute : endpoint.route.stamp.toList.map (routePresence endpoint.route.value, ·) =
      if True then endpoint.route.stamp.toList.map (routePresence endpoint.route.value, ·) else [] :=
    (if_pos trivial).symm
  unfold availabilityCandidates
  rw [hroute]
  simp only [List.mem_append, mem_fact]
  constructor
  · intro h
    cases h with
    | route h => exact .inl (.inl (.inl (.inl ⟨trivial, h, rfl⟩)))
    | power hvalue h => exact .inl (.inl (.inl (.inr ⟨hvalue, h, rfl⟩)))
    | activity hvalue h => exact .inl (.inl (.inr ⟨hvalue, h, rfl⟩))
    | freshness hvalue h => exact .inl (.inr ⟨hvalue, h, rfl⟩)
    | unpaired hkind hvalue h => exact .inr ⟨⟨hkind, hvalue⟩, h, rfl⟩
  intro h
  obtain (((⟨-, h, hstate⟩ | ⟨hvalue, h, hstate⟩) | ⟨hvalue, h, hstate⟩) | ⟨hvalue, h, hstate⟩) |
    ⟨⟨hkind, hvalue⟩, h, hstate⟩ := h
  all_goals subst hstate
  · exact .route h
  · exact .power hvalue h
  · exact .activity hvalue h
  · exact .freshness hvalue h
  · exact .unpaired hkind hvalue h

theorem activityEvidence_iff : endpoint.ActivityEvidence state stamp ↔
    (state, stamp) ∈ endpoint.activityCandidates := by
  have hsleep : endpoint.sleep.stamp.toList.map (sleepPresence endpoint.sleep.value, ·) =
      if True then endpoint.sleep.stamp.toList.map (sleepPresence endpoint.sleep.value, ·) else [] :=
    (if_pos trivial).symm
  unfold activityCandidates
  rw [hsleep]
  simp only [List.mem_append, mem_fact]
  constructor
  · intro h
    cases h with
    | sleep h => exact .inl ⟨trivial, h, rfl⟩
    | activity hvalue h => exact .inr ⟨hvalue, h, rfl⟩
  intro h
  obtain ⟨-, h, hstate⟩ | ⟨hvalue, h, hstate⟩ := h
  all_goals subst hstate
  · exact .sleep h
  · exact .activity hvalue h

/-- The stamps that presence is derived from are of one generation. -/
structure OfGeneration (endpoint : EndpointLifecycle) (pairing : LifecycleFact PairingState)
    (generationId : GenerationId) : Prop where
  availability : ∀ state stamp, endpoint.AvailabilityEvidence pairing state stamp →
    stamp.generationId = generationId
  activity : ∀ state stamp, endpoint.ActivityEvidence state stamp → stamp.generationId = generationId

theorem availabilityCandidate_iff (h : endpoint.OfGeneration pairing generationId) :
    endpoint.availabilityCandidate pairing = state ↔
      Reads (endpoint.AvailabilityEvidence pairing) .unknown state := by
  have hreads : Reads (endpoint.AvailabilityEvidence pairing) .unknown (endpoint.availabilityCandidate pairing) :=
    selectLatestState_reads .unknown (fun _ _ => availabilityEvidence_iff) h.availability
  constructor
  · intro hstate
    rw [← hstate]
    exact hreads
  intro hstate
  exact hreads.unique hstate

theorem presenceCandidate_iff (h : endpoint.OfGeneration pairing generationId) :
    endpoint.presenceCandidate pairing = state ↔
      (¬ Reads (endpoint.AvailabilityEvidence pairing) .unknown .available ∧
        Reads (endpoint.AvailabilityEvidence pairing) .unknown state) ∨
      (Reads (endpoint.AvailabilityEvidence pairing) .unknown .available ∧
        Reads endpoint.ActivityEvidence .available state) := by
  have hreads : Reads endpoint.ActivityEvidence .available
      ((selectLatestState endpoint.activityCandidates).getD .available) :=
    selectLatestState_reads .available (fun _ _ => activityEvidence_iff) h.activity
  unfold presenceCandidate
  simp only [← availabilityCandidate_iff h]
  by_cases havailable : endpoint.availabilityCandidate pairing = .available
  · rw [if_neg (not_not.mpr havailable)]
    simp only [havailable, not_true_eq_false, false_and, false_or, true_and]
    constructor
    · intro hstate
      rw [← hstate]
      exact hreads
    intro hstate
    exact hreads.unique hstate
  rw [if_pos havailable]
  simp [havailable]

/-- What presence is derived from: everything about an endpoint but its name, registration and contact. -/
def SameEvidence (endpoint other : EndpointLifecycle) : Prop :=
  endpoint.identity.routeKind = other.identity.routeKind ∧ endpoint.route = other.route ∧
    endpoint.power = other.power ∧ endpoint.sleep = other.sleep ∧ endpoint.activity = other.activity ∧
    endpoint.freshness = other.freshness

theorem SameEvidence.presenceCandidate {other : EndpointLifecycle} (h : endpoint.SameEvidence other) :
    endpoint.presenceCandidate pairing = other.presenceCandidate pairing := by
  obtain ⟨⟨_, _, _, _⟩, _, _, _, _, _, _, _⟩ := endpoint
  obtain ⟨⟨_, _, _, _⟩, _, _, _, _, _, _, _⟩ := other
  obtain ⟨hkind, hroute, hpower, hsleep, hactivity, hfreshness⟩ := h
  dsimp only at hkind hroute hpower hsleep hactivity hfreshness
  subst hkind hroute hpower hsleep hactivity hfreshness
  rfl

end EndpointLifecycle

def strongestPresence (states : List PresenceState) : PresenceState :=
  if .available ∈ states then .available
  else if .sleeping ∈ states then .sleeping
  else if .unknown ∈ states then .unknown
  else .unavailable

namespace DeviceLifecycle

variable {pairing : LifecycleFact PairingState} {device device' : DeviceLifecycle}

def readings (device : DeviceLifecycle) : List PresenceState :=
  device.endpointList.map (·.presenceCandidate device.pairing)

theorem presenceLoop_eq (sawSleeping sawUnknown : Bool) (endpoints : List EndpointLifecycle) :
    presenceLoop pairing sawSleeping sawUnknown endpoints =
      if .available ∈ endpoints.map (·.presenceCandidate pairing) then .available
      else if sawSleeping = true ∨ .sleeping ∈ endpoints.map (·.presenceCandidate pairing) then .sleeping
      else if sawUnknown = true ∨ .unknown ∈ endpoints.map (·.presenceCandidate pairing) then .unknown
      else .unavailable := by
  induction endpoints generalizing sawSleeping sawUnknown with
  | nil => simp [presenceLoop]
  | cons endpoint endpoints ih =>
    unfold presenceLoop
    cases hpresent : endpoint.presenceCandidate pairing <;> simp [hpresent, ih]

theorem presence_of_ne_nil (h : device.endpointList ≠ []) : device.presence = strongestPresence device.readings := by
  unfold presence
  split
  next hempty =>
    rw [← Std.TreeMap.isEmpty_toList, List.isEmpty_iff] at hempty
    unfold endpointList at h
    rw [hempty] at h
    exact absurd rfl h
  rw [presenceLoop_eq]
  simp [strongestPresence, readings]

theorem presence_of_nil (h : device.endpointList = []) : device.presence = .unknown := by
  unfold presence
  rw [if_pos]
  rw [← Std.TreeMap.isEmpty_toList, List.isEmpty_iff]
  exact List.map_eq_nil_iff.mp h

/-- The names and the order of the endpoints do not matter. -/
theorem presence_congr (hpairing : device'.pairing = device.pairing)
    (h : ∀ endpoint ∈ device.endpointList, ∃ other ∈ device'.endpointList, endpoint.SameEvidence other)
    (h' : ∀ other ∈ device'.endpointList, ∃ endpoint ∈ device.endpointList, endpoint.SameEvidence other) :
    device'.presence = device.presence := by
  have hreadings : ∀ state, state ∈ device'.readings ↔ state ∈ device.readings := by
    intro state
    simp only [readings, List.mem_map, hpairing]
    constructor
    · intro hstate
      obtain ⟨other, hother, hreads⟩ := hstate
      obtain ⟨endpoint, hmem, hsame⟩ := h' other hother
      exact ⟨endpoint, hmem, hsame.presenceCandidate.trans hreads⟩
    intro hstate
    obtain ⟨endpoint, hmem, hreads⟩ := hstate
    obtain ⟨other, hother, hsame⟩ := h endpoint hmem
    exact ⟨other, hother, hsame.presenceCandidate.symm.trans hreads⟩
  by_cases hnil : device.endpointList = []
  · have hnil' : device'.endpointList = [] := by
      apply List.eq_nil_iff_forall_not_mem.mpr
      intro other hother
      obtain ⟨endpoint, hmem, _⟩ := h' other hother
      rw [hnil] at hmem
      cases hmem
    rw [presence_of_nil hnil, presence_of_nil hnil']
  have hnil' : device'.endpointList ≠ [] := by
    intro hempty
    obtain ⟨endpoint, hmem⟩ := List.exists_mem_of_ne_nil _ hnil
    obtain ⟨other, hother, _⟩ := h endpoint hmem
    rw [hempty] at hother
    cases hother
  rw [presence_of_ne_nil hnil, presence_of_ne_nil hnil']
  simp only [strongestPresence, hreadings]

end DeviceLifecycle

end HyperfluxNext
