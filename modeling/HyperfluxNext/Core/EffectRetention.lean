import HyperfluxNext.Core.CoordinatorRuns
import HyperfluxNext.Core.DesiredEffects
import HyperfluxNext.Library.OrderedMaps

namespace HyperfluxNext

open VolatileEffectRegistry List Std.TreeMap Procedure

/-- An operation that records, removes or invalidates desired effects. -/
inductive RegistryOp where
  | captureAdmitted (request : TransactionRequest) (submission : SubmissionBinding)
  | observeCompleted (request : TransactionRequest) (terminal : TransactionTerminal)
  | removeTarget (key : EffectFrameKey)
  | removeSession (sessionId : SessionId)
  | removeLease (leaseId : LeaseId)
  | removeGeneration (receiverId : ReceiverId) (generationId : GenerationId)

def RegistryOp.run : RegistryOp → RegistryM Unit
  | .captureAdmitted request submission => do
    let _ ← VolatileEffectRegistry.captureAdmitted request submission
  | .observeCompleted request terminal => VolatileEffectRegistry.observeCompleted request terminal
  | .removeTarget key => do
    let _ ← VolatileEffectRegistry.removeTarget key
  | .removeSession sessionId => do
    let _ ← VolatileEffectRegistry.removeSession sessionId
  | .removeLease leaseId => do
    let _ ← VolatileEffectRegistry.removeLease leaseId
  | .removeGeneration receiverId generationId => do
    let _ ← VolatileEffectRegistry.removeGeneration receiverId generationId

namespace VolatileEffectRegistry

def runs (registry : VolatileEffectRegistry) (ops : List RegistryOp) : VolatileEffectRegistry :=
  ops.foldl (fun registry op => final op.run registry) registry

def latest (recorded : List (EffectFrameKey × DesiredEffectFrame)) (key : EffectFrameKey) :
    Option DesiredEffectFrame :=
  recorded.findSomeRev? fun (other, desired) => if compare other key = .eq then some desired else none

def recordedBy (registry : VolatileEffectRegistry) : RegistryOp → List (EffectFrameKey × DesiredEffectFrame)
  | .captureAdmitted request submission =>
    if request.transactionClass = .effectFrame ∧
        (answer (captureAdmitted request submission) registry).isOk then
      (request.frames.mapM (desiredFrame request submission registry.nextRevision)).toOption.getD []
    else
      []
  | _ => []

def recordLog : VolatileEffectRegistry → List RegistryOp → List (EffectFrameKey × DesiredEffectFrame)
  | _, [] => []
  | registry, op :: ops => registry.recordedBy op ++ recordLog (final op.run registry) ops

/-- The call takes the entry of the key out. -/
def drops (registry : VolatileEffectRegistry) (key : EffectFrameKey) : RegistryOp → Bool
  | .captureAdmitted request submission =>
    match captureAdmitted request submission registry with
    | .ok capture _ => key ∈ capture.evicted
    | .error _ _ => false
  | .observeCompleted request terminal =>
    request.transactionClass = .staticLighting ∧ isDefinitiveSuccess request terminal ∧
      key ∈ request.frames.map fun frame => ⟨request.receiverId, request.generationId, frame.deviceId⟩
  | .removeTarget target => key = target
  | .removeSession sessionId => registry.entries[key]?.any (·.owner.sessionId = sessionId)
  | .removeLease leaseId => registry.entries[key]?.any (·.leaseId = leaseId)
  | .removeGeneration receiverId generationId => key.receiverId = receiverId ∧ key.generationId = generationId

/-- No call of the run takes the entry of the key out. -/
def spared : VolatileEffectRegistry → EffectFrameKey → List RegistryOp → Bool
  | _, _, [] => true
  | registry, key, op :: ops => ! registry.drops key op && spared (final op.run registry) key ops

/-- An entry from which a valid request for its own device can be built. -/
structure Replayable (key : EffectFrameKey) (desired : DesiredEffectFrame) : Prop where
  frame : desired.frame.deviceId = key.deviceId
  binding : desired.deviceProfile.deviceId = key.deviceId
  slots : desired.deviceProfile.applicationSlotCount.get = desired.frame.colors.length
  lit : desired.frame.colors ≠ []
  bounded : desired.frame.colors.length ≤ 4096
  resource : desired.resource = ⟨key.receiverId, key.generationId, key.deviceId, .lighting⟩

/-- Captured earlier, or together with the other under a smaller key. -/
def Older (left right : EffectFrameKey × DesiredEffectFrame) : Prop :=
  left.2.revision < right.2.revision ∨ left.2.revision = right.2.revision ∧ compare left.1 right.1 = .lt

def EvictsOldest (registry : VolatileEffectRegistry) (evicted : List EffectFrameKey) : Prop :=
  ∀ before key later, evicted = before ++ key :: later →
    ∃ desired, registry.entries[key]? = some desired ∧
      ∀ (other : EffectFrameKey) (kept : DesiredEffectFrame), other ∉ before → other ≠ key →
        registry.entries[other]? = some kept → Older (key, desired) (other, kept)

variable {registry after : VolatileEffectRegistry} {key : EffectFrameKey} {desired : DesiredEffectFrame}
  {request : TransactionRequest} {submission : SubmissionBinding}

theorem Older.trans {first second third : EffectFrameKey × DesiredEffectFrame}
    (h : Older first second) (h' : Older second third) : Older first third := by
  unfold Older at h h' ⊢
  obtain h | ⟨h, hkey⟩ := h
  · left
    omega
  obtain h' | ⟨h', hkey'⟩ := h'
  · left
    omega
  right
  exact ⟨h.trans h', Std.TransCmp.lt_trans hkey hkey'⟩

theorem foldl_olderEntry (entries : List (EffectFrameKey × DesiredEffectFrame))
    (first : EffectFrameKey × DesiredEffectFrame)
    (hordered : (first :: entries).Pairwise fun left right => compare left.1 right.1 = .lt) :
    entries.foldl olderEntry first ∈ first :: entries ∧
      ∀ entry ∈ first :: entries, entry = entries.foldl olderEntry first ∨
        Older (entries.foldl olderEntry first) entry := by
  induction entries generalizing first with
  | nil => simp
  | cons next entries ih =>
    rw [foldl_cons]
    have hfirst := (pairwise_cons.mp hordered).1
    have hlt := hfirst next mem_cons_self
    have hrest := List.Pairwise.of_cons hordered
    by_cases hrevision : next.2.revision < first.2.revision
    · have hnext : olderEntry first next = next := if_pos hrevision
      rw [hnext]
      obtain ⟨hmem, hold⟩ := ih next hrest
      refine ⟨mem_cons_of_mem _ hmem, fun entry hentry => ?_⟩
      obtain hentry | hentry := mem_cons.mp hentry
      · have hnew : Older next first := .inl hrevision
        subst hentry
        obtain heq | hbest := hold next mem_cons_self
        · rw [← heq]
          exact .inr hnew
        · exact .inr (hbest.trans hnew)
      · exact hold entry hentry
    have hnext : olderEntry first next = first := if_neg hrevision
    rw [hnext]
    have hkeep : (first :: entries).Pairwise fun left right => compare left.1 right.1 = .lt := by
      refine pairwise_cons.mpr ⟨fun entry hentry => ?_, List.Pairwise.of_cons hrest⟩
      exact hfirst entry (mem_cons_of_mem _ hentry)
    obtain ⟨hmem, hold⟩ := ih first hkeep
    have holder : Older first next := by
      unfold Older
      by_cases heq : first.2.revision = next.2.revision
      · exact .inr ⟨heq, hlt⟩
      left
      omega
    have hbefore : ∀ entry ∈ first :: next :: entries,
        entry = entries.foldl olderEntry first ∨ Older (entries.foldl olderEntry first) entry := by
      intro entry hentry
      by_cases hsame : entry = next
      · subst hsame
        obtain heq | hbest := hold first mem_cons_self
        · rw [← heq]
          exact .inr holder
        · exact .inr (hbest.trans holder)
      have hother : entry ∈ first :: entries := by
        simp only [mem_cons] at hentry ⊢
        exact hentry.imp_right fun hmem => hmem.resolve_left hsame
      exact hold entry hother
    refine ⟨?_, hbefore⟩
    simp only [mem_cons] at hmem ⊢
    exact hmem.imp_right .inr

theorem oldest_spec (h : registry.oldest = some key) :
    ∃ desired, registry.entries[key]? = some desired ∧
      ∀ (other : EffectFrameKey) (kept : DesiredEffectFrame), other ≠ key →
        registry.entries[other]? = some kept → Older (key, desired) (other, kept) := by
  unfold oldest at h
  split at h
  · cases h
  next first entries hlist =>
    have hordered := ordered_keys_toList (t := registry.entries)
    rw [hlist] at hordered
    obtain ⟨hmem, hold⟩ := foldl_olderEntry entries first hordered
    have hkey := Option.some.inj h
    rw [← hlist] at hmem hold
    generalize entries.foldl olderEntry first = best at hkey hmem hold
    subst hkey
    refine ⟨best.2, mem_toList_iff_getElem?_eq_some.mp hmem, fun other kept hne hother => ?_⟩
    obtain heq | holder := hold _ (mem_toList_iff_getElem?_eq_some.mpr hother)
    · rw [← heq] at hne
      exact absurd rfl hne
    · exact holder

theorem oldest_eq_none (h : registry.oldest = none) : registry.entries.size = 0 := by
  unfold oldest at h
  split at h
  next hlist =>
    have hlength := length_toList (t := registry.entries)
    rw [hlist] at hlength
    exact hlength.symm
  · cases h

/-- As many entries go as there are too many, each the oldest of those left, and nothing else. -/
structure Evicts (registry : VolatileEffectRegistry) (evicted : List EffectFrameKey)
    (kept : VolatileEffectRegistry) : Prop where
  length : evicted.length = registry.entries.size - registry.capacity
  oldest : registry.EvictsOldest evicted
  bounded : kept.entries.size ≤ registry.capacity
  capacity : kept.capacity = registry.capacity
  entry : ∀ key : EffectFrameKey, kept.entries[key]? = if key ∈ evicted then none else registry.entries[key]?

theorem evicts_none (h : registry.entries.size ≤ registry.capacity) : Evicts registry [] registry where
  length := by
    simp only [length_nil]
    omega
  oldest := by
    intro before key later heq
    simp at heq
  bounded := h
  capacity := rfl
  entry _ := by simp

theorem evictLoop_evicts (rounds : Nat) (hrounds : registry.entries.size ≤ rounds) :
    Evicts registry (evictLoop rounds registry).1 (evictLoop rounds registry).2 := by
  induction rounds generalizing registry with
  | zero => exact evicts_none (by omega)
  | succ rounds ih =>
    unfold evictLoop
    by_cases hsize : registry.entries.size > registry.capacity
    · rw [if_pos hsize]
      cases holdest : registry.oldest with
      | none =>
        have hzero := oldest_eq_none holdest
        omega
      | some oldestKey =>
        obtain ⟨desired, hentry, hold⟩ := oldest_spec holdest
        have hmem : registry.entries.contains oldestKey = true := by
          rw [contains_eq_isSome_getElem?, hentry]
          rfl
        have herased : (registry.entries.erase oldestKey).size = registry.entries.size - 1 := by
          rw [size_erase, if_pos hmem]
        have hget : ∀ other : EffectFrameKey, other ≠ oldestKey →
            (registry.entries.erase oldestKey)[other]? = registry.entries[other]? := by
          intro other hne
          rw [getElem?_erase, if_neg]
          intro heq
          exact hne (Std.LawfulEqCmp.compare_eq_iff_eq.mp heq).symm
        have hrest : Evicts { registry with entries := registry.entries.erase oldestKey } _ _ :=
          ih (by simp only [herased]; omega)
        constructor
        case length =>
          have hlength := hrest.length
          simp only [herased] at hlength
          simp only [length_cons, hlength]
          omega
        case bounded => exact hrest.bounded
        case capacity => exact hrest.capacity
        case oldest =>
          intro before key later heq
          cases before with
          | nil =>
            have hkey := (List.cons.inj heq).1
            subst hkey
            exact ⟨desired, hentry, fun other kept _ => hold other kept⟩
          | cons first before =>
            obtain ⟨hfirst, hlater⟩ := List.cons.inj heq
            subst hfirst
            obtain ⟨found, hfound, hothers⟩ := hrest.oldest before key later hlater
            have hne : key ≠ oldestKey := by
              intro hsame
              rw [hsame, getElem?_erase_self] at hfound
              cases hfound
            rw [hget key hne] at hfound
            refine ⟨found, hfound, fun other kept hbefore hother hkept => ?_⟩
            have hsplit : other ≠ oldestKey ∧ other ∉ before := by simpa using hbefore
            exact hothers other kept hsplit.2 hother ((hget other hsplit.1).trans hkept)
        case entry =>
          intro other
          have hother := hrest.entry other
          by_cases hsame : other = oldestKey
          · rw [hother, hsame]
            simp
          rw [hother, hget other hsame]
          simp [hsame]
    · rw [if_neg hsize]
      exact evicts_none (by omega)

theorem validateFramePayloads_mem {bindings : List DeviceProfileBinding} {frames : List LightingFrame}
    {colors : Nat} (h : validateFramePayloads bindings frames colors = .ok ()) :
    ∀ frame ∈ frames, ∀ binding, bindings.find? (·.deviceId = frame.deviceId) = some binding →
      frame.colors ≠ [] ∧ frame.colors.length ≤ 4096 ∧
        binding.applicationSlotCount.get = frame.colors.length := by
  induction frames generalizing colors with
  | nil => simp
  | cons first frames ih =>
    unfold validateFramePayloads at h
    obtain ⟨_, hempty, h⟩ := bind_eq_ok h
    obtain ⟨_, hmany, h⟩ := bind_eq_ok h
    obtain ⟨_, _, h⟩ := bind_eq_ok h
    intro frame hframe binding hfound
    cases hfirst : bindings.find? (·.deviceId = first.deviceId) with
    | none => simp [hfirst] at h
    | some found =>
      simp only [hfirst] at h
      obtain ⟨_, hcount, h⟩ := bind_eq_ok h
      obtain hsame | hlater := mem_cons.mp hframe
      · subst hsame
        rw [hfirst] at hfound
        cases hfound
        have hslots := reject_eq_ok hcount
        have hbounded := reject_eq_ok hmany
        exact ⟨reject_eq_ok hempty, by omega, by omega⟩
      · exact ih h frame hlater binding hfound

theorem desiredFrame_replayable {revision : Nat} {frame : LightingFrame} (hframe : frame ∈ request.frames)
    (hvalid : validateTransaction request = .ok ())
    (h : desiredFrame request submission revision frame = .ok (key, desired)) :
    Replayable key desired := by
  unfold validateTransaction at hvalid
  obtain ⟨_, _, hvalid⟩ := bind_eq_ok hvalid
  obtain ⟨_, hscope, hvalid⟩ := bind_eq_ok hvalid
  obtain ⟨devices, _, hvalid⟩ := bind_eq_ok hvalid
  obtain ⟨_, _, hvalid⟩ := bind_eq_ok hvalid
  obtain ⟨_, hpayloads, hvalid⟩ := bind_eq_ok hvalid
  obtain ⟨_, _, hcoverage⟩ := bind_eq_ok hvalid
  obtain ⟨_, _, hscope⟩ := bind_eq_ok hscope
  have hgeneration := reject_eq_ok hscope
  obtain ⟨_, _, hcoverage⟩ := bind_eq_ok hcoverage
  have hkinds := reject_eq_ok hcoverage
  have hpayload := validateFramePayloads_mem hpayloads frame hframe
  unfold desiredFrame at h
  cases hbinding : request.deviceProfiles.find? (·.deviceId = frame.deviceId) with
  | none => simp [hbinding] at h
  | some binding =>
    cases hresource : request.resources.find? (·.deviceId = frame.deviceId) with
    | none => simp [hbinding, hresource] at h
    | some resource =>
      simp only [hbinding, hresource] at h
      cases h
      obtain ⟨hlit, hbounded, hslots⟩ := hpayload binding hbinding
      have hdevice := find?_some hbinding
      have htarget := find?_some hresource
      have hmem := mem_of_find?_eq_some hresource
      simp only [any_eq_true, not_exists, not_and] at hgeneration hkinds
      have hscope := hgeneration resource hmem
      have hkind := hkinds resource hmem
      simp only [decide_eq_true_eq] at hdevice htarget
      constructor
      case frame => rfl
      case binding => exact hdevice
      case slots => exact hslots
      case lit => exact hlit
      case bounded => exact hbounded
      case resource =>
        cases resource
        simp_all

theorem planReplay_valid (h : registry.entries[key]? = some desired) (hentry : Replayable key desired)
    (requestId : RequestId) (transactionId : TransactionId) (dispatchNonce : DispatchNonce)
    (deadlineMs : MonotonicMs) :
    ∃ replay, registry.planReplay key requestId transactionId dispatchNonce deadlineMs = .ok (some replay) ∧
      validateTransaction replay.request = .ok () ∧ replay.request.requestId = requestId ∧
      replay.request.transactionId = transactionId ∧
      replay.request.frames.map (·.colors) = [desired.frame.colors] ∧
      replay.request.frames.map (·.deviceId) = [key.deviceId] := by
  unfold planReplay
  rw [h]
  have hlit := length_pos_iff.mpr hentry.lit
  have hbounded := hentry.bounded
  have hslots := hentry.slots
  have hframe := hentry.frame
  have hbinding := hentry.binding
  have hresource := hentry.resource
  have hvalid : validateTransaction {
      requestId := requestId
      transactionId := transactionId
      clientId := desired.clientId
      leaseId := desired.leaseId
      receiverId := key.receiverId
      generationId := key.generationId
      receiverProfileId := desired.receiverProfileId
      receiverProfileDigest := desired.receiverProfileDigest
      deviceProfiles := [desired.deviceProfile]
      transactionClass := .effectFrame
      stableIntents := []
      deadlineMs := deadlineMs
      resources := [desired.resource]
      frames := [{ desired.frame with frameIndex := .lit 0 }] } = .ok () := by
    have hpayload : validateFramePayloads [desired.deviceProfile]
        [{ desired.frame with frameIndex := .lit 0 }] 0 = .ok () := by
      unfold validateFramePayloads
      simp only [hbinding, hframe, decide_true, find?_cons_of_pos, hslots]
      rw [reject_of_not hentry.lit, reject_of_not (by omega), reject_of_not (by omega),
        reject_of_not (by omega)]
      rfl
    have hslot : (desired.deviceProfile.applicationSlotCount.get == 0) = false := by
      simp only [hslots, beq_eq_false_iff_ne]
      omega
    simp only [validateTransaction, hpayload]
    simp [validateResources, validateTransactionScope, validateFrameTopology, validateProfileBindings,
      validateStableIntents, validateResourceCoverage, anyWindowUnordered, reject, hslot, hbinding, hframe,
      hresource, bind, Except.bind, pure, Except.pure]
  simp only [hvalid]
  exact ⟨_, rfl, hvalid, rfl, rfl, rfl, by simp [hframe]⟩

/-- A capture of an effect request puts its entries in and evicts the oldest that are too many. -/
theorem captureAdmitted_holds (request : TransactionRequest) (submission : SubmissionBinding) :
    Holds (captureAdmitted request submission) registry
      (fun capture after =>
        (request.transactionClass ≠ .effectFrame → capture = ⟨0, []⟩ ∧ after = registry) ∧
        (request.transactionClass = .effectFrame → ∃ staged,
          request.frames.mapM (desiredFrame request submission registry.nextRevision) = .ok staged ∧
            validateTransaction request = .ok () ∧ capture.captured = staged.length ∧
            Evicts (registry.recorded staged) capture.evicted after))
      (fun _ after => after = registry) := by
  unfold captureAdmitted
  rw [holds_bind, holds_get]
  by_cases hclass : request.transactionClass = .effectFrame
  · rw [if_neg (not_not.mpr hclass)]
    simp only [holds_bind, holds_lift]
    refine ⟨fun _ hadmitted => ⟨fun _ _ => ⟨fun staged hstaged => ?_, fun _ _ => trivial⟩, fun _ _ => trivial⟩,
      fun _ _ => trivial⟩
    have hvalid : validateTransaction request = .ok () := by
      unfold validateAdmission at hadmitted
      rw [if_neg (by simp [hclass])] at hadmitted
      obtain ⟨_, hvalid, _⟩ := bind_eq_ok hadmitted
      cases hrequest : validateTransaction request with
      | ok => rfl
      | error e =>
        rw [hrequest] at hvalid
        cases hvalid
    simp only [holds_set, holds_pure]
    have hevicts : Evicts (registry.recorded staged) _ _ := evictLoop_evicts _ (Nat.le_refl _)
    exact ⟨fun hother => absurd hclass hother, fun _ => ⟨staged, hstaged, hvalid, rfl, hevicts⟩⟩
  · rw [if_pos hclass, holds_pure]
    exact ⟨fun _ => ⟨rfl, rfl⟩, fun heffect => absurd heffect hclass⟩

structure Forgets (gone : EffectFrameKey → Bool) (before after : VolatileEffectRegistry) : Prop where
  capacity : after.capacity = before.capacity
  entry : ∀ key : EffectFrameKey, after.entries[key]? = if gone key then none else before.entries[key]?

variable {gone : EffectFrameKey → Bool}

theorem Forgets.mem (h : Forgets gone registry after) (hentry : after.entries[key]? = some desired) :
    registry.entries[key]? = some desired := by
  rw [h.entry] at hentry
  split at hentry
  · cases hentry
  · exact hentry

theorem Forgets.size (h : Forgets gone registry after) :
    after.entries.size ≤ registry.entries.size := by
  apply OrderedMaps.size_le_of_mem
  intro key hkey
  rw [mem_iff_isSome_getElem?] at hkey ⊢
  obtain ⟨desired, hentry⟩ := Option.isSome_iff_exists.mp hkey
  rw [h.mem hentry]
  rfl

/-- What is retained is what the predicate keeps; on a key without an entry nothing is said of it. -/
theorem retain_forgets (keep : EffectFrameKey → DesiredEffectFrame → Bool)
    (hgone : ∀ (key : EffectFrameKey) (desired : DesiredEffectFrame), registry.entries[key]? = some desired →
      gone key = ! keep key desired) :
    Holds (retain keep) registry (fun _ after => Forgets gone registry after) (fun _ _ => False) := by
  unfold retain
  simp only [holds_do]
  refine ⟨rfl, fun key => ?_⟩
  rw [getElem?_filter']
  cases hentry : registry.entries[key]? with
  | none => simp
  | some desired =>
    rw [hgone key desired hentry]
    cases hkeep : keep key desired with
    | false | true => simp [hkeep]

theorem removeTarget_forgets (target : EffectFrameKey) :
    Holds (removeTarget target) registry (fun _ after => Forgets (fun key => key = target) registry after)
      (fun _ _ => False) := by
  unfold removeTarget
  simp only [holds_do]
  refine ⟨rfl, fun key => ?_⟩
  rw [getElem?_erase]
  by_cases hsame : key = target
  · rw [if_pos (Std.LawfulEqCmp.compare_eq_iff_eq.mpr hsame.symm), if_pos (decide_eq_true hsame)]
  · rw [if_neg fun heq => hsame (Std.LawfulEqCmp.compare_eq_iff_eq.mp heq).symm,
      if_neg (by rw [decide_eq_false hsame]; exact Bool.false_ne_true)]

theorem Forgets.trans {gone' both : EffectFrameKey → Bool} {later : VolatileEffectRegistry}
    (h : Forgets gone registry after) (h' : Forgets gone' after later)
    (hboth : ∀ key, both key = (gone' key || gone key)) : Forgets both registry later := by
  refine ⟨h'.capacity.trans h.capacity, fun key => ?_⟩
  rw [h'.entry, h.entry, hboth]
  cases gone' key <;> cases gone key <;> rfl

/-- Painting takes out the entries of the devices it painted. -/
theorem observeCompleted_forgets (request : TransactionRequest) (terminal : TransactionTerminal) :
    Holds (observeCompleted request terminal) registry
      (fun _ after => Forgets (registry.drops · (.observeCompleted request terminal)) registry after)
      (fun _ _ => False) := by
  let target (frame : LightingFrame) : EffectFrameKey :=
    ⟨request.receiverId, request.generationId, frame.deviceId⟩
  unfold observeCompleted
  split
  next hother =>
    refine ⟨rfl, fun key => ?_⟩
    rw [if_neg]
    intro hdrops
    obtain ⟨hstatic, hsuccess, -⟩ := of_decide_eq_true hdrops
    rcases hother with hclass | hfailed
    · exact hclass hstatic
    · rw [hsuccess] at hfailed
      cases hfailed
  next hpainted =>
    obtain ⟨hstatic, hsuccess⟩ := not_or.mp hpainted
    rw [holds_bind]
    have hloop : Holds (each (fun frame : LightingFrame => removeTarget (target frame)) request.frames) registry
        (fun _ after => ∃ seen, request.frames = seen ++ [] ∧
          Forgets (fun key => key ∈ seen.map target) registry after) (fun _ _ => False) := by
      refine holds_each (fun todo _ after => ∃ seen, request.frames = seen ++ todo ∧
        Forgets (fun key => key ∈ seen.map target) registry after) ?_ ⟨[], rfl, rfl, fun _ => rfl⟩
      rintro frame todo _ after ⟨seen, hsplit, hseen⟩
      refine holds_post (removeTarget_forgets _) fun _ later hlater => ?_
      refine ⟨seen ++ [frame], by rw [hsplit, append_assoc]; rfl, hseen.trans hlater fun key => ?_⟩
      rw [map_append, Bool.eq_iff_iff]
      simp [or_comm]
    refine holds_post hloop ?_
    rintro _ after ⟨seen, hseen, hforgets⟩
    rw [append_nil] at hseen
    have hdrops : (registry.drops · (.observeCompleted request terminal)) =
        fun key => decide (key ∈ seen.map target) := by
      funext key
      have htrue : isDefinitiveSuccess request terminal = true := by simpa using hsuccess
      simp only [drops, not_not.mp hstatic, htrue, hseen, true_and]
      rfl
    show Forgets _ registry after
    rw [hdrops]
    exact hforgets

theorem latest_append (earlier later : List (EffectFrameKey × DesiredEffectFrame)) (key : EffectFrameKey) :
    latest (earlier ++ later) key = (latest later key).or (latest earlier key) := by
  simp only [latest, findSomeRev?_eq_findSome?_reverse, reverse_append, findSome?_append]

/-- What holds of the registry after a run that recorded `log`. -/
structure Kept (limit : Nat) (log : List (EffectFrameKey × DesiredEffectFrame))
    (registry : VolatileEffectRegistry) : Prop where
  capacity : registry.capacity = limit
  bounded : registry.entries.size ≤ limit
  replayable : ∀ (key : EffectFrameKey) (desired : DesiredEffectFrame),
    registry.entries[key]? = some desired → Replayable key desired
  latest : ∀ (key : EffectFrameKey) (desired : DesiredEffectFrame),
    registry.entries[key]? = some desired → latest log key = some desired

variable {limit : Nat} {log : List (EffectFrameKey × DesiredEffectFrame)}

theorem Kept.forget (h : Kept limit log registry) (hafter : Forgets gone registry after) : Kept limit log after where
  capacity := hafter.capacity.trans h.capacity
  bounded := Nat.le_trans hafter.size h.bounded
  replayable key desired hentry := h.replayable key desired (hafter.mem hentry)
  latest key desired hentry := h.latest key desired (hafter.mem hentry)

theorem Kept.record {staged : List (EffectFrameKey × DesiredEffectFrame)} {evicted : List EffectFrameKey}
    (h : Kept limit log registry) (hvalid : validateTransaction request = .ok ())
    (hstaged : request.frames.mapM (desiredFrame request submission registry.nextRevision) = .ok staged)
    (hafter : Evicts (registry.recorded staged) evicted after) : Kept limit (log ++ staged) after := by
  have hget : ∀ (key : EffectFrameKey) (desired : DesiredEffectFrame), after.entries[key]? = some desired →
      (VolatileEffectRegistry.latest staged key).or registry.entries[key]? = some desired := by
    intro key desired hentry
    rw [hafter.entry key] at hentry
    split at hentry
    · cases hentry
    rw [← hentry]
    exact getElem?_insertMany_list.symm
  constructor
  case capacity => exact hafter.capacity.trans h.capacity
  case bounded =>
    have hbounded := hafter.bounded
    have hcapacity : (registry.recorded staged).capacity = limit := h.capacity
    omega
  case replayable =>
    intro key desired hentry
    have hentry := hget key desired hentry
    cases hlatest : VolatileEffectRegistry.latest staged key with
    | none =>
      rw [hlatest] at hentry
      exact h.replayable key desired hentry
    | some recorded =>
      rw [hlatest] at hentry
      cases hentry
      unfold VolatileEffectRegistry.latest at hlatest
      rw [findSomeRev?_eq_findSome?_reverse] at hlatest
      obtain ⟨entry, hmem, hsome⟩ := exists_of_findSome?_eq_some hlatest
      split at hsome
      next other found =>
        split at hsome
        next hkey =>
          cases hsome
          have hsame := Std.LawfulEqCmp.compare_eq_iff_eq.mp hkey
          subst hsame
          obtain ⟨frame, hframe, hdesired⟩ := mapM_ok_mem hstaged _ (mem_reverse.mp hmem)
          exact desiredFrame_replayable hframe hvalid hdesired
        · cases hsome
  case latest =>
    intro key desired hentry
    have hentry := hget key desired hentry
    rw [latest_append]
    cases hlatest : VolatileEffectRegistry.latest staged key with
    | none =>
      rw [hlatest] at hentry
      exact h.latest key desired hentry
    | some recorded =>
      rw [hlatest] at hentry
      exact hentry

/-- The entries after a call: gone where the call drops them, else the newest recorded ones. -/
structure Stepped (registry : VolatileEffectRegistry) (op : RegistryOp) (after : VolatileEffectRegistry) : Prop where
  gone : ∀ key, registry.drops key op = true → after.entries[key]? = none
  newest : ∀ key, registry.drops key op = false →
    after.entries[key]? = (VolatileEffectRegistry.latest (registry.recordedBy op) key).or registry.entries[key]?

theorem Forgets.stepped {op : RegistryOp} (h : Forgets (registry.drops · op) registry after)
    (hnone : registry.recordedBy op = []) : Stepped registry op after := by
  refine ⟨fun key hdrops => ?_, fun key hdrops => ?_⟩
  · rw [h.entry, if_pos hdrops]
  · rw [h.entry, if_neg (by rw [hdrops]; exact Bool.false_ne_true), hnone]
    rfl

theorem Evicts.stepped {staged : List (EffectFrameKey × DesiredEffectFrame)} {capture : EffectCapture}
    (h : Evicts (registry.recorded staged) capture.evicted after)
    (hrun : captureAdmitted request submission registry = .ok capture after)
    (hrecorded : registry.recordedBy (.captureAdmitted request submission) = staged) :
    Stepped registry (.captureAdmitted request submission) after := by
  have hdrops : ∀ key, registry.drops key (.captureAdmitted request submission) = decide (key ∈ capture.evicted) := by
    intro key
    simp only [drops, hrun]
  refine ⟨fun key hgone => ?_, fun key hkept => ?_⟩
  · rw [h.entry, if_pos (of_decide_eq_true (hdrops key ▸ hgone))]
  rw [h.entry, if_neg (of_decide_eq_false (hdrops key ▸ hkept)), hrecorded]
  exact getElem?_insertMany_list

/-- One operation: what it records joins the log, and a failure changes nothing. -/
theorem RegistryOp.run_kept (op : RegistryOp) (h : Kept limit log registry) :
    Holds op.run registry
      (fun _ after => Kept limit (log ++ registry.recordedBy op) after ∧ Stepped registry op after)
      (fun _ after => after = registry ∧ registry.recordedBy op = [] ∧ Stepped registry op registry) := by
  have hforget : ∀ {α : Type} {call : RegistryM α} {op : RegistryOp}, registry.recordedBy op = [] →
      Holds call registry (fun _ after => Forgets (registry.drops · op) registry after) (fun _ _ => False) →
      Holds call registry
        (fun _ after => Kept limit (log ++ registry.recordedBy op) after ∧ Stepped registry op after)
        (fun _ after => after = registry ∧ registry.recordedBy op = [] ∧ Stepped registry op registry) := by
    intro α call op hnone hcall
    refine holds_mono hcall (fun _ after hafter => ?_) (fun _ _ hfalse => hfalse.elim)
    refine ⟨?_, hafter.stepped hnone⟩
    rw [hnone, append_nil]
    exact h.forget hafter
  cases op with
  | captureAdmitted request submission =>
    unfold RegistryOp.run
    rw [holds_bind]
    have hcapture := @captureAdmitted_holds registry request submission
    cases hrun : VolatileEffectRegistry.captureAdmitted request submission registry with
    | ok capture after =>
      have hspec := (holds_of_ok hrun).mp hcapture
      have hanswer : answer (VolatileEffectRegistry.captureAdmitted request submission) registry =
          .ok capture := by
        unfold answer
        rw [hrun]
      rw [holds_of_ok hrun]
      by_cases hclass : request.transactionClass = .effectFrame
      · obtain ⟨staged, hstaged, hvalid, _, hevicts⟩ := hspec.2 hclass
        have hrecorded : registry.recordedBy (.captureAdmitted request submission) = staged := by
          simp only [recordedBy, hanswer, hstaged]
          exact if_pos ⟨hclass, rfl⟩
        refine ⟨?_, hevicts.stepped hrun hrecorded⟩
        rw [hrecorded]
        exact h.record hvalid hstaged hevicts
      have hrecorded : registry.recordedBy (.captureAdmitted request submission) = [] :=
        if_neg fun hboth => hclass hboth.1
      obtain ⟨hnothing, hsame⟩ := hspec.1 hclass
      rw [hsame]
      refine ⟨by rw [hrecorded, append_nil]; exact h, Forgets.stepped ⟨rfl, fun key => ?_⟩ hrecorded⟩
      simp [drops, hrun, hnothing]
    | error e after =>
      have hsame := (holds_of_error hrun).mp hcapture
      have hanswer : answer (VolatileEffectRegistry.captureAdmitted request submission) registry =
          .error e := by
        unfold answer
        rw [hrun]
      have hrecorded : registry.recordedBy (.captureAdmitted request submission) = [] := by
        simp only [recordedBy, hanswer]
        exact if_neg fun hboth => Bool.false_ne_true hboth.2
      rw [holds_of_error hrun]
      refine ⟨hsame, hrecorded, Forgets.stepped ⟨rfl, fun key => ?_⟩ hrecorded⟩
      simp [drops, hrun]
  | observeCompleted request terminal => exact hforget rfl (observeCompleted_forgets request terminal)
  | removeTarget key =>
    exact hforget rfl (holds_bind.mpr (holds_post (removeTarget_forgets key) fun _ _ hafter => hafter))
  | removeSession sessionId | removeLease leaseId | removeGeneration receiverId generationId =>
    refine hforget rfl (holds_bind.mpr (holds_post (retain_forgets _ ?_) fun _ _ hafter => hafter))
    intro key desired hentry
    simp [drops, hentry]

theorem runs_kept (ops : List RegistryOp) (h : Kept limit log registry) :
    Kept limit (log ++ registry.recordLog ops) (registry.runs ops) := by
  induction ops generalizing registry log with
  | nil =>
    simp only [recordLog, append_nil]
    exact h
  | cons op ops ih =>
    have hstep : Kept limit (log ++ registry.recordedBy op) (final op.run registry) := by
      apply holds_final
      refine holds_mono (RegistryOp.run_kept op h) (fun _ _ hafter => hafter.1) fun _ after hafter => ?_
      rw [hafter.1, hafter.2.1, append_nil]
      exact h
    have hrest := ih hstep
    rw [append_assoc] at hrest
    exact hrest

theorem RegistryOp.run_stepped (op : RegistryOp) (h : Kept limit log registry) :
    Stepped registry op (final op.run registry) := by
  apply holds_final
  refine holds_mono (RegistryOp.run_kept op h) (fun _ _ hafter => hafter.2) fun _ after hafter => ?_
  rw [hafter.1]
  exact hafter.2.2

/-- Over a run that does not drop the entry of a key, it is the newest that was recorded. -/
theorem runs_newest (ops : List RegistryOp) (h : Kept limit log registry) (hspared : registry.spared key ops = true) :
    (registry.runs ops).entries[key]? =
      (VolatileEffectRegistry.latest (registry.recordLog ops) key).or registry.entries[key]? := by
  induction ops generalizing registry log with
  | nil => rfl
  | cons op ops ih =>
    obtain ⟨hkept, hrest⟩ := Bool.and_eq_true_iff.mp hspared
    have hstep := (RegistryOp.run_stepped op h).newest key (by simpa using hkept)
    have hlater := ih (runs_kept [op] h) hrest
    have hlog : registry.recordLog (op :: ops) =
        registry.recordedBy op ++ recordLog (final op.run registry) ops := rfl
    rw [hlog, latest_append, Option.or_assoc, ← hstep]
    exact hlater

theorem desiredFrame_ok (h : validateTransaction request = .ok ()) (revision : Nat) {frame : LightingFrame}
    (hframe : frame ∈ request.frames) :
    ∃ entry, desiredFrame request submission revision frame = .ok entry := by
  unfold validateTransaction at h
  obtain ⟨_, _, h⟩ := bind_eq_ok h
  obtain ⟨_, _, h⟩ := bind_eq_ok h
  obtain ⟨devices, htopology, h⟩ := bind_eq_ok h
  obtain ⟨_, hbindings, h⟩ := bind_eq_ok h
  obtain ⟨_, _, h⟩ := bind_eq_ok h
  obtain ⟨_, _, hcoverage⟩ := bind_eq_ok h
  have hdevices : devices = request.frames.map (·.deviceId) := by
    unfold validateFrameTopology at htopology
    obtain ⟨_, _, htopology⟩ := bind_eq_ok htopology
    obtain ⟨_, _, htopology⟩ := bind_eq_ok htopology
    obtain ⟨_, _, htopology⟩ := bind_eq_ok htopology
    obtain ⟨_, _, htopology⟩ := bind_eq_ok htopology
    obtain ⟨_, _, htopology⟩ := bind_eq_ok htopology
    exact (Except.ok.inj htopology).symm
  unfold validateProfileBindings at hbindings
  obtain ⟨_, _, hbindings⟩ := bind_eq_ok hbindings
  obtain ⟨_, _, hbindings⟩ := bind_eq_ok hbindings
  obtain ⟨_, _, hbindings⟩ := bind_eq_ok hbindings
  obtain ⟨_, _, hbindings⟩ := bind_eq_ok hbindings
  obtain ⟨_, _, hbindings⟩ := bind_eq_ok hbindings
  obtain ⟨_, hbound, _⟩ := bind_eq_ok hbindings
  unfold validateResourceCoverage at hcoverage
  obtain ⟨_, hleased, _⟩ := bind_eq_ok hcoverage
  have hbound : frame.deviceId ∈ request.deviceProfiles.map (·.deviceId) := by
    have hall := reject_eq_ok hbound
    simp only [any_eq_true, decide_eq_true_eq, not_exists, not_and, not_not] at hall
    exact hall _ (hdevices ▸ mem_map_of_mem hframe)
  have hleased : (⟨request.receiverId, request.generationId, frame.deviceId, .lighting⟩ : ResourceKey) ∈
      request.resources := by
    have hall := reject_eq_ok hleased
    simp only [any_eq_true, decide_eq_true_eq, not_exists, not_and, not_not] at hall
    exact hall frame hframe
  obtain ⟨profile, hprofile, hsame⟩ := mem_map.mp hbound
  have hprofiles : (request.deviceProfiles.find? (·.deviceId = frame.deviceId)).isSome :=
    find?_isSome.mpr ⟨profile, hprofile, decide_eq_true hsame⟩
  have hresources : (request.resources.find? (·.deviceId = frame.deviceId)).isSome :=
    find?_isSome.mpr ⟨_, hleased, decide_eq_true rfl⟩
  obtain ⟨found, hfound⟩ := Option.isSome_iff_exists.mp hprofiles
  obtain ⟨resource, hresource⟩ := Option.isSome_iff_exists.mp hresources
  unfold desiredFrame
  rw [hfound, hresource]
  exact ⟨_, rfl⟩

/-- A valid request is captured as long as revisions last. -/
theorem captureAdmitted_ok (submission : SubmissionBinding) (hvalid : validateTransaction request = .ok ())
    (hrevision : registry.nextRevision + 1 ≤ u64Max) :
    ∃ capture after, captureAdmitted request submission registry = .ok capture after := by
  have hfollowing : registry.followingRevision = .ok (registry.nextRevision + 1) := if_pos hrevision
  have hreturns : Holds (captureAdmitted request submission) registry (fun _ _ => True) (fun _ _ => False) := by
    unfold captureAdmitted
    rw [holds_bind, holds_get]
    split
    · trivial
    next hclass =>
      simp only [holds_bind, holds_lift, hfollowing]
      refine ⟨fun _ _ => ⟨fun _ _ => ⟨fun _ _ => trivial, fun error herror => ?_⟩, fun _ h => (by cases h)⟩,
        fun error herror => ?_⟩
      · obtain ⟨frame, hframe, hfailed⟩ := mapM_error herror
        obtain ⟨entry, hentry⟩ := desiredFrame_ok hvalid registry.nextRevision hframe
        cases hentry.symm.trans hfailed
      · unfold validateAdmission at herror
        rw [if_neg hclass, hvalid, hfollowing] at herror
        cases herror
  cases hrun : captureAdmitted request submission registry with
  | ok capture after => exact ⟨capture, after, rfl⟩
  | error => exact ((holds_of_error hrun).mp hreturns).elim

theorem new_kept {capacity : Nat} {start : VolatileEffectRegistry} (h : new capacity = .ok start) :
    Kept capacity [] start := by
  unfold new at h
  split at h
  · cases h
    have hempty : ∀ (key : EffectFrameKey) (desired : DesiredEffectFrame),
        (∅ : Std.TreeMap EffectFrameKey DesiredEffectFrame)[key]? ≠ some desired := by
      intro key desired
      simp
    exact ⟨rfl, by simp, fun key desired h => absurd h (hempty key desired),
      fun key desired h => absurd h (hempty key desired)⟩
  · cases h

/-- After any run the registry is within its capacity and keeps the newest frame of each device: what a
run records last stays until a call drops it, and then it is gone. A valid request is captured and evicts
the oldest revisions only, an operation that fails changes nothing, and every entry replays as a valid
request. -/
theorem effect_registry_runs {capacity : Nat} {start : VolatileEffectRegistry}
    (hstart : new capacity = .ok start) (ops : List RegistryOp) :
    (start.runs ops).entries.size ≤ capacity ∧
      (∀ (op : RegistryOp) error after, op.run (start.runs ops) = .error error after → after = start.runs ops) ∧
      (∀ (key : EffectFrameKey) (desired : DesiredEffectFrame), (start.runs ops).entries[key]? = some desired →
        latest (start.recordLog ops) key = some desired) ∧
      (∀ more key, (start.runs ops).spared key more = true → (start.runs (ops ++ more)).entries[key]? =
        (latest ((start.runs ops).recordLog more) key).or (start.runs ops).entries[key]?) ∧
      (∀ op key, (start.runs ops).drops key op = true → (start.runs (ops ++ [op])).entries[key]? = none) ∧
      (∀ request submission, validateTransaction request = .ok () → (start.runs ops).nextRevision + 1 ≤ u64Max →
        ∃ capture after, captureAdmitted request submission (start.runs ops) = .ok capture after) ∧
      (∀ request submission capture after, request.transactionClass = .effectFrame →
        captureAdmitted request submission (start.runs ops) = .ok capture after →
        ∃ staged, request.frames.mapM
            (desiredFrame request submission (start.runs ops).nextRevision) = .ok staged ∧
          Evicts ((start.runs ops).recorded staged) capture.evicted after) ∧
      ∀ (key : EffectFrameKey) (desired : DesiredEffectFrame) requestId transactionId dispatchNonce deadlineMs,
        (start.runs ops).entries[key]? = some desired →
        ∃ replay, (start.runs ops).planReplay key requestId transactionId dispatchNonce deadlineMs =
            .ok (some replay) ∧
          validateTransaction replay.request = .ok () ∧ replay.request.requestId = requestId ∧
          replay.request.transactionId = transactionId ∧
          replay.request.frames.map (·.colors) = [desired.frame.colors] ∧
          replay.request.frames.map (·.deviceId) = [key.deviceId] := by
  have hkept := runs_kept ops (new_kept hstart)
  rw [nil_append] at hkept
  have hruns : ∀ more, start.runs (ops ++ more) = (start.runs ops).runs more := fun more => foldl_append
  refine ⟨hkept.bounded, fun op error after hrun => ?_, hkept.latest, fun more key hspared => ?_,
    fun op key hdrops => ?_, fun request submission hvalid hrevision => captureAdmitted_ok submission hvalid hrevision,
    fun request submission capture after hclass hrun => ?_, fun key desired _ _ _ _ hentry => ?_⟩
  · exact (holds_error (RegistryOp.run_kept op hkept) hrun).1
  · rw [hruns]
    exact runs_newest more hkept hspared
  · rw [hruns]
    exact (RegistryOp.run_stepped op hkept).gone key hdrops
  · obtain ⟨staged, hstaged, _, _, hevicts⟩ := (holds_ok (captureAdmitted_holds request submission) hrun).2 hclass
    exact ⟨staged, hstaged, hevicts⟩
  · exact planReplay_valid hentry (hkept.replayable key desired hentry) _ _ _ _

/-- The frame of the sample request in another colour. -/
def redEffect : TransactionRequest :=
  { sampleRequest with frames := [⟨sampleResource.deviceId, .lit 0, [⟨.lit 255, .lit 0, .lit 0⟩]⟩] }

def sampleEffectKey : EffectFrameKey := ⟨sampleRequest.receiverId, sampleRequest.generationId, sampleResource.deviceId⟩

def sampleEffects : List RegistryOp :=
  [.captureAdmitted sampleRequest sampleBinding, .captureAdmitted redEffect sampleBinding,
    .removeLease (.lit "other")]

/-- The second frame of a device replaces the first and outlives the release of another lease; the
release of its own lease drops it. -/
theorem effect_registry_runs_sample :
    let start : VolatileEffectRegistry := ⟨1, 1, ∅⟩
    ((start.runs sampleEffects).entries[sampleEffectKey]?).map (·.frame) = redEffect.frames.head? ∧
    (start.runs (sampleEffects ++ [.removeLease sampleRequest.leaseId])).entries[sampleEffectKey]? = none := by
  intro start
  have hnew : new 1 = .ok start := rfl
  obtain ⟨-, -, -, hnewest, -⟩ := effect_registry_runs hnew []
  obtain ⟨-, -, -, -, hgone, -⟩ := effect_registry_runs hnew sampleEffects
  refine ⟨?_, hgone _ _ (by decide +kernel)⟩
  have hkept := hnewest sampleEffects sampleEffectKey (by decide +kernel)
  rw [nil_append] at hkept
  rw [hkept]
  decide +kernel

end VolatileEffectRegistry

end HyperfluxNext
