import HyperfluxNext.Core.CoordinatorRuns

namespace HyperfluxNext

open ResourceKey LeaseManager Std.TreeMap Procedure

instance : Std.TransOrd ResourceKey :=
  inferInstanceAs (Std.TransCmp (compareLex (compareOn receiverId) (compareLex
    (compareOn generationId) (compareLex (compareOn deviceId) (compareOn (ResourceKind.rank ∘ kind))))))

instance : Std.LawfulEqOrd ResourceKey where
  eq_of_compare {a b} h := by
    have hlex : (compareLex (compareOn receiverId) (compareLex
        (compareOn generationId) (compareLex (compareOn deviceId)
          (compareOn (ResourceKind.rank ∘ kind))))) a b = .eq := h
    simp only [compareLex_eq_eq, compareOn, Std.LawfulEqCmp.compare_eq_iff_eq, Function.comp_apply] at hlex
    obtain ⟨hreceiver, hgeneration, hdevice, hkind⟩ := hlex
    have hkind := ResourceKind.rank_injective hkind
    cases a
    cases b
    simp_all

/-- One owned resource, as the state snapshot lists it. -/
structure ResourceOwnershipSnapshot where
  resource : ResourceKey
  clientId : ClientId
  leaseId : LeaseId
  expiresAtMs : MonotonicMs

namespace LeaseManager

/-- Moves the expiry of a lease. -/
def prolong (manager : LeaseManager) (grant : LeaseGrant) (leaseId : LeaseId)
    (expiresAtMs : MonotonicMs) : LeaseManager :=
  { manager with
    leases := manager.leases.insert leaseId { grant with expiresAtMs := expiresAtMs, state := .renewed } }

def renewRequestDecision (request : RenewLeaseRequest) (now : MonotonicMs) : LeaseM LeaseDecision := do
  modify fun manager => (manager.expire now).2
  let manager ← get
  match manager.replayed (request.clientId, request.requestId) (.renew request) with
  | some answer => lift id answer
  | none =>
    match manager.leases[request.leaseId]? with
    | none => throw .unknownLease
    | some grant =>
      refuse (grant.clientId ≠ request.clientId) .notOwner
      let expiresAtMs ← lift id (expiresAt now request.durationMs)
      reserveHistorySlot
      modify fun manager => manager.prolong grant request.leaseId expiresAtMs
      let renewed : LeaseGrant := { grant with expiresAtMs := expiresAtMs, state := .renewed }
      remember ⟨(request.clientId, request.requestId), .renew request, .granted renewed, some request.leaseId⟩
      pure ⟨.granted renewed, true, false⟩

def renewRequest (request : RenewLeaseRequest) (now : MonotonicMs) : LeaseM LeaseResult := do
  let decision ← renewRequestDecision request now
  pure decision.result

def releaseRequestDecision (request : ReleaseLeaseRequest) (now : MonotonicMs) : LeaseM LeaseDecision := do
  modify fun manager => (manager.expire now).2
  let manager ← get
  match manager.replayed (request.clientId, request.requestId) (.release request) with
  | some answer => lift id answer
  | none =>
    match manager.leases[request.leaseId]? with
    | none => throw .unknownLease
    | some grant =>
      refuse (grant.clientId ≠ request.clientId) .notOwner
      reserveHistorySlot
      modify fun manager => (manager.removeLease request.leaseId).2
      let released : LeaseGrant := { grant with state := .released }
      remember ⟨(request.clientId, request.requestId), .release request, .granted released, none⟩
      pure ⟨.granted released, true, false⟩

def releaseRequest (request : ReleaseLeaseRequest) (now : MonotonicMs) : LeaseM LeaseResult := do
  let decision ← releaseRequestDecision request now
  pure decision.result

/-- Renews a currently owned lease without changing its resource set. -/
def renew (clientId : ClientId) (leaseId : LeaseId) (durationMs : LeaseDurationMs)
    (now : MonotonicMs) : LeaseM LeaseGrant := do
  modify fun manager => (manager.expire now).2
  let manager ← get
  match manager.leases[leaseId]? with
  | none => throw .unknownLease
  | some grant =>
    refuse (grant.clientId ≠ clientId) .notOwner
    let expiresAtMs ← lift id (expiresAt now durationMs)
    set (manager.prolong grant leaseId expiresAtMs)
    pure { grant with expiresAtMs := expiresAtMs, state := .renewed }

def ownershipSnapshot (manager : LeaseManager) (receiverId : ReceiverId)
    (generationId : GenerationId) (now : MonotonicMs) :
    List ResourceOwnershipSnapshot × LeaseManager :=
  let manager := (manager.expire now).2
  ((manager.owners.toList.filter fun (resource, _) =>
      resource.receiverId = receiverId ∧ resource.generationId = generationId).filterMap
    fun (resource, leaseId) => manager.leases[leaseId]?.map fun grant =>
      ⟨resource, grant.clientId, grant.leaseId, grant.expiresAtMs⟩, manager)

end LeaseManager

/-- The calls that change a lease manager, with their arguments. -/
inductive LeaseCall where
  | acquire (request : LeaseRequest) (leaseId : LeaseId) (now : MonotonicMs)
  | acquireDecision (request : LeaseRequest) (leaseId : LeaseId) (now : MonotonicMs)
  | renew (clientId : ClientId) (leaseId : LeaseId) (durationMs : LeaseDurationMs) (now : MonotonicMs)
  | renewRequest (request : RenewLeaseRequest) (now : MonotonicMs)
  | renewRequestDecision (request : RenewLeaseRequest) (now : MonotonicMs)
  | release (clientId : ClientId) (leaseId : LeaseId) (now : MonotonicMs)
  | releaseRequest (request : ReleaseLeaseRequest) (now : MonotonicMs)
  | releaseRequestDecision (request : ReleaseLeaseRequest) (now : MonotonicMs)
  | releaseClient (clientId : ClientId)
  | invalidateGeneration (receiverId : ReceiverId) (generationId : GenerationId)
  | expire (now : MonotonicMs)
  | ownershipSnapshot (receiverId : ReceiverId) (generationId : GenerationId) (now : MonotonicMs)

def LeaseCall.run (call : LeaseCall) (manager : LeaseManager) : LeaseManager :=
  match call with
  | .acquire request leaseId now => final (LeaseManager.acquire request leaseId now) manager
  | .acquireDecision request leaseId now => final (LeaseManager.acquireDecision request leaseId now) manager
  | .renew clientId leaseId durationMs now => final (LeaseManager.renew clientId leaseId durationMs now) manager
  | .renewRequest request now => final (LeaseManager.renewRequest request now) manager
  | .renewRequestDecision request now => final (LeaseManager.renewRequestDecision request now) manager
  | .release clientId leaseId now => final (LeaseManager.release clientId leaseId now) manager
  | .releaseRequest request now => final (LeaseManager.releaseRequest request now) manager
  | .releaseRequestDecision request now => final (LeaseManager.releaseRequestDecision request now) manager
  | .releaseClient clientId => (manager.releaseClient clientId).2
  | .invalidateGeneration receiverId generationId => (manager.invalidateGeneration receiverId generationId).2
  | .expire now => (manager.expire now).2
  | .ownershipSnapshot receiverId generationId now => (manager.ownershipSnapshot receiverId generationId now).2

inductive LeaseReach : LeaseManager → Prop
  | new {maxLeases maxHistory : Nat} {manager : LeaseManager}
      (h : new maxLeases maxHistory = .ok manager) : LeaseReach manager
  | step {manager : LeaseManager} (h : LeaseReach manager) (call : LeaseCall) : LeaseReach (call.run manager)

namespace LeaseManager

/-- The ownership index lists every resource of every lease, and nothing else. -/
def Indexed (manager : LeaseManager) : Prop :=
  ∀ (resource : ResourceKey) (leaseId : LeaseId), manager.owners[resource]? = some leaseId ↔
    ∃ grant, manager.leases[leaseId]? = some grant ∧ resource ∈ grant.resources

def Exclusive (manager : LeaseManager) : Prop :=
  ∀ (leaseId leaseId' : LeaseId) (grant grant' : LeaseGrant),
    manager.leases[leaseId]? = some grant → manager.leases[leaseId']? = some grant' →
      leaseId ≠ leaseId' → ∀ resource ∈ grant.resources, ∀ resource' ∈ grant'.resources,
        resourcesConflict resource resource' = false

structure Consistent (manager : LeaseManager) : Prop where
  indexed : Indexed manager
  exclusive : Exclusive manager

theorem Consistent.congr {before after : LeaseManager} (h : Consistent before)
    (hleases : after.leases = before.leases) (howners : after.owners = before.owners) :
    Consistent after := by
  constructor
  · intro resource leaseId
    rw [hleases, howners]
    exact h.indexed resource leaseId
  unfold Exclusive
  rw [hleases]
  exact h.exclusive

variable (resources : List ResourceKey)

theorem getElem?_foldl_erase (owners : Std.TreeMap ResourceKey LeaseId) (resource : ResourceKey) :
    (resources.foldl (fun owners resource => owners.erase resource) owners)[resource]? =
      if resource ∈ resources then none else owners[resource]? := by
  induction resources generalizing owners with
  | nil => simp
  | cons head rest ih =>
    rw [List.foldl_cons, ih, getElem?_erase]
    by_cases hrest : resource ∈ rest
    · simp [hrest]
    by_cases hhead : head = resource
    · simp [hhead]
    have hne : compare head resource ≠ .eq := fun heq => hhead (Std.LawfulEqCmp.compare_eq_iff_eq.mp heq)
    simp [hrest, hne, Ne.symm hhead]

theorem getElem?_foldl_insert (leaseId : LeaseId) (owners : Std.TreeMap ResourceKey LeaseId)
    (resource : ResourceKey) :
    (resources.foldl (fun owners resource => owners.insert resource leaseId) owners)[resource]? =
      if resource ∈ resources then some leaseId else owners[resource]? := by
  induction resources generalizing owners with
  | nil => simp
  | cons head rest ih =>
    rw [List.foldl_cons, ih, getElem?_insert]
    by_cases hrest : resource ∈ rest
    · simp [hrest]
    by_cases hhead : head = resource
    · simp [hhead]
    have hne : compare head resource ≠ .eq := fun heq => hhead (Std.LawfulEqCmp.compare_eq_iff_eq.mp heq)
    simp [hrest, hne, Ne.symm hhead]

variable {leaseId id : LeaseId} {grant : LeaseGrant} {manager : LeaseManager} {resource : ResourceKey}

theorem getElem?_insert_eq {leases : Std.TreeMap LeaseId LeaseGrant} :
    (leases.insert leaseId grant)[id]? = if leaseId = id then some grant else leases[id]? := by
  rw [getElem?_insert]
  by_cases heq : leaseId = id
  · simp [heq]
  have hne : compare leaseId id ≠ .eq := fun hcmp => heq (Std.LawfulEqCmp.compare_eq_iff_eq.mp hcmp)
  rw [if_neg hne, if_neg heq]

/-- Two leases never hold the same resource. -/
theorem Indexed.apart (h : Indexed manager) {leaseId' : LeaseId} {grant' : LeaseGrant}
    (hgrant : manager.leases[leaseId]? = some grant) (hgrant' : manager.leases[leaseId']? = some grant')
    (hmem : resource ∈ grant.resources) (hmem' : resource ∈ grant'.resources) :
    leaseId = leaseId' := by
  have howner := (h resource leaseId).mpr ⟨grant, hgrant, hmem⟩
  have howner' := (h resource leaseId').mpr ⟨grant', hgrant', hmem'⟩
  rw [howner] at howner'
  exact Option.some.inj howner'

theorem getElem?_removeLease :
    (manager.removeLease leaseId).2.leases[id]? =
      if leaseId = id then none else manager.leases[id]? := by
  unfold removeLease
  split
  next hnone =>
    by_cases heq : leaseId = id
    · rw [if_pos heq, ← heq]
      exact hnone
    · rw [if_neg heq]
  rw [getElem?_erase]
  by_cases heq : leaseId = id
  · simp [heq]
  have hne : compare leaseId id ≠ .eq := fun hcmp => heq (Std.LawfulEqCmp.compare_eq_iff_eq.mp hcmp)
  rw [if_neg hne, if_neg heq]

theorem removeLease_consistent (h : Consistent manager) (leaseId : LeaseId)
    : Consistent (manager.removeLease leaseId).2 := by
  constructor
  · intro resource id
    simp only [getElem?_removeLease]
    cases hgrant : manager.leases[leaseId]? with
    | none =>
      have howners : (manager.removeLease leaseId).2.owners = manager.owners := by
        simp only [removeLease, hgrant]
      rw [howners, h.indexed resource id]
      by_cases heq : leaseId = id
      · simp [← heq, hgrant]
      · simp [heq]
    | some grant =>
      have howners : (manager.removeLease leaseId).2.owners =
          grant.resources.foldl (fun owners resource => owners.erase resource) manager.owners := by
        simp only [removeLease, hgrant]
      rw [howners, getElem?_foldl_erase]
      by_cases hmem : resource ∈ grant.resources
      · rw [if_pos hmem]
        constructor
        · intro hnone
          cases hnone
        rintro ⟨other, hother, hmem'⟩
        split at hother
        · cases hother
        next hne => exact absurd (h.indexed.apart hgrant hother hmem hmem') hne
      rw [if_neg hmem, h.indexed resource id]
      by_cases heq : leaseId = id
      · subst heq
        simp [hgrant, hmem]
      · simp [heq]
  · intro id id' grant grant' hgrant hgrant' hne
    exact h.exclusive id id' grant grant' (removeLease_shrinks _ _ _ _ hgrant)
      (removeLease_shrinks _ _ _ _ hgrant') hne

theorem removeLeases_consistent (h : Consistent manager) (state : LeaseState) (leaseIds : List LeaseId) :
    Consistent (manager.removeLeases state leaseIds).2 := by
  induction leaseIds generalizing manager with
  | nil => exact h
  | cons id leaseIds ih => exact ih (removeLease_consistent h id)

theorem expire_consistent (h : Consistent manager) (now : MonotonicMs) : Consistent (manager.expire now).2 :=
  removeLeases_consistent h _ _

theorem prolong_consistent (h : Consistent manager) (hgrant : manager.leases[leaseId]? = some grant)
    (expiresAtMs : MonotonicMs) : Consistent (manager.prolong grant leaseId expiresAtMs) := by
  -- The prolonged grant holds what the old one held.
  have hback : ∀ (id : LeaseId) (after : LeaseGrant),
      (manager.prolong grant leaseId expiresAtMs).leases[id]? = some after →
      ∃ before : LeaseGrant, manager.leases[id]? = some before ∧ before.resources = after.resources := by
    intro id after hafter
    simp only [prolong, getElem?_insert_eq] at hafter
    split at hafter
    next heq =>
      cases hafter
      exact ⟨grant, heq ▸ hgrant, rfl⟩
    · exact ⟨after, hafter, rfl⟩
  have hforth : ∀ (id : LeaseId) (before : LeaseGrant), manager.leases[id]? = some before →
      ∃ after : LeaseGrant, (manager.prolong grant leaseId expiresAtMs).leases[id]? = some after ∧
        after.resources = before.resources := by
    intro id before hbefore
    simp only [prolong, getElem?_insert_eq]
    by_cases heq : leaseId = id
    · rw [← heq, hgrant] at hbefore
      cases hbefore
      exact ⟨_, if_pos heq, rfl⟩
    · exact ⟨before, (if_neg heq).trans hbefore, rfl⟩
  constructor
  · intro resource id
    show manager.owners[resource]? = some id ↔ _
    rw [h.indexed resource id]
    constructor
    · rintro ⟨before, hbefore, hmem⟩
      obtain ⟨after, hafter, heq⟩ := hforth id before hbefore
      exact ⟨after, hafter, heq ▸ hmem⟩
    rintro ⟨after, hafter, hmem⟩
    obtain ⟨before, hbefore, heq⟩ := hback id after hafter
    exact ⟨before, hbefore, heq ▸ hmem⟩
  intro id id' after after' hafter hafter' hne resource hmem resource' hmem'
  obtain ⟨before, hbefore, heq⟩ := hback id after hafter
  obtain ⟨before', hbefore', heq'⟩ := hback id' after' hafter'
  exact h.exclusive id id' before before' hbefore hbefore' hne resource (heq ▸ hmem) resource' (heq' ▸ hmem')

theorem conflictOf_eq_none (h : Indexed manager) (hnone : manager.conflictOf resource = none)
    (hgrant : manager.leases[leaseId]? = some grant) {owned : ResourceKey} (howned : owned ∈ grant.resources)
    : resourcesConflict resource owned = false := by
  unfold conflictOf at hnone
  split at hnone
  next hfind =>
    have howner := (h owned leaseId).mpr ⟨grant, hgrant, howned⟩
    have hlisted := mem_toList_iff_getElem?_eq_some.mpr howner
    simpa using List.find?_eq_none.mp hfind _ hlisted
  next first id hfind =>
    have hlisted := mem_toList_iff_getElem?_eq_some.mp (List.mem_of_find?_eq_some hfind)
    obtain ⟨other, hother, _⟩ := (h first id).mp hlisted
    rw [hother] at hnone
    cases hnone

theorem resourcesConflict_comm (resource owned : ResourceKey) :
    resourcesConflict resource owned = resourcesConflict owned resource := by
  unfold resourcesConflict
  congr 1
  apply propext
  constructor
  · rintro ⟨hreceiver, hgeneration, hdevice, hkind⟩
    refine ⟨hreceiver.symm, hgeneration.symm, hdevice.symm, ?_⟩
    rcases hkind with hkind | hkind | hkind
    · exact .inl hkind.symm
    · exact .inr (.inr hkind)
    · exact .inr (.inl hkind)
  rintro ⟨hreceiver, hgeneration, hdevice, hkind⟩
  refine ⟨hreceiver.symm, hgeneration.symm, hdevice.symm, ?_⟩
  rcases hkind with hkind | hkind | hkind
  · exact .inl hkind.symm
  · exact .inr (.inr hkind)
  · exact .inr (.inl hkind)

theorem Consistent.insert (h : Consistent manager) (hnew : manager.leases[leaseId]? = none)
    (hfree : ∀ resource ∈ grant.resources, manager.conflictOf resource = none) :
    Consistent { manager with
      owners := grant.resources.foldl (fun owners resource => owners.insert resource leaseId) manager.owners
      leases := manager.leases.insert leaseId grant } := by
  constructor
  · intro resource id
    simp only [getElem?_foldl_insert, getElem?_insert_eq]
    by_cases hmem : resource ∈ grant.resources
    · rw [if_pos hmem]
      constructor
      · intro heq
        cases heq
        exact ⟨grant, if_pos rfl, hmem⟩
      rintro ⟨other, hother, hmem'⟩
      split at hother
      next heq => rw [heq]
      have hconflict := conflictOf_eq_none h.indexed (hfree resource hmem) hother hmem'
      simp [resourcesConflict] at hconflict
    rw [if_neg hmem, h.indexed resource id]
    by_cases heq : leaseId = id
    · subst heq
      simp [hnew, hmem]
    · simp [heq]
  · intro id id' after after' hafter hafter' hne resource hmem resource' hmem'
    simp only [getElem?_insert_eq] at hafter hafter'
    split at hafter
    next heq =>
      cases hafter
      split at hafter'
      next heq' => exact absurd (heq.symm.trans heq') hne
      · exact conflictOf_eq_none h.indexed (hfree resource hmem) hafter' hmem'
    split at hafter'
    · cases hafter'
      rw [resourcesConflict_comm]
      exact conflictOf_eq_none h.indexed (hfree resource' hmem') hafter hmem
    · exact h.exclusive id id' after after' hafter hafter' hne resource hmem resource' hmem'

/-- Making room in the request history leaves the leases and their index alone. -/
theorem reserveHistorySlotLoop_keeps (rounds : Nat) :
    Ensures (reserveHistorySlotLoop rounds) manager
      (fun manager' => manager'.leases = manager.leases ∧ manager'.owners = manager.owners) := by
  induction rounds generalizing manager with
  | zero => exact ⟨rfl, rfl⟩
  | succ rounds ih =>
    simp only [reserveHistorySlotLoop, holds_do]
    split
    · split
      · exact ⟨rfl, rfl⟩
      simp only [holds_do]
      exact ih
    · exact ⟨rfl, rfl⟩

theorem reserveHistorySlot_keeps :
    Ensures reserveHistorySlot manager
      (fun manager' => manager'.leases = manager.leases ∧ manager'.owners = manager.owners) := by
  simp only [reserveHistorySlot, holds_do]
  exact reserveHistorySlotLoop_keeps _

theorem acquireDecision_consistent (h : Consistent manager) (request : LeaseRequest) (leaseId : LeaseId)
    (now : MonotonicMs) :
    Ensures (acquireDecision request leaseId now) manager Consistent := by
  have hexpired := expire_consistent h now
  simp only [acquireDecision, holds_do]
  refine ⟨fun _ _ => ?_, fun _ _ => hexpired⟩
  split
  · exact holds_lift.mpr ⟨fun _ _ => hexpired, fun _ _ => hexpired⟩
  split
  · simp only [holds_do, remember]
    exact holds_mono reserveHistorySlot_keeps (fun _ _ hkeeps => hexpired.congr hkeeps.1 hkeeps.2)
      (fun _ _ hkeeps => hexpired.congr hkeeps.1 hkeeps.2)
  next hfree =>
    have hfree := List.findSome?_eq_none_iff.mp hfree
    simp only [grantLease, holds_do, remember]
    refine ⟨fun _ => hexpired, fun hroom => ?_⟩
    have hnew : (manager.expire now).2.leases[leaseId]? = none := by
      simp only [not_or] at hroom
      exact getElem?_eq_none hroom.1
    refine holds_mono reserveHistorySlot_keeps (fun _ after hkeeps => ?_)
      (fun _ _ hkeeps => hexpired.congr hkeeps.1 hkeeps.2)
    have hkept : Consistent after := hexpired.congr hkeeps.1 hkeeps.2
    refine ⟨fun expiresAtMs _ => ?_, fun _ _ => hkept⟩
    have hfree' : ∀ resource ∈ request.resources, after.conflictOf resource = none := by
      intro resource hmem
      have hnone := hfree resource hmem
      unfold conflictOf at hnone ⊢
      rw [hkeeps.1, hkeeps.2]
      exact hnone
    have hnew' : after.leases[leaseId]? = none := by
      rw [hkeeps.1]
      exact hnew
    have hinserted := Consistent.insert hkept hnew'
      (show ∀ resource ∈ (⟨leaseId, request.clientId, request.resources, expiresAtMs,
        .granted⟩ : LeaseGrant).resources, _ from hfree')
    exact hinserted.congr rfl rfl

theorem renewRequestDecision_consistent (h : Consistent manager) (request : RenewLeaseRequest)
    (now : MonotonicMs) :
    Ensures (renewRequestDecision request now) manager Consistent := by
  have hexpired := expire_consistent h now
  simp only [renewRequestDecision, holds_do]
  split
  · exact holds_lift.mpr ⟨fun _ _ => hexpired, fun _ _ => hexpired⟩
  split
  · exact hexpired
  next grant hgrant =>
    simp only [holds_do, remember]
    refine ⟨fun _ => hexpired, fun _ => ⟨fun expiresAtMs _ => ?_, fun _ _ => hexpired⟩⟩
    refine holds_mono reserveHistorySlot_keeps (fun _ after hkeeps => ?_)
      (fun _ _ hkeeps => hexpired.congr hkeeps.1 hkeeps.2)
    have hkept : Consistent after := hexpired.congr hkeeps.1 hkeeps.2
    have hprolonged := prolong_consistent hkept (hkeeps.1 ▸ hgrant) expiresAtMs
    exact hprolonged.congr rfl rfl

theorem releaseRequestDecision_consistent (h : Consistent manager) (request : ReleaseLeaseRequest)
    (now : MonotonicMs) :
    Ensures (releaseRequestDecision request now) manager Consistent := by
  have hexpired := expire_consistent h now
  simp only [releaseRequestDecision, holds_do]
  split
  · exact holds_lift.mpr ⟨fun _ _ => hexpired, fun _ _ => hexpired⟩
  split
  · exact hexpired
  simp only [holds_do, remember]
  refine ⟨fun _ => hexpired, fun _ => ?_⟩
  refine holds_mono reserveHistorySlot_keeps (fun _ after hkeeps => ?_)
    (fun _ _ hkeeps => hexpired.congr hkeeps.1 hkeeps.2)
  have hkept : Consistent after := hexpired.congr hkeeps.1 hkeeps.2
  exact (removeLease_consistent hkept request.leaseId).congr rfl rfl

theorem renew_consistent (h : Consistent manager) (clientId : ClientId) (leaseId : LeaseId)
    (durationMs : LeaseDurationMs) (now : MonotonicMs) :
    Ensures (renew clientId leaseId durationMs now) manager Consistent := by
  have hexpired := expire_consistent h now
  simp only [renew, holds_do]
  split
  · exact hexpired
  next grant hgrant =>
    simp only [holds_do]
    refine ⟨fun _ => hexpired, fun _ => ⟨fun expiresAtMs _ => ?_, fun _ _ => hexpired⟩⟩
    exact prolong_consistent hexpired hgrant expiresAtMs

theorem release_consistent (h : Consistent manager) (clientId : ClientId) (leaseId : LeaseId) (now : MonotonicMs) :
    Ensures (release clientId leaseId now) manager Consistent := by
  have hexpired := expire_consistent h now
  simp only [release, holds_do]
  split
  · exact hexpired
  simp only [holds_do]
  exact ⟨fun _ => hexpired, fun _ => removeLease_consistent hexpired leaseId⟩

/-- The result of a decision does not change the state it leaves. -/
theorem holds_result {decision : LeaseM LeaseDecision}
    (h : Ensures decision manager Consistent) :
    Consistent (final (do let decision ← decision; pure decision.result) manager) := by
  apply holds_final
  rw [holds_bind]
  exact h

end LeaseManager

open LeaseManager

theorem LeaseCall.run_consistent {manager : LeaseManager} (h : Consistent manager)
    (call : LeaseCall) : Consistent (call.run manager) := by
  cases call with
  | acquire request leaseId now => exact holds_result (acquireDecision_consistent h request leaseId now)
  | acquireDecision request leaseId now => exact holds_final (acquireDecision_consistent h request leaseId now)
  | renew clientId leaseId durationMs now =>
    exact holds_final (renew_consistent h clientId leaseId durationMs now)
  | renewRequest request now => exact holds_result (renewRequestDecision_consistent h request now)
  | renewRequestDecision request now => exact holds_final (renewRequestDecision_consistent h request now)
  | release clientId leaseId now => exact holds_final (release_consistent h clientId leaseId now)
  | releaseRequest request now => exact holds_result (releaseRequestDecision_consistent h request now)
  | releaseRequestDecision request now => exact holds_final (releaseRequestDecision_consistent h request now)
  | releaseClient clientId => exact removeLeases_consistent h _ _
  | invalidateGeneration receiverId generationId => exact removeLeases_consistent h _ _
  | expire now | ownershipSnapshot receiverId generationId now => exact expire_consistent h now

/-- Lease authority is exclusive in every state a run comes through. -/
theorem leaseReach_consistent {manager : LeaseManager} (h : LeaseReach manager) : Consistent manager := by
  induction h with
  | new hnew =>
    unfold new at hnew
    split at hnew
    · cases hnew
    cases hnew
    constructor
    · intro resource leaseId
      simp
    intro leaseId leaseId' grant grant' hgrant
    simp at hgrant
  | step _ call ih => exact call.run_consistent ih

def sampleManager : LeaseManager := ⟨2, 2, ∅, ∅, []⟩

def sampleAcquire (requestId : RequestId) (leaseId : LeaseId) (kind : ResourceKind) : LeaseCall :=
  .acquire ⟨requestId, sampleRequest.clientId, [{ sampleResource with kind := kind }],
    .lit 1000⟩ leaseId (.lit 0)

/-- Native control of the device is refused while its lighting is leased. -/
theorem leaseReach_consistent_sample :
    let first := (sampleAcquire (.lit "first") (.lit "lease-1")
      .lighting).run sampleManager
    let second := (sampleAcquire (.lit "second") (.lit "lease-2")
      .nativeControl).run first
    second.leases.size = 1 ∧ second.history.length = 2 ∧ Consistent second := by
  intro first second
  have hreach : LeaseReach second :=
    .step (.step (.new (show LeaseManager.new 2 2 = .ok sampleManager from rfl)) _) _
  have hsize : second.leases.size = 1 := by decide +kernel
  have hhistory : second.history.length = 2 := by decide +kernel
  exact ⟨hsize, hhistory, leaseReach_consistent hreach⟩

end HyperfluxNext
