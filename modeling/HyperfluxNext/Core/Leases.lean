import Std.Data.TreeMap
import HyperfluxNext.Protocol.Validation

namespace HyperfluxNext

open Procedure

inductive LeaseOperation where
  | acquire (request : LeaseRequest)
  | renew (request : RenewLeaseRequest)
  | release (request : ReleaseLeaseRequest)
deriving DecidableEq

structure RequestRecord where
  key : ClientId × RequestId
  request : LeaseOperation
  result : LeaseResult
  pinnedLease : Option LeaseId

def resourcesConflict (requested owned : ResourceKey) : Bool :=
  requested.receiverId = owned.receiverId ∧ requested.generationId = owned.generationId ∧
    requested.deviceId = owned.deviceId ∧
    (requested.kind = owned.kind ∨ requested.kind = .nativeControl ∨ owned.kind = .nativeControl)

structure LeaseDecision where
  result : LeaseResult
  changed : Bool
  replayed : Bool
deriving DecidableEq

inductive LeaseManagerError where
  | invalidCapacity
  | invalidRequest (error : ProtocolValidationError)
  | requestIdReused | leaseCapacity | historyCapacity | clockOverflow | unknownLease | notOwner
deriving DecidableEq

/-- Bounded write authority for receiver resources. -/
structure LeaseManager where
  maxLeases : Nat
  maxHistory : Nat
  leases : Std.TreeMap LeaseId LeaseGrant
  owners : Std.TreeMap ResourceKey LeaseId
  history : List RequestRecord

abbrev LeaseM := EStateM LeaseManagerError LeaseManager

def LeaseManager.new (maxLeases maxHistory : Nat) : Except LeaseManagerError LeaseManager :=
  if maxLeases = 0 ∨ maxHistory < maxLeases then
    .error .invalidCapacity
  else
    .ok ⟨maxLeases, maxHistory, ∅, ∅, []⟩

namespace LeaseManager

def removeLease (manager : LeaseManager) (leaseId : LeaseId) : Option LeaseGrant × LeaseManager :=
  match manager.leases[leaseId]? with
  | none => (none, manager)
  | some grant =>
    (some grant, { manager with
      leases := manager.leases.erase leaseId
      owners := grant.resources.foldl (fun owners resource => owners.erase resource) manager.owners
      history := manager.history.map fun record =>
        if record.pinnedLease = some leaseId then { record with pinnedLease := none } else record })

/-- Removes several leases in order and returns their grants in the given final state. -/
def removeLeases (manager : LeaseManager) (state : LeaseState) : List LeaseId → List LeaseGrant × LeaseManager
  | [] => ([], manager)
  | id :: ids =>
    let (grant, manager) := manager.removeLease id
    let (grants, manager) := manager.removeLeases state ids
    ((grant.map ({ · with state := state })).toList ++ grants, manager)

def leaseIds (manager : LeaseManager) (predicate : LeaseGrant → Bool) : List LeaseId :=
  (manager.leases.toList.filter (predicate ·.2)).map (·.1)

def expire (manager : LeaseManager) (now : MonotonicMs) : List LeaseGrant × LeaseManager :=
  manager.removeLeases .expired (manager.leaseIds (·.expiresAtMs ≤ now))

def releaseClient (manager : LeaseManager) (clientId : ClientId) : List LeaseGrant × LeaseManager :=
  manager.removeLeases .revoked (manager.leaseIds (·.clientId = clientId))

def invalidateGeneration (manager : LeaseManager) (receiverId : ReceiverId)
    (generationId : GenerationId) : List LeaseGrant × LeaseManager :=
  manager.removeLeases .revoked (manager.leaseIds fun grant =>
    grant.resources.any fun resource => resource.receiverId = receiverId ∧ resource.generationId = generationId)

def owns (manager : LeaseManager) (clientId : ClientId) (leaseId : LeaseId)
    (resources : List ResourceKey) (now : MonotonicMs) : Bool :=
  match manager.leases[leaseId]? with
  | none => false
  | some grant => grant.clientId = clientId ∧ grant.expiresAtMs > now ∧ ∀ r ∈ resources, r ∈ grant.resources

/-- The grant that keeps a requested resource busy, in the order the ownership index lists it. -/
def conflictOf (manager : LeaseManager) (resource : ResourceKey) : Option LeaseConflict :=
  match manager.owners.toList.find? (resourcesConflict resource ·.1) with
  | none => none
  | some (_, leaseId) => manager.leases[leaseId]?.map (⟨·.clientId, resource⟩)

/-- The `while` loop that drops the oldest unpinned record until one slot is free. Each round
removes a record, so the history length bounds the rounds. -/
def reserveHistorySlotLoop : Nat → LeaseM Unit
  | 0 => pure ()
  | rounds + 1 => do
    let manager ← get
    if manager.history.length ≥ manager.maxHistory then
      match manager.history.findIdx? (·.pinnedLease = none) with
      | none => throw .historyCapacity
      | some position =>
        set { manager with history := manager.history.eraseIdx position }
        reserveHistorySlotLoop rounds
    else
      pure ()

def reserveHistorySlot : LeaseM Unit := do
  let manager ← get
  reserveHistorySlotLoop (manager.history.length + 1)

def remember (record : RequestRecord) : LeaseM Unit :=
  modify fun manager => { manager with history := manager.history ++ [record] }

/-- The exclusive expiry of a lease taken now. -/
def expiresAt (now : MonotonicMs) (duration : LeaseDurationMs) : Except LeaseManagerError MonotonicMs :=
  match Bounded.tryFrom 0 u64Max (now.get + duration.get) with
  | none => .error .clockOverflow
  | some expires => .ok expires

/-- The answer an earlier request with the same identity got, if there was one. -/
def replayed (manager : LeaseManager) (key : ClientId × RequestId) (operation : LeaseOperation) :
    Option (Except LeaseManagerError LeaseDecision) :=
  (manager.history.find? (·.key = key)).map fun record =>
    if record.request = operation then .ok ⟨record.result, false, true⟩ else .error .requestIdReused

def grantLease (request : LeaseRequest) (leaseId : LeaseId) (now : MonotonicMs) : LeaseM LeaseDecision := do
  let manager ← get
  refuse (leaseId ∈ manager.leases ∨ manager.leases.size ≥ manager.maxLeases) .leaseCapacity
  reserveHistorySlot
  let expiresAtMs ← lift id (expiresAt now request.durationMs)
  let grant : LeaseGrant := ⟨leaseId, request.clientId, request.resources, expiresAtMs, .granted⟩
  modify fun manager => { manager with
    owners := grant.resources.foldl (fun owners resource => owners.insert resource leaseId) manager.owners
    leases := manager.leases.insert leaseId grant }
  remember ⟨(request.clientId, request.requestId), .acquire request, .granted grant, some leaseId⟩
  pure ⟨.granted grant, true, false⟩

def acquireDecision (request : LeaseRequest) (leaseId : LeaseId) (now : MonotonicMs) :
    LeaseM LeaseDecision := do
  modify fun manager => (manager.expire now).2
  lift .invalidRequest (validateLeaseRequest request)
  let manager ← get
  match manager.replayed (request.clientId, request.requestId) (.acquire request) with
  | some answer => lift id answer
  | none =>
    match request.resources.findSome? manager.conflictOf with
    | some conflict =>
      reserveHistorySlot
      remember ⟨(request.clientId, request.requestId), .acquire request, .conflict conflict, none⟩
      pure ⟨.conflict conflict, false, false⟩
    | none => grantLease request leaseId now

def acquire (request : LeaseRequest) (leaseId : LeaseId) (now : MonotonicMs) : LeaseM LeaseResult := do
  let decision ← acquireDecision request leaseId now
  pure decision.result

def release (clientId : ClientId) (leaseId : LeaseId) (now : MonotonicMs) : LeaseM LeaseGrant := do
  modify fun manager => (manager.expire now).2
  let manager ← get
  match manager.leases[leaseId]? with
  | none => throw .unknownLease
  | some grant =>
    refuse (grant.clientId ≠ clientId) .notOwner
    set (manager.removeLease leaseId).2
    pure { grant with state := .released }

def Shrinks (before after : LeaseManager) : Prop :=
  ∀ (id : LeaseId) (grant : LeaseGrant), after.leases[id]? = some grant → before.leases[id]? = some grant

theorem Shrinks.refl (manager : LeaseManager) : Shrinks manager manager := fun _ _ h => h

theorem Shrinks.trans {first second third : LeaseManager} (h : Shrinks first second)
    (h' : Shrinks second third) : Shrinks first third :=
  fun id grant hg => h id grant (h' id grant hg)

theorem removeLease_shrinks (manager : LeaseManager) (id : LeaseId) :
    Shrinks manager (manager.removeLease id).2 := by
  intro k grant hg
  unfold removeLease at hg
  split at hg
  · exact hg
  rw [Std.TreeMap.getElem?_erase] at hg
  split at hg
  · cases hg
  · exact hg

theorem removeLease_absent (manager : LeaseManager) (id : LeaseId) :
    (manager.removeLease id).2.leases[id]? = none := by
  unfold removeLease
  split
  next hnone => exact hnone
  · simp

theorem removeLeases_shrinks (manager : LeaseManager) (state : LeaseState) (leaseIds : List LeaseId) :
    Shrinks manager (manager.removeLeases state leaseIds).2 := by
  induction leaseIds generalizing manager with
  | nil => exact Shrinks.refl manager
  | cons id leaseIds ih => exact (removeLease_shrinks manager id).trans (ih _)

theorem expire_shrinks (manager : LeaseManager) (now : MonotonicMs) : Shrinks manager (manager.expire now).2 :=
  removeLeases_shrinks manager _ _

variable {manager : LeaseManager}

theorem release_spec {clientId : ClientId} {leaseId : LeaseId} {now : MonotonicMs} :
    Holds (release clientId leaseId now) manager
      (fun _ manager' => Shrinks manager manager' ∧ manager'.leases[leaseId]? = none)
      (fun error manager' => Shrinks manager manager' ∧
        (error = .unknownLease → manager'.leases[leaseId]? = none)) := by
  have hexpire := expire_shrinks manager now
  simp only [release, holds_do]
  split
  next hnone => exact ⟨hexpire, fun _ => hnone⟩
  simp only [holds_do]
  refine ⟨fun _ => ⟨hexpire, by simp⟩, fun _ => ⟨?_, removeLease_absent _ _⟩⟩
  exact hexpire.trans (removeLease_shrinks _ _)

/-- Making room in the request history leaves the leases alone. -/
theorem reserveHistorySlotLoop_leases (rounds : Nat) :
    Ensures (reserveHistorySlotLoop rounds) manager (fun manager' => manager'.leases = manager.leases) := by
  induction rounds generalizing manager with
  | zero => exact rfl
  | succ rounds ih =>
    simp only [reserveHistorySlotLoop, holds_do]
    split
    · split
      · exact rfl
      simp only [holds_do]
      exact ih
    · exact rfl

theorem reserveHistorySlot_leases :
    Ensures reserveHistorySlot manager (fun manager' => manager'.leases = manager.leases) := by
  simp only [reserveHistorySlot, holds_do]
  exact reserveHistorySlotLoop_leases _

/-- At most one lease is new: the requested one, granted to the requester on its resources. -/
def Grants (before after : LeaseManager) (request : LeaseRequest) (leaseId : LeaseId) : Prop :=
  ∀ (id : LeaseId) (grant : LeaseGrant), after.leases[id]? = some grant →
    before.leases[id]? = some grant ∨
      (id = leaseId ∧ grant.clientId = request.clientId ∧ grant.resources = request.resources)

theorem Shrinks.grants {before after : LeaseManager} (h : Shrinks before after)
    (request : LeaseRequest) (leaseId : LeaseId) : Grants before after request leaseId :=
  fun id grant hg => .inl (h id grant hg)

theorem acquire_spec {request : LeaseRequest} {leaseId : LeaseId} {now : MonotonicMs} :
    Holds (acquire request leaseId now) manager
      (fun result manager' => Grants manager manager' request leaseId ∧
        ((∃ grant, result = .granted grant) ∨ Shrinks manager manager'))
      (fun _ manager' => Shrinks manager manager') := by
  have hold : ∀ manager' : LeaseManager, manager'.leases = (manager.expire now).2.leases →
      Shrinks manager manager' := by
    intro manager' heq id grant hg
    rw [heq] at hg
    exact expire_shrinks manager now id grant hg
  have hboth : ∀ (result : LeaseResult) (manager' : LeaseManager), Shrinks manager manager' →
      Grants manager manager' request leaseId ∧
        ((∃ grant, result = .granted grant) ∨ Shrinks manager manager') :=
    fun _ _ h => ⟨h.grants request leaseId, .inr h⟩
  simp only [acquire, acquireDecision, holds_do]
  refine ⟨fun _ _ => ?_, fun _ _ => hold _ rfl⟩
  split
  · exact holds_lift.mpr ⟨fun _ _ => hboth _ _ (hold _ rfl), fun _ _ => hold _ rfl⟩
  split
  · simp only [holds_do, remember]
    exact holds_mono reserveHistorySlot_leases (fun _ m hm => hboth _ _ (hold _ hm)) (fun _ m hm => hold _ hm)
  simp only [grantLease, holds_do, remember]
  refine ⟨fun _ => hold _ rfl, fun _ => ?_⟩
  refine holds_mono reserveHistorySlot_leases (fun _ m hm => ⟨?_, fun _ _ => hold _ hm⟩)
    (fun _ m hm => hold _ hm)
  intro expires _
  refine ⟨fun id grant hg => ?_, .inl ⟨_, rfl⟩⟩
  simp only [Std.TreeMap.getElem?_insert] at hg
  split at hg
  next heq =>
    cases hg
    exact .inr ⟨(Std.LawfulEqCmp.compare_eq_iff_eq.mp heq).symm, rfl, rfl⟩
  · exact .inl (hold m hm id grant hg)

def Live (manager : LeaseManager) (leaseId : LeaseId) (now : MonotonicMs) : Prop :=
  ∃ grant, manager.leases[leaseId]? = some grant ∧ grant.expiresAtMs > now

end LeaseManager

end HyperfluxNext
