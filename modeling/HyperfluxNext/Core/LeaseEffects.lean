import HyperfluxNext.Core.LeaseHistory

namespace HyperfluxNext

open Procedure

namespace LeaseManager

/-- The leases that are left are exactly the old ones that satisfy `keep`. -/
def Retains (keep : LeaseId → LeaseGrant → Prop) (before after : LeaseManager) : Prop :=
  ∀ (id : LeaseId) (grant : LeaseGrant),
    after.leases[id]? = some grant ↔ before.leases[id]? = some grant ∧ keep id grant

variable (manager : LeaseManager)

theorem Retains.refl : Retains (fun _ _ => True) manager manager := by
  intro id grant
  simp

theorem Retains.trans {keep keep' : LeaseId → LeaseGrant → Prop} {first second third : LeaseManager}
    (h : Retains keep first second) (h' : Retains keep' second third) :
    Retains (fun id grant => keep id grant ∧ keep' id grant) first third := by
  intro id grant
  rw [h' id grant, h id grant, and_assoc]

theorem Retains.congr {keep keep' : LeaseId → LeaseGrant → Prop} {before after : LeaseManager}
    (h : Retains keep before after)
    (heq : ∀ id grant, before.leases[id]? = some grant → (keep id grant ↔ keep' id grant)) :
    Retains keep' before after := by
  intro id grant
  rw [h id grant]
  exact and_congr_right (heq id grant)

theorem removeLeases_retains (state : LeaseState) (predicate : LeaseGrant → Bool) :
    Retains (fun _ grant => predicate grant = false) manager
      (manager.removeLeases state (manager.leaseIds predicate)).2 := by
  intro id grant
  rw [getElem?_removeLeases]
  have hmem : ∀ other : LeaseGrant, manager.leases[id]? = some other →
      (id ∈ manager.leaseIds predicate ↔ predicate other = true) := by
    intro other hother
    unfold leaseIds
    rw [List.mem_map]
    constructor
    · intro h
      obtain ⟨entry, hentry, hid⟩ := h
      obtain ⟨hfound, hselected⟩ := List.mem_filter.mp hentry
      have hsame : manager.leases[entry.1]? = some entry.2 :=
        Std.TreeMap.mem_toList_iff_getElem?_eq_some.mp hfound
      rw [hid, hother] at hsame
      cases hsame
      exact hselected
    intro hselected
    exact ⟨(id, other), List.mem_filter.mpr
      ⟨Std.TreeMap.mem_toList_iff_getElem?_eq_some.mpr hother, hselected⟩, rfl⟩
  constructor
  · intro h
    split at h
    · cases h
    next hout =>
      rw [hmem grant h] at hout
      exact ⟨h, by simpa using hout⟩
  intro h
  have hout : ¬ id ∈ manager.leaseIds predicate := by
    rw [hmem grant h.1, h.2]
    exact Bool.false_ne_true
  rw [if_neg hout]
  exact h.1

theorem expire_retains (now : MonotonicMs) :
    Retains (fun _ grant => now < grant.expiresAtMs) manager (manager.expire now).2 := by
  refine (removeLeases_retains manager .expired (·.expiresAtMs ≤ now)).congr ?_
  intro id grant _
  simp [Bounded.le_iff, Bounded.lt_iff]

def BoundTo (receiverId : ReceiverId) (generationId : GenerationId) (grant : LeaseGrant) : Prop :=
  ∃ resource ∈ grant.resources, resource.receiverId = receiverId ∧ resource.generationId = generationId

theorem invalidateGeneration_retains (receiverId : ReceiverId) (generationId : GenerationId) :
    Retains (fun _ grant => ¬ BoundTo receiverId generationId grant) manager
      (manager.invalidateGeneration receiverId generationId).2 := by
  refine (removeLeases_retains manager .revoked _).congr ?_
  intro id grant _
  simp [BoundTo]

theorem removeLease_retains (leaseId : LeaseId) :
    Retains (fun id _ => id ≠ leaseId) manager (manager.removeLease leaseId).2 := by
  intro id grant
  rw [getElem?_removeLease]
  by_cases heq : leaseId = id
  · simp [heq]
  · simp [heq, Ne.symm heq]

/-- A release also drops every lease whose time has elapsed, whoever it belongs to. -/
theorem release_retains {clientId : ClientId} {leaseId : LeaseId} {now : MonotonicMs} {manager : LeaseManager} :
    Holds (release clientId leaseId now) manager
      (fun _ manager' => Retains (fun id grant => now < grant.expiresAtMs ∧ id ≠ leaseId) manager manager')
      (fun error manager' => error = .unknownLease →
        Retains (fun id grant => now < grant.expiresAtMs ∧ id ≠ leaseId) manager manager') := by
  have hexpired := expire_retains manager now
  simp only [release, holds_do]
  split
  next hnone =>
    intro _ id grant
    rw [hexpired id grant]
    refine and_congr_right fun hgrant => ⟨fun hlive => ⟨hlive, ?_⟩, fun h => h.1⟩
    intro heq
    have hstill := (hexpired id grant).mpr ⟨hgrant, hlive⟩
    rw [heq, hnone] at hstill
    cases hstill
  simp only [holds_do]
  refine ⟨fun _ hno => (by cases hno), fun _ => ?_⟩
  exact hexpired.trans (removeLease_retains _ leaseId)

end LeaseManager

end HyperfluxNext
