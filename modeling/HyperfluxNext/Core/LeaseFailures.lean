import HyperfluxNext.Core.LeaseReplay

namespace HyperfluxNext

open Procedure LeaseManager

/-- The idempotent call behind an operation. -/
def LeaseOperation.perform (operation : LeaseOperation) (leaseId : LeaseId) (now : MonotonicMs) :
    LeaseM LeaseResult :=
  match operation with
  | .acquire request => LeaseManager.acquire request leaseId now
  | .renew request => LeaseManager.renewRequest request now
  | .release request => LeaseManager.releaseRequest request now

variable {manager : LeaseManager} {now : MonotonicMs} {error : LeaseManagerError} {leaseId : LeaseId}

namespace LeaseManager

/-- An acquire that comes as far as its expiry, which passes the end of the clock, while the history is
full and may give a record up. -/
def Overruns (manager : LeaseManager) (operation : LeaseOperation) (leaseId : LeaseId)
    (now : MonotonicMs) : Prop :=
  match operation with
  | .acquire request =>
    validateLeaseRequest request = .ok () ∧
    manager.replayed (request.clientId, request.requestId) (.acquire request) = none ∧
    request.resources.findSome? manager.conflictOf = none ∧
    (leaseId ∉ manager.leases ∧ manager.leases.size < manager.maxLeases) ∧
    manager.maxHistory ≤ manager.history.length ∧
    (∃ record ∈ manager.history, record.pinnedLease = none) ∧
    u64Max < now.get + request.durationMs.get
  | _ => False

/-- Making room changes nothing in a history with a free place or without a record to give up, and
otherwise loses a record. -/
theorem reserveHistorySlot_exact (hbounded : manager.history.length ≤ manager.maxHistory) :
    Holds reserveHistorySlot manager
      (fun _ after => (manager.history.length < manager.maxHistory → after = manager) ∧
        (manager.maxHistory ≤ manager.history.length →
          after.history.length < manager.history.length ∧
            ∃ record ∈ manager.history, record.pinnedLease = none))
      (fun _ after => after = manager ∧ manager.maxHistory ≤ manager.history.length ∧
        ¬ ∃ record ∈ manager.history, record.pinnedLease = none) := by
  simp only [reserveHistorySlot, reserveHistorySlotLoop, holds_do]
  split
  next hfull =>
    split
    next hnone =>
      refine ⟨rfl, hfull, fun hunpinned => ?_⟩
      obtain ⟨record, hrecord, hpin⟩ := hunpinned
      have hall := List.findIdx?_eq_none_iff.mp hnone record hrecord
      rw [hpin] at hall
      cases hall
    next position hposition =>
      obtain ⟨hlength, hunpinned, _⟩ := List.findIdx?_eq_some_iff_getElem.mp hposition
      rw [decide_eq_true_iff] at hunpinned
      have herased : (manager.history.eraseIdx position).length = manager.history.length - 1 :=
        List.length_eraseIdx_of_lt hlength
      have hdone : ∀ rounds, Holds (reserveHistorySlotLoop rounds)
          { manager with history := manager.history.eraseIdx position }
          (fun _ after => after = { manager with history := manager.history.eraseIdx position })
          (fun _ _ => False) := by
        intro rounds
        cases rounds with
        | zero => exact rfl
        | succ rounds =>
          simp only [reserveHistorySlotLoop, holds_do]
          rw [if_neg (by rw [herased]; omega)]
          exact rfl
      simp only [holds_do]
      refine holds_mono (hdone _) ?_ (fun _ _ hno => hno.elim)
      intro _ after hafter
      refine ⟨fun hroom => by omega, fun _ => ⟨?_, _, List.getElem_mem hlength, hunpinned⟩⟩
      rw [hafter, herased]
      omega
  next hroom =>
    refine ⟨fun _ => rfl, fun hfull => ?_⟩
    exact absurd hfull hroom

theorem expiresAt_error {duration : LeaseDurationMs} :
    expiresAt now duration = .error error ↔ error = .clockOverflow ∧ u64Max < now.get + duration.get := by
  unfold expiresAt
  by_cases hover : u64Max < now.get + duration.get
  · have hnone : Bounded.tryFrom 0 u64Max (now.get + duration.get) = none := by
      unfold Bounded.tryFrom
      rw [dif_neg]
      omega
    rw [hnone]
    simp [hover, eq_comm]
  rw [Bounded.tryFrom_of_mem (Nat.zero_le _) (by omega)]
  simp [hover]

/-- A refused grant has changed nothing but the history it made room in before its clock ran over. -/
theorem grantLease_fails {request : LeaseRequest} (hbounded : manager.history.length ≤ manager.maxHistory) :
    Holds (grantLease request leaseId now) manager (fun _ _ => True)
      (fun _ after => after = manager ↔
        ¬ ((leaseId ∉ manager.leases ∧ manager.leases.size < manager.maxLeases) ∧
          manager.maxHistory ≤ manager.history.length ∧
          (∃ record ∈ manager.history, record.pinnedLease = none) ∧
          u64Max < now.get + request.durationMs.get)) := by
  simp only [grantLease, holds_do, remember, implies_true, true_and]
  constructor
  · intro hcapacity
    simp only [true_iff]
    intro hboth
    obtain hknown | hfull := hcapacity
    · exact hboth.1.1 hknown
    have hroom := hboth.1.2
    omega
  intro hcapacity
  rw [not_or, ge_iff_le, Nat.not_le] at hcapacity
  refine holds_mono (reserveHistorySlot_exact hbounded) ?_ ?_
  · intro _ after hafter error herror
    have hover := (expiresAt_error.mp herror).2
    by_cases hfull : manager.maxHistory ≤ manager.history.length
    · obtain ⟨hlost, hunpinned⟩ := hafter.2 hfull
      constructor
      · intro hsame
        rw [hsame] at hlost
        exact absurd hlost (Nat.lt_irrefl _)
      intro hnot
      exact absurd ⟨hcapacity, hfull, hunpinned, hover⟩ hnot
    have hsame := hafter.1 (Nat.lt_of_not_le hfull)
    simp [hsame, hfull]
  intro _ after hafter
  obtain ⟨hsame, _, hpinned⟩ := hafter
  constructor
  · intro _ hboth
    exact hpinned hboth.2.2.1
  intro _
  exact hsame

/-- What a call leaves when it fails. -/
theorem decision_fails (h : Journaled manager) (operation : LeaseOperation) (leaseId : LeaseId)
    (now : MonotonicMs) :
    Holds (operation.decision leaseId now) manager (fun _ _ => True)
      (fun _ after => after = (manager.expire now).2 ↔
        ¬ Overruns (manager.expire now).2 operation leaseId now) := by
  have hbounded := (h.trims (expire_trims manager now)).bounded
  cases operation with
  | acquire request =>
    simp only [LeaseOperation.decision, acquireDecision, holds_do]
    refine ⟨fun _ hvalid => ?_, fun error herror => ?_⟩
    · cases hreplayed : (manager.expire now).2.replayed (request.clientId, request.requestId)
          (.acquire request) with
      | some answer =>
        refine holds_lift.mpr ⟨fun _ _ => trivial, fun _ _ => ?_⟩
        simp [Overruns, hreplayed]
      | none =>
        cases hconflict : request.resources.findSome? (manager.expire now).2.conflictOf with
        | some conflict =>
          simp only [holds_do, remember]
          refine holds_mono (reserveHistorySlot_exact hbounded) (fun _ _ _ => trivial) ?_
          intro _ after hafter
          simp [Overruns, hconflict, hafter.1]
        | none =>
          refine holds_mono (grantLease_fails hbounded) (fun _ _ hdone => hdone) ?_
          intro _ after hafter
          rw [hafter]
          simp [Overruns, hvalid, hreplayed, hconflict]
    · simp [Overruns, herror]
  | renew request =>
    simp only [LeaseOperation.decision, renewRequestDecision, holds_do]
    have hnever : ¬ Overruns (manager.expire now).2 (.renew request) leaseId now := fun hover => hover
    split
    · exact holds_lift.mpr ⟨fun _ _ => trivial, fun _ _ => by simp [hnever]⟩
    split
    · show _ ↔ _
      simp [hnever]
    simp only [holds_do, remember]
    refine ⟨fun _ => by simp [hnever], fun _ => ⟨fun _ _ => ?_, fun _ _ => by simp [hnever]⟩⟩
    refine holds_mono (reserveHistorySlot_exact hbounded) (fun _ _ _ => trivial) ?_
    intro _ after hafter
    simp [hnever, hafter.1]
  | release request =>
    simp only [LeaseOperation.decision, releaseRequestDecision, holds_do]
    have hnever : ¬ Overruns (manager.expire now).2 (.release request) leaseId now := fun hover => hover
    split
    · exact holds_lift.mpr ⟨fun _ _ => trivial, fun _ _ => by simp [hnever]⟩
    split
    · show _ ↔ _
      simp [hnever]
    simp only [holds_do, remember]
    refine ⟨fun _ => by simp [hnever], fun _ => ?_⟩
    refine holds_mono (reserveHistorySlot_exact hbounded) (fun _ _ _ => trivial) ?_
    intro _ after hafter
    simp [hnever, hafter.1]

end LeaseManager

/-- The call and its decision fail alike. -/
theorem LeaseOperation.perform_error {operation : LeaseOperation} {after : LeaseManager}
    (h : operation.perform leaseId now manager = .error error after) :
    operation.decision leaseId now manager = .error error after := by
  have hdecision : operation.perform leaseId now =
      (do
        let decision ← operation.decision leaseId now
        pure decision.result) := by
    cases operation <;> rfl
  rw [hdecision] at h
  simp only [bind, EStateM.bind] at h
  split at h
  · cases h
  next herror =>
    cases h
    exact herror

/-- A failed request leaves the state in which the elapsed leases have ended exactly when it is not an
acquire that made room in the history before its clock ran over. -/
theorem leaseReach_failure {manager after : LeaseManager} (h : LeaseReach manager)
    {operation : LeaseOperation} {leaseId : LeaseId} {now : MonotonicMs} {error : LeaseManagerError}
    (hfail : operation.perform leaseId now manager = .error error after) :
    after = (manager.expire now).2 ↔ ¬ Overruns (manager.expire now).2 operation leaseId now := by
  have hfails := decision_fails (leaseReach_journaled h) operation leaseId now
  have hdecision := LeaseOperation.perform_error hfail
  have hread := holds_error hfails hdecision
  exact hread

def onlyLease : LeaseManager :=
  (sampleAcquire (.lit "first") sampleLease .lighting).run ⟨1, 1, ∅, ∅, []⟩

theorem onlyLease_reach : LeaseReach onlyLease :=
  .step (.new (show LeaseManager.new 1 1 = .ok ⟨1, 1, ∅, ∅, []⟩ from rfl)) _

/-- An acquire at the end of the clock. -/
def lateAcquire (kind : ResourceKind) : LeaseOperation :=
  .acquire ⟨.lit "second", sampleRequest.clientId,
    [{ sampleResource with kind := kind }], .lit 1000⟩

/-- Another acquire while the only lease lives finds every record pinned. -/
theorem leaseReach_failure_pinned :
    ∃ error after, (lateAcquire .lighting).perform sampleLease (.lit 1) onlyLease =
        .error error after ∧ after = (onlyLease.expire (.lit 1)).2 := by
  have hfails : answer ((lateAcquire .lighting).perform sampleLease (.lit 1)) onlyLease =
      .error .historyCapacity := by decide +kernel
  unfold answer at hfails
  split at hfails
  · cases hfails
  next error after hrun =>
    refine ⟨error, after, hrun, (leaseReach_failure onlyLease_reach hrun).mpr ?_⟩
    intro hover
    have hconflict : (onlyLease.expire (.lit 1)).2.conflictOf
        { sampleResource with kind := .lighting } ≠ none := by decide +kernel
    have hnone := List.findSome?_eq_none_iff.mp hover.2.2.1
    exact hconflict (hnone _ List.mem_cons_self)

/-- The acquire whose expiry passes the end of the clock has forgotten the answer to the first
request. -/
theorem failed_acquire_forgets :
    ¬ ∀ (manager after : LeaseManager) (operation : LeaseOperation) (leaseId : LeaseId)
      (now : MonotonicMs) (error : LeaseManagerError), LeaseReach manager →
      operation.perform leaseId now manager = .error error after → after = (manager.expire now).2 := by
  intro hall
  have hfails : answer ((lateAcquire .lighting).perform sampleLease
      (.lit u64Max)) onlyLease = .error .clockOverflow := by decide +kernel
  have hlost : (final ((lateAcquire .lighting).perform sampleLease
      (.lit u64Max)) onlyLease).history = [] := by decide +kernel
  have hkept : (onlyLease.expire (.lit u64Max)).2.history ≠ [] := by decide +kernel
  unfold answer at hfails
  split at hfails
  · cases hfails
  next error after hrun =>
    have hsame := hall _ _ _ _ _ _ onlyLease_reach hrun
    unfold final at hlost
    rw [hrun] at hlost
    rw [← hsame] at hkept
    exact hkept hlost

end HyperfluxNext
