import HyperfluxNext.Daemon.RestorationController
import HyperfluxNext.Daemon.TriggerTable

namespace HyperfluxNext

open Procedure

namespace RestorationScheduler

section Calls

/-- What a scheduling call does to the claims: it gives them due times or drops them. -/
structure CallKept (s s' : RestorationScheduler) : Prop where
  interval : s'.retryIntervalMs = s.retryIntervalMs
  claims : ∀ (id : RestoreClaimId) (claim : ScheduledClaim), s'.claims[id]? = some claim →
    ∃ old, s.claims[id]? = some old ∧ claim.receiverId = old.receiverId

open CallKept

theorem CallKept.refl (s : RestorationScheduler) : CallKept s s := ⟨rfl, fun _ claim h => ⟨claim, h, rfl⟩⟩

theorem CallKept.trans {s s' s'' : RestorationScheduler} (h : CallKept s s') (h' : CallKept s' s'') :
    CallKept s s'' where
  interval := h'.interval.trans h.interval
  claims id claim hstored := by
    obtain ⟨middle, hmiddle, hlater⟩ := h'.claims id claim hstored
    obtain ⟨old, hold, hearlier⟩ := h.claims id middle hmiddle
    exact ⟨old, hold, hlater.trans hearlier⟩

instance : Std.Refl CallKept := ⟨CallKept.refl⟩

instance : IsTrans RestorationScheduler CallKept := ⟨fun _ _ _ => CallKept.trans⟩

theorem CallKept.of_claims {s s' : RestorationScheduler} (hinterval : s'.retryIntervalMs = s.retryIntervalMs)
    (hclaims : s'.claims = s.claims) : CallKept s s' := by
  refine ⟨hinterval, ?_⟩
  intro id claim hstored
  rw [hclaims] at hstored
  exact ⟨claim, hstored, rfl⟩

variable (receiverId : ReceiverId) (generationId : GenerationId)

theorem retime_callKept (deviceId : Option LogicalDeviceId) (due : MonotonicMs → MonotonicMs)
    (s : RestorationScheduler) : CallKept s (retime receiverId generationId deviceId due s).2 := by
  refine ⟨rfl, ?_⟩
  intro id claim hstored
  unfold retime at hstored
  rw [Std.TreeMap.getElem?_map] at hstored
  obtain ⟨old, hold, hclaim⟩ := Option.map_eq_some_iff.mp hstored
  refine ⟨old, hold, ?_⟩
  rw [← hclaim]
  split
  · rfl
  · rfl

theorem CallKept.woken {s before : RestorationScheduler} (h : CallKept s before)
    (deviceId : Option LogicalDeviceId) (due : MonotonicMs) :
    CallKept s (wake receiverId generationId deviceId due before).2 :=
  h.trans (retime_callKept receiverId generationId deviceId (fun _ => due) before)

omit receiverId generationId in
theorem callKept_callStable : CallStable CallKept where
  retime receiverId generationId deviceId due s := retime_callKept receiverId generationId deviceId due s
  filter _ _ := of_claims rfl rfl
  erase _ _ := of_claims rfl rfl
  insert _ _ _ _ _ := of_claims rfl rfl

variable [TriggerDigests]

omit receiverId generationId in
theorem scheduleDeviceReturnEpochAt_callKept (key : DeviceKey) (epochSequence : SequenceNumber)
    (openedAt : MonotonicMs) (retryOffsetsMs : List Nat) :
    Steps CallKept (scheduleDeviceReturnEpochAt key epochSequence openedAt retryOffsetsMs) := by
  unfold scheduleDeviceReturnEpochAt
  apply steps_get
  intro s
  split
  · exact CallKept.refl s
  rw [holds_bind, holds_refuse]
  refine ⟨fun _ => CallKept.refl s, fun _ => ?_⟩
  split
  · exact CallKept.refl s
  simp only [holds_do]
  refine ⟨fun dues _ => ⟨fun _ => CallKept.refl s, fun _ =>
    ⟨fun staged _ => ?_, fun _ _ => CallKept.refl s⟩⟩, fun _ _ => CallKept.refl s⟩
  apply CallKept.woken
  exact CallKept.of_claims rfl rfl

def IsCall : ScheduleOp → Prop
  | .tick _ _ _ => False
  | _ => True

omit receiverId generationId in
theorem apply_callKept (op : ScheduleOp) (hcall : IsCall op) : Steps CallKept (apply op) := by
  cases op with
  | openEpoch key epochSequence openedAt retryOffsetsMs =>
    exact scheduleDeviceReturnEpochAt_callKept key epochSequence openedAt retryOffsetsMs
  | accelerate key epochSequence evidenceAt =>
    have hsooner : ∀ s s', Accelerated key s s' → CallKept s s' := by
      intro s s' h
      refine ⟨by rw [h.rest], ?_⟩
      intro id claim hstored
      have hrel := h.claims id
      rw [hstored] at hrel
      cases hold : s.claims[id]? with
      | none =>
        rw [hold] at hrel
        cases hrel
      | some old =>
        rw [hold] at hrel
        cases hrel with
        | some hsame => exact ⟨old, rfl, by rw [hsame.same]⟩
    exact (accelerateDeviceReturnEpochAt_accelerated key epochSequence evidenceAt).mono hsooner
  | primaryReturn receiverId generationId targetDeviceId sequence due =>
    exact schedulePrimaryReturn_steps receiverId generationId callKept_callStable targetDeviceId sequence due
  | serviceStart receiverId generationId =>
    exact scheduleBroad_steps .serviceStart receiverId generationId callKept_callStable none
  | receiverGeneration receiverId generationId =>
    exact steps_bind (steps_modify fun _ => of_claims rfl rfl)
      fun _ => scheduleBroad_steps .receiverGeneration receiverId generationId callKept_callStable none
  | systemSuspend receiverId generationId =>
    apply steps_modify
    intro s
    have hcleared : CallKept s (clearReadiness receiverId generationId s) := of_claims rfl rfl
    exact hcleared.trans (retime_callKept receiverId generationId none _ _)
  | systemResume receiverId generationId sequence =>
    exact scheduleBroad_steps .systemResume receiverId generationId callKept_callStable (some sequence)
  | retireGeneration receiverId generationId =>
    apply steps_modify
    intro s
    refine ⟨rfl, ?_⟩
    intro id claim hstored
    exact ⟨claim, (((retireGeneration_retired receiverId generationId s).claims id claim).mp hstored).1, rfl⟩
  | tick => exact hcall.elim

end Calls

section Claims

def Scheduled (s : RestorationScheduler) (claimId : RestoreClaimId) : Prop :=
  ∃ claim, s.claims[claimId]? = some claim

def Owned (owner : RestoreClaimId → ReceiverId) (s : RestorationScheduler) : Prop :=
  ∀ (claimId : RestoreClaimId) (claim : ScheduledClaim), s.claims[claimId]? = some claim →
    claim.receiverId = owner claimId

theorem Owned.callKept {owner : RestoreClaimId → ReceiverId} {s s' : RestorationScheduler}
    (h : Owned owner s) (hkept : CallKept s s') : Owned owner s' := by
  intro claimId claim hstored
  obtain ⟨old, hold, hsame⟩ := hkept.claims claimId claim hstored
  rw [hsame]
  exact h claimId old hold

theorem framed_claimStable : ClaimStable Framed where
  erase _ _ := ⟨rfl, rfl⟩
  insert _ _ _ _ := ⟨rfl, rfl⟩
  filter _ _ := ⟨rfl, rfl⟩

variable {owner : RestoreClaimId → ReceiverId} {s : RestorationScheduler}

theorem owned_erase (h : Owned owner s) (claimId : RestoreClaimId) :
    Owned owner { s with claims := s.claims.erase claimId } := by
  intro other claim hstored
  have herased := hstored
  rw [OrderedMaps.getElem?_erase_of] at herased
  split at herased
  · cases herased
  · exact h other claim herased

theorem scheduled_erase (claimId other : RestoreClaimId) :
    Scheduled { s with claims := s.claims.erase claimId } other ↔ other ≠ claimId ∧ Scheduled s other := by
  unfold Scheduled
  simp only [OrderedMaps.getElem?_erase_of]
  by_cases hother : other = claimId
  · simp [hother]
  · simp [hother]

theorem scheduleRecordWithDefer_schedules {record : RestoreRecord} (due : MonotonicMs) (deferCount : Nat)
    (hlive : record.status.isTerminal = false) (howner : record.receiverId = owner record.claimId)
    (h : Owned owner s) :
    Holds (scheduleRecordWithDefer record due deferCount) s
      (fun _ s' => Owned owner s' ∧ ∀ claimId, Scheduled s' claimId ↔
        claimId = record.claimId ∨ Scheduled s claimId) (fun _ s' => Owned owner s') := by
  unfold scheduleRecordWithDefer
  rw [holds_bind, holds_get]
  split
  next hterminal =>
    rw [hlive] at hterminal
    cases hterminal
  rw [holds_bind, holds_refuse]
  refine ⟨fun _ => h, fun _ => ?_⟩
  rw [holds_set]
  constructor
  · intro claimId claim hstored
    have hinserted := hstored
    rw [OrderedMaps.getElem?_insert_of] at hinserted
    split at hinserted
    next hsame =>
      cases hinserted
      rw [hsame]
      exact howner
    · exact h claimId claim hinserted
  intro claimId
  unfold Scheduled
  simp only [OrderedMaps.getElem?_insert_of]
  by_cases hsame : claimId = record.claimId
  · simp [hsame]
  · simp [hsame]

structure PendingOf (owner : RestoreClaimId → ReceiverId) (receiverId : ReceiverId)
    (pending : List RestoreRecord) : Prop where
  live : ∀ record ∈ pending, record.status.isTerminal = false
  receiver : ∀ record ∈ pending, record.receiverId = receiverId
  owner : ∀ record ∈ pending, owner record.claimId = receiverId

theorem synchronizePendingClaims_schedules {receiverId : ReceiverId} {pending : List RestoreRecord}
    (hpending : PendingOf owner receiverId pending) (schedule : PendingClaimSchedule) (now : MonotonicMs)
    (h : Owned owner s) :
    Holds (synchronizePendingClaims (.ok pending) receiverId schedule now) s
      (fun _ s' => Owned owner s' ∧ ∀ claimId, Scheduled s' claimId ↔
        (Scheduled s claimId ∧ owner claimId ≠ receiverId) ∨ ∃ record ∈ pending, record.claimId = claimId)
      (fun _ s' => Owned owner s') := by
  have hrecords : ∀ (records : List RestoreRecord) (before : RestorationScheduler)
      (scheduleRecord : RestoreRecord → SchedulerM Unit),
      (∀ record ∈ pending, ∀ before, Owned owner before → Holds (scheduleRecord record) before
        (fun _ s' => Owned owner s' ∧ ∀ claimId, Scheduled s' claimId ↔
          claimId = record.claimId ∨ Scheduled before claimId) (fun _ s' => Owned owner s')) →
      (∀ record ∈ records, record ∈ pending) → Owned owner before →
      Holds (each scheduleRecord records) before
        (fun _ s' => Owned owner s' ∧ ∀ claimId, Scheduled s' claimId ↔
          Scheduled before claimId ∨ ∃ record ∈ records, record.claimId = claimId)
        (fun _ s' => Owned owner s') := by
    intro records before scheduleRecord hschedule
    induction records generalizing before with
    | nil =>
      intro _ howned
      simp only [each, holds_pure]
      refine ⟨howned, ?_⟩
      intro claimId
      simp
    | cons record records ih =>
      intro hmem howned
      have hrest := fun other hother => hmem other (List.mem_cons_of_mem record hother)
      unfold each
      rw [holds_bind]
      apply holds_post (hschedule record (hmem record List.mem_cons_self) before howned)
      intro _ middle hmiddle
      rw [holds_bind]
      apply holds_post (ih middle hrest hmiddle.1)
      intro _ last hlast
      rw [holds_pure]
      refine ⟨hlast.1, ?_⟩
      intro claimId
      rw [hlast.2, hmiddle.2, List.exists_mem_cons_iff, eq_comm (a := claimId)]
      constructor
      · intro hcase
        obtain (hsame | hscheduled) | hlater := hcase
        · exact .inr (.inl hsame)
        · exact .inl hscheduled
        · exact .inr (.inr hlater)
      intro hcase
      obtain hscheduled | hsame | hlater := hcase
      · exact .inl (.inr hscheduled)
      · exact .inl (.inl hsame)
      · exact .inr hlater
  unfold synchronizePendingClaims
  rw [holds_bind, holds_lift]
  refine ⟨fun found hfound => ?_, fun _ hfailed => by cases hfailed⟩
  cases hfound
  rw [holds_bind, holds_modify]
  have hfiltered : Owned owner { s with claims := s.claims.filter fun claimId claim =>
      claim.receiverId ≠ receiverId ∨ pending.any (·.claimId = claimId) } := by
    intro claimId claim hstored
    have hkept := hstored
    rw [Std.TreeMap.getElem?_filter', Option.filter_eq_some_iff] at hkept
    exact h claimId claim hkept.1
  rw [holds_bind]
  refine holds_post (hrecords pending _ _ ?_ (fun _ hmem => hmem) hfiltered) ?_
  · intro record hin before howned
    have howner : record.receiverId = owner record.claimId :=
      (hpending.receiver record hin).trans (hpending.owner record hin).symm
    have hlive := hpending.live record hin
    rw [holds_bind, holds_get]
    split
    next hcontains =>
      rw [holds_pure]
      refine ⟨howned, ?_⟩
      intro claimId
      constructor
      · intro hscheduled
        exact .inr hscheduled
      intro hscheduled
      obtain hsame | hscheduled := hscheduled
      · have hknown : record.claimId ∈ before.claims := Std.TreeMap.mem_iff_contains.mpr hcontains
        rw [Std.TreeMap.mem_iff_isSome_getElem?, Option.isSome_iff_exists] at hknown
        rw [hsame]
        exact hknown
      · exact hscheduled
    cases schedule with
    | «at» due => exact scheduleRecordWithDefer_schedules due 0 hlive howner howned
    | trigger kind =>
      unfold scheduleTriggerRecord
      rw [holds_bind, holds_get]
      exact scheduleRecordWithDefer_schedules _ 0 hlive howner howned
  intro _ last hlast
  rw [holds_pure]
  refine ⟨hlast.1, ?_⟩
  intro claimId
  rw [hlast.2]
  unfold Scheduled
  simp only [Std.TreeMap.getElem?_filter', Option.filter_eq_some_iff]
  constructor
  · intro hcase
    obtain ⟨claim, hstored, hkept⟩ | hnew := hcase
    · obtain hother | hmem := of_decide_eq_true hkept
      · left
        refine ⟨⟨claim, hstored⟩, ?_⟩
        rw [← h claimId claim hstored]
        exact hother
      right
      obtain ⟨record, hrecord, hsame⟩ := List.any_eq_true.mp hmem
      exact ⟨record, hrecord, of_decide_eq_true hsame⟩
    · exact .inr hnew
  intro hcase
  obtain ⟨⟨claim, hstored⟩, hother⟩ | hnew := hcase
  · left
    refine ⟨claim, hstored, decide_eq_true (.inl ?_)⟩
    rw [h claimId claim hstored]
    exact hother
  · exact .inr hnew

end Claims

section Controller

open RestorationController

variable {σ : Type} [RestorationController σ] {s : RestorationScheduler}

theorem pending_iff (store : σ) (claimId : RestoreClaimId) :
    Pending store claimId ↔ ∃ record, records store claimId = some record ∧ record.status.isTerminal = false := by
  unfold Pending
  rw [Option.any_eq_true]
  simp

variable {receiverId : ReceiverId} {store after : σ} {due : RestoreClaimId} {s' : RestorationScheduler}

theorem pendingOf_records {pending : List RestoreRecord} (h : pendingRecords receiverId store = .ok pending)
    : PendingOf (receiverOf σ) receiverId pending where
  live record hmem := ((pendingRecords_ok receiverId store pending h record).mp hmem).2.1
  receiver record hmem := ((pendingRecords_ok receiverId store pending h record).mp hmem).2.2
  owner record hmem := by
    obtain ⟨hstored, -, hreceiver⟩ := (pendingRecords_ok receiverId store pending h record).mp hmem
    rw [← (records_owner store record.claimId record hstored).2]
    exact hreceiver

theorem mem_pendingRecords {pending : List RestoreRecord} (h : pendingRecords receiverId store = .ok pending)
    (claimId : RestoreClaimId) :
    (∃ record ∈ pending, record.claimId = claimId) ↔
      receiverOf σ claimId = receiverId ∧ Pending store claimId := by
  rw [pending_iff]
  constructor
  · intro hread
    obtain ⟨record, hmem, hid⟩ := hread
    obtain ⟨hstored, hlive, hreceiver⟩ := (pendingRecords_ok receiverId store pending h record).mp hmem
    rw [hid] at hstored
    have howner := (records_owner store claimId record hstored).2
    exact ⟨howner.symm.trans hreceiver, record, hstored, hlive⟩
  intro hpending
  obtain ⟨howner, record, hstored, hlive⟩ := hpending
  obtain ⟨hid, hreceiver⟩ := records_owner store claimId record hstored
  refine ⟨record, (pendingRecords_ok receiverId store pending h record).mpr ⟨?_, hlive, ?_⟩, hid⟩
  · rw [hid]
    exact hstored
  rw [hreceiver]
  exact howner

def TakenOver (store : σ) (receiverId : ReceiverId) (s s' : RestorationScheduler) : Prop :=
  ∀ claimId, Scheduled s' claimId ↔ (Scheduled s claimId ∧ receiverOf σ claimId ≠ receiverId) ∨
    (receiverOf σ claimId = receiverId ∧ Pending store claimId)

theorem synchronizePendingClaims_takesOver (store : σ) (receiverId : ReceiverId)
    (schedule : PendingClaimSchedule) (now : MonotonicMs) (h : Owned (receiverOf σ) s) :
    Holds (synchronizePendingClaims (pendingRecords receiverId store) receiverId schedule now) s
      (fun _ s' => Owned (receiverOf σ) s' ∧ TakenOver store receiverId s s')
      (fun _ s' => Owned (receiverOf σ) s') := by
  cases hread : pendingRecords receiverId store with
  | error error =>
    unfold synchronizePendingClaims
    rw [holds_bind, holds_lift]
    exact ⟨fun _ hfound => (by cases hfound), fun _ _ => h⟩
  | ok pending =>
    apply holds_post (synchronizePendingClaims_schedules (pendingOf_records hread) schedule now h)
    intro _ s' hsynchronized
    refine ⟨hsynchronized.1, ?_⟩
    intro claimId
    rw [hsynchronized.2, mem_pendingRecords hread]

structure ClaimStep (due : RestoreClaimId) (store after : σ) (s s' : RestorationScheduler) : Prop where
  owned : Owned (receiverOf σ) s'
  taken : Scheduled s' due ↔ Pending after due
  others : ∀ claimId, claimId ≠ due → (Scheduled s' claimId ↔ Scheduled s claimId) ∨
    (receiverOf σ claimId = receiverOf σ due ∧ (Scheduled s' claimId ↔ Pending after claimId))
  frame : ∀ claimId, claimId ≠ due → (Pending after claimId ↔ Pending store claimId)

/-- The claim was put back. -/
theorem ClaimStep.rescheduled (hpending : Pending after due)
    (hstore : ∀ claimId, claimId ≠ due → (Pending after claimId ↔ Pending store claimId))
    (h : Owned (receiverOf σ) s' ∧ ∀ claimId, Scheduled s' claimId ↔
      claimId = due ∨ Scheduled { s with claims := s.claims.erase due } claimId) :
    ClaimStep due store after s s' where
  owned := h.1
  taken := by
    rw [h.2]
    exact ⟨fun _ => hpending, fun _ => .inl rfl⟩
  others claimId hother := by
    left
    rw [h.2, scheduled_erase]
    constructor
    · intro hcase
      obtain hsame | hscheduled := hcase
      · exact absurd hsame hother
      · exact hscheduled.2
    intro hscheduled
    exact .inr ⟨hother, hscheduled⟩
  frame := hstore

theorem ClaimStep.ended (howned : Owned (receiverOf σ) s) (hended : ¬ Pending after due)
    (hstore : ∀ claimId, claimId ≠ due → (Pending after claimId ↔ Pending store claimId)) :
    ClaimStep due store after s { s with claims := s.claims.erase due } where
  owned := owned_erase howned due
  taken := by
    rw [scheduled_erase]
    constructor
    · intro hscheduled
      exact absurd rfl hscheduled.1
    intro hpending
    exact absurd hpending hended
  others claimId hother := by
    left
    rw [scheduled_erase]
    exact ⟨fun hscheduled => hscheduled.2, fun hscheduled => ⟨hother, hscheduled⟩⟩
  frame := hstore

theorem ClaimStep.takenOver
    (hstore : ∀ claimId, claimId ≠ due → (Pending after claimId ↔ Pending store claimId))
    (h : Owned (receiverOf σ) s' ∧
      TakenOver after (receiverOf σ due) { s with claims := s.claims.erase due } s') :
    ClaimStep due store after s s' where
  owned := h.1
  taken := by
    rw [h.2, scheduled_erase]
    constructor
    · intro hcase
      obtain hother | hpending := hcase
      · exact absurd rfl hother.2
      · exact hpending.2
    intro hpending
    exact .inr ⟨rfl, hpending⟩
  others claimId hother := by
    by_cases howner : receiverOf σ claimId = receiverOf σ due
    · right
      refine ⟨howner, ?_⟩
      rw [h.2]
      constructor
      · intro hcase
        obtain hforeign | hpending := hcase
        · exact absurd howner hforeign.2
        · exact hpending.2
      intro hpending
      exact .inr ⟨howner, hpending⟩
    left
    rw [h.2, scheduled_erase]
    constructor
    · intro hcase
      obtain hforeign | hpending := hcase
      · exact hforeign.1.2
      · exact absurd hpending.1 howner
    intro hscheduled
    exact .inl ⟨⟨hother, hscheduled⟩, howner⟩
  frame := hstore

theorem advanceClaim_frame (due : RestoreClaimId) (store : σ) (claimId : RestoreClaimId) (hother : claimId ≠ due) :
    Pending (advanceClaim due store).2 claimId ↔ Pending store claimId :=
  advanceClaim_others due claimId store hother

theorem pending_of_records {claimId : RestoreClaimId} {record : RestoreRecord}
    (h : records store claimId = some record) : Pending store claimId ↔ record.status.isTerminal = false := by
  rw [pending_iff]
  constructor
  · intro hpending
    obtain ⟨found, hfound, hlive⟩ := hpending
    rw [h] at hfound
    cases hfound
    exact hlive
  intro hlive
  exact ⟨record, h, hlive⟩

theorem processDueClaim_true {claim : ScheduledClaim} {now : MonotonicMs}
    (hdue : dueClaimId s.claims now = some due) (hstored : s.claims[due]? = some claim)
    (answers : ClaimAnswers) :
    Holds (processDueClaim answers now) s (fun more _ => more = true) (fun _ _ => True) := by
  have hrest : ∀ {α : Type} (m : SchedulerM α) (before : RestorationScheduler),
      Holds (do let _ ← m; pure true : SchedulerM Bool) before (fun more _ => more = true)
        (fun _ _ => True) := by
    intro α m before
    rw [holds_bind]
    apply holds_post holds_any
    intro _ _ _
    rfl
  unfold processDueClaim
  rw [holds_bind, holds_get]
  simp only [hdue, hstored]
  rw [holds_bind, holds_set]
  split
  · exact hrest _ _
  split
  · rw [holds_bind, holds_lift]
    exact ⟨fun _ _ => hrest _ _, fun _ _ => trivial⟩
  · trivial

theorem processDueClaim_steps_claim {claim : ScheduledClaim} {now : MonotonicMs}
    (hdue : dueClaimId s.claims now = some due) (hstored : s.claims[due]? = some claim) (store : σ)
    (howned : Owned (receiverOf σ) s) :
    Holds (processDueClaim (claimAnswers due claim.receiverId store).1 now) s
      (fun _ s' => ClaimStep due store (claimAnswers due claim.receiverId store).2 s s')
      (fun _ s' => Owned (receiverOf σ) s') := by
  have hreceiver : claim.receiverId = receiverOf σ due := howned due claim hstored
  have herased := owned_erase howned due
  unfold processDueClaim
  rw [holds_bind, holds_get]
  simp only [hdue, hstored]
  rw [holds_bind, holds_set]
  have hframe := advanceClaim_frame due store
  cases hadvance : (advanceClaim due store).1 with
  | error error =>
    simp only [claimAnswers, hadvance]
    split
    · rw [holds_bind, holds_lift]
      refine ⟨fun retryDue _ => ?_, fun _ _ => herased⟩
      rw [holds_bind, hreceiver]
      apply holds_post (synchronizePendingClaims_takesOver (advanceClaim due store).2 (receiverOf σ due)
        (.at retryDue) now herased)
      intro _ s' hsynchronized
      rw [holds_pure]
      exact ClaimStep.takenOver hframe hsynchronized
    · exact herased
  | ok result =>
    have hrecord := advanceClaim_ok due store result hadvance
    simp only [claimAnswers, hadvance]
    cases result with
    | terminal record =>
      have hterminal := advanceClaim_terminal due store record hadvance
      simp only [observeAdvance]
      apply ClaimStep.ended howned _ hframe
      rw [pending_of_records hrecord]
      show ¬ record.status.isTerminal = false
      rw [hterminal]
      intro hlive
      cases hlive
    | deferred record =>
      have hid := (records_owner _ _ _ hrecord).1
      have howner := (records_owner _ _ _ hrecord).2
      simp only [observeAdvance]
      rw [holds_bind]
      split
      next deferred hstatus =>
        rw [holds_bind, holds_get, holds_bind, holds_lift]
        refine ⟨fun retryDue _ => ?_, fun _ _ => herased⟩
        have hlive : record.status.isTerminal = false := by rw [hstatus]; rfl
        have hsame : record.claimId = due := hid
        have hrecordOwner : record.receiverId = receiverOf σ record.claimId := by rw [hsame]; exact howner
        apply holds_post (scheduleRecordWithDefer_schedules retryDue _ hlive hrecordOwner herased)
        intro _ s' hscheduled
        rw [holds_pure]
        rw [hsame] at hscheduled
        exact ClaimStep.rescheduled ((pending_of_records hrecord).mpr hlive) hframe hscheduled
      · exact herased
    | queued record =>
      have hsame : record.claimId = due := (records_owner _ _ _ hrecord).1
      simp only [observeAdvance]
      rw [hsame, holds_bind, holds_bind, holds_lift]
      refine ⟨fun terminal hdispatch => ?_, fun _ _ => herased⟩
      have hdispatched := dispatchClaim_ok due (advanceClaim due store).2 terminal hdispatch
      have hframes : ∀ claimId, claimId ≠ due →
          (Pending (dispatchClaim due (advanceClaim due store).2).2 claimId ↔ Pending store claimId) := by
        intro claimId hother
        exact (dispatchClaim_others due claimId (advanceClaim due store).2 hother).trans (hframe claimId hother)
      split
      next hterminal =>
        apply ClaimStep.ended howned _ hframes
        rw [pending_of_records hdispatched, hterminal]
        intro hlive
        cases hlive
      next hlive =>
        have hlive : terminal.status.isTerminal = false := Bool.eq_false_iff.mpr hlive
        obtain ⟨hterminalId, howner⟩ := records_owner _ _ _ hdispatched
        have hrecordOwner : terminal.receiverId = receiverOf σ terminal.claimId := by
          rw [hterminalId]
          exact howner
        rw [holds_bind, holds_get, holds_bind, holds_lift]
        refine ⟨fun retryDue _ => ?_, fun _ _ => herased⟩
        apply holds_mono (scheduleRecordWithDefer_schedules retryDue 0 hlive hrecordOwner herased)
        · intro _ s' hscheduled
          rw [hterminalId] at hscheduled
          exact ClaimStep.rescheduled ((pending_of_records hdispatched).mpr hlive) hframes hscheduled
        intro _ _ hfailed
        exact hfailed

def Kept (first : RestorationScheduler) (store : σ) (s : RestorationScheduler) : Prop :=
  ∀ claimId, Scheduled first claimId → Pending store claimId → Scheduled s claimId

def Exact (receiverId : ReceiverId) (store : σ) (s : RestorationScheduler) : Prop :=
  ∀ claimId, receiverOf σ claimId = receiverId → (Scheduled s claimId ↔ Pending store claimId)

theorem ClaimStep.kept {first : RestorationScheduler} (h : ClaimStep due store after s s')
    (hkept : Kept first store s) : Kept first after s' := by
  intro claimId hfirst hpending
  by_cases hdue : claimId = due
  · rw [hdue] at hpending ⊢
    exact h.taken.mpr hpending
  obtain hsame | hsynchronized := h.others claimId hdue
  · rw [hsame]
    exact hkept claimId hfirst ((h.frame claimId hdue).mp hpending)
  · exact hsynchronized.2.mpr hpending

theorem ClaimStep.exact (h : ClaimStep due store after s s') (hexact : Exact receiverId store s) :
    Exact receiverId after s' := by
  intro claimId howner
  by_cases hdue : claimId = due
  · rw [hdue]
    exact h.taken
  obtain hsame | hsynchronized := h.others claimId hdue
  · rw [hsame, hexact claimId howner, h.frame claimId hdue]
  · exact hsynchronized.2

/-- What the claims of one tick leave, against the schedule and the store before them. -/
structure ClaimsDone (store after : σ) (s s' : RestorationScheduler) : Prop where
  owned : Owned (receiverOf σ) s'
  framed : Framed s s'
  kept : ∀ first, Kept first store s → Kept first after s'
  exact : ∀ receiverId, Exact receiverId store s → Exact receiverId after s'

theorem ClaimsDone.refl (store : σ) (howned : Owned (receiverOf σ) s) : ClaimsDone store store s s :=
  ⟨howned, ⟨rfl, rfl⟩, fun _ h => h, fun _ h => h⟩

theorem processDueClaims_done (now : MonotonicMs) (limit : Nat) (store : σ) (howned : Owned (receiverOf σ) s) :
    Holds (processDueClaims now (tickClaimAnswers now limit s store).1) s
      (fun _ s' => ClaimsDone store (tickClaimAnswers now limit s store).2 s s')
      (fun _ s' => Owned (receiverOf σ) s') := by
  induction limit generalizing s store with
  | zero => exact ClaimsDone.refl store howned
  | succ limit ih =>
    unfold tickClaimAnswers
    cases hdue : (dueClaimId s.claims now).bind fun claimId => (s.claims[claimId]?).map (claimId, ·) with
    | none => exact ClaimsDone.refl store howned
    | some found =>
      obtain ⟨due, claim⟩ := found
      obtain ⟨id, hid, hfound⟩ := Option.bind_eq_some_iff.mp hdue
      obtain ⟨stored, hstored, hpair⟩ := Option.map_eq_some_iff.mp hfound
      cases hpair
      have hstep := processDueClaim_steps_claim hid hstored store howned
      have hframed := processDueClaim_steps framed_claimStable (claimAnswers due claim.receiverId store).1 now s
      dsimp only
      cases hcall : processDueClaim (claimAnswers due claim.receiverId store).1 now s with
      | error error failed =>
        dsimp only
        unfold processDueClaims
        rw [holds_bind_of_error hcall]
        have hfailed := holds_error hstep hcall
        exact hfailed
      | ok more middle =>
        have hmiddle := holds_ok hstep hcall
        have hframe := holds_ok hframed hcall
        dsimp only
        unfold processDueClaims
        rw [holds_bind_of_ok hcall]
        have hrest := ih (claimAnswers due claim.receiverId store).2 hmiddle.owned
        have hprocessed : more = true := by
          have hmore := holds_ok (processDueClaim_true hid hstored _) hcall
          exact hmore
        rw [hprocessed]
        apply holds_mono hrest
        · intro _ last hlast
          refine ⟨hlast.owned, ?_, ?_, ?_⟩
          · exact IsTrans.trans _ _ _ hframe hlast.framed
          · intro first hkept
            exact hlast.kept first (hmiddle.kept hkept)
          intro receiverId hexact
          exact hlast.exact receiverId (hmiddle.exact hexact)
        intro _ _ hfailed
        exact hfailed

end Controller

end RestorationScheduler

end HyperfluxNext
