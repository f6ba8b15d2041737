import HyperfluxNext.Daemon.Tick
import HyperfluxNext.Library.StepRelation

namespace HyperfluxNext

open Procedure

namespace RestorationScheduler

/-- A relation that every change a tick makes to the claims stands in. -/
structure ClaimStable (R : RestorationScheduler → RestorationScheduler → Prop) : Prop where
  erase : ∀ (s : RestorationScheduler) (claimId : RestoreClaimId),
    R s { s with claims := s.claims.erase claimId }
  insert : ∀ (s : RestorationScheduler) (claimId : RestoreClaimId) (claim : ScheduledClaim),
    s.claims.contains claimId = true ∨ s.claims.size < s.maxClaims →
      R s { s with claims := s.claims.insert claimId claim }
  filter : ∀ (s : RestorationScheduler) (keep : RestoreClaimId → ScheduledClaim → Bool),
    R s { s with claims := s.claims.filter keep }

/-- A relation that everything done for a taken trigger stands in, too. -/
structure TriggerStable (triggerId : RestoreTriggerId) (scheduled : ScheduledTrigger)
    (R : RestorationScheduler → RestorationScheduler → Prop) : Prop extends ClaimStable R where
  retry : ∀ (s : RestorationScheduler) (due : MonotonicMs), scheduled.purpose = .primary →
    R s { s with triggers := s.triggers.insert triggerId { scheduled with due := due } }
  consume : ∀ (s : RestorationScheduler) (key : DeviceKey), R s (consumeDeviceReturnEpoch key s)
  configure : ∀ (s : RestorationScheduler) (receivers : List ReceiverId),
    R s { s with configuredReceivers := receivers }

variable {R : RestorationScheduler → RestorationScheduler → Prop} [Std.Refl R]
  [IsTrans RestorationScheduler R]

omit [IsTrans RestorationScheduler R] in
theorem scheduleRecordWithDefer_steps (h : ClaimStable R) (record : RestoreRecord) (due : MonotonicMs)
    (deferCount : Nat) : Steps R (scheduleRecordWithDefer record due deferCount) := by
  unfold scheduleRecordWithDefer
  apply steps_get
  intro s
  split
  · exact h.erase s record.claimId
  rw [holds_bind, holds_refuse]
  constructor
  · intro _
    exact Std.Refl.refl s
  intro hroom
  apply h.insert
  by_cases hknown : s.claims.contains record.claimId = true
  · exact .inl hknown
  have hunknown : s.claims.contains record.claimId = false := Bool.eq_false_iff.mpr hknown
  have hsize : ¬ s.maxClaims ≤ s.claims.size := fun hfull => hroom ⟨hunknown, hfull⟩
  exact .inr (Nat.not_le.mp hsize)

theorem synchronizePendingClaims_steps (h : ClaimStable R)
    (pending : Except RestorationError (List RestoreRecord)) (receiverId : ReceiverId)
    (schedule : PendingClaimSchedule) (now : MonotonicMs) :
    Steps R (synchronizePendingClaims pending receiverId schedule now) := by
  unfold synchronizePendingClaims
  apply steps_bind (steps_lift _ pending)
  intro pending
  apply steps_bind (steps_modify fun s => h.filter s _)
  intro _
  refine steps_bind (steps_each ?_ pending) fun _ => steps_pure _
  intro record
  apply steps_get
  intro s
  split
  · exact Std.Refl.refl s
  cases schedule with
  | «at» due => exact scheduleRecordWithDefer_steps h record due 0 s
  | trigger kind =>
    unfold scheduleTriggerRecord
    rw [holds_bind]
    exact scheduleRecordWithDefer_steps h record _ 0 s

variable {triggerId : RestoreTriggerId} {scheduled : ScheduledTrigger}

section

variable (h : TriggerStable triggerId scheduled R)
include h

omit [IsTrans RestorationScheduler R] in
theorem retryPrimary_steps (now : MonotonicMs) :
    Steps R (retryPrimary triggerId scheduled now) := by
  unfold retryPrimary
  split
  next hprimary =>
    apply steps_get
    intro s
    rw [holds_bind, holds_lift]
    constructor
    · intro due _
      exact h.retry s due hprimary
    intro error _
    exact Std.Refl.refl s
  · exact steps_pure ()

theorem recoverBlocked_steps {α : Type}
    (pending : Except RestorationError (List RestoreRecord)) (now : MonotonicMs) (answer : α) :
    Steps R (do
      let _ ← synchronizePendingClaims pending scheduled.trigger.receiverId (.at now) now
      retryPrimary triggerId scheduled now
      pure answer : SchedulerM α) := by
  apply steps_bind (synchronizePendingClaims_steps h.toClaimStable _ _ _ _)
  intro _
  apply steps_bind (retryPrimary_steps h now)
  intro _
  exact steps_pure answer

theorem rebindOrRecoverBlockingClaims_steps (answers : TriggerAnswers) (now : MonotonicMs) :
    Steps R (rebindOrRecoverBlockingClaims triggerId scheduled answers now) := by
  unfold rebindOrRecoverBlockingClaims
  split
  · exact steps_pure _
  split
  · exact recoverBlocked_steps h answers.pendingRecords now none
  · exact steps_throw _

theorem planOrRecoverTrigger_steps (answers : TriggerAnswers) (shouldPlan : Bool) (now : MonotonicMs) :
    Steps R (planOrRecoverTrigger triggerId scheduled answers shouldPlan now) := by
  have hplanned : ∀ disposition : TriggerPlanDisposition, Steps R (do
      let _ ← synchronizePendingClaims answers.pendingRecords scheduled.trigger.receiverId
        (.trigger scheduled.trigger.kind) now
      pure disposition) := by
    intro disposition
    apply steps_bind (synchronizePendingClaims_steps h.toClaimStable _ _ _ _)
    intro _
    exact steps_pure disposition
  unfold planOrRecoverTrigger
  dsimp only
  split
  · exact hplanned _
  · exact hplanned _
  · exact hplanned _
  · exact hplanned _
  · exact hplanned _
  · exact steps_throw _
  split
  · exact recoverBlocked_steps h answers.pendingRecords now _
  · exact steps_throw _

omit [IsTrans RestorationScheduler R] in
theorem finishEnvelope_steps
    (disposition : TriggerPlanDisposition) : Steps R (finishEnvelope scheduled disposition) := by
  unfold finishEnvelope
  split
  · exact steps_modify fun s => h.consume s _
  · exact steps_pure ()

theorem planTaken_steps (newlyConfigured : Bool)
    (answers : TriggerAnswers) (now : MonotonicMs) :
    Steps R (planTaken triggerId scheduled newlyConfigured answers now) := by
  unfold planTaken
  apply steps_bind (rebindOrRecoverBlockingClaims_steps h answers now)
  intro migrated
  cases migrated with
  | none => exact steps_pure ()
  | some migrated =>
    dsimp only
    have hplan : ∀ pending : List RestoreRecord, Steps R (do
        let disposition ← planOrRecoverTrigger triggerId scheduled answers (pending.isEmpty ∨ migrated > 0) now
        finishEnvelope scheduled disposition) := by
      intro pending
      apply steps_bind (planOrRecoverTrigger_steps h answers _ now)
      intro disposition
      exact finishEnvelope_steps h disposition
    split
    · exact steps_bind (steps_lift _ _) hplan
    · exact steps_bind (steps_pure _) hplan

omit [IsTrans RestorationScheduler R] in
theorem configureTaken_steps (newlyConfigured : Bool) :
    Steps R (configureTaken scheduled newlyConfigured) := by
  cases newlyConfigured with
  | true => exact steps_modify fun s => h.configure s _
  | false => exact steps_pure ()

end

theorem replayEffect_steps (scheduled : ScheduledTrigger) (answers : TriggerAnswers) :
    Steps R (replayEffect scheduled answers) := by
  unfold replayEffect
  split
  · apply steps_bind (steps_lift _ _)
    intro _
    exact steps_pure _
  · exact steps_pure _

theorem processTaken_steps (h : TriggerStable triggerId scheduled R) (newlyConfigured : Bool)
    (answers : TriggerAnswers) (now : MonotonicMs) :
    Steps R (processTaken triggerId scheduled newlyConfigured answers now) := by
  unfold processTaken
  apply steps_bind (steps_lift _ _)
  intro _
  apply steps_bind (replayEffect_steps scheduled answers)
  intro settled
  cases settled with
  | true => exact configureTaken_steps h newlyConfigured
  | false =>
    apply steps_bind (planTaken_steps h newlyConfigured answers now)
    intro _
    exact configureTaken_steps h newlyConfigured

theorem observeAdvance_steps (h : ClaimStable R) (claim : ScheduledClaim) (answers : ClaimAnswers)
    (now : MonotonicMs) (advance : RestoreAdvanceResult) :
    Steps R (observeAdvance claim answers now advance) := by
  cases advance with
  | deferred record =>
    simp only [observeAdvance]
    split
    · apply steps_get
      intro s
      exact steps_bind (steps_lift _ _) (fun _ => scheduleRecordWithDefer_steps h _ _ _) s
    · exact steps_throw _
  | queued record =>
    simp only [observeAdvance]
    apply steps_bind (steps_lift _ _)
    intro terminal
    split
    · exact steps_pure ()
    apply steps_get
    intro s
    exact steps_bind (steps_lift _ _) (fun _ => scheduleRecordWithDefer_steps h _ _ _) s
  | terminal record => exact steps_pure ()

theorem processDueClaim_steps (h : ClaimStable R) (answers : ClaimAnswers) (now : MonotonicMs) :
    Steps R (processDueClaim answers now) := by
  unfold processDueClaim
  apply steps_get
  intro s
  split
  · exact Std.Refl.refl s
  next claimId _ =>
    split
    · exact Std.Refl.refl s
    next claim _ =>
      apply steps_set (h.erase s claimId)
      split
      next advance _ =>
        apply steps_bind (observeAdvance_steps h claim answers now advance)
        intro _
        exact steps_pure true
      split
      · apply steps_bind (steps_lift _ _)
        intro retryDue
        apply steps_bind (synchronizePendingClaims_steps h _ _ _ _)
        intro _
        exact steps_pure true
      · exact steps_throw _

theorem processDueClaims_steps (h : ClaimStable R) (now : MonotonicMs) (claims : List ClaimAnswers) :
    Steps R (processDueClaims now claims) := by
  induction claims with
  | nil => exact steps_pure ()
  | cons answers rest ih =>
    unfold processDueClaims
    apply steps_bind (processDueClaim_steps h answers now)
    intro due
    cases due with
    | true => exact ih
    | false => exact steps_pure ()

omit [IsTrans RestorationScheduler R] in
/-- The due trigger leaves the table first: `Q` is what the work on the taken trigger keeps. -/
theorem processDueTrigger_through (Q : RestoreTriggerId → ScheduledTrigger → RestorationScheduler →
    RestorationScheduler → Prop) [∀ id taken, Std.Refl (Q id taken)]
    [∀ id taken, IsTrans RestorationScheduler (Q id taken)]
    (h : ∀ id taken, TriggerStable id taken (Q id taken))
    (hback : ∀ s id taken last, s.triggers[id]? = some taken →
      Q id taken { s with triggers := s.triggers.erase id } last → R s last)
    (answers : TriggerAnswers) (now : MonotonicMs) : Steps R (processDueTrigger answers now) := by
  unfold processDueTrigger
  apply steps_get
  intro s
  split
  · exact Std.Refl.refl s
  next triggerId _ =>
    split
    · exact Std.Refl.refl s
    next taken hstored =>
      rw [holds_bind, holds_set]
      apply holds_mono (processTaken_steps (h triggerId taken) _ answers now _)
      · intro _ last hlast
        exact hback s triggerId taken last hstored hlast
      intro _ last hlast
      exact hback s triggerId taken last hstored hlast

theorem tickAt_through (now : MonotonicMs) (claims : List ClaimAnswers) (answers : TriggerAnswers)
    (htrigger : Steps R (processDueTrigger answers now))
    (hclaims : ∀ claims, Steps R (processDueClaims now claims)) : Steps R (tickAt now answers claims) := by
  unfold tickAt
  apply steps_get
  intro s
  split
  · exact Std.Refl.refl s
  exact steps_bind htrigger (fun _ => hclaims _) s

end RestorationScheduler

end HyperfluxNext
