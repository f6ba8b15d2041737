import HyperfluxNext.Daemon.BroadTriggers
import HyperfluxNext.Daemon.ClaimRetention

namespace HyperfluxNext

open Procedure RestorationController

namespace RestorationScheduler

variable {σ : Type} [RestorationController σ] {s : RestorationScheduler}

section Triggers

def Settled (scheduled : ScheduledTrigger) (answers : TriggerAnswers) : Prop :=
  (∃ attempt, scheduled.purpose = .returnAttempt attempt) ∧ scheduled.trigger.targetDeviceId.isSome = true ∧
    (answers.effectReplay = .ok .queued ∨ answers.effectReplay = .ok .deferred)

/-- The trigger met a prior claim that is unresolved, while it rebound the stable intents or planned. -/
def MetUnresolved (newly : Bool) (answers : TriggerAnswers) : Prop :=
  (∃ error, answers.rebind = .error error ∧ blockedByPriorClaim error = true) ∨
    ∃ migrated error, answers.rebind = .ok migrated ∧
      (newly = false ∨ answers.priorRecords = .ok [] ∨ 0 < migrated) ∧
      answers.planRestore = .error error ∧ blockedByPriorClaim error = true

def KeptLater (triggerId : RestoreTriggerId) (scheduled : ScheduledTrigger) (now : MonotonicMs)
    (s' : RestorationScheduler) : Prop :=
  ∃ due, s'.triggers[triggerId]? = some { scheduled with due := due } ∧ now < due

/-- What the work on a taken trigger leaves, once it did not stop at the effect replay. -/
structure TriggerDone (triggerId : RestoreTriggerId) (scheduled : ScheduledTrigger) (now : MonotonicMs)
    (store : σ) (met : Prop) (s s' : RestorationScheduler) : Prop where
  owned : Owned (receiverOf σ) s'
  takenOver : TakenOver store scheduled.trigger.receiverId s s'
  keptLater : scheduled.purpose = .primary → met → KeptLater triggerId scheduled now s'

variable {triggerId : RestoreTriggerId} {scheduled : ScheduledTrigger} {now : MonotonicMs} {store : σ}
  {α : Type}

theorem retryPrimary_keptLater (hinterval : 0 < s.retryIntervalMs) (howned : Owned (receiverOf σ) s) :
    Holds (retryPrimary triggerId scheduled now) s
      (fun _ s' => s'.claims = s.claims ∧
        (scheduled.purpose = .primary → KeptLater triggerId scheduled now s')) (fun _ s' => Owned (receiverOf σ) s') := by
  unfold retryPrimary
  split
  next hprimary =>
    rw [holds_bind, holds_get, holds_bind, holds_lift]
    refine ⟨fun due hdue => ?_, fun _ _ => howned⟩
    rw [holds_set]
    refine ⟨rfl, fun _ => ⟨due, ?_, ?_⟩⟩
    · show (s.triggers.insert triggerId _)[triggerId]? = _
      rw [OrderedMaps.getElem?_insert_of, if_pos rfl]
    have hget := dueAfter_get hdue
    rw [Bounded.lt_iff]
    omega
  next attempt hattempt =>
    refine ⟨rfl, fun hprimary => ?_⟩
    rw [hattempt] at hprimary
    cases hprimary

theorem recoverBlocked_done (answer : α) (met : Prop) (hinterval : 0 < s.retryIntervalMs)
    (howned : Owned (receiverOf σ) s) :
    Holds (do
      let _ ← synchronizePendingClaims (pendingRecords scheduled.trigger.receiverId store)
        scheduled.trigger.receiverId (.at now) now
      retryPrimary triggerId scheduled now
      pure answer : SchedulerM α) s
      (fun found s' => found = answer ∧ TriggerDone triggerId scheduled now store met s s')
      (fun _ s' => Owned (receiverOf σ) s') := by
  have hframed := synchronizePendingClaims_steps framed_claimStable
    (pendingRecords scheduled.trigger.receiverId store) scheduled.trigger.receiverId (.at now) now s
  rw [holds_bind]
  apply holds_mono (holds_and (synchronizePendingClaims_takesOver store scheduled.trigger.receiverId
    (.at now) now howned) hframed)
  · intro _ middle hmiddle
    obtain ⟨⟨hmiddleOwned, htaken⟩, hframe⟩ := hmiddle
    have hpositive : 0 < middle.retryIntervalMs := by
      rw [hframe.interval]
      exact hinterval
    rw [holds_bind]
    apply holds_post (retryPrimary_keptLater hpositive hmiddleOwned)
    intro _ last hlast
    rw [holds_pure]
    refine ⟨rfl, ?_, ?_, fun hprimary _ => hlast.2 hprimary⟩
    · intro claimId claim hstored
      rw [hlast.1] at hstored
      exact hmiddleOwned claimId claim hstored
    intro claimId
    unfold Scheduled
    rw [hlast.1]
    exact htaken claimId
  · intro _ _ hfailed
    exact hfailed.1

variable {met : Prop} {answers : TriggerAnswers} {newly : Bool} {middle s' : RestorationScheduler}
  {receiverId : ReceiverId}

theorem takeOver_done (answer : α) (schedule : PendingClaimSchedule) (hmet : ¬ met)
    (howned : Owned (receiverOf σ) s) :
    Holds (do
      let _ ← synchronizePendingClaims (pendingRecords scheduled.trigger.receiverId store)
        scheduled.trigger.receiverId schedule now
      pure answer : SchedulerM α) s
      (fun _ s' => TriggerDone triggerId scheduled now store met s s') (fun _ s' => Owned (receiverOf σ) s') := by
  rw [holds_bind]
  apply holds_post (synchronizePendingClaims_takesOver store scheduled.trigger.receiverId schedule now howned)
  intro _ s' hsynchronized
  rw [holds_pure]
  exact ⟨hsynchronized.1, hsynchronized.2, fun _ h => absurd h hmet⟩

theorem planOrRecoverTrigger_done {shouldPlan : Bool}
    (hpending : answers.pendingRecords = pendingRecords scheduled.trigger.receiverId store)
    (hmet : met → shouldPlan = true ∧
      ∃ error, answers.planRestore = .error error ∧ blockedByPriorClaim error = true)
    (hinterval : 0 < s.retryIntervalMs) (howned : Owned (receiverOf σ) s) :
    Holds (planOrRecoverTrigger triggerId scheduled answers shouldPlan now) s
      (fun _ s' => TriggerDone triggerId scheduled now store met s s') (fun _ s' => Owned (receiverOf σ) s') := by
  have hunmet : ∀ {result : RestorePlanResult}, answers.planRestore = .ok result → ¬ met := by
    intro result hplan h
    obtain ⟨-, error, herror, -⟩ := hmet h
    rw [hplan] at herror
    cases herror
  unfold planOrRecoverTrigger
  dsimp only
  rw [hpending]
  split
  · have hnot : ¬ met := fun h => by cases (hmet h).1
    exact takeOver_done _ _ hnot howned
  next hplan => exact takeOver_done _ _ (hunmet hplan) howned
  next hplan => exact takeOver_done _ _ (hunmet hplan) howned
  next hplan => exact takeOver_done _ _ (hunmet hplan) howned
  next hplan => exact takeOver_done _ _ (hunmet hplan) howned
  · exact howned
  split
  · apply holds_post (recoverBlocked_done TriggerPlanDisposition.continue met hinterval howned)
    intro _ _ hdone
    exact hdone.2
  · exact howned

theorem finishEnvelope_done (disposition : TriggerPlanDisposition)
    (h : TriggerDone triggerId scheduled now store met s middle) :
    Holds (finishEnvelope scheduled disposition) middle
      (fun _ s' => TriggerDone triggerId scheduled now store met s s') (fun _ s' => Owned (receiverOf σ) s') := by
  unfold finishEnvelope
  split
  next attempt deviceId hattempt _ =>
    rw [holds_modify]
    refine ⟨h.owned, h.takenOver, fun hprimary => ?_⟩
    rw [hattempt] at hprimary
    cases hprimary
  · exact h

theorem configureTaken_done (newly : Bool) (h : TriggerDone triggerId scheduled now store met s middle) :
    Holds (configureTaken scheduled newly) middle
      (fun _ s' => TriggerDone triggerId scheduled now store met s s') (fun _ s' => Owned (receiverOf σ) s') := by
  cases newly with
  | false => exact h
  | true => exact ⟨h.owned, h.takenOver, h.keptLater⟩

theorem planTaken_done (hpending : answers.pendingRecords = pendingRecords scheduled.trigger.receiverId store)
    (hinterval : 0 < s.retryIntervalMs) (howned : Owned (receiverOf σ) s) :
    Holds (planTaken triggerId scheduled newly answers now) s
      (fun _ s' => TriggerDone triggerId scheduled now store (MetUnresolved newly answers) s s')
      (fun _ s' => Owned (receiverOf σ) s') := by
  unfold planTaken rebindOrRecoverBlockingClaims
  rw [holds_bind]
  split
  next migrated hrebind =>
    rw [holds_pure]
    dsimp only
    have hplan : ∀ pending : List RestoreRecord,
        (newly = false → pending = []) → (answers.priorRecords = .ok [] → pending = []) →
        Holds (do
          let disposition ← planOrRecoverTrigger triggerId scheduled answers
            (pending.isEmpty ∨ migrated > 0) now
          finishEnvelope scheduled disposition) s
          (fun _ s' => TriggerDone triggerId scheduled now store (MetUnresolved newly answers) s s')
          (fun _ s' => Owned (receiverOf σ) s') := by
      intro pending hold hnone
      have hmet : MetUnresolved newly answers → decide (pending.isEmpty = true ∨ migrated > 0) = true ∧
          ∃ error, answers.planRestore = .error error ∧ blockedByPriorClaim error = true := by
        intro h
        obtain ⟨error, hfailed, -⟩ | ⟨found, error, hfound, hasked, herror, hblocked⟩ := h
        · rw [hrebind] at hfailed
          cases hfailed
        rw [hrebind] at hfound
        cases hfound
        refine ⟨decide_eq_true ?_, error, herror, hblocked⟩
        obtain hknown | hempty | hmigrated := hasked
        · left
          rw [hold hknown]
          rfl
        · left
          rw [hnone hempty]
          rfl
        · exact .inr hmigrated
      rw [holds_bind]
      apply holds_post (planOrRecoverTrigger_done hpending hmet hinterval howned)
      intro disposition _ hdone
      exact finishEnvelope_done disposition hdone
    split
    next hnewly =>
      rw [holds_bind, holds_lift]
      refine ⟨fun pending hprior => ?_, fun _ _ => howned⟩
      apply hplan pending
      · intro hknown
        rw [hnewly] at hknown
        cases hknown
      intro hempty
      rw [hempty] at hprior
      exact (Except.ok.inj hprior).symm
    rw [holds_bind, holds_pure]
    exact hplan [] (fun _ => rfl) fun _ => rfl
  next error hrebind =>
    split
    next hblocked =>
      rw [hpending]
      apply holds_mono (recoverBlocked_done (none : Option Nat) (MetUnresolved newly answers) hinterval howned)
      · intro found s' hdone
        rw [hdone.1]
        exact hdone.2
      intro _ _ hfailed
      exact hfailed
    · exact howned

theorem replayEffect_settled (scheduled : ScheduledTrigger) (answers : TriggerAnswers)
    (howned : Owned (receiverOf σ) s) :
    Holds (replayEffect scheduled answers) s
      (fun settled s' => s' = s ∧ (settled = true ↔ Settled scheduled answers)) (fun _ s' => Owned (receiverOf σ) s') := by
  unfold replayEffect
  split
  next attempt deviceId hpurpose htarget =>
    rw [holds_bind, holds_lift]
    refine ⟨fun status hstatus => ?_, fun _ _ => howned⟩
    rw [holds_pure]
    refine ⟨rfl, ?_⟩
    unfold Settled
    rw [decide_eq_true_iff, htarget, hstatus, Except.ok.injEq, Except.ok.injEq]
    constructor
    · intro h
      exact ⟨⟨attempt, hpurpose⟩, rfl, h⟩
    intro h
    exact h.2.2
  next hother =>
    rw [holds_pure]
    refine ⟨rfl, ?_⟩
    constructor
    · intro h
      cases h
    intro h
    obtain ⟨⟨attempt, hpurpose⟩, htarget, -⟩ := h
    obtain ⟨deviceId, hdevice⟩ := Option.isSome_iff_exists.mp htarget
    exact absurd hdevice (hother attempt deviceId hpurpose)

theorem processTaken_done
    (hpending : answers.pendingRecords = pendingRecords scheduled.trigger.receiverId store)
    (hinterval : 0 < s.retryIntervalMs) (howned : Owned (receiverOf σ) s) :
    Holds (processTaken triggerId scheduled newly answers now) s
      (fun _ s' => (Settled scheduled answers ∧ s'.claims = s.claims) ∨
        (¬ Settled scheduled answers ∧
          TriggerDone triggerId scheduled now store (MetUnresolved newly answers) s s'))
      (fun _ s' => Owned (receiverOf σ) s') := by
  unfold processTaken
  rw [holds_bind, holds_lift]
  refine ⟨fun _ _ => ?_, fun _ _ => howned⟩
  rw [holds_bind]
  apply holds_post (replayEffect_settled scheduled answers howned)
  intro settled middle hsettled
  obtain ⟨hsame, hiff⟩ := hsettled
  rw [hsame]
  cases settled with
  | true =>
    have hclaims : Holds (configureTaken scheduled newly) s (fun _ s' => s'.claims = s.claims)
        (fun _ s' => Owned (receiverOf σ) s') := by
      cases newly with
      | false | true => rfl
    apply holds_post hclaims
    intro _ _ hkept
    exact .inl ⟨hiff.mp rfl, hkept⟩
  | false =>
    have hunsettled : ¬ Settled scheduled answers := by
      intro h
      cases hiff.mpr h
    dsimp only
    rw [holds_bind]
    apply holds_post (planTaken_done hpending hinterval howned)
    intro _ _ hdone
    apply holds_post (configureTaken_done newly hdone)
    intro _ _ hlast
    exact .inr ⟨hunsettled, hlast⟩

/-- The interval between two tries is configured once. -/
def SameInterval (s s' : RestorationScheduler) : Prop := s'.retryIntervalMs = s.retryIntervalMs

instance : Std.Refl SameInterval := ⟨fun _ => rfl⟩

instance : IsTrans RestorationScheduler SameInterval := ⟨fun _ _ _ h h' => Eq.trans h' h⟩

theorem sameInterval_triggerStable : TriggerStable triggerId scheduled SameInterval where
  erase _ _ := rfl
  insert _ _ _ _ := rfl
  filter _ _ := rfl
  retry _ _ _ := rfl
  consume _ _ := rfl
  configure _ _ := rfl

structure PhaseDone (now : MonotonicMs) (answers : TriggerAnswers) (store : σ) (s s' : RestorationScheduler) :
    Prop where
  owned : Owned (receiverOf σ) s'
  kept : Kept s store s'
  taken : ∀ triggerId scheduled, dueTriggerId s.triggers now = some triggerId →
    s.triggers[triggerId]? = some scheduled → ¬ Settled scheduled answers →
    Exact scheduled.trigger.receiverId store s' ∧
      (scheduled.purpose = .primary → MetUnresolved (newlyConfigured s scheduled) answers →
        KeptLater triggerId scheduled now s')

theorem TakenOver.kept (h : TakenOver store receiverId s s') : Kept s store s' := by
  intro claimId hscheduled hpending
  rw [h]
  by_cases howner : receiverOf σ claimId = receiverId
  · exact .inr ⟨howner, hpending⟩
  · exact .inl ⟨hscheduled, howner⟩

theorem TakenOver.exact (h : TakenOver store receiverId s s') : Exact receiverId store s' := by
  intro claimId howner
  rw [h]
  constructor
  · intro hcase
    obtain hforeign | hpending := hcase
    · exact absurd howner hforeign.2
    · exact hpending.2
  intro hpending
  exact .inr ⟨howner, hpending⟩

/-- A trigger whose work went through got these answers. -/
theorem processTaken_answered (answers : TriggerAnswers) (newly : Bool) :
    Holds (processTaken triggerId scheduled newly answers now) s
      (fun _ _ => (newly = true → answers.setEnabled = .ok ()) ∧
        ((∃ attempt, scheduled.purpose = .returnAttempt attempt) →
          scheduled.trigger.targetDeviceId.isSome = true → ∃ status, answers.effectReplay = .ok status))
      (fun _ _ => True) := by
  unfold processTaken
  rw [holds_bind, holds_lift]
  refine ⟨fun _ henabled => ?_, fun _ _ => trivial⟩
  have hnewly : newly = true → answers.setEnabled = .ok () := by
    intro hnewly
    rw [if_pos hnewly] at henabled
    exact henabled
  rw [holds_bind]
  unfold replayEffect
  split
  next attempt deviceId _ _ =>
    rw [holds_bind, holds_lift]
    refine ⟨fun status hstatus => ?_, fun _ _ => trivial⟩
    rw [holds_pure]
    apply holds_post holds_any
    intro _ _ _
    exact ⟨hnewly, fun _ _ => ⟨status, hstatus⟩⟩
  next hother =>
    rw [holds_pure]
    apply holds_post holds_any
    intro _ _ _
    refine ⟨hnewly, fun hattempt htarget => ?_⟩
    obtain ⟨attempt, hpurpose⟩ := hattempt
    obtain ⟨deviceId, hdevice⟩ := Option.isSome_iff_exists.mp htarget
    exact absurd hdevice (hother attempt deviceId hpurpose)

/-- The store after the calls is the one that the pending records were read from. -/
theorem triggerAnswers_store {status : DesiredEffectReplayStatus}
    (henabled : (triggerAnswers scheduled newly store).1.setEnabled = .ok ())
    (hreplay : (triggerAnswers scheduled newly store).1.effectReplay = .ok status)
    (hsettled : ¬ Settled scheduled (triggerAnswers scheduled newly store).1) :
    (triggerAnswers scheduled newly store).2 = (plannedAnswer scheduled newly store).2 := by
  have henabled' : (enabledAnswer scheduled newly store).1 = .ok () := henabled
  have hreplay' : (replayAnswer scheduled newly store).1 = .ok status := hreplay
  have hasked : status = .queued ∨ status = .deferred → (∃ attempt, scheduled.purpose = .returnAttempt attempt) ∧
      scheduled.trigger.targetDeviceId.isSome = true := by
    intro hstatus
    unfold replayAnswer at hreplay'
    dsimp only at hreplay'
    split at hreplay'
    next attempt deviceId hpurpose htarget =>
      rw [htarget]
      exact ⟨⟨attempt, hpurpose⟩, rfl⟩
    cases hreplay'
    obtain hqueued | hdeferred := hstatus
    · cases hqueued
    · cases hdeferred
  unfold triggerAnswers
  dsimp only
  rw [henabled', hreplay']
  cases status with
  | queued =>
    obtain ⟨hattempt, htarget⟩ := hasked (.inl rfl)
    exact absurd ⟨hattempt, htarget, .inl hreplay⟩ hsettled
  | deferred =>
    obtain ⟨hattempt, htarget⟩ := hasked (.inr rfl)
    exact absurd ⟨hattempt, htarget, .inr hreplay⟩ hsettled
  | notAvailable | invalidated => rfl

theorem triggerAnswers_ok
    (henabled : newly = true → (triggerAnswers scheduled newly store).1.setEnabled = .ok ())
    (hreplay : (∃ attempt, scheduled.purpose = .returnAttempt attempt) →
      scheduled.trigger.targetDeviceId.isSome = true →
      ∃ status, (triggerAnswers scheduled newly store).1.effectReplay = .ok status) :
    (triggerAnswers scheduled newly store).1.setEnabled = .ok () ∧
      ∃ status, (triggerAnswers scheduled newly store).1.effectReplay = .ok status := by
  constructor
  · cases newly with
    | true => exact henabled rfl
    | false => rfl
  by_cases hasked : (∃ attempt, scheduled.purpose = .returnAttempt attempt) ∧
      scheduled.trigger.targetDeviceId.isSome = true
  · exact hreplay hasked.1 hasked.2
  refine ⟨.notAvailable, ?_⟩
  show (replayAnswer scheduled newly store).1 = _
  unfold replayAnswer
  dsimp only
  split
  next attempt deviceId hpurpose htarget =>
    rw [htarget] at hasked
    exact absurd ⟨⟨attempt, hpurpose⟩, rfl⟩ hasked
  · rfl

theorem processDueTrigger_done (hinterval : 0 < s.retryIntervalMs) (howned : Owned (receiverOf σ) s) :
    Holds (processDueTrigger (tickTriggerAnswers s now store).1 now) s
      (fun _ s' => PhaseDone now (tickTriggerAnswers s now store).1 (tickTriggerAnswers s now store).2 s s')
      (fun _ s' => Owned (receiverOf σ) s') := by
  unfold processDueTrigger
  rw [holds_bind, holds_get]
  cases hdue : dueTriggerId s.triggers now with
  | none =>
    refine ⟨howned, fun _ hscheduled _ => hscheduled, ?_⟩
    intro triggerId scheduled hfound
    rw [hdue] at hfound
    cases hfound
  | some triggerId =>
    cases hstored : s.triggers[triggerId]? with
    | none =>
      simp only [hstored]
      exact howned
    | some scheduled =>
      have hanswers : tickTriggerAnswers s now store =
          triggerAnswers scheduled (newlyConfigured s scheduled) store := by
        unfold tickTriggerAnswers dueTrigger
        rw [hdue, Option.bind_some, hstored]
      simp only [hstored, hanswers]
      rw [holds_bind, holds_set]
      have hdone := @processTaken_done σ _ { s with triggers := s.triggers.erase triggerId } triggerId
        scheduled now (plannedAnswer scheduled (newlyConfigured s scheduled) store).2
        (triggerAnswers scheduled (newlyConfigured s scheduled) store).1 (newlyConfigured s scheduled)
        rfl hinterval howned
      apply holds_mono (holds_and hdone (processTaken_answered _ _))
      · intro _ s' hboth
        obtain ⟨hworked, henabled, hreplay⟩ := hboth
        obtain ⟨hset, status, hstatus⟩ := triggerAnswers_ok henabled hreplay
        obtain ⟨hsettled, hclaims⟩ | ⟨hunsettled, hdone⟩ := hworked
        · have hsame : ∀ claimId, Scheduled s' claimId ↔ Scheduled s claimId := by
            intro claimId
            unfold Scheduled
            rw [hclaims]
          refine ⟨?_, fun claimId hscheduled _ => (hsame claimId).mpr hscheduled, ?_⟩
          · intro claimId claim hfound
            rw [hclaims] at hfound
            exact howned claimId claim hfound
          intro found other hfound hother hnot
          rw [hdue] at hfound
          cases hfound
          rw [hstored] at hother
          cases hother
          exact absurd hsettled hnot
        rw [triggerAnswers_store hset hstatus hunsettled]
        refine ⟨hdone.owned, hdone.takenOver.kept, ?_⟩
        intro found other hfound hother _
        rw [hdue] at hfound
        cases hfound
        rw [hstored] at hother
        cases hother
        exact ⟨hdone.takenOver.exact, hdone.keptLater⟩
      · intro _ _ hfailed
        exact hfailed.1

end Triggers

section Runs

variable [TriggerDigests] {start : RestorationScheduler}

/-- The state that a tick leaves, also where it fails. -/
def afterTick (now : MonotonicMs) (s : RestorationScheduler) (store : σ) : RestorationScheduler :=
  match (tickWith now s store).1 with
  | .ok _ s' => s'
  | .error _ s' => s'

/-- The states of a scheduler that is called and ticked. The store is the coordinator's own and may have
changed in any way from one tick to the next. -/
inductive ControlledReach (σ : Type) [RestorationController σ] (start : RestorationScheduler) :
    RestorationScheduler → Prop
  | start : ControlledReach σ start start
  | call {s : RestorationScheduler} (reach : ControlledReach σ start s) (op : ScheduleOp) (hcall : IsCall op) :
    ControlledReach σ start (final (apply op) s)
  | tick {s : RestorationScheduler} (reach : ControlledReach σ start s) (now : MonotonicMs) (store : σ) :
    ControlledReach σ start (afterTick now s store)

/-- What a tick that returns leaves: the claims that are still pending, and behind a trigger that was planned
or recovered the receiver's pending claims and no others. -/
structure TickDone (now : MonotonicMs) (store : σ) (s s' : RestorationScheduler) : Prop where
  kept : Kept s (tickWith now s store).2 s'
  taken : ∀ triggerId scheduled, s.enabled = true → dueTriggerId s.triggers now = some triggerId →
    s.triggers[triggerId]? = some scheduled →
    ¬ Settled scheduled (tickTriggerAnswers s now store).1 →
    Exact scheduled.trigger.receiverId (tickWith now s store).2 s' ∧
      (scheduled.purpose = .primary →
        MetUnresolved (newlyConfigured s scheduled) (tickTriggerAnswers s now store).1 →
        KeptLater triggerId scheduled now s')

section
omit [TriggerDigests]

theorem processDueTrigger_interval (answers : TriggerAnswers) (now : MonotonicMs) :
    Steps SameInterval (processDueTrigger answers now) := by
  unfold processDueTrigger
  apply steps_get
  intro s
  split
  · exact rfl
  next triggerId _ =>
    split
    · exact rfl
    next scheduled _ =>
      rw [holds_bind, holds_set]
      exact processTaken_steps sameInterval_triggerStable _ answers now _

/-- One tick, whether it returns or fails. -/
theorem tickWith_done (now : MonotonicMs) (store : σ) (hinterval : 0 < s.retryIntervalMs)
    (howned : Owned (receiverOf σ) s) :
    Owned (receiverOf σ) (afterTick now s store) ∧ SameInterval s (afterTick now s store) ∧
      ∀ s', (tickWith now s store).1 = .ok () s' → TickDone now store s s' := by
  by_cases henabled : s.enabled = true
  · have hphase := @processDueTrigger_done σ _ s now store hinterval howned
    have hsame := processDueTrigger_interval (tickTriggerAnswers s now store).1 now s
    cases hcall : processDueTrigger (tickTriggerAnswers s now store).1 now s with
    | error error failed =>
      have htick : tickWith now s store = (.error error failed, (tickTriggerAnswers s now store).2) := by
        simp only [tickWith, henabled, hcall]
        rfl
      unfold afterTick
      rw [htick]
      refine ⟨?_, ?_, fun s' hok => by cases hok⟩
      · have hfailed := holds_error hphase hcall
        exact hfailed
      have hfailed := holds_error hsame hcall
      exact hfailed
    | ok _ middle =>
      have htick : tickWith now s store = (processDueClaims now
          (tickClaimAnswers now s.claimsPerTick middle (tickTriggerAnswers s now store).2).1 middle,
          (tickClaimAnswers now s.claimsPerTick middle (tickTriggerAnswers s now store).2).2) := by
        simp only [tickWith, henabled, hcall]
        rfl
      have hmiddle := holds_ok hphase hcall
      have hinterval' := holds_ok hsame hcall
      have hclaims := processDueClaims_done now s.claimsPerTick (tickTriggerAnswers s now store).2 hmiddle.owned
      have hframed := processDueClaims_steps framed_claimStable now
        (tickClaimAnswers now s.claimsPerTick middle (tickTriggerAnswers s now store).2).1 middle
      cases hrest : processDueClaims now
          (tickClaimAnswers now s.claimsPerTick middle (tickTriggerAnswers s now store).2).1 middle with
      | error error failed =>
        rw [hrest] at htick
        unfold afterTick
        rw [htick]
        refine ⟨?_, ?_, fun s' hok => by cases hok⟩
        · have hfailed := holds_error hclaims hrest
          exact hfailed
        have hfailed := holds_error hframed hrest
        exact IsTrans.trans _ _ _ hinterval' hfailed.interval
      | ok _ last =>
        have hdone := holds_ok hclaims hrest
        rw [hrest] at htick
        unfold afterTick
        rw [htick]
        refine ⟨hdone.owned, IsTrans.trans _ _ _ hinterval' hdone.framed.interval, ?_⟩
        intro s' hok
        cases hok
        constructor
        · rw [htick]
          exact hdone.kept s hmiddle.kept
        intro triggerId scheduled _ hdue hstored hunsettled
        obtain ⟨hexact, hlater⟩ := hmiddle.taken triggerId scheduled hdue hstored hunsettled
        rw [htick]
        refine ⟨hdone.exact _ hexact, fun hprimary hmet => ?_⟩
        obtain ⟨due, hfound, hdueLater⟩ := hlater hprimary hmet
        refine ⟨due, ?_, hdueLater⟩
        rw [hdone.framed.triggers]
        exact hfound
  · have hdisabled : s.enabled = false := eq_false_of_ne_true henabled
    have hidle : tickWith now s store = (.ok () s, store) := by
      unfold tickWith
      rw [if_pos hdisabled]
    unfold afterTick
    rw [hidle]
    refine ⟨howned, rfl, ?_⟩
    intro s' hok
    cases hok
    constructor
    · intro claimId hscheduled _
      exact hscheduled
    intro _ _ hon
    exact absurd hon henabled

end

theorem controlledReach_owned (hinterval : 0 < start.retryIntervalMs) (hempty : start.claims = ∅)
    (h : ControlledReach σ start s) :
    Owned (receiverOf σ) s ∧ 0 < s.retryIntervalMs := by
  induction h with
  | start =>
    refine ⟨?_, hinterval⟩
    intro claimId claim hstored
    rw [hempty, Std.TreeMap.getElem?_emptyc] at hstored
    cases hstored
  | @call before reach op hcall ih =>
    have hkept := (apply_callKept op hcall).final before
    refine ⟨ih.1.callKept hkept, ?_⟩
    rw [hkept.interval]
    exact ih.2
  | tick _ now store ih =>
    obtain ⟨howned, hsame, -⟩ := tickWith_done now store ih.2 ih.1
    refine ⟨howned, ?_⟩
    rw [hsame]
    exact ih.2

omit [TriggerDigests] in
theorem new_interval {Session : Type} {enabled : Bool} {session : Option Session} {processNonce : List UInt8}
    {leaseDurationMs : LeaseDurationMs}
    {authorityWindowMs retryIntervalMs claimsPerTick maxTriggers maxClaims : Nat}
    (h : new enabled session processNonce leaseDurationMs authorityWindowMs retryIntervalMs claimsPerTick
      maxTriggers maxClaims = .ok start) : 0 < start.retryIntervalMs := by
  unfold new at h
  split at h
  · cases h
  next hvalid =>
    cases h
    rw [not_or, not_or, not_or] at hvalid
    exact Nat.pos_of_ne_zero hvalid.2.2.1

/-- In every run against a coordinator with one store, a tick that returns drops no claim that is still pending.
Behind a trigger that was planned or recovered the receiver's scheduled claims are its pending records, and a
primary trigger that met an unresolved claim is pending again, later than now. -/
theorem pending_claims_kept {Session : Type} {enabled : Bool} {session : Option Session}
    {processNonce : List UInt8} {leaseDurationMs : LeaseDurationMs}
    {authorityWindowMs retryIntervalMs claimsPerTick maxTriggers maxClaims : Nat}
    {start : RestorationScheduler}
    (hnew : new enabled session processNonce leaseDurationMs authorityWindowMs retryIntervalMs claimsPerTick
      maxTriggers maxClaims = .ok start)
    (h : ControlledReach σ start s) (now : MonotonicMs) (store : σ) {s' : RestorationScheduler}
    (hok : (tickWith now s store).1 = .ok () s') :
    (∀ claimId claim, s.claims[claimId]? = some claim → Pending (tickWith now s store).2 claimId →
      ∃ kept, s'.claims[claimId]? = some kept) ∧
    (∀ triggerId scheduled, s.enabled = true → dueTriggerId s.triggers now = some triggerId →
      s.triggers[triggerId]? = some scheduled →
      ¬ Settled scheduled (tickTriggerAnswers s now store).1 →
      (∀ claimId, (∃ claim, s'.claims[claimId]? = some claim ∧
          claim.receiverId = scheduled.trigger.receiverId) ↔
        ∃ record, records (tickWith now s store).2 claimId = some record ∧
          record.receiverId = scheduled.trigger.receiverId ∧ record.status.isTerminal = false) ∧
      (scheduled.purpose = .primary →
        MetUnresolved (newlyConfigured s scheduled) (tickTriggerAnswers s now store).1 →
        ∃ due, s'.triggers[triggerId]? = some { scheduled with due := due } ∧ now < due)) := by
  obtain ⟨howned, hinterval⟩ := controlledReach_owned (new_interval hnew) (new_ok hnew).2.2.2 h
  obtain ⟨hlast, -, hdone⟩ := tickWith_done now store hinterval howned
  have hstate : afterTick now s store = s' := by
    unfold afterTick
    rw [hok]
  rw [hstate] at hlast
  replace hdone := hdone s' hok
  refine ⟨fun claimId claim hstored hpending => hdone.kept claimId ⟨claim, hstored⟩ hpending, ?_⟩
  intro triggerId scheduled henabled hdue hstored hunsettled
  obtain ⟨hexact, hlater⟩ := hdone.taken triggerId scheduled henabled hdue hstored hunsettled
  refine ⟨fun claimId => ?_, hlater⟩
  constructor
  · intro hclaim
    obtain ⟨claim, hfound, hreceiver⟩ := hclaim
    have howner : receiverOf σ claimId = scheduled.trigger.receiverId :=
      (hlast claimId claim hfound).symm.trans hreceiver
    obtain ⟨record, hrecord, hlive⟩ := (pending_iff _ _).mp ((hexact claimId howner).mp ⟨claim, hfound⟩)
    exact ⟨record, hrecord, (records_owner _ _ _ hrecord).2.trans howner, hlive⟩
  intro hrecord
  obtain ⟨record, hfound, hreceiver, hlive⟩ := hrecord
  have howner : receiverOf σ claimId = scheduled.trigger.receiverId :=
    (records_owner _ _ _ hfound).2.symm.trans hreceiver
  obtain ⟨claim, hclaim⟩ := (hexact claimId howner).mpr ((pending_iff _ _).mpr ⟨record, hfound, hlive⟩)
  exact ⟨claim, hclaim, (hlast claimId claim hclaim).trans howner⟩

end Runs

section Samples

/-- A coordinator with one claim, which finds the authority taken whenever it is advanced. -/
@[reducible] def conflictedController : RestorationController Unit where
  receiverOf _ := mouseClaim.receiverId
  records _ claimId := if claimId = mouseClaim.claimId then some mouseClaim else none
  setEnabled _ _ store := (.ok (), store)
  pendingRecords receiverId _ := .ok (if receiverId = mouseClaim.receiverId then [mouseClaim] else [])
  rebindCompatibleStableIntents _ store := (.ok 0, store)
  planRestore _ store := (.error .priorClaimUnresolved, store)
  queueDesiredEffectReplay _ store := (.ok .notAvailable, store)
  advanceClaim claimId store :=
    (if claimId = mouseClaim.claimId then .ok (.deferred mouseClaim) else .error .unknownClaim, store)
  dispatchClaim _ store := (.error .unknownClaim, store)
  records_owner store claimId record h := by
    split at h
    next hclaim =>
      cases h
      exact ⟨hclaim.symm, rfl⟩
    · cases h
  pendingRecords_ok receiverId store pending h record := by
    cases h
    split
    next hreceiver =>
      rw [List.mem_singleton]
      constructor
      · intro hrecord
        rw [hrecord, hreceiver]
        exact ⟨if_pos rfl, rfl, rfl⟩
      intro hrecord
      obtain ⟨hstored, -, -⟩ := hrecord
      split at hstored
      · exact (Option.some.inj hstored).symm
      · cases hstored
    next hreceiver =>
      refine ⟨fun hrecord => absurd hrecord List.not_mem_nil, fun hrecord => ?_⟩
      obtain ⟨hstored, -, howner⟩ := hrecord
      split at hstored
      · cases hstored
        exact absurd howner.symm hreceiver
      · cases hstored
  advanceClaim_ok claimId store result h := by
    dsimp only at h ⊢
    split at h
    next hclaim =>
      cases h
      exact if_pos hclaim
    · cases h
  advanceClaim_terminal claimId store record h := by
    dsimp only at h
    split at h
    · cases h
    · cases h
  advanceClaim_others _ _ _ _ := Iff.rfl
  dispatchClaim_ok _ _ _ h := by cases h
  dispatchClaim_others _ _ _ _ := Iff.rfl

def returnedSchedule : RestorationScheduler :=
  letI := returnDigests
  final (apply (.primaryReturn sampleEpoch.key.receiverId sampleEpoch.key.generationId none none
    (.lit 2000))) consumedStart

def retryingSchedule : RestorationScheduler :=
  letI := returnDigests
  letI := conflictedController
  afterTick (.lit 2000) returnedSchedule ()

theorem retryingSchedule_ok :
    letI := returnDigests
    letI := conflictedController
    (tickWith (.lit 2000) returnedSchedule ()).1 = .ok () retryingSchedule := by
  let _ := returnDigests
  let _ := conflictedController
  apply eq_ok_of_answer
  decide +kernel

/-- What an earlier process left pending is scheduled again behind the first trigger of its receiver. -/
theorem pending_claims_kept_recovered :
    letI := returnDigests
    letI := conflictedController
    ∃ scheduled, returnedSchedule.triggers[returnDigestText .deviceReturn .primary]? = some scheduled ∧
      ((∃ claim, retryingSchedule.claims[mouseClaim.claimId]? = some claim ∧
          claim.receiverId = scheduled.trigger.receiverId) ↔
        ∃ record, records () mouseClaim.claimId = some record ∧
          record.receiverId = scheduled.trigger.receiverId ∧ record.status.isTerminal = false) := by
  let _ := returnDigests
  let _ := conflictedController
  have hreach : ControlledReach Unit consumedStart returnedSchedule :=
    .call .start (.primaryReturn sampleEpoch.key.receiverId sampleEpoch.key.generationId none none
      (.lit 2000)) trivial
  obtain ⟨-, htaken⟩ := pending_claims_kept consumedStart_new hreach (.lit 2000) ()
    retryingSchedule_ok
  have hstored : (returnedSchedule.triggers[returnDigestText .deviceReturn .primary]?).isSome = true := by
    decide +kernel
  obtain ⟨scheduled, hscheduled⟩ := Option.isSome_iff_exists.mp hstored
  have hprimary : scheduled.purpose = .primary := by
    have hpurpose : (returnedSchedule.triggers[returnDigestText .deviceReturn .primary]?).map (·.purpose) =
        some .primary := by decide +kernel
    rw [hscheduled] at hpurpose
    exact Option.some.inj hpurpose
  refine ⟨scheduled, hscheduled, ?_⟩
  refine (htaken (returnDigestText .deviceReturn .primary) scheduled (by decide +kernel) (by decide +kernel)
    hscheduled ?_).1 mouseClaim.claimId
  intro hsettled
  obtain ⟨attempt, hattempt⟩ := hsettled.1
  rw [hprimary] at hattempt
  cases hattempt

end Samples

end RestorationScheduler

end HyperfluxNext
