import HyperfluxNext.Daemon.ScheduleBounds

namespace HyperfluxNext

open Procedure

/-- The durable coordinator behind the scheduler. Its answers are arbitrary, but they are answers about one
store of restore records: a claim id names one record of one receiver, what is pending is what the store
holds, and a call about a claim answers with that claim's record and leaves the other claims pending or not
as they were. -/
class RestorationController (σ : Type) where
  receiverOf : RestoreClaimId → ReceiverId
  records : σ → RestoreClaimId → Option RestoreRecord
  setEnabled : ReceiverId → Bool → σ → Except RestorationError Unit × σ
  pendingRecords : ReceiverId → σ → Except RestorationError (List RestoreRecord)
  rebindCompatibleStableIntents : RestoreTrigger → σ → Except RestorationError Nat × σ
  planRestore : RestoreTrigger → σ → Except RestorationError RestorePlanResult × σ
  queueDesiredEffectReplay : DeviceKey → σ →
    Except RestorationScheduleError RestorationScheduler.DesiredEffectReplayStatus × σ
  advanceClaim : RestoreClaimId → σ → Except RestorationError RestoreAdvanceResult × σ
  dispatchClaim : RestoreClaimId → σ → Except RestorationError RestoreRecord × σ
  records_owner : ∀ (store : σ) (claimId : RestoreClaimId) (record : RestoreRecord),
    records store claimId = some record → record.claimId = claimId ∧ record.receiverId = receiverOf claimId
  pendingRecords_ok : ∀ (receiverId : ReceiverId) (store : σ) (pending : List RestoreRecord),
    pendingRecords receiverId store = .ok pending → ∀ record : RestoreRecord, record ∈ pending ↔
      records store record.claimId = some record ∧ record.status.isTerminal = false ∧
        record.receiverId = receiverId
  advanceClaim_ok : ∀ (claimId : RestoreClaimId) (store : σ) (result : RestoreAdvanceResult),
    (advanceClaim claimId store).1 = .ok result →
      records (advanceClaim claimId store).2 claimId = some (recordFromAdvance result)
  advanceClaim_terminal : ∀ (claimId : RestoreClaimId) (store : σ) (record : RestoreRecord),
    (advanceClaim claimId store).1 = .ok (.terminal record) → record.status.isTerminal = true
  advanceClaim_others : ∀ (claimId other : RestoreClaimId) (store : σ), other ≠ claimId →
    ((records (advanceClaim claimId store).2 other).any (! ·.status.isTerminal) ↔
      (records store other).any (! ·.status.isTerminal))
  dispatchClaim_ok : ∀ (claimId : RestoreClaimId) (store : σ) (record : RestoreRecord),
    (dispatchClaim claimId store).1 = .ok record → records (dispatchClaim claimId store).2 claimId = some record
  dispatchClaim_others : ∀ (claimId other : RestoreClaimId) (store : σ), other ≠ claimId →
    ((records (dispatchClaim claimId store).2 other).any (! ·.status.isTerminal) ↔
      (records store other).any (! ·.status.isTerminal))

namespace RestorationController

variable {σ : Type} [RestorationController σ]

def Pending (store : σ) (claimId : RestoreClaimId) : Prop := (records store claimId).any (! ·.status.isTerminal)

section Triggers

variable (scheduled : ScheduledTrigger) (newlyConfigured : Bool) (store : σ)

def enabledAnswer : Except RestorationError Unit × σ :=
  if newlyConfigured then setEnabled scheduled.trigger.receiverId true store else (.ok (), store)

def replayAnswer : Except RestorationScheduleError RestorationScheduler.DesiredEffectReplayStatus × σ :=
  let store := (enabledAnswer scheduled newlyConfigured store).2
  match scheduled.purpose, scheduled.trigger.targetDeviceId with
  | .returnAttempt _, some deviceId => queueDesiredEffectReplay
    ⟨scheduled.trigger.receiverId, scheduled.trigger.generationId, deviceId⟩ store
  | _, _ => (.ok .notAvailable, store)

def reboundAnswer : Except RestorationError Nat × σ :=
  rebindCompatibleStableIntents scheduled.trigger (replayAnswer scheduled newlyConfigured store).2

/-- Whether the scheduler asks for a plan: not where it recovers what an earlier process left pending. -/
def asksPlan : Bool :=
  let rebound := reboundAnswer scheduled newlyConfigured store
  match rebound.1, pendingRecords scheduled.trigger.receiverId rebound.2 with
  | .ok migrated, .ok pending => ! newlyConfigured ∨ pending.isEmpty ∨ migrated > 0
  | .ok _, .error _ => ! newlyConfigured
  | .error _, _ => false

def plannedAnswer : Except RestorationError RestorePlanResult × σ :=
  let store' := (reboundAnswer scheduled newlyConfigured store).2
  if asksPlan scheduled newlyConfigured store then planRestore scheduled.trigger store'
  else (.ok .disabled, store')

/-- What the coordinator answers for a due trigger, with the store after the calls. They are made one after
the other, up to the first failure or to an effect replay that takes the trigger over. -/
def triggerAnswers : RestorationScheduler.TriggerAnswers × σ :=
  let enabled := enabledAnswer scheduled newlyConfigured store
  let replay := replayAnswer scheduled newlyConfigured store
  let rebound := reboundAnswer scheduled newlyConfigured store
  let planned := plannedAnswer scheduled newlyConfigured store
  (⟨enabled.1, replay.1, rebound.1, pendingRecords scheduled.trigger.receiverId rebound.2, planned.1,
    pendingRecords scheduled.trigger.receiverId planned.2⟩,
    match enabled.1, replay.1 with
    | .error _, _ => enabled.2
    | .ok _, .error _ => replay.2
    | .ok _, .ok .queued => replay.2
    | .ok _, .ok .deferred => replay.2
    | .ok _, .ok _ => planned.2)

end Triggers

/-- What the coordinator answers for a due claim, with the store after the calls. -/
def claimAnswers (claimId : RestoreClaimId) (receiverId : ReceiverId) (store : σ) :
    RestorationScheduler.ClaimAnswers × σ :=
  let advanced := advanceClaim claimId store
  let dispatched := match advanced.1 with
    | .ok (.queued record) => dispatchClaim record.claimId advanced.2
    | _ => (.error .unknownClaim, advanced.2)
  (⟨advanced.1, dispatched.1, pendingRecords receiverId advanced.2⟩, dispatched.2)

end RestorationController

namespace RestorationScheduler

open RestorationController

variable {σ : Type} [RestorationController σ]

/-- The trigger that a tick takes. -/
def dueTrigger (s : RestorationScheduler) (now : MonotonicMs) : Option ScheduledTrigger :=
  (dueTriggerId s.triggers now).bind (s.triggers[·]?)

def newlyConfigured (s : RestorationScheduler) (scheduled : ScheduledTrigger) : Bool :=
  scheduled.trigger.receiverId ∉ s.configuredReceivers

def tickTriggerAnswers (s : RestorationScheduler) (now : MonotonicMs) (store : σ) : TriggerAnswers × σ :=
  match dueTrigger s now with
  | none => (⟨.ok (), .ok .notAvailable, .ok 0, .ok [], .ok .noStableIntents, .ok []⟩, store)
  | some scheduled => triggerAnswers scheduled (newlyConfigured s scheduled) store

def tickClaimAnswers (now : MonotonicMs) : Nat → RestorationScheduler → σ → List ClaimAnswers × σ
  | 0, _, store => ([], store)
  | limit + 1, s, store =>
    match (dueClaimId s.claims now).bind fun claimId => (s.claims[claimId]?).map (claimId, ·) with
    | none => ([], store)
    | some (claimId, claim) =>
      let (answers, after) := claimAnswers claimId claim.receiverId store
      match processDueClaim answers now s with
      | .error _ _ => ([answers], after)
      | .ok _ s' =>
        let (rest, last) := tickClaimAnswers now limit s' after
        (answers :: rest, last)

/-- One tick against the coordinator, with the store it leaves. -/
def tickWith (now : MonotonicMs) (s : RestorationScheduler) (store : σ) :
    EStateM.Result RestorationScheduleError RestorationScheduler Unit × σ :=
  if s.enabled = false then
    (.ok () s, store)
  else
    let (trigger, planned) := tickTriggerAnswers s now store
    match processDueTrigger trigger now s with
    | .error error s' => (.error error s', planned)
    | .ok _ s' =>
      let (claims, last) := tickClaimAnswers now s.claimsPerTick s' planned
      (processDueClaims now claims s', last)

end RestorationScheduler

end HyperfluxNext
