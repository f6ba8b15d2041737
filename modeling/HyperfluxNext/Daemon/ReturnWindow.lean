import HyperfluxNext.Daemon.ClockLines
import HyperfluxNext.Lifecycle.ReturnEpoch

namespace HyperfluxNext

namespace ReturnLifecycle

open List

/-- How far a delivery is proven. -/
def deliveryRank : RestoreDeliveryState → Nat
  | .notAttempted => 0
  | .receiverRejected => 1
  | .outcomeUncertain => 2
  | .receiverDelivered => 3
  | .childRejected => 4
  | .childConfirmed => 5

theorem mergeDelivery_rank (current candidate : RestoreDeliveryState) :
    deliveryRank (mergeDelivery current candidate) = max (deliveryRank current) (deliveryRank candidate) := by
  cases current <;> cases candidate <;> rfl

structure Mirrored (lifecycle : EndpointReturnLifecycle) : Prop where
  returning : lifecycle.phase = .returning ↔ ∃ epoch, lifecycle.epoch = some epoch ∧ epoch.phase = .returning
  confirmed : ∀ epoch, lifecycle.epoch = some epoch →
    (epoch.phase = .synchronized ↔ epoch.delivery = .childConfirmed)

/-- The same epoch, later: what opened it stays and its delivery is proven at least as far. -/
structure SameEpoch (old new : ReturnEpoch) : Prop where
  sequence : new.sequence = old.sequence
  openedAtMs : new.openedAtMs = old.openedAtMs
  openingEvidence : new.openingEvidence = old.openingEvidence
  delivery : deliveryRank old.delivery ≤ deliveryRank new.delivery

theorem SameEpoch.refl (epoch : ReturnEpoch) : SameEpoch epoch epoch := ⟨rfl, rfl, rfl, Nat.le_refl _⟩

def EpochKept (lifecycle : EndpointReturnLifecycle) (transition : ReturnTransition)
    (next : EndpointReturnLifecycle) : Prop :=
  ∀ epoch, next.epoch = some epoch → transition = .epochOpened epoch ∨
    ∃ old, lifecycle.epoch = some old ∧ SameEpoch old epoch

namespace EndpointReturnLifecycle

variable {lifecycle : EndpointReturnLifecycle}

/-- What closing an elapsed window does. -/
theorem completeIfExpired_cases (lifecycle : EndpointReturnLifecycle) (now : MonotonicMs) :
    lifecycle.completeIfExpired now = (none, lifecycle) ∨
    ∃ epoch, lifecycle.epoch = some epoch ∧ epoch.phase = .returning ∧
      epoch.openedAtMs.get + lifecycle.policy.finalOffset < now.get ∧
      lifecycle.completeIfExpired now = (some { epoch with phase := .stable },
        { lifecycle with epoch := some { epoch with phase := .stable }, phase := .stable }) := by
  unfold completeIfExpired
  split
  · exact .inl rfl
  next epoch hepoch =>
    split
    · exact .inl rfl
    next hreturning =>
      split
      · exact .inl rfl
      next helapsed =>
        refine .inr ⟨epoch, hepoch, not_not.mp hreturning, ?_, rfl⟩
        have hrange := now.upper
        unfold EndpointReturnPolicy.deadline at helapsed
        omega

theorem completeIfExpired_mirrored (h : Mirrored lifecycle) (now : MonotonicMs) :
    Mirrored (lifecycle.completeIfExpired now).2 := by
  obtain hsame | ⟨epoch, hepoch, hphase, -, hcompleted⟩ := completeIfExpired_cases lifecycle now
  · rw [hsame]
    exact h
  have hconfirmed := h.confirmed epoch hepoch
  rw [hcompleted]
  constructor
  · constructor
    · intro hreturning
      cases hreturning
    intro hreturning
    obtain ⟨found, hfound, hstable⟩ := hreturning
    cases hfound
    cases hstable
  intro found hfound
  cases hfound
  constructor
  · intro hsynchronized
    cases hsynchronized
  intro hdelivery
  rw [hphase] at hconfirmed
  cases hconfirmed.mpr hdelivery

theorem completeIfExpired_kept (lifecycle : EndpointReturnLifecycle) (now : MonotonicMs)
    {epoch : ReturnEpoch} (h : (lifecycle.completeIfExpired now).2.epoch = some epoch) :
    ∃ old, lifecycle.epoch = some old ∧ SameEpoch old epoch := by
  obtain hsame | ⟨old, hold, -, -, hcompleted⟩ := completeIfExpired_cases lifecycle now
  · rw [hsame] at h
    exact ⟨epoch, h, .refl epoch⟩
  rw [hcompleted] at h
  cases h
  exact ⟨old, hold, rfl, rfl, rfl, Nat.le_refl _⟩

theorem completeIfExpired_policy (lifecycle : EndpointReturnLifecycle) (now : MonotonicMs) :
    (lifecycle.completeIfExpired now).2.policy = lifecycle.policy := by
  obtain hsame | ⟨_, -, -, -, hcompleted⟩ := completeIfExpired_cases lifecycle now
  · rw [hsame]
  · rw [hcompleted]

theorem mirrored_of_none (hepoch : lifecycle.epoch = none) (hphase : lifecycle.phase ≠ .returning) :
    Mirrored lifecycle := by
  refine ⟨⟨fun h => absurd h hphase, ?_⟩, ?_⟩
  · intro h
    obtain ⟨epoch, hsome, -⟩ := h
    rw [hepoch] at hsome
    cases hsome
  intro epoch hsome
  rw [hepoch] at hsome
  cases hsome

theorem mirrored_congr {next : EndpointReturnLifecycle} (h : Mirrored lifecycle)
    (hphase : next.phase = lifecycle.phase) (hepoch : next.epoch = lifecycle.epoch) : Mirrored next := by
  refine ⟨?_, ?_⟩
  · rw [hphase, hepoch]
    exact h.returning
  rw [hepoch]
  exact h.confirmed

/-- What one step does, given the epoch whose window it closed. -/
structure Stepped (lifecycle : EndpointReturnLifecycle) (completed : Option ReturnEpoch)
    (transition : ReturnTransition) (next : EndpointReturnLifecycle) : Prop where
  policy : next.policy = lifecycle.policy
  mirrored : Mirrored next
  kept : EpochKept lifecycle transition next
  accelerated : ∀ epoch, transition = .epochAccelerated epoch →
    lifecycle.epoch = some epoch ∧ next.epoch = some epoch
  reported : ∀ epoch, transition = .windowCompleted epoch → completed = some epoch
  stayed : next.phase = .returning →
    (completed = none ∧ lifecycle.phase = .returning) ∨ ∃ epoch, transition = .epochOpened epoch

theorem Stepped.dropped {completed : Option ReturnEpoch} {transition : ReturnTransition}
    {next : EndpointReturnLifecycle} (hpolicy : next.policy = lifecycle.policy)
    (hepoch : next.epoch = none) (hended : next.phase ≠ .returning)
    (haccelerated : ∀ epoch, transition ≠ .epochAccelerated epoch)
    (hreported : ∀ epoch, transition = .windowCompleted epoch → completed = some epoch) :
    Stepped lifecycle completed transition next := by
  refine ⟨hpolicy, mirrored_of_none hepoch hended, ?_, ?_, hreported, ?_⟩
  · intro epoch hsome
    rw [hepoch] at hsome
    cases hsome
  · intro epoch htransition
    exact absurd htransition (haccelerated epoch)
  intro hreturning
  exact absurd hreturning hended

theorem Stepped.quiet {completed : Option ReturnEpoch} {next : EndpointReturnLifecycle}
    (hpolicy : next.policy = lifecycle.policy) (hmirrored : Mirrored next)
    (hkept : ∀ epoch, next.epoch = some epoch → ∃ old, lifecycle.epoch = some old ∧ SameEpoch old epoch)
    (hstayed : next.phase = .returning → completed = none ∧ lifecycle.phase = .returning) :
    Stepped lifecycle completed .none next := by
  refine ⟨hpolicy, hmirrored, fun epoch hepoch => .inr (hkept epoch hepoch), ?_, ?_,
    fun hphase => .inl (hstayed hphase)⟩
  · intro _ haccelerated
    cases haccelerated
  intro _ hreported
  cases hreported

theorem completedTransition_reported {completed : Option ReturnEpoch} {epoch : ReturnEpoch}
    (h : completedTransition completed = .windowCompleted epoch) : completed = some epoch := by
  cases completed with
  | none => cases h
  | some other =>
    cases h
    rfl

theorem completedTransition_accelerated {completed : Option ReturnEpoch} {epoch : ReturnEpoch} :
    completedTransition completed ≠ .epochAccelerated epoch := by
  cases completed <;> exact nofun

theorem completeIfExpired_closed (lifecycle : EndpointReturnLifecycle) (now : MonotonicMs)
    (h : (lifecycle.completeIfExpired now).1 ≠ none) :
    (lifecycle.completeIfExpired now).2.phase = .stable ∧
      ∀ epoch, (lifecycle.completeIfExpired now).2.epoch = some epoch → epoch.phase = .stable := by
  obtain hsame | ⟨_, -, -, -, hcompleted⟩ := completeIfExpired_cases lifecycle now
  · rw [hsame] at h
    exact absurd rfl h
  rw [hcompleted]
  refine ⟨rfl, fun epoch hepoch => ?_⟩
  cases hepoch
  rfl

theorem completeIfExpired_stayed (lifecycle : EndpointReturnLifecycle) (now : MonotonicMs)
    (h : (lifecycle.completeIfExpired now).2.phase = .returning) :
    (lifecycle.completeIfExpired now).1 = none ∧ lifecycle.phase = .returning := by
  obtain hsame | ⟨_, -, -, -, hcompleted⟩ := completeIfExpired_cases lifecycle now
  · rw [hsame] at h ⊢
    exact ⟨rfl, h⟩
  rw [hcompleted] at h
  cases h

theorem observe_stepped (h : Mirrored lifecycle) (evidence : ReturnEvidence) (sequence : SequenceNumber)
    (observedAtMs : MonotonicMs) (hfresh : lifecycle.isStale sequence observedAtMs = false) :
    Stepped lifecycle (lifecycle.completeIfExpired observedAtMs).1
      (lifecycle.observe evidence sequence observedAtMs).1
      (lifecycle.observe evidence sequence observedAtMs).2 := by
  have hmirrored := completeIfExpired_mirrored h observedAtMs
  have hkept := fun epoch => @completeIfExpired_kept lifecycle observedAtMs epoch
  have hpolicy := completeIfExpired_policy lifecycle observedAtMs
  have hclosed := completeIfExpired_closed lifecycle observedAtMs
  have hstayed := completeIfExpired_stayed lifecycle observedAtMs
  unfold observe
  rw [if_neg (by rw [hfresh]; decide)]
  dsimp only
  split
  · refine .dropped hpolicy rfl (fun hphase => ?_) (fun _ haccelerated => ?_) (fun _ hreported => ?_)
    · cases hphase
    · cases haccelerated
    · cases hreported
  split
  · refine .dropped hpolicy rfl (fun hphase => ?_) (fun _ => completedTransition_accelerated)
      (fun _ => completedTransition_reported)
    cases hphase
  split
  · refine ⟨hpolicy, ?_, ?_, fun _ haccelerated => ?_, fun _ hreported => ?_, ?_⟩
    · refine ⟨⟨fun _ => ⟨_, rfl, rfl⟩, fun _ => rfl⟩, ?_⟩
      intro epoch hepoch
      cases hepoch
      constructor
      · intro hsynchronized
        cases hsynchronized
      intro hconfirmed
      cases hconfirmed
    · intro epoch hepoch
      cases hepoch
      exact .inl rfl
    · cases haccelerated
    · cases hreported
    intro _
    exact .inr ⟨_, rfl⟩
  have hnoted : Mirrored ((lifecycle.completeIfExpired observedAtMs).2.noteEvidence evidence sequence
      observedAtMs) := mirrored_congr hmirrored rfl rfl
  have hquiet : Stepped lifecycle (lifecycle.completeIfExpired observedAtMs).1
      (completedTransition (lifecycle.completeIfExpired observedAtMs).1)
      ((lifecycle.completeIfExpired observedAtMs).2.noteEvidence evidence sequence observedAtMs) := by
    refine ⟨hpolicy, hnoted, fun epoch hepoch => .inr (hkept epoch hepoch), ?_, ?_, ?_⟩
    · intro epoch haccelerated
      exact absurd haccelerated completedTransition_accelerated
    · intro epoch hreported
      exact completedTransition_reported hreported
    intro hphase
    exact .inl (hstayed hphase)
  split
  · exact hquiet
  next epoch hepoch =>
    split
    next haccelerates =>
      unfold accelerates at haccelerates
      rw [decide_eq_true_iff] at haccelerates
      have hreturning := haccelerates.1
      have hnone : (lifecycle.completeIfExpired observedAtMs).1 = none := by
        by_contra hsome
        have hstable := (hclosed hsome).2 epoch hepoch
        rw [hreturning] at hstable
        cases hstable
      refine ⟨hpolicy, mirrored_congr hnoted rfl rfl, fun found hfound => .inr (hkept found hfound), ?_, nofun, ?_⟩
      · intro found hfound
        cases hfound
        refine ⟨?_, hepoch⟩
        obtain hsame | ⟨_, -, -, -, hcompleted⟩ := completeIfExpired_cases lifecycle observedAtMs
        · rw [hsame] at hepoch
          exact hepoch
        rw [hcompleted] at hnone
        cases hnone
      intro hphase
      exact .inl (hstayed hphase)
    · exact hquiet

/-- Evidence that is not after the last accepted one changes nothing. -/
theorem observe_stale {sequence : SequenceNumber} {observedAtMs : MonotonicMs}
    (h : lifecycle.isStale sequence observedAtMs = true) (evidence : ReturnEvidence) :
    lifecycle.observe evidence sequence observedAtMs = (.none, lifecycle) := by
  unfold observe
  rw [if_pos h]

theorem Stepped.refl (h : Mirrored lifecycle) : Stepped lifecycle none .none lifecycle :=
  .quiet rfl h (fun epoch hepoch => ⟨epoch, hepoch, .refl epoch⟩) (fun hphase => ⟨rfl, hphase⟩)

theorem noteDelivery_stepped (h : Mirrored lifecycle) (epochSequence : SequenceNumber)
    (delivery : RestoreDeliveryState) :
    Stepped lifecycle none (lifecycle.noteDelivery epochSequence delivery).1
      (lifecycle.noteDelivery epochSequence delivery).2 := by
  unfold noteDelivery
  split
  · exact .refl h
  next epoch hepoch =>
    split
    · exact .refl h
    next hactive =>
      have hphase : epoch.phase = .returning := not_not.mp (not_or.mp hactive).2
      have hrank : deliveryRank epoch.delivery ≤ deliveryRank (mergeDelivery epoch.delivery delivery) := by
        rw [mergeDelivery_rank]
        exact Nat.le_max_left _ _
      dsimp only
      split
      next hconfirmed =>
        refine ⟨rfl, ?_, ?_, fun _ haccelerated => ?_, fun _ hreported => ?_, fun hreturning => ?_⟩
        · refine ⟨⟨fun hreturning => ?_, ?_⟩, ?_⟩
          · cases hreturning
          · intro hreturning
            obtain ⟨found, hfound, hsynchronized⟩ := hreturning
            cases hfound
            cases hsynchronized
          intro found hfound
          cases hfound
          exact ⟨fun _ => hconfirmed, fun _ => rfl⟩
        · intro found hfound
          cases hfound
          exact .inr ⟨epoch, hepoch, rfl, rfl, rfl, hrank⟩
        · cases haccelerated
        · cases hreported
        cases hreturning
      next hunconfirmed =>
        refine .quiet rfl ?_ ?_ (fun hreturning => ⟨rfl, hreturning⟩)
        · refine ⟨⟨fun _ => ⟨_, rfl, hphase⟩, fun _ => h.returning.mpr ⟨epoch, hepoch, hphase⟩⟩, ?_⟩
          intro found hfound
          cases hfound
          constructor
          · intro hsynchronized
            rw [show epoch.phase = .synchronized from hsynchronized] at hphase
            cases hphase
          intro hdelivery
          exact absurd hdelivery hunconfirmed
        intro found hfound
        cases hfound
        exact ⟨epoch, hepoch, rfl, rfl, rfl, hrank⟩

theorem advance_stepped (h : Mirrored lifecycle) (now : MonotonicMs) :
    Stepped lifecycle (lifecycle.completeIfExpired now).1 (lifecycle.advance now).1
      (lifecycle.advance now).2 := by
  have hmirrored := completeIfExpired_mirrored h now
  have hkept := fun epoch => @completeIfExpired_kept lifecycle now epoch
  have hpolicy := completeIfExpired_policy lifecycle now
  unfold advance
  dsimp only
  split
  next epoch hcompleted =>
    refine ⟨hpolicy, hmirrored, fun found hfound => .inr (hkept found hfound), ?_, ?_, ?_⟩
    · intro _ haccelerated
      cases haccelerated
    · intro found hfound
      cases hfound
      exact hcompleted
    intro hphase
    exact .inl (completeIfExpired_stayed lifecycle now hphase)
  split
  next hquiet =>
    refine ⟨hpolicy, ⟨⟨fun hreturning => ?_, fun hreturning => ?_⟩, hmirrored.confirmed⟩,
      fun found hfound => .inr (hkept found hfound), fun _ haccelerated => ?_, fun _ hreported => ?_,
      fun hreturning => ?_⟩
    · cases hreturning
    · have hphase := hmirrored.returning.mpr hreturning
      obtain hstable | hsynchronized := hquiet.1
      · exact absurd (hstable.symm.trans hphase) nofun
      · exact absurd (hsynchronized.symm.trans hphase) nofun
    · cases haccelerated
    · cases hreported
    cases hreturning
  exact .quiet hpolicy hmirrored hkept (completeIfExpired_stayed lifecycle now)

end EndpointReturnLifecycle

open EndpointReturnLifecycle

/-- The calls on one endpoint's lifecycle. -/
inductive ReturnOp where
  | observe (evidence : ReturnEvidence) (sequence : SequenceNumber) (observedAtMs : MonotonicMs)
  | noteDelivery (epochSequence : SequenceNumber) (delivery : RestoreDeliveryState)
  | advance (now : MonotonicMs)
  | resetObservationAnchor

namespace ReturnOp

def perform (op : ReturnOp) (lifecycle : EndpointReturnLifecycle) : ReturnTransition × EndpointReturnLifecycle :=
  match op with
  | .observe evidence sequence observedAtMs => lifecycle.observe evidence sequence observedAtMs
  | .noteDelivery epochSequence delivery => lifecycle.noteDelivery epochSequence delivery
  | .advance now => lifecycle.advance now
  | .resetObservationAnchor => (.none, lifecycle.resetObservationAnchor)

/-- The instant a call brings. -/
def clock : ReturnOp → Option MonotonicMs
  | .observe _ _ observedAtMs => some observedAtMs
  | .advance now => some now
  | _ => none

/-- The epoch whose window a call closes. -/
def completes (op : ReturnOp) (lifecycle : EndpointReturnLifecycle) : Option ReturnEpoch :=
  match op with
  | .observe _ sequence observedAtMs =>
    if lifecycle.isStale sequence observedAtMs then none else (lifecycle.completeIfExpired observedAtMs).1
  | .advance now => (lifecycle.completeIfExpired now).1
  | _ => none

theorem perform_stepped {lifecycle : EndpointReturnLifecycle} (h : Mirrored lifecycle) (op : ReturnOp) :
    Stepped lifecycle (op.completes lifecycle) (op.perform lifecycle).1 (op.perform lifecycle).2 := by
  cases op with
  | observe evidence sequence observedAtMs =>
    cases hstale : lifecycle.isStale sequence observedAtMs with
    | true =>
      simp only [completes, perform, hstale, if_true, observe_stale hstale]
      exact .refl h
    | false =>
      simp only [completes, perform, hstale, Bool.false_eq_true, if_false]
      exact observe_stepped h evidence sequence observedAtMs hstale
  | noteDelivery epochSequence delivery => exact noteDelivery_stepped h epochSequence delivery
  | advance now => exact advance_stepped h now
  | resetObservationAnchor =>
    refine .dropped rfl rfl (fun hphase => ?_) (fun _ haccelerated => ?_) (fun _ hreported => ?_)
    · cases hphase
    · cases haccelerated
    · cases hreported

/-- A window is closed for the current epoch, which is returning, after its last offset. -/
theorem completes_spec {lifecycle : EndpointReturnLifecycle} {op : ReturnOp} {completed : ReturnEpoch}
    (h : op.completes lifecycle = some completed) :
    ∃ epoch now, lifecycle.epoch = some epoch ∧ epoch.phase = .returning ∧ SameEpoch epoch completed ∧
      op.clock = some now ∧ completed.openedAtMs.get + lifecycle.policy.finalOffset < now.get := by
  have hclosed : ∀ now, (lifecycle.completeIfExpired now).1 = some completed →
      ∃ epoch, lifecycle.epoch = some epoch ∧ epoch.phase = .returning ∧ SameEpoch epoch completed ∧
        completed.openedAtMs.get + lifecycle.policy.finalOffset < now.get := by
    intro now hcompleted
    obtain hsame | ⟨epoch, hepoch, hphase, helapsed, hclosed⟩ := completeIfExpired_cases lifecycle now
    · rw [hsame] at hcompleted
      cases hcompleted
    rw [hclosed] at hcompleted
    cases hcompleted
    exact ⟨epoch, hepoch, hphase, ⟨rfl, rfl, rfl, Nat.le_refl _⟩, helapsed⟩
  cases op with
  | observe evidence sequence observedAtMs =>
    unfold completes at h
    dsimp only at h
    split at h
    · cases h
    obtain ⟨epoch, hepoch, hphase, hsame, helapsed⟩ := hclosed observedAtMs h
    exact ⟨epoch, observedAtMs, hepoch, hphase, hsame, rfl, helapsed⟩
  | noteDelivery epochSequence delivery => cases h
  | advance now =>
    obtain ⟨epoch, hepoch, hphase, hsame, helapsed⟩ := hclosed now h
    exact ⟨epoch, now, hepoch, hphase, hsame, rfl, helapsed⟩
  | resetObservationAnchor => cases h

end ReturnOp

def opens : ReturnTransition → Nat
  | .epochOpened _ => 1
  | _ => 0

/-- The lifecycle after any run of calls, with the number of epochs opened so far and, for each window that closed, the
number of its epoch. -/
inductive ReturnReach (policy : EndpointReturnPolicy) : Nat → List Nat → EndpointReturnLifecycle → Prop
  | start : ReturnReach policy 0 [] (.new policy)
  | step {opened : Nat} {completed : List Nat} {lifecycle : EndpointReturnLifecycle} (op : ReturnOp) :
      ReturnReach policy opened completed lifecycle →
      ReturnReach policy (opened + opens (op.perform lifecycle).1)
        (completed ++ (op.completes lifecycle).toList.map fun _ => opened) (op.perform lifecycle).2

structure ClosedOnce (opened : Nat) (completed : List Nat) (lifecycle : EndpointReturnLifecycle) : Prop where
  mirrored : Mirrored lifecycle
  distinct : completed.Nodup
  earlier : ∀ number ∈ completed, number ≤ opened
  returning : lifecycle.phase = .returning → opened ∉ completed

variable {opened : Nat} {completed : List Nat} {lifecycle : EndpointReturnLifecycle}

theorem ClosedOnce.step (h : ClosedOnce opened completed lifecycle) (op : ReturnOp) :
    ClosedOnce (opened + opens (op.perform lifecycle).1)
      (completed ++ (op.completes lifecycle).toList.map fun _ => opened) (op.perform lifecycle).2 := by
  have hstepped := op.perform_stepped h.mirrored
  have hearlier : ∀ number ∈ completed ++ (op.completes lifecycle).toList.map fun _ => opened,
      number ≤ opened := by
    intro number hnumber
    obtain hold | hnew := mem_append.mp hnumber
    · exact h.earlier number hold
    obtain ⟨_, -, hsame⟩ := mem_map.mp hnew
    rw [hsame]
  refine ⟨hstepped.mirrored, ?_, ?_, ?_⟩
  · cases hcompletes : op.completes lifecycle with
    | none =>
      rw [Option.toList_none, map_nil, append_nil]
      exact h.distinct
    | some epoch =>
      obtain ⟨current, _, hcurrent, hreturning, -⟩ := ReturnOp.completes_spec hcompletes
      have hopen : opened ∉ completed := h.returning (h.mirrored.returning.mpr ⟨current, hcurrent, hreturning⟩)
      refine nodup_append.mpr ⟨h.distinct, nodup_cons.mpr ⟨not_mem_nil, nodup_nil⟩, ?_⟩
      intro number hnumber other hother hsame
      rw [Option.toList_some, map_singleton, mem_singleton] at hother
      rw [hsame, hother] at hnumber
      exact hopen hnumber
  · intro number hnumber
    have hle := hearlier number hnumber
    omega
  intro hphase hmem
  have hle := hearlier _ hmem
  obtain ⟨hnone, hreturning⟩ | ⟨epoch, hopened⟩ := hstepped.stayed hphase
  · rw [hnone, Option.toList_none, map_nil, append_nil] at hmem
    have hsame : opened + opens (op.perform lifecycle).1 = opened := by omega
    rw [hsame] at hmem
    exact h.returning hreturning hmem
  rw [hopened] at hle
  have hone : opens (.epochOpened epoch) = 1 := rfl
  omega

theorem returnReach_closedOnce {policy : EndpointReturnPolicy}
    (h : ReturnReach policy opened completed lifecycle) :
    ClosedOnce opened completed lifecycle := by
  induction h with
  | start => exact ⟨mirrored_of_none rfl nofun, nodup_nil, nofun, nofun⟩
  | step op _ ih => exact ih.step op

theorem returnReach_policy {policy : EndpointReturnPolicy} (h : ReturnReach policy opened completed lifecycle) :
    lifecycle.policy = policy := by
  induction h with
  | start => rfl
  | step op hreach ih => exact (op.perform_stepped (returnReach_closedOnce hreach).mirrored).policy.trans ih

theorem accelerate_due (scheduler : RestorationScheduler) (key : DeviceKey) (epochSequence : SequenceNumber)
    (evidenceAt : MonotonicMs) {id : RestoreTriggerId} {scheduled : ScheduledTrigger}
    (h : (Procedure.final (RestorationScheduler.accelerateDeviceReturnEpochAt key epochSequence evidenceAt)
      scheduler).triggers[id]? = some scheduled) :
    ∃ old, scheduler.triggers[id]? = some old ∧ scheduled.due.get ≤ old.due.get := by
  have hspec := RestorationScheduler.accelerateDeviceReturnEpochAt_attempts
    (HyperfluxNext.ReturnEvidence.mk key epochSequence 0) evidenceAt scheduler
  have hfinal := Procedure.holds_final (Procedure.holds_mono hspec
    (fun _ after hafter => hafter id scheduled)
    (fun _ after hafter hstored => .inl (by rw [← hafter]; exact hstored)))
  obtain hold | ⟨old, hold, hpulled, hsame⟩ := hfinal h
  · exact ⟨scheduled, hold, Nat.le_refl _⟩
  refine ⟨old, hold, ?_⟩
  unfold RestorationScheduler.acceleratable at hpulled
  rw [decide_eq_true_iff] at hpulled
  rw [hsame]
  exact Nat.le_of_lt hpulled.2.2.2

/-- The phase is returning exactly with a returning epoch, and an epoch is synchronized exactly when its child
confirmed. Each window closed at most once. Whatever is called next, an epoch keeps what opened it and is proven at
least as far; evidence that accelerates leaves the epoch, its due times and its deadline, and the schedule no later; a
window closes only after its last offset; and evidence that is not newer changes nothing. -/
theorem returnReach_epochs {policy : EndpointReturnPolicy} {opened : Nat} {completed : List Nat}
    {lifecycle : EndpointReturnLifecycle} (h : ReturnReach policy opened completed lifecycle) :
    (lifecycle.phase = .returning ↔ ∃ epoch, lifecycle.epoch = some epoch ∧ epoch.phase = .returning) ∧
    (∀ epoch, lifecycle.epoch = some epoch → (epoch.phase = .synchronized ↔ epoch.delivery = .childConfirmed)) ∧
    completed.Nodup ∧
    (∀ (op : ReturnOp), EpochKept lifecycle (op.perform lifecycle).1 (op.perform lifecycle).2 ∧
      (∀ epoch, (op.perform lifecycle).1 = .epochAccelerated epoch →
        (op.perform lifecycle).2.epoch = some epoch ∧ lifecycle.epoch = some epoch ∧
        (op.perform lifecycle).2.policy.dueTimes epoch = lifecycle.policy.dueTimes epoch ∧
        (op.perform lifecycle).2.policy.deadline epoch = lifecycle.policy.deadline epoch) ∧
      (∀ epoch, (op.perform lifecycle).1 = .windowCompleted epoch → op.completes lifecycle = some epoch) ∧
      ∀ epoch, op.completes lifecycle = some epoch → ∃ now, op.clock = some now ∧
        epoch.openedAtMs.get + policy.finalOffset < now.get) ∧
    (∀ (evidence : ReturnEvidence) (sequence : SequenceNumber) (observedAtMs : MonotonicMs),
      ((∃ last, lifecycle.lastSequence = some last ∧ sequence.get ≤ last.get) ∨
        ∃ last, lifecycle.lastObservedAtMs = some last ∧ observedAtMs.get < last.get) →
      lifecycle.observe evidence sequence observedAtMs = (.none, lifecycle)) ∧
    ∀ (scheduler : RestorationScheduler) (key : DeviceKey) (epochSequence : SequenceNumber)
      (evidenceAt : MonotonicMs) (id : RestoreTriggerId) (scheduled : ScheduledTrigger),
      (Procedure.final (RestorationScheduler.accelerateDeviceReturnEpochAt key epochSequence evidenceAt)
        scheduler).triggers[id]? = some scheduled →
      ∃ old, scheduler.triggers[id]? = some old ∧ scheduled.due.get ≤ old.due.get := by
  have hclosed := returnReach_closedOnce h
  have hpolicy := returnReach_policy h
  refine ⟨hclosed.mirrored.returning, hclosed.mirrored.confirmed, hclosed.distinct, ?_, ?_, ?_⟩
  · intro op
    have hstepped := op.perform_stepped hclosed.mirrored
    refine ⟨hstepped.kept, ?_, hstepped.reported, ?_⟩
    · intro epoch haccelerated
      obtain ⟨hbefore, hafter⟩ := hstepped.accelerated epoch haccelerated
      refine ⟨hafter, hbefore, ?_, ?_⟩
      · rw [hstepped.policy]
      · rw [hstepped.policy]
    intro epoch hcompletes
    obtain ⟨_, now, -, -, -, hclock, helapsed⟩ := ReturnOp.completes_spec hcompletes
    rw [hpolicy] at helapsed
    exact ⟨now, hclock, helapsed⟩
  · intro evidence sequence observedAtMs hlate
    apply observe_stale
    unfold isStale
    rw [decide_eq_true_iff, Option.any_eq_true, Option.any_eq_true]
    obtain ⟨last, hlast, hle⟩ | ⟨last, hlast, hlt⟩ := hlate
    · exact .inl ⟨last, hlast, decide_eq_true hle⟩
    · exact .inr ⟨last, hlast, decide_eq_true hlt⟩
  intro scheduler key epochSequence evidenceAt id scheduled hscheduled
  exact accelerate_due scheduler key epochSequence evidenceAt hscheduled

section Samples

def sampleReturnPolicy : EndpointReturnPolicy :=
  ⟨60000, 500, [0, 100, 6000], [.endpointActivity, .routeReturn],
    [.batteryReport, .endpointActivity, .routeReturn], by decide⟩

def activityAt (sequence : SequenceNumber) (observedAtMs : MonotonicMs) : ReturnOp :=
  .observe .endpointActivity sequence observedAtMs

def firstActivity : EndpointReturnLifecycle :=
  ((activityAt (.lit 1) (.lit 10000)).perform (.new sampleReturnPolicy)).2

theorem firstActivity_reach : ReturnReach sampleReturnPolicy 1 [] firstActivity :=
  .step (activityAt (.lit 1) (.lit 10000)) .start

/-- The window of the first activity's epoch is closed after its last offset, not at it. -/
theorem returnReach_epochs_window :
    firstActivity.phase = .returning ∧
    (firstActivity.advance (.lit 16000)).1 = .none ∧
    ∀ now, (ReturnOp.advance now).completes firstActivity ≠ none → 16000 < now.get := by
  have hreach := returnReach_epochs firstActivity_reach
  refine ⟨by decide, by decide, ?_⟩
  intro now hcompletes
  obtain ⟨completed, hcompleted⟩ := Option.ne_none_iff_exists'.mp hcompletes
  obtain ⟨later, hclock, helapsed⟩ := (hreach.2.2.2.1 (.advance now)).2.2.2 completed hcompleted
  obtain ⟨epoch, _, hepoch, -, hsame, -⟩ := ReturnOp.completes_spec hcompleted
  cases hclock
  have hopened : epoch.openedAtMs.get = 10000 := by
    cases hepoch
    rfl
  have hoffset : sampleReturnPolicy.finalOffset = 6000 := by decide
  have hsame' := congrArg Bounded.get hsame.openedAtMs
  omega

end Samples

end ReturnLifecycle

end HyperfluxNext
