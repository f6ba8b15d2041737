import HyperfluxNext.Core.LeaseHistory

namespace HyperfluxNext

open Procedure LeaseManager List

inductive RetainedRun (key : ClientId × RequestId) : LeaseManager → LeaseManager → Prop
  | refl (manager : LeaseManager) : RetainedRun key manager manager
  | step {first middle : LeaseManager} (h : RetainedRun key first middle) (call : LeaseCall)
      (hretained : ∃ record ∈ (call.run middle).history, record.key = key) :
      RetainedRun key first (call.run middle)

variable {answer : (ClientId × RequestId) × LeaseOperation × LeaseResult}

/-- An answer whose identity is still there after a call is still there itself. -/
theorem answer_retained {call : LeaseCall} {before after : LeaseManager} (h : Journaled before)
    (hfollow : RecordsFollow call before after) (hanswer : answer ∈ before.answers)
    (hretained : ∃ record ∈ after.history, record.key = answer.1) : answer ∈ after.answers := by
  have hkept : ∃ kept extra, after.answers = kept ++ extra ∧ kept.Sublist before.answers ∧
      ∀ answer ∈ extra, answer.1 ∉ before.answers.map (·.1) := by
    obtain ⟨now, -, hanswered⟩ | ⟨-, htrims⟩ := hfollow.2
    · exact hanswered.answers
    · exact ⟨after.answers, [], (append_nil _).symm, htrims.answers, fun _ hanswer => absurd hanswer not_mem_nil⟩
  obtain ⟨kept, extra, hsplit, hsublist, hextra⟩ := hkept
  obtain ⟨record, hrecord, hkey⟩ := hretained
  have hmem : record.answer ∈ after.answers := mem_map_of_mem hrecord
  have hold : record.answer ∈ before.answers := by
    rw [hsplit] at hmem
    obtain hmem | hmem := mem_append.mp hmem
    · exact hsublist.subset hmem
    have hfresh := hextra record.answer hmem
    exact absurd (mem_map.mpr ⟨answer, hanswer, hkey.symm⟩) hfresh
  rw [← answer_unique h hold hanswer hkey]
  exact hmem

variable {key : ClientId × RequestId}

theorem retainedRun_answer {first later : LeaseManager} (hrun : RetainedRun key first later)
    (h : Journaled first) (hkey : answer.1 = key) (hanswer : answer ∈ first.answers)
    : Journaled later ∧ answer ∈ later.answers := by
  induction hrun with
  | refl => exact ⟨h, hanswer⟩
  | step _ call hretained ih =>
    have hfollow := call.run_recordsFollow ih.1
    rw [← hkey] at hretained
    exact ⟨hfollow.1, answer_retained ih.1 hfollow ih.2 hretained⟩

variable {now : MonotonicMs}

namespace LeaseOperation

variable {manager : LeaseManager} {operation : LeaseOperation}

theorem decision_answered (h : Journaled manager) (operation : LeaseOperation) (leaseId : LeaseId)
    (now : MonotonicMs) :
    Holds (operation.decision leaseId now) manager
      (fun decision after => Journaled after ∧ (operation.key, operation, decision.result) ∈ after.answers)
      (fun _ after => Journaled after) := by
  cases operation with
  | acquire request =>
    exact holds_mono (acquireDecision_journaled h request leaseId now)
      (fun _ _ hafter => ⟨hafter.1, hafter.2.2⟩) (fun _ _ hafter => hafter.1)
  | renew request =>
    exact holds_mono (renewRequestDecision_journaled h request now)
      (fun _ _ hafter => ⟨hafter.1, hafter.2.2⟩) (fun _ _ hafter => hafter.1)
  | release request =>
    exact holds_mono (releaseRequestDecision_journaled h request now)
      (fun _ _ hafter => ⟨hafter.1, hafter.2.2⟩) (fun _ _ hafter => hafter.1)

theorem decision_of_replayed {answer : Except LeaseManagerError LeaseDecision} (leaseId : LeaseId)
    (hvalid : operation.Valid)
    (hreplayed : (manager.expire now).2.replayed operation.key operation = some answer) :
    Holds (operation.decision leaseId now) manager
      (fun decision after => answer = .ok decision ∧ after = (manager.expire now).2)
      (fun error after => answer = .error error ∧ after = (manager.expire now).2) := by
  cases operation with
  | acquire request =>
    have hfound : (manager.expire now).2.replayed (request.clientId, request.requestId)
        (.acquire request) = some answer := hreplayed
    simp only [decision, acquireDecision, holds_do]
    refine ⟨fun _ _ => ?_, fun error herror => ?_⟩
    · rw [hfound]
      exact holds_lift.mpr ⟨fun _ hok => ⟨hok, rfl⟩, fun _ herror => ⟨herror, rfl⟩⟩
    rw [show validateLeaseRequest request = .ok () from hvalid] at herror
    cases herror
  | renew request =>
    have hfound : (manager.expire now).2.replayed (request.clientId, request.requestId)
        (.renew request) = some answer := hreplayed
    simp only [decision, renewRequestDecision, holds_do]
    rw [hfound]
    exact holds_lift.mpr ⟨fun _ hok => ⟨hok, rfl⟩, fun _ herror => ⟨herror, rfl⟩⟩
  | release request =>
    have hfound : (manager.expire now).2.replayed (request.clientId, request.requestId)
        (.release request) = some answer := hreplayed
    simp only [decision, releaseRequestDecision, holds_do]
    rw [hfound]
    exact holds_lift.mpr ⟨fun _ hok => ⟨hok, rfl⟩, fun _ herror => ⟨herror, rfl⟩⟩

theorem decision_repeated (h : Journaled manager) {result : LeaseResult}
    (hanswer : (operation.key, operation, result) ∈ manager.answers) (leaseId : LeaseId) (now : MonotonicMs) :
    operation.decision leaseId now manager = .ok ⟨result, false, true⟩ (manager.expire now).2 := by
  have hvalid : operation.Valid := (h.valid _ hanswer).2
  have hexpired := h.trims (expire_trims manager now)
  have hstill : (operation.key, operation, result) ∈ (manager.expire now).2.answers := by
    rw [expire_answers]
    exact hanswer
  have hreplayed := replayed_of_answer hexpired hstill operation
  rw [if_pos rfl] at hreplayed
  have hholds := decision_of_replayed leaseId hvalid hreplayed
  cases hrun : operation.decision leaseId now manager with
  | ok decision after =>
    obtain ⟨hdecision, hafter⟩ := holds_ok hholds hrun
    cases hdecision
    rw [hafter]
  | error error after =>
    obtain ⟨herror, -⟩ := holds_error hholds hrun
    cases herror

/-- An identity that was used for something else is refused. -/
theorem decision_reused (h : Journaled manager) {record : RequestRecord} (hrecord : record ∈ manager.history)
    (hkey : record.key = operation.key) (hdifferent : record.request ≠ operation) (leaseId : LeaseId)
    (now : MonotonicMs) :
    ∃ error, operation.decision leaseId now manager = .error error (manager.expire now).2 ∧
      (error = .requestIdReused ∨ ∃ reason, error = .invalidRequest reason) := by
  have hanswer : (operation.key, record.request, record.result) ∈ (manager.expire now).2.answers := by
    rw [expire_answers, ← hkey]
    exact mem_map_of_mem hrecord
  have hreplayed := replayed_of_answer (h.trims (expire_trims manager now)) hanswer operation
  rw [if_neg hdifferent] at hreplayed
  by_cases hvalid : operation.Valid
  · have hholds := decision_of_replayed leaseId hvalid hreplayed
    cases hrun : operation.decision leaseId now manager with
    | ok decision after =>
      obtain ⟨hdecision, -⟩ := holds_ok hholds hrun
      cases hdecision
    | error error after =>
      obtain ⟨herror, hafter⟩ := holds_error hholds hrun
      cases herror
      rw [hafter]
      exact ⟨_, rfl, .inl rfl⟩
  cases operation with
  | acquire request =>
    cases hrequest : validateLeaseRequest request with
    | ok _ => exact absurd hrequest hvalid
    | error reason =>
      have hholds : Holds (acquireDecision request leaseId now) manager (fun _ _ => False)
          (fun error after => error = .invalidRequest reason ∧ after = (manager.expire now).2) := by
        simp only [acquireDecision, holds_do]
        rw [hrequest]
        constructor
        · intro _ hok
          cases hok
        intro error herror
        cases herror
        exact ⟨rfl, trivial⟩
      cases hrun : acquireDecision request leaseId now manager with
      | ok decision after => exact (holds_ok hholds hrun).elim
      | error error after =>
        obtain ⟨herror, hafter⟩ := holds_error hholds hrun
        refine ⟨error, ?_, .inr ⟨reason, herror⟩⟩
        rw [← hafter]
        exact hrun
  | renew request | release request => exact absurd trivial hvalid

end LeaseOperation

/-- Repeating an answered request while its record is retained gives the same answer, marked unchanged, and only ends
the elapsed leases; the record a live lease was granted for is retained, and so is every record that a lease pins until
that lease ends; an identity used again for something else is refused. -/
theorem leaseReach_replay {manager : LeaseManager} (h : LeaseReach manager) :
    (∀ (operation : LeaseOperation) (leaseId : LeaseId) (now : MonotonicMs) (decision : LeaseDecision)
      (after later : LeaseManager), operation.decision leaseId now manager = .ok decision after →
      RetainedRun operation.key after later → ∀ (leaseId' : LeaseId) (now' : MonotonicMs),
        operation.decision leaseId' now' later = .ok ⟨decision.result, false, true⟩ (later.expire now').2) ∧
    (∀ (id : LeaseId) (grant : LeaseGrant), manager.leases[id]? = some grant →
      ∃ record ∈ manager.history, Backs record id grant) ∧
    (∀ (call : LeaseCall), ∀ record ∈ manager.history, ∀ (id : LeaseId) (grant : LeaseGrant),
      record.pinnedLease = some id → manager.leases[id]? = some grant →
      (∀ now, call.clock = some now → now < grant.expiresAtMs) → id ∈ (call.run manager).leases →
      record ∈ (call.run manager).history) ∧
    (∀ (operation : LeaseOperation), ∀ record ∈ manager.history, record.key = operation.key →
      record.request ≠ operation → ∀ (leaseId : LeaseId) (now : MonotonicMs), ∃ error,
        operation.decision leaseId now manager = .error error (manager.expire now).2 ∧
        (error = .requestIdReused ∨ ∃ reason, error = .invalidRequest reason)) := by
  have hjournaled := leaseReach_journaled h
  refine ⟨?_, hjournaled.backed, ?_, ?_⟩
  · intro operation leaseId now decision after later hanswered hrun leaseId' now'
    obtain ⟨hafter, hmem⟩ := holds_ok (operation.decision_answered hjournaled leaseId now) hanswered
    obtain ⟨hlater, hstill⟩ := retainedRun_answer hrun hafter rfl hmem
    exact LeaseOperation.decision_repeated hlater hstill leaseId' now'
  · intro call record hrecord id grant hpin hgrant hlive hid
    obtain ⟨now, hclock, hanswered⟩ | ⟨-, htrims⟩ := (call.run_recordsFollow hjournaled).2
    · exact hanswered.pinned record hrecord id grant hpin hgrant (hlive now hclock) hid
    · exact htrims.pinned record hrecord id hpin hid
  intro operation record hrecord hkey hdifferent leaseId now
  exact LeaseOperation.decision_reused hjournaled hrecord hkey hdifferent leaseId now

namespace LeaseManager

def PinnedAt (manager : LeaseManager) (now : MonotonicMs) (record : RequestRecord) : Prop :=
  ∃ id grant, record.pinnedLease = some id ∧ manager.leases[(id : LeaseId)]? = some grant ∧
    now < grant.expiresAtMs

variable {manager : LeaseManager}

theorem record_unique (h : Journaled manager) {first second : RequestRecord}
    (hfirst : first ∈ manager.history) (hsecond : second ∈ manager.history) (hkey : first.key = second.key)
    : first = second := by
  have hkeys := h.keys
  unfold answers at hkeys
  rw [map_map] at hkeys
  exact inj_on_of_nodup_map hkeys hfirst hsecond hkey

/-- Room for one more record, read off the state before the elapsed leases are gone. -/
theorem hasSlot_expire (h : Journaled manager) (now : MonotonicMs) :
    (manager.expire now).2.HasSlot ↔ manager.history.length < manager.maxHistory ∨
      ∃ record ∈ manager.history, ¬ manager.PinnedAt now record := by
  have htrims := expire_trims manager now
  have hexpired := h.trims htrims
  have hanswers := expire_answers manager now
  have hlength : (manager.expire now).2.history.length = manager.history.length := by
    have hsame := congrArg List.length hanswers
    unfold answers at hsame
    rw [length_map, length_map] at hsame
    exact hsame
  unfold HasSlot
  rw [hlength, htrims.limit]
  apply or_congr Iff.rfl
  constructor
  · intro hslot
    obtain ⟨record, hrecord, hnone⟩ := hslot
    have hmem : record.answer ∈ manager.answers := by
      rw [← hanswers]
      exact mem_map_of_mem hrecord
    obtain ⟨old, hold, hsame⟩ := mem_map.mp hmem
    refine ⟨old, hold, ?_⟩
    intro hpinned
    obtain ⟨id, grant, hpin, hgrant, hlive⟩ := hpinned
    have hstill := htrims.pinned old hold id hpin (mem_leases_iff.mpr ⟨grant, mem_expire hgrant hlive⟩)
    have heq := record_unique hexpired hstill hrecord (congrArg (·.1) hsame)
    rw [heq, hnone] at hpin
    cases hpin
  intro hslot
  obtain ⟨old, hold, hunpinned⟩ := hslot
  have hmem : old.answer ∈ (manager.expire now).2.answers := by
    rw [hanswers]
    exact mem_map_of_mem hold
  obtain ⟨record, hrecord, hsame⟩ := mem_map.mp hmem
  refine ⟨record, hrecord, ?_⟩
  obtain hbefore | hnone := htrims.only record hrecord
  · have heq := record_unique h hbefore hold (congrArg (·.1) hsame)
    cases hpin : record.pinnedLease with
    | none => rfl
    | some id =>
      obtain ⟨grant, hgrant⟩ := mem_leases_iff.mp (hexpired.pinned record hrecord id hpin)
      have hfound := htrims.shrinks id grant hgrant
      have hleft := getElem?_expire manager now hfound
      rw [hgrant] at hleft
      refine absurd ⟨id, grant, heq ▸ hpin, hfound, ?_⟩ hunpinned
      split at hleft
      · cases hleft
      next hnot => exact Nat.lt_of_not_le hnot
  · exact hnone

theorem replayed_of_fresh (h : ∀ answer ∈ manager.answers, answer.1 ≠ key) (operation : LeaseOperation) :
    manager.replayed key operation = none := by
  unfold replayed
  rw [Option.map_eq_none_iff, find?_eq_none]
  intro record hrecord
  rw [decide_eq_true_iff]
  exact h record.answer (mem_map_of_mem hrecord)

theorem releaseRequestDecision_live (h : Journaled manager) {request : ReleaseLeaseRequest} {grant : LeaseGrant}
    (hgrant : manager.leases[request.leaseId]? = some grant) (hlive : now < grant.expiresAtMs)
    (howner : grant.clientId = request.clientId)
    (hfresh : ∀ record ∈ manager.history, record.key ≠ (request.clientId, request.requestId)) :
    Holds (releaseRequestDecision request now) manager
      (fun decision after => (manager.expire now).2.HasSlot ∧
        decision = ⟨.granted { grant with state := .released }, true, false⟩ ∧
        after.leases[request.leaseId]? = none)
      (fun error after => ¬ (manager.expire now).2.HasSlot ∧ error = .historyCapacity ∧
        after.leases[request.leaseId]? = some grant) := by
  have hexpired := h.trims (expire_trims manager now)
  have hnone : (manager.expire now).2.replayed (request.clientId, request.requestId)
      (.release request) = none := by
    apply replayed_of_fresh
    rw [expire_answers]
    intro answer hanswer
    obtain ⟨record, hrecord, hsame⟩ := mem_map.mp hanswer
    rw [← hsame]
    exact hfresh record hrecord
  have hheld := mem_expire hgrant hlive
  simp only [releaseRequestDecision, holds_do]
  rw [hnone, hheld]
  simp only [holds_do, remember]
  refine ⟨fun hother => absurd howner hother, fun _ => ?_⟩
  refine holds_mono (reserveHistorySlot_trims _) ?_ ?_
  · intro _ after hafter
    exact ⟨hafter.2.2.2, trivial, removeLease_absent after request.leaseId⟩
  intro error after hafter
  refine ⟨hafter.2.2.2.2 hexpired.bounded, hafter.2.2.1, ?_⟩
  rw [hafter.2.1]
  exact hheld

end LeaseManager

/-- The owner's fresh release of a live lease is answered exactly when the history has room or a record that no live
lease pins; otherwise it is refused for the full history and the lease stays. -/
theorem leaseReach_release {manager : LeaseManager} (h : LeaseReach manager)
    {request : ReleaseLeaseRequest} {now : MonotonicMs} {grant : LeaseGrant}
    (hgrant : manager.leases[request.leaseId]? = some grant) (hlive : now < grant.expiresAtMs)
    (howner : grant.clientId = request.clientId)
    (hfresh : ∀ record ∈ manager.history, record.key ≠ (request.clientId, request.requestId)) :
    ((manager.history.length < manager.maxHistory ∨ ∃ record ∈ manager.history, ¬ manager.PinnedAt now record) →
      ∃ after, releaseRequestDecision request now manager =
          .ok ⟨.granted { grant with state := .released }, true, false⟩ after ∧
        after.leases[request.leaseId]? = none) ∧
    ((manager.history.length = manager.maxHistory ∧ ∀ record ∈ manager.history, manager.PinnedAt now record) →
      ∃ after, releaseRequestDecision request now manager = .error .historyCapacity after ∧
        after.leases[request.leaseId]? = some grant) := by
  have hjournaled := leaseReach_journaled h
  have hholds := releaseRequestDecision_live hjournaled hgrant hlive howner hfresh
  rw [hasSlot_expire hjournaled] at hholds
  cases hrun : releaseRequestDecision request now manager with
  | ok decision after =>
    obtain ⟨hslot, hdecision, hgone⟩ := holds_ok hholds hrun
    rw [hdecision]
    refine ⟨fun _ => ⟨after, rfl, hgone⟩, ?_⟩
    intro hfull
    obtain hroom | ⟨record, hrecord, hunpinned⟩ := hslot
    · omega
    · exact absurd (hfull.2 record hrecord) hunpinned
  | error error after =>
    obtain ⟨hslot, herror, hstays⟩ := holds_error hholds hrun
    rw [herror]
    exact ⟨fun hroom => absurd hroom hslot, fun _ => ⟨after, rfl, hstays⟩⟩

section Samples

def sampleLease : LeaseId := .lit "lease-1"

def grantedOnce : LeaseManager :=
  (sampleAcquire (.lit "first") sampleLease .lighting).run sampleManager

def sampleRenewal : RenewLeaseRequest :=
  ⟨.lit "second", sampleRequest.clientId, sampleLease, .lit 1000⟩

/-- The same lease after one renewal: both places of the history are pinned. -/
def renewedOnce : LeaseManager :=
  (LeaseCall.renewRequest sampleRenewal (.lit 0)).run grantedOnce

def sampleRelease : ReleaseLeaseRequest := ⟨.lit "third", sampleRequest.clientId, sampleLease⟩

def sampleGrant (state : LeaseState) : LeaseGrant :=
  ⟨sampleLease, sampleRequest.clientId, [{ sampleResource with kind := .lighting }],
    .lit 1000, state⟩

theorem grantedOnce_reach : LeaseReach grantedOnce :=
  .step (.new (show LeaseManager.new 2 2 = .ok sampleManager from rfl)) _

theorem renewedOnce_reach : LeaseReach renewedOnce := .step grantedOnce_reach _

/-- The release of the lease that was just granted finds a free place. -/
theorem leaseReach_release_granted :
    ∃ after, releaseRequestDecision sampleRelease (.lit 1) grantedOnce =
        .ok ⟨.granted (sampleGrant .released), true, false⟩ after ∧
      after.leases[sampleLease]? = none := by
  have hgrant : grantedOnce.leases[sampleLease]? = some (sampleGrant .granted) := by decide +kernel
  have hfresh : ∀ record ∈ grantedOnce.history,
      record.key ≠ (sampleRelease.clientId, sampleRelease.requestId) := by decide +kernel
  have hroom : grantedOnce.history.length < grantedOnce.maxHistory := by decide +kernel
  have hlive : (.lit 1) < (sampleGrant .granted).expiresAtMs := by decide
  exact (leaseReach_release grantedOnce_reach hgrant hlive rfl hfresh).1 (.inl hroom)

/-- After one renewal the owner's fresh release of its live lease is refused. -/
theorem leaseReach_release_refused :
    ¬ ∀ (manager : LeaseManager) (request : ReleaseLeaseRequest) (now : MonotonicMs) (grant : LeaseGrant),
      LeaseReach manager → manager.leases[request.leaseId]? = some grant → now < grant.expiresAtMs →
      grant.clientId = request.clientId →
      (∀ record ∈ manager.history, record.key ≠ (request.clientId, request.requestId)) →
      ∃ decision after, releaseRequestDecision request now manager = .ok decision after := by
  intro hall
  have hgrant : renewedOnce.leases[sampleLease]? = some (sampleGrant .renewed) := by decide +kernel
  have hfresh : ∀ record ∈ renewedOnce.history,
      record.key ≠ (sampleRelease.clientId, sampleRelease.requestId) := by decide +kernel
  obtain ⟨decision, after, hrun⟩ := hall renewedOnce sampleRelease (.lit 1)
    (sampleGrant .renewed) renewedOnce_reach hgrant (by decide) rfl hfresh
  have hrefused : answer (releaseRequestDecision sampleRelease (.lit 1)) renewedOnce =
      .error .historyCapacity := by decide +kernel
  unfold answer at hrefused
  rw [hrun] at hrefused
  cases hrefused

/-- Repeating the renewal later does not renew again. -/
theorem leaseReach_replay_renewal :
    ∃ after, (LeaseOperation.renew sampleRenewal).decision sampleLease (.lit 0) grantedOnce =
        .ok ⟨.granted (sampleGrant .renewed), true, false⟩ after ∧
      (LeaseOperation.renew sampleRenewal).decision sampleLease (.lit 1) after =
        .ok ⟨.granted (sampleGrant .renewed), false, true⟩ (after.expire (.lit 1)).2 := by
  have hanswer : answer ((LeaseOperation.renew sampleRenewal).decision sampleLease
      (.lit 0)) grantedOnce = .ok ⟨.granted (sampleGrant .renewed), true, false⟩ := by
    decide +kernel
  unfold answer at hanswer
  split at hanswer
  next decision after hrun =>
    cases hanswer
    refine ⟨after, hrun, ?_⟩
    exact (leaseReach_replay grantedOnce_reach).1 _ _ _ _ _ _ hrun (.refl after) _ _
  · cases hanswer

end Samples

end HyperfluxNext
