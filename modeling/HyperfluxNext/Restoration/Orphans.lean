import HyperfluxNext.Restoration.Accounts

namespace HyperfluxNext

open Procedure

def RestoreLease (id : LeaseId) : Prop :=
  ∃ claimId number, typedId "restore-lease" (attemptSuffix claimId number) = .ok id

section Runs

variable {T : Type} [RestorationDigests] {s s' start : RestorationState T} {now : MonotonicMs}

/-- Every live lease of an attempt is one that a stored record is at work on. -/
def Leased (s : RestorationState T) (now : MonotonicMs) : Prop :=
  ∀ id, RestoreLease id → s.leases.Live id now → ∃ attempt, Owned s attempt ∧ attempt.request.leaseId = id

/-- Something of the claim's attempt with the given number is left: its transaction waits or its
lease is live. -/
def Lingers (claimId : RestoreClaimId) (number : RestoreAttemptNumber) (now : MonotonicMs)
    (s : RestorationState T) : Prop :=
  (∃ q ∈ s.pending, typedId "restore-tx" (attemptSuffix claimId number) = .ok q.id) ∨
    ∃ id, typedId "restore-lease" (attemptSuffix claimId number) = .ok id ∧ s.leases.Live id now

def NoOrphan (record : RestoreRecord) (now : MonotonicMs) (s : RestorationState T) : Prop :=
  ∀ number, Lingers record.claimId number now s →
    ∃ attempt, record.status.activeAttempt = some attempt ∧ attempt.attemptNumber = number

/-- What may happen between two calls: the clock does not go back, and leases of attempts are
only taken away. -/
structure Elapses (now : MonotonicMs) (s : RestorationState T) (step : RestorationStep T) : Prop where
  clock : now ≤ step.now
  leases : ∀ (id : LeaseId) (grant : LeaseGrant), RestoreLease id →
    step.leases.leases[id]? = some grant → s.leases.leases[id]? = some grant

theorem noOrphan_of_stored {record : RestoreRecord} (hsound : StoreSound s.records)
    (hchecked : AttemptsChecked s) (htracked : Tracked s) (hleased : Leased s now)
    (hstored : record ∈ s.records) : NoOrphan record now s := by
  have hown : ∀ r ∈ s.records, ∀ attempt, r.status.activeAttempt = some attempt →
      ∀ number, r.claimId = record.claimId ∧ attempt.attemptNumber = number →
      ∃ attempt, record.status.activeAttempt = some attempt ∧ attempt.attemptNumber = number := by
    intro r hr attempt hactive number hsame
    have hrecord := eq_of_claimId hsound.distinct hr hstored hsame.1
    exact ⟨attempt, hrecord ▸ hactive, hsame.2⟩
  intro number hlingers
  rcases hlingers with ⟨q, hq, hid⟩ | ⟨id, hid, hlive⟩
  · obtain ⟨attempt, ⟨r, hr, hactive⟩, hsubmitted⟩ := htracked q hq
    have hfacts := validateAttempt_facts (hchecked r hr attempt hactive)
    have htransaction := hfacts.transactionId
    rw [← hsubmitted.1] at htransaction
    exact hown r hr attempt hactive number (attemptId_inj htransaction hid)
  obtain ⟨attempt, ⟨r, hr, hactive⟩, hlease⟩ := hleased id ⟨_, _, hid⟩ hlive
  have hfacts := validateAttempt_facts (hchecked r hr attempt hactive)
  have hleaseId := hfacts.leaseId
  rw [hlease] at hleaseId
  exact hown r hr attempt hactive number (attemptId_inj hleaseId hid)

variable [ReceiverTransport T]

/-- The states reached when every step satisfies `ok`, with the time of the last call. -/
inductive ClockedReach (ok : RestorationState T → RestorationStep T → Prop)
    (start : RestorationState T) : MonotonicMs → RestorationState T → Prop
  | start (now : MonotonicMs) : ClockedReach ok start now start
  | step {now : MonotonicMs} {s : RestorationState T} {step : RestorationStep T} :
      ClockedReach ok start now s → Elapses now s step → ok s step →
      ClockedReach ok start step.now (step.run s)

theorem ClockedReach.reach {ok : RestorationState T → RestorationStep T → Prop}
    (h : ClockedReach ok start now s) : RestorationReach ok start s := by
  induction h with
  | start => exact .start
  | step _ _ hok ih => exact .step ih hok

theorem RestorationStep.run_leased {step : RestorationStep T} (hs : Grounded s)
    (htracked : Tracked s) (hchecked : AttemptsChecked s) (hleased : Leased s now)
    (helapses : Elapses now s step) (hkeeps : KeepsLeases s step) :
    Leased (step.run s) step.now := by
  have haccounts := step.run_accounts hs htracked hchecked
  intro id hrestore hlive
  rcases haccounts.leased id hlive with hold | hnew
  · obtain ⟨grant, hgrant, hexpires⟩ := hold
    have hclock : now.get ≤ step.now.get := helapses.clock
    have hafter : step.now.get < grant.expiresAtMs.get := hexpires
    have hbefore : s.leases.Live id now := by
      refine ⟨grant, helapses.leases id grant hrestore hgrant, ?_⟩
      show now.get < grant.expiresAtMs.get
      omega
    obtain ⟨attempt, hown, hid⟩ := hleased id hrestore hbefore
    rcases haccounts.owned attempt hown with hown | ⟨_, hidle⟩
    · exact ⟨attempt, hown, hid⟩
    refine absurd ?_ (hidle hkeeps)
    unfold Leases
    rw [hid]
    exact hlive
  · exact hnew

theorem ClockedReach.accounted
    (h : ClockedReach (fun s step => KeepsQueue s step ∧ KeepsLeases s step) start now s)
    (hstart : RestorationStart start) : Tracked s ∧ Leased s now := by
  induction h with
  | start now =>
    refine ⟨hstart.tracked, fun id _ hlive => ?_⟩
    obtain ⟨grant, hgrant, _⟩ := hlive
    rw [hstart.leases id] at hgrant
    cases hgrant
  | step hbefore helapses hkeeps ih =>
    have hgrounded := hbefore.reach.grounded hstart.grounded
    have hchecked := hbefore.reach.attemptsChecked hstart
    refine ⟨RestorationStep.run_tracked hgrounded ih.1 hchecked hkeeps.1, ?_⟩
    exact RestorationStep.run_leased hgrounded ih.1 hchecked ih.2 helapses hkeeps.2

theorem Advances.arrived {record next : RestoreRecord} {authority : RestorationAuthority}
    {ports : Authorities} (h : Advances record authority now ports s s' (some next)) :
    next ∈ s'.records ∧ next.claimId = record.claimId := by
  have harrived : ∀ {s : RestorationState T}, Carried s s' (some next) → next ∈ s'.records :=
    fun hcarried => hcarried.replaced.arrived next (by simp)
  cases h with
  | failed _ nothing => cases nothing
  | reconciled _ _ _ quits =>
    obtain ⟨⟨_, _, hmoved⟩, _⟩ := quits.moved next rfl
    exact ⟨harrived quits.toCarried, transitionRecord_claimId hmoved⟩
  | gated _ _ carried _ _ moved =>
    obtain ⟨_, _, hmoved⟩ := moved next rfl
    exact ⟨harrived carried, transitionRecord_claimId hmoved⟩
  | kept _ _ _ _ submits => exact ⟨harrived submits.carried, submits.claimId next rfl⟩
  | unprepared _ _ carried _ _ moved =>
    obtain ⟨_, hprepares⟩ := moved next rfl
    exact ⟨harrived carried, hprepares.claimId⟩
  | replaced _ _ _ _ _ prepares _ _ _ submits =>
    exact ⟨harrived submits.carried, (submits.claimId next rfl).trans prepares.claimId⟩

theorem advanceClaim_stored {step : RestorationStep T} {claimId : RestoreClaimId}
    {authority : RestorationAuthority} {result : RestoreAdvanceResult} (hs : Grounded s)
    (hop : step.op = .advanceClaim claimId authority)
    (hresult : answer (advanceClaim claimId authority step.now step.ports) (step.enter s) = .ok result) :
    recordFromAdvance result ∈ (step.run s).records ∧ (recordFromAdvance result).claimId = claimId := by
  have hentered : Grounded (step.enter s) := ⟨hs.sound, hs.safe⟩
  have hholds : Holds (advanceClaim claimId authority step.now step.ports) (step.enter s) _ _ :=
    advanceClaim_advances hentered
  unfold answer at hresult
  have hrun : step.run s = final (advanceClaim claimId authority step.now step.ports) (step.enter s) := by
    unfold RestorationStep.run
    rw [hop]
  split at hresult
  next found s' hfound =>
    cases hresult
    have hfinal : step.run s = s' := by
      rw [hrun]
      unfold final
      rw [hfound]
    obtain ⟨record, hstored, hclaim, _, hcase⟩ := holds_ok hholds hfound
    rw [hfinal]
    rcases hcase with ⟨hsame, hrecord, _⟩ | ⟨_, hadvances⟩
    · rw [hrecord, hsame]
      exact ⟨hstored, hclaim⟩
    · exact ⟨hadvances.arrived.1, hadvances.arrived.2.trans hclaim⟩
  · cases hresult

/-- In every run that keeps what waits and what is leased, whatever `advance_claim` returns or
leaves stored, nothing of an earlier attempt of its claim is queued or leased. -/
theorem advanceClaim_noOrphan {step : RestorationStep T} {claimId : RestoreClaimId}
    {authority : RestorationAuthority} (hstart : RestorationStart start)
    (hreach : ClockedReach (fun s step => KeepsQueue s step ∧ KeepsLeases s step) start now s)
    (helapses : Elapses now s step) (hkeeps : KeepsQueue s step ∧ KeepsLeases s step)
    (hop : step.op = .advanceClaim claimId authority) :
    (∀ result, answer (advanceClaim claimId authority step.now step.ports) (step.enter s) =
      .ok result → (recordFromAdvance result).claimId = claimId ∧
        NoOrphan (recordFromAdvance result) step.now (step.run s)) ∧
    ∀ record ∈ (step.run s).records, NoOrphan record step.now (step.run s) := by
  have hafter := ClockedReach.step hreach helapses hkeeps
  have hgrounded := hafter.reach.grounded hstart.grounded
  have hchecked := hafter.reach.attemptsChecked hstart
  obtain ⟨htracked, hleased⟩ := hafter.accounted hstart
  have hstored : ∀ record ∈ (step.run s).records, NoOrphan record step.now (step.run s) :=
    fun record => noOrphan_of_stored hgrounded.sound hchecked htracked hleased
  refine ⟨fun result hresult => ?_, hstored⟩
  obtain ⟨hmem, hclaim⟩ := advanceClaim_stored (hreach.reach.grounded hstart.grounded) hop hresult
  exact ⟨hclaim, hstored _ hmem⟩

end Runs

theorem sampleStep_elapses {op : RestorationOp} {now now' : MonotonicMs} {ports : Authorities}
    {transport : FixedTransport} {s : RestorationState FixedTransport} (h : now ≤ now') :
    Elapses now s (sampleStep op now' ports transport s) :=
  ⟨h, fun _ _ _ hgrant => hgrant⟩

theorem samplePlanned_reached {ok : RestorationState FixedTransport →
    RestorationStep FixedTransport → Prop} (h : ok (sampleStart _ sampleTransport) samplePlan) :
    letI := sampleRestorationDigests
    ClockedReach ok (sampleStart _ sampleTransport) (.lit 0) samplePlanned := by
  let _ := sampleRestorationDigests
  have hstart : ClockedReach ok (sampleStart _ sampleTransport) (.lit 0)
      (sampleStart _ sampleTransport) := .start _
  have helapses : Elapses (.lit 0) (sampleStart _ sampleTransport) samplePlan :=
    sampleStep_elapses (le_refl 0)
  exact .step hstart helapses h

/-- The queued claim is advanced again, a millisecond later. -/
def sampleReadvance : RestorationStep FixedTransport :=
  sampleStep (.advanceClaim sampleClaim (sampleAuthority sampleNonce)) (.lit 1)
    sampleAuthorities sampleTransport sampleQueued

theorem sampleReadvance_resubmits :
    letI := sampleRestorationDigests
    ∃ record attempt, sampleQueued.records = [record] ∧ record.status.activeAttempt = some attempt ∧
      Waits (sampleReadvance.enter sampleQueued) attempt ∧
      Resubmits record attempt (sampleAuthority sampleNonce) sampleReadvance.now sampleReadvance.ports
        (sampleReadvance.enter sampleQueued) := by
  let _ := sampleRestorationDigests
  refine ⟨sampleQueued.records.head (by decide +kernel),
    (sampleQueued.records.head (by decide +kernel)).status.activeAttempt.get (by decide +kernel),
    by decide +kernel, by decide +kernel, ?_, rfl, ?_, by decide +kernel, ?_⟩
  · unfold Waits
    decide +kernel
  · exact ⟨_, rfl⟩
  exact ⟨_, _, rfl, by decide +kernel⟩

theorem advanceClaim_noOrphan_sample :
    letI := sampleRestorationDigests
    (∃ r ∈ sampleQueued.records, ∃ attempt, r.status.activeAttempt = some attempt ∧
      Waits (sampleReadvance.enter sampleQueued) attempt) ∧
    ∃ result, answer (advanceClaim sampleClaim (sampleAuthority sampleNonce) sampleReadvance.now
      sampleReadvance.ports) (sampleReadvance.enter sampleQueued) = .ok result ∧
      NoOrphan (recordFromAdvance result) sampleReadvance.now (sampleReadvance.run sampleQueued) := by
  let _ := sampleRestorationDigests
  have hplanned : ClockedReach (fun s step => KeepsQueue s step ∧ KeepsLeases s step)
      (sampleStart _ sampleTransport) (.lit 0) samplePlanned :=
    samplePlanned_reached ⟨trivial, trivial⟩
  have hinactive : ∀ r ∈ samplePlanned.records, r.status.activeAttempt = none := by
    decide +kernel
  have hkeeps : KeepsQueue samplePlanned sampleAdvance ∧ KeepsLeases samplePlanned sampleAdvance := by
    refine ⟨fun r hr _ attempt hactive => ?_, fun r hr _ attempt hactive => ?_⟩
    · rw [hinactive r hr] at hactive
      cases hactive
    rw [hinactive r hr] at hactive
    cases hactive
  have hqueued : ClockedReach (fun s step => KeepsQueue s step ∧ KeepsLeases s step)
      (sampleStart _ sampleTransport) (.lit 0) sampleQueued :=
    .step hplanned (sampleStep_elapses (le_refl 0)) hkeeps
  obtain ⟨record, attempt, hrecords, hactive, hwaits, hresubmits⟩ := sampleReadvance_resubmits
  have hagain : KeepsQueue sampleQueued sampleReadvance ∧ KeepsLeases sampleQueued sampleReadvance := by
    refine ⟨fun r hr _ again hagain => .inr ?_, fun r hr _ again hagain => .inr (.inr ?_)⟩
    all_goals
      rw [hrecords, List.mem_singleton] at hr
      rw [hr, hactive, Option.some.injEq] at hagain
      rw [hr, ← hagain]
      exact hresubmits
  have hadvance := (advanceClaim_noOrphan (sampleStart_starts sampleTransport) hqueued
    (sampleStep_elapses (Nat.zero_le 1)) hagain rfl).1
  have hok : (answer (advanceClaim sampleClaim (sampleAuthority sampleNonce) sampleReadvance.now
      sampleReadvance.ports) (sampleReadvance.enter sampleQueued)).isOk := by
    decide +kernel
  refine ⟨⟨record, by rw [hrecords]; exact List.mem_singleton_self record, attempt, hactive, hwaits⟩, ?_⟩
  cases hanswer : answer (advanceClaim sampleClaim (sampleAuthority sampleNonce) sampleReadvance.now
      sampleReadvance.ports) (sampleReadvance.enter sampleQueued) with
  | error error =>
    rw [hanswer] at hok
    cases hok
  | ok result => exact ⟨result, rfl, (hadvance result hanswer).2⟩

def sampleAsleep : RestorationStep FixedTransport :=
  sampleStep (.advanceClaim sampleClaim (sampleAuthority sampleNonce)) (.lit 1)
    { sampleAuthorities with devices := ⟨fun _ => .sleeping⟩ } sampleTransport sampleQueued

/-- The claim of a sleeping device is deferred, and its transaction still waits. -/
theorem advanceClaim_leaves_orphan :
    letI := sampleRestorationDigests
    RestorationStart (sampleStart _ sampleTransport) ∧
      ¬ ∀ now s step claimId authority result,
        ClockedReach (fun _ _ => True) (sampleStart _ sampleTransport) now s →
        Elapses now s step → step.op = .advanceClaim claimId authority →
        answer (advanceClaim claimId authority step.now step.ports) (step.enter s) = .ok result →
        NoOrphan (recordFromAdvance result) step.now (step.run s) := by
  let _ := sampleRestorationDigests
  refine ⟨sampleStart_starts sampleTransport, fun h => ?_⟩
  have hplanned : ClockedReach (fun _ _ => True) (sampleStart _ sampleTransport)
      (.lit 0) samplePlanned := samplePlanned_reached trivial
  have hadvanced : Elapses (.lit 0) samplePlanned sampleAdvance :=
    sampleStep_elapses (le_refl 0)
  have hqueued : ClockedReach (fun _ _ => True) (sampleStart _ sampleTransport)
      (.lit 0) sampleQueued := .step hplanned hadvanced trivial
  have hasleep : Elapses (.lit 0) sampleQueued sampleAsleep :=
    sampleStep_elapses (Nat.zero_le 1)
  have hdeferred : ∃ result, answer (advanceClaim sampleClaim (sampleAuthority sampleNonce)
      sampleAsleep.now sampleAsleep.ports) (sampleAsleep.enter sampleQueued) = .ok result ∧
      (recordFromAdvance result).claimId = sampleClaim ∧
      (recordFromAdvance result).status.activeAttempt = none := by
    refine ⟨.deferred ((sampleAsleep.run sampleQueued).records.head (by decide +kernel)), ?_⟩
    decide +kernel
  obtain ⟨result, hresult, hclaim, hinactive⟩ := hdeferred
  have hwaits : ∃ q ∈ (sampleAsleep.run sampleQueued).pending,
      typedId "restore-tx" (attemptSuffix sampleClaim (.lit 1)) = .ok q.id := by
    decide +kernel
  have hnone := h _ _ _ _ _ result hqueued hasleep rfl hresult (.lit 1)
  rw [hclaim] at hnone
  obtain ⟨attempt, hactive, _⟩ := hnone (.inl hwaits)
  rw [hinactive] at hactive
  cases hactive

end HyperfluxNext
