import HyperfluxNext.Restoration.Tracking

namespace HyperfluxNext

open RestorationState Procedure

section Accounts

variable {T : Type} [RestorationDigests] {s s₁ s' : RestorationState T} {now : MonotonicMs}
  {record next : RestoreRecord} {attempt : RestoreAttempt} {wrote : Option RestoreRecord}
variable [ReceiverTransport T]

/-- Advancing the claim takes the attempt up again as it is: nothing was observed of it, no
authority objects, it fits what is asked for and its lease can be had. -/
def Resubmits (record : RestoreRecord) (attempt : RestoreAttempt) (authority : RestorationAuthority)
    (now : MonotonicMs) (ports : Authorities) (s : RestorationState T) : Prop :=
  ReceiverTransport.reconcile s.core.transport (dispatchFromAttempt attempt) = .notObserved ∧
    (∃ intent, advanceGate record authority now ports s.core.transport s.store = .ok (.ready intent)) ∧
    reusable attempt authority now ∧ Reacquires attempt now s.leases

def AdvanceKeepsQueue (record : RestoreRecord) (authority : RestorationAuthority)
    (now : MonotonicMs) (ports : Authorities) (s : RestorationState T) : Prop :=
  ∀ attempt, record.status.activeAttempt = some attempt →
    ¬ Waits s attempt ∨ Resubmits record attempt authority now ports s

/-- An attempt that holds its lease is only advanced by finishing it or taking it up again. -/
def AdvanceKeepsLease (record : RestoreRecord) (authority : RestorationAuthority)
    (now : MonotonicMs) (ports : Authorities) (s : RestorationState T) : Prop :=
  ∀ attempt, record.status.activeAttempt = some attempt → ¬ Leases s attempt now ∨
    ReceiverTransport.reconcile s.core.transport (dispatchFromAttempt attempt) ≠ .notObserved ∨
    Resubmits record attempt authority now ports s

variable {authority : RestorationAuthority} {ports : Authorities} {old : RestoreAttempt} {queue leases : Prop}

theorem AdvanceKeepsQueue.idle (h : AdvanceKeepsQueue record authority now ports s)
    (hactive : record.status.activeAttempt = some attempt)
    (hnot : ¬ Resubmits record attempt authority now ports s) : ¬ Waits s attempt :=
  (h attempt hactive).resolve_right hnot

theorem AdvanceKeepsLease.idle (h : AdvanceKeepsLease record authority now ports s)
    (hactive : record.status.activeAttempt = some attempt)
    (hunobserved : ReceiverTransport.reconcile s.core.transport (dispatchFromAttempt attempt) =
      .notObserved) (hnot : ¬ Resubmits record attempt authority now ports s) : ¬ Leases s attempt now := by
  rcases h attempt hactive with hidle | hobserved | hkept
  · exact hidle
  · exact absurd hunobserved hobserved
  · exact absurd hkept hnot

theorem Advances.owned (h : Advances record authority now ports s s' wrote) (hs : Grounded s)
    (htracked : Tracked s) (hchecked : AttemptsChecked s) (hstored : record ∈ s.records) (hown : Owned s old) :
    Owned s' old ∨ ((AdvanceKeepsQueue record authority now ports s → ¬ Waits s' old) ∧
      (AdvanceKeepsLease record authority now ports s → ¬ Leases s' old now)) := by
  cases h with
  | failed same => exact .inl (same ▸ hown)
  | reconciled attempt active observed quits =>
    have hclaim : ∀ next, wrote = some next → next.claimId = record.claimId := by
      intro next hnext
      obtain ⟨⟨_, _, hmoved⟩, _⟩ := quits.moved next hnext
      exact transitionRecord_claimId hmoved
    rcases hown.carried hs.sound hstored quits.toCarried hclaim with hown | ⟨next, hnext, hactive⟩
    · exact .inl hown
    rw [active] at hactive
    cases hactive
    refine .inr ⟨fun hqueue => ?_, fun _ => not_leases_of_absent (quits.moved next hnext).2⟩
    have hidle := hqueue.idle active fun hkept => observed hkept.1
    exact fun hwaits => hidle (waits_of_coordinator quits.coordinator hwaits)
  | gated gate unobserved carried coordinator leases moved =>
    have hclaim : ∀ next, wrote = some next → next.claimId = record.claimId := by
      intro next hnext
      obtain ⟨_, _, hmoved⟩ := moved next hnext
      exact transitionRecord_claimId hmoved
    rcases hown.carried hs.sound hstored carried hclaim with hown | ⟨next, hnext, hactive⟩
    · exact .inl hown
    have hnot : ¬ Resubmits record old authority now ports s := by
      rintro ⟨_, ⟨intent, hready⟩, _⟩
      exact gate intent hready
    refine .inr ⟨fun hqueue hwaits => ?_, fun hlease hlive => ?_⟩
    · exact hqueue.idle hactive hnot (waits_of_coordinator coordinator hwaits)
    have hidle := hlease.idle hactive (unobserved old hactive) hnot
    unfold Leases at hlive hidle
    rw [leases] at hlive
    exact hidle hlive
  | kept attempt active unobserved fits submits =>
    have hfacts := validateAttempt_facts (hchecked record hstored attempt active)
    have hclaim := submits.claimId
    cases submits with
    | refused carried lease coordinator leases unowned moved =>
      rcases hown.carried hs.sound hstored carried hclaim with hown | ⟨next, hnext, hactive⟩
      · exact .inl hown
      rw [active] at hactive
      cases hactive
      have hnot : ¬ Resubmits record old authority now ports s := fun hkept => lease hkept.2.2.2
      refine .inr ⟨fun hqueue hwaits => ?_, fun hlease hlive => ?_⟩
      · exact hqueue.idle active hnot (waits_of_coordinator coordinator hwaits)
      exact hlease.idle active unobserved hnot (Submits.refused_live hfacts leases unowned hlive)
    | queued carried lease pending leases moved =>
      left
      rcases hown.carried hs.sound hstored carried hclaim with hown | ⟨next, hnext, hactive⟩
      · exact hown
      rw [active] at hactive
      cases hactive
      subst hnext
      have hstatus := transitionRecord_status (moved next rfl)
      exact carried.owned (by rw [hstatus]; rfl)
    | ended carried lease pending idle leases moved =>
      rcases hown.carried hs.sound hstored carried hclaim with hown | ⟨next, hnext, hactive⟩
      · exact .inl hown
      rw [active] at hactive
      cases hactive
      refine .inr ⟨fun _ => ?_, fun _ => not_leases_of_absent (moved next hnext).2⟩
      rintro ⟨q, hq, hid⟩
      rw [pending] at hq
      have hsubmitted := htracked.submitted hchecked hs.sound hstored active hq hid
      have hdigest : q.requestDigest = old.requestDigest := by
        have hsame := hsubmitted.2.1.symm.trans hfacts.digest
        exact Except.ok.inj hsame
      exact idle q hq hsubmitted.1 hdigest
  | unprepared unfit unobserved carried coordinator leases moved =>
    have hclaim : ∀ next, wrote = some next → next.claimId = record.claimId := by
      intro next hnext
      obtain ⟨_, hprepares⟩ := moved next hnext
      exact hprepares.claimId
    rcases hown.carried hs.sound hstored carried hclaim with hown | ⟨next, hnext, hactive⟩
    · exact .inl hown
    have hnot : ¬ Resubmits record old authority now ports s := by
      intro hkept
      have hfits := hkept.2.2.1
      rw [unfit old hactive] at hfits
      cases hfits
    refine .inr ⟨fun hqueue hwaits => ?_, fun hlease hlive => ?_⟩
    · exact hqueue.idle hactive hnot (waits_of_coordinator coordinator hwaits)
    have hidle := hlease.idle hactive (unobserved old hactive) hnot
    unfold Leases at hlive hidle
    rw [leases] at hlive
    exact hidle hlive
  | replaced unfit unobserved attempt prepared s₁ prepares carried coordinator leases submits =>
    have hprepared : prepared ∈ s₁.records := carried.replaced.arrived prepared (by simp)
    have hactive₁ : prepared.status.activeAttempt = some attempt := by
      rw [prepares.valid.1]
      rfl
    have hclaim₁ : ∀ next, some prepared = some next → next.claimId = record.claimId := by
      rintro _ ⟨⟩
      exact prepares.claimId
    rcases hown.carried hs.sound hstored carried hclaim₁ with hown₁ | ⟨_, _, hactive⟩
    · left
      rcases hown₁.carried carried.sound hprepared submits.carried submits.claimId with
        hown' | ⟨_, _, hsame⟩
      · exact hown'
      rw [hactive₁] at hsame
      cases hsame
      exact absurd hown (prepares.fresh hchecked hs.sound hstored)
    have hnot : ¬ Resubmits record old authority now ports s := by
      intro hkept
      have hfits := hkept.2.2.1
      rw [unfit old hactive] at hfits
      cases hfits
    have hapart := prepares.apart (hchecked record hstored old hactive)
    have hfacts := validateAttempt_facts prepares.valid.2
    refine .inr ⟨fun hqueue hwaits => ?_, fun hlease hlive => ?_⟩
    · refine hqueue.idle hactive hnot (waits_of_coordinator coordinator ?_)
      obtain ⟨q, hq, hid⟩ := hwaits
      rcases submits.pending hprepared hactive₁ q hq with hq | ⟨_, hsubmitted⟩
      · exact ⟨q, hq, hid⟩
      unfold QueuedTransaction.id at hid
      rw [hsubmitted.1] at hid
      exact absurd hid hapart.1
    have hidle := hlease.idle hactive (unobserved old hactive) hnot
    unfold Leases at hlive hidle
    rw [← leases] at hidle
    rcases submits.leased hprepared hactive₁ hfacts hlive with hold | ⟨_, hid⟩
    · exact hidle hold
    · exact absurd hid hapart.2

theorem Advances.accounts (h : Advances record authority now ports s s' wrote) (hs : Grounded s)
    (htracked : Tracked s) (hchecked : AttemptsChecked s) (hstored : record ∈ s.records) :
    Accounts (AdvanceKeepsQueue record authority now ports s)
      (AdvanceKeepsLease record authority now ports s) now s s' := by
  have howned := fun (old : RestoreAttempt) (hown : Owned s old) => h.owned hs htracked hchecked hstored hown
  have hsame : s'.core.coordinator = s.core.coordinator → LeaseManager.Shrinks s.leases s'.leases →
      Accounts (AdvanceKeepsQueue record authority now ports s)
        (AdvanceKeepsLease record authority now ports s) now s s' := by
    intro hcoordinator hshrinks
    refine ⟨howned, fun q hq => .inl ?_, fun id hlive => .inl (hshrinks.live hlive)⟩
    unfold pending at hq
    rw [hcoordinator] at hq
    exact hq
  cases h with
  | failed same => exact hsame (by rw [same]) (by rw [same]; exact LeaseManager.Shrinks.refl _)
  | reconciled _ _ _ quits => exact hsame quits.coordinator quits.leases
  | gated _ _ _ coordinator leases =>
    exact hsame coordinator (by rw [leases]; exact LeaseManager.Shrinks.refl _)
  | kept attempt active _ _ submits =>
    have hfacts := validateAttempt_facts (hchecked record hstored attempt active)
    refine ⟨howned, fun q hq => ?_, fun id hlive => ?_⟩
    · exact (submits.pending hstored active q hq).imp (fun hold => hold) fun hnew => ⟨attempt, hnew⟩
    exact (submits.leased hstored active hfacts hlive).imp (fun hold => hold) fun hnew => ⟨attempt, hnew⟩
  | unprepared _ _ _ coordinator leases =>
    exact hsame coordinator (by rw [leases]; exact LeaseManager.Shrinks.refl _)
  | replaced _ _ attempt prepared s₁ prepares carried coordinator leases submits =>
    have hprepared : prepared ∈ s₁.records := carried.replaced.arrived prepared (by simp)
    have hactive : prepared.status.activeAttempt = some attempt := by
      rw [prepares.valid.1]
      rfl
    have hfacts := validateAttempt_facts prepares.valid.2
    refine ⟨howned, fun q hq => ?_, fun id hlive => ?_⟩
    · rcases submits.pending hprepared hactive q hq with hold | hnew
      · unfold pending at hold
        rw [coordinator] at hold
        exact .inl hold
      · exact .inr ⟨attempt, hnew⟩
    rcases submits.leased hprepared hactive hfacts hlive with hold | hnew
    · exact .inl (leases ▸ hold)
    · exact .inr ⟨attempt, hnew⟩

omit [ReceiverTransport T] in
/-- A call that only takes entries and leases away, and attempts only with both. -/
theorem accounts_of_shrinks (hpending : s'.pending ⊆ s.pending)
    (hshrinks : LeaseManager.Shrinks s.leases s'.leases)
    (howned : ∀ attempt, Owned s attempt → Owned s' attempt ∨
      ((queue → ¬ Waits s' attempt) ∧ (leases → ¬ Leases s' attempt now))) :
    Accounts queue leases now s s' :=
  ⟨howned, fun _ hq => .inl (hpending hq), fun _ hlive => .inl (hshrinks.live hlive)⟩

omit [ReceiverTransport T] [RestorationDigests] in
theorem Quits.owned {status : RestoreRecordStatus → Prop} (h : Quits attempt record status s s' wrote)
    (hsound : StoreSound s.records) (hstored : record ∈ s.records)
    (hactive : record.status.activeAttempt = some attempt) (hown : Owned s old) :
    Owned s' old ∨ (old = attempt ∧ s'.leases.leases[attempt.request.leaseId]? = none) := by
  have hclaim : ∀ next, wrote = some next → next.claimId = record.claimId := by
    intro next hnext
    obtain ⟨⟨_, _, hmoved⟩, _⟩ := h.moved next hnext
    exact transitionRecord_claimId hmoved
  rcases hown.carried hsound hstored h.toCarried hclaim with hown | ⟨next, hnext, hold⟩
  · exact .inl hown
  rw [hactive] at hold
  exact .inr ⟨(Option.some.inj hold).symm, (h.moved next hnext).2⟩

omit [ReceiverTransport T] in
theorem Observes.owned {terminals : List TransactionTerminal} (h : Observes terminals s s')
    (now : MonotonicMs) (hs : Grounded s)
    (hgone : ∀ terminal ∈ terminals, ∀ q ∈ s.pending, q.id ≠ terminal.transactionId) :
    s'.pending = s.pending ∧ LeaseManager.Shrinks s.leases s'.leases ∧
      ∀ attempt, Owned s attempt → Owned s' attempt ∨ (¬ Waits s attempt ∧ ¬ Leases s' attempt now) := by
  induction h with
  | stop => exact ⟨rfl, LeaseManager.Shrinks.refl _, fun _ hown => .inl hown⟩
  | skip _ ih => exact ih hs fun t ht => hgone t (List.mem_cons_of_mem _ ht)
  | @finish terminal terminals s s₁ s' record attempt wrote stored valid active named quits rest ih =>
    have hpending : s₁.pending = s.pending := by
      unfold pending
      rw [quits.coordinator]
    have hgone₁ : ∀ t ∈ terminals, ∀ q ∈ s₁.pending, q.id ≠ t.transactionId := by
      intro t ht q hq
      rw [hpending] at hq
      exact hgone t (List.mem_cons_of_mem _ ht) q hq
    obtain ⟨hpending', hshrinks, hown'⟩ := ih quits.grounded hgone₁
    refine ⟨hpending'.trans hpending, quits.leases.trans hshrinks, fun old hold => ?_⟩
    rcases quits.owned hs.sound stored active hold with hown | ⟨rfl, habsent⟩
    · rcases hown' old hown with hown | ⟨hwaits, hlive⟩
      · exact .inl hown
      refine .inr ⟨fun hwaiting => hwaits ?_, hlive⟩
      obtain ⟨q, hq, hid⟩ := hwaiting
      exact ⟨q, hpending ▸ hq, hid⟩
    refine .inr ⟨?_, fun hlive => not_leases_of_absent habsent (hshrinks.live hlive)⟩
    rintro ⟨q, hq, hid⟩
    exact hgone terminal List.mem_cons_self q hq (hid.trans named)

theorem DrainsAndObserves.accounts (h : DrainsAndObserves s s') (hs : Grounded s)
    : Accounts queue leases now s s' := by
  have hstore : ∀ {s₁ : RestorationState T}, Drains s s₁ → ∀ attempt, Owned s attempt → Owned s₁ attempt := by
    rintro s₁ hdrains attempt ⟨r, hr, hactive⟩
    refine ⟨r, ?_, hactive⟩
    unfold records
    rw [hdrains.store]
    exact hr
  cases h with
  | drained drains =>
    have hshrinks : LeaseManager.Shrinks s.leases s'.leases := by
      rw [drains.leases]
      exact LeaseManager.Shrinks.refl _
    exact accounts_of_shrinks drains.dequeued.subset hshrinks fun attempt hown =>
      .inl (hstore drains attempt hown)
  | observed s₁ result drains answered observes =>
    obtain ⟨hpending, hshrinks, howned⟩ := observes.owned now (drains.grounded hs) answered.gone
    rw [drains.leases] at hshrinks
    refine accounts_of_shrinks ?_ hshrinks fun attempt hown => ?_
    · rw [hpending]
      exact drains.dequeued.subset
    rcases howned attempt (hstore drains attempt hown) with hown | ⟨hwaits, hlive⟩
    · exact .inl hown
    refine .inr ⟨fun _ hwaiting => hwaits ?_, fun _ => hlive⟩
    obtain ⟨q, hq, hid⟩ := hwaiting
    exact ⟨q, hpending ▸ hq, hid⟩

/-- A queued claim is dispatched while the transport knows nothing of it, or without an entry. -/
def DispatchKeepsQueue (attempt : RestoreAttempt) (s : RestorationState T) : Prop :=
  ReceiverTransport.reconcile s.core.transport (dispatchFromAttempt attempt) = .notObserved ∨ ¬ Waits s attempt

omit [ReceiverTransport T] [RestorationDigests] in
theorem Owned.applying (hown : Owned s old) (hsound : StoreSound s.records) (hstored : record ∈ s.records)
    (hactive : record.status.activeAttempt = some attempt) (hcarried : Carried s s' wrote)
    (hmoved : ∀ next, wrote = some next → transitionRecord record (.applying attempt) = .ok next) :
    Owned s' old := by
  have hclaim : ∀ next, wrote = some next → next.claimId = record.claimId := fun next hnext =>
    transitionRecord_claimId (hmoved next hnext)
  rcases hown.carried hsound hstored hcarried hclaim with hown | ⟨next, hnext, hold⟩
  · exact hown
  rw [hactive] at hold
  cases hold
  subst hnext
  have hstatus := transitionRecord_status (hmoved next rfl)
  exact hcarried.owned (by rw [hstatus]; rfl)

theorem DispatchesClaim.accounts (h : DispatchesClaim record attempt s s') (hs : Grounded s)
    (hstored : record ∈ s.records) (hqueued : record.status = .queued attempt) :
    Accounts (DispatchKeepsQueue attempt s) leases now s s' := by
  have hactive : record.status.activeAttempt = some attempt := by
    rw [hqueued]
    rfl
  cases h with
  | failed same =>
    subst same
    exact accounts_of_shrinks (fun _ hq => hq) (LeaseManager.Shrinks.refl _) fun _ hown => .inl hown
  | reconciled wrote observed quits =>
    have hpending : s'.pending = s.pending := by
      unfold pending
      rw [quits.coordinator]
    refine accounts_of_shrinks (by rw [hpending]; exact fun _ hq => hq) quits.leases ?_
    intro old hown
    rcases quits.owned hs.sound hstored hactive hown with hown | ⟨rfl, habsent⟩
    · exact .inl hown
    refine .inr ⟨fun hqueue => ?_, fun _ => not_leases_of_absent habsent⟩
    have hidle := hqueue.resolve_left observed
    exact fun hwaits => hidle (waits_of_coordinator quits.coordinator hwaits)
  | cancelled s₁ wrote _ safe transport subset gone leases store quits =>
    have hrecords : s₁.records = s.records := by
      unfold records
      rw [store]
    have hpending : s'.pending = s₁.pending := by
      unfold pending
      rw [quits.coordinator]
    have hshrinks : LeaseManager.Shrinks s.leases s'.leases := by
      rw [← leases]
      exact quits.leases
    refine accounts_of_shrinks (by rw [hpending]; exact subset) hshrinks ?_
    rintro old ⟨r, hr, hold⟩
    have hown₁ : Owned s₁ old := ⟨r, hrecords ▸ hr, hold⟩
    have hsound₁ : StoreSound s₁.records := hrecords ▸ hs.sound
    have hstored₁ : record ∈ s₁.records := hrecords ▸ hstored
    rcases quits.owned hsound₁ hstored₁ hactive hown₁ with hown | ⟨rfl, habsent⟩
    · exact .inl hown
    refine .inr ⟨fun _ => ?_, fun _ => not_leases_of_absent habsent⟩
    rintro ⟨q, hq, hid⟩
    rw [hpending] at hq
    exact gone q hq hid
  | unapplied wrote _ carried coordinator leases moved =>
    have hpending : s'.pending = s.pending := by
      unfold pending
      rw [coordinator]
    have hshrinks : LeaseManager.Shrinks s.leases s'.leases := by
      rw [leases]
      exact LeaseManager.Shrinks.refl _
    exact accounts_of_shrinks (by rw [hpending]; exact fun _ hq => hq) hshrinks
      fun old hown => .inl (hown.applying hs.sound hstored hactive carried moved)
  | applied applying s₁ _ moved carried coordinator sameLeases drains =>
    have hpending : s₁.pending = s.pending := by
      unfold pending
      rw [coordinator]
    have hmoved : ∀ next, some applying = some next →
        transitionRecord record (.applying attempt) = .ok next := by
      rintro _ ⟨⟩
      exact moved
    have haccounts : Accounts (DispatchKeepsQueue attempt s) leases now s₁ s' :=
      drains.accounts carried.grounded
    refine ⟨fun old hown => ?_, fun q hq => ?_, fun id hlive => ?_⟩
    · exact haccounts.owned old (hown.applying hs.sound hstored hactive carried hmoved)
    · exact hpending ▸ haccounts.pending q hq
    · exact sameLeases ▸ haccounts.leased id hlive

omit [ReceiverTransport T] in
theorem Plans.owned (h : Plans s s') (hsound : StoreSound s.records) :
    s'.core.coordinator = s.core.coordinator ∧ s'.leases = s.leases ∧
      ∀ attempt, Owned s attempt → Owned s' attempt := by
  induction h with
  | stop => exact ⟨rfl, rfl, fun _ hown => hown⟩
  | keep stored _ ih =>
    obtain ⟨hcoordinator, hleases, howned⟩ := ih stored.sound
    refine ⟨hcoordinator.trans stored.coordinator, hleases.trans stored.leases, fun a hown => ?_⟩
    rcases hown.replaced stored.replaced with hown | ⟨_, _, _, w, hw, _⟩
    · exact howned a hown
    · cases hw
  | supersede present supersedable valid moved stored _ ih =>
    obtain ⟨hcoordinator, hleases, howned⟩ := ih stored.sound
    refine ⟨hcoordinator.trans stored.coordinator, hleases.trans stored.leases, fun a hown => ?_⟩
    rcases hown.replaced stored.replaced with hown | ⟨r, hr, hactive, w, hw, hclaim⟩
    · exact howned a hown
    exfalso
    rw [List.mem_singleton.mp hw, transitionRecord_claimId moved] at hclaim
    have hrecord := eq_of_claimId hsound.distinct present hr hclaim
    rw [← hrecord, supersedable.inactive] at hactive
    cases hactive
  | create fresh built stored _ ih =>
    obtain ⟨hcoordinator, hleases, howned⟩ := ih stored.sound
    refine ⟨hcoordinator.trans stored.coordinator, hleases.trans stored.leases, fun a hown => ?_⟩
    rcases hown.replaced stored.replaced with hown | ⟨r, hr, _, w, hw, hclaim⟩
    · exact howned a hown
    rw [List.mem_singleton.mp hw] at hclaim
    exact absurd hclaim.symm (fresh r hr)

/-- A retired claim had no transaction in the queue. -/
theorem RetiredAs.idle (h : RetiredAs s.core.transport s.core.coordinator record next)
    (hs : Grounded s) (htracked : Tracked s) (hchecked : AttemptsChecked s)
    (hstored : record ∈ s.records) (hactive : record.status.activeAttempt = some attempt) :
    ¬ Waits s attempt := by
  rintro ⟨q, hq, hid⟩
  have hsubmitted := htracked.submitted hchecked hs.sound hstored hactive hq hid
  obtain ⟨p, hlookup⟩ := hsubmitted.lookup hs.safe hq
  rcases h with ⟨hinactive, _⟩ | ⟨retired, completion, hretired, hcompletion, _⟩
  · rw [hactive] at hinactive
    cases hinactive
  rw [hactive] at hretired
  cases hretired
  unfold retirementCompletion at hcompletion
  rw [hlookup] at hcompletion
  cases hcompletion

omit [RestorationDigests] in
theorem RetiredAs.claimId {transport : T} {transactions : TransactionCoordinator}
    (h : RetiredAs transport transactions record next) : next.claimId = record.claimId := by
  rcases h with ⟨_, hmoved⟩ | ⟨_, _, _, _, hmoved⟩
  · exact transitionRecord_claimId hmoved
  · exact transitionRecord_claimId hmoved

def RetireKeepsLeases (receiverId : ReceiverId) (generationId : GenerationId) (now : MonotonicMs)
    (s : RestorationState T) : Prop :=
  s.store.Torn → ∀ r ∈ s.records, r.receiverId = receiverId → r.generationId = generationId →
    ∀ attempt, r.status.activeAttempt = some attempt → ¬ Leases s attempt now

theorem Retires.accounts {receiverId : ReceiverId} {generationId : GenerationId}
    (h : Retires receiverId generationId s s') (hs : Grounded s) (htracked : Tracked s)
    (hchecked : AttemptsChecked s) :
    Accounts queue (RetireKeepsLeases receiverId generationId now s) now s s' := by
  have hretired : ∀ records updated : List RestoreRecord,
      (∀ r ∈ records, OwnRecord receiverId generationId s r) →
      List.Forall₂ (RetiredAs s.core.transport s.core.coordinator) records updated →
      Replaced s.records s'.records updated → ∀ old, Owned s old → Owned s' old ∨
        ∃ r ∈ records, r.status.activeAttempt = some old ∧ ¬ Waits s old := by
    intro records updated hown hforall hreplaced old hold
    rcases hold.replaced hreplaced with hold | ⟨r, hr, hactive, w, hw, hclaim⟩
    · exact .inl hold
    obtain ⟨record, hrecord, hretiredAs⟩ := forall₂_right hforall w hw
    rw [hretiredAs.claimId] at hclaim
    have hsame := eq_of_claimId hs.sound.distinct (hown record hrecord).1 hr hclaim
    subst hsame
    exact .inr ⟨record, hrecord, hactive, hretiredAs.idle hs htracked hchecked hr hactive⟩
  cases h with
  | failed stored =>
    have hpending : s'.pending = s.pending := by
      unfold pending
      rw [stored.coordinator]
    refine accounts_of_shrinks (by rw [hpending]; exact fun _ hq => hq)
      (by rw [stored.leases]; exact LeaseManager.Shrinks.refl _) fun old hown => ?_
    rcases hown.replaced stored.replaced with hown | ⟨_, _, _, w, hw, _⟩
    · exact .inl hown
    · cases hw
  | torn records updated own retired visible stored =>
    have hpending : s'.pending = s.pending := by
      unfold pending
      rw [stored.coordinator]
    refine accounts_of_shrinks (by rw [hpending]; exact fun _ hq => hq)
      (by rw [stored.leases]; exact LeaseManager.Shrinks.refl _) fun old hown => ?_
    rcases hretired records updated own retired stored.replaced old hown with
      hown | ⟨r, hr, hactive, hidle⟩
    · exact .inl hown
    obtain ⟨hstored, hreceiver, hgeneration, _⟩ := own r hr
    refine .inr ⟨fun _ hwaits => hidle (waits_of_coordinator stored.coordinator hwaits), ?_⟩
    intro hleases hlive
    unfold Leases at hlive
    rw [stored.leases] at hlive
    exact hleases visible r hstored hreceiver hgeneration old hactive hlive
  | retired records updated own retired shrinks absent coordinator transport replaced sound =>
    have hpending : s'.pending = s.pending := by
      unfold pending
      rw [coordinator]
    refine accounts_of_shrinks (by rw [hpending]; exact fun _ hq => hq) shrinks fun old hown => ?_
    rcases hretired records updated own retired replaced old hown with
      hown | ⟨r, hr, hactive, hidle⟩
    · exact .inl hown
    refine .inr ⟨fun _ hwaits => hidle (waits_of_coordinator coordinator hwaits), fun _ => ?_⟩
    exact not_leases_of_absent (absent r hr old hactive)

/-- No step gives up an attempt whose transaction waits. -/
def KeepsQueue (s : RestorationState T) (step : RestorationStep T) : Prop :=
  match step.op with
  | .advanceClaim claimId authority => ∀ r ∈ s.records, r.claimId = claimId →
    AdvanceKeepsQueue r authority step.now step.ports (step.enter s)
  | .dispatchClaim claimId => ∀ r ∈ s.records, r.claimId = claimId →
    ∀ attempt, r.status = .queued attempt → DispatchKeepsQueue attempt (step.enter s)
  | _ => True

/-- No step gives up an attempt whose lease is held. -/
def KeepsLeases (s : RestorationState T) (step : RestorationStep T) : Prop :=
  match step.op with
  | .advanceClaim claimId authority => ∀ r ∈ s.records, r.claimId = claimId →
    AdvanceKeepsLease r authority step.now step.ports (step.enter s)
  | .retireGeneration receiverId generationId =>
    RetireKeepsLeases receiverId generationId step.now (step.enter s)
  | _ => True

omit [ReceiverTransport T] in
theorem Accounts.imp {queue' leases' : Prop} (h : Accounts queue leases now s s') (hqueue : queue' → queue)
    (hleases : leases' → leases) : Accounts queue' leases' now s s' := by
  refine ⟨fun attempt hown => ?_, h.pending, h.leased⟩
  rcases h.owned attempt hown with hown | ⟨hwaits, hlive⟩
  · exact .inl hown
  · exact .inr ⟨fun hq => hwaits (hqueue hq), fun hl => hlive (hleases hl)⟩

theorem RestorationStep.run_accounts {step : RestorationStep T} (hs : Grounded s)
    (htracked : Tracked s) (hchecked : AttemptsChecked s) :
    Accounts (KeepsQueue s step) (KeepsLeases s step) step.now (step.enter s) (step.run s) := by
  have hs' : Grounded (step.enter s) := ⟨hs.sound, hs.safe⟩
  have htracked' : Tracked (step.enter s) := htracked
  have hchecked' : AttemptsChecked (step.enter s) := hchecked
  cases step.run_effect hs with
  | same eq =>
    rw [eq]
    exact accounts_of_shrinks (fun _ hq => hq) (LeaseManager.Shrinks.refl _) fun _ hown => .inl hown
  | plans plans =>
    obtain ⟨hcoordinator, hleases, howned⟩ := plans.owned hs'.sound
    have hpending : (step.run s).pending = (step.enter s).pending := by
      unfold pending
      rw [hcoordinator]
    exact accounts_of_shrinks (by rw [hpending]; exact fun _ hq => hq)
      (by rw [hleases]; exact LeaseManager.Shrinks.refl _) fun a hown => .inl (howned a hown)
  | advances claimId authority op record stored claim valid _ wrote advances =>
    refine (advances.accounts hs' htracked' hchecked' stored).imp ?_ ?_
    · intro hqueue
      simp only [KeepsQueue, op] at hqueue
      exact hqueue record stored claim
    intro hleases
    simp only [KeepsLeases, op] at hleases
    exact hleases record stored claim
  | dispatches claimId op record attempt stored claim valid queued dispatches =>
    refine (dispatches.accounts hs' stored queued).imp ?_ fun hleases => hleases
    intro hqueue
    simp only [KeepsQueue, op] at hqueue
    exact hqueue record stored claim attempt queued
  | drains observe op drains => exact drains.accounts hs'
  | retires receiverId generationId op retires =>
    refine (retires.accounts hs' htracked' hchecked').imp (fun hqueue => hqueue) ?_
    intro hleases
    simp only [KeepsLeases, op] at hleases
    exact hleases
  | restarts capacity op coordinator new eq =>
    rw [eq]
    refine accounts_of_shrinks ?_ (LeaseManager.Shrinks.refl _) fun _ hown => .inl hown
    intro q hq
    have hempty : coordinator.queue.pending = [] := (new_safe new).1
    unfold pending at hq
    rw [hempty] at hq
    cases hq

theorem RestorationStep.run_tracked {step : RestorationStep T} (hs : Grounded s)
    (htracked : Tracked s) (hchecked : AttemptsChecked s) (hkeeps : KeepsQueue s step) :
    Tracked (step.run s) := by
  have haccounts := step.run_accounts hs htracked hchecked
  intro q hq
  rcases haccounts.pending q hq with hold | hnew
  · obtain ⟨attempt, hown, hsubmitted⟩ := htracked q hold
    rcases haccounts.owned attempt hown with hown | ⟨hidle, _⟩
    · exact ⟨attempt, hown, hsubmitted⟩
    refine absurd ⟨q, hq, ?_⟩ (hidle hkeeps)
    rw [← hsubmitted.1]
  · exact hnew

omit [ReceiverTransport T] in
theorem RestorationStart.tracked (h : RestorationStart s) : Tracked s := by
  obtain ⟨capacity, hnew⟩ := h.coordinator
  intro q hq
  have hempty : s.core.coordinator.queue.pending = [] := (new_safe hnew).1
  unfold pending at hq
  rw [hempty] at hq
  cases hq

end Accounts

end HyperfluxNext
