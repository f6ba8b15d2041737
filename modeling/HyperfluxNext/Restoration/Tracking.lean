import HyperfluxNext.Restoration.Runs

namespace HyperfluxNext

open Procedure List

/-- What stands after the last dash of two equal texts is the same. -/
theorem append_dash_cancel {xs ys ds es : List Char} (h : xs ++ '-' :: ds = ys ++ '-' :: es)
    (hd : '-' ∉ ds) (he : '-' ∉ es) : xs = ys ∧ ds = es := by
  rcases append_eq_append_iff.mp h with ⟨zs, hy, hz⟩ | ⟨zs, hx, hz⟩
  · cases zs with
    | nil =>
      cases hz
      exact ⟨by simpa using hy.symm, rfl⟩
    | cons z zs =>
      have hds : ds = zs ++ '-' :: es := (List.cons.inj hz).2
      exact absurd (hds ▸ mem_append_right zs mem_cons_self) hd
  cases zs with
  | nil =>
    cases hz
    exact ⟨by simpa using hx, rfl⟩
  | cons z zs =>
    have hes : es = zs ++ '-' :: ds := (List.cons.inj hz).2
    exact absurd (hes ▸ mem_append_right zs mem_cons_self) he

theorem dash_not_mem_toString (n : Nat) : '-' ∉ (toString n).toList := by
  intro hmem
  rw [Nat.toString_eq_repr, Nat.toList_repr] at hmem
  have hdigit := Nat.isDigit_of_mem_toDigits (by decide) (by decide) hmem
  exact absurd hdigit (by decide)

theorem toString_toList_inj {n m : Nat} (h : (toString n).toList = (toString m).toList) : n = m := by
  rw [Nat.toString_eq_repr, Nat.toList_repr, Nat.toString_eq_repr, Nat.toList_repr] at h
  have hparsed := congrArg (fun digits => Nat.ofDigitChars 10 digits 0) h
  simpa using hparsed

variable {idPrefix : String} {id : Text 1 128}

theorem typedId_ok {suffix : String} (h : typedId idPrefix suffix = .ok id) :
    id.asStr = idPrefix ++ "-" ++ suffix := by
  unfold typedId Text.tryFrom at h
  split at h
  · cases h
  next hsome =>
    split at hsome
    · cases hsome
      cases h
      rfl
    · cases hsome

theorem attemptId_inj {claimId claimId' : RestoreClaimId} {number number' : RestoreAttemptNumber}
    (h : typedId idPrefix (attemptSuffix claimId number) = .ok id)
    (h' : typedId idPrefix (attemptSuffix claimId' number') = .ok id) :
    claimId = claimId' ∧ number = number' := by
  have heq : idPrefix ++ "-" ++ attemptSuffix claimId number =
      idPrefix ++ "-" ++ attemptSuffix claimId' number' := by
    rw [← typedId_ok h, ← typedId_ok h']
  have hlist := congrArg String.toList heq
  unfold attemptSuffix at hlist
  simp only [String.toList_append, append_assoc, append_cancel_left_eq] at hlist
  have hdash : ("-" : String).toList = ['-'] := rfl
  simp only [hdash, singleton_append] at hlist
  obtain ⟨hclaim, hnumber⟩ := append_dash_cancel hlist (dash_not_mem_toString _) (dash_not_mem_toString _)
  refine ⟨?_, ?_⟩
  · cases claimId
    cases claimId'
    simpa using String.toList_inj.mp hclaim
  have hget := toString_toList_inj hnumber
  cases number
  cases number'
  simpa using hget

variable {authority : RestorationAuthority}

section Attempts

variable {T : Type} [RestorationDigests] {s s₁ s' : RestorationState T} {record next : RestoreRecord}
  {attempt : RestoreAttempt} {wrote : Option RestoreRecord} {q : QueuedTransaction}

section
omit [RestorationDigests]

/-- Some stored record is at work on the attempt. -/
def Owned (s : RestorationState T) (attempt : RestoreAttempt) : Prop :=
  ∃ r ∈ s.records, r.status.activeAttempt = some attempt

def Waits (s : RestorationState T) (attempt : RestoreAttempt) : Prop :=
  ∃ q ∈ s.pending, q.id = attempt.request.transactionId

end

/-- Every queued transaction is one that a stored record is at work on. -/
def Tracked (s : RestorationState T) : Prop :=
  ∀ q ∈ s.pending, ∃ attempt, Owned s attempt ∧ SubmittedAs attempt.request attempt.submission q

section
omit [RestorationDigests]

theorem not_compactable_of_active (h : record.status.activeAttempt = some attempt) :
    ¬ compactableTerminal record.status := by
  intro hcompact
  cases hstatus : record.status <;> rw [hstatus] at h hcompact <;>
    simp [RestoreRecordStatus.activeAttempt, compactableTerminal] at h hcompact

/-- A batch of writes takes an attempt only from the claims it writes. -/
theorem Owned.replaced {written : List RestoreRecord} (h : Owned s attempt)
    (hreplaced : Replaced s.records s'.records written) :
    Owned s' attempt ∨ ∃ r ∈ s.records, r.status.activeAttempt = some attempt ∧
      ∃ w ∈ written, w.claimId = r.claimId := by
  obtain ⟨r, hr, hactive⟩ := h
  by_cases hwritten : ∃ w ∈ written, w.claimId = r.claimId
  · exact .inr ⟨r, hr, hactive, hwritten⟩
  left
  have hfree : ∀ w ∈ written, w.claimId ≠ r.claimId := by
    intro w hw heq
    exact hwritten ⟨w, hw, heq⟩
  have hkept := (hreplaced.kept r hr hfree).resolve_right (not_compactable_of_active hactive)
  exact ⟨r, hkept, hactive⟩

theorem Owned.carried (h : Owned s attempt) (hsound : StoreSound s.records)
    (hstored : record ∈ s.records) (hcarried : Carried s s' wrote)
    (hclaim : ∀ next, wrote = some next → next.claimId = record.claimId) :
    Owned s' attempt ∨ ∃ next, wrote = some next ∧ record.status.activeAttempt = some attempt := by
  rcases h.replaced hcarried.replaced with hown | ⟨r, hr, hactive, w, hw, heq⟩
  · exact .inl hown
  have hwrote : wrote = some w := Option.mem_toList.mp hw
  have hsame : r = record := eq_of_claimId hsound.distinct hr hstored (by rw [← heq, hclaim w hwrote])
  exact .inr ⟨w, hwrote, hsame ▸ hactive⟩

theorem Carried.owned (hcarried : Carried s s' (some next))
    (hactive : next.status.activeAttempt = some attempt) : Owned s' attempt :=
  ⟨next, hcarried.replaced.arrived next (by simp), hactive⟩

theorem Carried.stays (hcarried : Carried s s' none) (hstored : record ∈ s.records)
    (hactive : record.status.activeAttempt = some attempt) : Owned s' attempt := by
  have hkept := hcarried.replaced.kept record hstored (by simp)
  exact ⟨record, hkept.resolve_right (not_compactable_of_active hactive), hactive⟩

end

theorem Tracked.submitted (h : Tracked s) (hchecked : AttemptsChecked s) (hsound : StoreSound s.records)
    (hstored : record ∈ s.records) (hactive : record.status.activeAttempt = some attempt) (hq : q ∈ s.pending)
    (hid : q.id = attempt.request.transactionId) :
    SubmittedAs attempt.request attempt.submission q := by
  obtain ⟨other, ⟨r, hr, hother⟩, hsubmitted⟩ := h q hq
  have hotherId := (validateAttempt_facts (hchecked r hr other hother)).transactionId
  have hattemptId := (validateAttempt_facts (hchecked record hstored attempt hactive)).transactionId
  have hidEq : other.request.transactionId = attempt.request.transactionId := by
    rw [← hid, ← hsubmitted.1]
  rw [hidEq] at hotherId
  obtain ⟨hclaim, _⟩ := attemptId_inj hotherId hattemptId
  have hrecord : r = record := eq_of_claimId hsound.distinct hr hstored hclaim
  subst hrecord
  rw [hactive] at hother
  cases hother
  exact hsubmitted

/-- A queued attempt has a progress record in the journal. -/
theorem SubmittedAs.lookup {request : TransactionRequest} {binding : SubmissionBinding}
    (h : SubmittedAs request binding q) (hsafe : CoordinatorSafe s.core.coordinator) (hq : q ∈ s.pending) :
    ∃ p, s.core.coordinator.outcomes.lookup request.clientId request.transactionId =
      .retained (.progress p) := by
  have hmem : (q, TransactionState.queued) ∈ waiting s.core.coordinator.queue.pending :=
    mem_map.mpr ⟨q, hq, rfl⟩
  obtain ⟨p, _, hret⟩ := hsafe.opened.recorded (q, .queued) hmem
  refine ⟨p, ?_⟩
  unfold QueuedTransaction.id at hret
  rw [h.1] at hret
  unfold BoundedOutcomeJournal.lookup
  rw [hret]
  simp

omit [RestorationDigests] in
theorem nextAttemptNumber_ne {current number : RestoreAttemptNumber}
    (h : nextAttemptNumber (some current) = .ok number) : number ≠ current := by
  intro heq
  subst heq
  unfold nextAttemptNumber nextCounter at h
  split at h
  · cases h
  next found hfound =>
    cases h
    have hget := Bounded.get_of_tryFrom hfound
    simp only at hget
    omega

/-- A new attempt shares no identity with the one it takes the place of. -/
theorem Prepares.apart {old : RestoreAttempt} (h : Prepares record authority attempt next)
    (hold : validateAttempt record old = .ok ()) :
    attempt.request.transactionId ≠ old.request.transactionId ∧
      attempt.request.leaseId ≠ old.request.leaseId := by
  have hfacts := validateAttempt_facts h.valid.2
  have holdFacts := validateAttempt_facts hold
  obtain ⟨number, intent, hnumber, _, hmoved⟩ := h
  have hfields : next.claimId = record.claimId ∧ next.lastAttempt = some number := by
    obtain ⟨_, revision, rfl⟩ := transitionRecord_ok hmoved
    exact ⟨rfl, rfl⟩
  obtain ⟨hclaim, hlast⟩ := hfields
  rw [holdFacts.number] at hnumber
  have hne : attempt.attemptNumber ≠ old.attemptNumber := by
    have hsame : some number = some attempt.attemptNumber := hlast.symm.trans hfacts.number
    rw [← Option.some.inj hsame]
    exact nextAttemptNumber_ne hnumber
  refine ⟨fun heq => hne ?_, fun heq => hne ?_⟩
  · have hid := hfacts.transactionId
    rw [hclaim, heq] at hid
    exact (attemptId_inj hid holdFacts.transactionId).2
  have hid := hfacts.leaseId
  rw [hclaim, heq] at hid
  exact (attemptId_inj hid holdFacts.leaseId).2

end Attempts

section Accounts

variable {T : Type} [RestorationDigests] {s s₁ s' : RestorationState T} {now : MonotonicMs}
  {record next : RestoreRecord} {attempt : RestoreAttempt} {wrote : Option RestoreRecord}

def Leases (s : RestorationState T) (attempt : RestoreAttempt) (now : MonotonicMs) : Prop :=
  s.leases.Live attempt.request.leaseId now

/-- What a call does to the attempts in progress: those that are given up neither wait nor hold a
lease under the conditions `queue` and `leases`, and nothing is queued or leased for others. -/
structure Accounts (queue leases : Prop) (now : MonotonicMs) (s s' : RestorationState T) : Prop where
  owned : ∀ attempt, Owned s attempt → Owned s' attempt ∨
    ((queue → ¬ Waits s' attempt) ∧ (leases → ¬ Leases s' attempt now))
  pending : ∀ q ∈ s'.pending, q ∈ s.pending ∨ ∃ attempt, Owned s' attempt ∧
    SubmittedAs attempt.request attempt.submission q
  leased : ∀ id, s'.leases.Live id now → s.leases.Live id now ∨ ∃ attempt, Owned s' attempt ∧
    attempt.request.leaseId = id

section
omit [RestorationDigests]

theorem LeaseManager.Shrinks.live {before after : LeaseManager} {id : LeaseId}
    (h : LeaseManager.Shrinks before after) (hlive : after.Live id now) : before.Live id now := by
  obtain ⟨grant, hgrant, hexpires⟩ := hlive
  exact ⟨grant, h id grant hgrant, hexpires⟩

theorem not_leases_of_absent (h : s.leases.leases[attempt.request.leaseId]? = none) : ¬ Leases s attempt now := by
  rintro ⟨grant, hgrant, _⟩
  rw [h] at hgrant
  cases hgrant

theorem waits_of_coordinator (h : s'.core.coordinator = s.core.coordinator)
    (hwaits : Waits s' attempt) : Waits s attempt := by
  unfold Waits RestorationState.pending at hwaits
  rw [h] at hwaits
  exact hwaits

end

/-- A lease that could not be had is not held afterwards either. -/
theorem Submits.refused_live {id : LeaseId} (hfacts : AttemptFacts record attempt)
    (hgrants : LeaseManager.Grants s.leases s'.leases attempt.leaseRequest attempt.request.leaseId)
    (hunowned : s'.leases.owns attempt.request.clientId attempt.request.leaseId
      attempt.request.resources now = false ∨ LeaseManager.Shrinks s.leases s'.leases)
    (hlive : s'.leases.Live id now) : s.leases.Live id now := by
  rcases hunowned with hunowned | hshrinks
  · obtain ⟨grant, hgrant, hexpires⟩ := hlive
    rcases hgrants id grant hgrant with hold | ⟨rfl, hclient, hresources⟩
    · exact ⟨grant, hold, hexpires⟩
    exfalso
    have hclient' : grant.clientId = attempt.request.clientId := by
      rw [hclient, hfacts.clientId]
    have hresources' : grant.resources = attempt.request.resources := by
      rw [hresources, hfacts.resources]
    simp [LeaseManager.owns, hgrant, hclient', hresources', hexpires] at hunowned
  · exact hshrinks.live hlive

section

variable (h : Submits record attempt now s s' wrote)
include h

theorem Submits.pending (hstored : record ∈ s.records)
    (hactive : record.status.activeAttempt = some attempt) :
    ∀ q ∈ s'.pending, q ∈ s.pending ∨ (Owned s' attempt ∧
      SubmittedAs attempt.request attempt.submission q) := by
  intro q hq
  cases h with
  | refused _ _ coordinator =>
    unfold RestorationState.pending at hq
    rw [coordinator] at hq
    exact .inl hq
  | queued carried _ pending _ moved =>
    rcases pending with hsame | ⟨new, hnew, hadded⟩
    · exact .inl (hsame ▸ hq)
    rw [hadded] at hq
    rcases mem_append.mp hq with hq | hq
    · exact .inl hq
    rw [mem_singleton.mp hq]
    refine .inr ⟨?_, hnew⟩
    cases wrote with
    | none => exact carried.stays hstored hactive
    | some next =>
      have hstatus := transitionRecord_status (moved next rfl)
      exact carried.owned (by rw [hstatus]; rfl)
  | ended _ _ pending => exact .inl (pending ▸ hq)

theorem Submits.leased {id : LeaseId}
    (hstored : record ∈ s.records) (hactive : record.status.activeAttempt = some attempt)
    (hfacts : AttemptFacts record attempt) (hlive : s'.leases.Live id now) :
    s.leases.Live id now ∨ (Owned s' attempt ∧ attempt.request.leaseId = id) := by
  cases h with
  | refused _ _ _ leases unowned => exact .inl (Submits.refused_live hfacts leases unowned hlive)
  | queued carried _ _ leases moved =>
    obtain ⟨grant, hgrant, hexpires⟩ := hlive
    rcases leases id grant hgrant with hold | ⟨hid, _⟩
    · exact .inl ⟨grant, hold, hexpires⟩
    refine .inr ⟨?_, hid.symm⟩
    cases wrote with
    | none => exact carried.stays hstored hactive
    | some next =>
      have hstatus := transitionRecord_status (moved next rfl)
      exact carried.owned (by rw [hstatus]; rfl)
  | ended carried _ _ _ leases moved =>
    obtain ⟨grant, hgrant, hexpires⟩ := hlive
    rcases leases id grant hgrant with hold | ⟨hid, _⟩
    · exact .inl ⟨grant, hold, hexpires⟩
    cases wrote with
    | none => exact .inr ⟨carried.stays hstored hactive, hid.symm⟩
    | some next =>
      have habsent := (moved next rfl).2
      rw [hid, habsent] at hgrant
      cases hgrant

theorem Submits.carried : Carried s s' wrote := by
  cases h with
  | refused carried | queued carried | ended carried => exact carried

theorem Submits.claimId : ∀ next, wrote = some next → next.claimId = record.claimId := by
  intro next hnext
  cases h with
  | refused _ _ _ _ _ moved =>
    obtain ⟨_, _, hmoved⟩ := moved next hnext
    exact transitionRecord_claimId hmoved
  | queued _ _ _ _ moved => exact transitionRecord_claimId (moved next hnext)
  | ended _ _ _ _ _ moved =>
    obtain ⟨⟨_, _, hmoved⟩, _⟩ := moved next hnext
    exact transitionRecord_claimId hmoved

end

theorem Prepares.claimId (h : Prepares record authority attempt next) : next.claimId = record.claimId := by
  obtain ⟨number, intent, _, _, hmoved⟩ := h
  obtain ⟨_, revision, rfl⟩ := transitionRecord_ok hmoved
  rfl

theorem Prepares.fresh (h : Prepares record authority attempt next) (hchecked : AttemptsChecked s)
    (hsound : StoreSound s.records) (hstored : record ∈ s.records) : ¬ Owned s attempt := by
  rintro ⟨r, hr, hactive⟩
  have hid := (validateAttempt_facts (hchecked r hr attempt hactive)).transactionId
  have hnew := (validateAttempt_facts h.valid.2).transactionId
  rw [h.claimId] at hnew
  obtain ⟨hclaim, _⟩ := attemptId_inj hid hnew
  have hrecord : r = record := eq_of_claimId hsound.distinct hr hstored hclaim
  subst hrecord
  exact (h.apart (hchecked r hr attempt hactive)).1 rfl

end Accounts

end HyperfluxNext
