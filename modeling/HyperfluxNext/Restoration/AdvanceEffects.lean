import HyperfluxNext.Restoration.AttemptSpec
import HyperfluxNext.Restoration.Effects

namespace HyperfluxNext

open LeaseManager TransactionCoordinator ReceiverTransport Procedure

variable {T : Type} {leases : LeaseManager} {status : RestoreRecordStatus → Prop}

/-- What every call relies on and keeps. -/
structure Grounded (s : RestorationState T) : Prop where
  sound : StoreSound s.records
  safe : CoordinatorSafe s.core.coordinator

/-- The transport was not written to, and at most the given record became durable. -/
structure Carried (s s' : RestorationState T) (wrote : Option RestoreRecord) : Prop where
  safe : CoordinatorSafe s'.core.coordinator
  transport : s'.core.transport = s.core.transport
  replaced : Replaced s.records s'.records wrote.toList
  sound : StoreSound s'.records

theorem Carried.grounded {s s' : RestorationState T} {wrote : Option RestoreRecord}
    (h : Carried s s' wrote) : Grounded s' :=
  ⟨h.sound, h.safe⟩

theorem Grounded.carried {s : RestorationState T} (h : Grounded s) : Carried s s none :=
  ⟨h.safe, rfl, Replaced.refl _, h.sound⟩

/-- The call writes what `P` says, whether it answers with the record or fails. -/
abbrev HoldsWriting (m : RestorationM T RestoreAdvanceResult) (s : RestorationState T)
    (P : RestorationState T → Option RestoreRecord → Prop) : Prop :=
  Holds m s (fun result s' => P s' (some (recordFromAdvance result))) (fun _ s' => ∃ wrote, P s' wrote)

/-- Giving the attempt's lease back and ending the claim's turn. -/
structure Quits (attempt : RestoreAttempt) (record : RestoreRecord)
    (status : RestoreRecordStatus → Prop) (s s' : RestorationState T)
    (wrote : Option RestoreRecord) : Prop extends Carried s s' wrote where
  coordinator : s'.core.coordinator = s.core.coordinator
  leases : LeaseManager.Shrinks s.leases s'.leases
  moved : ∀ next, wrote = some next → (∃ st, status st ∧ transitionRecord record st = .ok next) ∧
    s'.leases.leases[attempt.request.leaseId]? = none

theorem releaseLease_spec {attempt : RestoreAttempt} {now : MonotonicMs} :
    Holds (releaseLease attempt now) leases
      (fun _ leases' => LeaseManager.Shrinks leases leases' ∧ leases'.leases[attempt.request.leaseId]? = none)
      (fun _ leases' => LeaseManager.Shrinks leases leases') := by
  simp only [releaseLease, holds_do]
  refine holds_mono release_spec (fun _ _ h => h) ?_
  rintro error leases' ⟨hshrinks, habsent⟩
  split
  · cases ‹Except.error _ = Except.ok _›
  next heq =>
    cases heq
    exact ⟨hshrinks, habsent rfl⟩
  · exact hshrinks

theorem release_quits {s : RestorationState T} {record : RestoreRecord}
    {m : RestorationM T RestoreAdvanceResult} (attempt : RestoreAttempt) (now : MonotonicMs) (hs : Grounded s)
    (hm : Ends record status m) :
    HoldsWriting (do releaseAttemptLease attempt now; m) s (Quits attempt record status s) := by
  simp only [releaseAttemptLease, holds_do]
  refine holds_mono releaseLease_spec ?_ ?_
  · rintro _ leases ⟨hshrinks, habsent⟩
    have hmoved : ∀ next (s' : RestorationState T),
        MovedTo record status next { s with leases := leases } s' →
        Quits attempt record status s s' (some next) := by
      rintro next s' ⟨hnext, hstored⟩
      refine ⟨⟨?_, hstored.transport, hstored.replaced, hstored.sound⟩, hstored.coordinator, ?_, ?_⟩
      · rw [hstored.coordinator]
        exact hs.safe
      · rw [hstored.leases]
        exact hshrinks
      rintro _ ⟨⟩
      refine ⟨hnext, ?_⟩
      rw [hstored.leases]
      exact habsent
    refine holds_mono (hm { s with leases := leases } hs.sound) (fun _ s' h => hmoved _ s' h) ?_
    rintro _ s' (hstored | ⟨next, h⟩)
    · refine ⟨none, ⟨⟨?_, hstored.transport, hstored.replaced, hstored.sound⟩, hstored.coordinator,
        ?_, by simp⟩⟩
      · rw [hstored.coordinator]
        exact hs.safe
      rw [hstored.leases]
      exact hshrinks
    · exact ⟨some next, hmoved next s' h⟩
  · intro _ leases hshrinks
    exact ⟨none, ⟨⟨hs.safe, rfl, Replaced.refl _, hs.sound⟩, rfl, hshrinks, by simp⟩⟩

theorem Ends.carried {s : RestorationState T} {record : RestoreRecord} {m : RestorationM T RestoreAdvanceResult}
    (hm : Ends record status m) (hs : Grounded s) :
    Holds m s
      (fun result s' => Carried s s' (some (recordFromAdvance result)) ∧
        s'.core.coordinator = s.core.coordinator ∧ s'.leases = s.leases ∧
        ∃ st, status st ∧ transitionRecord record st = .ok (recordFromAdvance result))
      (fun _ s' => ∃ wrote, Carried s s' wrote ∧ s'.core.coordinator = s.core.coordinator ∧
        s'.leases = s.leases ∧ ∀ next, wrote = some next →
          ∃ st, status st ∧ transitionRecord record st = .ok next) := by
  have hcarried : ∀ (wrote : Option RestoreRecord) (s' : RestorationState T),
      Stored wrote.toList s s' → Carried s s' wrote := by
    intro wrote s' hstored
    refine ⟨?_, hstored.transport, hstored.replaced, hstored.sound⟩
    rw [hstored.coordinator]
    exact hs.safe
  refine holds_mono (hm s hs.sound) ?_ ?_
  · rintro result s' ⟨hnext, hstored⟩
    exact ⟨hcarried (some _) s' hstored, hstored.coordinator, hstored.leases, hnext⟩
  rintro _ s' (hstored | ⟨next, hnext, hstored⟩)
  · exact ⟨none, hcarried none s' hstored, hstored.coordinator, hstored.leases, by simp⟩
  refine ⟨some next, hcarried (some _) s' hstored, hstored.coordinator, hstored.leases, ?_⟩
  rintro _ ⟨⟩
  exact hnext

def Reacquires (attempt : RestoreAttempt) (now : MonotonicMs) (leases : LeaseManager) : Prop :=
  ∃ grant leases', acquire attempt.leaseRequest attempt.request.leaseId now leases =
    .ok (.granted grant) leases' ∧ leases'.owns attempt.request.clientId attempt.request.leaseId
      attempt.request.resources now

/-- The statuses of an attempt whose submission was answered, but not by queueing it. -/
def Concluded (attempt : RestoreAttempt) (st : RestoreRecordStatus) : Prop :=
  (∃ terminal, ConsistentTerminal terminal ∧ FromTerminal attempt terminal st) ∨
    st = finishStatus (unknownCompletion attempt .outcomeUnknown) ∨ Withdrawn st

/-- What submitting an attempt can do. -/
inductive Submits [RestorationDigests] (record : RestoreRecord) (attempt : RestoreAttempt)
    (now : MonotonicMs) (s s' : RestorationState T) (wrote : Option RestoreRecord) : Prop
  /-- The lease could not be had: the claim is deferred. -/
  | refused (carried : Carried s s' wrote) (lease : ¬ Reacquires attempt now s.leases)
      (coordinator : s'.core.coordinator = s.core.coordinator)
      (leases : LeaseManager.Grants s.leases s'.leases attempt.leaseRequest attempt.request.leaseId)
      (unowned : s'.leases.owns attempt.request.clientId attempt.request.leaseId
        attempt.request.resources now = false ∨ LeaseManager.Shrinks s.leases s'.leases)
      (moved : ∀ next, wrote = some next → ∃ st, Withdrawn st ∧ transitionRecord record st = .ok next)
  /-- The transaction waits in the queue. -/
  | queued (carried : Carried s s' wrote) (lease : Reacquires attempt now s.leases)
      (pending : s'.pending = s.pending ∨ ∃ q, SubmittedAs attempt.request attempt.submission q ∧
        s'.pending = s.pending ++ [q])
      (leases : LeaseManager.Grants s.leases s'.leases attempt.leaseRequest attempt.request.leaseId)
      (moved : ∀ next, wrote = some next → transitionRecord record (.queued attempt) = .ok next)
  /-- The transaction does not wait, and the lease is given back. -/
  | ended (carried : Carried s s' wrote) (lease : Reacquires attempt now s.leases)
      (pending : s'.pending = s.pending)
      (idle : ∀ q ∈ s.pending, q.request = attempt.request → q.requestDigest ≠ attempt.requestDigest)
      (leases : LeaseManager.Grants s.leases s'.leases attempt.leaseRequest attempt.request.leaseId)
      (moved : ∀ next, wrote = some next → (∃ st, Concluded attempt st ∧
        transitionRecord record st = .ok next) ∧ s'.leases.leases[attempt.request.leaseId]? = none)

theorem LeaseManager.Grants.shrink {first second third : LeaseManager} {request : LeaseRequest}
    {leaseId : LeaseId} (h : LeaseManager.Grants first second request leaseId)
    (h' : LeaseManager.Shrinks second third) : LeaseManager.Grants first third request leaseId :=
  fun id grant hg => h id grant (h' id grant hg)

section Advance

variable [ReceiverTransport T] [RestorationDigests] {s : RestorationState T} {now : MonotonicMs}
  {ports : Authorities} {record : RestoreRecord} {attempt : RestoreAttempt}

def QueuedAnswer : Except TransactionCoordinatorError SubmissionResult → Prop
  | .ok (.queued _) => True
  | .ok (.replay (.progress _)) => True
  | _ => False

section
omit [ReceiverTransport T] [RestorationDigests]

theorem observeSubmission_spec {answer : Except TransactionCoordinatorError SubmissionResult}
    (hs : Grounded s) (hactive : record.status.activeAttempt = some attempt)
    (hterminal : ∀ terminal, answer = .ok (.replay (.terminal terminal)) → ConsistentTerminal terminal) :
    (QueuedAnswer answer → Holds (observeSubmission record attempt now answer) s
      (fun result s' => MovedTo record (· = .queued attempt) (recordFromAdvance result) s s')
      (fun _ s' => Stored [] s s' ∨ ∃ next, MovedTo record (· = .queued attempt) next s s')) ∧
    (¬ QueuedAnswer answer → HoldsWriting (observeSubmission record attempt now answer) s
      (Quits attempt record (Concluded attempt) s)) := by
  have hqueue : Holds (do
      let queued ← saveTransition record (.queued attempt)
      pure (.queued queued) : RestorationM T RestoreAdvanceResult) s
      (fun result s' => MovedTo record (· = .queued attempt) (recordFromAdvance result) s s')
      (fun _ s' => Stored [] s s' ∨ ∃ next, MovedTo record (· = .queued attempt) next s s') := by
    simp only [holds_do]
    exact saveTransition_moves hs.sound
  obtain error | (_ | (_ | terminal | _)) := answer
  · refine ⟨fun hno => hno.elim, fun _ => release_quits attempt now hs ?_⟩
    exact (handleSubmissionError_ends record error).mono fun st hst => .inr (.inr hst)
  · exact ⟨fun _ => hqueue, fun hnot => absurd trivial hnot⟩
  · exact ⟨fun _ => hqueue, fun hnot => absurd trivial hnot⟩
  · refine ⟨fun hno => hno.elim, fun _ => release_quits attempt now hs ?_⟩
    exact (finishFromTransaction_ends hactive terminal).mono
      fun st hst => .inl ⟨terminal, hterminal terminal rfl, hst⟩
  · refine ⟨fun hno => hno.elim, fun _ => release_quits attempt now hs ?_⟩
    exact (finishRecord_ends record _).mono fun st hst => .inr (.inl hst)

theorem acquireResult_ok {result : LeaseResult}
    (h : acquire attempt.leaseRequest attempt.request.leaseId now s.leases = .ok result leases) :
    acquireResult attempt now s = .ok (match result with
      | .granted _ => .granted
      | .conflict _ => .conflict
      | .rejected _ => .conflict) { s with leases := leases } := by
  cases result <;> simp [acquireResult, withLeases, zoom, h, bind, EStateM.bind, pure, EStateM.pure]

theorem acquireResult_error {error : LeaseManagerError}
    (h : acquire attempt.leaseRequest attempt.request.leaseId now s.leases = .error error leases) :
    acquireResult attempt now s = .error (.lease error) { s with leases := leases } := by
  simp [acquireResult, withLeases, zoom, h, bind, EStateM.bind]

end

theorem submitOwned_submits (hs : Grounded s) (hclass : attempt.request.transactionClass ≠ .effectFrame)
    (hsession : ports.sessions.authorizes attempt.submission.sessionId attempt.submission.authorizationEpoch)
    (hdigest : canonicalRequestDigest attempt.request = .ok attempt.requestDigest)
    (hactive : record.status.activeAttempt = some attempt) (hlease : Reacquires attempt now s.leases)
    (hgrants : LeaseManager.Grants s.leases leases attempt.leaseRequest attempt.request.leaseId) :
    Holds (withTransactions (Procedure.attempt (submit attempt.request
        attempt.submission now ports leases))) { s with leases := leases }
      (fun submitted s₁ => HoldsWriting (observeSubmission record attempt now submitted) s₁
        (Submits record attempt now s))
      (fun _ s' => ∃ wrote, Submits record attempt now s s' wrote) := by
  simp only [withTransactions, holds_do]
  have hspec : Holds (submit attempt.request attempt.submission now ports
    leases) s.core _ _ := submit_held hs.safe hclass
  have hidle : (∀ p, answer (submit attempt.request attempt.submission now
      ports leases) s.core ≠ .ok (.replay (.progress p))) → ∀ q ∈ s.pending,
      q.request = attempt.request → q.requestDigest ≠ attempt.requestDigest := by
    intro hnot q hq hrequest hdig
    obtain ⟨p, hreplay⟩ : ∃ p, submit q.request attempt.submission now ports
        leases s.core = .ok (.replay (.progress p)) s.core :=
      submit_waiting hs.safe hq (by rw [hrequest, hdigest, hdig]) hsession
    rw [hrequest] at hreplay
    refine hnot p ?_
    simp only [answer, hreplay]
  -- the state in which the submission was answered, with the queue as it left it
  have hqueued : ∀ (answer : Except TransactionCoordinatorError SubmissionResult)
      (core : CoordinatorState T), QueuedAnswer answer → CoordinatorSafe core.coordinator →
      core.transport = s.core.transport →
      (core.coordinator.queue.pending = s.pending ∨ ∃ q, SubmittedAs attempt.request
        attempt.submission q ∧ core.coordinator.queue.pending = s.pending ++ [q]) →
      HoldsWriting (observeSubmission record attempt now answer) { s with core := core, leases := leases }
        (Submits record attempt now s) := by
    intro answer core hanswer hsafe htransport hpending
    have hs₁ : Grounded { s with core := core, leases := leases } := ⟨hs.sound, hsafe⟩
    have hmoved : ∀ (wrote : Option RestoreRecord) (s' : RestorationState T),
        Stored wrote.toList { s with core := core, leases := leases } s' →
        (∀ next, wrote = some next → transitionRecord record (.queued attempt) = .ok next) →
        Submits record attempt now s s' wrote := by
      intro wrote s' hstored hnext
      refine .queued ⟨?_, hstored.transport.trans htransport, hstored.replaced, hstored.sound⟩
        hlease ?_ (hstored.leases ▸ hgrants) hnext
      · rw [hstored.coordinator]
        exact hsafe
      unfold RestorationState.pending at hpending ⊢
      rw [hstored.coordinator]
      exact hpending
    have hterminal : ∀ terminal, answer = .ok (.replay (.terminal terminal)) → ConsistentTerminal terminal := by
      rintro terminal rfl
      exact hanswer.elim
    refine holds_mono ((observeSubmission_spec hs₁ hactive hterminal).1 hanswer) ?_ ?_
    · rintro result s' ⟨⟨_, rfl, hnext⟩, hstored⟩
      refine hmoved (some _) s' hstored ?_
      rintro _ ⟨⟩
      exact hnext
    rintro _ s' (hstored | ⟨next, ⟨_, rfl, hnext⟩, hstored⟩)
    · exact ⟨none, hmoved none s' hstored (by simp)⟩
    refine ⟨some next, hmoved (some next) s' hstored ?_⟩
    rintro _ ⟨⟩
    exact hnext
  have hended : ∀ (answer : Except TransactionCoordinatorError SubmissionResult)
      (core : CoordinatorState T), ¬ QueuedAnswer answer → CoordinatorSafe core.coordinator →
      core.transport = s.core.transport → core.coordinator.queue.pending = s.pending →
      (∀ terminal, answer = .ok (.replay (.terminal terminal)) → ConsistentTerminal terminal) →
      (∀ q ∈ s.pending, q.request = attempt.request → q.requestDigest ≠ attempt.requestDigest) →
      HoldsWriting (observeSubmission record attempt now answer) { s with core := core, leases := leases }
        (Submits record attempt now s) := by
    intro answer core hanswer hsafe htransport hpending hterminal hnone
    have hs₁ : Grounded { s with core := core, leases := leases } := ⟨hs.sound, hsafe⟩
    have hquits : ∀ (wrote : Option RestoreRecord) (s' : RestorationState T),
        Quits attempt record (Concluded attempt) { s with core := core, leases := leases } s' wrote →
        Submits record attempt now s s' wrote := by
      intro wrote s' hquit
      refine .ended ⟨hquit.safe, hquit.transport.trans htransport, hquit.replaced, hquit.sound⟩
        hlease ?_ hnone (hgrants.shrink hquit.leases) hquit.moved
      unfold RestorationState.pending at hpending ⊢
      rw [hquit.coordinator]
      exact hpending
    refine holds_mono ((observeSubmission_spec hs₁ hactive hterminal).2 hanswer)
      (fun _ s' hquit => hquits _ s' hquit) ?_
    rintro _ s' ⟨wrote, hquit⟩
    exact ⟨wrote, hquits wrote s' hquit⟩
  cases hsubmit : submit attempt.request attempt.submission now ports leases s.core with
  | error error core =>
    obtain ⟨hsafe, htransport, hpending⟩ := holds_error hspec hsubmit
    simp only [Holds, hsubmit]
    refine hended (.error error) core (fun hno => hno) hsafe htransport hpending (by simp) ?_
    exact hidle (by simp [answer, hsubmit])
  | ok result core =>
    obtain ⟨hsafe, htransport, hmatch⟩ := holds_ok hspec hsubmit
    simp only [Holds, hsubmit]
    cases result with
    | queued p => exact hqueued _ core trivial hsafe htransport (.inr hmatch)
    | replay replayed =>
      cases replayed with
      | progress p => exact hqueued _ core trivial hsafe htransport (.inl hmatch.1)
      | terminal terminal =>
        refine hended _ core (fun hno => hno) hsafe htransport hmatch.1 ?_ ?_
        · rintro _ ⟨⟩
          exact hmatch.2 terminal rfl
        · exact hidle (by simp [answer, hsubmit])
      | unavailable why =>
        refine hended _ core (fun hno => hno) hsafe htransport hmatch.1 (by simp) ?_
        exact hidle (by simp [answer, hsubmit])

theorem submitAttempt_submits (hs : Grounded s) (hclass : attempt.request.transactionClass ≠ .effectFrame)
    (hsession : ports.sessions.authorizes attempt.submission.sessionId attempt.submission.authorizationEpoch)
    (hdigest : canonicalRequestDigest attempt.request = .ok attempt.requestDigest)
    (hactive : record.status.activeAttempt = some attempt) :
    HoldsWriting (submitAttempt record attempt now ports) s (Submits record attempt now s) := by
  unfold HoldsWriting submitAttempt
  have hspec : Holds (acquire attempt.leaseRequest attempt.request.leaseId now) s.leases _ _ := acquire_spec
  cases hacquire : acquire attempt.leaseRequest attempt.request.leaseId now s.leases with
  | error error leases =>
    rw [holds_bind_of_error (acquireResult_error hacquire)]
    have hshrinks := holds_error hspec hacquire
    refine ⟨none, .refused ⟨hs.safe, rfl, Replaced.refl _, hs.sound⟩ ?_ rfl (hshrinks.grants _ _)
      (.inr hshrinks) (by simp)⟩
    rintro ⟨grant, leases', hok, _⟩
    rw [hacquire] at hok
    cases hok
  | ok result leases =>
    rw [holds_bind_of_ok (acquireResult_ok hacquire)]
    obtain ⟨hgrants, hresult⟩ := holds_ok hspec hacquire
    have hs₁ : Grounded { s with leases := leases } := ⟨hs.sound, hs.safe⟩
    have hrefuse : ¬ Reacquires attempt now s.leases →
        (leases.owns attempt.request.clientId attempt.request.leaseId attempt.request.resources now
          = false ∨ LeaseManager.Shrinks s.leases leases) →
        HoldsWriting (defer record .ownershipConflict none) { s with leases := leases }
          (Submits record attempt now s) := by
      intro hlease hunowned
      refine holds_mono ((defer_withdrawn record _).carried hs₁) ?_ ?_
      · rintro result s' ⟨hcarried, hcoordinator, hleases, hnext⟩
        refine .refused ⟨hcarried.safe, hcarried.transport, hcarried.replaced, hcarried.sound⟩ hlease
          hcoordinator (hleases ▸ hgrants) (hleases ▸ hunowned) ?_
        rintro _ ⟨⟩
        exact hnext
      rintro _ s' ⟨wrote, hcarried, hcoordinator, hleases, hnext⟩
      exact ⟨wrote, .refused ⟨hcarried.safe, hcarried.transport, hcarried.replaced,
        hcarried.sound⟩ hlease hcoordinator (hleases ▸ hgrants) (hleases ▸ hunowned) hnext⟩
    have hconflict : (∀ grant, result ≠ .granted grant) →
        HoldsWriting (defer record .ownershipConflict none) { s with leases := leases }
          (Submits record attempt now s) := by
      intro hnot
      refine hrefuse ?_ (.inr ?_)
      · rintro ⟨grant, leases', hok, _⟩
        rw [hacquire] at hok
        cases hok
        exact hnot grant rfl
      rcases hresult with ⟨grant, hgrant⟩ | hshrinks
      · exact absurd hgrant (hnot grant)
      · exact hshrinks
    cases result with
    | conflict conflict | rejected rejection => exact hconflict (by simp)
    | granted grant =>
      simp only [holds_do]
      split
      next hnot =>
        have hfalse : leases.owns attempt.request.clientId attempt.request.leaseId
            attempt.request.resources now = false := by simpa using hnot
        refine hrefuse ?_ (.inl hfalse)
        rintro ⟨grant', leases', hok, howns⟩
        rw [hacquire] at hok
        cases hok
        rw [hfalse] at howns
        cases howns
      next howns =>
        have howns := not_not.mp howns
        exact holds_bind.mpr (submitOwned_submits hs hclass hsession hdigest hactive
          ⟨grant, leases, hacquire, howns⟩ hgrants)

/-- A new attempt of the claim was built and its record moved to prepared. -/
def Prepares (record : RestoreRecord) (authority : RestorationAuthority) (attempt : RestoreAttempt)
    (prepared : RestoreRecord) : Prop :=
  ∃ number intent, nextAttemptNumber record.lastAttempt = .ok number ∧
    buildAttempt record intent authority number = .ok attempt ∧
    transitionRecord { record with lastAttempt := some number } (.prepared attempt) = .ok prepared

inductive Advances (record : RestoreRecord) (authority : RestorationAuthority) (now : MonotonicMs)
    (ports : Authorities) (s s' : RestorationState T) (wrote : Option RestoreRecord) : Prop
  /-- A check failed before anything was done. -/
  | failed (same : s' = s) (nothing : wrote = none)
  /-- The transport knows of the attempt's dispatch: the claim is finished by its answer. -/
  | reconciled (attempt : RestoreAttempt) (active : record.status.activeAttempt = some attempt)
      (observed : reconcile s.core.transport (dispatchFromAttempt attempt) ≠ .notObserved)
      (quits : Quits attempt record (FromReconciliation attempt (reconcile
        s.core.transport (dispatchFromAttempt attempt))) s s' wrote)
  /-- An authority said no: the claim is deferred or invalidated. -/
  | gated (gate : ∀ intent,
        advanceGate record authority now ports s.core.transport s.store ≠ .ok (.ready intent))
      (unobserved : ∀ attempt, record.status.activeAttempt = some attempt →
        reconcile s.core.transport (dispatchFromAttempt attempt) = .notObserved)
      (carried : Carried s s' wrote) (coordinator : s'.core.coordinator = s.core.coordinator)
      (leases : s'.leases = s.leases)
      (moved : ∀ next, wrote = some next → ∃ st, Withdrawn st ∧ transitionRecord record st = .ok next)
  /-- The attempt is used again. -/
  | kept (attempt : RestoreAttempt) (active : record.status.activeAttempt = some attempt)
      (unobserved : reconcile s.core.transport (dispatchFromAttempt attempt) = .notObserved)
      (fits : reusable attempt authority now) (submits : Submits record attempt now s s' wrote)
  /-- A new attempt was to be made, but it did not become durable for certain. -/
  | unprepared (unfit : ∀ attempt, record.status.activeAttempt = some attempt →
        reusable attempt authority now = false)
      (unobserved : ∀ attempt, record.status.activeAttempt = some attempt →
        reconcile s.core.transport (dispatchFromAttempt attempt) = .notObserved)
      (carried : Carried s s' wrote) (coordinator : s'.core.coordinator = s.core.coordinator)
      (leases : s'.leases = s.leases)
      (moved : ∀ next, wrote = some next → ∃ attempt, Prepares record authority attempt next)
  /-- A new attempt takes the place of the old one. -/
  | replaced (unfit : ∀ attempt, record.status.activeAttempt = some attempt →
        reusable attempt authority now = false)
      (unobserved : ∀ attempt, record.status.activeAttempt = some attempt →
        reconcile s.core.transport (dispatchFromAttempt attempt) = .notObserved)
      (attempt : RestoreAttempt) (prepared : RestoreRecord) (s₁ : RestorationState T)
      (prepares : Prepares record authority attempt prepared)
      (carried : Carried s s₁ (some prepared))
      (coordinator : s₁.core.coordinator = s.core.coordinator) (leases : s₁.leases = s.leases)
      (submits : Submits prepared attempt now s₁ s' wrote)

variable {authority : RestorationAuthority}

theorem Prepares.valid {prepared : RestoreRecord} (h : Prepares record authority attempt prepared) :
    prepared.status = .prepared attempt ∧ validateAttempt prepared attempt = .ok () := by
  obtain ⟨number, intent, _, hbuild, hnext⟩ := h
  obtain ⟨_, revision, rfl⟩ := transitionRecord_ok hnext
  exact ⟨rfl, buildAttempt_valid hbuild revision _⟩

omit [ReceiverTransport T] in
theorem prepareAttempt_spec {intent : PersistedStableIntent} (hs : Grounded s) :
    Holds (prepareAttempt record intent authority) s
      (fun answer s' => Prepares record authority answer.2 answer.1 ∧
        Carried s s' (some answer.1) ∧ s'.core.coordinator = s.core.coordinator ∧
        s'.leases = s.leases)
      (fun _ s' => ∃ wrote, Carried s s' wrote ∧ s'.core.coordinator = s.core.coordinator ∧
        s'.leases = s.leases ∧ ∀ next, wrote = some next →
          ∃ attempt, Prepares record authority attempt next) := by
  have hcarried : ∀ (wrote : Option RestoreRecord) (s' : RestorationState T),
      Stored wrote.toList s s' → Carried s s' wrote := by
    intro wrote s' hstored
    refine ⟨?_, hstored.transport, hstored.replaced, hstored.sound⟩
    rw [hstored.coordinator]
    exact hs.safe
  simp only [prepareAttempt, holds_do]
  refine ⟨fun number hnumber => ⟨fun attempt hattempt => ?_, fun _ _ => ?_⟩, fun _ _ => ?_⟩
  · refine holds_mono (saveTransition_moves hs.sound) ?_ ?_
    · rintro prepared s' ⟨⟨_, rfl, hnext⟩, hstored⟩
      exact ⟨⟨number, intent, hnumber, hattempt, hnext⟩, hcarried (some prepared) s' hstored,
        hstored.coordinator, hstored.leases⟩
    rintro _ s' (hstored | ⟨next, ⟨_, rfl, hnext⟩, hstored⟩)
    · exact ⟨none, hcarried none s' hstored, hstored.coordinator, hstored.leases, by simp⟩
    refine ⟨some next, hcarried (some next) s' hstored, hstored.coordinator, hstored.leases, ?_⟩
    rintro _ ⟨⟩
    exact ⟨attempt, number, intent, hnumber, hattempt, hnext⟩
  all_goals exact ⟨none, hs.carried, trivial, trivial, by simp⟩

theorem advanceUnobserved_advances (hs : Grounded s) (hvalid : validateStatus record = .ok ())
    (hunobserved : ∀ attempt, record.status.activeAttempt = some attempt →
      reconcile s.core.transport (dispatchFromAttempt attempt) = .notObserved) :
    HoldsWriting (advanceUnobserved record authority now ports) s (Advances record authority now ports s) := by
  simp only [advanceUnobserved, holds_do]
  refine ⟨fun gate hgate => ?_, fun _ _ => ⟨none, .failed rfl rfl⟩⟩
  have hgated : ∀ m : RestorationM T RestoreAdvanceResult, Ends record Withdrawn m →
      (∀ intent, gate ≠ .ready intent) → HoldsWriting m s (Advances record authority now ports s) := by
    intro m hm hnot
    have hgate' : ∀ intent,
        advanceGate record authority now ports s.core.transport s.store ≠ .ok (.ready intent) := by
      intro intent heq
      rw [hgate] at heq
      cases heq
      exact hnot intent rfl
    refine holds_mono (hm.carried hs) ?_ ?_
    · rintro result s' ⟨hcarried, hcoordinator, hleases, hnext⟩
      refine .gated hgate' hunobserved hcarried hcoordinator hleases ?_
      rintro _ ⟨⟩
      exact hnext
    rintro _ s' ⟨wrote, hcarried, hcoordinator, hleases, hnext⟩
    exact ⟨wrote, .gated hgate' hunobserved hcarried hcoordinator hleases hnext⟩
  cases gate with
  | invalidated reason => exact hgated _ (invalidate_withdrawn record reason) (by simp)
  | deferred reason => exact hgated _ (defer_withdrawn record reason) (by simp)
  | ready intent =>
    have hauthorized := advanceGate_ready hgate
    simp only
    split
    next attempt hreuse =>
      obtain ⟨hactive, hfits⟩ := Option.filter_eq_some_iff.mp hreuse
      have hfacts := validateAttempt_facts (validateStatus_active hvalid hactive)
      have hsubmission : attempt.submission = authority.submission := by
        simp only [reusable, decide_eq_true_eq] at hfits
        exact hfits.1
      have hclass : attempt.request.transactionClass ≠ .effectFrame := by
        rw [hfacts.transactionClass]
        simp
      refine holds_mono (submitAttempt_submits hs hclass (hsubmission ▸ hauthorized) hfacts.digest
        hactive) ?_ ?_
      · intro result s' hsubmits
        exact .kept attempt hactive (hunobserved attempt hactive) hfits hsubmits
      rintro _ s' ⟨wrote, hsubmits⟩
      exact ⟨wrote, .kept attempt hactive (hunobserved attempt hactive) hfits hsubmits⟩
    next hnone =>
      have hunfit : ∀ attempt, record.status.activeAttempt = some attempt →
          reusable attempt authority now = false := by
        intro attempt hactive
        simpa [hactive, Option.filter] using hnone
      simp only [holds_bind]
      refine holds_mono (prepareAttempt_spec hs) ?_ ?_
      · rintro ⟨prepared, attempt⟩ s₁ ⟨hprepares, hcarried, hcoordinator, hleases⟩
        obtain ⟨hstatus, hattempt⟩ := hprepares.valid
        have hfacts := validateAttempt_facts hattempt
        have hclass : attempt.request.transactionClass ≠ .effectFrame := by
          rw [hfacts.transactionClass]
          simp
        have hsubmission : attempt.submission = authority.submission := by
          obtain ⟨number, intent, _, hbuild, _⟩ := hprepares
          exact (buildAttempt_fields hbuild).2
        refine holds_mono (submitAttempt_submits hcarried.grounded hclass
          (hsubmission ▸ hauthorized) hfacts.digest (by rw [hstatus]; rfl)) ?_ ?_
        · intro result s' hsubmits
          exact .replaced hunfit hunobserved attempt prepared s₁ hprepares hcarried hcoordinator
            hleases hsubmits
        rintro _ s' ⟨wrote, hsubmits⟩
        exact ⟨wrote, .replaced hunfit hunobserved attempt prepared s₁ hprepares hcarried
          hcoordinator hleases hsubmits⟩
      · rintro _ s' ⟨wrote, hcarried, hcoordinator, hleases, hnext⟩
        exact ⟨wrote, .unprepared hunfit hunobserved hcarried hcoordinator hleases hnext⟩

theorem advanceClaim_advances {claimId : RestoreClaimId} (hs : Grounded s) :
    Holds (advanceClaim claimId authority now ports) s
      (fun result s' => ∃ record ∈ s.records, record.claimId = claimId ∧
        validateRecord record = .ok () ∧
        ((s' = s ∧ recordFromAdvance result = record ∧ record.status.isTerminal) ∨
          (record.status.isTerminal = false ∧
            Advances record authority now ports s s' (some (recordFromAdvance result)))))
      (fun _ s' => s' = s ∨ ∃ record ∈ s.records, record.claimId = claimId ∧
        validateRecord record = .ok () ∧ record.status.isTerminal = false ∧
        ∃ wrote, Advances record authority now ports s s' wrote) := by
  simp only [advanceClaim, holds_do]
  refine ⟨fun record hload => ?_, fun _ _ => .inl trivial⟩
  obtain ⟨hstored, hclaim, hvalid⟩ := loadRecord_ok hload
  have hstatus := (validateRecord_ok hvalid).2.2
  split
  next hterminal => exact ⟨record, hstored, hclaim, hvalid, .inl ⟨rfl, rfl, hterminal⟩⟩
  next hopen =>
    have hopen : record.status.isTerminal = false := by simpa using hopen
    simp only [holds_do]
    refine ⟨fun _ _ => ?_, fun _ _ => .inl trivial⟩
    have hunobserved : (∀ attempt, record.status.activeAttempt = some attempt →
        reconcile s.core.transport (dispatchFromAttempt attempt) = .notObserved) →
        Holds (advanceUnobserved record authority now ports) s
          (fun result s' => ∃ record ∈ s.records, record.claimId = claimId ∧
            validateRecord record = .ok () ∧
            ((s' = s ∧ recordFromAdvance result = record ∧ record.status.isTerminal) ∨
              (record.status.isTerminal = false ∧
                Advances record authority now ports s s' (some (recordFromAdvance result)))))
          (fun _ s' => s' = s ∨ ∃ record ∈ s.records, record.claimId = claimId ∧
            validateRecord record = .ok () ∧ record.status.isTerminal = false ∧
            ∃ wrote, Advances record authority now ports s s' wrote) := by
      intro hnone
      refine holds_mono (advanceUnobserved_advances hs hstatus hnone) ?_ ?_
      · intro result s' hadvances
        exact ⟨record, hstored, hclaim, hvalid, .inr ⟨hopen, hadvances⟩⟩
      intro _ s' hadvances
      exact .inr ⟨record, hstored, hclaim, hvalid, hopen, hadvances⟩
    split
    next hinactive => exact hunobserved (by simp [hinactive])
    next attempt hactive =>
      split
      next hnone =>
        refine hunobserved ?_
        rintro _ hactive'
        rw [hactive] at hactive'
        cases hactive'
        exact hnone
      next hobserved =>
        refine holds_mono (release_quits attempt now hs (reconcileTerminal_ends record attempt _)) ?_ ?_
        · intro result s' hquits
          exact ⟨record, hstored, hclaim, hvalid, .inr ⟨hopen, .reconciled attempt hactive hobserved hquits⟩⟩
        rintro _ s' ⟨wrote, hquits⟩
        exact .inr ⟨record, hstored, hclaim, hvalid, hopen, wrote, .reconciled attempt hactive hobserved hquits⟩

end Advance

end HyperfluxNext
