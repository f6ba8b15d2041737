import HyperfluxNext.Bridge.Generation
import HyperfluxNext.Core.CoordinatorEffects
import HyperfluxNext.Core.LeaseEffects
import HyperfluxNext.Restoration.RetirementSpec

namespace HyperfluxNext

open Procedure List

section Queue

variable {T : Type} {s : CoordinatorState T} {queued : QueuedTransaction}
  {rest : List (QueuedTransaction × TransactionState)} {errorKind : Option ProtocolErrorKind}

/-- Closing open entries: the journal's answers about any other transaction stay. -/
structure ClosesOnly (closed : List TransactionId) (s s' : CoordinatorState T) : Prop where
  evicted : s'.coordinator.outcomes.evicted = s.coordinator.outcomes.evicted
  retained : ∀ id, id ∉ closed → s'.coordinator.outcomes.retained[id]? = s.coordinator.outcomes.retained[id]?

theorem ClosesOnly.refl (closed : List TransactionId) : ClosesOnly closed s s := ⟨rfl, fun _ _ => rfl⟩

theorem finishUnsent_closes (h : Opened s.coordinator.outcomes ((queued, .queued) :: rest)) :
    Holds (finishUnsent queued .revoked errorKind none) s
      (fun _ s' => Opened s'.coordinator.outcomes rest ∧ ClosesOnly [queued.id] s s')
      (fun _ _ => True) := by
  have hopen : OpenAt s.coordinator.outcomes queued .queued := h.recorded (queued, .queued) mem_cons_self
  simp only [finishUnsent, finishUnsentCompletion, finish, appendEvent, recordOutcome, holds_do]
  refine ⟨fun _ _ => ⟨fun _ _ => ?_, fun _ _ => trivial⟩, fun _ _ => trivial⟩
  refine ⟨fun declared hdeclared => ⟨fun logged _ => ?_, fun _ _ => trivial⟩, fun _ _ => trivial⟩
  have hrecord := record_terminal_ok hopen (.inl ⟨rfl, .inl rfl⟩) hdeclared errorKind none unsentFacts
    logged.1.sequence
  refine ⟨fun journal hjournal => ?_, fun _ _ => trivial⟩
  have hstored := Except.ok.inj (hrecord.symm.trans hjournal)
  subst hstored
  refine ⟨h.store rfl, rfl, ?_⟩
  intro id hid
  have hne : queued.id ≠ id := fun heq => hid (mem_singleton.mpr heq.symm)
  rw [getElem?_store, if_neg hne]

theorem finishRemoved_closes {removed : List QueuedTransaction} {kind : ProtocolErrorKind}
    (h : Opened s.coordinator.outcomes (waiting removed ++ rest)) :
    Holds (finishRemoved removed kind) s
      (fun _ s' => ClosesOnly (removed.map (·.id)) s s') (fun _ _ => True) := by
  unfold finishRemoved
  refine holds_post (holds_each (fun todo _ s' => todo ⊆ removed ∧
    Opened s'.coordinator.outcomes (waiting todo ++ rest) ∧ ClosesOnly (removed.map (·.id)) s s') ?_
    ⟨fun _ hq => hq, h, .refl _⟩) (fun _ _ hdone => hdone.2.2)
  intro queued todo done s₁ hstep
  obtain ⟨hsub, hopened, hcloses⟩ := hstep
  have hopened : Opened s₁.coordinator.outcomes ((queued, .queued) :: (waiting todo ++ rest)) := hopened
  refine holds_post (finishUnsent_closes hopened) ?_
  intro _ s₂ hs₂
  refine ⟨fun _ hq => hsub (mem_cons_of_mem _ hq), hs₂.1, hs₂.2.evicted.trans hcloses.evicted, ?_⟩
  intro id hid
  have hout : id ∉ [queued.id] := by
    intro hmem
    rw [mem_singleton.mp hmem] at hid
    exact hid (mem_map_of_mem (hsub mem_cons_self))
  rw [hs₂.2.retained id hout, hcloses.retained id hid]

def QueuedTransaction.boundTo (receiverId : ReceiverId) (generationId : GenerationId)
    (queued : QueuedTransaction) : Bool :=
  queued.request.receiverId = receiverId ∧ queued.request.generationId = generationId

/-- The generation's queued transactions are gone, the other ones wait as before, and the journal
says of every other transaction what it said. -/
structure QueueEnded (receiverId : ReceiverId) (generationId : GenerationId)
    (s s' : CoordinatorState T) : Prop where
  pending : s'.coordinator.queue.pending =
    s.coordinator.queue.pending.filter (! ·.boundTo receiverId generationId)
  transport : s'.transport = s.transport
  outcomes : Opened s.coordinator.outcomes (waiting s.coordinator.queue.pending) →
    ClosesOnly ((s.coordinator.queue.pending.filter (·.boundTo receiverId generationId)).map (·.id)) s s'

variable [ReceiverTransport T]

omit [ReceiverTransport T] in
theorem invalidateGeneration_ends (receiverId : ReceiverId) (generationId : GenerationId) :
    Holds (TransactionCoordinator.invalidateGeneration receiverId generationId) s
      (fun _ s' => QueueEnded receiverId generationId s s') (fun _ _ => True) := by
  simp only [TransactionCoordinator.invalidateGeneration, BoundedTransactionQueue.invalidateGeneration,
    setQueue, holds_do]
  have hkeeps : Holds (finishRemoved
      (s.coordinator.queue.pending.filter (·.boundTo receiverId generationId)) .staleGeneration)
      { s with coordinator := { s.coordinator with queue := (s.coordinator.queue.removeMatching
        (·.boundTo receiverId generationId)).2 } }
      (fun _ s' => s'.coordinator.queue.pending =
        s.coordinator.queue.pending.filter (! ·.boundTo receiverId generationId) ∧
        s'.transport = s.transport) (fun _ _ => True) := by
    refine holds_mono (finishEach_keeps (P := fun _ => True) (fun _ _ _ _ => trivial)) ?_ (fun _ _ _ => trivial)
    intro _ s' hs'
    refine ⟨?_, hs'.1.transport⟩
    rw [hs'.1.queue]
    rfl
  by_cases hopened : Opened s.coordinator.outcomes (waiting s.coordinator.queue.pending)
  · have hperm := BoundedTransactionQueue.removeMatching_perm s.coordinator.queue
      (·.boundTo receiverId generationId)
    have hsplit := hopened.perm (hperm.map (·, TransactionState.queued))
    rw [map_append] at hsplit
    refine holds_mono (holds_and hkeeps (finishRemoved_closes hsplit)) ?_ (fun _ _ _ => trivial)
    intro _ s' hs'
    exact ⟨hs'.1.1, hs'.1.2, fun _ => ⟨hs'.2.evicted, hs'.2.retained⟩⟩
  refine holds_mono hkeeps ?_ (fun _ _ _ => trivial)
  intro _ s' hs'
  exact ⟨hs'.1, hs'.2, fun h => absurd h hopened⟩

end Queue

section Retirement

variable {T : Type} [ReceiverTransport T] {receiverId : ReceiverId} {generationId : GenerationId}
  {now : MonotonicMs} {leases : LeaseManager} {transactions : TransactionCoordinator}

/-- A lease that ending the claims leaves alone. Where an attempt is given back, every elapsed lease
goes with it. -/
def SurvivesRelease (now : MonotonicMs) (claims : List RestoreRecord) (id : LeaseId) (grant : LeaseGrant) : Prop :=
  ∀ r ∈ claims, ∀ attempt, r.status.activeAttempt = some attempt →
    now < grant.expiresAtMs ∧ id ≠ attempt.request.leaseId

theorem survivesRelease_append {claims more : List RestoreRecord} {id : LeaseId} {grant : LeaseGrant} :
    SurvivesRelease now (claims ++ more) id grant ↔
      SurvivesRelease now claims id grant ∧ SurvivesRelease now more id grant :=
  forall_mem_append

omit [ReceiverTransport T] in
theorem releaseLease_retains {attempt : RestoreAttempt} :
    Holds (releaseLease attempt now) leases
      (fun _ leases' => LeaseManager.Retains
        (fun id grant => now < grant.expiresAtMs ∧ id ≠ attempt.request.leaseId) leases leases')
      (fun _ _ => True) := by
  simp only [releaseLease, holds_do]
  refine holds_mono LeaseManager.release_retains (fun _ _ h => h) ?_
  intro error leases' h
  cases error with
  | unknownLease => exact h rfl
  | _ => trivial

theorem retireRecord_retains {transport : T} (record : RestoreRecord) :
    Holds (retireRecord now transport transactions record) leases
      (fun _ leases' => LeaseManager.Retains (SurvivesRelease now [record]) leases leases')
      (fun _ _ => True) := by
  unfold retireRecord
  split
  next hinactive =>
    refine holds_lift.mpr ⟨fun _ _ => ?_, fun _ _ => trivial⟩
    refine (LeaseManager.Retains.refl leases).congr fun id grant _ => ?_
    simp [SurvivesRelease, hinactive]
  next attempt hactive =>
    simp only [holds_do]
    refine ⟨fun completion _ => ?_, fun _ _ => trivial⟩
    refine holds_mono releaseLease_retains ?_ (fun _ _ _ => trivial)
    intro _ leases' hretains
    have hrecord : LeaseManager.Retains (SurvivesRelease now [record]) leases leases' := by
      refine hretains.congr fun id grant _ => ?_
      simp [SurvivesRelease, hactive]
    cases completion with
    | none | some completion => exact holds_lift.mpr ⟨fun _ _ => hrecord, fun _ _ => trivial⟩

theorem retireEach_retains {transport : T} {leases' : LeaseManager} {records updated : List RestoreRecord}
    (h : each (retireRecord now transport transactions) records leases = .ok updated leases') :
    LeaseManager.Retains (SurvivesRelease now records) leases leases' := by
  have hspec : Holds (each (retireRecord now transport transactions) records) leases
      (fun _ leases' => ∃ handled, records = handled ++ [] ∧
        LeaseManager.Retains (SurvivesRelease now handled) leases leases') (fun _ _ => True) := by
    refine holds_each (fun todo _ leases' => ∃ handled, records = handled ++ todo ∧
      LeaseManager.Retains (SurvivesRelease now handled) leases leases') ?_ ⟨[], rfl, ?_⟩
    · intro record todo done leases₁ hstep
      obtain ⟨handled, hsplit, hretains⟩ := hstep
      refine holds_post (retireRecord_retains record) ?_
      intro next leases₂ hnext
      refine ⟨handled ++ [record], by simpa using hsplit, ?_⟩
      exact (hretains.trans hnext).congr fun id grant _ => survivesRelease_append.symm
    refine (LeaseManager.Retains.refl leases).congr fun id grant _ => ?_
    simp [SurvivesRelease]
  obtain ⟨handled, hsplit, hretains⟩ := holds_ok hspec h
  rw [append_nil] at hsplit
  rw [hsplit]
  exact hretains

variable [RestorationDigests] {s : RestorationState T}

/-- What a retirement that returns does to the leases and to the queue. -/
theorem retireGeneration_retains (receiverId : ReceiverId) (generationId : GenerationId) (now : MonotonicMs) :
    Holds (retireGeneration receiverId generationId now) s
      (fun _ s' => LeaseManager.Retains
          (SurvivesRelease now (openClaims receiverId generationId s.records)) s.leases s'.leases ∧
        s'.core.coordinator = s.core.coordinator ∧ s'.core.transport = s.core.transport)
      (fun _ _ => True) := by
  simp only [retireGeneration, holds_do]
  refine ⟨fun _ => trivial, fun _ => ⟨fun records hload => ?_, fun _ _ => trivial⟩⟩
  rw [openClaims_of_load hload]
  split
  · trivial
  next updated leases heach =>
    have hretains := retireEach_retains heach
    simp only [holds_do]
    refine ⟨fun events _ => ?_, fun _ _ => trivial⟩
    have hstore : Holds (persistRecords ((openClaims receiverId generationId s.records).zipWith
        (fun record retired => ⟨some record.revision, retired⟩) updated)) s
        (fun _ s' => s'.core = s.core) (fun _ _ => True) := by
      simp only [persistRecords, withStore, holds_do]
      refine holds_mono holds_any ?_ (fun _ _ _ => trivial)
      intro outcome store _
      cases outcome with
      | applied => rfl
      | conflict => trivial
    refine holds_post hstore ?_
    intro _ s₁ hcore
    refine ⟨hretains, ?_, ?_⟩
    · show s₁.core.coordinator = s.core.coordinator
      rw [hcore]
    show s₁.core.transport = s.core.transport
    rw [hcore]

end Retirement

section Orchestration

variable {T : Type}

def RestorationRuntime.records : RestorationRuntime → List RestoreRecord
  | .disabled => []
  | .durable store => store.document.restoreRecords

def BridgeState.records (s : BridgeState T) : List RestoreRecord := s.restoration.records

/-- A lease that the end of a generation leaves alone. -/
def SurvivesGeneration (receiverId : ReceiverId) (generationId : GenerationId) (now : MonotonicMs)
    (records : List RestoreRecord) (id : LeaseId) (grant : LeaseGrant) : Prop :=
  ¬ LeaseManager.BoundTo receiverId generationId grant ∧
    SurvivesRelease now (openClaims receiverId generationId records) id grant

/-- No authority of the generation is left, and everything else is as it was. -/
structure AuthorityEnded (receiverId : ReceiverId) (generationId : GenerationId) (now : MonotonicMs)
    (s s' : BridgeState T) : Prop where
  queue : QueueEnded receiverId generationId s.core s'.core
  leases : LeaseManager.Retains (SurvivesGeneration receiverId generationId now s.records) s.leases s'.leases
  claims : GenerationRetired receiverId generationId s.records s'.records

/-- Only the events and the profiles may differ. -/
structure Undisturbed (s s' : BridgeState T) : Prop where
  coordinator : s'.core.coordinator = s.core.coordinator
  transport : s'.core.transport = s.core.transport
  leases : s'.leases = s.leases
  restoration : s'.restoration = s.restoration
  receivers : s'.receivers = s.receivers

variable {s s₁ s₂ s' : BridgeState T} {receiverId : ReceiverId} {generationId : GenerationId}
  {now : MonotonicMs}

theorem Undisturbed.refl (s : BridgeState T) : Undisturbed s s := ⟨rfl, rfl, rfl, rfl, rfl⟩

theorem Undisturbed.trans (h : Undisturbed s s₁) (h' : Undisturbed s₁ s') : Undisturbed s s' :=
  ⟨h'.coordinator.trans h.coordinator, h'.transport.trans h.transport, h'.leases.trans h.leases,
    h'.restoration.trans h.restoration, h'.receivers.trans h.receivers⟩

theorem appendStaged_undisturbed (draft : EventDraft) :
    Holds (appendStaged draft) s (fun _ s' => Undisturbed s s') (fun _ _ => True) := by
  simp only [appendStaged, holds_do]
  exact ⟨fun _ _ => ⟨rfl, rfl, rfl, rfl, rfl⟩, fun _ _ => trivial⟩

/-- Between the two halves of an end: the queue and the leases are done, the claims are not. -/
structure Revokes (receiverId : ReceiverId) (generationId : GenerationId) (s s' : BridgeState T) :
    Prop where
  queue : QueueEnded receiverId generationId s.core s'.core
  leases : s'.leases = (s.leases.invalidateGeneration receiverId generationId).2
  restoration : s'.restoration = s.restoration
  receivers : s'.receivers = s.receivers

theorem QueueEnded.congr {c c₁ c₂ : CoordinatorState T} (h : QueueEnded receiverId generationId c c₁)
    (hcoordinator : c₂.coordinator = c₁.coordinator) (htransport : c₂.transport = c₁.transport) :
    QueueEnded receiverId generationId c c₂ := by
  refine ⟨?_, htransport.trans h.transport, fun hopened => ?_⟩
  · rw [hcoordinator]
    exact h.pending
  have hcloses := h.outcomes hopened
  refine ⟨?_, fun id hid => ?_⟩
  · rw [hcoordinator]
    exact hcloses.evicted
  rw [hcoordinator]
  exact hcloses.retained id hid

theorem Revokes.undisturbed (h : Revokes receiverId generationId s s₁) (h' : Undisturbed s₁ s') :
    Revokes receiverId generationId s s' :=
  ⟨h.queue.congr h'.coordinator h'.transport, h'.leases.trans h.leases,
    h'.restoration.trans h.restoration, h'.receivers.trans h.receivers⟩

theorem revokeAuthority_revokes (receiverId : ReceiverId) (generationId : GenerationId) :
    Holds (revokeAuthority receiverId generationId) s
      (fun _ s' => Revokes receiverId generationId s s') (fun _ _ => True) := by
  simp only [revokeAuthority, onTransactions, holds_do]
  refine holds_mono (invalidateGeneration_ends receiverId generationId) ?_ (fun _ _ _ => trivial)
  intro terminals core hcore
  have hrevoked : Revokes receiverId generationId s { s with
      core := core, leases := (s.leases.invalidateGeneration receiverId generationId).2 } :=
    ⟨hcore, rfl, rfl, rfl⟩
  refine holds_post (holds_each (fun _ _ s' => Revokes receiverId generationId s s') ?_ hrevoked)
    (fun _ _ h => h)
  intro grant todo done s₁ hs₁
  exact holds_post (appendStaged_undisturbed _) (fun _ _ h => hs₁.undisturbed h)

structure ClaimsEnded (receiverId : ReceiverId) (generationId : GenerationId) (now : MonotonicMs)
    (s s' : BridgeState T) : Prop where
  coordinator : s'.core.coordinator = s.core.coordinator
  transport : s'.core.transport = s.core.transport
  leases : LeaseManager.Retains
    (SurvivesRelease now (openClaims receiverId generationId s.records)) s.leases s'.leases
  claims : GenerationRetired receiverId generationId s.records s'.records
  receivers : s'.receivers = s.receivers

theorem Revokes.ended (h : Revokes receiverId generationId s s₁)
    (h' : ClaimsEnded receiverId generationId now s₁ s') :
    AuthorityEnded receiverId generationId now s s' := by
  have hrecords : s₁.records = s.records := congrArg RestorationRuntime.records h.restoration
  have hclaims := h'.claims
  have hleases := h'.leases
  rw [hrecords] at hclaims hleases
  rw [h.leases] at hleases
  exact ⟨h.queue.congr h'.coordinator h'.transport,
    (LeaseManager.invalidateGeneration_retains s.leases receiverId generationId).trans hleases, hclaims⟩

section Calls

variable [ReceiverTransport T] [RestorationDigests] {wasAbsent : Bool}

theorem retireClaims_ends (receiverId : ReceiverId) (generationId : GenerationId) (now : MonotonicMs)
    (hsound : StoreSound s.records) :
    Holds (retireClaims receiverId generationId now) s
      (fun _ s' => ClaimsEnded receiverId generationId now s s') (fun _ _ => True) := by
  simp only [retireClaims, holds_do]
  split
  next hdisabled =>
    have hnone : s.records = [] := by
      unfold BridgeState.records
      rw [hdisabled]
      rfl
    refine ⟨rfl, rfl, ?_, ?_, rfl⟩
    · rw [hnone]
      refine (LeaseManager.Retains.refl s.leases).congr fun id grant _ => ?_
      simp [SurvivesRelease, openClaims]
    rw [hnone]
    exact ⟨fun r hr => (not_mem_nil hr).elim, fun _ _ => Iff.rfl⟩
  next store hdurable =>
    have hrecords : s.records = store.document.restoreRecords := by
      unfold BridgeState.records
      rw [hdurable]
      rfl
    rw [hrecords] at hsound
    rw [holds_zoom]
    refine holds_mono (holds_and
      (retireGeneration_allOrNothing (s := ⟨s.core, s.leases, store⟩) receiverId generationId now hsound)
      (retireGeneration_retains receiverId generationId now)) ?_ (fun _ _ _ => trivial)
    intro retirement next hnext
    obtain ⟨hdone, hretains, hcoordinator, htransport⟩ := hnext
    refine ⟨hcoordinator, htransport, ?_, ?_, rfl⟩
    · rw [hrecords]
      exact hretains
    rw [hrecords]
    exact hdone.records

/-- What the part of an activation behind its lifecycle step leaves. -/
structure ActivationEnds (observation : ReceiverGenerationObservation)
    (previous : Option GenerationId) (s s' : BridgeState T) : Prop where
  receivers : s'.receivers = s.receivers
  ended : ∀ generationId, previous = some generationId →
    AuthorityEnded observation.receiverId generationId observation.stamp.observedAtMs s s'
  kept : previous = none → Undisturbed s s'

section
omit [ReceiverTransport T] [RestorationDigests]

theorem stageQualification_undisturbed {vendorId : VendorId} {productId : ProductId} :
    Holds (stageQualification receiverId generationId vendorId productId) s
      (fun _ s' => Undisturbed s s') (fun _ _ => True) := by
  simp only [stageQualification, holds_do]
  split
  · simp only [holds_do]
    split
    · trivial
    · exact ⟨rfl, rfl, rfl, rfl, rfl⟩
  · exact .refl s
  · trivial

theorem appendLifecycleIf_undisturbed {condition : Bool} {kind : EventKind} :
    Holds (appendLifecycleIf condition kind receiverId generationId) s
      (fun _ s' => Undisturbed s s') (fun _ _ => True) := by
  unfold appendLifecycleIf
  split
  · exact appendStaged_undisturbed _
  · exact .refl s

theorem announceActivation_undisturbed {replaced : Bool} :
    Holds (announceActivation receiverId generationId replaced wasAbsent) s
      (fun _ s' => Undisturbed s s') (fun _ _ => True) := by
  simp only [announceActivation, holds_bind]
  refine holds_post appendLifecycleIf_undisturbed ?_
  intro _ s₁ hs₁
  exact holds_post appendLifecycleIf_undisturbed (fun _ _ h => hs₁.trans h)

end

theorem activateApplied_ends {observation : ReceiverGenerationObservation} {previous : Option GenerationId}
    (hsound : StoreSound s.records) :
    Holds (activateApplied observation previous wasAbsent) s
      (fun outcome s' => ActivationEnds observation previous s s' ∧
        ∃ activation, outcome = .applied activation ∧ activation.previousGeneration = previous)
      (fun _ _ => True) := by
  simp only [activateApplied, holds_do]
  cases previous with
  | none =>
    simp only [stagePreviousAuthority, stageRetirement, holds_pure]
    refine holds_post stageQualification_undisturbed ?_
    intro qualification s₁ hs₁
    refine holds_post announceActivation_undisturbed ?_
    intro _ s₂ hs₂
    have hkept := hs₁.trans hs₂
    refine ⟨⟨hkept.receivers, ?_, fun _ => hkept⟩, _, rfl, rfl⟩
    intro generationId heq
    cases heq
  | some previous =>
    simp only [stagePreviousAuthority, stageRetirement, holds_do]
    refine holds_post (revokeAuthority_revokes observation.receiverId previous) ?_
    intro revoked s₁ hrevoked
    have hrevoked : Revokes observation.receiverId previous s s₁ :=
      ⟨hrevoked.queue, hrevoked.leases, hrevoked.restoration, hrevoked.receivers⟩
    refine holds_post stageQualification_undisturbed ?_
    intro qualification s₂ hs₂
    refine holds_post announceActivation_undisturbed ?_
    intro _ s₃ hs₃
    have hrevoked : Revokes observation.receiverId previous s s₃ := hrevoked.undisturbed (hs₂.trans hs₃)
    have hstored : StoreSound s₃.records := by
      have hrecords : s₃.records = s.records := congrArg RestorationRuntime.records hrevoked.restoration
      rw [hrecords]
      exact hsound
    refine holds_post (retireClaims_ends observation.receiverId previous
      observation.stamp.observedAtMs hstored) ?_
    intro retirement s₄ hs₄
    refine ⟨⟨hs₄.receivers.trans hrevoked.receivers, ?_, fun hno => by cases hno⟩, _, rfl, rfl⟩
    intro generationId heq
    cases heq
    exact hrevoked.ended hs₄

end Calls

end Orchestration

end HyperfluxNext
