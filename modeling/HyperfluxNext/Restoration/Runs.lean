import HyperfluxNext.Core.CoordinatorRuns
import HyperfluxNext.Restoration.Writes

namespace HyperfluxNext

open TransactionCoordinator Procedure

/-- One call on the restoration engine, on the queue it shares, or a restart of the process that
keeps the durable records only. -/
inductive RestorationOp where
  | planRestore (trigger : RestoreTrigger)
  | advanceClaim (claimId : RestoreClaimId) (authority : RestorationAuthority)
  | dispatchClaim (claimId : RestoreClaimId)
  | dispatchNext (observe : Bool)
  | retireGeneration (receiverId : ReceiverId) (generationId : GenerationId)
  | restart (capacity : Nat)

/-- A step of a run: the call with everything it is handed besides the durable records and the
coordinator. -/
structure RestorationStep (T : Type) where
  op : RestorationOp
  now : MonotonicMs
  ports : Authorities
  events : BoundedEventLog
  transport : T
  leases : LeaseManager
  policies : List PersistedRestorePolicy
  stableEntries : List PersistedStableEntry
  commits : List (Except FilePersistenceError Unit)

variable {T : Type}

def RestorationStep.enter (step : RestorationStep T) (s : RestorationState T) : RestorationState T where
  core := ⟨s.core.coordinator, step.events, step.transport⟩
  leases := step.leases
  store := ⟨s.store.maxReceivers, ⟨step.policies, step.stableEntries, s.records⟩, step.commits⟩

/-- A restarted process has an empty queue and an empty journal. -/
def restarted (capacity : Nat) (s : RestorationState T) : RestorationState T :=
  match new capacity with
  | .error _ => s
  | .ok coordinator => { s with core := { s.core with coordinator := coordinator } }

section Runs

variable [ReceiverTransport T] [RestorationDigests]

/-- The queue's own dispatch, with or without the observation of its terminals. -/
def dispatchNextClaims (observe : Bool) (now : MonotonicMs) (ports : Authorities) : RestorationM T Unit := do
  let state ← get
  let result ← withTransactions (dispatchNext now ports state.leases)
  match observe with
  | false => pure ()
  | true =>
    let _ ← observeDispatch result now
    pure ()

/-- The state a step leaves behind, whether its call returned or failed. -/
def RestorationStep.run (step : RestorationStep T) (s : RestorationState T) : RestorationState T :=
  match step.op with
  | .planRestore trigger => final (planRestore trigger step.ports.profiles) (step.enter s)
  | .advanceClaim claimId authority => final (advanceClaim claimId authority step.now step.ports) (step.enter s)
  | .dispatchClaim claimId => final (dispatchClaim claimId step.now step.ports) (step.enter s)
  | .dispatchNext observe => final (dispatchNextClaims observe step.now step.ports) (step.enter s)
  | .retireGeneration receiverId generationId =>
    final (retireGeneration receiverId generationId step.now) (step.enter s)
  | .restart capacity => restarted capacity (step.enter s)

inductive RestorationReach (ok : RestorationState T → RestorationStep T → Prop)
    (start : RestorationState T) : RestorationState T → Prop
  | start : RestorationReach ok start start
  | step {s : RestorationState T} {step : RestorationStep T} :
      RestorationReach ok start s → ok s step → RestorationReach ok start (step.run s)

omit [ReceiverTransport T] in
/-- A process that has just started on a store that can be loaded: nothing is queued or leased. -/
structure RestorationStart (s : RestorationState T) : Prop where
  coordinator : ∃ capacity, new capacity = .ok s.core.coordinator
  leases : ∀ id : LeaseId, s.leases.leases[id]? = none
  sound : StoreSound s.records
  valid : ∀ r ∈ s.records, validateRecord r = .ok ()

omit [RestorationDigests] in
theorem new_safe {capacity : Nat} {c : TransactionCoordinator} (h : new capacity = .ok c) :
    c.queue.pending = [] ∧ CoordinatorSafe c := by
  unfold new at h
  split at h
  · cases h
  next hrange =>
    have hrange := not_not.mp hrange
    simp only [BoundedTransactionQueue.new, BoundedOutcomeJournal.new, hrange, and_self,
      ↓reduceDIte, Except.ok.injEq] at h
    subst h
    refine ⟨rfl, Opened.nil (fun _ => rfl), ?_⟩
    intro id record terminal hr
    simp at hr

inductive StepEffect (step : RestorationStep T) (s s' : RestorationState T) : Prop
  | same (eq : s' = s)
  | plans (plans : Plans s s') (trigger : RestoreTrigger) (op : step.op = .planRestore trigger)
  | advances (claimId : RestoreClaimId) (authority : RestorationAuthority)
      (op : step.op = .advanceClaim claimId authority) (record : RestoreRecord)
      (stored : record ∈ s.records) (claim : record.claimId = claimId)
      (valid : validateRecord record = .ok ()) (unfinished : record.status.isTerminal = false)
      (wrote : Option RestoreRecord)
      (advances : Advances record authority step.now step.ports s s' wrote)
  | dispatches (claimId : RestoreClaimId) (op : step.op = .dispatchClaim claimId)
      (record : RestoreRecord) (attempt : RestoreAttempt) (stored : record ∈ s.records)
      (claim : record.claimId = claimId) (valid : validateRecord record = .ok ())
      (queued : record.status = .queued attempt) (dispatches : DispatchesClaim record attempt s s')
  | drains (observe : Bool) (op : step.op = .dispatchNext observe) (drains : DrainsAndObserves s s')
  | retires (receiverId : ReceiverId) (generationId : GenerationId)
      (op : step.op = .retireGeneration receiverId generationId)
      (retires : Retires receiverId generationId s s')
  | restarts (capacity : Nat) (op : step.op = .restart capacity)
      (coordinator : TransactionCoordinator)
      (new : new capacity = .ok coordinator)
      (eq : s' = { s with core := { s.core with coordinator := coordinator } })

variable {s s' : RestorationState T} {answers : RestoreAttempt → TransportReconciliation → Prop}

theorem dispatchNextClaims_drains {observe : Bool} {now : MonotonicMs} {ports : Authorities} (hs : Grounded s) :
    Ensures (dispatchNextClaims observe now ports) s (DrainsAndObserves s) := by
  simp only [dispatchNextClaims, holds_do]
  refine drain_holds (dispatchNext_held hs.safe) (fun s' hdrains => .drained hdrains) ?_
  intro s₁ result hdrains hanswered
  cases observe with
  | false => exact .drained hdrains
  | true =>
    simp only [holds_do]
    exact holds_mono (observeDispatch_observes (hdrains.grounded hs) result)
      (fun _ _ h => .observed s₁ result hdrains hanswered h)
      (fun _ _ h => .observed s₁ result hdrains hanswered h)

theorem RestorationStep.run_effect (step : RestorationStep T) (hs : Grounded s)
    : StepEffect step (step.enter s) (step.run s) := by
  have hs : Grounded (step.enter s) := ⟨hs.sound, hs.safe⟩
  unfold RestorationStep.run
  split
  next trigger hop =>
    refine holds_final (holds_mono (planRestore_plans hs.sound) ?_ ?_)
    · intro _ s' hplans
      exact .plans hplans trigger hop
    intro _ s' hplans
    exact .plans hplans trigger hop
  next claimId authority hop =>
    refine holds_final (holds_mono (advanceClaim_advances hs) ?_ ?_)
    · rintro result s' ⟨record, hstored, hclaim, hvalid, ⟨heq, _⟩ | ⟨hopen, hadvances⟩⟩
      · exact .same heq
      · exact .advances claimId authority hop record hstored hclaim hvalid hopen _ hadvances
    rintro _ s' (heq | ⟨record, hstored, hclaim, hvalid, hopen, wrote, hadvances⟩)
    · exact .same heq
    · exact .advances claimId authority hop record hstored hclaim hvalid hopen wrote hadvances
  next claimId hop =>
    refine holds_final (holds_mono (dispatchClaim_dispatches hs) ?_ ?_)
    · rintro _ s' (heq | ⟨record, hstored, attempt, hclaim, hvalid, hqueued, hdispatches⟩)
      · exact .same heq
      · exact .dispatches claimId hop record attempt hstored hclaim hvalid hqueued hdispatches
    rintro _ s' (heq | ⟨record, hstored, attempt, hclaim, hvalid, hqueued, hdispatches⟩)
    · exact .same heq
    · exact .dispatches claimId hop record attempt hstored hclaim hvalid hqueued hdispatches
  next observe hop =>
    exact holds_final (holds_mono (dispatchNextClaims_drains hs) (fun _ _ h => .drains observe hop h)
      (fun _ _ h => .drains observe hop h))
  next receiverId generationId hop =>
    exact holds_final (holds_mono (retireGeneration_retires hs.sound)
      (fun _ _ h => .retires receiverId generationId hop h)
      (fun _ _ h => .retires receiverId generationId hop h))
  next capacity hop =>
    unfold restarted
    split
    · exact .same rfl
    next coordinator hnew => exact .restarts capacity hop coordinator hnew rfl

section
omit [ReceiverTransport T]

theorem Plans.grounded (h : Plans s s') (hs : Grounded s) : Grounded s' := by
  have hstored : ∀ {written : List RestoreRecord} {s s₁ : RestorationState T},
      Stored written s s₁ → Grounded s → Grounded s₁ := by
    intro written s s₁ hstored hs
    exact ⟨hstored.sound, hstored.coordinator ▸ hs.safe⟩
  induction h with
  | stop => exact hs
  | keep stored _ ih | supersede _ _ _ _ stored _ ih | create _ _ stored _ ih => exact ih (hstored stored hs)

theorem Observes.grounded {terminals : List TransactionTerminal} (h : Observes terminals s s')
    (hs : Grounded s) : Grounded s' := by
  induction h with
  | stop => exact hs
  | skip _ ih => exact ih hs
  | finish _ _ _ _ quits _ ih => exact ih quits.grounded

end

theorem DrainsAndObserves.grounded (h : DrainsAndObserves s s') (hs : Grounded s) : Grounded s' := by
  cases h with
  | drained drains => exact drains.grounded hs
  | observed s₁ result drains _ observes => exact observes.grounded (drains.grounded hs)

theorem StepEffect.grounded {step : RestorationStep T} (h : StepEffect step s s') (hs : Grounded s)
    : Grounded s' := by
  have hsubmits : ∀ {record : RestoreRecord} {attempt : RestoreAttempt} {now : MonotonicMs}
      {s s' : RestorationState T} {wrote : Option RestoreRecord},
      Submits record attempt now s s' wrote → Grounded s' := by
    intro record attempt now s s' wrote hsubmits
    cases hsubmits with
    | refused carried | queued carried | ended carried => exact carried.grounded
  cases h with
  | same eq => exact eq ▸ hs
  | plans plans => exact plans.grounded hs
  | advances _ _ _ _ _ _ _ _ _ advances =>
    cases advances with
    | failed same => exact same ▸ hs
    | reconciled _ _ _ quits => exact quits.grounded
    | gated _ _ carried => exact carried.grounded
    | kept _ _ _ _ submits => exact hsubmits submits
    | unprepared _ _ carried => exact carried.grounded
    | replaced _ _ _ _ _ _ _ _ _ submits => exact hsubmits submits
  | dispatches _ _ _ _ _ _ _ _ dispatches =>
    cases dispatches with
    | failed same => exact same ▸ hs
    | reconciled _ _ quits | cancelled _ _ _ _ _ _ _ _ _ quits => exact quits.grounded
    | unapplied _ _ carried => exact carried.grounded
    | applied _ _ _ _ carried _ _ drains => exact drains.grounded carried.grounded
  | drains _ _ drains => exact drains.grounded hs
  | retires _ _ _ retires =>
    cases retires with
    | failed stored | torn _ _ _ _ _ stored => exact ⟨stored.sound, stored.coordinator ▸ hs.safe⟩
    | retired _ _ _ _ _ _ coordinator _ _ sound => exact ⟨sound, coordinator ▸ hs.safe⟩
  | restarts _ _ _ new eq =>
    subst eq
    exact ⟨hs.sound, (new_safe new).2⟩

omit [ReceiverTransport T] in
theorem RestorationStart.grounded (h : RestorationStart s) : Grounded s := by
  obtain ⟨capacity, hnew⟩ := h.coordinator
  exact ⟨h.sound, (new_safe hnew).2⟩

theorem RestorationReach.grounded {ok : RestorationState T → RestorationStep T → Prop}
    {start : RestorationState T} (h : RestorationReach ok start s) (hstart : Grounded start) :
    Grounded s := by
  induction h with
  | start => exact hstart
  | step _ _ ih => exact (RestorationStep.run_effect _ ih).grounded ⟨ih.sound, ih.safe⟩

def RestorationStep.Asks (step : RestorationStep T) (s : RestorationState T)
    (record : RestoreRecord) (attempt : RestoreAttempt) : Prop :=
  match step.op with
  | .advanceClaim claimId _ => record.claimId = claimId ∧ record.status.activeAttempt = some attempt
  | .dispatchClaim claimId => record.claimId = claimId ∧ record.status = .queued attempt
  | .retireGeneration receiverId generationId =>
    record.receiverId = receiverId ∧ record.generationId = generationId ∧
      record.status.activeAttempt = some attempt ∧
      s.core.coordinator.outcomes.lookup attempt.request.clientId attempt.request.transactionId = .unknown
  | _ => False

theorem RestorationStep.run_writesOnly {step : RestorationStep T} (hs : Grounded s)
    (hanswers : ∀ record ∈ s.records, ∀ attempt, step.Asks s record attempt → answers attempt
      (ReceiverTransport.reconcile step.transport (dispatchFromAttempt attempt))) :
    WritesOnly answers (step.enter s) (step.run s) := by
  have hasks : ∀ record attempt, record ∈ (step.enter s).records → step.Asks s record attempt →
      answers attempt (ReceiverTransport.reconcile (step.enter s).core.transport
        (dispatchFromAttempt attempt)) :=
    fun record attempt hstored => hanswers record hstored attempt
  have hentered : CoordinatorSafe (step.enter s).core.coordinator := hs.safe
  cases step.run_effect hs with
  | same eq => exact eq ▸ WritesOnly.refl _
  | plans plans => exact plans.writesOnly
  | advances claimId authority op record stored claim valid _ wrote advances =>
    refine advances.writesOnly valid fun attempt hactive => hasks record attempt stored ?_
    simp only [RestorationStep.Asks, op]
    exact ⟨claim, hactive⟩
  | dispatches claimId op record attempt stored claim valid queued dispatches =>
    refine dispatches.writesOnly valid queued (hasks record attempt stored ?_)
    simp only [RestorationStep.Asks, op]
    exact ⟨claim, queued⟩
  | drains observe op drains => exact drains.writesOnly
  | retires receiverId generationId op retires =>
    refine retires.writesOnly hentered fun record attempt hown hactive hlookup => hasks record attempt hown.1 ?_
    simp only [RestorationStep.Asks, op]
    exact ⟨hown.2.1, hown.2.2.1, hactive, hlookup⟩
  | restarts capacity op coordinator new eq => exact eq ▸ writesOnly_of_store rfl

section
omit [ReceiverTransport T]

def AttemptsChecked (s : RestorationState T) : Prop :=
  ∀ r ∈ s.records, ∀ attempt, r.status.activeAttempt = some attempt → validateAttempt r attempt = .ok ()

theorem Writable.checked {next : RestoreRecord} {attempt : RestoreAttempt} (h : Writable answers next)
    (hactive : next.status.activeAttempt = some attempt) :
    validateAttempt next attempt = .ok () := by
  cases h with
  | withdrawn record st valid plain moved =>
    rw [transitionRecord_status moved] at hactive
    rcases plain with ⟨reason, rfl⟩ | ⟨reason, rfl⟩ <;> cases hactive
  | attempted record number started st valid active checked moved =>
    obtain ⟨_, revision, rfl⟩ := transitionRecord_ok moved
    have hsame : some attempt = some started := hactive.symm.trans active
    cases hsame
    exact checked
  | completed record started completion st valid active source status moved =>
    rw [transitionRecord_status moved] at hactive
    have hended : st.activeAttempt = none := by
      rcases status with rfl | rfl
      · exact finishStatus_ended completion
      · exact retireStatus_ended completion
    rw [hended] at hactive
    cases hactive
  | cancelled record started queued terminal completion reason valid active unsent from_ moved =>
    rw [transitionRecord_status moved] at hactive
    cases hactive
  | planned trigger intent built =>
    unfold newRestoreRecord at built
    obtain ⟨claimId, _, built⟩ := bind_eq_ok built
    obtain ⟨revision, _, built⟩ := bind_eq_ok built
    cases built
    cases hactive

end

theorem RestorationReach.attemptsChecked {ok : RestorationState T → RestorationStep T → Prop}
    {start : RestorationState T} (h : RestorationReach ok start s) (hstart : RestorationStart start)
    : AttemptsChecked s := by
  induction h with
  | start =>
    intro r hr attempt hactive
    exact activeAttempt_checked (hstart.valid r hr) hactive
  | @step s step hbefore _ ih =>
    have hgrounded : Grounded s := hbefore.grounded hstart.grounded
    have hwrites : WritesOnly (fun _ _ => True) (step.enter s) (step.run s) :=
      step.run_writesOnly hgrounded fun _ _ _ _ => trivial
    intro r hr attempt hactive
    rcases hwrites r hr with hr | hr
    · exact ih r hr attempt hactive
    · exact hr.checked hactive

end Runs

@[reducible] def sampleRestorationDigests : RestorationDigests where
  toCanonicalDigests := sampleDigests
  claimDigest _ := sampleDigest
  intentDigest _ := sampleDigest

def sampleIntent : PersistedStableIntent where
  schemaVersion := currentSchemaVersion
  receiverId := sampleResource.receiverId
  deviceId := sampleResource.deviceId
  receiverProfileId := sampleProfile
  receiverProfileDigest := sampleDigest
  profileId := sampleProfile
  profileDigest := sampleDigest
  applicationSlotCount := .lit 1
  revision := .lit 1
  contentDigest := sampleDigest
  sourceTransactionId := sampleRequest.transactionId
  sourceRequestDigest := sampleDigest
  lighting := .off
  capturedAt := .lit 0

def sampleTrigger : RestoreTrigger :=
  ⟨.lit "return", .deviceReturn, sampleResource.receiverId, sampleGeneration,
    some sampleResource.deviceId⟩

def sampleClaim : RestoreClaimId := .lit ("restore-" ++ sampleDigest.asStr)

def sampleAuthority (nonce : DispatchNonce) : RestorationAuthority :=
  ⟨sampleRequest.clientId, { sampleBinding with dispatchNonce := nonce },
    .lit 1000, .lit 100⟩

def sampleStart (T : Type) (transport : T) : RestorationState T where
  core := ⟨emptyCoordinator, sampleLog, transport⟩
  leases := ⟨4, 4, ∅, ∅, []⟩
  store := ⟨1, ⟨[], [], []⟩, []⟩

/-- A call that finds the leases as the run left them and one saved intent to restore. -/
def sampleStep {T : Type} (op : RestorationOp) (now : MonotonicMs) (ports : Authorities)
    (transport : T) (s : RestorationState T) : RestorationStep T where
  op := op
  now := now
  ports := ports
  events := sampleLog
  transport := transport
  leases := s.leases
  policies := [⟨currentSchemaVersion, sampleResource.receiverId, true, .lit 1⟩]
  stableEntries := [.present sampleIntent]
  commits := []

def sampleNonce : DispatchNonce := .lit 1

def samplePlan : RestorationStep FixedTransport :=
  sampleStep (.planRestore sampleTrigger) (.lit 0) sampleAuthorities
    sampleTransport (sampleStart _ sampleTransport)

def samplePlanned : RestorationState FixedTransport :=
  letI := sampleRestorationDigests
  samplePlan.run (sampleStart _ sampleTransport)

def sampleAdvance : RestorationStep FixedTransport :=
  sampleStep (.advanceClaim sampleClaim (sampleAuthority sampleNonce)) (.lit 0)
    sampleAuthorities sampleTransport samplePlanned

/-- The first attempt of the claim is leased and queued. -/
def sampleQueued : RestorationState FixedTransport :=
  letI := sampleRestorationDigests
  sampleAdvance.run samplePlanned

theorem sampleStart_starts {T : Type} (transport : T) :
    letI := sampleRestorationDigests
    RestorationStart (sampleStart T transport) := by
  let _ := sampleRestorationDigests
  refine ⟨⟨1, rfl⟩, fun id => rfl, ⟨List.nodup_nil, ?_⟩, ?_⟩
  · intro receiverId
    exact Nat.zero_le _
  intro r hr
  cases hr

end HyperfluxNext
