import HyperfluxNext.Bridge.StableDispatch
import HyperfluxNext.Restoration.Runs

namespace HyperfluxNext

open Procedure List

/-- A static lighting transaction that was handed to the transport, with its completion once there
is one. -/
structure StableWrite where
  request : TransactionRequest
  terminal : Option TransactionTerminal

def StableWrite.Captured (write : StableWrite) (intent : PersistedStableIntent) : Prop :=
  ∃ terminal, write.terminal = some terminal ∧
    isDefinitiveStableTerminal write.request terminal = true ∧
    CapturedFrom write.request terminal intent

def StableWrite.covers (write : StableWrite) (receiverId : ReceiverId) (deviceId : LogicalDeviceId) : Bool :=
  write.request.receiverId = receiverId ∧ write.request.frames.any (·.deviceId = deviceId)

def stableWrites (taken : Option QueuedTransaction) (terminal : Option TransactionTerminal) : List StableWrite :=
  match taken with
  | none => []
  | some queued =>
    if queued.request.transactionClass = .staticLighting then [⟨queued.request, terminal⟩] else []

/-- The backend with the static lighting writes so far, the last one first. -/
structure BackendRun (T : Type) where
  state : RestorationState T
  writes : List StableWrite

/-- The calls on the queue that dispatch nothing. -/
inductive QueueOp where
  | submit (request : TransactionRequest) (binding : SubmissionBinding) (now : MonotonicMs)
      (ports : Authorities)
  | cancelTransaction (transactionId : TransactionId)
  | invalidateGeneration (receiverId : ReceiverId) (generationId : GenerationId)
  | invalidateSession (sessionId : SessionId)

def QueueOp.call (leases : LeaseManager) : QueueOp → CoordinatorOp
  | .submit request binding now ports => .submit request binding now ports leases
  | .cancelTransaction transactionId => .cancelTransaction transactionId
  | .invalidateGeneration receiverId generationId => .invalidateGeneration receiverId generationId
  | .invalidateSession sessionId => .invalidateSession sessionId

/-- One call on the backend; the process may die inside `dispatch_next` once the tombstone is
written and once the transport was asked, and between any two calls. A process that dies inside
another call is one whose commit failed, with or without effect, followed by a restart. -/
inductive BackendOp where
  | queue (op : QueueOp)
  | dispatchNext (now : MonotonicMs) (ports : Authorities) (preparedAt capturedAt : WallClockUnixMs)
  | crashPrepared (now : MonotonicMs) (ports : Authorities) (preparedAt : WallClockUnixMs) (capacity : Nat)
  | crashDispatched (now : MonotonicMs) (ports : Authorities) (preparedAt : WallClockUnixMs) (capacity : Nat)
  | planRestore (trigger : RestoreTrigger) (profiles : ProfileRegistry)
  | rebind (trigger : RestoreTrigger) (profiles : ProfileRegistry) (records : List RestoreRecord)
  | advanceClaim (claimId : RestoreClaimId) (authority : RestorationAuthority) (now : MonotonicMs)
      (ports : Authorities)
  | dispatchClaim (claimId : RestoreClaimId) (now : MonotonicMs) (ports : Authorities)
  | retireGeneration (receiverId : ReceiverId) (generationId : GenerationId) (now : MonotonicMs)
  | restart (capacity : Nat)

structure BackendStep (T : Type) where
  op : BackendOp
  events : BoundedEventLog
  transport : T
  leases : LeaseManager
  policies : List PersistedRestorePolicy
  commits : List (Except FilePersistenceError Unit)

variable {T : Type}

def BackendStep.enter (step : BackendStep T) (s : RestorationState T) : RestorationState T where
  core := ⟨s.core.coordinator, step.events, step.transport⟩
  leases := step.leases
  store := ⟨s.store.maxReceivers, { s.store.document with policies := step.policies }, step.commits⟩

def completedTerminal : Except RestorationError DispatchResult → Option TransactionTerminal
  | .ok result => result.completed.map (·.terminal)
  | .error _ => none

def journaledTerminal (coordinator : TransactionCoordinator) (transactionId : TransactionId) :
    Option TransactionTerminal :=
  match coordinator.outcomes.retained[transactionId]? with
  | some record =>
    match record.result with
    | .terminal terminal => some terminal
    | _ => none
  | none => none

section Runs

variable [ReceiverTransport T] [RestorationDigests]

/-- The static lighting write that `dispatch_next` makes. -/
def sentNext (now : MonotonicMs) (ports : Authorities) (preparedAt : WallClockUnixMs)
    (s : RestorationState T) : List StableWrite :=
  match prepareNext now ports preparedAt s with
  | .error _ _ => []
  | .ok _ s₁ =>
    stableWrites (handedOver (s₁.core.coordinator.queue.takeNext now).1 now ports s₁.leases
      s₁.core.transport) (completedTerminal (answer (sendNext now ports) s₁))

def claimHandedOver (claimId : RestoreClaimId) (now : MonotonicMs) (ports : Authorities)
    (s : RestorationState T) : Option QueuedTransaction :=
  match loadRecord claimId s.store with
  | .error _ => none
  | .ok record =>
    match record.status with
    | .queued attempt =>
      if ReceiverTransport.reconcile s.core.transport (dispatchFromAttempt attempt) = .notObserved ∧
          dispatchGate record attempt now ports s.core.transport s.store = .ok .ready ∧
          s.leases.owns attempt.request.clientId attempt.request.leaseId attempt.request.resources now ∧
          (answer (markApplying claimId) s).isOk
      then
        handedOver (s.core.coordinator.queue.takeTransaction attempt.request.transactionId now).1 now
          ports s.leases s.core.transport
      else
        none
    | _ => none

def sentClaim (claimId : RestoreClaimId) (now : MonotonicMs) (ports : Authorities)
    (s : RestorationState T) : List StableWrite :=
  let taken := claimHandedOver claimId now ports s
  stableWrites taken (taken.bind fun queued =>
    journaledTerminal (final (dispatchClaim claimId now ports) s).core.coordinator queued.id)

def BackendStep.run (step : BackendStep T) (run : BackendRun T) : BackendRun T :=
  let s := step.enter run.state
  match step.op with
  | .queue op => ⟨{ s with core := (op.call s.leases).apply s.core }, run.writes⟩
  | .dispatchNext now ports preparedAt capturedAt =>
    ⟨final (backendDispatchNext now ports preparedAt capturedAt) s,
      sentNext now ports preparedAt s ++ run.writes⟩
  | .crashPrepared now ports preparedAt capacity =>
    ⟨restarted capacity (final (prepareNext now ports preparedAt) s), run.writes⟩
  | .crashDispatched now ports preparedAt capacity =>
    ⟨restarted capacity (final (do prepareNext now ports preparedAt; sendNext now ports) s),
      sentNext now ports preparedAt s ++ run.writes⟩
  | .planRestore trigger profiles => ⟨final (planRestore trigger profiles) s, run.writes⟩
  | .rebind trigger profiles records =>
    ⟨final (migrateCompatibleStableIntents trigger profiles records) s, run.writes⟩
  | .advanceClaim claimId authority now ports =>
    ⟨final (advanceClaim claimId authority now ports) s, run.writes⟩
  | .dispatchClaim claimId now ports =>
    ⟨final (dispatchClaim claimId now ports) s, sentClaim claimId now ports s ++ run.writes⟩
  | .retireGeneration receiverId generationId now =>
    ⟨final (retireGeneration receiverId generationId now) s, run.writes⟩
  | .restart capacity => ⟨restarted capacity s, run.writes⟩

/-- The runs from a process that has just started, each step of which satisfies `ok` in the state
it is taken in. -/
inductive BackendReach (ok : RestorationState T → BackendStep T → Prop) : BackendRun T → Prop
  | start (s : RestorationState T) (capacity : Nat)
      (coordinator : TransactionCoordinator.new capacity = .ok s.core.coordinator)
      (entries : OneEntryEach s) : BackendReach ok ⟨s, []⟩
  | step {run : BackendRun T} (step : BackendStep T) (before : BackendReach ok run)
      (allowed : ok run.state step) : BackendReach ok (step.run run)

/-- Once a static lighting transaction was handed to the transport for a device, the store has no
intent for the device but the one captured from the last of them, and that only if it definitively
succeeded. -/
def LastWriteSaved (run : BackendRun T) : Prop :=
  ∀ intent, Saved run.state intent →
    ∀ write, run.writes.find? (·.covers intent.receiverId intent.deviceId) = some write → write.Captured intent

def ClaimsOwnTransaction (s : RestorationState T) (step : BackendStep T) : Prop :=
  ∀ claimId now ports, step.op = .dispatchClaim claimId now ports →
    ∀ record attempt, loadRecord claimId s.store = .ok record → record.status = .queued attempt →
      ∀ queued ∈ s.core.coordinator.queue.pending, queued.id = attempt.request.transactionId →
        queued.request.transactionClass ≠ .staticLighting

end Runs

variable {write : StableWrite} {intent : PersistedStableIntent} {s s' : RestorationState T}
  {sent : List StableWrite} {terminal : Option TransactionTerminal}

theorem StableWrite.Captured.rebound {old : PersistedStableIntent} (h : write.Captured old)
    (hrebound : Rebound old intent) : write.Captured intent := by
  obtain ⟨terminal, hterminal, hdefinitive, hcaptured⟩ := h
  refine ⟨terminal, hterminal, hdefinitive, ?_⟩
  obtain ⟨frame, hframe, hdevice, hvalid⟩ := hcaptured.frame
  refine ⟨hrebound.receiver.trans hcaptured.receiver, hrebound.transaction.trans hcaptured.transaction,
    hrebound.digest.trans hcaptured.digest, frame, hframe, hrebound.device.trans hdevice, ?_⟩
  rw [hrebound.lighting]
  exact hvalid

theorem StableWrite.Captured.covers (h : write.Captured intent)
    : write.covers intent.receiverId intent.deviceId = true := by
  obtain ⟨terminal, _, _, hcaptured⟩ := h
  obtain ⟨frame, hframe, hdevice, _⟩ := hcaptured.frame
  unfold StableWrite.covers
  rw [decide_eq_true_iff, any_eq_true]
  exact ⟨hcaptured.receiver.symm, frame, hframe, by simp [hdevice]⟩

/-- What one call does to the intents: each one in the store is an older one of a device that the
call did not write, or was captured from the call's own write. -/
structure Settles (sent : List StableWrite) (s s' : RestorationState T) : Prop where
  checked : IntentsChecked s'
  saved : ∀ intent, Saved s' intent →
    ((∃ old, Saved s old ∧ Rebound old intent) ∧
      ∀ write ∈ sent, write.covers intent.receiverId intent.deviceId = false) ∨
    ∃ write, sent = [write] ∧ write.Captured intent

theorem Rebinds.settles (h : Rebinds s s') : Settles [] s s' :=
  ⟨h.checked, fun intent hsaved => .inl ⟨h.saved intent hsaved, fun _ hmem => by cases hmem⟩⟩

theorem Settles.restarted (h : Settles sent s s') (capacity : Nat)
    : Settles sent s (restarted capacity s') := by
  unfold HyperfluxNext.restarted
  split
  · exact h
  next coordinator hnew =>
    refine ⟨⟨h.checked.distinct, ?_⟩, h.saved⟩
    intro queued hqueued
    rw [(new_safe hnew).1] at hqueued
    cases hqueued

theorem Settles.lastWriteSaved {writes : List StableWrite} (h : Settles sent s s')
    (hlast : LastWriteSaved ⟨s, writes⟩) :
    LastWriteSaved ⟨s', sent ++ writes⟩ := by
  intro intent hsaved write hfind
  rw [find?_append] at hfind
  obtain ⟨⟨old, hold, hrebound⟩, hfree⟩ | ⟨own, hown, hcaptured⟩ := h.saved intent hsaved
  · have hnone : sent.find? (·.covers intent.receiverId intent.deviceId) = none := by
      rw [find?_eq_none]
      intro write hwrite
      rw [hfree write hwrite]
      exact Bool.false_ne_true
    rw [hnone, Option.none_or, hrebound.receiver, hrebound.device] at hfind
    exact (hlast old hold write hfind).rebound hrebound
  have hfirst : [own].find? (·.covers intent.receiverId intent.deviceId) = some own := by
    simp [hcaptured.covers]
  rw [hown, hfirst] at hfind
  cases hfind
  exact hcaptured

theorem Gains.rebinds (h : Gains (fun _ => False) s s') (hs : IntentsChecked s) : Rebinds s s' := by
  refine ⟨⟨h.distinct, ?_⟩, fun intent hsaved => ?_⟩
  · rw [h.core]
    exact hs.queue
  obtain hold | hnew := h.saved intent hsaved
  · exact ⟨intent, hold, Rebound.refl intent⟩
  · exact hnew.elim

/-- The writes that the dispatch of one dequeued transaction can make. -/
theorem stableWrites_mem {taken : Option QueuedTransaction} (h : write ∈ stableWrites taken terminal) :
    ∃ queued, taken = some queued ∧ queued.request.transactionClass = .staticLighting ∧
      write = ⟨queued.request, terminal⟩ := by
  unfold stableWrites at h
  split at h
  · cases h
  next queued =>
    split at h
    next hstatic => exact ⟨queued, rfl, hstatic, mem_singleton.mp h⟩
    · cases h

theorem StableWrite.covers_eq_false {request : TransactionRequest}
    (h : intent.receiverId = request.receiverId → ∀ frame ∈ request.frames, frame.deviceId ≠ intent.deviceId) :
    (⟨request, terminal⟩ : StableWrite).covers intent.receiverId intent.deviceId = false := by
  unfold StableWrite.covers
  rw [decide_eq_false_iff_not]
  intro hcovers
  obtain ⟨hreceiver, hframes⟩ := hcovers
  obtain ⟨frame, hframe, hdevice⟩ := any_eq_true.mp hframes
  exact h hreceiver.symm frame hframe (by simpa using hdevice)

section Steps

variable [ReceiverTransport T] [RestorationDigests]

variable {s : RestorationState T} {now : MonotonicMs} {ports : Authorities}
  {preparedAt capturedAt : WallClockUnixMs}

/-- The tombstones are in the store before the transaction that was predicted is handed over. -/
theorem prepareNext_clears (h : IntentsChecked s) :
    Holds (prepareNext now ports preparedAt) s
      (fun _ s' => Gains (fun _ => False) s s' ∧ ∀ queued,
        handedOver (s.core.coordinator.queue.takeNext now).1 now ports s.leases s.core.transport = some queued →
        queued.request.transactionClass = .staticLighting → ∀ intent, Saved s' intent →
        intent.receiverId = queued.request.receiverId →
        ∀ frame ∈ queued.request.frames, frame.deviceId ≠ intent.deviceId)
      (fun _ s' => Gains (fun _ => False) s s') := by
  have hsame : Gains (fun _ => False) s s := Gains.refl h.distinct
  simp only [prepareNext, holds_do]
  cases hpredicted : s.core.coordinator.nextDispatchableRequest now ports s.leases s.core.transport with
  | none =>
    refine ⟨hsame, fun queued hqueued => ?_⟩
    rw [nextDispatchableRequest_handedOver hqueued] at hpredicted
    cases hpredicted
  | some request =>
    have hchecked : ∀ queued, handedOver (s.core.coordinator.queue.takeNext now).1 now ports s.leases
        s.core.transport = some queued →
        queued.request = request ∧ validateTransaction request = .ok () := by
      intro queued hqueued
      rw [nextDispatchableRequest_handedOver hqueued] at hpredicted
      cases hpredicted
      refine ⟨rfl, h.queue queued ?_⟩
      have hnext := (Option.filter_eq_some_iff.mp hqueued).1
      refine (takeNext_perm s.core.coordinator.queue now).subset ?_
      simp [hnext]
    dsimp only
    unfold prepareStableDispatch
    split
    next hskip =>
      refine ⟨hsame, fun queued hqueued hstatic intent _ _ frame hframe _ => ?_⟩
      obtain ⟨hrequest, hvalid⟩ := hchecked queued hqueued
      rw [hrequest] at hstatic hframe
      have hdeclared := validateTransaction_intents hvalid hstatic hframe
      obtain hclass | hnone := hskip
      · exact hclass hstatic
      rw [hnone] at hdeclared
      cases hdeclared
    simp only [holds_do]
    refine holds_post (clearStableIntents_spec h.distinct) ?_
    intro _ s' hs
    obtain ⟨hgains, hcleared⟩ := hs
    refine ⟨hgains, fun queued hqueued hstatic intent hsaved hreceiver frame hframe hdevice => ?_⟩
    obtain ⟨hrequest, hvalid⟩ := hchecked queued hqueued
    rw [hrequest] at hstatic hframe hreceiver
    have hdeclared := validateTransaction_intents hvalid hstatic hframe
    rw [hdevice] at hdeclared
    exact hcleared intent hsaved hreceiver hdeclared

/-- Asking the coordinator leaves the store alone, and a success is of what was handed over. -/
theorem sendNext_answers (h : IntentsChecked s) :
    Holds (sendNext now ports) s
      (fun result s' => s'.store = s.store ∧ IntentsChecked s' ∧
        ∀ completed, result.completed = some completed → completed.terminal.state = .succeeded →
          ∃ queued, handedOver (s.core.coordinator.queue.takeNext now).1 now ports s.leases
            s.core.transport = some queued ∧ completed.request = queued.request)
      (fun _ s' => s'.store = s.store ∧ IntentsChecked s') := by
  have hkept : ∀ core, QueueValid core.coordinator →
      QueueValid (final (TransactionCoordinator.dispatchNext now ports s.leases)
        (core : CoordinatorState T)).coordinator :=
    fun core hcore => CoordinatorOp.apply_queueValid (.dispatchNext now ports s.leases) hcore
  have hframed := (framed_withTransactions hkept).under h
  simp only [sendNext, holds_do]
  have hanswers : Holds (withTransactions (TransactionCoordinator.dispatchNext now ports s.leases)) s
      (fun result s' => s'.store = s.store ∧
        ∀ completed, result.completed = some completed → completed.terminal.state = .succeeded →
          ∃ queued, handedOver (s.core.coordinator.queue.takeNext now).1 now ports s.leases
            s.core.transport = some queued ∧ completed.request = queued.request)
      (fun _ s' => s'.store = s.store) := by
    simp only [withTransactions, holds_do, TransactionCoordinator.dispatchNext, setQueue]
    refine holds_mono dispatchDecision_answers ?_ (fun _ _ _ => trivial)
    intro result _ hs
    exact ⟨trivial, hs.2⟩
  refine holds_mono (holds_and hframed hanswers) ?_ ?_
  · intro result s' hs
    exact ⟨hs.2.1, hs.1.checked, hs.2.2⟩
  intro _ s' hs
  exact ⟨hs.2, hs.1.checked⟩

omit [ReceiverTransport T] in
theorem captureNext_gains (h : OneEntryEach s) {dispatch : DispatchResult} :
    Ensures (captureNext dispatch capturedAt) s
      (Gains (fun intent => ∃ completed, dispatch.completed = some completed ∧ isDefinitiveStableTerminal completed.request completed.terminal = true ∧ CapturedFrom completed.request completed.terminal intent) s) := by
  unfold captureNext
  split
  · exact Gains.refl h
  next completed hcompleted =>
    have hgains : ∀ s' : RestorationState T,
        Gains (fun intent => isDefinitiveStableTerminal completed.request completed.terminal = true ∧
          CapturedFrom completed.request completed.terminal intent) s s' →
        Gains (fun intent => ∃ completed, dispatch.completed = some completed ∧
          isDefinitiveStableTerminal completed.request completed.terminal = true ∧
          CapturedFrom completed.request completed.terminal intent) s s' := by
      intro s' hs
      refine ⟨hs.core, hs.leases, hs.distinct, fun intent hsaved => ?_⟩
      obtain hold | hnew := hs.saved intent hsaved
      · exact .inl hold
      · exact .inr ⟨completed, hcompleted, hnew⟩
    simp only [holds_do, captureCompleted]
    refine holds_mono (commitDeclaredStableTransaction_gains h) ?_ ?_
    · intro outcome s' hs
      cases outcome with
      | notApplicable | captured intents => exact hgains s' hs
    intro _ s' hs
    exact hgains s' hs

/-- Between the tombstones and the capture no intent of a written device is in the store. -/
theorem sendNext_settles {s₁ : RestorationState T} (h : IntentsChecked s)
    (hprepared : prepareNext now ports preparedAt s = .ok () s₁) :
    Ensures (sendNext now ports) s₁ (Settles (sentNext now ports preparedAt s) s) := by
  obtain ⟨hgains, hcleared⟩ := holds_ok (prepareNext_clears h) hprepared
  have hrebinds := hgains.rebinds h
  have hsettles : ∀ s₂ : RestorationState T, s₂.store = s₁.store → IntentsChecked s₂ →
      Settles (sentNext now ports preparedAt s) s s₂ := by
    intro s₂ hstore hchecked
    refine ⟨hchecked, fun intent hsaved => .inl ?_⟩
    have hsaved : Saved s₁ intent := by
      unfold Saved at hsaved ⊢
      rw [hstore] at hsaved
      exact hsaved
    refine ⟨hrebinds.saved intent hsaved, fun write hwrite => ?_⟩
    simp only [sentNext, hprepared] at hwrite
    obtain ⟨queued, htaken, hstatic, hwrite⟩ := stableWrites_mem hwrite
    rw [hgains.core, hgains.leases] at htaken
    rw [hwrite]
    exact StableWrite.covers_eq_false (hcleared queued htaken hstatic intent hsaved)
  refine holds_mono (sendNext_answers hrebinds.checked) ?_ ?_
  · intro result s₂ hs
    exact hsettles s₂ hs.1 hs.2.1
  intro _ s₂ hs
  exact hsettles s₂ hs.1 hs.2

theorem prepareNext_settles (h : IntentsChecked s) :
    Ensures (prepareNext now ports preparedAt) s (Settles [] s) :=
  holds_mono (prepareNext_clears h) (fun _ _ hs => (hs.1.rebinds h).settles)
    (fun _ _ hs => (hs.rebinds h).settles)

theorem sentNext_of_error {s₁ : RestorationState T} {error : RestorationError}
    (h : prepareNext now ports preparedAt s = .error error s₁) :
    sentNext now ports preparedAt s = [] := by
  simp only [sentNext, h]

/-- The first two phases of `dispatch_next`. -/
theorem prepareAndSend_settles (h : IntentsChecked s) :
    Settles (sentNext now ports preparedAt s) s
      (final (do prepareNext now ports preparedAt; sendNext now ports) s) := by
  apply holds_final
  cases hprepared : prepareNext now ports preparedAt s with
  | error error s₁ =>
    rw [holds_bind_of_error hprepared, sentNext_of_error hprepared]
    have hsettled := holds_error (prepareNext_settles h) hprepared
    exact hsettled
  | ok _ s₁ =>
    rw [holds_bind_of_ok hprepared]
    exact sendNext_settles h hprepared

/-- An intent that the capture adds comes from the write of the same call. -/
theorem backendDispatchNext_settles (h : IntentsChecked s) :
    Settles (sentNext now ports preparedAt s) s
      (final (backendDispatchNext now ports preparedAt capturedAt) s) := by
  apply holds_final
  unfold backendDispatchNext
  cases hprepared : prepareNext now ports preparedAt s with
  | error error s₁ =>
    rw [holds_bind_of_error hprepared, sentNext_of_error hprepared]
    have hsettled := holds_error (prepareNext_settles h) hprepared
    exact hsettled
  | ok _ s₁ =>
    rw [holds_bind_of_ok hprepared]
    have hchecked₁ := (holds_ok (prepareNext_settles h) hprepared).checked
    have hsend := sendNext_settles h hprepared
    cases hsent : sendNext now ports s₁ with
    | error error s₂ =>
      rw [holds_bind_of_error hsent]
      have hsettled := holds_error hsend hsent
      exact hsettled
    | ok dispatch s₂ =>
      have hsettles := holds_ok hsend hsent
      obtain ⟨_, _, hsucceeded⟩ := holds_ok (sendNext_answers hchecked₁) hsent
      have hcaptures : ∀ s₃ : RestorationState T,
          Gains (fun intent => ∃ completed, dispatch.completed = some completed ∧
            isDefinitiveStableTerminal completed.request completed.terminal = true ∧
            CapturedFrom completed.request completed.terminal intent) s₂ s₃ →
          Settles (sentNext now ports preparedAt s) s s₃ := by
        intro s₃ hgains
        refine ⟨⟨hgains.distinct, ?_⟩, fun intent hsaved => ?_⟩
        · rw [hgains.core]
          exact hsettles.checked.queue
        obtain hold | ⟨completed, hcompleted, hdefinitive, hcaptured⟩ := hgains.saved intent hsaved
        · exact hsettles.saved intent hold
        have hterminal := hdefinitive
        unfold isDefinitiveStableTerminal at hterminal
        obtain ⟨_, hclass, _, _, _, _, hstate, _⟩ := decide_eq_true_iff.mp hterminal
        obtain ⟨queued, htaken, hrequest⟩ := hsucceeded completed hcompleted hstate
        have hanswer : answer (sendNext now ports) s₁ = .ok dispatch := by
          simp only [answer, hsent]
        rw [hrequest] at hclass
        refine .inr ⟨⟨queued.request, some completed.terminal⟩, ?_, completed.terminal, rfl, ?_, ?_⟩
        · simp only [sentNext, hprepared, htaken, stableWrites, hclass, if_true, hanswer,
            completedTerminal, hcompleted, Option.map_some]
        · rw [← hrequest]
          exact hdefinitive
        rw [← hrequest]
        exact hcaptured
      rw [holds_bind_of_ok hsent]
      simp only [holds_do]
      exact holds_mono (captureNext_gains hsettles.checked.distinct) (fun _ s₃ hs => hcaptures s₃ hs)
        (fun _ s₃ hs => hcaptures s₃ hs)

theorem sentClaim_eq_nil {claimId : RestoreClaimId}
    (h : ∀ record attempt, loadRecord claimId s.store = .ok record → record.status = .queued attempt →
      ∀ queued ∈ s.core.coordinator.queue.pending, queued.id = attempt.request.transactionId →
        queued.request.transactionClass ≠ .staticLighting) :
    sentClaim claimId now ports s = [] := by
  by_contra hsent
  obtain ⟨write, hwrite⟩ := exists_mem_of_ne_nil _ hsent
  obtain ⟨queued, htaken, hstatic, _⟩ := stableWrites_mem hwrite
  unfold claimHandedOver at htaken
  split at htaken
  · cases htaken
  next record hload =>
    split at htaken
    next attempt hstatus =>
      split at htaken
      · have hnext := (Option.filter_eq_some_iff.mp htaken).1
        have hid := (BoundedTransactionQueue.removeTransaction_some hnext).1
        have hmem : queued ∈ s.core.coordinator.queue.pending := by
          refine (takeTransaction_perm s.core.coordinator.queue attempt.request.transactionId now).subset ?_
          simp [hnext]
        exact h record attempt hload hstatus queued hmem hid hstatic
      · cases htaken
    · cases htaken

omit [ReceiverTransport T] [RestorationDigests] in
/-- The state that a step starts in keeps the queue and the stable entries. -/
theorem BackendStep.enter_rebinds (step : BackendStep T) (h : IntentsChecked s) : Rebinds s (step.enter s) :=
  Rebinds.of_perm h (List.Perm.refl _) h.queue

theorem QueueOp.call_settles (op : QueueOp) (h : IntentsChecked s) :
    Settles [] s { s with core := (op.call s.leases).apply s.core } := by
  have hqueue : QueueValid ((op.call s.leases).apply s.core).coordinator :=
    (op.call s.leases).apply_queueValid h.queue
  have hrebinds : Rebinds s { s with core := (op.call s.leases).apply s.core } := Rebinds.of_store h rfl hqueue
  exact hrebinds.settles

omit [ReceiverTransport T] [RestorationDigests] in
theorem Framed.settles {α : Type} {m : RestorationM T α} (h : Framed m) (hs : IntentsChecked s)
    : Settles [] s (final m s) :=
  (holds_final (h.under hs)).settles

theorem BackendStep.run_settles (step : BackendStep T) (run : BackendRun T)
    (h : IntentsChecked run.state) (hok : ClaimsOwnTransaction run.state step) :
    ∃ sent, (step.run run).writes = sent ++ run.writes ∧
      Settles sent (step.enter run.state) (step.run run).state := by
  have hchecked := (step.enter_rebinds h).checked
  unfold BackendStep.run
  dsimp only
  cases hop : step.op with
  | queue op => exact ⟨[], rfl, op.call_settles hchecked⟩
  | dispatchNext => exact ⟨_, rfl, backendDispatchNext_settles hchecked⟩
  | crashPrepared => exact ⟨[], rfl, (holds_final (prepareNext_settles hchecked)).restarted _⟩
  | crashDispatched => exact ⟨_, rfl, (prepareAndSend_settles hchecked).restarted _⟩
  | planRestore => exact ⟨[], rfl, (planRestore_framed _ _).settles hchecked⟩
  | rebind => exact ⟨[], rfl, (migrateCompatibleStableIntents_framed _ _ _).settles hchecked⟩
  | advanceClaim => exact ⟨[], rfl, (advanceClaim_framed _ _ _ _).settles hchecked⟩
  | dispatchClaim claimId now ports =>
    have hnone : sentClaim claimId now ports (step.enter run.state) = [] :=
      sentClaim_eq_nil (hok claimId now ports hop)
    dsimp only
    rw [hnone]
    exact ⟨[], rfl, (dispatchClaim_framed _ _ _).settles hchecked⟩
  | retireGeneration => exact ⟨[], rfl, (retireGeneration_framed _ _ _).settles hchecked⟩
  | restart capacity => exact ⟨[], rfl, (Rebinds.refl hchecked).settles.restarted capacity⟩

/-- In every run whose claims dispatch no static lighting transaction under their own name, the
store has nothing for a device but what the last write to it set. -/
theorem backendReach_lastWriteSaved {run : BackendRun T}
    (h : BackendReach ClaimsOwnTransaction run) : LastWriteSaved run := by
  suffices hboth : IntentsChecked run.state ∧ LastWriteSaved run from hboth.2
  induction h with
  | start s capacity coordinator entries =>
    refine ⟨⟨entries, ?_⟩, fun _ _ write hfind => by cases hfind⟩
    intro queued hqueued
    rw [(new_safe coordinator).1] at hqueued
    cases hqueued
  | @step run step before allowed ih =>
    obtain ⟨hchecked, hlast⟩ := ih
    obtain ⟨sent, hwrites, hsettles⟩ := step.run_settles run hchecked allowed
    refine ⟨hsettles.checked, ?_⟩
    have hentered : LastWriteSaved ⟨step.enter run.state, run.writes⟩ := hlast
    have hafter := hsettles.lastWriteSaved hentered
    rw [← hwrites] at hafter
    exact hafter

end Steps

section SampleRuns

variable [ReceiverTransport T] [RestorationDigests]

theorem backendReach_foldl {ok : RestorationState T → BackendStep T → Prop}
    (steps : List (BackendStep T)) (hok : ∀ s, ∀ step ∈ steps, ok s step) {run : BackendRun T}
    (h : BackendReach ok run) :
    BackendReach ok (steps.foldl (fun run step => step.run run) run) := by
  induction steps generalizing run with
  | nil => exact h
  | cons step steps ih =>
    have hnext : BackendReach ok (step.run run) := .step step h (hok _ step mem_cons_self)
    exact ih (fun s later hlater => hok s later (mem_cons_of_mem _ hlater)) hnext

end SampleRuns

def sampleKeyboard : ResourceKey := { sampleResource with deviceId := .lit "keyboard" }

def keyboardIntent : PersistedStableIntent := { sampleIntent with deviceId := sampleKeyboard.deviceId }

def sampleStatic (name : Text 1 128) : TransactionRequest :=
  { sampleRequest with
    requestId := name
    transactionId := name
    clientId := .lit "painter"
    deviceProfiles := [⟨sampleKeyboard.deviceId, sampleProfile, sampleDigest, .lit 1⟩]
    transactionClass := .staticLighting
    stableIntents := [⟨sampleKeyboard.deviceId, .off⟩]
    resources := [sampleKeyboard]
    frames := [⟨sampleKeyboard.deviceId, .lit 0,
      [⟨.lit 0, .lit 0, .lit 0⟩]⟩] }

def deliveringTransport : FixedTransport :=
  ⟨some sampleGeneration, true, .notObserved,
    .ok ⟨.delivered, .lit 1, .committed, true, false, .unverified⟩⟩

/-- A process that has just started on a store with an intent for each device. -/
def lightStart : BackendRun FixedTransport where
  state :=
    { sampleStart FixedTransport deliveringTransport with
      store := ⟨1, ⟨[], [.present keyboardIntent, .present sampleIntent], []⟩, []⟩ }
  writes := []

def keyboardLeases : LeaseManager where
  maxLeases := 4
  maxHistory := 4
  leases := (∅ : Std.TreeMap LeaseId LeaseGrant).insert sampleRequest.leaseId
    ⟨sampleRequest.leaseId, .lit "painter", [sampleKeyboard],
      .lit 1000, .granted⟩
  owners := (∅ : Std.TreeMap ResourceKey LeaseId).insert sampleKeyboard sampleRequest.leaseId
  history := []

def claimedLeases : LeaseManager :=
  let leaseId : LeaseId := .lit ("restore-lease-" ++ sampleClaim.asStr ++ "-1")
  { keyboardLeases with
    leases := keyboardLeases.leases.insert leaseId
      ⟨leaseId, sampleRequest.clientId, [sampleResource], .lit 1000, .granted⟩
    owners := keyboardLeases.owners.insert sampleResource leaseId }

def lightStep (leases : LeaseManager) (op : BackendOp) : BackendStep FixedTransport where
  op := op
  events := sampleLog
  transport := deliveringTransport
  leases := leases
  policies := [⟨currentSchemaVersion, sampleResource.receiverId, true, .lit 1⟩]
  commits := []

def lightSubmit (leases : LeaseManager) (name : Text 1 128) : BackendStep FixedTransport :=
  lightStep leases (.queue (.submit (sampleStatic name) sampleBinding (.lit 0)
    sampleAuthorities))

def lightDispatch (leases : LeaseManager) (ports : Authorities) : BackendStep FixedTransport :=
  lightStep leases (.dispatchNext (.lit 0) ports (.lit 1)
    (.lit 2))

theorem lightStart_reach {ok : RestorationState FixedTransport → BackendStep FixedTransport → Prop} :
    letI := sampleRestorationDigests
    BackendReach ok lightStart := by
  let _ := sampleRestorationDigests
  have hdistinct : (lightStart.state.store.document.stableEntries.map entryKey).Nodup := by
    decide +kernel
  exact .start _ 1 rfl hdistinct

/-- The client turns the keyboard off and the write is delivered. -/
def paintedRun : List (BackendStep FixedTransport) :=
  [lightSubmit keyboardLeases (.lit "paint"), lightDispatch keyboardLeases sampleAuthorities]

theorem backendReach_lastWriteSaved_sample :
    letI := sampleRestorationDigests
    (paintedRun.foldl (fun run step => step.run run) lightStart).writes.length = 1 ∧
      LastWriteSaved (paintedRun.foldl (fun run step => step.run run) lightStart) := by
  let _ := sampleRestorationDigests
  refine ⟨by decide +kernel, backendReach_lastWriteSaved (backendReach_foldl _ ?_ lightStart_reach)⟩
  intro s step hstep claimId now ports hop
  simp only [paintedRun, mem_cons, not_mem_nil, or_false] at hstep
  obtain rfl | rfl := hstep
  · cases hop
  · cases hop

/-- The mouse is asleep while the claim's attempt is at the head of the queue, so that the attempt
is revoked; two requests of the client push it out of the journal, and a third one takes its name. -/
def namesakeRun : List (BackendStep FixedTransport) :=
  let first : TransactionId := .lit "first"
  let second : TransactionId := .lit "second"
  let namesake : TransactionId := .lit ("restore-tx-" ++ sampleClaim.asStr ++ "-1")
  [lightStep keyboardLeases (.planRestore sampleTrigger sampleAuthorities.profiles),
    lightStep keyboardLeases (.advanceClaim sampleClaim (sampleAuthority sampleNonce)
      (.lit 0) sampleAuthorities),
    lightDispatch claimedLeases { sampleAuthorities with devices := ⟨fun _ => .sleeping⟩ },
    lightSubmit claimedLeases first,
    lightStep claimedLeases (.queue (.cancelTransaction first)),
    lightSubmit claimedLeases second,
    lightStep claimedLeases (.queue (.cancelTransaction second)),
    lightSubmit claimedLeases namesake,
    lightStep claimedLeases (.dispatchClaim sampleClaim (.lit 0) sampleAuthorities)]

/-- The claim's dispatch writes the client's transaction and the store keeps the older intent. -/
theorem claim_writes_namesake_over_saved_intent :
    letI := sampleRestorationDigests
    ¬ ∀ run : BackendRun FixedTransport, BackendReach (fun _ _ => True) run → LastWriteSaved run := by
  let _ := sampleRestorationDigests
  intro h
  have hlast := h _ (backendReach_foldl namesakeRun (fun _ _ _ => trivial) lightStart_reach)
  have hrun : (fun run : BackendRun FixedTransport =>
      PersistedStableEntry.present keyboardIntent ∈ run.state.store.document.stableEntries ∧
        (run.writes.find? (·.covers keyboardIntent.receiverId keyboardIntent.deviceId)).any
          (·.request.transactionId ≠ keyboardIntent.sourceTransactionId))
      (namesakeRun.foldl (fun run step => step.run run) lightStart) := by
    decide +kernel
  obtain ⟨hsaved, hwritten⟩ := hrun
  obtain ⟨write, hfind, hother⟩ := (Option.any_eq_true ..).mp hwritten
  obtain ⟨terminal, _, _, hcaptured⟩ := hlast keyboardIntent hsaved write hfind
  exact of_decide_eq_true hother hcaptured.transaction.symm

end HyperfluxNext
