import Mathlib.Algebra.Order.Sub.Basic
import Mathlib.Data.Multiset.OrderedMonoid
import HyperfluxNext.Core.CoordinatorEffects
import HyperfluxNext.Core.CoordinatorRuns

namespace HyperfluxNext

open Procedure List

theorem lookup_retained {journal : BoundedOutcomeJournal} {clientId : ClientId} {id : TransactionId}
    {result : TransactionResult} (h : journal.lookup clientId id = .retained result) :
    ∃ record : OutcomeRecord, journal.retained[id]? = some record ∧ record.clientId = clientId ∧
      record.result = result := by
  unfold BoundedOutcomeJournal.lookup at h
  split at h
  next record hrecord =>
    split at h
    next hclient =>
      cases h
      exact ⟨record, hrecord, hclient, rfl⟩
    · cases h
  split at h
  · cases h
  · split at h <;> cases h

section Answers

variable {T : Type} [ReceiverTransport T] [CanonicalDigests]

def SubmissionResult.result : SubmissionResult → TransactionResult
  | .queued progress => .progress progress
  | .replay result => result

/-- What a call that returned handed back, nothing when it failed. -/
def returned {ε α : Type} (results : α → List TransactionResult) : Except ε α → List TransactionResult
  | .ok a => results a
  | .error _ => []

def CoordinatorOp.answers (op : CoordinatorOp) (s : CoordinatorState T) : List TransactionResult :=
  match op with
  | .submit request binding now ports leases =>
    returned (fun result => [result.result])
      (answer (TransactionCoordinator.submit request binding now ports leases) s)
  | .dispatchNext now ports leases =>
    returned (fun result => result.terminals.map .terminal)
      (answer (TransactionCoordinator.dispatchNext now ports leases) s)
  | .dispatchTransaction id now ports leases =>
    returned (fun result => result.terminals.map .terminal)
      (answer (TransactionCoordinator.dispatchTransaction id now ports leases) s)
  | .cancelTransaction id =>
    returned (fun terminal => [.terminal terminal]) (answer (TransactionCoordinator.cancelTransaction id) s)
  | .invalidateGeneration receiverId generationId =>
    returned (List.map .terminal)
      (answer (TransactionCoordinator.invalidateGeneration receiverId generationId) s)
  | .invalidateSession sessionId =>
    returned (List.map .terminal) (answer (TransactionCoordinator.invalidateSession sessionId) s)

omit [ReceiverTransport T] [CanonicalDigests] in
/-- A postcondition read as one of the state left behind and one of the answer. -/
theorem holds_returned {ε α : Type} {m : EStateM ε (CoordinatorState T) α} {s : CoordinatorState T}
    {R : CoordinatorState T → Prop} {A : TransactionResult → Prop}
    {results : α → List TransactionResult}
    (h : Holds m s (fun a s' => R s' ∧ ∀ result ∈ results a, A result) (fun _ s' => R s')) :
    R (final m s) ∧ ∀ result ∈ returned results (answer m s), A result := by
  unfold Holds at h
  unfold final answer
  cases hm : m s with
  | ok a s' => simpa only [hm, returned] using h
  | error e s' => simpa [hm, returned] using h

def CoordinatorOp.Touches (op : CoordinatorOp) (s s' : CoordinatorState T) : Prop :=
  match op with
  | .submit request binding _ _ _ => s'.transport = s.transport ∧
    ((s'.coordinator.queue.pending : Multiset QueuedTransaction) ≤ s.coordinator.queue.pending ∨
      ∃ queued, SubmittedAs request binding queued ∧ Unknown s.coordinator.outcomes queued ∧
        (s'.coordinator.queue.pending : Multiset QueuedTransaction) ≤
          queued ::ₘ (s.coordinator.queue.pending : Multiset QueuedTransaction))
  | .dispatchNext now ports leases => Leaves now ports leases s s'
  | .dispatchTransaction _ now ports leases => Leaves now ports leases s s'
  | _ => s'.transport = s.transport ∧
    (s'.coordinator.queue.pending : Multiset QueuedTransaction) ≤ s.coordinator.queue.pending

/-- The entries a call may make a result for: those that wait, and the one it submits. -/
def CoordinatorOp.MayResolve (op : CoordinatorOp) (c : TransactionCoordinator)
    (queued : QueuedTransaction) : Prop :=
  queued ∈ c.queue.pending ∨ match op with
    | .submit request binding _ _ _ => SubmittedAs request binding queued ∧ Unknown c.outcomes queued
    | _ => False

/-- What a call does to the journal, to the queue and to the transport. -/
def CoordinatorOp.Effect (P : TransactionResult → Prop) (op : CoordinatorOp) (s s' : CoordinatorState T) : Prop :=
  Recordings P s.coordinator.outcomes s'.coordinator.outcomes ∧ op.Touches s s'

def NewOrRetained (P : TransactionResult → Prop) (journal : BoundedOutcomeJournal)
    (result : TransactionResult) : Prop :=
  P result ∨ ∃ (id : TransactionId) (record : OutcomeRecord),
    journal.retained[id]? = some record ∧ record.result = result

/-- What one call does, for a property `P` of all the results it makes. -/
theorem CoordinatorOp.apply_effect {P : TransactionResult → Prop} {op : CoordinatorOp} {s : CoordinatorState T}
    (hproduces : ∀ entries : List QueuedTransaction,
      (∀ queued ∈ entries, op.MayResolve s.coordinator queued) → Produces T P entries)
    (hcancelled : ∀ id, op = .cancelTransaction id → ∀ queued ∈ s.coordinator.queue.pending,
      queued.id = id → ∀ terminal, FinishedAs queued .revoked none none unsentFacts terminal →
        P (.terminal terminal)) :
    op.Effect P s (op.apply s) ∧ ∀ result ∈ op.answers s, NewOrRetained P s.coordinator.outcomes result := by
  have hpending := hproduces s.coordinator.queue.pending (fun _ hq => .inl hq)
  cases op with
  | submit request binding now ports leases =>
    have hsubmitted : ∀ queued, SubmittedAs request binding queued →
        Unknown s.coordinator.outcomes queued →
        Produces T P (queued :: s.coordinator.queue.pending) := by
      intro queued hqueued hunknown
      refine hproduces _ (fun q hq => ?_)
      rcases mem_cons.mp hq with heq | hin
      · rw [heq]
        exact .inr ⟨hqueued, hunknown⟩
      · exact .inl hin
    have hdone : ∀ s' : CoordinatorState T, (∃ queued, SubmittedAs request binding queued ∧
        Unknown s.coordinator.outcomes queued ∧ Admits P queued s s') →
        CoordinatorOp.Effect P (.submit request binding now ports leases) s s' := by
      rintro s' ⟨queued, hqueued, hunknown, hrecorded, htransport, hle⟩
      exact ⟨hrecorded, htransport, .inr ⟨queued, hqueued, hunknown, hle⟩⟩
    have hsame : CoordinatorOp.Effect P (.submit request binding now ports leases) s s :=
      ⟨.nil, rfl, .inl (le_refl _)⟩
    refine holds_returned (A := NewOrRetained P s.coordinator.outcomes) (holds_mono (submit_effect hsubmitted) ?_ ?_)
    · rintro result s' (⟨rfl, id, record, hrecord, rfl⟩ | ⟨queued, hqueued, hunknown, hadmits, p, rfl, hp⟩)
      · refine ⟨hsame, ?_⟩
        intro result hresult
        rw [mem_singleton.mp hresult]
        exact .inr ⟨id, record, hrecord, rfl⟩
      refine ⟨hdone s' ⟨queued, hqueued, hunknown, hadmits⟩, ?_⟩
      intro result hresult
      rw [mem_singleton.mp hresult]
      exact .inl hp
    rintro _ s' (rfl | hadmitted)
    · exact hsame
    · exact hdone s' hadmitted
  | dispatchNext now ports leases =>
    refine holds_returned (A := NewOrRetained P s.coordinator.outcomes) (holds_mono (dispatchNext_effect hpending) ?_ (fun _ _ hs => hs))
    rintro result s' ⟨hrecorded, hleaves, hterminals⟩
    refine ⟨⟨hrecorded, hleaves⟩, ?_⟩
    exact forall_mem_map.mpr (fun terminal hmem => .inl (hterminals terminal hmem))
  | dispatchTransaction id now ports leases =>
    refine holds_returned (A := NewOrRetained P s.coordinator.outcomes) (holds_mono (dispatchTransaction_effect hpending) ?_ (fun _ _ hs => hs))
    rintro result s' ⟨hrecorded, hleaves, hterminals⟩
    refine ⟨⟨hrecorded, hleaves⟩, ?_⟩
    exact forall_mem_map.mpr (fun terminal hmem => .inl (hterminals terminal hmem))
  | cancelTransaction id =>
    refine holds_returned (A := NewOrRetained P s.coordinator.outcomes) (holds_mono (cancelTransaction_effect (hcancelled id rfl)) ?_ (fun _ _ hs => hs))
    rintro terminal s' ⟨hremoves, hterminal⟩
    exact ⟨hremoves, forall_mem_singleton.mpr (.inl hterminal)⟩
  | invalidateGeneration receiverId generationId =>
    refine holds_returned (A := NewOrRetained P s.coordinator.outcomes) (holds_mono (removeMatching_effect (fun queued hq =>
      hpending.refused queued hq .staleGeneration)) ?_ (fun _ _ hs => hs))
    rintro terminals s' ⟨hremoves, hterminals⟩
    exact ⟨hremoves, forall_mem_map.mpr (fun terminal hmem => .inl (hterminals terminal hmem))⟩
  | invalidateSession sessionId =>
    refine holds_returned (A := NewOrRetained P s.coordinator.outcomes) (holds_mono (removeMatching_effect (fun queued hq =>
      hpending.refused queued hq .ownershipConflict)) ?_ (fun _ _ hs => hs))
    rintro terminals s' ⟨hremoves, hterminals⟩
    exact ⟨hremoves, forall_mem_map.mpr (fun terminal hmem => .inl (hterminals terminal hmem))⟩

end Answers

/-- A success delivered and committed every declared frame, and only a transaction that certainly
did nothing may be retried automatically. -/
def Sound : TransactionResult → Prop
  | .terminal terminal =>
    (terminal.state = .succeeded → terminal.deliveredFrames.get = terminal.declaredFrames.get ∧
      terminal.sideEffectCertainty = .committed) ∧
    (terminal.automaticRetry → terminal.liveWriteExecuted = false ∧
      terminal.deliveredFrames.get = 0 ∧ terminal.sideEffectCertainty = .none)
  | _ => True

section Soundness

variable {T : Type} [ReceiverTransport T]

theorem classifyReceipt_succeeded {receipt : TransportReceipt} {declared : FrameCount}
    (h : (classifyReceipt receipt declared).1 = .succeeded) :
    (classifyReceipt receipt declared).2.2.deliveredFrames.get = declared.get ∧
      (classifyReceipt receipt declared).2.2.sideEffectCertainty = .committed := by
  unfold classifyReceipt at h ⊢
  dsimp only at h ⊢
  split at h
  · cases h
  next hmore =>
    rw [if_neg hmore]
    cases hterminal : receipt.terminal with
    | delivered =>
      simp only [hterminal] at h ⊢
      split at h
      next hall =>
        rw [if_pos hall]
        exact ⟨hall.1, hall.2.1⟩
      · cases h
    | failed | revoked =>
      rw [hterminal] at h
      cases h

theorem reconcileOrDispatch_succeeded {transport : T} {dispatch : TransportDispatch} {declared : FrameCount}
    (h : (reconcileOrDispatch transport dispatch declared).1.1 = .succeeded) :
    (reconcileOrDispatch transport dispatch declared).1.2.2.deliveredFrames.get = declared.get ∧
      (reconcileOrDispatch transport dispatch declared).1.2.2.sideEffectCertainty = .committed := by
  unfold reconcileOrDispatch at h ⊢
  cases hreconcile : ReceiverTransport.reconcile transport dispatch with
  | notObserved =>
    simp only [hreconcile] at h ⊢
    split at h
    · exact classifyReceipt_succeeded h
    · cases h
  | retained receipt =>
    simp only [hreconcile] at h ⊢
    exact classifyReceipt_succeeded h
  | retainedFailure | evicted | unavailable | conflict =>
    rw [hreconcile] at h
    cases h

theorem FinishedAs.sound {queued : QueuedTransaction} {state : TransactionState}
    {errorKind : Option ProtocolErrorKind} {supersededBy : Option TransactionId}
    {facts : TransportFailureFacts} {terminal : TransactionTerminal}
    (h : FinishedAs queued state errorKind supersededBy facts terminal)
    (hanswer : ConsistentAnswer (state, errorKind, facts))
    (hsuccess : state = .succeeded → ∀ declared, declaredFrames queued = .ok declared →
      facts.deliveredFrames.get = declared.get ∧ facts.sideEffectCertainty = .committed) :
    Sound (.terminal terminal) := by
  have hconsistent := h.consistent hanswer
  obtain ⟨declared, sequence, hdeclared, rfl⟩ := h
  refine ⟨fun hstate => hsuccess hstate declared hdeclared, fun hretry => ?_⟩
  obtain ⟨hlive, hdelivered, hcertainty, _⟩ := hconsistent.retry hretry
  exact ⟨hlive, hdelivered, hcertainty⟩

theorem produces_sound (entries : List QueuedTransaction) : Produces T Sound entries := by
  refine ⟨?_, ?_, fun _ _ _ _ _ _ => trivial, ?_⟩
  · intro queued _ kind terminal hfinished
    exact hfinished.sound (unsent_consistent (some kind) (.inl rfl)) (fun hstate => by cases hstate)
  · intro queued _ successor terminal hfinished
    exact hfinished.sound (unsent_consistent none (.inr rfl)) (fun hstate => by cases hstate)
  intro queued _ transport declared terminal hdeclared hfinished
  refine hfinished.sound (reconcileOrDispatch_consistent transport queued.toDispatch declared) ?_
  intro hstate declared' hdeclared'
  rw [hdeclared] at hdeclared'
  cases hdeclared'
  exact reconcileOrDispatch_succeeded hstate

end Soundness

structure Logged (T : Type) where
  inner : T
  calls : List TransportDispatch

instance {T : Type} [ReceiverTransport T] : ReceiverTransport (Logged T) where
  currentGeneration transport := ReceiverTransport.currentGeneration transport.inner
  writeAvailable transport := ReceiverTransport.writeAvailable transport.inner
  reconcile transport := ReceiverTransport.reconcile transport.inner
  dispatch transport dispatch :=
    let (answer, inner) := ReceiverTransport.dispatch transport.inner dispatch
    (answer, ⟨inner, transport.calls ++ [dispatch]⟩)

section Audit

variable {T : Type} [ReceiverTransport T] [CanonicalDigests]

/-- The state a step starts in, with nothing noted yet. -/
def CoordinatorStep.before (step : CoordinatorStep T) (c : TransactionCoordinator) : CoordinatorState (Logged T) :=
  ⟨c, step.events, ⟨step.transport, []⟩⟩

def CoordinatorStep.after (step : CoordinatorStep T) (c : TransactionCoordinator) : CoordinatorState (Logged T) :=
  step.op.apply (step.before c)

def CoordinatorStep.calls (step : CoordinatorStep T) (c : TransactionCoordinator) : List TransportDispatch :=
  (step.after c).transport.calls

def CoordinatorStep.admits (step : CoordinatorStep T) (c : TransactionCoordinator) : Multiset QueuedTransaction :=
  (step.after c).coordinator.queue.pending - c.queue.pending

/-- The runs from `start`, with the entries that joined the queue and the dispatches the transport
was asked for along the way. -/
inductive AuditedRun (T : Type) [ReceiverTransport T] [CanonicalDigests] (start : TransactionCoordinator) :
    TransactionCoordinator → Multiset QueuedTransaction → Multiset TransportDispatch → Prop
  | start : AuditedRun T start start 0 0
  | step {c : TransactionCoordinator} {admitted : Multiset QueuedTransaction}
      {calls : Multiset TransportDispatch} (step : CoordinatorStep T) :
      AuditedRun T start c admitted calls →
      AuditedRun T start (step.after c).coordinator (admitted + step.admits c) (calls + step.calls c)

/-- The call is a dispatch with these arguments. -/
def CoordinatorOp.dispatchesWith (op : CoordinatorOp) (now : MonotonicMs) (ports : Authorities)
    (leases : LeaseManager) : Prop :=
  op = .dispatchNext now ports leases ∨ ∃ id, op = .dispatchTransaction id now ports leases

/-- What a step may do: it queues only a submission that the journal knows nothing of, it asks for
at most one dispatch, of an entry that waits and has everything in place, the journal then has that
transaction, and its answers are sound. -/
structure CoordinatorStep.Authorized (step : CoordinatorStep T) (c : TransactionCoordinator) :
    Prop where
  admission : ∀ queued ∈ step.admits c, Unknown c.outcomes queued ∧
    ∃ request binding now ports leases,
      step.op = .submit request binding now ports leases ∧ SubmittedAs request binding queued
  single : (step.calls c).length ≤ 1
  write : ∀ call ∈ step.calls c, ∃ queued ∈ c.queue.pending, call = queued.toDispatch ∧
    (∃ now ports leases, step.op.dispatchesWith now ports leases ∧
      WriteAuthorized queued now ports leases step.transport) ∧
    (step.after c).coordinator.outcomes.retained[queued.id]?.isSome
  sound : ∀ result ∈ step.op.answers (step.before c), Sound result

/-- The calls noted and the entries that still wait are covered by the entries that waited and
those that joined. -/
def CoordinatorStep.Covered (step : CoordinatorStep T) (c : TransactionCoordinator) : Prop :=
  (step.calls c : Multiset TransportDispatch) +
      Multiset.map QueuedTransaction.toDispatch (step.after c).coordinator.queue.pending ≤
    Multiset.map QueuedTransaction.toDispatch ((c.queue.pending : Multiset QueuedTransaction) + step.admits c)

omit [CanonicalDigests] in
theorem WriteAuthorized.of_logged {queued : QueuedTransaction} {now : MonotonicMs}
    {ports : Authorities} {leases : LeaseManager} {transport : Logged T}
    (h : WriteAuthorized queued now ports leases transport) :
    WriteAuthorized queued now ports leases transport.inner :=
  ⟨h.session, h.lease, h.generation, h.available, h.supported, h.profiles, h.ready, h.deadline, h.unobserved⟩

variable {step : CoordinatorStep T} {c : TransactionCoordinator}

theorem CoordinatorStep.quiet (h : (step.after c).transport = (step.before c).transport) :
    step.calls c = [] ∧ step.Covered c := by
  have hcalls : step.calls c = [] := congrArg Logged.calls h
  refine ⟨hcalls, ?_⟩
  unfold Covered
  rw [hcalls, Multiset.coe_nil, zero_add]
  exact Multiset.map_le_map le_add_tsub

theorem CoordinatorStep.admits_eq_zero
    (h : ((step.after c).coordinator.queue.pending : Multiset QueuedTransaction) ≤ c.queue.pending) :
    step.admits c = 0 :=
  tsub_eq_zero_of_le h

/-- A step that takes one entry out and asks for its dispatch. -/
theorem CoordinatorStep.covered_of_write {queued : QueuedTransaction} (hcalls : step.calls c = [queued.toDispatch])
    (hle : queued ::ₘ ((step.after c).coordinator.queue.pending : Multiset QueuedTransaction) ≤
      c.queue.pending) : step.Covered c := by
  unfold Covered
  rw [hcalls, Multiset.coe_singleton, Multiset.singleton_add, ← Multiset.map_cons]
  exact Multiset.map_le_map (hle.trans (Multiset.le_add_right _ _))

/-- What a dispatch step did, read off its effect. -/
theorem CoordinatorStep.leaves_authorized {now : MonotonicMs} {ports : Authorities}
    {leases : LeaseManager} (hop : step.op.dispatchesWith now ports leases)
    (h : Leaves now ports leases (step.before c) (step.after c)) :
    step.admits c = 0 ∧ (step.calls c).length ≤ 1 ∧ step.Covered c ∧
      ∀ call ∈ step.calls c, ∃ queued ∈ c.queue.pending, call = queued.toDispatch ∧
        (∃ now ports leases, step.op.dispatchesWith now ports leases ∧
          WriteAuthorized queued now ports leases step.transport) ∧
        (step.after c).coordinator.outcomes.retained[queued.id]?.isSome := by
  rcases h with ⟨hsame, hle⟩ | ⟨queued, hwrites, hle⟩
  · obtain ⟨hcalls, hcovered⟩ := quiet hsame
    refine ⟨admits_eq_zero hle, ?_, hcovered, ?_⟩
    · rw [hcalls]
      exact Nat.zero_le _
    rw [hcalls]
    simp
  have hrest := (Multiset.le_cons_self _ queued).trans hle
  refine ⟨admits_eq_zero hrest, ?_⟩
  rcases hwrites with hsame | ⟨hauthorized, hmoved, hretained⟩
  · obtain ⟨hcalls, hcovered⟩ := quiet hsame
    rw [hcalls]
    exact ⟨Nat.zero_le _, hcovered, by simp⟩
  have hcalls : step.calls c = [queued.toDispatch] := congrArg Logged.calls hmoved
  refine ⟨by rw [hcalls]; exact le_refl _, covered_of_write hcalls hle, ?_⟩
  intro call hcall
  rw [hcalls, mem_singleton] at hcall
  exact ⟨queued, Multiset.mem_of_le hle (Multiset.mem_cons_self _ _), hcall,
    ⟨now, ports, leases, hop, hauthorized.of_logged⟩, hretained⟩

def AllAccepted (P : TransactionResult → Prop) (journal : BoundedOutcomeJournal) : Prop :=
  (∀ result ∈ journal.accepted, P result) ∧ ∀ (id : TransactionId) (record : OutcomeRecord),
    journal.retained[id]? = some record → record.result ∈ journal.accepted

section
omit [ReceiverTransport T] [CanonicalDigests]

theorem record_accepted {journal journal' : BoundedOutcomeJournal} {clientId : ClientId}
    {result : TransactionResult} (h : journal.record clientId result = .ok journal') :
    journal'.accepted = journal.accepted ++ [result] ∧
      ∀ (id : TransactionId) (record : OutcomeRecord), journal'.retained[id]? = some record →
        journal.retained[id]? = some record ∨ record.result = result := by
  unfold BoundedOutcomeJournal.record at h
  split at h
  · split at h
    · split at h
      · cases h
      split at h
      · split at h
        · cases h; exact ⟨rfl, fun _ _ hr => .inl hr⟩
        · cases h
      split at h
      · cases h
      cases h
      refine ⟨rfl, fun id record hr => ?_⟩
      rw [getElem?_store] at hr
      split at hr
      · cases hr; exact .inr rfl
      · exact .inl hr
    split at h
    · cases h
    split at h
    · cases h
    next journal₁ hevict =>
      cases h
      obtain ⟨haccepted, hkeep⟩ := evictTerminal_spec hevict
      refine ⟨by simp [BoundedOutcomeJournal.store, haccepted], fun id record hr => ?_⟩
      rw [getElem?_store] at hr
      split at hr
      · cases hr; exact .inr rfl
      rcases hkeep id with hsame | ⟨hnone, _⟩
      · exact .inl (hsame ▸ hr)
      rw [hnone] at hr
      cases hr
  · cases h

theorem Recordings.allAccepted {P : TransactionResult → Prop} {journal journal' : BoundedOutcomeJournal}
    (h : Recordings P journal journal') (hall : AllAccepted P journal) : AllAccepted P journal' := by
  induction h with
  | nil => exact hall
  | record _ hresult hrecord ih =>
    obtain ⟨haccepted, hretained⟩ := record_accepted hrecord
    rw [AllAccepted, haccepted]
    constructor
    · intro result hmem
      rcases mem_append.mp hmem with hold | hnew
      · exact ih.1 result hold
      rw [mem_singleton.mp hnew]
      exact hresult
    intro id record hr
    rcases hretained id record hr with hold | hnew
    · exact mem_append_left _ (ih.2 id record hold)
    · exact mem_append_right _ (mem_singleton.mpr hnew)

end

omit [CanonicalDigests] in
theorem NewOrRetained.property {P : TransactionResult → Prop} {journal : BoundedOutcomeJournal}
    {result : TransactionResult} (h : NewOrRetained P journal result) (hall : AllAccepted P journal) :
    P result := by
  rcases h with hnew | ⟨id, record, hrecord, rfl⟩
  · exact hnew
  · exact hall.1 _ (hall.2 id record hrecord)

theorem CoordinatorStep.after_authorized (step : CoordinatorStep T) (hall : AllAccepted Sound c.outcomes) :
    step.Authorized c ∧ step.Covered c ∧ AllAccepted Sound (step.after c).coordinator.outcomes := by
  have hcancelled : ∀ id, step.op = .cancelTransaction id → ∀ queued ∈ c.queue.pending,
      queued.id = id → ∀ terminal, FinishedAs queued .revoked none none unsentFacts terminal →
        Sound (.terminal terminal) := by
    intro _ _ queued _ _ terminal hfinished
    exact hfinished.sound (unsent_consistent none (.inl rfl)) (fun hstate => by cases hstate)
  obtain ⟨⟨hrecorded, htouches⟩, hanswers⟩ := CoordinatorOp.apply_effect (s := step.before c)
    (fun entries _ => produces_sound (T := Logged T) entries) hcancelled
  have hsound : ∀ result ∈ step.op.answers (step.before c), Sound result :=
    fun result hresult => (hanswers result hresult).property hall
  have hdispatch : ∀ now ports leases, step.op.dispatchesWith now ports leases →
      Leaves now ports leases (step.before c) (step.after c) → step.Authorized c ∧ step.Covered c := by
    intro now ports leases hop hleaves
    obtain ⟨hadmits, hsingle, hcovered, hwrite⟩ := leaves_authorized hop hleaves
    refine ⟨⟨?_, hsingle, hwrite, hsound⟩, hcovered⟩
    rw [hadmits]
    simp
  have hquiet : (step.after c).transport = (step.before c).transport →
      (∀ queued ∈ step.admits c, Unknown c.outcomes queued ∧ ∃ request binding now ports leases,
        step.op = .submit request binding now ports leases ∧ SubmittedAs request binding queued) →
      step.Authorized c ∧ step.Covered c := by
    intro hsame hadmission
    obtain ⟨hcalls, hcovered⟩ := quiet hsame
    refine ⟨⟨hadmission, ?_, ?_, hsound⟩, hcovered⟩
    · rw [hcalls]
      exact Nat.zero_le _
    rw [hcalls]
    simp
  have hremoves : (step.after c).transport = (step.before c).transport →
      ((step.after c).coordinator.queue.pending : Multiset QueuedTransaction) ≤ c.queue.pending →
      step.Authorized c ∧ step.Covered c := by
    intro hsame hle
    refine hquiet hsame ?_
    rw [admits_eq_zero hle]
    simp
  rw [← and_assoc]
  refine ⟨?_, hrecorded.allAccepted hall⟩
  change step.op.Touches (step.before c) (step.after c) at htouches
  cases hop : step.op with
  | submit request binding now ports leases =>
    rw [hop] at htouches
    obtain ⟨hsame, hle | ⟨queued, hqueued, hunknown, hle⟩⟩ := htouches
    · exact hremoves hsame hle
    refine hquiet hsame ?_
    intro q hq
    have hadmits : step.admits c ≤ {queued} := by
      refine tsub_le_iff_left.mpr (hle.trans ?_)
      rw [← Multiset.singleton_add, add_comm]
      exact le_refl _
    rw [Multiset.mem_singleton.mp (Multiset.mem_of_le hadmits hq)]
    exact ⟨hunknown, request, binding, now, ports, leases, hop, hqueued⟩
  | dispatchNext now ports leases =>
    rw [hop] at htouches
    exact hdispatch now ports leases (.inl hop) htouches
  | dispatchTransaction id now ports leases =>
    rw [hop] at htouches
    exact hdispatch now ports leases (.inr ⟨id, hop⟩) htouches
  | cancelTransaction | invalidateGeneration | invalidateSession =>
    rw [hop] at htouches
    exact hremoves htouches.1 htouches.2

omit [ReceiverTransport T] [CanonicalDigests] in
theorem TransactionCoordinator.new_empty {capacity : Nat} (h : TransactionCoordinator.new capacity = .ok c) :
    c.outcomes.accepted = [] ∧ (∀ id : TransactionId, c.outcomes.retained[id]? = none) ∧
      c.queue.pending = [] := by
  unfold TransactionCoordinator.new at h
  split at h
  · cases h
  next hrange =>
    have hrange := not_not.mp hrange
    simp only [BoundedTransactionQueue.new, BoundedOutcomeJournal.new, hrange, and_self,
      ↓reduceDIte, Except.ok.injEq] at h
    subst h
    exact ⟨rfl, fun _ => rfl, rfl⟩

/-- The dispatches asked for and the entries that wait are among the entries ever admitted. -/
structure Audited (c : TransactionCoordinator) (admitted : Multiset QueuedTransaction)
    (calls : Multiset TransportDispatch) : Prop where
  accepted : AllAccepted Sound c.outcomes
  covered : calls + Multiset.map QueuedTransaction.toDispatch c.queue.pending ≤
    Multiset.map QueuedTransaction.toDispatch admitted

theorem CoordinatorStep.audited {admitted : Multiset QueuedTransaction}
    {calls : Multiset TransportDispatch} (step : CoordinatorStep T) (h : Audited c admitted calls) :
    Audited (step.after c).coordinator (admitted + step.admits c) (calls + step.calls c) := by
  obtain ⟨_, hcovered, haccepted⟩ := step.after_authorized h.accepted
  refine ⟨haccepted, ?_⟩
  unfold Covered at hcovered
  rw [Multiset.map_add] at hcovered ⊢
  calc calls + step.calls c + Multiset.map QueuedTransaction.toDispatch (step.after c).coordinator.queue.pending
      ≤ calls + (Multiset.map QueuedTransaction.toDispatch c.queue.pending +
          Multiset.map QueuedTransaction.toDispatch (step.admits c)) := by
        rw [add_assoc]
        exact add_le_add_right hcovered calls
    _ ≤ Multiset.map QueuedTransaction.toDispatch admitted +
          Multiset.map QueuedTransaction.toDispatch (step.admits c) := by
        rw [← add_assoc]
        exact add_le_add_left h.covered _

/-- In every run the transport is asked for at most one dispatch per admission, every step does only
what it is authorized to do, and every recorded result is sound. -/
theorem auditedRun_authorized {capacity : Nat} {start : TransactionCoordinator}
    {admitted : Multiset QueuedTransaction} {calls : Multiset TransportDispatch}
    (hnew : TransactionCoordinator.new capacity = .ok start)
    (hrun : AuditedRun T start c admitted calls) :
    calls ≤ Multiset.map QueuedTransaction.toDispatch admitted ∧
      (∀ result ∈ c.outcomes.accepted, Sound result) ∧ ∀ step : CoordinatorStep T, step.Authorized c := by
  have haudited : Audited c admitted calls := by
    induction hrun with
    | start =>
      obtain ⟨haccepted, hretained, hpending⟩ := TransactionCoordinator.new_empty hnew
      refine ⟨⟨?_, ?_⟩, ?_⟩
      · rw [haccepted]
        simp
      · intro id record hrecord
        rw [hretained id] at hrecord
        cases hrecord
      rw [hpending]
      exact le_refl _
    | step step _ ih => exact step.audited ih
  refine ⟨(Multiset.le_add_right _ _).trans haudited.covered, haudited.accepted.1, ?_⟩
  intro step
  exact (step.after_authorized haudited.accepted).1

end Audit

/-- A transport that answers truthfully for the dispatches it was asked for before. -/
structure TruthfulTransport where
  seen : List TransportDispatch

def truthfulReceipt : TransportReceipt :=
  ⟨.delivered, .lit 1, .committed, true, false, .unverified⟩

instance : ReceiverTransport TruthfulTransport where
  currentGeneration _ _ := some sampleGeneration
  writeAvailable _ _ _ := true
  reconcile transport dispatch :=
    if dispatch ∈ transport.seen then .retained truthfulReceipt else .notObserved
  dispatch transport dispatch := (.ok truthfulReceipt, ⟨transport.seen ++ [dispatch]⟩)

/-- The sample frame is written at time five. -/
def sampleFinish : CoordinatorStep FixedTransport :=
  ⟨.dispatchNext (.lit 5) sampleAuthorities sampleLeases, sampleLog,
    { sampleTransport with written := .ok truthfulReceipt }⟩

/-- The sample frame is submitted, submitted again while it waits, and written. -/
def sampleFinished : TransactionCoordinator :=
  letI := sampleDigests
  sampleFinish.run (sampleSubmit.run (sampleSubmit.run emptyCoordinator))

def sampleTerminal : TransactionTerminal :=
  terminalOf ⟨sampleRequest, sampleDigest, .lit "session", .lit 1, .lit 1, .enqueued⟩
    .succeeded none none truthfulReceipt.facts (.lit 1) (.lit 1)

def sampleNamed (name : Text 1 128) : TransactionRequest :=
  { sampleRequest with requestId := name, transactionId := name }

def sampleBound (nonce : DispatchNonce) : SubmissionBinding :=
  ⟨.lit "session", .lit 1, nonce⟩

def sampleRound (name : Text 1 128) (nonce : DispatchNonce) (seen : List TransportDispatch) :
    List (CoordinatorStep TruthfulTransport) :=
  [⟨.submit (sampleNamed name) (sampleBound nonce) (.lit 0) sampleAuthorities
      sampleLeases, sampleLog, ⟨seen⟩⟩,
    ⟨.dispatchNext (.lit 0) sampleAuthorities sampleLeases, sampleLog, ⟨seen⟩⟩]

section SampleRuns

variable {T : Type} [ReceiverTransport T] [CanonicalDigests]

def CoordinatorStep.audit
    (run : TransactionCoordinator × Multiset QueuedTransaction × Multiset TransportDispatch)
    (step : CoordinatorStep T) :
    TransactionCoordinator × Multiset QueuedTransaction × Multiset TransportDispatch :=
  ((step.after run.1).coordinator, run.2.1 + step.admits run.1, run.2.2 + step.calls run.1)

theorem auditedRun_foldl {start : TransactionCoordinator} (steps : List (CoordinatorStep T))
    (run : TransactionCoordinator × Multiset QueuedTransaction × Multiset TransportDispatch)
    (h : AuditedRun T start run.1 run.2.1 run.2.2) :
    AuditedRun T start (steps.foldl CoordinatorStep.audit run).1
      (steps.foldl CoordinatorStep.audit run).2.1 (steps.foldl CoordinatorStep.audit run).2.2 := by
  induction steps generalizing run with
  | nil => exact h
  | cons step steps ih => exact ih _ (.step step h)

end SampleRuns

def sampleDispatched (name : Text 1 128) (nonce : DispatchNonce) : TransportDispatch :=
  QueuedTransaction.toDispatch ⟨sampleNamed name, sampleDigest, .lit "session",
    .lit 1, nonce, .enqueued⟩

/-- Four rounds on a coordinator that remembers one outcome and one evicted outcome: the first
transaction is forgotten by the time it comes again. -/
def forgettingRun : List (CoordinatorStep TruthfulTransport) :=
  let first : TransactionId := .lit "first"
  let second : TransactionId := .lit "second"
  let third : TransactionId := .lit "third"
  let seen := [sampleDispatched first (.lit 1),
    sampleDispatched second (.lit 2), sampleDispatched third (.lit 3)]
  sampleRound first (.lit 1) [] ++
    sampleRound second (.lit 2) (seen.take 1) ++
    sampleRound third (.lit 3) (seen.take 2) ++
    sampleRound first (.lit 4) seen

theorem auditedRun_authorized_sample :
    letI := sampleDigests
    TransactionCoordinator.new 1 = .ok emptyCoordinator ∧
      (forgettingRun.foldl CoordinatorStep.audit (emptyCoordinator, 0, 0)).2.2 ≤
        Multiset.map QueuedTransaction.toDispatch
          (forgettingRun.foldl CoordinatorStep.audit (emptyCoordinator, 0, 0)).2.1 := by
  let _ := sampleDigests
  have hnew : TransactionCoordinator.new 1 = .ok emptyCoordinator := rfl
  exact ⟨hnew, (auditedRun_authorized hnew (auditedRun_foldl forgettingRun (emptyCoordinator, 0, 0) .start)).1⟩

/-- Over the whole run one transaction id is dispatched twice. -/
theorem coordinator_dispatches_forgotten_transaction :
    letI := sampleDigests
    TransactionCoordinator.new 1 = .ok emptyCoordinator ∧
      ¬ ∀ c admitted calls, AuditedRun TruthfulTransport emptyCoordinator c admitted calls →
        ∀ id : TransactionId, Multiset.countP (fun call => call.transactionId = id) calls ≤ 1 := by
  let _ := sampleDigests
  refine ⟨rfl, fun h => ?_⟩
  have hrun := auditedRun_foldl forgettingRun (emptyCoordinator, 0, 0) .start
  have htwice : Multiset.countP (fun call => call.transactionId = (.lit "first"))
      (forgettingRun.foldl CoordinatorStep.audit (emptyCoordinator, 0, 0)).2.2 = 2 := by
    decide +kernel
  have honce := h _ _ _ hrun (.lit "first")
  rw [htwice] at honce
  omega

end HyperfluxNext
