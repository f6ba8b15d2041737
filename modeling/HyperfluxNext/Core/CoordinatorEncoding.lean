import HyperfluxNext.Core.CoordinatorAudit
import HyperfluxNext.Protocol.Canonical

namespace HyperfluxNext

open TransactionCoordinator Procedure

structure EncodableAnswer (answer : ClassifiedTransport) (declared : FrameCount) : Prop where
  frames : answer.2.2.deliveredFrames.get ≤ declared.get
  consistent : ConsistentAnswer answer
  detail : (answer.1 = .succeeded ∧ answer.2.1 = none) ∨
    ((answer.1 = .failed ∨ answer.1 = .revoked) ∧ answer.2.1.isSome)

theorem normalizeFacts_frames (facts : TransportFailureFacts) (declared : FrameCount) :
    (normalizeFacts facts declared).deliveredFrames.get ≤ declared.get := by
  have hle : min facts.deliveredFrames.get declared.get ≤ 4096 :=
    Nat.le_trans (Nat.min_le_right _ _) declared.upper
  simp only [normalizeFacts, Bounded.tryFrom_of_mem (Nat.zero_le _) hle, Option.getD_some]
  exact Nat.min_le_right _ _

theorem classifyReceipt_encodable (receipt : TransportReceipt) (declared : FrameCount) :
    EncodableAnswer (classifyReceipt receipt declared) declared := by
  have hframes := normalizeFacts_frames receipt.facts declared
  refine ⟨?_, classifyReceipt_consistent receipt declared, ?_⟩
  · unfold classifyReceipt
    dsimp only
    split
    · exact hframes
    split
    · split <;> exact hframes
    · exact hframes
    · exact hframes
  unfold classifyReceipt
  dsimp only
  split
  · simp
  split
  · split <;> simp
  · simp
  · simp

theorem classifyFailure_encodable (facts : TransportFailureFacts) (declared : FrameCount) :
    EncodableAnswer (classifyFailure facts declared) declared :=
  ⟨normalizeFacts_frames facts declared, classifyFailure_consistent facts declared, .inr ⟨.inl rfl, rfl⟩⟩

theorem unknown_encodable (errorKind : ProtocolErrorKind) (declared : FrameCount) :
    EncodableAnswer (.failed, some errorKind, unknownSideEffectFacts) declared :=
  ⟨Nat.zero_le _, unknown_consistent errorKind, .inr ⟨.inl rfl, rfl⟩⟩

section Producers

variable {T : Type} [ReceiverTransport T]

theorem reconcileOrDispatch_encodable (transport : T) (dispatch : TransportDispatch) (declared : FrameCount) :
    EncodableAnswer (reconcileOrDispatch transport dispatch declared).1 declared := by
  unfold reconcileOrDispatch
  split
  · split
    · exact classifyReceipt_encodable _ _
    · exact classifyFailure_encodable _ _
  · exact classifyReceipt_encodable _ _
  · exact classifyFailure_encodable _ _
  all_goals exact unknown_encodable _ _

theorem encodable_terminalOf {queued : QueuedTransaction} {state : TransactionState}
    {errorKind : Option ProtocolErrorKind} {supersededBy : Option TransactionId}
    {facts : TransportFailureFacts} {declared : FrameCount} {sequence : SequenceNumber}
    (hframes : facts.deliveredFrames.get ≤ declared.get)
    (hanswer : ConsistentAnswer (state, errorKind, facts))
    (hdetail : TerminalDetail (terminalOf queued state errorKind supersededBy facts declared sequence)) :
    Encodable (.terminal (terminalOf queued state errorKind supersededBy facts declared sequence)) := by
  have hconsistent := hanswer.terminal queued supersededBy declared sequence
  refine encodable_terminal hframes ?_ ?_ hdetail
  · intro hlive
    constructor
    · by_contra hne
      have := hconsistent.delivered (Nat.pos_of_ne_zero hne)
      rw [hlive] at this
      cases this
    by_contra hne
    have := hconsistent.effect hne
    rw [hlive] at this
    cases this
  intro hretry
  obtain ⟨hlive, _, hcertainty, _⟩ := hconsistent.retry hretry
  exact ⟨hlive, hcertainty⟩

theorem produces_encodable (entries : List QueuedTransaction) : Produces T Encodable entries := by
  refine ⟨?_, ?_, ?_, ?_⟩
  · rintro queued _ kind terminal ⟨declared, sequence, _, rfl⟩
    refine encodable_terminalOf (Nat.zero_le _) (unsent_consistent (some kind) (.inl rfl)) ?_
    exact .inr (.inl ⟨.inr rfl, rfl, rfl⟩)
  · rintro queued _ successor terminal ⟨declared, sequence, _, rfl⟩
    refine encodable_terminalOf (Nat.zero_le _) (unsent_consistent none (.inr rfl)) ?_
    exact .inr (.inr ⟨rfl, rfl, rfl, rfl⟩)
  · intro queued _ state p hstate hp
    obtain ⟨declared, _, rfl⟩ := progress_fields hp
    refine encodable_progress ?_ rfl rfl
    rcases hstate with rfl | rfl <;> simp
  rintro queued _ transport declared terminal hdeclared ⟨declared', sequence, hdeclared', rfl⟩
  rw [hdeclared] at hdeclared'
  cases hdeclared'
  obtain ⟨hframes, hconsistent, hdetail⟩ := reconcileOrDispatch_encodable transport queued.toDispatch declared
  refine encodable_terminalOf hframes hconsistent ?_
  rcases hdetail with ⟨hstate, herror⟩ | ⟨hstate, herror⟩
  · exact .inl ⟨hstate, herror, rfl⟩
  · exact .inr (.inl ⟨hstate, herror, rfl⟩)

variable [CanonicalDigests]

def CancelsNothingQueued (c : TransactionCoordinator) (op : CoordinatorOp) : Prop :=
  ∀ id, op = .cancelTransaction id → ∀ queued ∈ c.queue.pending, queued.id ≠ id

theorem CoordinatorStep.run_encodable {c : TransactionCoordinator} (step : CoordinatorStep T)
    (hall : AllAccepted Encodable c.outcomes) (hcancel : CancelsNothingQueued c step.op) :
    AllAccepted Encodable (step.run c).outcomes ∧
      ∀ result ∈ step.op.answers ⟨c, step.events, step.transport⟩, Encodable result := by
  have hcancelled : ∀ id, step.op = .cancelTransaction id → ∀ queued ∈ c.queue.pending,
      queued.id = id → ∀ terminal, FinishedAs queued .revoked none none unsentFacts terminal →
        Encodable (.terminal terminal) := by
    intro id hop queued hqueued hid
    exact absurd hid (hcancel id hop queued hqueued)
  obtain ⟨⟨hrecorded, _⟩, hanswers⟩ := CoordinatorOp.apply_effect
    (s := ⟨c, step.events, step.transport⟩) (fun entries _ => produces_encodable (T := T) entries)
    hcancelled
  exact ⟨hrecorded.allAccepted hall, fun result hresult => (hanswers result hresult).property hall⟩

/-- In every run that cancels no queued transaction each result recorded, each result a lookup
answers with and each result a call returns can be encoded. -/
theorem coordinatorReach_encodable {capacity : Nat} {start c : TransactionCoordinator}
    (hnew : new capacity = .ok start)
    (hrun : CoordinatorReach (fun c (step : CoordinatorStep T) => CancelsNothingQueued c step.op) start c) :
    (∀ result ∈ c.outcomes.accepted, Encodable result) ∧
      (∀ clientId transactionId result,
        c.outcomes.lookup clientId transactionId = .retained result → Encodable result) ∧
      ∀ step : CoordinatorStep T, CancelsNothingQueued c step.op →
        ∀ result ∈ step.op.answers ⟨c, step.events, step.transport⟩, Encodable result := by
  have hall : AllAccepted Encodable c.outcomes := by
    induction hrun with
    | start =>
      obtain ⟨haccepted, hretained, _⟩ := new_empty hnew
      refine ⟨?_, ?_⟩
      · rw [haccepted]
        simp
      intro id record hrecord
      rw [hretained id] at hrecord
      cases hrecord
    | step _ hok ih => exact (CoordinatorStep.run_encodable _ ih hok).1
  refine ⟨hall.1, ?_, fun step hok => (step.run_encodable hall hok).2⟩
  intro clientId transactionId result hlookup
  obtain ⟨record, hrecord, _, rfl⟩ := lookup_retained hlookup
  exact hall.1 _ (hall.2 transactionId record hrecord)

end Producers

/-- A lookup that answers with a result the encoder refuses. -/
def OutcomeLookup.isUnencodable : OutcomeLookup → Bool
  | .retained result => decide (¬ Encodable result)
  | _ => false

def sampleCancel : CoordinatorStep FixedTransport :=
  ⟨.cancelTransaction sampleRequest.transactionId, sampleLog, sampleTransport⟩

/-- The written frame is submitted once more: its terminal is looked up and answered. -/
theorem coordinatorReach_encodable_sample :
    letI := sampleDigests
    .terminal sampleTerminal ∈ sampleFinished.outcomes.accepted ∧
      sampleFinished.outcomes.lookup sampleRequest.clientId sampleRequest.transactionId =
        .retained (.terminal sampleTerminal) ∧
      sampleSubmit.op.answers ⟨sampleFinished, sampleLog, sampleTransport⟩ = [.terminal sampleTerminal] ∧
      Encodable (.terminal sampleTerminal) := by
  let _ := sampleDigests
  have hnew : new 1 = .ok emptyCoordinator := rfl
  have hfinished : CoordinatorReach (fun c (step : CoordinatorStep FixedTransport) =>
      CancelsNothingQueued c step.op) emptyCoordinator sampleFinished := by
    refine .step (.step (.step .start ?_) ?_) ?_
    all_goals
      intro id hop
      cases hop
  have hlookup : sampleFinished.outcomes.lookup sampleRequest.clientId
      sampleRequest.transactionId = .retained (.terminal sampleTerminal) := by
    decide +kernel
  exact ⟨by decide +kernel, hlookup, by decide +kernel,
    (coordinatorReach_encodable hnew hfinished).2.1 _ _ _ hlookup⟩

/-- A submitted transaction is cancelled: the terminal that is recorded, and that a lookup of the
client answers with, has no encoding. -/
theorem coordinator_records_unencodable_cancellation :
    letI := sampleDigests
    new 1 = .ok emptyCoordinator ∧
      ¬ ∀ c, CoordinatorReach (fun _ (_ : CoordinatorStep FixedTransport) => True) emptyCoordinator c →
        ∀ clientId transactionId result,
          c.outcomes.lookup clientId transactionId = .retained result → Encodable result := by
  let _ := sampleDigests
  refine ⟨rfl, fun h => ?_⟩
  set cancelled := sampleCancel.run (sampleSubmit.run emptyCoordinator)
  have hreach : CoordinatorReach (fun _ (_ : CoordinatorStep FixedTransport) => True)
      emptyCoordinator cancelled := .step (.step .start trivial) trivial
  have hanswer : (cancelled.outcomes.lookup sampleRequest.clientId
      sampleRequest.transactionId).isUnencodable := by
    decide +kernel
  cases hlookup : cancelled.outcomes.lookup sampleRequest.clientId sampleRequest.transactionId with
  | retained result =>
    rw [hlookup] at hanswer
    have hencodable := h cancelled hreach _ _ result hlookup
    exact of_decide_eq_true hanswer hencodable
  | evicted | unknown | forbidden =>
    rw [hlookup] at hanswer
    cases hanswer

end HyperfluxNext
