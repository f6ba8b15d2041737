import Mathlib.Data.List.ReduceOption
import HyperfluxNext.Core.CoordinatorEffects
import HyperfluxNext.Restoration.Runs

namespace HyperfluxNext

open RestoreCompletion ReceiverTransport TransactionCoordinator List Procedure

/-- The facts that say whether hardware was touched. -/
structure EffectFacts where
  deliveredFrames : DeliveredFrameCount
  sideEffectCertainty : SideEffectCertainty
  liveWriteExecuted : Bool

def EffectFacts.Recorded (facts : EffectFacts) : Prop :=
  facts.liveWriteExecuted ∨ 0 < facts.deliveredFrames.get ∨ facts.sideEffectCertainty ≠ .none

def RestoreCompletion.effect (completion : RestoreCompletion) : EffectFacts :=
  ⟨completion.deliveredFrames, completion.sideEffectCertainty, completion.liveWriteExecuted⟩

def TransactionTerminal.effect (terminal : TransactionTerminal) : EffectFacts :=
  ⟨terminal.deliveredFrames, terminal.sideEffectCertainty, terminal.liveWriteExecuted⟩

def TransportFailureFacts.effect (facts : TransportFailureFacts) : EffectFacts :=
  ⟨facts.deliveredFrames, facts.sideEffectCertainty, facts.liveWriteExecuted⟩

inductive AttemptOutcome where
  | ended (terminal : TransactionTerminal)
  | answered (reconciliation : TransportReconciliation)
  | unavailable (errorKind : ProtocolErrorKind)

open AttemptOutcome

def AttemptOutcome.completion (attempt : RestoreAttempt) :
    AttemptOutcome → Except RestorationError (Option RestoreCompletion)
  | .ended terminal => (completionFromTerminal attempt terminal).map some
  | .answered reconciliation => completionFromReconciliation attempt reconciliation
  | .unavailable errorKind => .ok (some (unknownCompletion attempt errorKind))

/-- The facts as the outcome reports them; an outcome that is not known any more may have written. -/
def AttemptOutcome.reported : AttemptOutcome → EffectFacts
  | .ended terminal => terminal.effect
  | .answered .notObserved => unsentFacts.effect
  | .answered (.retained receipt) => receipt.facts.effect
  | .answered (.retainedFailure facts) => facts.effect
  | .answered _ => unknownSideEffectFacts.effect
  | .unavailable _ => unknownSideEffectFacts.effect

def EffectFacts.ofOneFrame (facts : EffectFacts) : EffectFacts :=
  if 0 < facts.deliveredFrames.get then
    ⟨.lit 1, .committed, true⟩
  else if facts.liveWriteExecuted ∧ facts.sideEffectCertainty = .none then
    ⟨zeroDelivered, .possible, true⟩
  else
    ⟨zeroDelivered, facts.sideEffectCertainty, facts.liveWriteExecuted⟩

/-- The facts a completion made from an outcome carries: those of a transaction terminal as they are,
those of a transport in the terms of the attempt's one frame. -/
def AttemptOutcome.facts : AttemptOutcome → EffectFacts
  | .answered reconciliation => (answered reconciliation).reported.ofOneFrame
  | outcome => outcome.reported

def AttemptOutcome.RevokedAsStale : AttemptOutcome → Prop
  | .ended terminal => terminal.state = .revoked ∧ terminal.errorKind = some .staleGeneration
  | .answered (.retained receipt) => receipt.terminal = .revoked
  | _ => False

structure EffectFacts.OfOneFrame (facts : EffectFacts) : Prop where
  atMostOne : facts.deliveredFrames.get ≤ 1
  committed : facts.deliveredFrames.get = 1 → facts.sideEffectCertainty = .committed ∧ facts.liveWriteExecuted
  possible : facts.liveWriteExecuted → facts.sideEffectCertainty ≠ .none

def AttemptOutcome.OfOneFrame : AttemptOutcome → Prop
  | .answered reconciliation => (answered reconciliation).reported.OfOneFrame
  | _ => True

def KeepsEvidence (outcome : AttemptOutcome) (record : RestoreRecord) : Prop :=
  outcome.reported.Recorded → ∃ completion, (record.status = .succeeded completion ∨
    record.status = .failed completion) ∧ completion.effect = outcome.reported

def KeptUnlessStale (outcome : AttemptOutcome) (record : RestoreRecord) : Prop :=
  KeepsEvidence outcome record ↔ (outcome.reported.Recorded → ¬ outcome.RevokedAsStale ∧ outcome.OfOneFrame)

theorem EffectFacts.ofOneFrame_eq_iff (facts : EffectFacts) : facts.ofOneFrame = facts ↔ facts.OfOneFrame := by
  unfold ofOneFrame
  constructor
  · intro h
    split at h
    next hpos =>
      have hdelivered := congrArg (·.deliveredFrames.get) h
      have hcertainty := congrArg (·.sideEffectCertainty) h
      have hlive := congrArg (·.liveWriteExecuted) h
      dsimp only at hdelivered hcertainty hlive
      refine ⟨by omega, fun _ => ⟨hcertainty.symm, hlive.symm⟩, fun _ => ?_⟩
      rw [← hcertainty]
      simp
    next hzero =>
      split at h
      next hpossible =>
        have hcertainty := congrArg (·.sideEffectCertainty) h
        dsimp only at hcertainty
        rw [hpossible.2] at hcertainty
        cases hcertainty
      next hnot => refine ⟨by omega, fun hone => by omega, fun hlive hnone => hnot ⟨hlive, hnone⟩⟩
  · intro h
    split
    next hpos =>
      have hone : facts.deliveredFrames.get = 1 := by
        have := h.atMostOne
        omega
      obtain ⟨hcertainty, hlive⟩ := h.committed hone
      have hdelivered : facts.deliveredFrames = (.lit 1) := Bounded.ext_get hone
      rw [← hdelivered, ← hcertainty, ← hlive]
    next hzero =>
      have hdelivered : facts.deliveredFrames = zeroDelivered :=
        Bounded.ext_get (by simp only [zeroDelivered]; omega)
      split
      next hpossible => exact absurd hpossible.2 (h.possible hpossible.1)
      · rw [← hdelivered]

theorem AttemptOutcome.facts_eq_iff (outcome : AttemptOutcome) :
    outcome.facts = outcome.reported ↔ outcome.OfOneFrame := by
  cases outcome with
  | ended | unavailable => exact ⟨fun _ => trivial, fun _ => rfl⟩
  | answered reconciliation => exact EffectFacts.ofOneFrame_eq_iff _

theorem EffectFacts.ofOneFrame_recorded {facts : EffectFacts} (h : facts.Recorded) :
    facts.ofOneFrame.Recorded := by
  unfold ofOneFrame
  split
  · exact .inl rfl
  next hzero =>
    split
    · exact .inl rfl
    rcases h with hlive | hdelivered | hcertainty
    · exact .inl hlive
    · exact absurd hdelivered hzero
    · exact .inr (.inr hcertainty)

variable {outcome : AttemptOutcome} {attempt : RestoreAttempt} {completion : RestoreCompletion}
  {record : RestoreRecord}

theorem AttemptOutcome.facts_recorded (h : outcome.reported.Recorded) : outcome.facts.Recorded := by
  cases outcome with
  | ended | unavailable => exact h
  | answered => exact EffectFacts.ofOneFrame_recorded h

theorem normalizeFacts_effect {facts normalized : TransportFailureFacts}
    (h : Restoration.normalizeFacts facts = .ok normalized) :
    normalized.effect = facts.effect.ofOneFrame := by
  unfold Restoration.normalizeFacts at h
  obtain ⟨delivered, hdelivered, h⟩ := bind_eq_ok h
  have hget : delivered.get = min facts.deliveredFrames.get 1 := by
    unfold Restoration.deliveredFrameCount at hdelivered
    split at hdelivered
    · cases hdelivered
    next count hcount =>
      cases hdelivered
      exact Bounded.get_of_tryFrom hcount
  have h := Except.ok.inj h
  rw [← h]
  unfold EffectFacts.ofOneFrame
  by_cases hpos : 0 < facts.deliveredFrames.get
  · have hmin : min facts.deliveredFrames.get 1 > 0 := by omega
    have hone : delivered = (.lit 1) := Bounded.ext_get (by rw [hget]; simp; omega)
    simp [TransportFailureFacts.effect, hpos, hmin, hone]
  have hmin : ¬ min facts.deliveredFrames.get 1 > 0 := by omega
  have hzero : delivered = zeroDelivered := Bounded.ext_get (by rw [hget]; simp only [zeroDelivered]; omega)
  by_cases hlive : facts.liveWriteExecuted = true ∧ facts.sideEffectCertainty = .none
  · simp [TransportFailureFacts.effect, hpos, hmin, hzero, hlive]
  · simp [TransportFailureFacts.effect, hpos, hmin, hzero, hlive]

theorem completionFromTerminal_fields {terminal : TransactionTerminal}
    (h : completionFromTerminal attempt terminal = .ok completion) :
    completion.effect = terminal.effect ∧ completion.state = terminal.state ∧
      completion.errorKind = terminal.errorKind := by
  unfold completionFromTerminal at h
  obtain ⟨_, _, h⟩ := bind_eq_ok h
  cases h
  exact ⟨rfl, rfl, rfl⟩

theorem completionFromReceipt_fields {receipt : TransportReceipt}
    (h : completionFromReceipt attempt receipt = .ok completion) :
    completion.effect = receipt.facts.effect.ofOneFrame ∧
      ((completion.state = .revoked ∧ completion.errorKind = some .staleGeneration) ↔
        receipt.terminal = .revoked) := by
  unfold completionFromReceipt at h
  obtain ⟨facts, hfacts, h⟩ := bind_eq_ok h
  have heffect := normalizeFacts_effect hfacts
  dsimp only at h
  by_cases hrevoked : receipt.terminal = .revoked
  · simp only [hrevoked, reduceCtorEq, false_and, and_false, decide_false, Bool.false_eq_true,
      if_false, if_true] at h
    cases h
    exact ⟨heffect, by simp [hrevoked]⟩
  simp only [hrevoked, if_false] at h
  have hnot : completion.state ≠ .revoked := by
    split at h
    · cases h
      simp
    split at h
    · cases h
      simp
    cases h
    simp
  have hcompletion : completion.effect = facts.effect := by
    split at h
    · cases h
      rfl
    split at h
    · cases h
      rfl
    cases h
    rfl
  exact ⟨hcompletion.trans heffect, fun hstale => absurd hstale.1 hnot,
    fun hterminal => absurd hterminal hrevoked⟩

/-- What the engine makes of an outcome. -/
theorem AttemptOutcome.completion_fields (h : outcome.completion attempt = .ok (some completion)) :
    completion.effect = outcome.facts ∧
      ((completion.state = .revoked ∧ completion.errorKind = some .staleGeneration) ↔
        outcome.RevokedAsStale) := by
  have hunknown : ∀ kind, (unknownCompletion attempt kind).effect = unknownSideEffectFacts.effect ∧
      ¬ ((unknownCompletion attempt kind).state = .revoked ∧
        (unknownCompletion attempt kind).errorKind = some .staleGeneration) := by
    intro kind
    exact ⟨rfl, by simp [unknownCompletion]⟩
  cases outcome with
  | ended terminal =>
    obtain ⟨found, hfound, heq⟩ := map_eq_ok h
    cases heq
    obtain ⟨heffect, hstate, herror⟩ := completionFromTerminal_fields hfound
    refine ⟨heffect, ?_⟩
    rw [hstate, herror]
    exact Iff.rfl
  | unavailable kind =>
    cases h
    exact ⟨(hunknown kind).1, ⟨fun hrevoked => ((hunknown kind).2 hrevoked).elim, False.elim⟩⟩
  | answered reconciliation =>
    cases reconciliation with
    | notObserved => cases h
    | retained receipt =>
      obtain ⟨found, hfound, heq⟩ := map_eq_ok h
      cases heq
      exact completionFromReceipt_fields hfound
    | retainedFailure facts =>
      obtain ⟨found, hfound, heq⟩ := map_eq_ok h
      cases heq
      unfold completionFromFailure at hfound
      obtain ⟨normalized, hnormalized, hfound⟩ := bind_eq_ok hfound
      cases hfound
      exact ⟨normalizeFacts_effect hnormalized, by simp [AttemptOutcome.RevokedAsStale]⟩
    | evicted | unavailable | conflict =>
      cases h
      exact ⟨rfl, ⟨fun hrevoked => ((hunknown _).2 hrevoked).elim, False.elim⟩⟩

theorem AttemptOutcome.completion_none (h : outcome.completion attempt = .ok none)
    : ¬ outcome.reported.Recorded := by
  cases outcome with
  | ended terminal =>
    obtain ⟨_, _, hnone⟩ := map_eq_ok h
    cases hnone
  | unavailable kind => cases h
  | answered reconciliation =>
    cases reconciliation with
    | notObserved =>
      simp [reported, EffectFacts.Recorded, TransportFailureFacts.effect, unsentFacts, zeroDelivered]
    | retained receipt | retainedFailure facts =>
      obtain ⟨_, _, hnone⟩ := map_eq_ok h
      cases hnone
    | evicted | unavailable | conflict => cases h

theorem failedCompletion_effect (completion : RestoreCompletion) :
    (failedCompletion completion).effect = completion.effect := by
  unfold failedCompletion
  split
  · rfl
  · split <;> rfl

theorem not_recorded_of_safeRetry (h : safeRetry completion) : ¬ completion.effect.Recorded := by
  unfold safeRetry at h
  simp only [Bool.decide_and, Bool.and_eq_true, decide_eq_true_eq] at h
  rintro (hlive | hdelivered | hcertainty)
  · simp_all [effect]
  · simp_all [effect]
  · simp_all [effect]

/-- A status that keeps the completion's facts. -/
def Retains (completion : RestoreCompletion) (status : RestoreRecordStatus) : Prop :=
  ∃ kept, (status = .succeeded kept ∨ status = .failed kept) ∧ kept.effect = completion.effect

theorem finishStatus_retains_iff (h : completion.effect.Recorded) :
    Retains completion (finishStatus completion) ↔
      ¬ (completion.state = .revoked ∧ completion.errorKind = some .staleGeneration) := by
  unfold finishStatus
  split
  next hsuccess =>
    simp only [completedSuccessfully, Bool.decide_and, Bool.and_eq_true, decide_eq_true_eq] at hsuccess
    refine ⟨fun _ hrevoked => ?_, fun _ => ⟨completion, .inl rfl, rfl⟩⟩
    rw [hsuccess.1] at hrevoked
    cases hrevoked.1
  split
  next hretry => exact absurd h (not_recorded_of_safeRetry hretry)
  split
  next hrevoked =>
    refine ⟨?_, fun hnot => absurd hrevoked hnot⟩
    rintro ⟨kept, hstatus | hstatus, _⟩
    · cases hstatus
    · cases hstatus
  next hnot => exact ⟨fun _ => hnot, fun _ => ⟨_, .inr rfl, failedCompletion_effect completion⟩⟩

theorem retireStatus_retains_iff (h : completion.effect.Recorded) :
    Retains completion (retireStatus completion) ↔
      ¬ (completion.state = .revoked ∧ completion.errorKind = some .staleGeneration) := by
  have hwritten : ¬ (completion.liveWriteExecuted = false ∧ completion.deliveredFrames.get = 0 ∧
      completion.sideEffectCertainty = .none) := by
    rintro ⟨hlive, hdelivered, hcertainty⟩
    rcases h with hl | hd | hc
    · simp_all [effect]
    · simp_all [effect]
    · simp_all [effect]
  unfold retireStatus
  split
  next hsuccess =>
    simp only [completedSuccessfully, Bool.decide_and, Bool.and_eq_true, decide_eq_true_eq] at hsuccess
    refine ⟨fun _ hrevoked => ?_, fun _ => ⟨completion, .inl rfl, rfl⟩⟩
    rw [hsuccess.1] at hrevoked
    cases hrevoked.1
  split
  next hstale =>
    refine ⟨?_, fun hnot => absurd (hstale.resolve_left hwritten) hnot⟩
    rintro ⟨kept, hstatus | hstatus, _⟩
    · cases hstatus
    · cases hstatus
  next hnot =>
    exact ⟨fun _ hrevoked => hnot (.inr hrevoked), fun _ => ⟨_, .inr rfl, failedCompletion_effect completion⟩⟩

theorem keptUnlessStale_of_completion (hcompletion : outcome.completion attempt = .ok (some completion))
    (hstatus : completion.effect.Recorded → (Retains completion record.status ↔
      ¬ (completion.state = .revoked ∧ completion.errorKind = some .staleGeneration)))
    (hkept : ∀ kept, record.status = .succeeded kept ∨ record.status = .failed kept →
      kept.effect = completion.effect) :
    KeptUnlessStale outcome record := by
  obtain ⟨heffect, hrevoked⟩ := completion_fields hcompletion
  unfold KeptUnlessStale KeepsEvidence
  by_cases hrecorded : outcome.reported.Recorded
  · have hfacts := facts_recorded hrecorded
    rw [← heffect] at hfacts
    have hiff := hstatus hfacts
    rw [hrevoked] at hiff
    simp only [hrecorded, true_implies]
    constructor
    · rintro ⟨kept, hkeeps, hsame⟩
      have hcarried := hkept kept hkeeps
      refine ⟨hiff.mp ⟨kept, hkeeps, hcarried⟩, (facts_eq_iff outcome).mp ?_⟩
      rw [← heffect, ← hcarried]
      exact hsame
    rintro ⟨hnot, hframe⟩
    obtain ⟨kept, hkeeps, hcarried⟩ := hiff.mpr hnot
    refine ⟨kept, hkeeps, ?_⟩
    rw [hcarried, heffect]
    exact (facts_eq_iff outcome).mpr hframe
  · simp [hrecorded]

theorem finishStatus_kept {kept : RestoreCompletion}
    (h : finishStatus completion = .succeeded kept ∨ finishStatus completion = .failed kept) :
    kept.effect = completion.effect := by
  unfold finishStatus at h
  split at h
  · rcases h with h | h
    · cases h
      rfl
    · cases h
  split at h
  · rcases h with h | h <;> cases h
  split at h
  · rcases h with h | h <;> cases h
  rcases h with h | h
  · cases h
  cases h
  exact failedCompletion_effect completion

theorem retireStatus_kept {kept : RestoreCompletion}
    (h : retireStatus completion = .succeeded kept ∨ retireStatus completion = .failed kept) :
    kept.effect = completion.effect := by
  unfold retireStatus at h
  split at h
  · rcases h with h | h
    · cases h
      rfl
    · cases h
  split at h
  · rcases h with h | h <;> cases h
  rcases h with h | h
  · cases h
  cases h
  exact failedCompletion_effect completion

theorem keptUnlessStale_finish (hcompletion : outcome.completion attempt = .ok (some completion))
    (hstatus : record.status = finishStatus completion) : KeptUnlessStale outcome record := by
  refine keptUnlessStale_of_completion hcompletion ?_ ?_
  · rw [hstatus]
    exact finishStatus_retains_iff
  rw [hstatus]
  exact fun _ => finishStatus_kept

theorem keptUnlessStale_retire (hcompletion : outcome.completion attempt = .ok (some completion))
    (hstatus : record.status = retireStatus completion) : KeptUnlessStale outcome record := by
  refine keptUnlessStale_of_completion hcompletion ?_ ?_
  · rw [hstatus]
    exact retireStatus_retains_iff
  rw [hstatus]
  exact fun _ => retireStatus_kept

theorem keptUnlessStale_unrecorded (h : ¬ outcome.reported.Recorded) (record : RestoreRecord)
    : KeptUnlessStale outcome record := by
  simp [KeptUnlessStale, KeepsEvidence, h]

section Routes

variable {T : Type} [RestorationDigests] {s : RestorationState T} {now : MonotonicMs}

def FinishedBy (attempt : RestoreAttempt) (terminals : List TransactionTerminal) (record : RestoreRecord) : Prop :=
  ∃ terminal ∈ terminals, terminal.transactionId = attempt.request.transactionId ∧
    KeptUnlessStale (.ended terminal) record

structure OnlyAttempt (claimId : RestoreClaimId) (attempt : RestoreAttempt) (s : RestorationState T) :
    Prop extends Grounded s where
  only : ∀ r ∈ s.records, r.claimId = claimId → ∀ active, r.status.activeAttempt = some active →
    active = attempt

variable {attempt : RestoreAttempt} {record next : RestoreRecord} {claimId : RestoreClaimId}

variable {terminal : TransactionTerminal}

omit [RestorationDigests] in
theorem FromTerminal.ended {st : RestoreRecordStatus}
    (h : FromTerminal attempt terminal st) (hnext : transitionRecord record st = .ok next) :
    next.status.activeAttempt = none ∧ KeptUnlessStale (.ended terminal) next := by
  obtain ⟨completion, hcompletion, rfl⟩ := h
  have hstatus := transitionRecord_status hnext
  refine ⟨by rw [hstatus]; exact finishStatus_ended completion, ?_⟩
  have hread : (AttemptOutcome.ended terminal).completion attempt = .ok (some completion) := by
    simp only [AttemptOutcome.completion, hcompletion]
    rfl
  exact keptUnlessStale_finish hread hstatus

theorem observeTerminal_finishes (hs : OnlyAttempt claimId attempt s) (terminal : TransactionTerminal) :
    Holds (observeTerminal now terminal) s
      (fun wrote s' => OnlyAttempt claimId attempt s' ∧
        ∀ next, wrote = some next → next.claimId = claimId → FinishedBy attempt [terminal] next)
      (fun _ _ => True) := by
  refine holds_mono (observeTerminal_spec hs.toGrounded terminal) ?_ (fun _ _ _ => trivial)
  rintro wrote s' (⟨rfl, rfl⟩ | ⟨record, hstored, active, _, hactive, hnamed, hquits⟩)
  · exact ⟨hs, by simp⟩
  refine ⟨⟨hquits.grounded, ?_⟩, ?_⟩
  · intro r hr hclaim found hfound
    rcases hquits.replaced.origin r hr with hwritten | ⟨hold, _⟩
    · obtain ⟨⟨st, hst, hnext⟩, _⟩ := hquits.moved r (Option.mem_toList.mp hwritten)
      rw [(hst.ended hnext).1] at hfound
      cases hfound
    · exact hs.only r hold hclaim found hfound
  intro next hwrote hclaim
  obtain ⟨⟨st, hst, hnext⟩, _⟩ := hquits.moved next hwrote
  have hsame : active = attempt := by
    refine hs.only record hstored ?_ active hactive
    rw [← transitionRecord_claimId hnext]
    exact hclaim
  exact ⟨terminal, mem_singleton_self _, by rw [← hsame, hnamed], (hst.ended hnext).2⟩

theorem observeDispatch_finishes (hs : OnlyAttempt claimId attempt s) (result : DispatchResult) :
    Holds (observeDispatch result now) s
      (fun records _ => ∀ next ∈ records, next.claimId = claimId → FinishedBy attempt result.terminals next)
      (fun _ _ => True) := by
  simp only [observeDispatch, holds_do]
  have heach : Holds (each (observeTerminal now) result.terminals) s
      (fun answers s' => ∃ seen, result.terminals = seen ++ [] ∧ OnlyAttempt claimId attempt s' ∧
        ∀ next, some next ∈ answers → next.claimId = claimId →
          FinishedBy attempt result.terminals next) (fun _ _ => True) := by
    refine holds_each (fun todo answers s' => ∃ seen, result.terminals = seen ++ todo ∧
      OnlyAttempt claimId attempt s' ∧ ∀ next, some next ∈ answers → next.claimId = claimId →
        FinishedBy attempt result.terminals next) ?_ ⟨[], rfl, hs, by simp⟩
    rintro terminal todo answers s₁ ⟨seen, hsplit, hs₁, hanswers⟩
    refine holds_post (observeTerminal_finishes hs₁ terminal) ?_
    rintro wrote s₂ ⟨hs₂, hwrote⟩
    refine ⟨seen ++ [terminal], by simpa using hsplit, hs₂, ?_⟩
    intro next hnext hclaim
    rcases mem_append.mp hnext with hnext | hnext
    · exact hanswers next hnext hclaim
    obtain ⟨found, hfound, hnamed, hkept⟩ := hwrote next (mem_singleton.mp hnext).symm hclaim
    rw [mem_singleton.mp hfound] at hnamed hkept
    exact ⟨terminal, by rw [hsplit]; simp, hnamed, hkept⟩
  refine holds_post heach ?_
  rintro answers _ ⟨_, _, _, hanswers⟩ next hnext
  exact hanswers next (reduceOption_mem_iff.mp hnext)

variable [ReceiverTransport T] {ports : Authorities}

/-- The outcome of its attempt that dispatching a queued claim comes to know, by the branch the call
takes: the transport's answer about an earlier dispatch, the terminal of the dispatch, or that of the
transaction cancelled behind a gate. None when the call on the transaction fails or ends without one. -/
def dispatchOutcome (record : RestoreRecord) (attempt : RestoreAttempt) (now : MonotonicMs) (ports : Authorities)
    (s : RestorationState T) : Option AttemptOutcome :=
  let transactionId := attempt.request.transactionId
  let cancelled := match cancelTransaction transactionId s.core with
    | .ok terminal _ => some (.ended terminal)
    | .error _ _ => none
  match reconcile s.core.transport (dispatchFromAttempt attempt) with
  | .notObserved =>
    match dispatchGate record attempt now ports s.core.transport s.store with
    | .ok .ready =>
      if ¬ s.leases.owns attempt.request.clientId attempt.request.leaseId attempt.request.resources now then
        cancelled
      else match dispatchTransaction transactionId now ports s.leases s.core with
        | .ok result _ => (result.terminals.find? (·.transactionId = transactionId)).map ended
        | .error _ _ => none
    | _ => cancelled
  | reconciliation => some (.answered reconciliation)

omit [RestorationDigests] [ReceiverTransport T] in
theorem cancelTransaction_unrecorded {id : TransactionId} {core core' : CoordinatorState T}
    (h : cancelTransaction id core = .ok terminal core') :
    ¬ (ended terminal).reported.Recorded := by
  let P : TransactionResult → Prop := fun result => ∀ ended, result = .terminal ended → ¬ ended.effect.Recorded
  have hunsent : ∀ queued ∈ core.coordinator.queue.pending, queued.id = id → ∀ ended,
      FinishedAs queued .revoked none none unsentFacts ended → P (.terminal ended) := by
    rintro queued _ _ _ ⟨declared, sequence, _, rfl⟩ _ ⟨⟩
    simp [EffectFacts.Recorded, TransactionTerminal.effect, terminalOf, unsentFacts, zeroDelivered]
  exact (holds_ok (cancelTransaction_effect hunsent) h).2 terminal rfl

omit [RestorationDigests] [ReceiverTransport T] in
/-- A cancelled attempt has written nothing, so whatever becomes of its record keeps its facts. -/
theorem cancelled_kept {m : TransactionTerminal → RestorationM T RestoreRecord} :
    Holds (do
      let terminal ← withTransactions (cancelTransaction attempt.request.transactionId)
      m terminal) s
      (fun record _ => ∃ terminal core, cancelTransaction attempt.request.transactionId s.core = .ok terminal core ∧
        KeptUnlessStale (.ended terminal) record) (fun _ _ => True) := by
  simp only [withTransactions, holds_do]
  cases hcancel : cancelTransaction attempt.request.transactionId s.core with
  | error => exact (holds_of_error hcancel).mpr trivial
  | ok terminal core =>
    rw [holds_of_ok hcancel]
    refine holds_of_forall fun record s' => ?_
    exact ⟨terminal, core, rfl, keptUnlessStale_unrecorded (cancelTransaction_unrecorded hcancel) _⟩

omit [RestorationDigests] in
/-- The terminals of one name that a dispatch answers tell the same of a record: an elapsed one is
unsent, and none of them stands beside the completed one. -/
theorem Answered.kept_find {core core' : CoordinatorState T} {result : DispatchResult} {id : TransactionId}
    (h : Answered core core' result) (hmem : terminal ∈ result.terminals)
    (hnamed : terminal.transactionId = id) (hkept : KeptUnlessStale (.ended terminal) next) :
    ∃ first, result.terminals.find? (·.transactionId = id) = some first ∧
      KeptUnlessStale (.ended first) next := by
  have hsome : (result.terminals.find? (·.transactionId = id)).isSome :=
    find?_isSome.mpr ⟨terminal, hmem, by simpa using hnamed⟩
  obtain ⟨first, hfirst⟩ := Option.isSome_iff_exists.mp hsome
  have hfirstNamed : first.transactionId = id := by simpa using find?_some hfirst
  refine ⟨first, hfirst, ?_⟩
  rcases mem_append.mp (mem_of_find?_eq_some hfirst) with hexpired | hcompleted
  · obtain ⟨_, _, ⟨declared, sequence, _, rfl⟩, _⟩ := h.expired first hexpired
    refine keptUnlessStale_unrecorded ?_ next
    simp [reported, EffectFacts.Recorded, TransactionTerminal.effect, terminalOf, unsentFacts, zeroDelivered]
  obtain ⟨completed, hresult, rfl⟩ : ∃ completed, result.completed = some completed ∧ completed.terminal = first := by
    simpa using hcompleted
  rcases mem_append.mp hmem with hexpired | hsame
  · obtain ⟨q, _, hfinished, hapart⟩ := h.expired terminal hexpired
    exact absurd (hfinished.id.symm.trans (hnamed.trans hfirstNamed.symm)) (hapart completed hresult)
  · have hsame : terminal = completed.terminal := by simpa [hresult] using hsame
    rwa [← hsame]

omit [ReceiverTransport T] in
theorem markApplying_only (hs : Grounded s) (hload : loadRecord claimId s.store = .ok record)
    (hqueued : record.status = .queued attempt) :
    Holds (markApplying claimId) s
      (fun applying s' => applying.claimId = claimId ∧ OnlyAttempt claimId attempt s' ∧
        s'.core = s.core ∧ s'.leases = s.leases) (fun _ _ => True) := by
  have hclaim := (loadRecord_ok hload).2.1
  have hcore : Holds (saveTransition record (.applying attempt)) s
      (fun _ s' => s'.core = s.core ∧ s'.leases = s.leases) (fun _ _ => True) := by
    simp only [saveTransition, persistRecord, persistRecords, withStore, holds_do]
    refine ⟨fun _ _ => holds_of_forall fun outcome _ => ?_, fun _ _ => trivial⟩
    cases outcome with
    | applied => exact ⟨rfl, rfl⟩
    | conflict => trivial
  simp only [markApplying, holds_do, hload, Except.ok.injEq, forall_eq', implies_true, and_true, hqueued]
  refine holds_mono (holds_and (saveTransition_moves hs.sound) hcore) ?_ (fun _ _ _ => trivial)
  rintro applying s' ⟨⟨⟨_, rfl, hnext⟩, hstored⟩, hsame, hleases⟩
  have hname : applying.claimId = claimId := (transitionRecord_claimId hnext).trans hclaim
  refine ⟨hname, ⟨⟨hstored.sound, ?_⟩, ?_⟩, hsame, hleases⟩
  · rw [hsame]
    exact hs.safe
  intro r hr hclaim' active hactive
  rcases hstored.replaced.origin r hr with hr | ⟨_, hother⟩
  · rw [mem_singleton.mp hr, transitionRecord_status hnext] at hactive
    exact (Option.some.inj hactive).symm
  · exact absurd (hname.trans hclaim'.symm) (hother applying (mem_singleton_self _))

theorem dispatchApplying_kept (hs : Grounded s) (hload : loadRecord claimId s.store = .ok record)
    (hqueued : record.status = .queued attempt) :
    Holds (dispatchApplying claimId attempt now ports) s
      (fun next _ => ∃ result core, dispatchTransaction attempt.request.transactionId now ports s.leases s.core =
          .ok result core ∧
        ∃ terminal, result.terminals.find? (·.transactionId = attempt.request.transactionId) = some terminal ∧
          KeptUnlessStale (.ended terminal) next) (fun _ _ => True) := by
  simp only [dispatchApplying, holds_do]
  refine holds_mono (markApplying_only hs hload hqueued) ?_ (fun _ _ _ => trivial)
  rintro applying s₁ ⟨hclaim, honly, hcore, hleases⟩
  simp only [withTransactions, holds_zoom]
  rw [hcore, hleases]
  cases hdispatch : dispatchTransaction attempt.request.transactionId now ports s.leases s.core with
  | error => exact (holds_of_error hdispatch).mpr trivial
  | ok result core =>
    obtain ⟨hdequeued, hanswered⟩ := holds_ok (dispatchTransaction_held hs.safe) hdispatch
    have honly' : OnlyAttempt claimId attempt { s₁ with core := core, leases := s.leases } :=
      ⟨⟨honly.sound, hdequeued.safe⟩, honly.only⟩
    rw [holds_of_ok hdispatch]
    refine holds_mono (observeDispatch_finishes honly' result) ?_ (fun _ _ _ => trivial)
    intro records s₂ hfinished
    split
    · trivial
    next found hfound =>
      have hname : found.claimId = applying.claimId := by simpa using find?_some hfound
      obtain ⟨terminal, hmem, hnamed, hkept⟩ :=
        hfinished found (mem_of_find?_eq_some hfound) (hname.trans hclaim)
      exact ⟨result, core, rfl, hanswered.kept_find hmem hnamed hkept⟩

omit [RestorationDigests] [ReceiverTransport T] in
theorem FromReconciliation.kept {reconciliation : TransportReconciliation} {st : RestoreRecordStatus}
    (h : FromReconciliation attempt reconciliation st) (hnext : transitionRecord record st = .ok next) :
    KeptUnlessStale (.answered reconciliation) next := by
  obtain ⟨completion, hcompletion, rfl⟩ := h
  have hread : (answered reconciliation).completion attempt = .ok (some completion) := hcompletion
  exact keptUnlessStale_finish hread (transitionRecord_status hnext)

theorem dispatchOutcome_observed (h : reconcile s.core.transport (dispatchFromAttempt attempt) ≠ .notObserved) :
    dispatchOutcome record attempt now ports s =
      some (.answered (reconcile s.core.transport (dispatchFromAttempt attempt))) := by
  unfold dispatchOutcome
  split
  · contradiction
  rfl

theorem dispatchClaim_kept (hs : Grounded s) (hload : loadRecord claimId s.store = .ok record)
    (hqueued : record.status = .queued attempt) :
    Holds (dispatchClaim claimId now ports) s
      (fun next _ => ∃ outcome, dispatchOutcome record attempt now ports s = some outcome ∧
        KeptUnlessStale outcome next) (fun _ _ => True) := by
  simp only [dispatchClaim, holds_do, hload, Except.ok.injEq, forall_eq', implies_true, and_true, hqueued]
  split
  next hunobserved =>
    simp only [holds_do]
    refine ⟨fun gate hgate => ?_, fun _ _ => trivial⟩
    simp only [dispatchOutcome, hunobserved, hgate]
    cases gate with
    | deferred reason | invalidated reason =>
      refine holds_mono cancelled_kept ?_ (fun _ _ _ => trivial)
      rintro next _ ⟨terminal, core, hcancel, hkept⟩
      exact ⟨_, by rw [hcancel], hkept⟩
    | ready =>
      dsimp only
      split
      · refine holds_mono cancelled_kept ?_ (fun _ _ _ => trivial)
        rintro next _ ⟨terminal, core, hcancel, hkept⟩
        exact ⟨_, by rw [hcancel], hkept⟩
      refine holds_mono (dispatchApplying_kept hs hload hqueued) ?_ (fun _ _ _ => trivial)
      rintro next _ ⟨result, core, hdispatch, terminal, hfind, hkept⟩
      exact ⟨.ended terminal, by simp only [hdispatch, hfind, Option.map_some], hkept⟩
  next hobserved =>
    have hquits := release_quits attempt now hs (reconcileTerminal_ends record attempt
      (reconcile s.core.transport (dispatchFromAttempt attempt)))
    simp only [holds_bind] at hquits
    simp only [holds_do]
    refine holds_mono hquits (fun _ s₁ hfinish => ?_) (fun _ _ _ => trivial)
    refine holds_mono hfinish ?_ (fun _ _ _ => trivial)
    intro result s' hquit
    obtain ⟨⟨st, hst, hnext⟩, _⟩ := hquit.moved _ rfl
    exact ⟨_, dispatchOutcome_observed hobserved, hst.kept hnext⟩

theorem advanceClaim_kept {authority : RestorationAuthority} (hs : Grounded s)
    (hload : loadRecord claimId s.store = .ok record) (hactive : record.status.activeAttempt = some attempt)
    (hobserved : reconcile s.core.transport (dispatchFromAttempt attempt) ≠ .notObserved) :
    Holds (advanceClaim claimId authority now ports) s
      (fun result _ => KeptUnlessStale
        (.answered (reconcile s.core.transport (dispatchFromAttempt attempt)))
        (recordFromAdvance result)) (fun _ _ => True) := by
  have hopen : record.status.isTerminal = false := by
    cases hstatus : record.status <;> simp_all [RestoreRecordStatus.activeAttempt,
      RestoreRecordStatus.isTerminal]
  simp only [advanceClaim, holds_do, hload, Except.ok.injEq, forall_eq', implies_true, and_true, hopen,
    Bool.false_eq_true, if_false, hactive]
  intro _ _
  have hquits := release_quits attempt now hs (reconcileTerminal_ends record attempt
    (reconcile s.core.transport (dispatchFromAttempt attempt)))
  simp only [holds_bind] at hquits
  refine holds_mono hquits (fun _ s₁ hfinish => ?_) (fun _ _ _ => trivial)
  refine holds_mono hfinish ?_ (fun _ _ _ => trivial)
  intro result s' hquit
  obtain ⟨⟨st, hst, hnext⟩, _⟩ := hquit.moved _ rfl
  exact hst.kept hnext

/-- The outcome of the attempt that retiring its generation comes to know; none when the call fails. -/
def retirementOutcome (attempt : RestoreAttempt) (transport : T)
    (transactions : TransactionCoordinator) : Option AttemptOutcome :=
  match transactions.outcomes.lookup attempt.request.clientId attempt.request.transactionId with
  | .retained (.terminal terminal) => some (.ended terminal)
  | .retained (.unavailable _) => some (.unavailable .outcomeUnknown)
  | .retained (.progress _) => none
  | .evicted => some (.unavailable .outcomeEvicted)
  | .forbidden => none
  | .unknown => some (.answered (reconcile transport (dispatchFromAttempt attempt)))

section
omit [RestorationDigests]

theorem retirementCompletion_outcome {transport : T} {transactions : TransactionCoordinator}
    {completion : Option RestoreCompletion}
    (h : retirementCompletion attempt transport transactions = .ok completion) :
    ∃ outcome, retirementOutcome attempt transport transactions = some outcome ∧
      outcome.completion attempt = .ok completion := by
  unfold retirementCompletion at h
  unfold retirementOutcome
  generalize transactions.outcomes.lookup attempt.request.clientId attempt.request.transactionId = answer at h ⊢
  split at h
  next terminal => exact ⟨.ended terminal, rfl, h⟩
  · exact ⟨.unavailable .outcomeUnknown, rfl, h⟩
  · cases h
  · exact ⟨.unavailable .outcomeEvicted, rfl, h⟩
  · cases h
  · exact ⟨.answered _, rfl, h⟩

theorem RetiredAs.kept {transport : T} {transactions : TransactionCoordinator}
    (h : RetiredAs transport transactions record next) (hactive : record.status.activeAttempt = some attempt) :
    ∃ outcome, retirementOutcome attempt transport transactions = some outcome ∧
      KeptUnlessStale outcome next := by
  rcases h with ⟨hinactive, _⟩ | ⟨found, completion, hfound, hcompletion, hnext⟩
  · rw [hactive] at hinactive
    cases hinactive
  rw [hactive] at hfound
  cases hfound
  obtain ⟨outcome, houtcome, hread⟩ := retirementCompletion_outcome hcompletion
  refine ⟨outcome, houtcome, ?_⟩
  have hstatus := transitionRecord_status hnext
  cases completion with
  | some completion => exact keptUnlessStale_retire hread hstatus
  | none => exact keptUnlessStale_unrecorded (completion_none hread) next

end

theorem retireGeneration_kept {receiverId : ReceiverId} {generationId : GenerationId} :
    Holds (retireGeneration receiverId generationId now) s
      (fun retirement _ => ∃ records, loadRecords receiverId s.store = .ok records ∧
        List.Forall₂ (RetiredAs s.core.transport s.core.coordinator)
          ((records.filter (·.generationId = generationId)).filter (! ·.status.isTerminal))
          retirement.updated)
      (fun _ _ => True) := by
  simp only [retireGeneration, holds_do]
  refine ⟨fun _ => trivial, fun _ => ⟨fun records hload => ?_, fun _ _ => trivial⟩⟩
  split
  · trivial
  next updated leases heach =>
    simp only [holds_do]
    refine ⟨fun events _ => holds_of_forall fun _ s₁ => ?_, fun _ _ => trivial⟩
    exact ⟨records, hload, (retireEach_spec heach).1⟩

/-- Over every run: an outcome that comes back when a claim is advanced again, when it is dispatched
or when its generation is retired leaves its facts in a succeeded or failed record exactly when it
is no stale revocation and, from a transport, speaks of one frame. -/
theorem restorationReach_keepsEvidence_iff {ok : RestorationState T → RestorationStep T → Prop}
    {start s : RestorationState T} (hstart : RestorationStart start)
    (hreach : RestorationReach ok start s) (step : RestorationStep T) :
    (∀ claimId authority record attempt result,
      loadRecord claimId (step.enter s).store = .ok record →
      record.status.activeAttempt = some attempt →
      reconcile step.transport (dispatchFromAttempt attempt) ≠ .notObserved →
      answer (advanceClaim claimId authority step.now step.ports) (step.enter s) = .ok result →
      KeptUnlessStale
        (.answered (reconcile step.transport (dispatchFromAttempt attempt)))
        (recordFromAdvance result)) ∧
    (∀ claimId record attempt next,
      loadRecord claimId (step.enter s).store = .ok record →
      record.status = .queued attempt →
      answer (dispatchClaim claimId step.now step.ports) (step.enter s) = .ok next →
      ∃ outcome, dispatchOutcome record attempt step.now step.ports (step.enter s) = some outcome ∧
        KeptUnlessStale outcome next) ∧
    ∀ receiverId generationId retirement,
      answer (retireGeneration receiverId generationId step.now) (step.enter s) = .ok retirement →
      ∃ records, loadRecords receiverId (step.enter s).store = .ok records ∧
        List.Forall₂ (fun record next => ∀ attempt, record.status.activeAttempt = some attempt →
          ∃ outcome, retirementOutcome attempt step.transport s.core.coordinator = some outcome ∧
            KeptUnlessStale outcome next)
          ((records.filter (·.generationId = generationId)).filter (! ·.status.isTerminal))
          retirement.updated := by
  have hgrounded : Grounded (step.enter s) := by
    have hs := hreach.grounded hstart.grounded
    exact ⟨hs.sound, hs.safe⟩
  refine ⟨?_, ?_, ?_⟩
  · intro claimId authority record attempt result hload hactive hobserved hcall
    have hkept := holds_answer (advanceClaim_kept hgrounded hload hactive hobserved) hcall
    exact hkept
  · intro claimId record attempt next hload hqueued hcall
    have hkept := holds_answer (dispatchClaim_kept hgrounded hload hqueued) hcall
    exact hkept
  intro receiverId generationId retirement hcall
  obtain ⟨records, hload, hretired⟩ := holds_answer retireGeneration_kept hcall
  refine ⟨records, hload, hretired.imp ?_⟩
  intro record next hnext attempt hactive
  exact hnext.kept hactive

end Routes

def sampleReturn (reconciled : TransportReconciliation) : RestorationStep FixedTransport :=
  sampleStep (.advanceClaim sampleClaim (sampleAuthority sampleNonce)) (.lit 1)
    sampleAuthorities { sampleTransport with reconciled := reconciled } sampleQueued

def sampleUncertain : TransportFailureFacts := ⟨zeroDelivered, .possible, true, false, .unverified⟩

/-- The session was lost after the frame had been sent. -/
def sampleRevoked : TransportReceipt :=
  ⟨.revoked, .lit 1, .committed, true, false, .unverified⟩

theorem sampleQueued_reach :
    letI := sampleRestorationDigests
    RestorationReach (fun _ _ => True) (sampleStart _ sampleTransport) sampleQueued := by
  let _ := sampleRestorationDigests
  have hplanned : RestorationReach (fun _ _ => True) (sampleStart _ sampleTransport)
      samplePlanned := .step .start trivial
  exact .step hplanned trivial

theorem sampleQueued_active :
    letI := sampleRestorationDigests
    ∃ record attempt, (∀ reconciled, loadRecord sampleClaim
      ((sampleReturn reconciled).enter sampleQueued).store = .ok record) ∧
      record.status.activeAttempt = some attempt := by
  let _ := sampleRestorationDigests
  have hload : loadRecord sampleClaim sampleQueued.store =
      .ok (sampleQueued.records.head (by decide +kernel)) := by
    decide +kernel
  have hactive : (sampleQueued.records.head (by decide +kernel)).status.activeAttempt.isSome := by
    decide +kernel
  obtain ⟨attempt, hattempt⟩ := Option.isSome_iff_exists.mp hactive
  exact ⟨_, attempt, fun _ => hload, hattempt⟩

theorem restorationReach_keepsEvidence_iff_sample :
    letI := sampleRestorationDigests
    ∃ result, answer (advanceClaim sampleClaim (sampleAuthority sampleNonce)
        (.lit 1) sampleAuthorities)
        ((sampleReturn (.retainedFailure sampleUncertain)).enter sampleQueued) = .ok result ∧
      KeepsEvidence (.answered (.retainedFailure sampleUncertain)) (recordFromAdvance result) := by
  let _ := sampleRestorationDigests
  obtain ⟨record, attempt, hload, hactive⟩ := sampleQueued_active
  have hok : (answer (advanceClaim sampleClaim (sampleAuthority sampleNonce)
      (.lit 1) sampleAuthorities)
      ((sampleReturn (.retainedFailure sampleUncertain)).enter sampleQueued)).isOk := by
    decide +kernel
  obtain ⟨result, hresult⟩ := exists_answer hok
  refine ⟨result, hresult, ?_⟩
  have hkept := (restorationReach_keepsEvidence_iff (sampleStart_starts sampleTransport)
    sampleQueued_reach (sampleReturn (.retainedFailure sampleUncertain))).1
    sampleClaim _ record attempt result (hload _) hactive (by simp [sampleReturn, sampleStep,
      reconcile]) hresult
  have hframe : sampleUncertain.effect.OfOneFrame := ⟨by decide, by decide, by decide⟩
  exact hkept.mpr fun _ => ⟨id, hframe⟩

/-- A stale revocation of a committed write invalidates the claim: nothing of the write is kept. -/
theorem restoration_forgets_revoked_write :
    letI := sampleRestorationDigests
    RestorationStart (sampleStart _ sampleTransport) ∧
      ¬ ∀ s (step : RestorationStep FixedTransport) claimId authority record attempt result,
        RestorationReach (fun _ _ => True) (sampleStart _ sampleTransport) s →
        loadRecord claimId (step.enter s).store = .ok record →
        record.status.activeAttempt = some attempt →
        reconcile step.transport (dispatchFromAttempt attempt) ≠ .notObserved →
        answer (advanceClaim claimId authority step.now step.ports) (step.enter s) = .ok result →
        KeepsEvidence
          (.answered (reconcile step.transport (dispatchFromAttempt attempt)))
          (recordFromAdvance result) := by
  let _ := sampleRestorationDigests
  refine ⟨sampleStart_starts sampleTransport, fun h => ?_⟩
  obtain ⟨record, attempt, hload, hactive⟩ := sampleQueued_active
  have hinvalidated : ∃ result, answer (advanceClaim sampleClaim (sampleAuthority sampleNonce)
      (.lit 1) sampleAuthorities)
      ((sampleReturn (.retained sampleRevoked)).enter sampleQueued) = .ok result ∧
      (recordFromAdvance result).status = .invalidated .staleGeneration := by
    refine ⟨.terminal (((sampleReturn (.retained sampleRevoked)).run sampleQueued).records.head
      (by decide +kernel)), ?_⟩
    decide +kernel
  obtain ⟨result, hresult, hstatus⟩ := hinvalidated
  have hkeeps := h _ (sampleReturn (.retained sampleRevoked)) _ _ record attempt result
    sampleQueued_reach (hload _) hactive (by simp [sampleReturn, sampleStep, reconcile]) hresult
  obtain ⟨completion, hcompletion, _⟩ := hkeeps (.inl rfl)
  rw [hstatus] at hcompletion
  rcases hcompletion with hcompletion | hcompletion
  · cases hcompletion
  · cases hcompletion

end HyperfluxNext
