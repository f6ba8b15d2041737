import HyperfluxNext.Restoration.Accounts
import HyperfluxNext.Restoration.SelfReadable

namespace HyperfluxNext

open ReceiverTransport RestorationState List Procedure

structure TransportCall where
  dispatch : TransportDispatch
  answer : Except TransportFailureFacts TransportReceipt

/-- A transport with the history of the dispatches that reached it. Nothing reaches it any more
from a process that has `stopped` in the middle of a call. -/
structure RecordedTransport (T : Type) where
  inner : T
  stopped : Bool
  calls : List TransportCall

instance {T : Type} [ReceiverTransport T] : ReceiverTransport (RecordedTransport T) where
  currentGeneration transport := ReceiverTransport.currentGeneration transport.inner
  writeAvailable transport := ReceiverTransport.writeAvailable transport.inner
  reconcile transport := ReceiverTransport.reconcile transport.inner
  dispatch transport dispatch :=
    if transport.stopped then
      (.error unsentFacts, transport)
    else
      let (answer, inner) := ReceiverTransport.dispatch transport.inner dispatch
      (answer, { transport with inner := inner, calls := transport.calls ++ [⟨dispatch, answer⟩] })

def WroteFacts (facts : TransportFailureFacts) : Prop :=
  facts.liveWriteExecuted ∨ 0 < facts.deliveredFrames.get ∨ facts.sideEffectCertainty ≠ .none

instance (facts : TransportFailureFacts) : Decidable (WroteFacts facts) :=
  inferInstanceAs (Decidable (_ ∨ _ ∨ _))

def MayHaveWritten : Except TransportFailureFacts TransportReceipt → Prop
  | .ok receipt => WroteFacts receipt.facts
  | .error facts => WroteFacts facts

instance : (answer : Except TransportFailureFacts TransportReceipt) → Decidable (MayHaveWritten answer)
  | .ok receipt => inferInstanceAs (Decidable (WroteFacts receipt.facts))
  | .error facts => inferInstanceAs (Decidable (WroteFacts facts))

/-- An answer that does not deny a write. -/
def Acknowledges : TransportReconciliation → Prop
  | .notObserved => False
  | .retained receipt => WroteFacts receipt.facts
  | .retainedFailure facts => WroteFacts facts
  | _ => True

instance : DecidablePred Acknowledges
  | .notObserved => inferInstanceAs (Decidable False)
  | .retained receipt => inferInstanceAs (Decidable (WroteFacts receipt.facts))
  | .retainedFailure facts => inferInstanceAs (Decidable (WroteFacts facts))
  | .evicted => inferInstanceAs (Decidable True)
  | .unavailable => inferInstanceAs (Decidable True)
  | .conflict => inferInstanceAs (Decidable True)

def OfClaim (claimId : RestoreClaimId) (dispatch : TransportDispatch) : Prop :=
  ∃ number, typedId "restore-tx" (attemptSuffix claimId number) = .ok dispatch.transactionId

def AtMostOneWrite (calls : List TransportCall) : Prop :=
  calls.Pairwise fun earlier later => MayHaveWritten earlier.answer →
    ∀ claimId, OfClaim claimId earlier.dispatch → ¬ OfClaim claimId later.dispatch

section Facts

variable {attempt : RestoreAttempt} {completion : RestoreCompletion}

theorem normalizeFacts_wrote {facts : TransportFailureFacts} (declared : FrameCount)
    (h : WroteFacts facts) : (normalizeFacts facts declared).liveWriteExecuted := by
  have hdeclared : 1 ≤ declared.get := declared.lower
  simp only [normalizeFacts, Bool.or_eq_true, decide_eq_true_eq]
  rcases h with hlive | hdelivered | hcertainty
  · exact .inl (.inl hlive)
  · have hpositive : min facts.deliveredFrames.get declared.get > 0 := by omega
    exact .inl (.inr hpositive)
  right
  split
  · simp
  · exact hcertainty

theorem classifyReceipt_wrote {receipt : TransportReceipt} (declared : FrameCount)
    (h : WroteFacts receipt.facts) : (classifyReceipt receipt declared).2.2.liveWriteExecuted := by
  have hlive := normalizeFacts_wrote declared h
  unfold classifyReceipt
  split
  · exact hlive
  split
  · dsimp only
    split <;> exact hlive
  · exact hlive
  · exact hlive

/-- What the normalized facts of a restore write keep of a possible effect. -/
theorem restorationNormalizeFacts_wrote {reported facts : TransportFailureFacts}
    (h : Restoration.normalizeFacts reported = .ok facts) (hwrote : WroteFacts reported) :
    facts.automaticRetrySafe = false := by
  by_contra hretry
  have hretry : facts.automaticRetrySafe = true := by simpa using hretry
  obtain ⟨hcount, _, hsafe, _⟩ := restorationNormalizeFacts_ok h
  obtain ⟨hlive, hzero, hnone⟩ := hsafe hretry
  unfold Restoration.normalizeFacts at h
  obtain ⟨count, hdelivered, h⟩ := bind_eq_ok h
  have hpos : ¬ min reported.deliveredFrames.get 1 > 0 := by omega
  simp only [hpos, if_false, pure, Except.pure, Except.ok.injEq] at h
  rcases hwrote with hl | hd | hc
  · by_cases hcertainty : reported.sideEffectCertainty = .none
    · simp only [hl, hcertainty, and_self, if_true] at h
      subst h
      cases hnone
    simp only [hcertainty, and_false, if_false] at h
    subst h
    exact hcertainty hnone
  · omega
  simp only [hc, and_false, if_false] at h
  subst h
  exact hc hnone

theorem not_safeRetry_of_live (h : completion.liveWriteExecuted) : safeRetry completion = false := by
  simp [safeRetry, h]

theorem finishStatus_terminal (h : safeRetry completion = false) : (finishStatus completion).isTerminal := by
  unfold finishStatus
  split
  · rfl
  rw [h]
  simp only [Bool.false_eq_true, if_false]
  split <;> rfl

/-- A claim whose attempt may have written is finished for good by the transport's answer. -/
theorem FromReconciliation.terminal {reconciliation : TransportReconciliation}
    {st : RestoreRecordStatus} (h : FromReconciliation attempt reconciliation st)
    (hacknowledges : Acknowledges reconciliation) : st.isTerminal := by
  obtain ⟨completion, hfrom, rfl⟩ := h
  have hretry : completion.automaticRetry = false → (finishStatus completion).isTerminal := by
    intro hretry
    exact finishStatus_terminal (by simp [safeRetry, hretry])
  cases reconciliation with
  | notObserved => cases hfrom
  | retained receipt =>
    obtain ⟨found, hfound, hsame⟩ := map_eq_ok hfrom
    cases hsame
    unfold completionFromReceipt at hfound
    obtain ⟨facts, hfacts, hfound⟩ := bind_eq_ok hfound
    have hsafe := restorationNormalizeFacts_wrote hfacts hacknowledges
    simp only [hsafe, Bool.false_and, pure, Except.pure, Except.ok.injEq] at hfound
    refine hretry ?_
    subst hfound
    rfl
  | retainedFailure reported =>
    obtain ⟨found, hfound, hsame⟩ := map_eq_ok hfrom
    cases hsame
    unfold completionFromFailure at hfound
    obtain ⟨facts, hfacts, hfound⟩ := bind_eq_ok hfound
    cases hfound
    exact hretry (restorationNormalizeFacts_wrote hfacts hacknowledges)
  | evicted | unavailable | conflict => cases hfrom; exact hretry rfl

theorem FromTerminal.terminal {terminal : TransactionTerminal} {st : RestoreRecordStatus}
    (h : FromTerminal attempt terminal st) (hlive : terminal.liveWriteExecuted) : st.isTerminal := by
  obtain ⟨completion, hfrom, rfl⟩ := h
  refine finishStatus_terminal (not_safeRetry_of_live ?_)
  unfold completionFromTerminal at hfrom
  obtain ⟨_, _, hfrom⟩ := bind_eq_ok hfrom
  cases hfrom
  exact hlive

end Facts

section Calls

variable {T : Type} [ReceiverTransport T]

/-- The transport does not deny the writes it may have made. -/
def Honest (transport : RecordedTransport T) : Prop :=
  ∀ call ∈ transport.calls, MayHaveWritten call.answer → Acknowledges (reconcile transport call.dispatch)

instance (transport : RecordedTransport T) : Decidable (Honest transport) :=
  inferInstanceAs (Decidable (∀ call ∈ transport.calls, _ → _))

/-- What asking the transport to write adds to its history. -/
theorem dispatch_calls (transport : RecordedTransport T) (dispatch : TransportDispatch) :
    (ReceiverTransport.dispatch transport dispatch).2.calls = transport.calls ∨
      (ReceiverTransport.dispatch transport dispatch).2.calls =
        transport.calls ++ [⟨dispatch, (ReceiverTransport.dispatch transport dispatch).1⟩] := by
  show (if transport.stopped then _ else _ : _ × RecordedTransport T).2.calls = _ ∨ _
  by_cases hstopped : transport.stopped
  · left
    simp [hstopped]
  right
  simp [ReceiverTransport.dispatch, hstopped]

theorem Moved.calls {before after : RecordedTransport T} {dispatch : TransportDispatch}
    (h : Moved before after dispatch) :
    after.calls = before.calls ∨ ∃ answer, after.calls = before.calls ++ [⟨dispatch, answer⟩] := by
  rcases h with rfl | ⟨_, rfl⟩
  · exact .inl rfl
  rcases dispatch_calls before dispatch with hsame | hadded
  · exact .inl hsame
  · exact .inr ⟨_, hadded⟩

theorem TakenAs.calls {before after : RecordedTransport T} {q : QueuedTransaction}
    {terminal : TransactionTerminal} (h : TakenAs before after q terminal) :
    after.calls = before.calls ∨ ∃ answer, after.calls = before.calls ++ [⟨q.toDispatch, answer⟩] ∧
      (MayHaveWritten answer → terminal.liveWriteExecuted) := by
  rcases h with ⟨rfl, _⟩ | ⟨declared, hafter, declared', sequence, _, rfl⟩
  · exact .inl rfl
  unfold reconcileOrDispatch at hafter ⊢
  split at hafter
  · have hcalls := dispatch_calls before q.toDispatch
    cases hd : dispatch before q.toDispatch with
    | mk answer transport =>
      rw [hd] at hafter hcalls
      cases answer with
      | ok receipt =>
        dsimp only at hafter hcalls ⊢
        rw [hafter]
        rcases hcalls with hsame | hadded
        · exact .inl hsame
        refine .inr ⟨.ok receipt, hadded, fun hwrote => ?_⟩
        exact classifyReceipt_wrote declared hwrote
      | error facts =>
        dsimp only at hafter hcalls ⊢
        rw [hafter]
        rcases hcalls with hsame | hadded
        · exact .inl hsame
        refine .inr ⟨.error facts, hadded, fun hwrote => ?_⟩
        exact normalizeFacts_wrote declared hwrote
  · exact .inl (by rw [hafter])
  · exact .inl (by rw [hafter])
  · exact .inl (by rw [hafter])
  · exact .inl (by rw [hafter])
  · exact .inl (by rw [hafter])

end Calls

section Spent

variable {T : Type} [RestorationDigests] {s s₁ s' : RestorationState (RecordedTransport T)}
  {record next : RestoreRecord} {attempt : RestoreAttempt} {wrote : Option RestoreRecord}

def RestorationState.calls (s : RestorationState (RecordedTransport T)) : List TransportCall :=
  s.core.transport.calls

/-- A claim with a write that may have happened has nothing in the queue, and its record is
terminal or still at work on exactly that dispatch. -/
def Spent (s : RestorationState (RecordedTransport T)) : Prop :=
  ∀ call ∈ s.calls, MayHaveWritten call.answer → ∀ claimId, OfClaim claimId call.dispatch →
    (∀ q ∈ s.pending, ¬ OfClaim claimId q.toDispatch) ∧
    ∀ r ∈ s.records, r.claimId = claimId → r.status.isTerminal ∨
      ∃ attempt, r.status.activeAttempt = some attempt ∧ dispatchFromAttempt attempt = call.dispatch

theorem SubmittedAs.toDispatch {q : QueuedTransaction}
    (h : SubmittedAs attempt.request attempt.submission q) (hfacts : AttemptFacts record attempt) :
    q.toDispatch = dispatchFromAttempt attempt := by
  obtain ⟨hrequest, hdigest, hsession, hepoch, hnonce⟩ := h
  have hsame : q.requestDigest = attempt.requestDigest := Except.ok.inj (hdigest.symm.trans hfacts.digest)
  simp [QueuedTransaction.toDispatch, dispatchFromAttempt, hrequest, hsame, hsession, hepoch, hnonce]

/-- A waiting entry of a claim is the one its stored record is at work on. -/
theorem Tracked.ofClaim (h : Tracked s) (hchecked : AttemptsChecked s) {q : QueuedTransaction}
    {claimId : RestoreClaimId} (hq : q ∈ s.pending) (hclaim : OfClaim claimId q.toDispatch) :
    ∃ r ∈ s.records, r.claimId = claimId ∧ ∃ attempt, r.status.activeAttempt = some attempt ∧
      q.toDispatch = dispatchFromAttempt attempt := by
  obtain ⟨attempt, ⟨r, hr, hactive⟩, hsubmitted⟩ := h q hq
  have hfacts := validateAttempt_facts (hchecked r hr attempt hactive)
  have hdispatch := hsubmitted.toDispatch hfacts
  obtain ⟨number, hnumber⟩ := hclaim
  rw [hdispatch] at hnumber
  have hsame := (attemptId_inj hfacts.transactionId hnumber).1
  exact ⟨r, hr, hsame, attempt, hactive, hdispatch⟩

/-- A dispatch of the queue keeps to the claims without a write. -/
theorem Drains.spent [ReceiverTransport T] (h : Drains s s') (hs : Grounded s)
    (htracked : Tracked s) (hchecked : AttemptsChecked s) (honce : AtMostOneWrite s.calls)
    (hspent : Spent s) : AtMostOneWrite s'.calls ∧ Spent s' := by
  have hrecords : s'.records = s.records := by
    unfold records
    rw [h.store]
  have hold : ∀ call ∈ s.calls, MayHaveWritten call.answer → ∀ claimId,
      OfClaim claimId call.dispatch → (∀ q ∈ s'.pending, ¬ OfClaim claimId q.toDispatch) ∧
      ∀ r ∈ s'.records, r.claimId = claimId → r.status.isTerminal ∨
        ∃ attempt, r.status.activeAttempt = some attempt ∧ dispatchFromAttempt attempt = call.dispatch := by
    intro call hcall hwrote claimId hclaim
    obtain ⟨hidle, hrecord⟩ := hspent call hcall hwrote claimId hclaim
    refine ⟨fun q hq => hidle q (h.dequeued.subset hq), ?_⟩
    rw [hrecords]
    exact hrecord
  have hunchanged : s'.calls = s.calls → AtMostOneWrite s'.calls ∧ Spent s' := by
    intro hcalls
    refine ⟨hcalls ▸ honce, ?_⟩
    intro call hcall
    rw [hcalls] at hcall
    exact hold call hcall
  rcases h.dequeued.moved with hsame | ⟨q, hq, hmoved, hgone⟩
  · refine hunchanged ?_
    unfold calls
    rw [hsame]
  rcases hmoved.calls with hsame | ⟨answer, hadded⟩
  · exact hunchanged hsame
  have hadded : s'.calls = s.calls ++ [⟨q.toDispatch, answer⟩] := hadded
  rw [hadded]
  refine ⟨?_, ?_⟩
  · refine pairwise_append.mpr ⟨honce, pairwise_singleton _ _, ?_⟩
    intro earlier hearlier later hlater hwrote claimId hclaim
    rw [mem_singleton.mp hlater]
    exact (hspent earlier hearlier hwrote claimId hclaim).1 q hq
  intro call hcall hwrote claimId hclaim
  rw [hadded] at hcall
  rcases mem_append.mp hcall with hcall | hcall
  · exact hold call hcall hwrote claimId hclaim
  rw [mem_singleton.mp hcall] at hclaim ⊢
  obtain ⟨r, hr, hrclaim, attempt, hactive, hdispatch⟩ := htracked.ofClaim hchecked hq hclaim
  refine ⟨fun q' hq' hclaim' => ?_, fun r' hr' hr'claim => ?_⟩
  · obtain ⟨r', hr', hr'claim, attempt', hactive', hdispatch'⟩ :=
      htracked.ofClaim hchecked (h.dequeued.subset hq') hclaim'
    have hrecord : r' = r := eq_of_claimId hs.sound.distinct hr' hr (hr'claim.trans hrclaim.symm)
    rw [hrecord, hactive] at hactive'
    cases hactive'
    have hid : q'.toDispatch.transactionId = q.toDispatch.transactionId := by
      rw [hdispatch', hdispatch]
    exact hgone q' hq' hid
  rw [hrecords] at hr'
  have hrecord : r' = r := eq_of_claimId hs.sound.distinct hr' hr (hr'claim.trans hrclaim.symm)
  exact .inr ⟨attempt, hrecord ▸ hactive, hdispatch.symm⟩

def TellsWrites (terminals : List TransactionTerminal) (s : RestorationState (RecordedTransport T)) : Prop :=
  ∀ terminal ∈ terminals, ∀ call ∈ s.calls, MayHaveWritten call.answer →
    ∀ claimId, OfClaim claimId call.dispatch →
      terminal.transactionId = call.dispatch.transactionId → terminal.liveWriteExecuted

section
omit [RestorationDigests]

/-- The record of one claim moves on while the transport and the queue stay as they are. -/
theorem Spent.carried {status : RestoreRecordStatus → Prop} (h : Spent s)
    (hcarried : Carried s s' wrote) (hpending : s'.pending ⊆ s.pending)
    (hmoved : ∀ next, wrote = some next → ∃ st, status st ∧ transitionRecord record st = .ok next)
    (hstored : record ∈ s.records)
    (hended : ∀ call ∈ s.calls, MayHaveWritten call.answer → OfClaim record.claimId call.dispatch →
      record.status.isTerminal ∨ (∃ attempt, record.status.activeAttempt = some attempt ∧
        dispatchFromAttempt attempt = call.dispatch) → ∀ st, status st → st.isTerminal ∨
        ∃ attempt, st.activeAttempt = some attempt ∧ dispatchFromAttempt attempt = call.dispatch) :
    Spent s' := by
  intro call hcall hwrote claimId hclaim
  have hcall : call ∈ s.calls := by
    unfold calls at hcall
    rw [hcarried.transport] at hcall
    exact hcall
  obtain ⟨hidle, hrecords⟩ := h call hcall hwrote claimId hclaim
  refine ⟨fun q hq => hidle q (hpending hq), fun r hr hrclaim => ?_⟩
  rcases hcarried.replaced.origin r hr with hr | ⟨hr, _⟩
  · have hnext : wrote = some r := Option.mem_toList.mp hr
    obtain ⟨st, hst, hnextMoved⟩ := hmoved r hnext
    have hrecordClaim : record.claimId = claimId := by
      rw [← hrclaim, transitionRecord_claimId hnextMoved]
    rw [transitionRecord_status hnextMoved]
    subst hrecordClaim
    exact hended call hcall hwrote hclaim (hrecords record hstored rfl) st hst
  · exact hrecords r hr hrclaim

theorem not_terminal_of_active (h : record.status.activeAttempt = some attempt) :
    record.status.isTerminal = false := by
  cases hstatus : record.status <;> rw [hstatus] at h <;>
    simp [RestoreRecordStatus.activeAttempt, RestoreRecordStatus.isTerminal] at h ⊢

end

theorem Observes.spent {terminals : List TransactionTerminal} (h : Observes terminals s s')
    (hspent : Spent s) (htells : TellsWrites terminals s) : s'.calls = s.calls ∧ Spent s' := by
  induction h with
  | stop => exact ⟨rfl, hspent⟩
  | skip _ ih => exact ih hspent fun t ht => htells t (mem_cons_of_mem _ ht)
  | @finish terminal terminals s s₁ s' record attempt wrote stored valid active named quits rest ih =>
    have hcalls : s₁.calls = s.calls := by
      unfold calls
      rw [quits.transport]
    have hpending : s₁.pending ⊆ s.pending := by
      unfold pending
      rw [quits.coordinator]
      exact fun _ hq => hq
    have hspent₁ : Spent s₁ := by
      refine hspent.carried quits.toCarried hpending (fun next hnext => (quits.moved next hnext).1) stored ?_
      intro call hcall hwrote hclaim hrecord st hst
      left
      rcases hrecord with hterminal | ⟨attempt', hactive', hdispatch⟩
      · rw [not_terminal_of_active active] at hterminal
        cases hterminal
      rw [active] at hactive'
      cases hactive'
      have hid : terminal.transactionId = call.dispatch.transactionId := by
        rw [← named, ← hdispatch]
        rfl
      exact hst.terminal (htells terminal mem_cons_self call hcall hwrote _ hclaim hid)
    have htells₁ : TellsWrites terminals s₁ := by
      intro t ht call hcall
      rw [hcalls] at hcall
      exact htells t (mem_cons_of_mem _ ht) call hcall
    obtain ⟨hcalls', hspent'⟩ := ih hspent₁ htells₁
    exact ⟨hcalls'.trans hcalls, hspent'⟩

omit [RestorationDigests] in
theorem Answered.tells [ReceiverTransport T] {result : DispatchResult}
    (h : Answered s.core s'.core result) (hspent : Spent s) : TellsWrites result.terminals s' := by
  have hold : ∀ call ∈ s.calls, MayHaveWritten call.answer → ∀ claimId,
      OfClaim claimId call.dispatch → ∀ q ∈ s.pending, q.id ≠ call.dispatch.transactionId := by
    intro call hcall hwrote claimId hclaim q hq hid
    refine (hspent call hcall hwrote claimId hclaim).1 q hq ?_
    obtain ⟨number, hnumber⟩ := hclaim
    refine ⟨number, ?_⟩
    rw [← hid] at hnumber
    exact hnumber
  intro terminal hterminal call hcall hwrote claimId hclaim hid
  cases hcompleted : result.completed with
  | none =>
    have hcall : call ∈ s.calls := by
      unfold calls at hcall
      rw [h.idle hcompleted] at hcall
      exact hcall
    rcases mem_append.mp hterminal with hexpired | hcompletedTerminal
    · obtain ⟨q, hq, hfinished, _⟩ := h.expired terminal hexpired
      rw [hfinished.id] at hid
      exact absurd hid (hold call hcall hwrote claimId hclaim q hq)
    rw [hcompleted] at hcompletedTerminal
    cases hcompletedTerminal
  | some completed =>
    obtain ⟨taken, htaken, htakenAs⟩ := h.completed completed hcompleted
    have hcases : call ∈ s.calls ∨ (call.dispatch = taken.toDispatch ∧
        (MayHaveWritten call.answer → completed.terminal.liveWriteExecuted)) := by
      rcases htakenAs.calls with hsame | ⟨answer, hadded, hlive⟩
      · left
        unfold calls at hcall ⊢
        rw [← hsame]
        exact hcall
      unfold calls at hcall ⊢
      rw [hadded] at hcall
      rcases mem_append.mp hcall with hcall | hcall
      · exact .inl hcall
      rw [mem_singleton.mp hcall]
      exact .inr ⟨rfl, hlive⟩
    rcases mem_append.mp hterminal with hexpired | hcompletedTerminal
    · obtain ⟨q, hq, hfinished, hapart⟩ := h.expired terminal hexpired
      rw [hfinished.id] at hid
      rcases hcases with hcall | ⟨hdispatch, _⟩
      · exact absurd hid (hold call hcall hwrote claimId hclaim q hq)
      have hne := hapart completed hcompleted
      rw [htakenAs.id] at hne
      rw [hdispatch] at hid
      exact absurd hid hne
    rw [hcompleted] at hcompletedTerminal
    have hsame : terminal = completed.terminal := by simpa using hcompletedTerminal
    rw [hsame] at hid ⊢
    rcases hcases with hcall | ⟨_, hlive⟩
    · rw [htakenAs.id] at hid
      exact absurd hid (hold call hcall hwrote claimId hclaim taken htaken)
    · exact hlive hwrote

theorem DrainsAndObserves.spent [ReceiverTransport T] (h : DrainsAndObserves s s') (hs : Grounded s)
    (htracked : Tracked s) (hchecked : AttemptsChecked s) (honce : AtMostOneWrite s.calls)
    (hspent : Spent s) : AtMostOneWrite s'.calls ∧ Spent s' := by
  cases h with
  | drained drains => exact drains.spent hs htracked hchecked honce hspent
  | observed s₁ result drains answered observes =>
    obtain ⟨honce₁, hspent₁⟩ := drains.spent hs htracked hchecked honce hspent
    obtain ⟨hcalls, hspent'⟩ := observes.spent hspent₁ (answered.tells hspent)
    exact ⟨hcalls ▸ honce₁, hspent'⟩

variable [ReceiverTransport T]

def Unspent (s : RestorationState (RecordedTransport T)) (claimId : RestoreClaimId) : Prop :=
  ∀ call ∈ s.calls, MayHaveWritten call.answer → ¬ OfClaim claimId call.dispatch

omit [RestorationDigests] in
/-- A claim at work on something the transport has not seen has no write that may have happened. -/
theorem Spent.unspent (h : Spent s) (hhonest : Honest s.core.transport)
    (hstored : record ∈ s.records) (hopen : record.status.isTerminal = false)
    (hunobserved : ∀ attempt, record.status.activeAttempt = some attempt →
      reconcile s.core.transport (dispatchFromAttempt attempt) = .notObserved) :
    Unspent s record.claimId := by
  intro call hcall hwrote hclaim
  have hanswer := hhonest call hcall hwrote
  rcases (h call hcall hwrote _ hclaim).2 record hstored rfl with hterminal | ⟨attempt, hactive, hdispatch⟩
  · rw [hopen] at hterminal
    cases hterminal
  rw [← hdispatch, hunobserved attempt hactive] at hanswer
  exact hanswer

omit [RestorationDigests] [ReceiverTransport T] in
/-- What happens to a claim without a write is of no concern. -/
theorem Spent.elsewhere {claimId : RestoreClaimId} (h : Spent s) (hunspent : Unspent s claimId)
    (hcarried : Carried s s' wrote) (hclaim : ∀ next, wrote = some next → next.claimId = claimId)
    (hpending : ∀ q ∈ s'.pending, q ∈ s.pending ∨ OfClaim claimId q.toDispatch) : Spent s' := by
  intro call hcall hwrote claimId' hclaim'
  have hcall : call ∈ s.calls := by
    unfold calls at hcall
    rw [hcarried.transport] at hcall
    exact hcall
  have hother : claimId' ≠ claimId := by
    rintro rfl
    exact hunspent call hcall hwrote hclaim'
  obtain ⟨hidle, hrecords⟩ := h call hcall hwrote claimId' hclaim'
  refine ⟨fun q hq => ?_, fun r hr hrclaim => ?_⟩
  · rcases hpending q hq with hq | ⟨number, hnumber⟩
    · exact hidle q hq
    rintro ⟨number', hnumber'⟩
    exact hother (attemptId_inj hnumber' hnumber).1
  rcases hcarried.replaced.origin r hr with hr | ⟨hr, _⟩
  · have hnext : wrote = some r := Option.mem_toList.mp hr
    exact absurd (hrclaim.symm.trans (hclaim r hnext)) hother
  · exact hrecords r hr hrclaim

omit [ReceiverTransport T] in
theorem Submits.spent {now : MonotonicMs} (h : Submits record attempt now s s' wrote)
    (hspent : Spent s) (hunspent : Unspent s record.claimId) (hstored : record ∈ s.records)
    (hactive : record.status.activeAttempt = some attempt)
    (hfacts : AttemptFacts record attempt) : s'.calls = s.calls ∧ Spent s' := by
  refine ⟨?_, hspent.elsewhere hunspent h.carried h.claimId fun q hq => ?_⟩
  · unfold calls
    rw [h.carried.transport]
  rcases h.pending hstored hactive q hq with hold | ⟨_, hnew⟩
  · exact .inl hold
  right
  rw [hnew.toDispatch hfacts]
  exact ⟨attempt.attemptNumber, hfacts.transactionId⟩

omit [RestorationDigests] in
/-- A finished reconciliation closes the claims with a write that may have happened. -/
theorem Quits.spent (h : Quits attempt record (FromReconciliation attempt
      (reconcile s.core.transport (dispatchFromAttempt attempt))) s s' wrote)
    (hspent : Spent s) (hhonest : Honest s.core.transport) (hstored : record ∈ s.records)
    (hactive : record.status.activeAttempt = some attempt) :
    s'.calls = s.calls ∧ Spent s' := by
  have hpending : s'.pending ⊆ s.pending := by
    unfold pending
    rw [h.coordinator]
    exact fun _ hq => hq
  refine ⟨?_, ?_⟩
  · unfold calls
    rw [h.transport]
  refine hspent.carried h.toCarried hpending (fun next hnext => (h.moved next hnext).1) hstored ?_
  intro call hcall hwrote hclaim hrecord st hst
  left
  rcases hrecord with hterminal | ⟨attempt', hactive', hdispatch⟩
  · rw [not_terminal_of_active hactive] at hterminal
    cases hterminal
  rw [hactive] at hactive'
  cases hactive'
  have hanswer := hhonest call hcall hwrote
  rw [← hdispatch] at hanswer
  exact hst.terminal hanswer

theorem Advances.spent {authority : RestorationAuthority} {now : MonotonicMs} {ports : Authorities}
    (h : Advances record authority now ports s s' wrote) (hchecked : AttemptsChecked s)
    (hspent : Spent s) (hhonest : Honest s.core.transport) (hstored : record ∈ s.records)
    (hopen : record.status.isTerminal = false) : s'.calls = s.calls ∧ Spent s' := by
  have hquiet : ∀ {s₁ : RestorationState (RecordedTransport T)} {wrote : Option RestoreRecord},
      Unspent s record.claimId → Carried s s₁ wrote →
      s₁.core.coordinator = s.core.coordinator →
      (∀ next, wrote = some next → next.claimId = record.claimId) →
      s₁.calls = s.calls ∧ Spent s₁ := by
    intro s₁ wrote hunspent hcarried hcoordinator hclaim
    refine ⟨?_, hspent.elsewhere hunspent hcarried hclaim fun q hq => .inl ?_⟩
    · unfold calls
      rw [hcarried.transport]
    unfold pending at hq
    rw [hcoordinator] at hq
    exact hq
  cases h with
  | failed same => exact ⟨by rw [same], same ▸ hspent⟩
  | reconciled attempt active _ quits => exact quits.spent hspent hhonest hstored active
  | gated _ unobserved carried coordinator _ moved =>
    refine hquiet (hspent.unspent hhonest hstored hopen unobserved) carried coordinator ?_
    intro next hnext
    obtain ⟨_, _, hmoved⟩ := moved next hnext
    exact transitionRecord_claimId hmoved
  | kept attempt active unobserved _ submits =>
    have hunspent : Unspent s record.claimId := by
      refine hspent.unspent hhonest hstored hopen ?_
      intro attempt' hactive'
      rw [active] at hactive'
      cases hactive'
      exact unobserved
    exact submits.spent hspent hunspent hstored active
      (validateAttempt_facts (hchecked record hstored attempt active))
  | unprepared _ unobserved carried coordinator _ moved =>
    refine hquiet (hspent.unspent hhonest hstored hopen unobserved) carried coordinator ?_
    intro next hnext
    obtain ⟨_, hprepares⟩ := moved next hnext
    exact hprepares.claimId
  | replaced _ unobserved attempt prepared s₁ prepares carried coordinator _ submits =>
    have hunspent := hspent.unspent hhonest hstored hopen unobserved
    have hclaim : ∀ next, some prepared = some next → next.claimId = record.claimId := by
      rintro _ ⟨⟩
      exact prepares.claimId
    obtain ⟨hcalls₁, hspent₁⟩ := hquiet hunspent carried coordinator hclaim
    have hunspent₁ : Unspent s₁ prepared.claimId := by
      rw [prepares.claimId]
      intro call hcall
      rw [hcalls₁] at hcall
      exact hunspent call hcall
    have hprepared : prepared ∈ s₁.records := carried.replaced.arrived prepared (by simp)
    have hactive : prepared.status.activeAttempt = some attempt := by
      rw [prepares.valid.1]
      rfl
    obtain ⟨hcalls, hspent'⟩ := submits.spent hspent₁ hunspent₁ hprepared hactive
      (validateAttempt_facts prepares.valid.2)
    exact ⟨hcalls.trans hcalls₁, hspent'⟩

theorem DispatchesClaim.spent (h : DispatchesClaim record attempt s s') (hs : Grounded s)
    (htracked : Tracked s) (hchecked : AttemptsChecked s) (honce : AtMostOneWrite s.calls)
    (hspent : Spent s) (hhonest : Honest s.core.transport) (hstored : record ∈ s.records)
    (hqueued : record.status = .queued attempt) : AtMostOneWrite s'.calls ∧ Spent s' := by
  have hactive : record.status.activeAttempt = some attempt := by
    rw [hqueued]
    rfl
  have hunspent : reconcile s.core.transport (dispatchFromAttempt attempt) =
      .notObserved → Unspent s record.claimId := by
    intro hunobserved
    refine hspent.unspent hhonest hstored (not_terminal_of_active hactive) ?_
    intro attempt' hactive'
    rw [hactive] at hactive'
    cases hactive'
    exact hunobserved
  have hsame : ∀ {s₁ : RestorationState (RecordedTransport T)},
      s₁.core.transport = s.core.transport → s₁.calls = s.calls := by
    intro s₁ htransport
    unfold calls
    rw [htransport]
  cases h with
  | failed same => exact ⟨same ▸ honce, same ▸ hspent⟩
  | reconciled wrote _ quits =>
    obtain ⟨hcalls, hspent'⟩ := quits.spent hspent hhonest hstored hactive
    exact ⟨hcalls ▸ honce, hspent'⟩
  | cancelled s₁ wrote unobserved safe transport subset gone leases store quits =>
    have htransport : s'.core.transport = s.core.transport := quits.transport.trans transport
    have hrecords : s₁.records = s.records := by
      unfold records
      rw [store]
    refine ⟨hsame htransport ▸ honce, ?_⟩
    have hcarried : Carried s s' wrote := ⟨quits.safe, htransport, hrecords ▸ quits.replaced, quits.sound⟩
    refine hspent.elsewhere (hunspent unobserved) hcarried ?_ fun q hq => .inl ?_
    · intro next hnext
      obtain ⟨⟨_, _, hmoved⟩, _⟩ := quits.moved next hnext
      exact transitionRecord_claimId hmoved
    unfold pending at hq
    rw [quits.coordinator] at hq
    exact subset hq
  | unapplied wrote unobserved carried coordinator _ moved =>
    refine ⟨hsame carried.transport ▸ honce, ?_⟩
    refine hspent.elsewhere (hunspent unobserved) carried ?_ fun q hq => .inl ?_
    · exact fun next hnext => transitionRecord_claimId (moved next hnext)
    unfold pending at hq
    rw [coordinator] at hq
    exact hq
  | applied applying s₁ unobserved moved carried coordinator _ drains =>
    have hmoved : ∀ next, some applying = some next →
        transitionRecord record (.applying attempt) = .ok next := by
      rintro _ ⟨⟩
      exact moved
    have hpending : s₁.pending = s.pending := by
      unfold pending
      rw [coordinator]
    have hspent₁ : Spent s₁ := by
      refine hspent.elsewhere (hunspent unobserved) carried ?_ fun q hq => .inl (hpending ▸ hq)
      exact fun next hnext => transitionRecord_claimId (hmoved next hnext)
    have htracked₁ : Tracked s₁ := by
      intro q hq
      rw [hpending] at hq
      obtain ⟨old, hown, hsubmitted⟩ := htracked q hq
      exact ⟨old, hown.applying hs.sound hstored hactive carried hmoved, hsubmitted⟩
    have hchecked₁ : AttemptsChecked s₁ := by
      intro r hr old hold
      rcases carried.replaced.origin r hr with hr | ⟨hr, _⟩
      · rw [mem_singleton.mp (show r ∈ [applying] from hr)] at hold ⊢
        have hattempt := hchecked record hstored attempt hactive
        obtain ⟨_, revision, rfl⟩ := transitionRecord_ok moved
        cases hold
        exact hattempt
      · exact hchecked r hr old hold
    have honce₁ : AtMostOneWrite s₁.calls := hsame carried.transport ▸ honce
    exact drains.spent carried.grounded htracked₁ hchecked₁ honce₁ hspent₁

end Spent

section Runs

variable {T : Type} [ReceiverTransport T] [RestorationDigests]
  {start s : RestorationState (RecordedTransport T)}

/-- The calls the guarantee is about. -/
def RestorationOp.Dispatching : RestorationOp → Prop
  | .advanceClaim _ _ => True
  | .dispatchClaim _ => True
  | .dispatchNext _ => True
  | .restart _ => True
  | _ => False

structure HonestStep (s : RestorationState (RecordedTransport T))
    (step : RestorationStep (RecordedTransport T)) : Prop where
  dispatching : step.op.Dispatching
  history : step.transport.calls = s.calls
  honest : Honest step.transport

theorem RestorationStep.run_spent {step : RestorationStep (RecordedTransport T)} (hs : Grounded s)
    (htracked : Tracked s) (hchecked : AttemptsChecked s) (honce : AtMostOneWrite s.calls)
    (hspent : Spent s) (hstep : HonestStep s step) :
    AtMostOneWrite (step.run s).calls ∧ Spent (step.run s) := by
  have hs' : Grounded (step.enter s) := ⟨hs.sound, hs.safe⟩
  have htracked' : Tracked (step.enter s) := htracked
  have hchecked' : AttemptsChecked (step.enter s) := hchecked
  have hcalls : (step.enter s).calls = s.calls := hstep.history
  have honce' : AtMostOneWrite (step.enter s).calls := hcalls ▸ honce
  have hspent' : Spent (step.enter s) := by
    intro call hcall
    rw [hcalls] at hcall
    exact hspent call hcall
  have hhonest : Honest (step.enter s).core.transport := hstep.honest
  have hdispatching := hstep.dispatching
  cases step.run_effect hs with
  | same eq => exact ⟨eq ▸ honce', eq ▸ hspent'⟩
  | plans _ trigger op =>
    rw [op] at hdispatching
    cases hdispatching
  | advances claimId authority op record stored claim valid unfinished wrote advances =>
    obtain ⟨hsame, hafter⟩ := advances.spent hchecked' hspent' hhonest stored unfinished
    exact ⟨hsame ▸ honce', hafter⟩
  | dispatches claimId op record attempt stored claim valid queued dispatches =>
    exact dispatches.spent hs' htracked' hchecked' honce' hspent' hhonest stored queued
  | drains observe op drains => exact drains.spent hs' htracked' hchecked' honce' hspent'
  | retires receiverId generationId op =>
    rw [op] at hdispatching
    cases hdispatching
  | restarts capacity op coordinator new eq =>
    rw [eq]
    refine ⟨honce', ?_⟩
    intro call hcall hwrote claimId hclaim
    refine ⟨fun q hq => ?_, (hspent' call hcall hwrote claimId hclaim).2⟩
    have hempty : coordinator.queue.pending = [] := (new_safe new).1
    unfold pending at hq
    rw [hempty] at hq
    cases hq

/-- In every run that keeps what waits, no attempt of a claim is dispatched after one that may have
written. -/
theorem restorationReach_atMostOneWrite (hstart : RestorationStart start) (hfresh : start.calls = [])
    (hreach : RestorationReach (fun s step => HonestStep s step ∧ KeepsQueue s step) start s) :
    AtMostOneWrite s.calls := by
  suffices hall : Tracked s ∧ AtMostOneWrite s.calls ∧ Spent s from hall.2.1
  induction hreach with
  | start =>
    refine ⟨hstart.tracked, ?_, ?_⟩
    · rw [hfresh]
      exact List.Pairwise.nil
    intro call hcall
    rw [hfresh] at hcall
    cases hcall
  | step hbefore hstep ih =>
    obtain ⟨htracked, honce, hspent⟩ := ih
    have hgrounded := hbefore.grounded hstart.grounded
    have hchecked := hbefore.attemptsChecked hstart
    refine ⟨RestorationStep.run_tracked hgrounded htracked hchecked hstep.2, ?_⟩
    exact RestorationStep.run_spent hgrounded htracked hchecked honce hspent hstep.1

end Runs

structure RememberingTransport where
  delivered : List TransportDispatch

def deliveredReceipt : TransportReceipt :=
  ⟨.delivered, .lit 1, .committed, true, false, .unverified⟩

instance : ReceiverTransport RememberingTransport where
  currentGeneration _ _ := some sampleGeneration
  writeAvailable _ _ _ := true
  reconcile transport dispatch :=
    if dispatch ∈ transport.delivered then .retained deliveredReceipt else .notObserved
  dispatch transport dispatch := (.ok deliveredReceipt, ⟨dispatch :: transport.delivered⟩)

def sampleRestoredStart : RestorationState (RecordedTransport RememberingTransport) :=
  { sampleStart (RecordedTransport RememberingTransport) ⟨⟨[]⟩, false, []⟩ with store := samplePlanned.store }

theorem sampleRestoredStart_starts :
    letI := sampleRestorationDigests
    RestorationStart sampleRestoredStart := by
  let _ := sampleRestorationDigests
  have hone : sampleRestoredStart.records.length = 1 := by decide +kernel
  refine ⟨⟨1, rfl⟩, fun id => rfl, ⟨by decide +kernel, fun receiverId => ?_⟩, by decide +kernel⟩
  have hle : sampleRestoredStart.records.countP (·.receiverId = receiverId) ≤
      sampleRestoredStart.records.length := countP_le_length
  have hmax : maxRestoreRecordsPerReceiver = 256 := rfl
  omega

/-- A step of the sample run: the transport and the leases are as the run left them. -/
def sampleCall (op : RestorationOp) (now : MonotonicMs) (ports : Authorities)
    (s : RestorationState (RecordedTransport RememberingTransport)) : RestorationStep (RecordedTransport RememberingTransport) :=
  sampleStep op now ports s.core.transport s

def sampleFirst : RestorationStep (RecordedTransport RememberingTransport) :=
  sampleCall (.advanceClaim sampleClaim (sampleAuthority sampleNonce)) (.lit 0)
    sampleAuthorities sampleRestoredStart

def sampleWaiting : RestorationState (RecordedTransport RememberingTransport) :=
  letI := sampleRestorationDigests
  sampleFirst.run sampleRestoredStart

def sampleWrite : RestorationStep (RecordedTransport RememberingTransport) :=
  sampleCall (.dispatchClaim sampleClaim) (.lit 1) sampleAuthorities sampleWaiting

/-- Whether the transport that the run has come to keeps from denying its writes. -/
def honestlyKept (s : RestorationState (RecordedTransport RememberingTransport)) : Bool :=
  Honest s.core.transport

variable {now : MonotonicMs} {ports : Authorities}
  {s : RestorationState (RecordedTransport RememberingTransport)} {claimId : RestoreClaimId}

theorem sampleCall_honest {op : RestorationOp} (hop : op.Dispatching) (h : honestlyKept s = true) :
    HonestStep s (sampleCall op now ports s) :=
  ⟨hop, rfl, of_decide_eq_true h⟩

theorem reconcile_undelivered {transport : RecordedTransport RememberingTransport} (h : transport.inner.delivered = [])
    (dispatch : TransportDispatch) :
    reconcile transport dispatch = .notObserved := by
  show (if dispatch ∈ transport.inner.delivered then _ else _) = _
  rw [h]
  rfl

theorem sampleDispatch_keeps (h : s.core.transport.inner.delivered = []) :
    letI := sampleRestorationDigests
    KeepsQueue s (sampleCall (.dispatchClaim claimId) now ports s) := by
  intro r _ _ attempt _
  exact .inl (reconcile_undelivered h _)

theorem sampleAdvance_keeps {authority : RestorationAuthority}
    (h : ∀ r ∈ s.records, r.status.activeAttempt = none) :
    letI := sampleRestorationDigests
    KeepsQueue s (sampleCall (.advanceClaim claimId authority) now ports s) := by
  intro r hr _ attempt hactive
  rw [h r hr] at hactive
  cases hactive

/-- The device of the queued claim falls asleep, and the claim is deferred. -/
def sampleSleep : RestorationStep (RecordedTransport RememberingTransport) :=
  sampleCall (.advanceClaim sampleClaim (sampleAuthority sampleNonce)) (.lit 1)
    { sampleAuthorities with devices := ⟨fun _ => .sleeping⟩ } sampleWaiting

def sampleDeferred : RestorationState (RecordedTransport RememberingTransport) :=
  letI := sampleRestorationDigests
  sampleSleep.run sampleWaiting

/-- The device wakes up, and the queue is dispatched. -/
def sampleDrain : RestorationStep (RecordedTransport RememberingTransport) :=
  sampleCall (.dispatchNext true) (.lit 2) sampleAuthorities sampleDeferred

def sampleDrained : RestorationState (RecordedTransport RememberingTransport) :=
  letI := sampleRestorationDigests
  sampleDrain.run sampleDeferred

/-- The lease of the first attempt has elapsed, and the claim is advanced again. -/
def sampleRetry : RestorationStep (RecordedTransport RememberingTransport) :=
  sampleCall (.advanceClaim sampleClaim
    { sampleAuthority (.lit 2) with deadlineMs := .lit 5000 })
    (.lit 2000) sampleAuthorities sampleDrained

def sampleRetried : RestorationState (RecordedTransport RememberingTransport) :=
  letI := sampleRestorationDigests
  sampleRetry.run sampleDrained

def sampleRewrite : RestorationStep (RecordedTransport RememberingTransport) :=
  sampleCall (.dispatchClaim sampleClaim) (.lit 2001) sampleAuthorities
    sampleRetried

def WrittenTwice (claimId : RestoreClaimId) (one two : RestoreAttemptNumber) : List TransportCall → Prop
  | [first, second] => MayHaveWritten first.answer ∧
      typedId "restore-tx" (attemptSuffix claimId one) = .ok first.dispatch.transactionId ∧
      typedId "restore-tx" (attemptSuffix claimId two) = .ok second.dispatch.transactionId
  | _ => False

instance (claimId : RestoreClaimId) (one two : RestoreAttemptNumber) :
    DecidablePred (WrittenTwice claimId one two)
  | [_, _] => inferInstanceAs (Decidable (_ ∧ _))
  | [] => isFalse fun h => h
  | [_] => isFalse fun h => h
  | _ :: _ :: _ :: _ => isFalse fun h => h

theorem WrittenTwice.not_atMostOneWrite {one two : RestoreAttemptNumber} :
    ∀ {calls : List TransportCall}, WrittenTwice claimId one two calls → ¬ AtMostOneWrite calls
  | [_, second], ⟨hwrote, hone, htwo⟩, honce =>
    rel_of_pairwise_cons honce (mem_singleton_self second) hwrote claimId ⟨one, hone⟩ ⟨two, htwo⟩

def writtenTwice (s : RestorationState (RecordedTransport RememberingTransport)) : Bool :=
  WrittenTwice sampleClaim (.lit 1) (.lit 2) s.calls

theorem writtenTwice_not_atMostOneWrite (h : writtenTwice s = true) : ¬ AtMostOneWrite s.calls :=
  (of_decide_eq_true h).not_atMostOneWrite

/-- What the runs of the sample come to: the second one writes the claim again. -/
theorem sampleRuns :
    letI := sampleRestorationDigests
    sampleRestoredStart.calls = [] ∧ (∀ r ∈ sampleRestoredStart.records, r.status.activeAttempt = none) ∧
      sampleWaiting.core.transport.inner.delivered = [] ∧ (sampleWrite.run sampleWaiting).calls.length = 1 ∧
      honestlyKept sampleRestoredStart = true ∧ honestlyKept sampleWaiting = true ∧
      honestlyKept sampleDeferred = true ∧ honestlyKept sampleDrained = true ∧
      honestlyKept sampleRetried = true ∧ writtenTwice (sampleRewrite.run sampleRetried) = true := by
  decide +kernel

theorem restorationReach_atMostOneWrite_sample :
    letI := sampleRestorationDigests
    (sampleWrite.run sampleWaiting).calls.length = 1 ∧
      AtMostOneWrite (sampleWrite.run sampleWaiting).calls := by
  let _ := sampleRestorationDigests
  obtain ⟨hfresh, hinactive, hunseen, hone, hhonest, hhonest', -⟩ := sampleRuns
  have hfirst : HonestStep sampleRestoredStart sampleFirst ∧ KeepsQueue sampleRestoredStart sampleFirst :=
    ⟨sampleCall_honest trivial hhonest, sampleAdvance_keeps hinactive⟩
  have hwaiting : RestorationReach (fun s step => HonestStep s step ∧ KeepsQueue s step)
      sampleRestoredStart sampleWaiting := .step .start hfirst
  have hsecond : HonestStep sampleWaiting sampleWrite ∧ KeepsQueue sampleWaiting sampleWrite :=
    ⟨sampleCall_honest trivial hhonest', sampleDispatch_keeps hunseen⟩
  have hwritten : RestorationReach (fun s step => HonestStep s step ∧ KeepsQueue s step)
      sampleRestoredStart (sampleWrite.run sampleWaiting) := .step hwaiting hsecond
  have honce := restorationReach_atMostOneWrite sampleRestoredStart_starts hfresh hwritten
  exact ⟨hone, honce⟩

theorem sampleRetried_reach :
    letI := sampleRestorationDigests
    RestorationReach HonestStep sampleRestoredStart sampleRetried := by
  let _ := sampleRestorationDigests
  obtain ⟨-, -, -, -, hstart, hhonest, hasleep, hwritten, -⟩ := sampleRuns
  have hfirst : HonestStep sampleRestoredStart sampleFirst := sampleCall_honest trivial hstart
  have hwaiting : RestorationReach HonestStep sampleRestoredStart sampleWaiting := .step .start hfirst
  have hsleep : HonestStep sampleWaiting sampleSleep := sampleCall_honest trivial hhonest
  have hdeferred : RestorationReach HonestStep sampleRestoredStart sampleDeferred := .step hwaiting hsleep
  have hdrain : HonestStep sampleDeferred sampleDrain := sampleCall_honest trivial hasleep
  have hdrained : RestorationReach HonestStep sampleRestoredStart sampleDrained := .step hdeferred hdrain
  have hretry : HonestStep sampleDrained sampleRetry := sampleCall_honest trivial hwritten
  exact .step hdrained hretry

/-- The deferred claim's transaction is still written, and then the claim is written again. -/
theorem restoration_writes_claim_twice :
    letI := sampleRestorationDigests
    RestorationStart sampleRestoredStart ∧ sampleRestoredStart.calls = [] ∧
      ¬ ∀ s, RestorationReach HonestStep sampleRestoredStart s → AtMostOneWrite s.calls := by
  let _ := sampleRestorationDigests
  obtain ⟨hfresh, -, -, -, -, -, -, -, hhonest, htwice⟩ := sampleRuns
  refine ⟨sampleRestoredStart_starts, hfresh, fun h => ?_⟩
  have hrewrite : HonestStep sampleRetried sampleRewrite := sampleCall_honest trivial hhonest
  have hretried : RestorationReach HonestStep sampleRestoredStart sampleRetried := sampleRetried_reach
  have hrewritten : RestorationReach HonestStep sampleRestoredStart
      (sampleRewrite.run sampleRetried) := .step hretried hrewrite
  exact writtenTwice_not_atMostOneWrite htwice (h _ hrewritten)

end HyperfluxNext
