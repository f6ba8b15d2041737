import HyperfluxNext.Restoration.DispatchEffects
import HyperfluxNext.Restoration.PlanEffects

namespace HyperfluxNext

open Procedure List

variable [RestorationDigests]

/-- Where the completion of an attempt can come from; `answers` relates the attempts a call asked
the transport about to what it said. -/
inductive CompletionSource (answers : RestoreAttempt → TransportReconciliation → Prop)
    (attempt : RestoreAttempt) (completion : RestoreCompletion) : Prop
  | terminal (terminal : TransactionTerminal) (consistent : ConsistentTerminal terminal)
      (from_ : completionFromTerminal attempt terminal = .ok completion)
  | unknown (kind : ProtocolErrorKind) (from_ : completion = unknownCompletion attempt kind)
  | answer (reconciliation : TransportReconciliation) (asked : answers attempt reconciliation)
      (from_ : completionFromReconciliation attempt reconciliation = .ok (some completion))

/-- The records the restoration calls write, each from a record that passed the loader. -/
inductive Writable (answers : RestoreAttempt → TransportReconciliation → Prop) (next : RestoreRecord) : Prop
  | withdrawn (record : RestoreRecord) (st : RestoreRecordStatus)
      (valid : validateRecord record = .ok ()) (plain : Withdrawn st)
      (moved : transitionRecord record st = .ok next)
  | attempted (record : RestoreRecord) (number : Option RestoreAttemptNumber)
      (attempt : RestoreAttempt) (st : RestoreRecordStatus)
      (valid : validateRecord record = .ok ()) (active : st.activeAttempt = some attempt)
      (checked : validateAttempt { record with lastAttempt := number } attempt = .ok ())
      (moved : transitionRecord { record with lastAttempt := number } st = .ok next)
  | completed (record : RestoreRecord) (attempt : RestoreAttempt) (completion : RestoreCompletion)
      (st : RestoreRecordStatus) (valid : validateRecord record = .ok ())
      (active : record.status.activeAttempt = some attempt)
      (source : CompletionSource answers attempt completion)
      (status : st = finishStatus completion ∨ st = retireStatus completion)
      (moved : transitionRecord record st = .ok next)
  | cancelled (record : RestoreRecord) (attempt : RestoreAttempt) (queued : QueuedTransaction)
      (terminal : TransactionTerminal) (completion : RestoreCompletion)
      (reason : RestoreDeferReason) (valid : validateRecord record = .ok ())
      (active : record.status.activeAttempt = some attempt)
      (unsent : FinishedAs queued .revoked none none unsentFacts terminal)
      (from_ : completionFromTerminal attempt terminal = .ok completion)
      (moved : transitionRecord record (.deferred ⟨reason, some completion⟩) = .ok next)
  | planned (trigger : RestoreTrigger) (intent : PersistedStableIntent)
      (built : newRestoreRecord trigger intent = .ok next)

/-- Everything new in the store is something the calls write. -/
def WritesOnly {T : Type} (answers : RestoreAttempt → TransportReconciliation → Prop)
    (s s' : RestorationState T) : Prop :=
  ∀ r ∈ s'.records, r ∈ s.records ∨ Writable answers r

section

variable {T : Type} {answers : RestoreAttempt → TransportReconciliation → Prop}
  {s s₁ s' : RestorationState T} {record : RestoreRecord} {attempt : RestoreAttempt}

theorem WritesOnly.refl (s : RestorationState T) : WritesOnly answers s s := fun _ hr => .inl hr

theorem WritesOnly.trans (h : WritesOnly answers s s₁) (h' : WritesOnly answers s₁ s') :
    WritesOnly answers s s' := by
  intro r hr
  rcases h' r hr with hr | hr
  · exact h r hr
  · exact .inr hr

theorem writesOnly_of_replaced {written : List RestoreRecord}
    (h : Replaced s.records s'.records written) (hw : ∀ r ∈ written, Writable answers r) :
    WritesOnly answers s s' := by
  intro r hr
  rcases h.origin r hr with hr | ⟨hr, _⟩
  · exact .inr (hw r hr)
  · exact .inl hr

variable {wrote : Option RestoreRecord} {next prepared : RestoreRecord} {authority : RestorationAuthority}
  {st : RestoreRecordStatus} {now : MonotonicMs}

theorem Carried.writesOnly (h : Carried s s' wrote) (hw : ∀ next, wrote = some next → Writable answers next)
    : WritesOnly answers s s' :=
  writesOnly_of_replaced h.replaced (fun r hr => hw r (Option.mem_toList.mp hr))

theorem Concluded.writable (h : Concluded attempt st) (hvalid : validateRecord record = .ok ())
    (hactive : record.status.activeAttempt = some attempt) (hmoved : transitionRecord record st = .ok next)
    : Writable answers next := by
  rcases h with ⟨terminal, hconsistent, completion, hfrom, rfl⟩ | rfl | hplain
  · exact .completed record attempt completion _ hvalid hactive (.terminal terminal hconsistent hfrom)
      (.inl rfl) hmoved
  · exact .completed record attempt _ _ hvalid hactive (.unknown _ rfl) (.inl rfl) hmoved
  · exact .withdrawn record st hvalid hplain hmoved

theorem activeAttempt_checked (hvalid : validateRecord record = .ok ())
    (hactive : record.status.activeAttempt = some attempt) :
    validateAttempt record attempt = .ok () :=
  validateStatus_active (validateRecord_ok hvalid).2.2 hactive

theorem Submits.writesOnly (h : Submits record attempt now s s' wrote) (hvalid : validateRecord record = .ok ())
    (hactive : record.status.activeAttempt = some attempt) : WritesOnly answers s s' := by
  cases h with
  | refused carried _ _ _ _ moved =>
    refine carried.writesOnly fun next hnext => ?_
    obtain ⟨st, hplain, hmoved⟩ := moved next hnext
    exact .withdrawn record st hvalid hplain hmoved
  | queued carried _ _ _ moved =>
    refine carried.writesOnly fun next hnext => ?_
    exact .attempted record record.lastAttempt attempt (.queued attempt) hvalid rfl
      (activeAttempt_checked hvalid hactive) (moved next hnext)
  | ended carried _ _ _ _ moved =>
    refine carried.writesOnly fun next hnext => ?_
    obtain ⟨⟨st, hconcluded, hmoved⟩, _⟩ := moved next hnext
    exact hconcluded.writable hvalid hactive hmoved

/-- Moving a loaded record on keeps it loadable when its new status passes the check. -/
theorem validateRecord_transition {number : Option RestoreAttemptNumber}
    (hvalid : validateRecord record = .ok ())
    (hmoved : transitionRecord { record with lastAttempt := number } st = .ok next)
    (hstatus : validateStatus next = .ok ()) : validateRecord next = .ok () := by
  obtain ⟨hschema, hclaim, _⟩ := validateRecord_ok hvalid
  obtain ⟨_, revision, rfl⟩ := transitionRecord_ok hmoved
  have hclaim' : claimIdForRecord { record with
      lastAttempt := number, revision := revision, status := st } = .ok record.claimId := hclaim
  simp [validateRecord, hschema, hclaim', reject, hstatus, bind, Except.bind]

theorem validateStatus_attempt {attempt : RestoreAttempt} (hactive : record.status.activeAttempt = some attempt)
    (h : validateAttempt record attempt = .ok ()) : validateStatus record = .ok () := by
  unfold validateStatus
  cases hstatus : record.status <;> rw [hstatus] at hactive <;>
    simp only [RestoreRecordStatus.activeAttempt, Option.some.injEq, reduceCtorEq] at hactive <;>
    exact hactive ▸ h

theorem Prepares.validRecord (h : Prepares record authority attempt prepared)
    (hvalid : validateRecord record = .ok ()) :
    validateRecord prepared = .ok () := by
  obtain ⟨hstatus, hattempt⟩ := h.valid
  obtain ⟨number, intent, _, _, hmoved⟩ := h
  refine validateRecord_transition hvalid hmoved (validateStatus_attempt ?_ hattempt)
  rw [hstatus]
  rfl

theorem Prepares.writable (h : Prepares record authority attempt prepared)
    (hvalid : validateRecord record = .ok ()) :
    Writable answers prepared := by
  obtain ⟨_, hattempt⟩ := h.valid
  obtain ⟨number, intent, _, _, hmoved⟩ := h
  refine .attempted record (some number) attempt (.prepared attempt) hvalid rfl ?_ hmoved
  obtain ⟨_, revision, rfl⟩ := transitionRecord_ok hmoved
  exact hattempt

variable [ReceiverTransport T]

theorem Advances.writesOnly {ports : Authorities} (h : Advances record authority now ports s s' wrote)
    (hvalid : validateRecord record = .ok ())
    (hasked : ∀ attempt, record.status.activeAttempt = some attempt → answers attempt
      (ReceiverTransport.reconcile s.core.transport (dispatchFromAttempt attempt))) :
    WritesOnly answers s s' := by
  cases h with
  | failed same =>
    subst same
    exact WritesOnly.refl _
  | reconciled attempt active _ quits =>
    refine quits.toCarried.writesOnly fun next hnext => ?_
    obtain ⟨⟨st, ⟨completion, hfrom, rfl⟩, hmoved⟩, _⟩ := quits.moved next hnext
    exact .completed record attempt completion _ hvalid active
      (.answer _ (hasked attempt active) hfrom) (.inl rfl) hmoved
  | gated _ _ carried _ _ moved =>
    refine carried.writesOnly fun next hnext => ?_
    obtain ⟨st, hplain, hmoved⟩ := moved next hnext
    exact .withdrawn record st hvalid hplain hmoved
  | kept attempt active _ _ submits => exact submits.writesOnly hvalid active
  | unprepared _ _ carried _ _ moved =>
    refine carried.writesOnly fun next hnext => ?_
    obtain ⟨attempt, hprepares⟩ := moved next hnext
    exact hprepares.writable hvalid
  | replaced _ _ attempt prepared s₁ prepares carried _ _ submits =>
    have hfirst : WritesOnly answers s s₁ := by
      refine carried.writesOnly fun next hnext => ?_
      cases hnext
      exact prepares.writable hvalid
    refine hfirst.trans (submits.writesOnly (prepares.validRecord hvalid) ?_)
    rw [prepares.valid.1]
    rfl

omit [ReceiverTransport T] in
theorem Observes.writesOnly {terminals : List TransactionTerminal} (h : Observes terminals s s')
    (hconsistent : ∀ terminal ∈ terminals, ConsistentTerminal terminal) :
    WritesOnly answers s s' := by
  induction h with
  | stop => exact WritesOnly.refl _
  | skip _ ih => exact ih fun t ht => hconsistent t (mem_cons_of_mem _ ht)
  | finish stored valid active named quits _ ih =>
    refine WritesOnly.trans ?_ (ih fun t ht => hconsistent t (mem_cons_of_mem _ ht))
    refine quits.toCarried.writesOnly fun next hnext => ?_
    obtain ⟨⟨st, ⟨completion, hfrom, rfl⟩, hmoved⟩, _⟩ := quits.moved next hnext
    exact .completed _ _ completion _ valid active
      (.terminal _ (hconsistent _ mem_cons_self) hfrom) (.inl rfl) hmoved

omit [RestorationDigests] in
theorem Answered.consistent {c c' : CoordinatorState T} {result : DispatchResult}
    (h : Answered c c' result) : ∀ terminal ∈ result.terminals, ConsistentTerminal terminal := by
  intro terminal ht
  rcases mem_append.mp ht with ht | ht
  · obtain ⟨q, _, hfinished, _⟩ := h.expired terminal ht
    exact hfinished.consistent (unsent_consistent _ (.inl rfl))
  obtain ⟨completed, hcompleted, rfl⟩ := Option.map_eq_some_iff.mp (Option.mem_toList.mp ht)
  obtain ⟨q, _, htaken⟩ := h.completed completed hcompleted
  exact htaken.consistent

omit [ReceiverTransport T] in
theorem writesOnly_of_store (h : s'.store = s.store) : WritesOnly answers s s' := by
  intro r hr
  unfold RestorationState.records at hr
  rw [h] at hr
  exact .inl hr

theorem DrainsAndObserves.writesOnly (h : DrainsAndObserves s s') : WritesOnly answers s s' := by
  cases h with
  | drained drains => exact writesOnly_of_store drains.store
  | observed s₁ result drains answered observes =>
    exact (writesOnly_of_store drains.store).trans (observes.writesOnly answered.consistent)

theorem DispatchesClaim.writesOnly (h : DispatchesClaim record attempt s s')
    (hvalid : validateRecord record = .ok ()) (hqueued : record.status = .queued attempt)
    (hasked : answers attempt (ReceiverTransport.reconcile s.core.transport (dispatchFromAttempt attempt))) :
    WritesOnly answers s s' := by
  have hactive : record.status.activeAttempt = some attempt := by
    rw [hqueued]
    rfl
  have happlying : ∀ next, transitionRecord record (.applying attempt) = .ok next →
      Writable answers next := fun next hmoved =>
    .attempted record record.lastAttempt attempt (.applying attempt) hvalid rfl
      (activeAttempt_checked hvalid hactive) hmoved
  cases h with
  | failed same =>
    subst same
    exact WritesOnly.refl _
  | reconciled wrote _ quits =>
    refine quits.toCarried.writesOnly fun next hnext => ?_
    obtain ⟨⟨st, ⟨completion, hfrom, rfl⟩, hmoved⟩, _⟩ := quits.moved next hnext
    exact .completed record attempt completion _ hvalid hactive (.answer _ hasked hfrom) (.inl rfl) hmoved
  | cancelled s₁ wrote _ _ _ _ _ _ store quits =>
    refine (writesOnly_of_store store).trans (quits.toCarried.writesOnly fun next hnext => ?_)
    obtain ⟨⟨st, hcancelled, hmoved⟩, _⟩ := quits.moved next hnext
    rcases hcancelled with ⟨reason, queued, terminal, completion, hunsent, hfrom, rfl⟩ | ⟨reason, rfl⟩
    · exact .cancelled record attempt queued terminal completion reason hvalid hactive hunsent hfrom hmoved
    · exact .withdrawn record _ hvalid (.inr ⟨reason, rfl⟩) hmoved
  | unapplied wrote _ carried _ _ moved =>
    exact carried.writesOnly fun next hnext => happlying next (moved next hnext)
  | applied applying s₁ _ moved carried _ _ drains =>
    refine WritesOnly.trans (carried.writesOnly fun next hnext => ?_) drains.writesOnly
    cases hnext
    exact happlying applying moved

omit [ReceiverTransport T] in
theorem Plans.writesOnly (h : Plans s s') : WritesOnly answers s s' := by
  induction h with
  | stop => exact WritesOnly.refl _
  | keep stored _ ih => exact (writesOnly_of_replaced stored.replaced (by simp)).trans ih
  | supersede _ _ valid moved stored _ ih =>
    refine (writesOnly_of_replaced stored.replaced fun r hr => ?_).trans ih
    rw [mem_singleton.mp hr]
    exact .withdrawn _ _ valid (.inr ⟨_, rfl⟩) moved
  | create _ built stored _ ih =>
    refine (writesOnly_of_replaced stored.replaced fun r hr => ?_).trans ih
    rw [mem_singleton.mp hr]
    exact .planned _ _ built

theorem RetiredAs.writable (h : RetiredAs s.core.transport s.core.coordinator record next)
    (hsafe : CoordinatorSafe s.core.coordinator) (hvalid : validateRecord record = .ok ())
    (hasked : ∀ attempt, record.status.activeAttempt = some attempt →
      s.core.coordinator.outcomes.lookup attempt.request.clientId attempt.request.transactionId =
        .unknown → answers attempt
          (ReceiverTransport.reconcile s.core.transport (dispatchFromAttempt attempt))) :
    Writable answers next := by
  rcases h with ⟨_, hmoved⟩ | ⟨attempt, completion, hactive, hcompletion, hmoved⟩
  · exact .withdrawn record _ hvalid (.inr ⟨_, rfl⟩) hmoved
  cases completion with
  | none => exact .withdrawn record _ hvalid (.inr ⟨_, rfl⟩) hmoved
  | some completion =>
    refine .completed record attempt completion _ hvalid hactive ?_ (.inr rfl) hmoved
    unfold retirementCompletion at hcompletion
    split at hcompletion
    next terminal hlookup =>
      have hterminal : ConsistentTerminal terminal := by
        unfold BoundedOutcomeJournal.lookup at hlookup
        split at hlookup
        next stored hret =>
          split at hlookup
          · have hresult := OutcomeLookup.retained.inj hlookup
            exact hsafe.consistent _ stored terminal hret hresult
          · cases hlookup
        split at hlookup
        · cases hlookup
        · split at hlookup <;> cases hlookup
      refine .terminal terminal hterminal ?_
      cases hfrom : completionFromTerminal attempt terminal with
      | error error => rw [hfrom] at hcompletion; cases hcompletion
      | ok found => rw [hfrom] at hcompletion; cases hcompletion; rfl
    · cases hcompletion; exact .unknown _ rfl
    · cases hcompletion
    · cases hcompletion; exact .unknown _ rfl
    · cases hcompletion
    next hlookup => exact .answer _ (hasked attempt hactive hlookup) hcompletion

omit [RestorationDigests] in
theorem forall₂_right {α β : Type} {R : α → β → Prop} {xs : List α} {ys : List β}
    (h : List.Forall₂ R xs ys) : ∀ y ∈ ys, ∃ x ∈ xs, R x y := by
  induction h with
  | nil => simp
  | cons hr _ ih =>
    intro y hy
    rcases mem_cons.mp hy with rfl | hy
    · exact ⟨_, mem_cons_self, hr⟩
    obtain ⟨x, hx, hxy⟩ := ih y hy
    exact ⟨x, mem_cons_of_mem _ hx, hxy⟩

theorem Retires.writesOnly {receiverId : ReceiverId} {generationId : GenerationId}
    (h : Retires receiverId generationId s s') (hsafe : CoordinatorSafe s.core.coordinator)
    (hasked : ∀ record attempt, OwnRecord receiverId generationId s record →
      record.status.activeAttempt = some attempt →
      s.core.coordinator.outcomes.lookup attempt.request.clientId attempt.request.transactionId =
        .unknown → answers attempt
          (ReceiverTransport.reconcile s.core.transport (dispatchFromAttempt attempt))) :
    WritesOnly answers s s' := by
  have hupdated : ∀ records updated : List RestoreRecord,
      (∀ r ∈ records, OwnRecord receiverId generationId s r) →
      List.Forall₂ (RetiredAs s.core.transport s.core.coordinator) records updated →
      ∀ r ∈ updated, Writable answers r := by
    intro records updated hown hretired r hr
    obtain ⟨record, hrecord, hretiredAs⟩ := forall₂_right hretired r hr
    exact hretiredAs.writable hsafe (hown record hrecord).2.2.2
      fun attempt => hasked record attempt (hown record hrecord)
  cases h with
  | failed stored => exact writesOnly_of_replaced stored.replaced (by simp)
  | torn records updated own retired _ stored =>
    exact writesOnly_of_replaced stored.replaced (hupdated records updated own retired)
  | retired records updated own retired _ _ _ _ replaced _ =>
    exact writesOnly_of_replaced replaced (hupdated records updated own retired)

end

end HyperfluxNext
