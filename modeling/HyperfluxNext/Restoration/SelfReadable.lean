import HyperfluxNext.Restoration.Runs

namespace HyperfluxNext

open Procedure List

def EffectHasWrite (facts : TransportFailureFacts) : Prop :=
  facts.liveWriteExecuted ∨ 0 < facts.deliveredFrames.get ∨ facts.sideEffectCertainty = .none

/-- An answer the loader can take back: its facts agree, or it is a revocation, whose facts are
not kept. -/
def Readable : TransportReconciliation → Prop
  | .retained receipt => receipt.terminal = .revoked ∨ EffectHasWrite receipt.facts
  | .retainedFailure facts => EffectHasWrite facts
  | _ => True

structure SoundCompletion (attempt : RestoreAttempt) (completion : RestoreCompletion) : Prop where
  number : completion.attemptNumber = attempt.attemptNumber
  transaction : completion.transactionId = attempt.request.transactionId
  retry : completion.automaticRetry → completion.liveWriteExecuted = false ∧
    completion.deliveredFrames.get = 0 ∧ completion.sideEffectCertainty = .none ∧
    (completion.state = .failed ∨ completion.state = .revoked)
  bounded : completion.deliveredFrames.get ≤ 1
  delivered : 0 < completion.deliveredFrames.get → completion.liveWriteExecuted
  effect : completion.sideEffectCertainty ≠ .none → completion.liveWriteExecuted ∨
    (completion.state = .revoked ∧ completion.errorKind = some .staleGeneration)
  failure : completion.state = .failed → completion.errorKind.isSome

variable {terminal : TransactionTerminal}

section Completions

variable {attempt : RestoreAttempt} {completion : RestoreCompletion} {reported : TransportFailureFacts}

theorem completionFromTerminal_sound (h : completionFromTerminal attempt terminal = .ok completion)
    (hconsistent : ConsistentTerminal terminal) : SoundCompletion attempt completion := by
  unfold completionFromTerminal at h
  obtain ⟨_, hchecked, h⟩ := bind_eq_ok h
  cases h
  have hchecked := reject_eq_ok hchecked
  simp only [not_or, not_not, Nat.not_lt, gt_iff_lt] at hchecked
  exact ⟨rfl, hchecked.2.2.1, hconsistent.retry, hchecked.2.2.2.2.2.2, hconsistent.delivered,
    fun he => .inl (hconsistent.effect he), hconsistent.failure⟩

theorem unknownCompletion_sound (attempt : RestoreAttempt) (kind : ProtocolErrorKind) :
    SoundCompletion attempt (unknownCompletion attempt kind) := by
  refine ⟨rfl, rfl, ?_, ?_, fun _ => rfl, fun _ => .inl rfl, fun _ => rfl⟩
  · intro hretry
    cases hretry
  · simp [unknownCompletion, zeroDelivered]

theorem deliveredFrameCount_ok {delivered : Nat} (h : delivered ≤ 4096) :
    Restoration.deliveredFrameCount delivered = .ok ⟨delivered, Nat.zero_le _, h⟩ := by
  unfold Restoration.deliveredFrameCount
  rw [Bounded.tryFrom_of_mem (Nat.zero_le _) h]

theorem restorationNormalizeFacts_ok {facts : TransportFailureFacts}
    (h : Restoration.normalizeFacts reported = .ok facts) :
    facts.deliveredFrames.get = min reported.deliveredFrames.get 1 ∧
      (0 < facts.deliveredFrames.get → facts.liveWriteExecuted) ∧
      (facts.automaticRetrySafe → facts.liveWriteExecuted = false ∧
        facts.deliveredFrames.get = 0 ∧ facts.sideEffectCertainty = .none) ∧
      (EffectHasWrite reported → facts.sideEffectCertainty ≠ .none → facts.liveWriteExecuted) := by
  unfold Restoration.normalizeFacts at h
  have hle : min reported.deliveredFrames.get 1 ≤ 4096 := by omega
  obtain ⟨count, hcount, h⟩ := bind_eq_ok h
  rw [deliveredFrameCount_ok hle] at hcount
  cases hcount
  by_cases hpos : min reported.deliveredFrames.get 1 > 0
  · simp only [hpos, pure, Except.pure, if_true, Except.ok.injEq] at h
    subst h
    refine ⟨rfl, fun _ => rfl, ?_, fun _ _ => rfl⟩
    intro hretry
    simp at hretry
  have hzero : min reported.deliveredFrames.get 1 = 0 := by omega
  by_cases hlive : reported.liveWriteExecuted = true ∧ reported.sideEffectCertainty = .none
  · simp only [hpos, hlive, pure, Except.pure, if_false, and_self, if_true, Except.ok.injEq] at h
    subst h
    refine ⟨rfl, fun _ => rfl, ?_, fun _ _ => rfl⟩
    intro hretry
    simp at hretry
  simp only [hpos, hlive, pure, Except.pure, if_false, Except.ok.injEq] at h
  subst h
  refine ⟨rfl, fun hd => absurd hd hpos, ?_, ?_⟩
  · intro hretry
    simp only [decide_eq_true_eq] at hretry
    exact hretry.2
  rintro (hl | hd | hn) hne
  · exact hl
  · exfalso
    omega
  · exact absurd hn hne

theorem completionFromReceipt_sound {receipt : TransportReceipt}
    (h : completionFromReceipt attempt receipt = .ok completion) (hreadable : Readable (.retained receipt))
    : SoundCompletion attempt completion := by
  unfold completionFromReceipt at h
  obtain ⟨facts, hfacts, h⟩ := bind_eq_ok h
  obtain ⟨hcount, hdelivered, hretry, heffect⟩ := restorationNormalizeFacts_ok hfacts
  generalize hsuccessful : decide (¬ decide (receipt.deliveredFrames.get > 1) = true ∧
    receipt.terminal = .delivered ∧ facts.deliveredFrames.get = 1 ∧
    facts.sideEffectCertainty = .committed ∧ facts.liveWriteExecuted = true ∧
    facts.deviceApplication ≠ .rejected) = successful at h
  have hbounded : facts.deliveredFrames.get ≤ 1 := by omega
  cases successful with
  | true =>
    simp only [decide_eq_true_eq] at hsuccessful
    simp only [if_true, pure, Except.pure, Except.ok.injEq] at h
    subst h
    refine ⟨rfl, rfl, by simp, hbounded, hdelivered, fun _ => .inl hsuccessful.2.2.2.2.1, by simp⟩
  | false =>
    by_cases hrevoked : receipt.terminal = .revoked
    · simp only [Bool.false_eq_true, if_false, hrevoked, if_true, pure, Except.pure, Except.ok.injEq] at h
      subst h
      refine ⟨rfl, rfl, ?_, hbounded, hdelivered, fun _ => .inr ⟨rfl, rfl⟩, by simp⟩
      intro hr
      simp only [Bool.not_false, Bool.and_true] at hr
      obtain ⟨hl, hd, hn⟩ := hretry hr
      exact ⟨hl, hd, hn, .inr rfl⟩
    have hwrite : EffectHasWrite receipt.facts := hreadable.resolve_left hrevoked
    simp only [Bool.false_eq_true, if_false, hrevoked, pure, Except.pure, Except.ok.injEq] at h
    subst h
    refine ⟨rfl, rfl, ?_, hbounded, hdelivered, fun hne => .inl (heffect hwrite hne), ?_⟩
    · intro hr
      simp only [Bool.not_false, Bool.and_true] at hr
      obtain ⟨hl, hd, hn⟩ := hretry hr
      refine ⟨hl, hd, hn, .inl ?_⟩
      split <;> rfl
    intro _
    split <;> rfl

theorem completionFromFailure_sound (h : completionFromFailure attempt reported = .ok completion)
    (hreadable : EffectHasWrite reported) : SoundCompletion attempt completion := by
  unfold completionFromFailure at h
  obtain ⟨facts, hfacts, h⟩ := bind_eq_ok h
  cases h
  obtain ⟨hcount, hdelivered, hretry, heffect⟩ := restorationNormalizeFacts_ok hfacts
  refine ⟨rfl, rfl, ?_, ?_, hdelivered, fun hne => .inl (heffect hreadable hne), fun _ => rfl⟩
  · intro hr
    obtain ⟨hl, hd, hn⟩ := hretry hr
    exact ⟨hl, hd, hn, .inl rfl⟩
  show facts.deliveredFrames.get ≤ 1
  omega

theorem completionFromReconciliation_sound {reconciliation : TransportReconciliation}
    (h : completionFromReconciliation attempt reconciliation = .ok (some completion))
    (hreadable : Readable reconciliation) : SoundCompletion attempt completion := by
  cases reconciliation with
  | notObserved => cases h
  | retained receipt =>
    obtain ⟨found, hfrom, hfound⟩ := map_eq_ok h
    cases hfound
    exact completionFromReceipt_sound hfrom hreadable
  | retainedFailure facts =>
    obtain ⟨found, hfrom, hfound⟩ := map_eq_ok h
    cases hfound
    exact completionFromFailure_sound hfrom hreadable
  | evicted | unavailable | conflict => cases h; exact unknownCompletion_sound attempt _

section

variable (h : SoundCompletion attempt completion)
include h

theorem SoundCompletion.success
    (hsuccess : completedSuccessfully completion) : successFacts completion := by
  simp only [completedSuccessfully, decide_eq_true_eq] at hsuccess
  obtain ⟨hstate, hdelivered, hcertainty, hlive, happlied, herror⟩ := hsuccess
  have hretry : completion.automaticRetry = false := by
    by_contra hr
    have hfacts := h.retry (by simpa using hr)
    rw [hlive] at hfacts
    cases hfacts.1
  simp [successFacts, hstate, hdelivered, hcertainty, hlive, hretry, happlied, herror]

theorem SoundCompletion.retrySafe (hretry : completion.automaticRetry) : safeRetry completion := by
  obtain ⟨hlive, hdelivered, hcertainty, _⟩ := h.retry hretry
  simp [safeRetry, hretry, hlive, hdelivered, hcertainty]

theorem SoundCompletion.deferrable (hsafe : safeRetry completion) : failureFacts completion := by
  have hretry : completion.automaticRetry := by
    simp only [safeRetry, decide_eq_true_eq] at hsafe
    exact hsafe.1
  obtain ⟨_, hdelivered, hcertainty, hstate⟩ := h.retry hretry
  simp only [failureFacts, mem_cons, not_mem_nil, or_false, decide_eq_true_eq]
  exact ⟨hstate, h.bounded, .inr hsafe, .inl hdelivered, .inl hcertainty, .inr hsafe⟩

theorem SoundCompletion.failing
    (hkept : ¬ (completion.state = .revoked ∧ completion.errorKind = some .staleGeneration)) :
    failureFacts (failedCompletion completion) := by
  have hdelivered : completion.deliveredFrames.get = 0 ∨ completion.liveWriteExecuted := by
    rcases Nat.eq_zero_or_pos completion.deliveredFrames.get with hzero | hpos
    · exact .inl hzero
    · exact .inr (h.delivered hpos)
  have heffect : completion.sideEffectCertainty = .none ∨ completion.liveWriteExecuted := by
    by_cases hnone : completion.sideEffectCertainty = .none
    · exact .inl hnone
    · exact .inr ((h.effect hnone).resolve_right hkept)
  have hretry : completion.automaticRetry = false ∨ safeRetry completion := by
    cases hr : completion.automaticRetry with
    | false => exact .inl rfl
    | true => exact .inr (h.retrySafe hr)
  simp only [failureFacts, mem_cons, not_mem_nil, or_false, decide_eq_true_eq]
  unfold failedCompletion
  split
  · exact ⟨.inl rfl, h.bounded, .inl rfl, hdelivered, heffect, .inl rfl⟩
  split
  · exact ⟨.inl rfl, h.bounded, hretry, hdelivered, heffect, .inl rfl⟩
  next hfailed =>
    have hfailed := not_not.mp hfailed
    exact ⟨.inl hfailed, h.bounded, hretry, hdelivered, heffect, .inl (h.failure hfailed)⟩

end

end Completions

section Checked

variable [RestorationDigests] {record next : RestoreRecord} {attempt : RestoreAttempt}
  {completion : RestoreCompletion} {st : RestoreRecordStatus} {successful : Bool}
  {answers : RestoreAttempt → TransportReconciliation → Prop}

omit [RestorationDigests] in
theorem validateCompletion_ok (hnumber : record.lastAttempt = some completion.attemptNumber)
    (hid : typedId "restore-tx" (attemptSuffix record.claimId completion.attemptNumber) =
      .ok completion.transactionId)
    (hfacts : if successful then successFacts completion else failureFacts completion) :
    validateCompletion record completion successful = .ok () := by
  simp [validateCompletion, hnumber, hid, reject, hfacts, bind, Except.bind]

theorem SoundCompletion.validates {written : RestoreCompletion} (h : SoundCompletion attempt completion)
    (hattempt : validateAttempt record attempt = .ok ()) (hmoved : transitionRecord record st = .ok next)
    (hnumber : written.attemptNumber = completion.attemptNumber)
    (hid : written.transactionId = completion.transactionId)
    (hfacts : if successful then successFacts written else failureFacts written) :
    validateCompletion next written successful = .ok () := by
  have hattempt := validateAttempt_facts hattempt
  obtain ⟨_, revision, rfl⟩ := transitionRecord_ok hmoved
  refine validateCompletion_ok ?_ ?_ hfacts
  · show record.lastAttempt = _
    rw [hattempt.number, hnumber, h.number]
  show typedId "restore-tx" (attemptSuffix record.claimId written.attemptNumber) = _
  rw [hnumber, hid, h.number, h.transaction, hattempt.transactionId]

omit [RestorationDigests] in
theorem failedCompletion_own (completion : RestoreCompletion) :
    (failedCompletion completion).attemptNumber = completion.attemptNumber ∧
      (failedCompletion completion).transactionId = completion.transactionId := by
  unfold failedCompletion
  split
  · exact ⟨rfl, rfl⟩
  · split <;> exact ⟨rfl, rfl⟩

theorem SoundCompletion.finished (h : SoundCompletion attempt completion)
    (hattempt : validateAttempt record attempt = .ok ())
    (hstatus : st = finishStatus completion ∨ st = retireStatus completion)
    (hmoved : transitionRecord record st = .ok next) : validateStatus next = .ok () := by
  have hown := failedCompletion_own completion
  have hnext := transitionRecord_status hmoved
  have hsucceeded : st = .succeeded completion → completedSuccessfully completion →
      validateStatus next = .ok () := by
    rintro rfl hsuccess
    simp only [validateStatus, hnext]
    exact h.validates hattempt hmoved rfl rfl (h.success hsuccess)
  have hfailed : st = .failed (failedCompletion completion) →
      ¬ (completion.state = .revoked ∧ completion.errorKind = some .staleGeneration) →
      validateStatus next = .ok () := by
    rintro rfl hkept
    simp only [validateStatus, hnext]
    exact h.validates hattempt hmoved hown.1 hown.2 (h.failing hkept)
  have hinvalidated : ∀ reason, st = .invalidated reason → validateStatus next = .ok () := by
    rintro reason rfl
    simp only [validateStatus, hnext]
  unfold finishStatus retireStatus at hstatus
  by_cases hsuccess : completedSuccessfully completion
  · simp only [hsuccess, if_true, or_self] at hstatus
    exact hsucceeded hstatus hsuccess
  simp only [hsuccess, Bool.false_eq_true, if_false] at hstatus
  rcases hstatus with hst | hst
  · split at hst
    next hsafe =>
      subst hst
      simp only [validateStatus, hnext]
      exact h.validates hattempt hmoved rfl rfl (h.deferrable hsafe)
    split at hst
    · exact hinvalidated _ hst
    next hkept => exact hfailed hst hkept
  split at hst
  · exact hinvalidated _ hst
  next hkept => exact hfailed hst fun hrevoked => hkept (.inr hrevoked)

section
omit [RestorationDigests]

theorem CompletionSource.sound (h : CompletionSource answers attempt completion)
    (hreadable : ∀ reconciliation, answers attempt reconciliation → Readable reconciliation) :
    SoundCompletion attempt completion := by
  cases h with
  | terminal terminal consistent from_ => exact completionFromTerminal_sound from_ consistent
  | unknown kind from_ => exact from_ ▸ unknownCompletion_sound attempt kind
  | answer reconciliation asked from_ =>
    exact completionFromReconciliation_sound from_ (hreadable reconciliation asked)

/-- A cancelled transaction was never sent, so its completion is one the loader lets retry. -/
theorem cancelled_deferrable {queued : QueuedTransaction}
    (hunsent : FinishedAs queued .revoked none none unsentFacts terminal)
    (hfrom : completionFromTerminal attempt terminal = .ok completion) :
    SoundCompletion attempt completion ∧ failureFacts completion := by
  have hsound := completionFromTerminal_sound hfrom (hunsent.consistent (unsent_consistent _ (.inl rfl)))
  refine ⟨hsound, hsound.deferrable ?_⟩
  obtain ⟨declared, sequence, _, rfl⟩ := hunsent
  unfold completionFromTerminal at hfrom
  obtain ⟨_, _, hfrom⟩ := bind_eq_ok hfrom
  cases hfrom
  rfl

end

/-- Every record the calls write passes the loader's check when it is next read. -/
theorem Writable.valid (h : Writable answers next)
    (hreadable : ∀ attempt reconciliation, answers attempt reconciliation → Readable reconciliation)
    : validateRecord next = .ok () := by
  cases h with
  | withdrawn record st valid plain moved =>
    refine validateRecord_transition valid moved ?_
    have hnext := transitionRecord_status moved
    rcases plain with ⟨reason, rfl⟩ | ⟨reason, rfl⟩ <;> simp only [validateStatus, hnext]
  | attempted record number attempt st valid active checked moved =>
    refine validateRecord_transition valid moved ?_
    have hactive : next.status.activeAttempt = some attempt := by
      rw [transitionRecord_status moved]
      exact active
    refine validateStatus_attempt hactive ?_
    obtain ⟨_, revision, rfl⟩ := transitionRecord_ok moved
    exact checked
  | completed record attempt completion st valid active source status moved =>
    refine validateRecord_transition valid moved ?_
    exact (source.sound (hreadable attempt)).finished (activeAttempt_checked valid active) status moved
  | cancelled record attempt queued terminal completion reason valid active unsent from_ moved =>
    refine validateRecord_transition valid moved ?_
    obtain ⟨hsound, hfacts⟩ := cancelled_deferrable unsent from_
    simp only [validateStatus, transitionRecord_status moved]
    exact hsound.validates (activeAttempt_checked valid active) moved rfl rfl hfacts
  | planned trigger intent built =>
    unfold newRestoreRecord at built
    obtain ⟨claimId, hclaim, built⟩ := bind_eq_ok built
    obtain ⟨revision, _, built⟩ := bind_eq_ok built
    cases built
    simp [validateRecord, validateSchema, claimIdForRecord, hclaim, reject, validateStatus, bind, Except.bind]

end Checked

section Runs

variable {T : Type} [RestorationDigests]

/-- Every stored record passes the loader's check, and so does every receiver's list of them. -/
def SelfReadable (s : RestorationState T) : Prop :=
  (∀ r ∈ s.records, validateRecord r = .ok ()) ∧
    ∀ receiverId, ∃ records, loadRecords receiverId s.store = .ok records

theorem validateRecords_eq_ok {receiverId : ReceiverId} {records : List RestoreRecord}
    {claims : List RestoreClaimId} (hvalid : ∀ r ∈ records, validateRecord r = .ok ())
    (hreceiver : ∀ r ∈ records, r.receiverId = receiverId)
    (hdistinct : (records.map (·.claimId)).Nodup) (hfresh : ∀ r ∈ records, r.claimId ∉ claims) :
    validateRecords receiverId claims records = .ok () := by
  induction records generalizing claims with
  | nil => rfl
  | cons record records ih =>
    obtain ⟨hnew, hdistinct⟩ := nodup_cons.mp hdistinct
    have hrest : validateRecords receiverId (record.claimId :: claims) records = .ok () := by
      refine ih (fun r hr => hvalid r (mem_cons_of_mem _ hr))
        (fun r hr => hreceiver r (mem_cons_of_mem _ hr)) hdistinct ?_
      intro r hr hmem
      rcases mem_cons.mp hmem with heq | hmem
      · exact hnew (mem_map.mpr ⟨r, hr, heq⟩)
      · exact hfresh r (mem_cons_of_mem _ hr) hmem
    have hhead := hvalid record mem_cons_self
    have hown := hreceiver record mem_cons_self
    have hnot := hfresh record mem_cons_self
    simp [validateRecords, hhead, hown, hnot, reject, bind, Except.bind, hrest]

theorem selfReadable_of_valid {s : RestorationState T} (hsound : StoreSound s.records)
    (hvalid : ∀ r ∈ s.records, validateRecord r = .ok ()) : SelfReadable s := by
  refine ⟨hvalid, fun receiverId => ⟨s.store.restoreRecords receiverId, ?_⟩⟩
  have hlength : ¬ (s.store.restoreRecords receiverId).length > maxRestoreRecordsPerReceiver := by
    have hcapacity := hsound.capacity receiverId
    rw [countP_eq_length_filter] at hcapacity
    exact Nat.not_lt.mpr hcapacity
  have hchecked : validateRecords receiverId [] (s.store.restoreRecords receiverId) = .ok () := by
    refine validateRecords_eq_ok (fun r hr => hvalid r (mem_filter.mp hr).1) ?_ ?_ (by simp)
    · intro r hr
      exact of_decide_eq_true (mem_filter.mp hr).2
    · exact hsound.distinct.sublist (filter_sublist.map _)
  simp only [loadRecords, reject, hlength, if_false, hchecked, bind, Except.bind, pure, Except.pure]

variable [ReceiverTransport T]

/-- No answer the step keeps reports a side effect without a write. -/
def ReadableAnswers (s : RestorationState T) (step : RestorationStep T) : Prop :=
  ∀ record ∈ s.records, ∀ attempt, step.Asks s record attempt →
    Readable (ReceiverTransport.reconcile step.transport (dispatchFromAttempt attempt))

/-- In every run in which no kept answer reports an effect without a write, whatever the calls
persist can be loaded again. -/
theorem restorationReach_selfReadable {start s : RestorationState T} (hstart : RestorationStart start)
    (hreach : RestorationReach ReadableAnswers start s) : SelfReadable s := by
  refine selfReadable_of_valid (hreach.grounded hstart.grounded).sound ?_
  induction hreach with
  | start => exact hstart.valid
  | step hbefore hanswers ih =>
    intro r hr
    have hgrounded := hbefore.grounded hstart.grounded
    have hwrites := RestorationStep.run_writesOnly hgrounded hanswers
    rcases hwrites r hr with hr | hr
    · exact ih r hr
    · exact hr.valid fun _ _ hreadable => hreadable

end Runs

def sampleObserved (live : Bool) : RestorationStep FixedTransport :=
  sampleStep (.advanceClaim sampleClaim (sampleAuthority sampleNonce)) (.lit 1)
    sampleAuthorities
    { sampleTransport with
      reconciled := .retainedFailure ⟨zeroDelivered, .possible, live, false, .unverified⟩ }
    sampleQueued

theorem restorationReach_selfReadable_sample :
    letI := sampleRestorationDigests
    SelfReadable ((sampleObserved true).run sampleQueued) := by
  let _ := sampleRestorationDigests
  refine restorationReach_selfReadable (sampleStart_starts sampleTransport) ?_
  have hplanned : RestorationReach ReadableAnswers (sampleStart _ sampleTransport) samplePlanned := by
    refine .step .start ?_
    intro record hrecord
    cases hrecord
  have hqueued : RestorationReach ReadableAnswers (sampleStart _ sampleTransport) sampleQueued := by
    refine .step hplanned ?_
    intro record _ attempt _
    exact trivial
  refine .step hqueued ?_
  intro record _ attempt _
  exact .inl rfl

/-- The transport reports a possible effect and no write: the claim fails with a completion that
the loader rejects, and no record of the receiver can be loaded any more. -/
theorem restoration_keeps_unreadable_record :
    letI := sampleRestorationDigests
    ¬ ∀ s, RestorationReach (fun _ _ => True) (sampleStart _ sampleTransport) s → SelfReadable s := by
  let _ := sampleRestorationDigests
  intro h
  have hplanned : RestorationReach (fun _ _ => True) (sampleStart _ sampleTransport)
      samplePlanned := .step .start trivial
  have hqueued : RestorationReach (fun _ _ => True) (sampleStart _ sampleTransport)
      sampleQueued := .step hplanned trivial
  have hreach : RestorationReach (fun _ _ => True) (sampleStart _ sampleTransport)
      ((sampleObserved false).run sampleQueued) := .step hqueued trivial
  obtain ⟨records, hrecords⟩ := (h _ hreach).2 sampleResource.receiverId
  have hrejected : loadRecords sampleResource.receiverId
      ((sampleObserved false).run sampleQueued).store = .error .recordIdentityConflict := by
    decide +kernel
  rw [hrejected] at hrecords
  cases hrecords

end HyperfluxNext
