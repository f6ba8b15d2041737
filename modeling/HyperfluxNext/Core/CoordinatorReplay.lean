import HyperfluxNext.Core.CoordinatorAudit

namespace HyperfluxNext

open BoundedOutcomeJournal TransactionCoordinator

open Procedure

/-- What one recording may do to the records that were retained before it: a terminal record stays
as it is or moves to the eviction memory, a nonterminal record stays or progresses. -/
def JournalAdvances (before after : BoundedOutcomeJournal) : Prop :=
  ∀ (id : TransactionId) (record : OutcomeRecord), before.retained[id]? = some record →
    after.retained[id]? = some record ∨
    (record.result.isTerminal = false ∧ ∃ next : OutcomeRecord, after.retained[id]? = some next ∧
      next.clientId = record.clientId ∧ validProgression record.result next.result) ∨
    (record.result.isTerminal ∧ after.retained[id]? = none ∧
      (⟨record.clientId, record.requestId, record.requestDigest, id⟩ : EvictedOutcome) ∈ after.evicted)

variable {journal journal' : BoundedOutcomeJournal} {clientId : ClientId} {result : TransactionResult}
  {queued : QueuedTransaction}

theorem evictTerminal_advances (h : journal.evictTerminal = .ok journal') (id : TransactionId)
    (record : OutcomeRecord) (hrecord : journal.retained[id]? = some record) :
    journal'.retained[id]? = some record ∨
      (record.result.isTerminal ∧ journal'.retained[id]? = none ∧
        (⟨record.clientId, record.requestId, record.requestDigest, id⟩ : EvictedOutcome) ∈
          journal'.evicted) := by
  unfold evictTerminal at h
  split at h
  · split at h
    · cases h
    next evictedId hfind =>
      split at h
      · cases h
      next evicted hevicted =>
        cases h
        by_cases hid : evictedId = id
        · subst hid
          rw [hrecord] at hevicted
          cases hevicted
          have hterminal := List.find?_some hfind
          rw [hrecord] at hterminal
          refine .inr ⟨by simpa using hterminal, ?_, ?_⟩
          · simp
          · exact List.mem_append_right _ (List.mem_singleton.mpr rfl)
        left
        simpa [Std.TreeMap.getElem?_erase, hid] using hrecord
  · cases h
    exact .inl hrecord

/-- How a recording came about: the very same terminal again, a progression, or a new record. -/
theorem record_cases (h : journal.record clientId result = .ok journal') :
    ∃ id requestId digest, result.transactionId = some id ∧ result.requestId = some requestId ∧
      result.requestDigest = some digest ∧
      ((∃ existing : OutcomeRecord, journal.retained[id]? = some existing ∧
          journal'.retained = journal.retained ∧ journal'.evicted = journal.evicted) ∨
        (∃ existing : OutcomeRecord, journal.retained[id]? = some existing ∧
          existing.clientId = clientId ∧ sameIdentity existing.result result ∧
          existing.result.isTerminal = false ∧ validProgression existing.result result ∧
          journal' = journal.store id journal.order ⟨clientId, requestId, digest, result⟩) ∨
        (journal.retained[id]? = none ∧
          journal.requestIdentityConflicts clientId requestId digest id = false ∧
          ∃ journal₁, journal.evictTerminal = .ok journal₁ ∧
            journal' = journal₁.store id (journal₁.order ++ [id]) ⟨clientId, requestId, digest, result⟩)) := by
  unfold record at h
  split at h
  next id requestId digest hid hrequest hdigest =>
    refine ⟨id, requestId, digest, hid, hrequest, hdigest, ?_⟩
    split at h
    next existing hexisting =>
      split at h
      · cases h
      next hsame =>
        simp only [not_or, not_not] at hsame
        split at h
        · split at h
          · cases h
            exact .inl ⟨existing, hexisting, rfl, rfl⟩
          · cases h
        next hopen =>
          split at h
          · cases h
          next hvalid =>
            cases h
            exact .inr (.inl ⟨existing, hexisting, hsame.1, hsame.2, Bool.eq_false_of_not_eq_true hopen,
              not_not.mp hvalid, rfl⟩)
    next hnone =>
      split at h
      · cases h
      next hconflict =>
        split at h
        · cases h
        next journal₁ hevict =>
          cases h
          exact .inr (.inr ⟨hnone, Bool.eq_false_of_not_eq_true hconflict, journal₁, hevict, rfl⟩)
  · cases h

theorem record_advances (h : journal.record clientId result = .ok journal') :
    JournalAdvances journal journal' := by
  intro k record hrecord
  obtain ⟨id, requestId, digest, _, _, _, hcases⟩ := record_cases h
  rcases hcases with ⟨existing, _, hretained, _⟩ |
    ⟨existing, hexisting, hclient, _, hopen, hvalid, rfl⟩ | ⟨hnone, _, journal₁, hevict, rfl⟩
  · left
    rw [hretained]
    exact hrecord
  · rw [getElem?_store]
    by_cases hid : id = k
    · subst hid
      rw [hexisting] at hrecord
      cases hrecord
      rw [if_pos rfl]
      exact .inr (.inl ⟨hopen, _, rfl, hclient.symm, hvalid⟩)
    rw [if_neg hid]
    exact .inl hrecord
  have hid : id ≠ k := by
    intro heq
    rw [heq, hrecord] at hnone
    cases hnone
  rw [getElem?_store, if_neg hid]
  rcases evictTerminal_advances hevict k record hrecord with hkept | hevicted
  · exact .inl hkept
  · exact .inr (.inr hevicted)

theorem Recordings.advances {P : TransactionResult → Prop} (h : Recordings P journal journal')
    : Relation.ReflTransGen JournalAdvances journal journal' := by
  induction h with
  | nil => exact .refl
  | record _ _ hrecord ih => exact ih.tail (record_advances hrecord)

def Remembers (journal : BoundedOutcomeJournal) (clientId : ClientId) (requestId : RequestId) : Prop :=
  (∃ record ∈ journal.records, record.clientId = clientId ∧ record.requestId = requestId) ∨
    ∃ note ∈ journal.evicted, note.clientId = clientId ∧ note.requestId = requestId

/-- No two retained records share a client and a request. -/
structure Unambiguous (journal : BoundedOutcomeJournal) : Prop where
  keyed : ∀ (id : TransactionId) (record : OutcomeRecord), journal.retained[id]? = some record →
    record.result.transactionId = some id ∧ record.result.requestDigest = some record.requestDigest
  unique : ∀ (id id' : TransactionId) (record record' : OutcomeRecord),
    journal.retained[id]? = some record → journal.retained[id']? = some record' →
    record.clientId = record'.clientId → record.requestId = record'.requestId → id = id'

/-- A record under an entry's transaction with the entry's digest is the entry's own. -/
def Matches (journal : BoundedOutcomeJournal) (queued : QueuedTransaction) : Prop :=
  ∀ record : OutcomeRecord, journal.retained[queued.id]? = some record →
    record.requestDigest = queued.requestDigest → record.requestId = queued.request.requestId

/-- The result is one of the entry's. -/
def Resolves (result : TransactionResult) (queued : QueuedTransaction) : Prop :=
  result.transactionId = some queued.id ∧ result.requestId = some queued.request.requestId ∧
    result.requestDigest = some queued.requestDigest

theorem record_unambiguous (h : Unambiguous journal) (hmatches : Matches journal queued)
    (hresolves : Resolves result queued) (hrecord : journal.record clientId result = .ok journal')
    : Unambiguous journal' := by
  obtain ⟨id, requestId, digest, hid, hrequest, hdigest, hcases⟩ := record_cases hrecord
  obtain ⟨hid', hrequest', hdigest'⟩ := hresolves
  obtain rfl : id = queued.id := by rw [hid] at hid'; cases hid'; rfl
  obtain rfl : requestId = queued.request.requestId := by rw [hrequest] at hrequest'; cases hrequest'; rfl
  obtain rfl : digest = queued.requestDigest := by rw [hdigest] at hdigest'; cases hdigest'; rfl
  rcases hcases with ⟨existing, _, hretained, _⟩ |
    ⟨existing, hexisting, hclient, hsame, _, _, rfl⟩ | ⟨hnone, hconflict, journal₁, hevict, rfl⟩
  · refine ⟨?_, ?_⟩
    · rw [hretained]
      exact h.keyed
    rw [hretained]
    exact h.unique
  · have hold : existing.requestId = queued.request.requestId := by
      apply hmatches existing hexisting
      have hsame' : existing.result.requestDigest = result.requestDigest := by
        simp only [sameIdentity, Bool.decide_and, Bool.and_eq_true, decide_eq_true_eq] at hsame
        exact hsame.2
      rw [(h.keyed _ existing hexisting).2, hdigest] at hsame'
      exact Option.some.inj hsame'
    refine ⟨?_, ?_⟩
    · intro k record hk
      rw [getElem?_store] at hk
      split at hk
      next heq =>
        cases hk
        exact ⟨heq ▸ hid, hdigest⟩
      · exact h.keyed k record hk
    intro k k' record record' hk hk' hc hr
    rw [getElem?_store] at hk hk'
    split at hk <;> split at hk'
    next heq heq' => exact heq.symm.trans heq'
    next heq _ =>
      cases hk
      rw [← heq]
      exact h.unique _ _ existing record' hexisting hk' (hclient.trans hc) (hold.trans hr)
    next _ heq' =>
      cases hk'
      rw [← heq']
      exact h.unique _ _ record existing hk hexisting (hc.trans hclient.symm) (hr.trans hold.symm)
    · exact h.unique k k' record record' hk hk' hc hr
  · have hkept : ∀ (k : TransactionId) (record : OutcomeRecord),
        journal₁.retained[k]? = some record → journal.retained[k]? = some record := by
      intro k record hk
      rcases (evictTerminal_spec hevict).2 k with hsame | ⟨hgone, _⟩
      · rw [← hsame]
        exact hk
      rw [hgone] at hk
      cases hk
    have hclash : ∀ (k : TransactionId) (record : OutcomeRecord), journal₁.retained[k]? = some record →
        ¬ (record.clientId = clientId ∧ record.requestId = queued.request.requestId) := by
      intro k record hk hpair
      have hold := hkept k record hk
      have hkey := (h.keyed k record hold).1
      simp only [requestIdentityConflicts, Bool.or_eq_false_iff,
        List.any_eq_false, decide_eq_true_eq] at hconflict
      have hno := hconflict.1 record (mem_records.mpr ⟨k, hold⟩)
      simp only [hpair.1, hpair.2, hkey, Option.some.injEq, true_and, not_or, not_not] at hno
      rw [hno.2, hnone] at hold
      cases hold
    refine ⟨?_, ?_⟩
    · intro k record hk
      rw [getElem?_store] at hk
      split at hk
      next heq =>
        cases hk
        exact ⟨heq ▸ hid, hdigest⟩
      · exact h.keyed k record (hkept k record hk)
    intro k k' record record' hk hk' hc hr
    rw [getElem?_store] at hk hk'
    split at hk <;> split at hk'
    next heq heq' => exact heq.symm.trans heq'
    next heq _ =>
      cases hk
      exact absurd ⟨hc.symm, hr.symm⟩ (hclash k' record' hk')
    next _ heq' =>
      cases hk'
      exact absurd ⟨hc, hr⟩ (hclash k record hk)
    · exact h.unique k k' record record' (hkept k record hk) (hkept k' record' hk') hc hr

theorem record_matches {other : QueuedTransaction} (h : Matches journal other)
    (hresolves : Resolves result queued) (hdigests : queued.requestDigest = other.requestDigest →
      queued.request.requestId = other.request.requestId)
    (hrecord : journal.record clientId result = .ok journal') : Matches journal' other := by
  obtain ⟨id, requestId, digest, hid, hrequest, hdigest, hcases⟩ := record_cases hrecord
  obtain ⟨hid', hrequest', hdigest'⟩ := hresolves
  obtain rfl : requestId = queued.request.requestId := by rw [hrequest] at hrequest'; cases hrequest'; rfl
  obtain rfl : digest = queued.requestDigest := by rw [hdigest] at hdigest'; cases hdigest'; rfl
  intro record hr hsame
  rcases hcases with ⟨_, _, hretained, _⟩ | ⟨_, _, _, _, _, _, rfl⟩ | ⟨_, _, journal₁, hevict, rfl⟩
  · rw [hretained] at hr
    exact h record hr hsame
  · rw [getElem?_store] at hr
    split at hr
    · cases hr
      exact hdigests hsame
    · exact h record hr hsame
  rw [getElem?_store] at hr
  split at hr
  · cases hr
    exact hdigests hsame
  rcases (evictTerminal_spec hevict).2 other.id with hkept | ⟨hgone, _⟩
  · rw [hkept] at hr
    exact h record hr hsame
  rw [hgone] at hr
  cases hr

/-- What is known of the entries `E` while their results are recorded. -/
structure Identified (journal : BoundedOutcomeJournal) (E : QueuedTransaction → Prop) : Prop where
  unambiguous : Unambiguous journal
  bound : ∀ queued, E queued → Matches journal queued
  distinct : ∀ queued other, E queued → E other → queued.requestDigest = other.requestDigest →
    queued.request.requestId = other.request.requestId

theorem Recordings.identified {E : QueuedTransaction → Prop}
    (h : Recordings (fun result => ∃ queued, E queued ∧ Resolves result queued) journal journal')
    (hidentified : Identified journal E) : Identified journal' E := by
  induction h with
  | nil => exact hidentified
  | record _ hresult hrecord ih =>
    obtain ⟨queued, hqueued, hresolves⟩ := hresult
    refine ⟨record_unambiguous ih.unambiguous (ih.bound queued hqueued) hresolves hrecord, ?_, ih.distinct⟩
    intro other hother
    exact record_matches (ih.bound other hother) hresolves (ih.distinct queued other hqueued hother) hrecord

theorem Identified.mono {E F : QueuedTransaction → Prop} (h : Identified journal E)
    (hsub : ∀ queued, F queued → E queued) : Identified journal F :=
  ⟨h.unambiguous, fun queued hq => h.bound queued (hsub queued hq),
    fun queued other hq ho => h.distinct queued other (hsub queued hq) (hsub other ho)⟩

theorem FinishedAs.resolves {state : TransactionState} {errorKind : Option ProtocolErrorKind}
    {supersededBy : Option TransactionId} {facts : TransportFailureFacts} {terminal : TransactionTerminal}
    (h : FinishedAs queued state errorKind supersededBy facts terminal) :
    Resolves (.terminal terminal) queued := by
  obtain ⟨declared, sequence, _, rfl⟩ := h
  exact ⟨rfl, rfl, rfl⟩

theorem Unambiguous.replay (h : Unambiguous journal) {record : OutcomeRecord}
    (hrecord : record ∈ journal.records) (digest : RequestDigest) :
    journal.replay record.clientId record.requestId digest =
      if record.requestDigest = digest then .retained record.result else .conflict := by
  obtain ⟨id, hid⟩ := BoundedOutcomeJournal.mem_records.mp hrecord
  unfold BoundedOutcomeJournal.replay
  split
  next found hfind =>
    obtain ⟨id', hid'⟩ := BoundedOutcomeJournal.mem_records.mp (List.mem_of_find?_eq_some hfind)
    have hpair := List.find?_some hfind
    simp only [Bool.decide_and, Bool.and_eq_true, decide_eq_true_eq] at hpair
    have heq := h.unique id' id found record hid' hid hpair.1 hpair.2
    rw [heq, hid] at hid'
    cases hid'
    rfl
  next hnone =>
    have hno := List.find?_eq_none.mp hnone record hrecord
    simp at hno

/-- A pair that only the eviction memory has is never replayed. -/
theorem replay_forgotten {requestId : RequestId} (digest : RequestDigest)
    (hrecords : ∀ record ∈ journal.records, ¬ (record.clientId = clientId ∧ record.requestId = requestId))
    (hnotes : ∃ note ∈ journal.evicted, note.clientId = clientId ∧ note.requestId = requestId) :
    journal.replay clientId requestId digest = .conflict ∨
      ∃ note ∈ journal.evicted, note.clientId = clientId ∧ note.requestId = requestId ∧
        note.requestDigest = digest ∧
        journal.replay clientId requestId digest = .evicted note.transactionId := by
  have hnone : journal.records.find? (fun record =>
      record.clientId = clientId ∧ record.requestId = requestId) = none := by
    rw [List.find?_eq_none]
    intro record hrecord
    simpa using hrecords record hrecord
  unfold replay
  rw [hnone]
  dsimp only
  split
  next hfind =>
    obtain ⟨note, hnote, hpair⟩ := hnotes
    have hno := List.find?_eq_none.mp hfind note hnote
    simp [hpair.1, hpair.2] at hno
  next note hfind =>
    have hpair := List.find?_some hfind
    simp only [Bool.decide_and, Bool.and_eq_true, decide_eq_true_eq] at hpair
    split
    next hdigest => exact .inr ⟨note, List.mem_of_find?_eq_some hfind, hpair.1, hpair.2, hdigest, rfl⟩
    · exact .inl rfl

theorem replay_own {requestId : RequestId} {digest : RequestDigest}
    (h : journal.replay clientId requestId digest = .retained result) :
    ∃ record ∈ journal.records, record.clientId = clientId ∧ record.requestId = requestId ∧
      record.requestDigest = digest ∧ record.result = result := by
  unfold replay at h
  split at h
  next record hfind =>
    have hpair := List.find?_some hfind
    simp only [Bool.decide_and, Bool.and_eq_true, decide_eq_true_eq] at hpair
    split at h
    next hdigest =>
      cases h
      exact ⟨record, List.mem_of_find?_eq_some hfind, hpair.1, hpair.2, hdigest, rfl⟩
    · cases h
  split at h
  · cases h
  · split at h <;> cases h

section Runs

variable {T : Type} [ReceiverTransport T] [CanonicalDigests]

omit [CanonicalDigests] in
theorem produces_resolves {E : QueuedTransaction → Prop} {entries : List QueuedTransaction}
    (h : ∀ queued ∈ entries, E queued) :
    Produces T (fun result => ∃ queued, E queued ∧ Resolves result queued) entries := by
  refine ⟨?_, ?_, ?_, ?_⟩
  · intro queued hq _ _ hfinished
    exact ⟨queued, h queued hq, hfinished.resolves⟩
  · intro queued hq _ _ hfinished
    exact ⟨queued, h queued hq, hfinished.resolves⟩
  · intro queued hq state p _ hp
    obtain ⟨declared, _, rfl⟩ := progress_fields hp
    exact ⟨queued, h queued hq, rfl, rfl, rfl⟩
  intro queued hq _ _ _ _ hfinished
  exact ⟨queued, h queued hq, hfinished.resolves⟩

def NoDigestCollision (c : TransactionCoordinator) (op : CoordinatorOp) : Prop :=
  ∀ request binding now ports leases, op = .submit request binding now ports leases →
    ∀ queued ∈ c.queue.pending,
      CanonicalDigests.requestDigest queued.request = CanonicalDigests.requestDigest request →
      queued.request = request

/-- Every waiting entry carries the digest of its request, and its record is told apart. -/
structure Replayable (c : TransactionCoordinator) : Prop where
  digested : ∀ queued ∈ c.queue.pending, queued.requestDigest = CanonicalDigests.requestDigest queued.request
  identified : Identified c.outcomes (· ∈ c.queue.pending)

variable {queued : QueuedTransaction} {op : CoordinatorOp} {c : TransactionCoordinator}

omit [ReceiverTransport T] in
theorem SubmittedAs.digest {request : TransactionRequest} {binding : SubmissionBinding}
    (h : SubmittedAs request binding queued) :
    queued.requestDigest = CanonicalDigests.requestDigest queued.request := by
  obtain ⟨rfl, hdigest, _⟩ := h
  unfold canonicalRequestDigest at hdigest
  split at hdigest
  · cases hdigest
  · exact (Except.ok.inj hdigest).symm

theorem CoordinatorOp.Touches.pending {s s' : CoordinatorState T} (h : op.Touches s s')
    (hqueued : queued ∈ s'.coordinator.queue.pending) : op.MayResolve s.coordinator queued := by
  have hremoved : (s'.coordinator.queue.pending : Multiset QueuedTransaction) ≤
      s.coordinator.queue.pending → op.MayResolve s.coordinator queued :=
    fun hle => .inl (Multiset.mem_of_le hle hqueued)
  have hleft : ∀ now ports leases, Leaves now ports leases s s' → op.MayResolve s.coordinator queued := by
    intro now ports leases hleaves
    rcases hleaves with ⟨_, hle⟩ | ⟨written, _, hle⟩
    · exact hremoved hle
    · exact hremoved ((Multiset.le_cons_self _ written).trans hle)
  cases op with
  | submit request binding now ports leases =>
    obtain ⟨_, hle | ⟨new, hnew, hunknown, hle⟩⟩ := h
    · exact hremoved hle
    rcases Multiset.mem_cons.mp (Multiset.mem_of_le hle hqueued) with heq | hin
    · rw [heq]
      exact .inr ⟨hnew, hunknown⟩
    · exact .inl hin
  | dispatchNext now ports leases | dispatchTransaction id now ports leases => exact hleft now ports leases h
  | cancelTransaction | invalidateGeneration | invalidateSession => exact hremoved h.2

section
omit [ReceiverTransport T]

theorem CoordinatorOp.MayResolve.digest (h : op.MayResolve c queued) (hc : Replayable c) :
    queued.requestDigest = CanonicalDigests.requestDigest queued.request := by
  rcases h with hin | hnew
  · exact hc.digested queued hin
  cases op with
  | submit => exact hnew.1.digest
  | _ => exact hnew.elim

theorem Replayable.mayResolve (h : Replayable c) (hcollision : NoDigestCollision c op)
    : Identified c.outcomes (op.MayResolve c) := by
  refine ⟨h.identified.unambiguous, ?_, ?_⟩
  · intro queued hqueued
    rcases hqueued with hin | hnew
    · exact h.identified.bound queued hin
    cases op with
    | submit request binding now ports leases =>
      intro record hrecord
      rw [lookup_unknown hnew.2.2] at hrecord
      cases hrecord
    | _ => exact hnew.elim
  intro queued other hqueued hother hsame
  rcases hqueued with hin | hnew
  · rcases hother with hin' | hnew'
    · exact h.identified.distinct queued other hin hin' hsame
    cases op with
    | submit request binding now ports leases =>
      rw [h.digested queued hin, hnew'.1.digest, hnew'.1.1] at hsame
      rw [hcollision request binding now ports leases rfl queued hin hsame, hnew'.1.1]
    | _ => exact hnew'.elim
  cases op with
  | submit request binding now ports leases =>
    rcases hother with hin' | hnew'
    · rw [h.digested other hin', hnew.1.digest, hnew.1.1] at hsame
      rw [hcollision request binding now ports leases rfl other hin' hsame.symm, hnew.1.1]
    · rw [hnew.1.1, hnew'.1.1]
  | _ => exact hnew.elim

theorem TransactionCoordinator.new_replayable {capacity : Nat} (h : new capacity = .ok c) : Replayable c := by
  obtain ⟨_, hretained, hpending⟩ := new_empty h
  have hunambiguous : Unambiguous c.outcomes := by
    refine ⟨?_, ?_⟩
    · intro id record hrecord
      rw [hretained id] at hrecord
      cases hrecord
    intro id _ record _ hrecord
    rw [hretained id] at hrecord
    cases hrecord
  refine ⟨?_, hunambiguous, ?_, ?_⟩
  all_goals
    rw [hpending]
    simp

end

theorem CoordinatorStep.run_replayable (step : CoordinatorStep T) (h : Replayable c)
    (hcollision : NoDigestCollision c step.op) : Replayable (step.run c) := by
  have hcancelled : ∀ id, step.op = .cancelTransaction id → ∀ queued ∈ c.queue.pending,
      queued.id = id → ∀ terminal, FinishedAs queued .revoked none none unsentFacts terminal →
        ∃ queued, step.op.MayResolve c queued ∧ Resolves (.terminal terminal) queued := by
    intro _ _ queued hqueued _ terminal hfinished
    exact ⟨queued, .inl hqueued, hfinished.resolves⟩
  obtain ⟨⟨hrecorded, htouches⟩, _⟩ := CoordinatorOp.apply_effect
    (s := ⟨c, step.events, step.transport⟩) (fun _ hentries => produces_resolves (T := T) hentries)
    hcancelled
  have hidentified := hrecorded.identified (h.mayResolve hcollision)
  refine ⟨?_, hidentified.mono fun queued hqueued => htouches.pending hqueued⟩
  intro queued hqueued
  exact (htouches.pending hqueued).digest h

/-- What a submission answers when the journal remembers its request. -/
def RequestReplay.submission : RequestReplay → Option (Except TransactionCoordinatorError SubmissionResult)
  | .retained result => some (.ok (.replay result))
  | .evicted transactionId => some (.error (.outcomeEvicted transactionId))
  | .conflict => some (.error .requestIdReused)
  | .unknown => none

variable {s : CoordinatorState T} {request : TransactionRequest} {binding : SubmissionBinding}
  {now : MonotonicMs} {ports : Authorities} {leases : LeaseManager}

theorem submit_unauthorized
    (h : ports.sessions.authorizes binding.sessionId binding.authorizationEpoch = false) :
    submit request binding now ports leases s = .error .sessionRevoked s := by
  simp [submit, refuse, h, bind, EStateM.bind, throw, throwThe, MonadExceptOf.throw, throw_apply]

theorem submit_invalid {invalid : RequestDigestError}
    (hsession : ports.sessions.authorizes binding.sessionId binding.authorizationEpoch = true)
    (h : canonicalRequestDigest request = .error invalid) :
    submit request binding now ports leases s = .error (.digest invalid) s := by
  simp [submit, refuse, hsession, lift, h, bind, EStateM.bind, pure, EStateM.pure]

/-- A submission that the journal remembers changes nothing and answers by the replay alone. -/
theorem submit_remembered {digest : RequestDigest} {reply : Except TransactionCoordinatorError SubmissionResult}
    (hsession : ports.sessions.authorizes binding.sessionId binding.authorizationEpoch = true)
    (hdigest : canonicalRequestDigest request = .ok digest)
    (hreply : (s.coordinator.outcomes.replay request.clientId request.requestId digest).submission =
      some reply) :
    final (submit request binding now ports leases) s = s ∧
      answer (submit request binding now ports leases) s = reply := by
  cases hreplay : s.coordinator.outcomes.replay request.clientId request.requestId digest with
  | retained result =>
    have hsubmit : submit request binding now ports leases s = .ok (.replay result) s := by
      simp [submit, refuse, hsession, lift, hdigest, hreplay, bind,
        EStateM.bind, get, getThe, MonadStateOf.get, get_apply, pure, EStateM.pure]
    rw [hreplay] at hreply
    cases hreply
    simp [final, answer, hsubmit]
  | evicted id =>
    have hsubmit : submit request binding now ports leases s = .error (.outcomeEvicted id) s := by
      simp [submit, refuse, hsession, lift, hdigest, hreplay, bind,
        EStateM.bind, get, getThe, MonadStateOf.get, get_apply, pure, EStateM.pure, throw, throwThe,
        MonadExceptOf.throw, throw_apply]
    rw [hreplay] at hreply
    cases hreply
    simp [final, answer, hsubmit]
  | conflict =>
    have hsubmit : submit request binding now ports leases s = .error .requestIdReused s := by
      simp [submit, refuse, hsession, lift, hdigest, hreplay, bind,
        EStateM.bind, get, getThe, MonadStateOf.get, get_apply, pure, EStateM.pure, throw, throwThe,
        MonadExceptOf.throw, throw_apply]
    rw [hreplay] at hreply
    cases hreply
    simp [final, answer, hsubmit]
  | unknown =>
    rw [hreplay] at hreply
    cases hreply

omit [ReceiverTransport T] [CanonicalDigests] in
theorem Remembers.submission {journal : BoundedOutcomeJournal} {clientId : ClientId}
    {requestId : RequestId} (hremembers : Remembers journal clientId requestId)
    (h : Unambiguous journal) (digest : RequestDigest) :
    ∃ reply, (journal.replay clientId requestId digest).submission = some reply := by
  by_cases hrecord : ∃ record ∈ journal.records, record.clientId = clientId ∧ record.requestId = requestId
  · obtain ⟨record, hmem, hclient, hrequest⟩ := hrecord
    have hreplay := h.replay hmem digest
    rw [hclient, hrequest] at hreplay
    rw [hreplay]
    split
    · exact ⟨_, rfl⟩
    · exact ⟨_, rfl⟩
  have hnone : ∀ record ∈ journal.records, ¬ (record.clientId = clientId ∧ record.requestId = requestId) := by
    intro record hmem hpair
    exact hrecord ⟨record, hmem, hpair⟩
  have hnotes := hremembers.resolve_left hrecord
  rcases replay_forgotten digest hnone hnotes with hreplay | ⟨note, _, _, _, _, hreplay⟩
  · rw [hreplay]
    exact ⟨_, rfl⟩
  rw [hreplay]
  exact ⟨_, rfl⟩

/-- What a resubmission is answered with. -/
structure Resubmitted (journal : BoundedOutcomeJournal) (request : TransactionRequest)
    (authorized : Bool) (reply : Except TransactionCoordinatorError SubmissionResult) : Prop where
  revoked : authorized = false → reply = .error .sessionRevoked
  invalid : authorized = true → ∀ error, canonicalRequestDigest request = .error error →
    reply = .error (.digest error)
  retained : authorized = true → ∀ digest, canonicalRequestDigest request = .ok digest →
    ∀ record ∈ journal.records, record.clientId = request.clientId →
      record.requestId = request.requestId →
      reply = if record.requestDigest = digest then .ok (.replay record.result) else .error .requestIdReused
  evicted : authorized = true → ∀ digest, canonicalRequestDigest request = .ok digest →
    (∀ record ∈ journal.records,
      ¬ (record.clientId = request.clientId ∧ record.requestId = request.requestId)) →
    reply = .error .requestIdReused ∨ ∃ note ∈ journal.evicted, note.clientId = request.clientId ∧
      note.requestId = request.requestId ∧ reply = .error (.outcomeEvicted note.transactionId)

/-- What a coordinator promises a client that tries again. -/
structure Idempotent (T : Type) [ReceiverTransport T] [CanonicalDigests] (c : TransactionCoordinator) : Prop where
  resubmission : ∀ (request : TransactionRequest) (binding : SubmissionBinding) (now : MonotonicMs)
    (ports : Authorities) (leases : LeaseManager) (events : BoundedEventLog) (transport : T),
    Remembers c.outcomes request.clientId request.requestId →
    final (submit request binding now ports leases) ⟨c, events, transport⟩ = ⟨c, events, transport⟩ ∧
      Resubmitted c.outcomes request
        (ports.sessions.authorizes binding.sessionId binding.authorizationEpoch)
        (answer (submit request binding now ports leases) ⟨c, events, transport⟩)
  ownLookup : ∀ (clientId : ClientId) (id : TransactionId) (result : TransactionResult),
    c.outcomes.lookup clientId id = .retained result → ∃ record : OutcomeRecord,
      c.outcomes.retained[id]? = some record ∧ record.clientId = clientId ∧ record.result = result
  ownReplay : ∀ (clientId : ClientId) (requestId : RequestId) (digest : RequestDigest)
    (result : TransactionResult), c.outcomes.replay clientId requestId digest = .retained result →
    ∃ record ∈ c.outcomes.records, record.clientId = clientId ∧ record.requestId = requestId ∧
      record.requestDigest = digest ∧ record.result = result
  lasting : ∀ step : CoordinatorStep T, Relation.ReflTransGen JournalAdvances c.outcomes (step.run c).outcomes

theorem submit_resubmitted (h : Unambiguous s.coordinator.outcomes)
    (hremembers : Remembers s.coordinator.outcomes request.clientId request.requestId) :
    final (submit request binding now ports leases) s = s ∧
      Resubmitted s.coordinator.outcomes request
        (ports.sessions.authorizes binding.sessionId binding.authorizationEpoch)
        (answer (submit request binding now ports leases) s) := by
  cases hsession : ports.sessions.authorizes binding.sessionId binding.authorizationEpoch with
  | false =>
    have hsubmit : submit request binding now ports leases s =
        .error .sessionRevoked s := submit_unauthorized hsession
    simp only [final, answer, hsubmit, true_and]
    exact ⟨fun _ => rfl, by simp, by simp, by simp⟩
  | true =>
    cases hdigest : canonicalRequestDigest request with
    | error error =>
      have hsubmit : submit request binding now ports leases s =
          .error (.digest error) s := submit_invalid hsession hdigest
      simp only [final, answer, hsubmit, true_and]
      refine ⟨by simp, ?_, ?_, ?_⟩
      · intro _ error' herror
        rw [hdigest] at herror
        cases herror
        rfl
      · intro _ digest hok
        rw [hdigest] at hok
        cases hok
      intro _ digest hok
      rw [hdigest] at hok
      cases hok
    | ok digest =>
      obtain ⟨reply, hreply⟩ := hremembers.submission h digest
      have hdone : final (submit request binding now ports leases) s = s ∧
          answer (submit request binding now ports leases) s = reply :=
        submit_remembered hsession hdigest hreply
      obtain ⟨hfinal, hanswer⟩ := hdone
      rw [hanswer]
      refine ⟨hfinal, by simp, ?_, ?_, ?_⟩
      · intro _ error herror
        rw [hdigest] at herror
        cases herror
      · intro _ digest' hok record hrecord hclient hrequest
        rw [hdigest] at hok
        cases hok
        have hreplay := h.replay hrecord digest
        rw [hclient, hrequest] at hreplay
        rw [hreplay] at hreply
        split at hreply
        next hsame =>
          rw [if_pos hsame]
          exact (Option.some.inj hreply).symm
        next hdiffers =>
          rw [if_neg hdiffers]
          exact (Option.some.inj hreply).symm
      intro _ digest' hok hnone
      rw [hdigest] at hok
      cases hok
      have hnotes := hremembers.resolve_left (fun ⟨record, hrecord, hpair⟩ => hnone record hrecord hpair)
      rcases replay_forgotten digest hnone hnotes with hreplay | ⟨note, hnote, hc, hr, _, hreplay⟩
      · rw [hreplay] at hreply
        exact .inl (Option.some.inj hreply).symm
      rw [hreplay] at hreply
      exact .inr ⟨note, hnote, hc, hr, (Option.some.inj hreply).symm⟩

/-- In every run without a digest collision a client can try again as often as it likes: while its
request is remembered a resubmission changes nothing and is answered from the record. -/
theorem coordinatorReach_idempotent {capacity : Nat} {start c : TransactionCoordinator}
    (hnew : TransactionCoordinator.new capacity = .ok start)
    (hrun : CoordinatorReach (fun c (step : CoordinatorStep T) => NoDigestCollision c step.op)
      start c) : Idempotent T c := by
  have hreplayable : Replayable c := by
    induction hrun with
    | start => exact TransactionCoordinator.new_replayable hnew
    | step _ hok ih => exact CoordinatorStep.run_replayable _ ih hok
  have hunambiguous := hreplayable.identified.unambiguous
  refine ⟨?_, fun _ _ _ => lookup_retained, fun _ _ _ _ => replay_own, ?_⟩
  · intro request binding now ports leases events transport hremembers
    have hs : Unambiguous (CoordinatorState.mk c events transport).coordinator.outcomes := hunambiguous
    exact submit_resubmitted hs hremembers
  intro step
  have hcancelled : ∀ id, step.op = .cancelTransaction id → ∀ queued ∈ c.queue.pending,
      queued.id = id → ∀ terminal, FinishedAs queued .revoked none none unsentFacts terminal →
        True := fun _ _ _ _ _ _ _ => trivial
  have hproduces : ∀ entries : List QueuedTransaction, (∀ queued ∈ entries,
      step.op.MayResolve c queued) → Produces T (fun _ => True) entries :=
    fun _ _ => ⟨by simp, by simp, by simp, by simp⟩
  obtain ⟨⟨hrecorded, _⟩, _⟩ := CoordinatorOp.apply_effect
    (s := ⟨c, step.events, step.transport⟩) hproduces hcancelled
  exact hrecorded.advances

end Runs

def finishedState : CoordinatorState FixedTransport := ⟨sampleFinished, sampleLog, sampleTransport⟩

/-- The written frame is submitted once more. -/
theorem coordinatorReach_idempotent_sample :
    letI := sampleDigests
    final (submit sampleRequest sampleBinding (.lit 6) sampleAuthorities sampleLeases) finishedState =
        finishedState ∧
      answer (submit sampleRequest sampleBinding (.lit 6) sampleAuthorities sampleLeases) finishedState =
        .ok (.replay (.terminal sampleTerminal)) := by
  let _ := sampleDigests
  have hnew : TransactionCoordinator.new 1 = .ok emptyCoordinator := rfl
  have hresubmitted : CoordinatorReach (fun c (step : CoordinatorStep FixedTransport) =>
      NoDigestCollision c step.op) emptyCoordinator (sampleSubmit.run (sampleSubmit.run emptyCoordinator)) := by
    refine .step (.step .start ?_) ?_
    · intro request binding now ports leases _ queued hqueued
      cases hqueued
    intro request binding now ports leases hop queued hqueued _
    have hsame : ∀ queued ∈ (sampleSubmit.run emptyCoordinator).queue.pending,
        queued.request = sampleRequest := by
      decide +kernel
    cases hop
    exact hsame queued hqueued
  have hfinished : CoordinatorReach (fun c (step : CoordinatorStep FixedTransport) =>
      NoDigestCollision c step.op) emptyCoordinator sampleFinished := by
    refine .step hresubmitted ?_
    intro request binding now ports leases hop
    cases hop
  have hrecord : ⟨sampleRequest.clientId, sampleRequest.requestId, sampleDigest,
      .terminal sampleTerminal⟩ ∈ sampleFinished.outcomes.records := by
    decide +kernel
  obtain ⟨hunchanged, hreply⟩ := (coordinatorReach_idempotent hnew hfinished).resubmission sampleRequest
    sampleBinding (.lit 6) sampleAuthorities sampleLeases sampleLog sampleTransport
    (.inl ⟨_, hrecord, rfl, rfl⟩)
  exact ⟨hunchanged, hreply.retained rfl sampleDigest rfl _ hrecord rfl rfl⟩

end HyperfluxNext
