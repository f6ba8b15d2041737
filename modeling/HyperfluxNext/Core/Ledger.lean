import HyperfluxNext.Core.Coordinator

namespace HyperfluxNext

open BoundedOutcomeJournal TransactionResult List Procedure

/-- The accepted records that admit a transaction. -/
def isAdmission (id : TransactionId) : TransactionResult → Bool
  | .progress p => p.state = .queued ∧ p.transactionId = id
  | _ => false

/-- The accepted records that complete a transaction. -/
def isCompletion (id : TransactionId) : TransactionResult → Bool
  | .terminal t => t.transactionId = id
  | _ => false

/-- The journal retains exactly the progress record a live transaction has in a given state. -/
def OpenAt (journal : BoundedOutcomeJournal) (queued : QueuedTransaction) (state : TransactionState) : Prop :=
  ∃ p, progress queued state = .ok p ∧ journal.retained[queued.id]? =
    some ⟨queued.request.clientId, queued.request.requestId, queued.requestDigest, .progress p⟩

def ids (live : List (QueuedTransaction × TransactionState)) : List TransactionId := live.map (·.1.id)

/-- Every live transaction has its progress record, and no two records share a transaction or a
request identity. -/
structure Opened (journal : BoundedOutcomeJournal)
    (live : List (QueuedTransaction × TransactionState)) : Prop where
  distinct : (ids live).Nodup
  recorded : ∀ entry ∈ live, OpenAt journal entry.1 entry.2
  keyed : ∀ (id : TransactionId) (record : OutcomeRecord), journal.retained[id]? = some record →
    record.result.transactionId = some id
  unique : ∀ (id id' : TransactionId) (record record' : OutcomeRecord), journal.retained[id]? = some record →
    journal.retained[id']? = some record' → record.clientId = record'.clientId →
    record.requestId = record'.requestId → id = id'

/-- The nonterminal records of the journal are those of the live transactions, and every admission
was followed by one completion unless the transaction is still live. -/
structure Ledger (journal : BoundedOutcomeJournal)
    (live : List (QueuedTransaction × TransactionState)) : Prop extends Opened journal live where
  complete : ∀ id record, journal.retained[id]? = some record → record.result.isProgress → id ∈ ids live
  balanced : ∀ id, journal.accepted.countP (isAdmission id) =
    journal.accepted.countP (isCompletion id) + (ids live).count id

variable {journal journal' : BoundedOutcomeJournal}
  {live rest live' : List (QueuedTransaction × TransactionState)} {queued : QueuedTransaction}
  {state last : TransactionState} {p : TransactionProgress} {digest : RequestDigest}
  {order : List TransactionId} {result : TransactionResult} {id : TransactionId}

theorem Opened.nil (h : ∀ id : TransactionId, journal.retained[id]? = none) : Opened journal [] := by
  refine ⟨nodup_nil, by simp, ?_, ?_⟩
  · intro id record hr
    rw [h id] at hr
    cases hr
  intro id _ record _ hr
  rw [h id] at hr
  cases hr

theorem Opened.perm (h : Opened journal live) (hp : live'.Perm live) : Opened journal live' := by
  have hids : (ids live').Perm (ids live) := hp.map _
  refine ⟨hids.nodup_iff.mpr h.distinct, ?_, h.keyed, h.unique⟩
  intro entry he
  exact h.recorded entry (hp.mem_iff.mp he)

theorem Opened.right {gone : List (QueuedTransaction × TransactionState)} (h : Opened journal (gone ++ live))
    : Opened journal live := by
  have hd : (ids gone ++ ids live).Nodup := by
    simpa [ids] using h.distinct
  refine ⟨(nodup_append.mp hd).2.1, ?_, h.keyed, h.unique⟩
  intro entry he
  exact h.recorded entry (mem_append_right _ he)

theorem Ledger.perm (h : Ledger journal live) (hp : live'.Perm live) : Ledger journal live' := by
  have hids : (ids live').Perm (ids live) := hp.map _
  refine ⟨h.toOpened.perm hp, ?_, ?_⟩
  · intro id record hr hp
    exact hids.mem_iff.mpr (h.complete id record hr hp)
  intro id
  rw [h.balanced id, hids.count_eq id]

theorem getElem?_store (journal : BoundedOutcomeJournal) (id : TransactionId)
    (order : List TransactionId) (record : OutcomeRecord) (k : TransactionId) :
    (journal.store id order record).retained[k]? =
      if id = k then some record else journal.retained[k]? := by
  simp [store, Std.TreeMap.getElem?_insert]

theorem progress_fields (h : progress queued state = .ok p) :
    ∃ declared, declaredFrames queued = .ok declared ∧
      p = ⟨queued.request.requestId, queued.requestDigest, queued.request.transactionId,
        queued.request.receiverId, queued.request.generationId, state, queued.admission, declared,
        zeroDelivered, .none, false⟩ := by
  unfold progress at h
  obtain ⟨declared, hd, h⟩ := bind_eq_ok h
  cases h
  exact ⟨declared, hd, rfl⟩

theorem record_advance {clientId : ClientId} {requestId : RequestId} {existing : OutcomeRecord}
    (hid : result.transactionId = some id) (hreq : result.requestId = some requestId)
    (hdig : result.requestDigest = some digest) (hret : journal.retained[id]? = some existing)
    (hclient : existing.clientId = clientId) (hsame : sameIdentity existing.result result)
    (hopen : existing.result.isTerminal = false) (hvalid : validProgression existing.result result) :
    journal.record clientId result =
      .ok (journal.store id journal.order ⟨clientId, requestId, digest, result⟩) := by
  simp [record, hid, hreq, hdig, hret, hclient, hsame, hopen, hvalid]

def LegalEnd (last state : TransactionState) : Prop :=
  (last = .queued ∧ (state = .revoked ∨ state = .superseded)) ∨
    (last = .sent ∧ (state = .succeeded ∨ state = .failed ∨ state = .revoked))

theorem record_terminal_ok {declared : FrameCount} (hopen : OpenAt journal queued last)
    (hend : LegalEnd last state) (hdeclared : declaredFrames queued = .ok declared)
    (errorKind : Option ProtocolErrorKind) (supersededBy : Option TransactionId)
    (facts : TransportFailureFacts) (sequence : SequenceNumber) :
    journal.record queued.request.clientId (.terminal
        (terminalOf queued state errorKind supersededBy facts declared sequence)) =
      .ok (journal.store queued.id journal.order ⟨queued.request.clientId,
        queued.request.requestId, queued.requestDigest, .terminal
          (terminalOf queued state errorKind supersededBy facts declared sequence)⟩) := by
  obtain ⟨p, hp, hret⟩ := hopen
  obtain ⟨declared', hd, rfl⟩ := progress_fields hp
  rw [hd] at hdeclared
  cases hdeclared
  refine record_advance rfl rfl rfl hret rfl ?_ rfl ?_
  · simp [sameIdentity, transactionId, requestDigest, terminalOf]
  rcases hend with ⟨rfl, rfl | rfl⟩ | ⟨rfl, rfl | rfl | rfl⟩ <;>
    simp [validProgression, terminalOf, zeroDelivered, certaintyRank, Bounded.le_iff]

theorem record_sent_ok (hopen : OpenAt journal queued .queued) (hp : progress queued .sent = .ok p) :
    journal.record queued.request.clientId (.progress p) =
      .ok (journal.store queued.id journal.order ⟨queued.request.clientId,
        queued.request.requestId, queued.requestDigest, .progress p⟩) := by
  obtain ⟨q, hq, hret⟩ := hopen
  obtain ⟨declared, hd, rfl⟩ := progress_fields hq
  obtain ⟨declared', hd', rfl⟩ := progress_fields hp
  rw [hd] at hd'
  cases hd'
  refine record_advance rfl rfl rfl hret rfl ?_ rfl ?_
  · simp [sameIdentity, transactionId, requestDigest]
  · simp [validProgression, zeroDelivered, certaintyRank, Bounded.le_iff]

theorem OpenAt.store_of_ne {record : OutcomeRecord} (h : OpenAt journal queued state) (hne : id ≠ queued.id) :
    OpenAt (journal.store id order record) queued state := by
  obtain ⟨p, hp, hret⟩ := h
  refine ⟨p, hp, ?_⟩
  rw [getElem?_store, if_neg hne]
  exact hret

theorem Opened.store (h : Opened journal ((queued, last) :: rest)) (hid : result.transactionId = some queued.id)
    :
    Opened (journal.store queued.id order ⟨queued.request.clientId, queued.request.requestId,
      digest, result⟩) rest := by
  have hd : queued.id ∉ ids rest ∧ (ids rest).Nodup := nodup_cons.mp h.distinct
  obtain ⟨p, _, hold⟩ := h.recorded (queued, last) mem_cons_self
  refine ⟨hd.2, ?_, ?_, ?_⟩
  · intro entry he
    refine OpenAt.store_of_ne (h.recorded entry (mem_cons_of_mem _ he)) ?_
    rintro heq
    exact hd.1 (heq ▸ mem_map_of_mem he)
  · intro id record hr
    rw [getElem?_store] at hr
    split at hr
    next heq => cases hr; exact heq ▸ hid
    · exact h.keyed id record hr
  intro id id' record record' hr hr' hclient hrequest
  rw [getElem?_store] at hr hr'
  split at hr <;> split at hr'
  next heq heq' => exact heq.symm.trans heq'
  next heq _ => cases hr; exact heq.symm.trans (h.unique _ _ _ _ hold hr' hclient hrequest)
  next _ heq' => cases hr'; exact (h.unique _ _ _ _ hr hold hclient hrequest).trans heq'
  · exact h.unique _ _ _ _ hr hr' hclient hrequest

theorem Opened.send (h : Opened journal ((queued, .queued) :: rest)) (hp : progress queued .sent = .ok p) :
    Opened (journal.store queued.id order ⟨queued.request.clientId, queued.request.requestId,
      queued.requestDigest, .progress p⟩) ((queued, .sent) :: rest) := by
  have hid : (TransactionResult.progress p).transactionId = some queued.id := by
    obtain ⟨declared, _, rfl⟩ := progress_fields hp
    rfl
  have hstore : Opened (journal.store queued.id order ⟨queued.request.clientId,
      queued.request.requestId, queued.requestDigest, .progress p⟩) rest := h.store hid
  refine ⟨h.distinct, ?_, hstore.keyed, hstore.unique⟩
  intro entry he
  rcases mem_cons.mp he with rfl | he
  · exact ⟨p, hp, by rw [getElem?_store, if_pos rfl]⟩
  · exact hstore.recorded entry he

/-- Completing the first live transaction closes it. -/
theorem Ledger.close {terminal : TransactionTerminal} (h : Ledger journal ((queued, last) :: rest))
    (hid : terminal.transactionId = queued.id) :
    Ledger (journal.store queued.id order ⟨queued.request.clientId, queued.request.requestId,
      digest, .terminal terminal⟩) rest := by
  refine ⟨h.toOpened.store (congrArg some hid), ?_, ?_⟩
  · intro id record hr hp
    rw [getElem?_store] at hr
    split at hr
    · cases hr; cases hp
    next hne =>
      rcases mem_cons.mp (h.complete id record hr hp) with heq | hmem
      · exact absurd heq.symm hne
      · exact hmem
  intro id
  have hb := h.balanced id
  simp only [ids, map_cons, count_cons] at hb
  simp only [store, countP_append, countP_singleton, isAdmission, isCompletion, hid, ids]
  by_cases heq : queued.id = id <;> simp [heq] at hb ⊢ <;> omega

/-- Sending the first live transaction only moves its state. -/
theorem Ledger.send (h : Ledger journal ((queued, .queued) :: rest)) (hp : progress queued .sent = .ok p) :
    Ledger (journal.store queued.id order ⟨queued.request.clientId, queued.request.requestId,
      queued.requestDigest, .progress p⟩) ((queued, .sent) :: rest) := by
  refine ⟨h.toOpened.send hp, ?_, ?_⟩
  · intro id record hr hq
    rw [getElem?_store] at hr
    split at hr
    next heq => exact heq ▸ mem_cons_self
    · exact h.complete id record hr hq
  intro id
  obtain ⟨declared, _, rfl⟩ := progress_fields hp
  have hb := h.balanced id
  simpa [store, isAdmission, isCompletion, ids] using hb

/-- Making room only forgets a terminal record. -/
theorem evictTerminal_spec (h : journal.evictTerminal = .ok journal') :
    journal'.accepted = journal.accepted ∧ ∀ id : TransactionId,
      journal'.retained[id]? = journal.retained[id]? ∨ (journal'.retained[id]? = none ∧
        ∃ record : OutcomeRecord, journal.retained[id]? = some record ∧ record.result.isTerminal) := by
  unfold evictTerminal at h
  split at h
  · split at h
    · cases h
    next evictedId hfind =>
      split at h
      · cases h
      next evicted hget =>
        cases h
        refine ⟨rfl, fun id => ?_⟩
        have hterm := find?_some hfind
        simp only [hget, Option.any_some] at hterm
        simp only [Std.TreeMap.getElem?_erase, Std.LawfulEqCmp.compare_eq_iff_eq]
        by_cases heq : evictedId = id
        · subst heq
          exact .inr ⟨by simp, evicted, hget, hterm⟩
        · exact .inl (by simp [heq])
  cases h
  exact ⟨rfl, fun id => .inl rfl⟩

/-- What recording the first progress of a fresh transaction does. -/
theorem record_fresh (hfresh : journal.retained[queued.id]? = none) (hp : progress queued .queued = .ok p)
    (hrec : journal.record queued.request.clientId (.progress p) = .ok journal') :
    journal.requestIdentityConflicts queued.request.clientId queued.request.requestId
        queued.requestDigest queued.id = false ∧
      ∃ journal₁, journal.evictTerminal = .ok journal₁ ∧
        journal' = journal₁.store queued.id (journal₁.order ++ [queued.id])
          ⟨queued.request.clientId, queued.request.requestId, queued.requestDigest, .progress p⟩ := by
  obtain ⟨declared, _, rfl⟩ := progress_fields hp
  simp only [record, transactionId, requestId, requestDigest, hfresh] at hrec
  split at hrec
  · cases hrec
  next hconflict =>
    split at hrec
    · cases hrec
    next journal₁ hevict =>
      cases hrec
      exact ⟨by simpa using hconflict, journal₁, hevict, rfl⟩

theorem Opened.enroll (h : Opened journal rest) (hfresh : journal.retained[queued.id]? = none)
    (hp : progress queued .queued = .ok p)
    (hrec : journal.record queued.request.clientId (.progress p) = .ok journal') :
    Opened journal' ((queued, .queued) :: rest) := by
  obtain ⟨hconflict, journal₁, hevict, rfl⟩ := record_fresh hfresh hp hrec
  obtain ⟨_, hkeep⟩ := evictTerminal_spec hevict
  have hold : ∀ (id : TransactionId) (record : OutcomeRecord), journal₁.retained[id]? = some record →
      journal.retained[id]? = some record := by
    intro id record hr
    rcases hkeep id with hsame | ⟨hnone, _⟩
    · rw [← hsame]
      exact hr
    rw [hnone] at hr
    cases hr
  have hnot : queued.id ∉ ids rest := by
    intro hmem
    obtain ⟨entry, he, heq⟩ := mem_map.mp hmem
    obtain ⟨_, _, hret⟩ := h.recorded entry he
    rw [heq, hfresh] at hret
    cases hret
  have hclash : ∀ (id : TransactionId) (record : OutcomeRecord), journal.retained[id]? = some record →
      record.clientId = queued.request.clientId → record.requestId = queued.request.requestId →
      id = queued.id := by
    intro id record hr hclient hrequest
    simp only [requestIdentityConflicts, Bool.or_eq_false_iff, any_eq_false, decide_eq_true_eq] at hconflict
    have hno := hconflict.1 record (mem_records.mpr ⟨id, hr⟩)
    have hkey := h.keyed id record hr
    simp only [hclient, hrequest, hkey, Option.some.injEq, true_and, not_or, not_not] at hno
    exact hno.2
  refine ⟨nodup_cons.mpr ⟨hnot, h.distinct⟩, ?_, ?_, ?_⟩
  · intro entry he
    rcases mem_cons.mp he with rfl | he
    · exact ⟨p, hp, by rw [getElem?_store, if_pos rfl]⟩
    obtain ⟨q, hq, hret⟩ := h.recorded entry he
    refine ⟨q, hq, ?_⟩
    have hne : queued.id ≠ entry.1.id := fun heq => hnot (heq ▸ mem_map_of_mem he)
    rw [getElem?_store, if_neg hne]
    rcases hkeep entry.1.id with hsame | ⟨_, record, hr, hterm⟩
    · exact hsame.trans hret
    rw [hret] at hr
    cases hr
    cases hterm
  · intro id record hr
    rw [getElem?_store] at hr
    split at hr
    next heq =>
      cases hr
      obtain ⟨declared, _, rfl⟩ := progress_fields hp
      exact congrArg some heq
    · exact h.keyed id record (hold id record hr)
  intro id id' record record' hr hr' hclient hrequest
  rw [getElem?_store] at hr hr'
  split at hr <;> split at hr'
  next heq heq' => exact heq.symm.trans heq'
  next heq _ => cases hr; exact heq.symm.trans (hclash _ _ (hold _ _ hr') hclient.symm hrequest.symm).symm
  next _ heq' => cases hr'; exact (hclash _ _ (hold _ _ hr) hclient hrequest).trans heq'
  · exact h.unique _ _ _ _ (hold _ _ hr) (hold _ _ hr') hclient hrequest

theorem Ledger.enroll (h : Ledger journal rest) (hfresh : journal.retained[queued.id]? = none)
    (hp : progress queued .queued = .ok p)
    (hrec : journal.record queued.request.clientId (.progress p) = .ok journal') :
    Ledger journal' ((queued, .queued) :: rest) := by
  refine ⟨h.toOpened.enroll hfresh hp hrec, ?_, ?_⟩
  all_goals
    obtain ⟨_, journal₁, hevict, rfl⟩ := record_fresh hfresh hp hrec
    obtain ⟨hacc, hkeep⟩ := evictTerminal_spec hevict
  · intro id record hr hq
    rw [getElem?_store] at hr
    split at hr
    next heq => exact heq ▸ mem_cons_self
    rcases hkeep id with hsame | ⟨hnone, _⟩
    · exact mem_cons_of_mem _ (h.complete id record (hsame ▸ hr) hq)
    rw [hnone] at hr
    cases hr
  intro id
  obtain ⟨declared, _, rfl⟩ := progress_fields hp
  have hb := h.balanced id
  simp only [ids, map_cons, count_cons]
  simp only [ids] at hb
  simp only [store, hacc, countP_append, countP_singleton, isAdmission, isCompletion]
  by_cases heq : queued.id = id <;> simp [heq] at hb ⊢ <;> omega

end HyperfluxNext
