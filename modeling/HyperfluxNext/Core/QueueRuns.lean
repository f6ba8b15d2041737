import HyperfluxNext.Core.CoordinatorRuns

namespace HyperfluxNext

open BoundedTransactionQueue List BoundedTransactionQueue

/-- Why an entry left the queue. -/
inductive QueueExit where
  | superseded (successor : QueuedTransaction)
  | expired (now : MonotonicMs)
  | taken (now : MonotonicMs)
  | removed

inductive TransactionQueueOp where
  | push (transaction : QueuedTransaction) (now : MonotonicMs)
  | takeNext (now : MonotonicMs)
  | takeTransaction (transactionId : TransactionId) (now : MonotonicMs)
  | removeTransaction (transactionId : TransactionId)
  | invalidateGeneration (receiverId : ReceiverId) (generationId : GenerationId)
  | invalidateSession (sessionId : SessionId)

/-- The entries that a call admits and those that it lets out. -/
structure QueueTraffic where
  admitted : List QueuedTransaction
  left : List (QueuedTransaction × QueueExit)

/-- The entry that an accepted request becomes. -/
def QueueDecision.entry (decision : QueueDecision) (transaction : QueuedTransaction) : QueuedTransaction :=
  { transaction with admission := decision.admission }

def DequeueDecision.left (decision : DequeueDecision) (now : MonotonicMs) : List (QueuedTransaction × QueueExit) :=
  decision.expired.map (·, .expired now) ++ decision.next.toList.map (·, .taken now)

namespace TransactionQueueOp

def run (queue : BoundedTransactionQueue) : TransactionQueueOp → QueueTraffic × BoundedTransactionQueue
  | .push transaction now =>
    match queue.admitTransaction transaction now with
    | .error _ => (⟨[], []⟩, queue)
    | .ok (decision, queue) =>
      (⟨[decision.entry transaction],
        decision.superseded.toList.map (·, .superseded (decision.entry transaction))⟩, queue)
  | .takeNext now =>
    let (decision, queue) := queue.takeNext now
    (⟨[], decision.left now⟩, queue)
  | .takeTransaction transactionId now =>
    let (decision, queue) := queue.takeTransaction transactionId now
    (⟨[], decision.left now⟩, queue)
  | .removeTransaction transactionId =>
    let (removed, queue) := queue.removeTransaction transactionId
    (⟨[], removed.toList.map (·, .removed)⟩, queue)
  | .invalidateGeneration receiverId generationId =>
    let (removed, queue) := queue.invalidateGeneration receiverId generationId
    (⟨[], removed.map (·, .removed)⟩, queue)
  | .invalidateSession sessionId =>
    let (removed, queue) := queue.invalidateSession sessionId
    (⟨[], removed.map (·, .removed)⟩, queue)

end TransactionQueueOp

structure QueueRun where
  queue : BoundedTransactionQueue
  admitted : List QueuedTransaction
  left : List (QueuedTransaction × QueueExit)

namespace QueueRun

def start (queue : BoundedTransactionQueue) : QueueRun := ⟨queue, [], []⟩

def step (run : QueueRun) (op : TransactionQueueOp) : QueueRun :=
  let (traffic, queue) := op.run run.queue
  ⟨queue, run.admitted ++ traffic.admitted, run.left ++ traffic.left⟩

def due (run : QueueRun) : List QueuedTransaction := run.admitted.filter (· ∉ run.left.map (·.1))

end QueueRun

/-- The authority and the resources that two requests have to share. -/
structure SameScope (left right : QueuedTransaction) : Prop where
  session : left.sessionId = right.sessionId
  epoch : left.authorizationEpoch = right.authorizationEpoch
  client : left.request.clientId = right.request.clientId
  lease : left.request.leaseId = right.request.leaseId
  receiver : left.request.receiverId = right.request.receiverId
  generation : left.request.generationId = right.request.generationId
  resources : left.request.resources = right.request.resources

variable {left right : QueuedTransaction} {queue : BoundedTransactionQueue} {now : MonotonicMs}

theorem SameScope.symm (h : SameScope left right) : SameScope right left :=
  ⟨h.session.symm, h.epoch.symm, h.client.symm, h.lease.symm, h.receiver.symm, h.generation.symm,
    h.resources.symm⟩

theorem SameScope.trans {middle : QueuedTransaction} (h : SameScope left middle) (h' : SameScope middle right)
    : SameScope left right :=
  ⟨h.session.trans h'.session, h.epoch.trans h'.epoch, h.client.trans h'.client,
    h.lease.trans h'.lease, h.receiver.trans h'.receiver, h.generation.trans h'.generation,
    h.resources.trans h'.resources⟩

theorem coalescingScope_iff (left right : QueuedTransaction) :
    coalescingScope left right = true ↔
      left.request.transactionClass = .effectFrame ∧ SameScope left right := by
  unfold coalescingScope
  rw [decide_eq_true_iff]
  constructor
  · intro h
    obtain ⟨hclass, hsession, hepoch, hclient, hlease, hreceiver, hgeneration, hresources⟩ := h
    exact ⟨hclass, hsession, hepoch, hclient, hlease, hreceiver, hgeneration, hresources⟩
  intro h
  obtain ⟨hclass, hscope⟩ := h
  exact ⟨hclass, hscope.session, hscope.epoch, hscope.client, hscope.lease, hscope.receiver,
    hscope.generation, hscope.resources⟩

/-- Two effect frames that stand for the same thing. -/
def RivalFrames (left right : QueuedTransaction) : Prop :=
  left.request.transactionClass = .effectFrame ∧ right.request.transactionClass = .effectFrame ∧
    SameScope left right

/-- What entitles an entry to leave. -/
def QueueExit.Justified (admitted : List QueuedTransaction) (entry : QueuedTransaction) : QueueExit → Prop
  | .superseded successor => RivalFrames entry successor ∧ successor ∈ admitted
  | .expired now => entry.request.deadlineMs ≤ now
  | .taken now => now < entry.request.deadlineMs
  | .removed => True

/-- What a call does to the entries: some leave, the others keep their places, new ones go last. -/
structure QueueStep (pending : List QueuedTransaction) (traffic : QueueTraffic)
    (pending' kept : List QueuedTransaction) : Prop where
  stayed : kept.Sublist pending
  gone : pending.Perm (traffic.left.map (·.1) ++ kept)
  last : pending' = kept ++ traffic.admitted
  justified : ∀ exit ∈ traffic.left, exit.2.Justified traffic.admitted exit.1

namespace QueueStep

theorem stays (pending : List QueuedTransaction) : QueueStep pending ⟨[], []⟩ pending pending :=
  ⟨List.Sublist.refl _, List.Perm.refl _, (append_nil _).symm, by simp⟩

end QueueStep

theorem map_exit (entries : List QueuedTransaction) (exit : QueueExit) :
    (entries.map (·, exit)).map (·.1) = entries := by
  rw [map_map]
  exact map_id entries

theorem removeMatching_step (queue : BoundedTransactionQueue) (predicate : QueuedTransaction → Bool) :
    QueueStep queue.pending ⟨[], (queue.removeMatching predicate).1.map (·, .removed)⟩
      (queue.removeMatching predicate).2.pending (queue.removeMatching predicate).2.pending := by
  refine ⟨filter_sublist, ?_, (append_nil _).symm, ?_⟩
  · rw [map_exit]
    exact (removeMatching_perm queue predicate).symm
  intro exit hexit
  obtain ⟨entry, _, heq⟩ := mem_map.mp hexit
  rw [← heq]
  trivial

theorem expirePending_split :
    (∀ entry ∈ (queue.expirePending now).1, entry.request.deadlineMs ≤ now) ∧
      ∀ entry ∈ (queue.expirePending now).2.pending, now < entry.request.deadlineMs := by
  unfold expirePending removeMatching keep
  constructor
  · intro entry hentry
    simpa using (mem_filter.mp hentry).2
  intro entry hentry
  have hkept := (mem_filter.mp hentry).2
  rw [Bool.not_eq_true', decide_eq_false_iff_not, Bounded.le_iff] at hkept
  rw [Bounded.lt_iff]
  omega

/-- Expiry followed by the departure of at most one live entry. -/
theorem dequeue_step {next : Option QueuedTransaction} {rest : List QueuedTransaction}
    (hsub : rest.Sublist (queue.expirePending now).2.pending)
    (hperm : (queue.expirePending now).2.pending.Perm (next.toList ++ rest)) :
    QueueStep queue.pending ⟨[], (⟨(queue.expirePending now).1, next⟩ : DequeueDecision).left now⟩
      rest rest := by
  obtain ⟨hexpired, hlive⟩ := @expirePending_split queue now
  have hall : ((queue.expirePending now).1 ++ (queue.expirePending now).2.pending).Perm
      queue.pending := removeMatching_perm queue _
  refine ⟨?_, ?_, (append_nil _).symm, ?_⟩
  · exact hsub.trans filter_sublist
  · unfold DequeueDecision.left
    rw [map_append, map_exit, map_exit, append_assoc]
    exact hall.symm.trans (hperm.append_left _)
  intro exit hexit
  obtain hold | htaken := mem_append.mp hexit
  · obtain ⟨entry, hentry, heq⟩ := mem_map.mp hold
    rw [← heq]
    exact hexpired entry hentry
  obtain ⟨entry, hentry, heq⟩ := mem_map.mp htaken
  rw [← heq]
  exact hlive entry (hperm.mem_iff.mpr (mem_append_left _ hentry))

section

variable (queue : BoundedTransactionQueue)

theorem takeNext_step (now : MonotonicMs) :
    QueueStep queue.pending ⟨[], (queue.takeNext now).1.left now⟩ (queue.takeNext now).2.pending
      (queue.takeNext now).2.pending := by
  refine dequeue_step (tail_sublist _) ?_
  show (queue.expirePending now).2.pending.Perm
    ((queue.expirePending now).2.pending.head?.toList ++ (queue.expirePending now).2.pending.tail)
  cases (queue.expirePending now).2.pending with
  | nil | cons first rest => exact List.Perm.refl _

theorem removeTransaction_sublist (id : TransactionId) :
    (queue.removeTransaction id).2.pending.Sublist queue.pending := by
  unfold removeTransaction
  split
  · exact List.Sublist.refl _
  next position hfind => exact eraseIdx_sublist _ _

theorem removeTransaction_perm (id : TransactionId) :
    queue.pending.Perm ((queue.removeTransaction id).1.toList ++ (queue.removeTransaction id).2.pending) := by
  cases hfound : (queue.removeTransaction id).1 with
  | none =>
    obtain ⟨_, hsame⟩ := removeTransaction_none hfound
    rw [hsame]
    exact List.Perm.refl _
  | some entry =>
    obtain ⟨_, hperm⟩ := removeTransaction_some hfound
    exact hperm.symm

theorem takeTransaction_step (id : TransactionId) (now : MonotonicMs) :
    QueueStep queue.pending ⟨[], (queue.takeTransaction id now).1.left now⟩
      (queue.takeTransaction id now).2.pending (queue.takeTransaction id now).2.pending :=
  dequeue_step (removeTransaction_sublist _ id) (removeTransaction_perm _ id)

theorem removeTransaction_step (id : TransactionId) :
    QueueStep queue.pending ⟨[], (queue.removeTransaction id).1.toList.map (·, .removed)⟩
      (queue.removeTransaction id).2.pending (queue.removeTransaction id).2.pending := by
  refine ⟨removeTransaction_sublist queue id, ?_, (append_nil _).symm, ?_⟩
  · rw [map_exit]
    exact removeTransaction_perm queue id
  intro exit hexit
  obtain ⟨entry, _, heq⟩ := mem_map.mp hexit
  rw [← heq]
  trivial

end

/-- No two queued effect frames stand for the same thing. -/
def NoRivals (pending : List QueuedTransaction) : Prop :=
  pending.Pairwise fun left right => ¬ RivalFrames left right

theorem RivalFrames.symm (h : RivalFrames left right) : RivalFrames right left := ⟨h.2.1, h.1, h.2.2.symm⟩

theorem RivalFrames.trans {middle : QueuedTransaction} (h : RivalFrames left middle)
    (h' : RivalFrames middle right) : RivalFrames left right :=
  ⟨h.1, h'.2.1, h.2.2.trans h'.2.2⟩

theorem rivalFrames_entry {transaction : QueuedTransaction} {decision : QueueDecision} :
    RivalFrames left (decision.entry transaction) ↔
      transaction.request.transactionClass = .effectFrame ∧ coalescingScope left transaction = true := by
  rw [coalescingScope_iff]
  constructor
  · intro h
    exact ⟨h.2.1, h.1, h.2.2.session, h.2.2.epoch, h.2.2.client, h.2.2.lease, h.2.2.receiver,
      h.2.2.generation, h.2.2.resources⟩
  intro h
  obtain ⟨hclass, hleft, hscope⟩ := h
  exact ⟨hleft, hclass, hscope.session, hscope.epoch, hscope.client, hscope.lease, hscope.receiver,
    hscope.generation, hscope.resources⟩

theorem noRivals_perm {left right : List QueuedTransaction} (h : left.Perm right) :
    NoRivals left ↔ NoRivals right :=
  h.pairwise_iff fun hnot hrival => hnot hrival.symm

structure Accepted (pending : List QueuedTransaction) (decision : QueueDecision)
    (entry : QueuedTransaction) (pending' kept : List QueuedTransaction) : Prop where
  stayed : kept.Sublist pending
  gone : pending.Perm (decision.superseded.toList ++ kept)
  last : pending' = kept ++ [entry]
  replaced : ∀ superseded ∈ decision.superseded.toList, RivalFrames superseded entry
  alone : NoRivals pending → ∀ other ∈ kept, ¬ RivalFrames other entry

theorem admitTransaction_accepted {queue' : BoundedTransactionQueue} {transaction : QueuedTransaction}
    {decision : QueueDecision} (h : queue.admitTransaction transaction now = .ok (decision, queue')) :
    ∃ kept, Accepted queue.pending decision (decision.entry transaction) queue'.pending kept := by
  unfold admitTransaction at h
  split at h
  · cases h
  split at h
  · cases h
  split at h
  next position superseded hfound =>
    cases h
    obtain ⟨found, hposition, hget⟩ := Option.bind_eq_some_iff.mp hfound
    obtain ⟨entry, hentry, heq⟩ := Option.map_eq_some_iff.mp hget
    cases heq
    unfold coalescingPosition at hposition
    split at hposition
    next hclass =>
      obtain ⟨hlt, hscope, _⟩ := findIdx?_eq_some_iff_getElem.mp hposition
      rw [getElem?_eq_getElem hlt] at hentry
      cases hentry
      have hperm : queue.pending.Perm (queue.pending[position] :: queue.pending.eraseIdx position) :=
        (getElem_cons_eraseIdx_perm hlt).symm
      have hrival : RivalFrames queue.pending[position]
          (QueueDecision.entry ⟨.coalesced, some queue.pending[position]⟩ transaction) :=
        rivalFrames_entry.mpr ⟨hclass, hscope⟩
      refine ⟨queue.pending.eraseIdx position, eraseIdx_sublist _ _, hperm, rfl, ?_, ?_⟩
      · intro other hother
        rw [Option.toList_some, mem_singleton] at hother
        rw [hother]
        exact hrival
      intro halone other hother hagain
      have hpair := pairwise_cons.mp ((noRivals_perm hperm).mp halone)
      exact hpair.1 other hother (hrival.trans hagain.symm)
    · cases hposition
  next hnone =>
    split at h
    · cases h
    cases h
    refine ⟨queue.pending, List.Sublist.refl _, List.Perm.refl _, rfl, by simp, ?_⟩
    intro _ other hother hrival
    obtain ⟨hclass, hscope⟩ := rivalFrames_entry.mp hrival
    have hposition : queue.coalescingPosition transaction =
        queue.pending.findIdx? (coalescingScope · transaction) := if_pos hclass
    cases hfind : queue.pending.findIdx? (coalescingScope · transaction) with
    | none =>
      have hout := findIdx?_eq_none_iff.mp hfind other hother
      rw [hscope] at hout
      cases hout
    | some position =>
      have hlt := (findIdx?_eq_some_iff_getElem.mp hfind).1
      rw [hposition, hfind, Option.bind_some, getElem?_eq_getElem hlt] at hnone
      cases hnone

namespace TransactionQueueOp

/-- Every call takes some entries out, leaves the others in order and puts at most one new one last. -/
theorem run_step (queue : BoundedTransactionQueue) (op : TransactionQueueOp) :
    ∃ kept, QueueStep queue.pending (op.run queue).1 (op.run queue).2.pending kept ∧
      (NoRivals queue.pending → NoRivals (op.run queue).2.pending) := by
  have hquiet : ∀ {traffic : QueueTraffic} {pending' kept : List QueuedTransaction},
      QueueStep queue.pending traffic pending' kept → traffic.admitted = [] →
      NoRivals queue.pending → NoRivals pending' := by
    intro traffic pending' kept hstep hnone halone
    rw [hstep.last, hnone, append_nil]
    exact halone.sublist hstep.stayed
  cases op with
  | push transaction now =>
    simp only [run]
    cases hadmit : queue.admitTransaction transaction now with
    | error _ => exact ⟨queue.pending, QueueStep.stays _, id⟩
    | ok accepted =>
      obtain ⟨decision, queue'⟩ := accepted
      obtain ⟨kept, haccepted⟩ := admitTransaction_accepted hadmit
      refine ⟨kept, ⟨haccepted.stayed, ?_, haccepted.last, ?_⟩, ?_⟩
      · show queue.pending.Perm (_ ++ kept)
        rw [map_exit]
        exact haccepted.gone
      · intro exit hexit
        obtain ⟨superseded, hsuperseded, heq⟩ := mem_map.mp hexit
        rw [← heq]
        exact ⟨haccepted.replaced superseded hsuperseded, mem_singleton_self _⟩
      intro halone
      show NoRivals queue'.pending
      unfold NoRivals
      rw [haccepted.last, pairwise_append]
      refine ⟨halone.sublist haccepted.stayed, pairwise_singleton _ _, ?_⟩
      intro other hother entry hentry
      rw [mem_singleton.mp hentry]
      exact haccepted.alone halone other hother
  | takeNext now => exact ⟨_, takeNext_step queue now, hquiet (takeNext_step queue now) rfl⟩
  | takeTransaction id now =>
    exact ⟨_, takeTransaction_step queue id now, hquiet (takeTransaction_step queue id now) rfl⟩
  | removeTransaction id =>
    exact ⟨_, removeTransaction_step queue id, hquiet (removeTransaction_step queue id) rfl⟩
  | invalidateGeneration receiverId generationId | invalidateSession sessionId =>
    exact ⟨_, removeMatching_step queue _, hquiet (removeMatching_step queue _) rfl⟩

end TransactionQueueOp

theorem QueueExit.Justified.mono {admitted more : List QueuedTransaction} {entry : QueuedTransaction}
    {exit : QueueExit} (hsub : ∀ other ∈ admitted, other ∈ more) (h : exit.Justified admitted entry) :
    exit.Justified more entry := by
  cases exit with
  | superseded successor => exact ⟨h.1, hsub successor h.2⟩
  | expired now | taken now => exact h
  | removed => trivial

namespace QueueRun

/-- What holds of a queue and its past after any calls. -/
structure Sound (run : QueueRun) : Prop where
  conserved : run.admitted.Perm (run.left.map (·.1) ++ run.queue.pending)
  ordered : run.queue.pending.Sublist run.admitted
  alone : NoRivals run.queue.pending
  justified : ∀ exit ∈ run.left, exit.2.Justified run.admitted exit.1

theorem start_sound {capacity : Nat} {queue : BoundedTransactionQueue}
    (hnew : new capacity = .ok queue) : (start queue).Sound := by
  unfold new at hnew
  split at hnew
  · cases hnew
    exact ⟨List.Perm.refl _, List.Sublist.refl _, List.Pairwise.nil, by simp [start]⟩
  · cases hnew

theorem Sound.step {run : QueueRun} (h : run.Sound) (op : TransactionQueueOp) : (run.step op).Sound := by
  obtain ⟨kept, hstep, halone⟩ := op.run_step run.queue
  refine ⟨?_, ?_, halone h.alone, ?_⟩
  · show (run.admitted ++ (op.run run.queue).1.admitted).Perm
      ((run.left ++ (op.run run.queue).1.left).map (·.1) ++ (op.run run.queue).2.pending)
    rw [hstep.last, map_append, append_assoc, ← append_assoc _ kept, ← append_assoc (run.left.map (·.1))]
    exact (h.conserved.trans (hstep.gone.append_left _)).append_right _
  · show (op.run run.queue).2.pending.Sublist (run.admitted ++ (op.run run.queue).1.admitted)
    rw [hstep.last]
    exact (hstep.stayed.trans h.ordered).append_right _
  intro exit hexit
  obtain hold | hnew := mem_append.mp hexit
  · exact (h.justified exit hold).mono fun other hother => mem_append_left _ hother
  · exact (hstep.justified exit hnew).mono fun other hother => mem_append_right _ hother

theorem Sound.run {run : QueueRun} (h : run.Sound) (ops : List TransactionQueueOp) :
    (ops.foldl QueueRun.step run).Sound := by
  induction ops generalizing run with
  | nil => exact h
  | cons op ops ih => exact ih (h.step op)

end QueueRun

theorem filter_not_gone {entries gone kept : List QueuedTransaction} (honce : entries.Nodup)
    (hsub : kept.Sublist entries) (hperm : entries.Perm (gone ++ kept)) :
    entries.filter (· ∉ gone) = kept := by
  have hboth : (gone ++ kept).Nodup := hperm.nodup_iff.mp honce
  have hapart : ∀ entry ∈ kept, entry ∉ gone := by
    intro entry hkept hgone
    exact (nodup_append.mp hboth).2.2 entry hgone entry hkept rfl
  have hall : kept.filter (· ∉ gone) = kept := by
    rw [filter_eq_self]
    intro entry hentry
    exact decide_eq_true (hapart entry hentry)
  have hinto : kept.Sublist (entries.filter (· ∉ gone)) := by
    have hfiltered := hsub.filter (· ∉ gone)
    rw [hall] at hfiltered
    exact hfiltered
  have hlength : (entries.filter (· ∉ gone)).length = kept.length := by
    have hfiltered := (hperm.filter (· ∉ gone)).length_eq
    have hnone : gone.filter (· ∉ gone) = [] := by
      rw [filter_eq_nil_iff]
      intro entry hentry
      simpa using hentry
    rw [hfiltered, filter_append, hnone, hall, nil_append]
  exact (hinto.eq_of_length hlength.symm).symm

theorem takeNext_eq (queue : BoundedTransactionQueue) (now : MonotonicMs) :
    (queue.takeNext now).1.next = queue.pending.find? (now < ·.request.deadlineMs) := by
  show (queue.pending.filter _).head? = _
  rw [head?_filter]
  congr 1
  funext entry
  rw [Bool.eq_iff_iff, Bool.not_eq_true', decide_eq_false_iff_not, decide_eq_true_iff,
    Bounded.le_iff, Bounded.lt_iff]
  omega

/-- Every run of a queue whose entries have distinct ids keeps the order of admission, replaces only
rival effect frames, and lets every entry out once. -/
theorem transactionQueue_run {capacity : Nat} {queue : BoundedTransactionQueue}
    (hnew : new capacity = .ok queue) (ops : List TransactionQueueOp)
    (hids : ((ops.foldl QueueRun.step (.start queue)).admitted.map (·.id)).Nodup) :
    let run := ops.foldl QueueRun.step (.start queue)
    (∀ exit ∈ run.left, exit.2.Justified run.admitted exit.1) ∧
    NoRivals run.queue.pending ∧
    run.queue.pending = run.due ∧
    (∀ now : MonotonicMs, (run.queue.takeNext now).1.next = run.due.find? (now < ·.request.deadlineMs)) ∧
    run.admitted.Perm (run.left.map (·.1) ++ run.queue.pending) ∧
    ((run.left.map (·.1) ++ run.queue.pending).map (·.id)).Nodup := by
  intro run
  have hsound : run.Sound := (QueueRun.start_sound hnew).run ops
  have hdue : run.queue.pending = run.due := (filter_not_gone hids.of_map hsound.ordered hsound.conserved).symm
  refine ⟨hsound.justified, hsound.alone, hdue, ?_, hsound.conserved, ?_⟩
  · intro now
    rw [takeNext_eq, hdue]
  · exact (hsound.conserved.map (·.id)).nodup_iff.mp hids

def queuedFrame (id : TransactionId) : QueuedTransaction :=
  ⟨{ sampleRequest with transactionId := id }, sampleDigest, sampleBinding.sessionId,
    sampleBinding.authorizationEpoch, sampleBinding.dispatchNonce, .enqueued⟩

def frameTraffic : List TransactionQueueOp :=
  [.push (queuedFrame (.lit "first")) (.lit 0),
    .push (queuedFrame (.lit "second")) (.lit 1),
    .takeNext (.lit 2)]

theorem transactionQueue_run_frames :
    new 2 = .ok ⟨2, [], by decide, by decide⟩ ∧
      (frameTraffic.foldl QueueRun.step (.start ⟨2, [], by decide, by decide⟩)).left.map (·.1.id) =
        [(.lit "first"), (.lit "second")] ∧
      NoRivals (frameTraffic.foldl QueueRun.step (.start ⟨2, [], by decide, by decide⟩)).queue.pending := by
  have hnew : new 2 = .ok ⟨2, [], by decide, by decide⟩ := rfl
  exact ⟨hnew, by decide +kernel, (transactionQueue_run hnew frameTraffic (by decide +kernel)).2.1⟩

end HyperfluxNext
