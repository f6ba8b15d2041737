import HyperfluxNext.Core.LeaseRuns

namespace HyperfluxNext

open Procedure LeaseManager List Std.TreeMap

namespace LeaseOperation

/-- The identity that a repeated request is recognised by. -/
def key : LeaseOperation → ClientId × RequestId
  | .acquire request => (request.clientId, request.requestId)
  | .renew request => (request.clientId, request.requestId)
  | .release request => (request.clientId, request.requestId)

/-- The call that answers an operation; only an acquire uses the new lease's identity. -/
def decision (operation : LeaseOperation) (leaseId : LeaseId) (now : MonotonicMs) : LeaseM LeaseDecision :=
  match operation with
  | .acquire request => acquireDecision request leaseId now
  | .renew request => renewRequestDecision request now
  | .release request => releaseRequestDecision request now

def Valid : LeaseOperation → Prop
  | .acquire request => validateLeaseRequest request = .ok ()
  | _ => True

end LeaseOperation

def RequestRecord.answer (record : RequestRecord) : (ClientId × RequestId) × LeaseOperation × LeaseResult :=
  (record.key, record.request, record.result)

namespace LeaseManager

def answers (manager : LeaseManager) : List ((ClientId × RequestId) × LeaseOperation × LeaseResult) :=
  manager.history.map RequestRecord.answer

def Backs (record : RequestRecord) (id : LeaseId) (grant : LeaseGrant) : Prop :=
  record.pinnedLease = some id ∧ ∃ request granted, record.request = .acquire request ∧
    record.result = .granted granted ∧ granted.leaseId = id ∧ granted.clientId = grant.clientId ∧
    granted.resources = grant.resources

/-- The request history is bounded, has one record for each identity, and pins live leases only. -/
structure Journaled (manager : LeaseManager) : Prop where
  room : 0 < manager.maxHistory
  bounded : manager.history.length ≤ manager.maxHistory
  keys : (manager.answers.map (·.1)).Nodup
  valid : ∀ answer ∈ manager.answers, answer.1 = answer.2.1.key ∧ answer.2.1.Valid
  pinned : ∀ record ∈ manager.history, ∀ id, record.pinnedLease = some id → id ∈ manager.leases
  backed : ∀ (id : LeaseId) (grant : LeaseGrant), manager.leases[id]? = some grant →
    ∃ record ∈ manager.history, Backs record id grant

/-- Leases end and records go, but not the records that a lease still pins. -/
structure Trims (before after : LeaseManager) : Prop where
  limit : after.maxHistory = before.maxHistory
  shrinks : Shrinks before after
  answers : after.answers.Sublist before.answers
  live : (∀ record ∈ before.history, ∀ id, record.pinnedLease = some id → id ∈ before.leases) →
    ∀ record ∈ after.history, ∀ id, record.pinnedLease = some id → id ∈ after.leases
  pinned : ∀ record ∈ before.history, ∀ id, record.pinnedLease = some id → id ∈ after.leases →
    record ∈ after.history
  only : ∀ record ∈ after.history, record ∈ before.history ∨ record.pinnedLease = none

variable {manager : LeaseManager} {id : LeaseId} {before after : LeaseManager}
  {key : ClientId × RequestId} {operation : LeaseOperation}

theorem mem_leases_iff : id ∈ manager.leases ↔ ∃ grant, manager.leases[id]? = some grant := by
  rw [mem_iff_isSome_getElem?, Option.isSome_iff_exists]

theorem Shrinks.mem (h : Shrinks before after)
    (hid : id ∈ after.leases) : id ∈ before.leases := by
  obtain ⟨grant, hgrant⟩ := mem_leases_iff.mp hid
  exact mem_leases_iff.mpr ⟨grant, h id grant hgrant⟩

theorem Trims.refl (manager : LeaseManager) : Trims manager manager :=
  ⟨rfl, .refl manager, .refl _, fun h => h, fun _ h _ _ _ => h, fun _ h => .inl h⟩

theorem Trims.trans {first second third : LeaseManager} (h : Trims first second)
    (h' : Trims second third) : Trims first third where
  limit := h'.limit.trans h.limit
  shrinks := h.shrinks.trans h'.shrinks
  answers := h'.answers.trans h.answers
  live hlive := h'.live (h.live hlive)
  pinned record hrecord id hpin hid :=
    h'.pinned record (h.pinned record hrecord id hpin (h'.shrinks.mem hid)) id hpin hid
  only record hrecord := by
    obtain hmiddle | hnone := h'.only record hrecord
    · exact h.only record hmiddle
    · exact .inr hnone

section

variable (manager)

/-- Ending a lease only takes its pins off the records. -/
theorem removeLease_answers (leaseId : LeaseId) :
    (manager.removeLease leaseId).2.answers = manager.answers := by
  unfold removeLease
  split
  · rfl
  unfold answers
  rw [map_map]
  apply map_congr_left
  intro record _
  simp only [Function.comp_apply]
  split
  · rfl
  · rfl

theorem removeLease_trims (leaseId : LeaseId) :
    Trims manager (manager.removeLease leaseId).2 := by
  have hshrinks := removeLease_shrinks manager leaseId
  have habsent := removeLease_absent manager leaseId
  have hother : ∀ id : LeaseId, id ∈ manager.leases → leaseId ≠ id →
      id ∈ (manager.removeLease leaseId).2.leases := by
    intro id hid hne
    obtain ⟨grant, hgrant⟩ := mem_leases_iff.mp hid
    refine mem_leases_iff.mpr ⟨grant, ?_⟩
    rw [getElem?_removeLease, if_neg hne]
    exact hgrant
  have hgone : leaseId ∉ (manager.removeLease leaseId).2.leases := by
    intro hid
    obtain ⟨grant, hgrant⟩ := mem_leases_iff.mp hid
    rw [habsent] at hgrant
    cases hgrant
  cases hlease : manager.leases[leaseId]? with
  | none =>
    have hsame : (manager.removeLease leaseId).2 = manager := by
      unfold removeLease
      rw [hlease]
    rw [hsame]
    exact .refl manager
  | some grant =>
    have hhistory : (manager.removeLease leaseId).2.history = manager.history.map fun record =>
        if record.pinnedLease = some leaseId then { record with pinnedLease := none } else record := by
      unfold removeLease
      rw [hlease]
    refine ⟨?_, hshrinks, ?_, ?_, ?_, ?_⟩
    · unfold removeLease
      rw [hlease]
    · rw [removeLease_answers]
    · intro hlive record hrecord id hpin
      rw [hhistory] at hrecord
      obtain ⟨old, hold, hsame⟩ := mem_map.mp hrecord
      split at hsame
      · rw [← hsame] at hpin
        cases hpin
      next hne =>
        rw [hsame] at hold hne
        refine hother id (hlive record hold id hpin) (fun heq => hne ?_)
        rw [hpin, heq]
    · intro record hrecord id hpin hid
      rw [hhistory]
      refine mem_map.mpr ⟨record, hrecord, if_neg ?_⟩
      intro heq
      rw [hpin] at heq
      cases heq
      exact hgone hid
    intro record hrecord
    rw [hhistory] at hrecord
    obtain ⟨old, hold, hsame⟩ := mem_map.mp hrecord
    split at hsame
    · rw [← hsame]
      exact .inr rfl
    rw [← hsame]
    exact .inl hold

theorem removeLeases_trims (state : LeaseState) (leaseIds : List LeaseId) :
    Trims manager (manager.removeLeases state leaseIds).2 := by
  induction leaseIds generalizing manager with
  | nil => exact .refl manager
  | cons id leaseIds ih => exact (removeLease_trims manager id).trans (ih _)

theorem removeLeases_answers (state : LeaseState) (leaseIds : List LeaseId) :
    (manager.removeLeases state leaseIds).2.answers = manager.answers := by
  induction leaseIds generalizing manager with
  | nil => rfl
  | cons id leaseIds ih => exact (ih _).trans (removeLease_answers manager id)

theorem expire_answers (now : MonotonicMs) :
    (manager.expire now).2.answers = manager.answers :=
  removeLeases_answers manager _ _

end

theorem getElem?_removeLeases (state : LeaseState) (leaseIds : List LeaseId) (id : LeaseId) :
    ∀ manager : LeaseManager, (manager.removeLeases state leaseIds).2.leases[id]? =
      if id ∈ leaseIds then none else manager.leases[id]? := by
  induction leaseIds with
  | nil =>
    intro manager
    rw [if_neg not_mem_nil]
    rfl
  | cons first leaseIds ih =>
    intro manager
    have hrest := ih (manager.removeLease first).2
    rw [getElem?_removeLease] at hrest
    refine hrest.trans ?_
    by_cases hfirst : first = id
    · have hin : id ∈ first :: leaseIds := mem_cons.mpr (.inl hfirst.symm)
      rw [if_pos hfirst, if_pos hin, ite_self]
    have hmem : id ∈ first :: leaseIds ↔ id ∈ leaseIds :=
      ⟨fun h => (mem_cons.mp h).resolve_left (fun heq => hfirst heq.symm), mem_cons_of_mem first⟩
    rw [if_neg hfirst]
    simp only [hmem]

/-- A lease stays until its time has elapsed. -/
theorem getElem?_expire (manager : LeaseManager) (now : MonotonicMs) {grant : LeaseGrant}
    (hgrant : manager.leases[id]? = some grant) :
    (manager.expire now).2.leases[id]? = if grant.expiresAtMs ≤ now then none else some grant := by
  have hmem : id ∈ manager.leaseIds (·.expiresAtMs ≤ now) ↔ grant.expiresAtMs ≤ now := by
    unfold leaseIds
    rw [mem_map]
    constructor
    · intro h
      obtain ⟨entry, hentry, hid⟩ := h
      obtain ⟨hfound, helapsed⟩ := mem_filter.mp hentry
      have hsame : manager.leases[entry.1]? = some entry.2 := mem_toList_iff_getElem?_eq_some.mp hfound
      rw [hid, hgrant] at hsame
      cases hsame
      simpa using helapsed
    intro helapsed
    exact ⟨(id, grant), mem_filter.mpr
      ⟨mem_toList_iff_getElem?_eq_some.mpr hgrant, by simpa using helapsed⟩, rfl⟩
  unfold expire
  rw [getElem?_removeLeases]
  by_cases helapsed : grant.expiresAtMs ≤ now
  · rw [if_pos (hmem.mpr helapsed), if_pos helapsed]
  rw [if_neg (fun h => helapsed (hmem.mp h)), if_neg helapsed]
  exact hgrant

theorem expire_trims (manager : LeaseManager) (now : MonotonicMs) : Trims manager (manager.expire now).2 :=
  removeLeases_trims manager _ _

theorem Trims.length_le (h : Trims before after) :
    after.history.length ≤ before.history.length := by
  have hlength := h.answers.length_le
  unfold LeaseManager.answers at hlength
  rw [length_map, length_map] at hlength
  exact hlength

/-- There is a free place for a record, or a record that may go. -/
def HasSlot (manager : LeaseManager) : Prop :=
  manager.history.length < manager.maxHistory ∨ ∃ record ∈ manager.history, record.pinnedLease = none

/-- Dropping a record that nothing pins. -/
theorem eraseIdx_trims {position : Nat}
    (h : ∀ record, manager.history[position]? = some record → record.pinnedLease = none) :
    Trims manager { manager with history := manager.history.eraseIdx position } := by
  refine ⟨rfl, .refl manager, ?_, ?_, ?_, fun record hrecord => .inl (mem_of_mem_eraseIdx hrecord)⟩
  · exact (eraseIdx_sublist manager.history position).map RequestRecord.answer
  · intro hlive record hrecord id hpin
    exact hlive record (mem_of_mem_eraseIdx hrecord) id hpin
  intro record hrecord id hpin _
  obtain ⟨index, hindex, hat⟩ := getElem_of_mem hrecord
  refine mem_eraseIdx_iff_getElem.mpr ⟨index, hindex, ?_, hat⟩
  intro heq
  subst heq
  rw [h record (by rw [getElem?_eq_getElem hindex, hat])] at hpin
  cases hpin

/-- What making room for one record does; it fails only when every record is pinned. -/
theorem reserveHistorySlotLoop_trims (rounds : Nat)
    (hrounds : manager.history.length < rounds) :
    Holds (reserveHistorySlotLoop rounds) manager
      (fun _ after => Trims manager after ∧ after.leases = manager.leases ∧
        after.history.length < manager.maxHistory ∧ manager.HasSlot)
      (fun error after => Trims manager after ∧ after.leases = manager.leases ∧
        error = .historyCapacity ∧ manager.maxHistory ≤ after.history.length ∧
        (manager.history.length ≤ manager.maxHistory → ¬ manager.HasSlot)) := by
  induction rounds generalizing manager with
  | zero => omega
  | succ rounds ih =>
    simp only [reserveHistorySlotLoop, holds_do]
    split
    next hfull =>
      split
      next hnone =>
        refine ⟨.refl manager, rfl, rfl, hfull, ?_⟩
        intro _ hslot
        obtain hroom | ⟨record, hrecord, hpin⟩ := hslot
        · omega
        have hall := findIdx?_eq_none_iff.mp hnone record hrecord
        rw [hpin] at hall
        cases hall
      next position hposition =>
        obtain ⟨hlength, hunpinned, -⟩ := findIdx?_eq_some_iff_getElem.mp hposition
        rw [decide_eq_true_iff] at hunpinned
        simp only [holds_do]
        have hstep : Trims manager { manager with history := manager.history.eraseIdx position } := by
          apply eraseIdx_trims
          intro record hrecord
          rw [getElem?_eq_getElem hlength] at hrecord
          cases hrecord
          exact hunpinned
        have herased : (manager.history.eraseIdx position).length = manager.history.length - 1 :=
          length_eraseIdx_of_lt hlength
        refine holds_mono (ih (by rw [herased]; omega)) ?_ ?_
        · intro _ after hafter
          exact ⟨hstep.trans hafter.1, hafter.2.1, hafter.2.2.1, .inr ⟨_, getElem_mem hlength, hunpinned⟩⟩
        intro _ after hafter
        obtain ⟨htrims, hleases, herror, hstill, -⟩ := hafter
        refine ⟨hstep.trans htrims, hleases, herror, hstill, ?_⟩
        intro hbounded
        have hlater := htrims.length_le
        dsimp only at hlater hstill
        omega
    next hroom => exact ⟨.refl manager, rfl, by omega, .inl (by omega)⟩

theorem reserveHistorySlot_trims (manager : LeaseManager) :
    Holds reserveHistorySlot manager
      (fun _ after => Trims manager after ∧ after.leases = manager.leases ∧
        after.history.length < manager.maxHistory ∧ manager.HasSlot)
      (fun error after => Trims manager after ∧ after.leases = manager.leases ∧
        error = .historyCapacity ∧ manager.maxHistory ≤ after.history.length ∧
        (manager.history.length ≤ manager.maxHistory → ¬ manager.HasSlot)) := by
  simp only [reserveHistorySlot, holds_do]
  exact reserveHistorySlotLoop_trims _ (Nat.lt_succ_self _)

theorem Journaled.trims (h : Journaled before) (htrims : Trims before after) :
    Journaled after where
  room := by
    rw [htrims.limit]
    exact h.room
  bounded := by
    have hlength := htrims.length_le
    have hbounded := h.bounded
    rw [htrims.limit]
    omega
  keys := (htrims.answers.map _).nodup h.keys
  valid answer hanswer := h.valid answer (htrims.answers.subset hanswer)
  pinned := htrims.live h.pinned
  backed id grant hgrant := by
    obtain ⟨record, hrecord, hbacks⟩ := h.backed id grant (htrims.shrinks id grant hgrant)
    exact ⟨record, htrims.pinned record hrecord id hbacks.1 (mem_leases_iff.mpr ⟨grant, hgrant⟩), hbacks⟩

/-- One more record, for an identity that has none. -/
theorem Journaled.remember (h : Journaled manager)
    (hroom : manager.history.length < manager.maxHistory) {record : RequestRecord}
    (hnew : record.key ∉ manager.answers.map (·.1)) (hkey : record.key = record.request.key)
    (hvalid : record.request.Valid)
    (hpin : ∀ id, record.pinnedLease = some id → id ∈ manager.leases) :
    Journaled { manager with history := manager.history ++ [record] } := by
  have hanswers : answers { manager with history := manager.history ++ [record] } =
      manager.answers ++ [record.answer] := by
    unfold answers
    rw [map_append]
    rfl
  refine ⟨h.room, ?_, ?_, ?_, ?_, ?_⟩
  · rw [length_append, length_singleton]
    exact hroom
  · rw [hanswers, map_append]
    refine nodup_append.mpr ⟨h.keys, nodup_cons.mpr ⟨not_mem_nil, nodup_nil⟩, ?_⟩
    intro key hold last hlast hsame
    rw [map_singleton, mem_singleton] at hlast
    rw [hsame, hlast] at hold
    exact hnew hold
  · intro answer hanswer
    rw [hanswers] at hanswer
    obtain hold | hlast := mem_append.mp hanswer
    · exact h.valid answer hold
    rw [mem_singleton.mp hlast]
    exact ⟨hkey, hvalid⟩
  · intro other hother id hid
    obtain hold | hlast := mem_append.mp hother
    · exact h.pinned other hold id hid
    rw [mem_singleton.mp hlast] at hid
    exact hpin id hid
  intro id grant hgrant
  obtain ⟨backing, hbacking, hbacks⟩ := h.backed id grant hgrant
  exact ⟨backing, mem_append_left _ hbacking, hbacks⟩

theorem Journaled.regrant (h : Journaled manager)
    {grant grant' : LeaseGrant} (hgrant : manager.leases[id]? = some grant)
    (hclient : grant'.clientId = grant.clientId) (hresources : grant'.resources = grant.resources) :
    Journaled { manager with leases := manager.leases.insert id grant' } := by
  refine ⟨h.room, h.bounded, h.keys, h.valid, ?_, ?_⟩
  · intro record hrecord other hpin
    exact mem_insert.mpr (.inr (h.pinned record hrecord other hpin))
  intro other found hfound
  rw [getElem?_insert_eq] at hfound
  split at hfound
  next heq =>
    cases hfound
    obtain ⟨record, hrecord, hpin, request, granted, hrequest, hresult, hid, hclient', hresources'⟩ :=
      h.backed id grant hgrant
    refine ⟨record, hrecord, heq ▸ hpin, request, granted, hrequest, hresult, heq ▸ hid, ?_, ?_⟩
    · rw [hclient]
      exact hclient'
    rw [hresources]
    exact hresources'
  · exact h.backed other found hfound

/-- A new lease comes with the record that pins it. -/
theorem Journaled.grant (h : Journaled manager)
    (hroom : manager.history.length < manager.maxHistory) {grant : LeaseGrant}
    {request : LeaseRequest} {owners : Std.TreeMap ResourceKey LeaseId} (hid : grant.leaseId = id)
    (hnew : (request.clientId, request.requestId) ∉ manager.answers.map (·.1))
    (hvalid : validateLeaseRequest request = .ok ()) :
    Journaled { manager with
      owners := owners
      leases := manager.leases.insert id grant
      history := manager.history ++
        [⟨(request.clientId, request.requestId), .acquire request, .granted grant, some id⟩] } := by
  have hinserted : id ∈ manager.leases.insert id grant := mem_insert_self
  have hanswers : answers { manager with
      owners := owners
      leases := manager.leases.insert id grant
      history := manager.history ++
        [⟨(request.clientId, request.requestId), .acquire request, .granted grant, some id⟩] } =
      manager.answers ++ [((request.clientId, request.requestId), .acquire request, .granted grant)] := by
    unfold answers
    rw [map_append]
    rfl
  have hkept := h.remember hroom (show (RequestRecord.mk (request.clientId, request.requestId)
    (.acquire request) (.granted grant) none).key ∉ _ from hnew) rfl hvalid nofun
  refine ⟨h.room, ?_, ?_, ?_, ?_, ?_⟩
  · rw [length_append, length_singleton]
    exact hroom
  · rw [hanswers]
    have hkeys := hkept.keys
    unfold answers at hkeys
    rw [map_append] at hkeys
    exact hkeys
  · intro answer hanswer
    rw [hanswers] at hanswer
    apply hkept.valid answer
    unfold answers
    rw [map_append]
    exact hanswer
  · intro record hrecord other hpin
    obtain hold | hlast := mem_append.mp hrecord
    · exact mem_insert.mpr (.inr (h.pinned record hold other hpin))
    rw [mem_singleton.mp hlast] at hpin
    cases hpin
    exact hinserted
  intro other found hfound
  rw [getElem?_insert_eq] at hfound
  split at hfound
  next heq =>
    cases hfound
    exact ⟨_, mem_append_right _ (mem_singleton.mpr rfl), congrArg some heq,
      request, grant, rfl, rfl, hid.trans heq, rfl, rfl⟩
  obtain ⟨record, hrecord, hbacks⟩ := h.backed other found hfound
  exact ⟨record, mem_append_left _ hrecord, hbacks⟩

theorem replayed_none
    (h : manager.replayed key operation = none) : key ∉ manager.answers.map (·.1) := by
  unfold replayed at h
  rw [Option.map_eq_none_iff, find?_eq_none] at h
  intro hkey
  obtain ⟨answer, hanswer, hsame⟩ := mem_map.mp hkey
  obtain ⟨record, hrecord, hof⟩ := mem_map.mp hanswer
  apply h record hrecord
  rw [decide_eq_true_iff, ← hsame, ← hof]
  rfl

theorem replayed_ok
    {decision : LeaseDecision} (h : manager.replayed key operation = some (.ok decision)) :
    (key, operation, decision.result) ∈ manager.answers := by
  unfold replayed at h
  rw [Option.map_eq_some_iff] at h
  obtain ⟨record, hfind, hanswer⟩ := h
  have hkey := find?_some hfind
  rw [decide_eq_true_iff] at hkey
  have hmem : record.answer ∈ manager.answers := mem_map_of_mem (mem_of_find?_eq_some hfind)
  split at hanswer
  next hrequest =>
    cases hanswer
    unfold RequestRecord.answer at hmem
    rw [hkey, hrequest] at hmem
    exact hmem
  · cases hanswer

/-- Two answers to one identity are one. -/
theorem answer_unique (h : Journaled manager)
    {first second : (ClientId × RequestId) × LeaseOperation × LeaseResult}
    (hfirst : first ∈ manager.answers) (hsecond : second ∈ manager.answers) (hkey : first.1 = second.1) :
    first = second :=
  inj_on_of_nodup_map h.keys hfirst hsecond hkey

theorem replayed_of_answer (h : Journaled manager)
    {result : LeaseResult}
    (hanswer : (key, operation, result) ∈ manager.answers) (repeated : LeaseOperation) :
    manager.replayed key repeated =
      some (if operation = repeated then .ok ⟨result, false, true⟩ else .error .requestIdReused) := by
  unfold replayed
  cases hfind : manager.history.find? (·.key = key) with
  | none =>
    obtain ⟨record, hrecord, hof⟩ := mem_map.mp hanswer
    have hnone := find?_eq_none.mp hfind record hrecord
    rw [decide_eq_true_iff] at hnone
    exact absurd (congrArg (·.1) hof) hnone
  | some record =>
    have hkey := find?_some hfind
    rw [decide_eq_true_iff] at hkey
    have hmem : record.answer ∈ manager.answers := mem_map_of_mem (mem_of_find?_eq_some hfind)
    have hsame := answer_unique h hmem hanswer hkey
    unfold RequestRecord.answer at hsame
    simp only [Prod.mk.injEq] at hsame
    obtain ⟨-, hrequest, hresult⟩ := hsame
    rw [Option.map_some, hrequest, hresult]

/-- What a call at an instant does to the records: some go, and at most new identities come; a record that a lease
pins stays until that lease ends. -/
structure Answered (before after : LeaseManager) (now : MonotonicMs) : Prop where
  answers : ∃ kept extra, after.answers = kept ++ extra ∧ kept.Sublist before.answers ∧
    ∀ answer ∈ extra, answer.1 ∉ before.answers.map (·.1)
  pinned : ∀ record ∈ before.history, ∀ (id : LeaseId) (grant : LeaseGrant),
    record.pinnedLease = some id → before.leases[id]? = some grant → now < grant.expiresAtMs →
    id ∈ after.leases → record ∈ after.history

theorem Trims.answered (h : Trims before after) (now : MonotonicMs) :
    Answered before after now where
  answers := ⟨after.answers, [], (append_nil _).symm, h.answers, fun _ hanswer => absurd hanswer not_mem_nil⟩
  pinned record hrecord id _ hpin _ _ hid := h.pinned record hrecord id hpin hid

/-- A record is added after others may have gone. -/
theorem Trims.answered_append {before middle after : LeaseManager} (h : Trims before middle)
    {now : MonotonicMs} {record : RequestRecord} (hhistory : after.history = middle.history ++ [record])
    (hnew : record.key ∉ before.answers.map (·.1))
    (hleases : ∀ (id : LeaseId) (grant : LeaseGrant), before.leases[id]? = some grant →
      now < grant.expiresAtMs → id ∈ after.leases → id ∈ middle.leases) :
    Answered before after now where
  answers := by
    refine ⟨middle.answers, [record.answer], ?_, h.answers, ?_⟩
    · unfold LeaseManager.answers
      rw [hhistory, map_append]
      rfl
    intro answer hanswer
    rw [mem_singleton.mp hanswer]
    exact hnew
  pinned old hold id grant hpin hgrant hlive hid := by
    rw [hhistory]
    exact mem_append_left _ (h.pinned old hold id hpin (hleases id grant hgrant hlive hid))

theorem last_answer {history : List RequestRecord}
    {result : LeaseResult} {pin : Option LeaseId}
    (h : manager.history = history ++ [⟨key, operation, result, pin⟩]) :
    (key, operation, result) ∈ manager.answers := by
  unfold answers
  rw [h, map_append]
  exact mem_append_right _ (mem_singleton.mpr rfl)

/-- A live lease is still there after the elapsed ones are gone. -/
theorem mem_expire {now : MonotonicMs} {grant : LeaseGrant}
    (hgrant : manager.leases[id]? = some grant) (hlive : now < grant.expiresAtMs) :
    (manager.expire now).2.leases[id]? = some grant := by
  rw [getElem?_expire manager now hgrant, if_neg (show ¬ grant.expiresAtMs ≤ now from Nat.not_le.mpr hlive)]

theorem Journaled.expired (h : Journaled manager) (now : MonotonicMs) :
    Journaled (manager.expire now).2 ∧ Answered manager (manager.expire now).2 now :=
  ⟨h.trims (expire_trims manager now), (expire_trims manager now).answered now⟩

/-- A decision on a fresh identity has to say what it does where a record has room. -/
theorem Journaled.reserves (h : Journaled manager) {now : MonotonicMs}
    (hnew : key ∉ manager.answers.map (·.1)) {Q : Unit → LeaseManager → Prop}
    (hroom : ∀ after, Trims (manager.expire now).2 after → after.leases = (manager.expire now).2.leases →
      after.history.length < after.maxHistory → Journaled after → Trims manager after →
      key ∉ after.answers.map (·.1) → Q () after) :
    Holds reserveHistorySlot (manager.expire now).2 Q (fun _ after => Journaled after ∧ Answered manager after now) := by
  have htrims := expire_trims manager now
  refine holds_mono (reserveHistorySlot_trims _) ?_ ?_
  · intro _ after hafter
    obtain ⟨hreserved, hleases, hlength, -⟩ := hafter
    have hboth := htrims.trans hreserved
    rw [← hreserved.limit] at hlength
    exact hroom after hreserved hleases hlength (h.trims hboth) hboth fun hmem =>
      hnew ((hboth.answers.map _).subset hmem)
  intro _ after hafter
  have hboth := htrims.trans hafter.1
  exact ⟨h.trims hboth, hboth.answered now⟩

theorem acquireDecision_journaled (h : Journaled manager)
    (request : LeaseRequest) (leaseId : LeaseId) (now : MonotonicMs) :
    Holds (acquireDecision request leaseId now) manager
      (fun decision after => Journaled after ∧ Answered manager after now ∧
        ((request.clientId, request.requestId), .acquire request, decision.result) ∈ after.answers)
      (fun _ after => Journaled after ∧ Answered manager after now) := by
  have hplain := h.expired now
  simp only [acquireDecision, holds_do]
  refine ⟨fun _ hvalid => ?_, fun _ _ => hplain⟩
  split
  next answer hreplayed =>
    refine holds_lift.mpr ⟨fun decision hdecision => ?_, fun _ _ => hplain⟩
    exact ⟨hplain.1, hplain.2, replayed_ok (hdecision ▸ hreplayed)⟩
  next hfresh =>
    have hnew := replayed_none hfresh
    rw [expire_answers] at hnew
    split
    next conflict _ =>
      simp only [holds_do, remember]
      refine h.reserves hnew fun after _ _ hroom hkept hboth hnew' => ?_
      refine ⟨?_, hboth.answered_append rfl hnew (fun _ _ _ _ hid => hid), last_answer rfl⟩
      exact hkept.remember hroom hnew' rfl hvalid (fun _ hno => by cases hno)
    simp only [grantLease, holds_do, remember]
    refine ⟨fun _ => hplain, fun hfree => ?_⟩
    refine h.reserves hnew fun after _ hleases hroom hkept hboth hnew' => ?_
    refine ⟨fun expiresAtMs _ => ?_, fun _ _ => ⟨hkept, hboth.answered now⟩⟩
    refine ⟨hkept.grant hroom rfl hnew' hvalid, hboth.answered_append rfl hnew ?_, last_answer rfl⟩
    intro id grant hgrant hlive hid
    refine mem_leases_iff.mpr ⟨grant, ?_⟩
    rw [hleases]
    exact mem_expire hgrant hlive

theorem renewRequestDecision_journaled (h : Journaled manager)
    (request : RenewLeaseRequest) (now : MonotonicMs) :
    Holds (renewRequestDecision request now) manager
      (fun decision after => Journaled after ∧ Answered manager after now ∧
        ((request.clientId, request.requestId), .renew request, decision.result) ∈ after.answers)
      (fun _ after => Journaled after ∧ Answered manager after now) := by
  have hplain := h.expired now
  simp only [renewRequestDecision, holds_do]
  split
  next answer hreplayed =>
    refine holds_lift.mpr ⟨fun decision hdecision => ?_, fun _ _ => hplain⟩
    exact ⟨hplain.1, hplain.2, replayed_ok (hdecision ▸ hreplayed)⟩
  next hfresh =>
    have hnew := replayed_none hfresh
    rw [expire_answers] at hnew
    split
    · exact hplain
    next grant hgrant =>
      simp only [holds_do, remember]
      refine ⟨fun _ => hplain, fun _ => ⟨fun expiresAtMs _ => ?_, fun _ _ => hplain⟩⟩
      refine h.reserves hnew fun after _ hleases hroom hkept hboth hnew' => ?_
      have hheld : after.leases[request.leaseId]? = some grant := by
        rw [hleases]
        exact hgrant
      have hprolonged := hkept.regrant hheld
        (show ({ grant with expiresAtMs := expiresAtMs, state := .renewed } : LeaseGrant).clientId =
          grant.clientId from rfl) rfl
      refine ⟨?_, hboth.answered_append rfl hnew ?_, last_answer rfl⟩
      · refine hprolonged.remember hroom hnew' rfl trivial ?_
        intro id hid
        cases hid
        exact mem_insert_self
      intro id found hfound hlive hid
      refine mem_leases_iff.mpr ⟨found, ?_⟩
      rw [hleases]
      exact mem_expire hfound hlive

theorem releaseRequestDecision_journaled (h : Journaled manager)
    (request : ReleaseLeaseRequest) (now : MonotonicMs) :
    Holds (releaseRequestDecision request now) manager
      (fun decision after => Journaled after ∧ Answered manager after now ∧
        ((request.clientId, request.requestId), .release request, decision.result) ∈ after.answers)
      (fun _ after => Journaled after ∧ Answered manager after now) := by
  have hplain := h.expired now
  simp only [releaseRequestDecision, holds_do]
  split
  next answer hreplayed =>
    refine holds_lift.mpr ⟨fun decision hdecision => ?_, fun _ _ => hplain⟩
    exact ⟨hplain.1, hplain.2, replayed_ok (hdecision ▸ hreplayed)⟩
  next hfresh =>
    have hnew := replayed_none hfresh
    rw [expire_answers] at hnew
    split
    · exact hplain
    next grant hgrant =>
      simp only [holds_do, remember]
      refine ⟨fun _ => hplain, fun _ => ?_⟩
      refine h.reserves hnew fun after _ _ hroom hkept hboth hnew' => ?_
      have hremoved := removeLease_trims after request.leaseId
      refine ⟨?_, (hboth.trans hremoved).answered_append rfl hnew (fun _ _ _ _ hid => hid), last_answer rfl⟩
      refine (hkept.trims hremoved).remember ?_ (fun hmem => hnew' ((hremoved.answers.map _).subset hmem)) rfl trivial
        (fun _ hno => by cases hno)
      have hlength := hremoved.length_le
      rw [hremoved.limit]
      omega

theorem renew_journaled (h : Journaled manager) (clientId : ClientId)
    (leaseId : LeaseId) (durationMs : LeaseDurationMs) (now : MonotonicMs) :
    Ensures (renew clientId leaseId durationMs now) manager
      (fun after => Journaled after ∧ Answered manager after now) := by
  have hplain := h.expired now
  simp only [renew, holds_do]
  split
  · exact hplain
  next grant hgrant =>
    simp only [holds_do]
    refine ⟨fun _ => hplain, fun _ => ⟨fun expiresAtMs _ => ?_, fun _ _ => hplain⟩⟩
    refine ⟨hplain.1.regrant hgrant rfl rfl, hplain.2.answers, ?_⟩
    intro record hrecord id found hpin hfound hlive _
    exact (expire_trims manager now).pinned record hrecord id hpin (mem_leases_iff.mpr ⟨found, mem_expire hfound hlive⟩)

theorem release_journaled (h : Journaled manager) (clientId : ClientId)
    (leaseId : LeaseId) (now : MonotonicMs) :
    Ensures (release clientId leaseId now) manager
      (fun after => Journaled after ∧ Answered manager after now) := by
  have hplain := h.expired now
  simp only [release, holds_do]
  split
  · exact hplain
  simp only [holds_do]
  refine ⟨fun _ => hplain, fun _ => ?_⟩
  have hremoved := removeLease_trims (manager.expire now).2 leaseId
  exact ⟨hplain.1.trims hremoved, ((expire_trims manager now).trans hremoved).answered now⟩

end LeaseManager

def LeaseCall.clock : LeaseCall → Option MonotonicMs
  | .acquire _ _ now | .acquireDecision _ _ now | .renew _ _ _ now | .renewRequest _ now
  | .renewRequestDecision _ now | .release _ _ now | .releaseRequest _ now
  | .releaseRequestDecision _ now | .expire now | .ownershipSnapshot _ _ now => some now
  | .releaseClient _ | .invalidateGeneration _ _ => none

def RecordsFollow (call : LeaseCall) (before after : LeaseManager) : Prop :=
  Journaled after ∧ ((∃ now, call.clock = some now ∧ LeaseManager.Answered before after now) ∨
    (call.clock = none ∧ Trims before after))

variable {manager : LeaseManager}

theorem recordsFollow_decision {call : LeaseCall} {decision : LeaseM LeaseDecision}
    {now : MonotonicMs} {Q : LeaseDecision → LeaseManager → Prop} (hclock : call.clock = some now)
    (h : Holds decision manager
      (fun answer after => Journaled after ∧ LeaseManager.Answered manager after now ∧ Q answer after)
      (fun _ after => Journaled after ∧ LeaseManager.Answered manager after now)) :
    RecordsFollow call manager (final decision manager) ∧
      RecordsFollow call manager (final (do let decision ← decision; pure decision.result) manager) := by
  have hplain : Ensures decision manager (RecordsFollow call manager) := by
    refine holds_mono h ?_ ?_
    · intro _ after hafter
      exact ⟨hafter.1, .inl ⟨now, hclock, hafter.2.1⟩⟩
    intro _ after hafter
    exact ⟨hafter.1, .inl ⟨now, hclock, hafter.2⟩⟩
  refine ⟨holds_final hplain, holds_final ?_⟩
  rw [holds_bind]
  exact hplain

theorem recordsFollow_grant {call : LeaseCall} {action : LeaseM LeaseGrant}
    {now : MonotonicMs} (hclock : call.clock = some now)
    (h : Ensures action manager (fun after => Journaled after ∧ LeaseManager.Answered manager after now)) :
    RecordsFollow call manager (final action manager) := by
  refine holds_final (holds_mono h ?_ ?_)
  · intro _ after hafter
    exact ⟨hafter.1, .inl ⟨now, hclock, hafter.2⟩⟩
  intro _ after hafter
  exact ⟨hafter.1, .inl ⟨now, hclock, hafter.2⟩⟩

theorem LeaseCall.run_recordsFollow (h : Journaled manager) (call : LeaseCall) :
    RecordsFollow call manager (call.run manager) := by
  cases call with
  | acquire request leaseId now =>
    exact (recordsFollow_decision rfl (acquireDecision_journaled h request leaseId now)).2
  | acquireDecision request leaseId now =>
    exact (recordsFollow_decision rfl (acquireDecision_journaled h request leaseId now)).1
  | renew clientId leaseId durationMs now =>
    exact recordsFollow_grant rfl (renew_journaled h clientId leaseId durationMs now)
  | renewRequest request now =>
    exact (recordsFollow_decision rfl (renewRequestDecision_journaled h request now)).2
  | renewRequestDecision request now =>
    exact (recordsFollow_decision rfl (renewRequestDecision_journaled h request now)).1
  | release clientId leaseId now => exact recordsFollow_grant rfl (release_journaled h clientId leaseId now)
  | releaseRequest request now =>
    exact (recordsFollow_decision rfl (releaseRequestDecision_journaled h request now)).2
  | releaseRequestDecision request now =>
    exact (recordsFollow_decision rfl (releaseRequestDecision_journaled h request now)).1
  | releaseClient clientId =>
    have htrims := removeLeases_trims manager .revoked (manager.leaseIds (·.clientId = clientId))
    exact ⟨h.trims htrims, .inr ⟨rfl, htrims⟩⟩
  | invalidateGeneration receiverId generationId =>
    have htrims : Trims manager (manager.invalidateGeneration receiverId generationId).2 :=
      removeLeases_trims manager _ _
    exact ⟨h.trims htrims, .inr ⟨rfl, htrims⟩⟩
  | expire now | ownershipSnapshot receiverId generationId now =>
    have htrims := expire_trims manager now
    exact ⟨h.trims htrims, .inl ⟨now, rfl, htrims.answered now⟩⟩

theorem leaseReach_journaled (h : LeaseReach manager) : Journaled manager := by
  induction h with
  | new hnew =>
    unfold LeaseManager.new at hnew
    split at hnew
    · cases hnew
    next hlimits =>
      cases hnew
      refine ⟨?_, Nat.zero_le _, nodup_nil, ?_, ?_, ?_⟩
      · dsimp only
        omega
      · intro record hrecord
        cases hrecord
      · intro record hrecord
        cases hrecord
      intro id grant hgrant
      simp at hgrant
  | step _ call ih => exact (call.run_recordsFollow ih).1

end HyperfluxNext
