import HyperfluxNext.Restoration.Engine

namespace HyperfluxNext

open Procedure

variable {record next : RestoreRecord} {status : RestoreRecordStatus}

theorem transitionRecord_ok (h : transitionRecord record status = .ok next) :
    restoreTransitionAllowed record.status.state status.state ∧
      ∃ revision, next = { record with revision := revision, status := status } := by
  unfold transitionRecord at h
  obtain ⟨_, hallowed, h⟩ := bind_eq_ok h
  obtain ⟨revision, _, h⟩ := bind_eq_ok h
  cases h
  exact ⟨not_not.mp (reject_eq_ok hallowed), revision, rfl⟩

theorem transitionRecord_status (h : transitionRecord record status = .ok next) : next.status = status := by
  obtain ⟨_, revision, rfl⟩ := transitionRecord_ok h
  rfl

theorem transitionRecord_claimId (h : transitionRecord record status = .ok next)
    : next.claimId = record.claimId := by
  obtain ⟨_, revision, rfl⟩ := transitionRecord_ok h
  rfl

section Attempts

variable [RestorationDigests] {record : RestoreRecord} {attempt : RestoreAttempt}

/-- The parts of a valid attempt that identify it. -/
structure AttemptFacts (record : RestoreRecord) (attempt : RestoreAttempt) : Prop where
  number : record.lastAttempt = some attempt.attemptNumber
  requestId : typedId "restore-request" (attemptSuffix record.claimId attempt.attemptNumber) =
    .ok attempt.request.requestId
  transactionId : typedId "restore-tx" (attemptSuffix record.claimId attempt.attemptNumber) =
    .ok attempt.request.transactionId
  leaseId : typedId "restore-lease" (attemptSuffix record.claimId attempt.attemptNumber) =
    .ok attempt.request.leaseId
  digest : canonicalRequestDigest attempt.request = .ok attempt.requestDigest
  transactionClass : attempt.request.transactionClass = .restore
  receiverId : attempt.request.receiverId = record.receiverId
  clientId : attempt.request.clientId = attempt.leaseRequest.clientId
  resources : attempt.request.resources = attempt.leaseRequest.resources

omit [RestorationDigests] in
theorem mapError_ok {ε ε' α : Type} {f : ε → ε'} {r : Except ε α} {a : α}
    (h : r.mapError f = .ok a) : r = .ok a := by
  cases r with
  | error e => cases h
  | ok b => cases h; rfl

theorem validateAttempt_facts (h : validateAttempt record attempt = .ok ()) : AttemptFacts record attempt := by
  unfold validateAttempt at h
  dsimp only at h
  split at h
  · obtain ⟨_, hnumber, h⟩ := bind_eq_ok h
    obtain ⟨requestId, hrequestId, h⟩ := bind_eq_ok h
    obtain ⟨_, hrequest, h⟩ := bind_eq_ok h
    obtain ⟨transactionId, htransactionId, h⟩ := bind_eq_ok h
    obtain ⟨_, htransaction, h⟩ := bind_eq_ok h
    obtain ⟨leaseId, hleaseId, h⟩ := bind_eq_ok h
    obtain ⟨_, hlease, h⟩ := bind_eq_ok h
    obtain ⟨leaseRequestId, _, h⟩ := bind_eq_ok h
    obtain ⟨_, _, h⟩ := bind_eq_ok h
    obtain ⟨digest, hdigest, h⟩ := bind_eq_ok h
    obtain ⟨hd, hclass, hreceiver, _, hclient, hresources, hleased, _⟩ := not_not.mp (reject_eq_ok h)
    rw [← not_not.mp (reject_eq_ok hrequest)] at hrequestId
    rw [← not_not.mp (reject_eq_ok htransaction)] at htransactionId
    rw [← not_not.mp (reject_eq_ok hlease)] at hleaseId
    refine ⟨(not_not.mp (reject_eq_ok hnumber)).symm, hrequestId, htransactionId, hleaseId, ?_,
      hclass, hreceiver, hclient, hresources.trans hleased.symm⟩
    rw [hd]
    exact mapError_ok hdigest
  · cases h

variable {intent : PersistedStableIntent} {authority : RestorationAuthority} {store : FilePersistenceStore}
  {receiverId : ReceiverId} {records : List RestoreRecord}

omit [RestorationDigests] in
theorem lightingColors_length {colors : List RgbColor} (h : lightingColors intent = .ok colors) :
    colors.length = intent.applicationSlotCount.get := by
  unfold lightingColors at h
  dsimp only at h
  split at h
  · cases h
  split at h
  · split at h
    next heq => cases h; exact heq
    · cases h
  · cases h; simp

/-- A built attempt passes the check the loader makes. -/
theorem buildAttempt_valid {number : RestoreAttemptNumber}
    (h : buildAttempt record intent authority number = .ok attempt) (revision : PersistenceRevision)
    (status : RestoreRecordStatus) :
    validateAttempt { record with
      lastAttempt := some number, revision := revision, status := status } attempt = .ok () := by
  unfold buildAttempt at h
  obtain ⟨colors, hcolors, h⟩ := bind_eq_ok h
  obtain ⟨transactionId, htransactionId, h⟩ := bind_eq_ok h
  obtain ⟨leaseRequestId, hleaseRequestId, h⟩ := bind_eq_ok h
  obtain ⟨requestId, hrequestId, h⟩ := bind_eq_ok h
  obtain ⟨leaseId, hleaseId, h⟩ := bind_eq_ok h
  obtain ⟨digest, hdigest, h⟩ := bind_eq_ok h
  cases h
  have hlength := lightingColors_length hcolors
  simp [validateAttempt, reject, htransactionId, hleaseRequestId, hrequestId, hleaseId,
    mapError_ok hdigest, hlength, bind, Except.bind, Except.mapError]

theorem buildAttempt_fields {number : RestoreAttemptNumber}
    (h : buildAttempt record intent authority number = .ok attempt) :
    attempt.attemptNumber = number ∧ attempt.submission = authority.submission := by
  unfold buildAttempt at h
  obtain ⟨colors, _, h⟩ := bind_eq_ok h
  obtain ⟨transactionId, _, h⟩ := bind_eq_ok h
  obtain ⟨leaseRequestId, _, h⟩ := bind_eq_ok h
  obtain ⟨requestId, _, h⟩ := bind_eq_ok h
  obtain ⟨leaseId, _, h⟩ := bind_eq_ok h
  obtain ⟨digest, _, h⟩ := bind_eq_ok h
  cases h
  exact ⟨rfl, rfl⟩

theorem validateRecord_ok (h : validateRecord record = .ok ()) :
    validateSchema record.schemaVersion = .ok () ∧ claimIdForRecord record = .ok record.claimId ∧
      validateStatus record = .ok () := by
  unfold validateRecord at h
  obtain ⟨_, hschema, h⟩ := bind_eq_ok h
  obtain ⟨claimId, hclaim, h⟩ := bind_eq_ok h
  obtain ⟨_, heq, h⟩ := bind_eq_ok h
  rw [not_not.mp (reject_eq_ok heq)] at hclaim
  exact ⟨hschema, hclaim, h⟩

theorem validateStatus_active (h : validateStatus record = .ok ())
    (hactive : record.status.activeAttempt = some attempt) :
    validateAttempt record attempt = .ok () := by
  unfold validateStatus at h
  cases hstatus : record.status <;> rw [hstatus] at h hactive <;>
    simp only [RestoreRecordStatus.activeAttempt, Option.some.injEq, reduceCtorEq] at hactive <;>
    exact hactive ▸ h

theorem loadRecord_ok {claimId : RestoreClaimId} (h : loadRecord claimId store = .ok record) :
    record ∈ store.document.restoreRecords ∧ record.claimId = claimId ∧ validateRecord record = .ok () := by
  unfold loadRecord at h
  split at h
  · cases h
  next found hfound =>
    obtain ⟨_, hvalid, h⟩ := bind_eq_ok h
    cases h
    have hclaim := List.find?_some hfound
    exact ⟨List.mem_of_find?_eq_some hfound, by simpa using hclaim, hvalid⟩

theorem validateRecords_ok {claims : List RestoreClaimId}
    (h : validateRecords receiverId claims records = .ok ()) :
    ∀ r ∈ records, validateRecord r = .ok () := by
  induction records generalizing claims with
  | nil => simp
  | cons record records ih =>
    unfold validateRecords at h
    obtain ⟨_, hvalid, h⟩ := bind_eq_ok h
    obtain ⟨_, _, h⟩ := bind_eq_ok h
    obtain ⟨_, _, h⟩ := bind_eq_ok h
    intro r hr
    rcases List.mem_cons.mp hr with rfl | hr
    · exact hvalid
    · exact ih h r hr

theorem loadRecords_ok (h : loadRecords receiverId store = .ok records) :
    records = store.restoreRecords receiverId ∧ ∀ r ∈ records, validateRecord r = .ok () := by
  unfold loadRecords at h
  obtain ⟨_, _, h⟩ := bind_eq_ok h
  obtain ⟨_, hvalid, h⟩ := bind_eq_ok h
  cases h
  exact ⟨rfl, validateRecords_ok hvalid⟩

theorem mem_of_loadRecords (h : loadRecords receiverId store = .ok records) (hr : record ∈ records)
    : record ∈ store.document.restoreRecords := by
  rw [(loadRecords_ok h).1] at hr
  exact (List.mem_filter.mp hr).1

variable {T : Type} [ReceiverTransport T]

theorem advanceGate_ready {now : MonotonicMs} {ports : Authorities} {transport : T}
    (h : advanceGate record authority now ports transport store = .ok (.ready intent)) :
    ports.sessions.authorizes authority.submission.sessionId authority.submission.authorizationEpoch := by
  unfold advanceGate at h
  obtain ⟨current, _, h⟩ := bind_eq_ok h
  cases current with
  | none => cases h
  | some found =>
    obtain ⟨enabled, _, h⟩ := bind_eq_ok h
    cases enabled with
    | false => cases h
    | true =>
      dsimp only at h
      split at h
      · cases h
      split at h
      · cases h
      split at h
      · cases h
      split at h
      · cases h
      next hauthorized => exact not_not.mp hauthorized

end Attempts

end HyperfluxNext
