import HyperfluxNext.KernelTransport.SubmissionLedger
import HyperfluxNext.KernelTransport.Transport
import HyperfluxNext.Library.StepRelation

namespace HyperfluxNext

open Procedure

namespace KernelTransport

/-- A port that keeps the submissions and the answers about lighting results that passed through it, the newest
first. -/
structure Recorded (I : Type) where
  io : I
  calls : List KernelCall

section Recording

variable {I Request Answer : Type}

def Recorded.ask (call : I → Except KernelIoError Answer × I) (port : Recorded I) :
    Except KernelIoError Answer × Recorded I :=
  match call port.io with
  | (result, io) => (result, { port with io := io })

def Recorded.exchange (call : Exchange I Request)
    (record : Except KernelIoError Unit → Request → Request → List KernelCall) :
    Exchange (Recorded I) Request :=
  fun request port =>
    match call request port.io with
    | (result, answer, io) => (result, answer, ⟨io, record result request answer ++ port.calls⟩)

instance [KernelIo I] : KernelIo (Recorded I) where
  boottimeNs := Recorded.ask KernelIo.boottimeNs
  getInfo := Recorded.ask KernelIo.getInfo
  beginSession := Recorded.exchange KernelIo.beginSession fun _ _ _ => []
  endSession request := Recorded.ask (KernelIo.endSession request)
  submit := Recorded.exchange KernelIo.submit fun _ request _ => [.submitted request]
  getTransactionResult :=
    Recorded.exchange KernelIo.getTransactionResult fun result _ answer => [.reconciled result answer]
  submitNativeExchange :=
    Recorded.exchange KernelIo.submitNativeExchange fun _ request _ => [.submittedNative request]
  getNativeExchangeResult := Recorded.exchange KernelIo.getNativeExchangeResult fun _ _ _ => []
  readObservations := Recorded.exchange KernelIo.readObservations fun _ _ _ => []

end Recording

def KernelReceiverTransport.ledger {I : Type} (transport : KernelReceiverTransport (Recorded I)) :
    SubmissionLedger :=
  ⟨transport.history, transport.io.calls⟩

/-- Nothing was submitted, remembered or asked about. -/
def Quiet {I : Type} (transport after : KernelReceiverTransport (Recorded I)) : Prop :=
  after.ledger = transport.ledger

instance {I : Type} : Std.Refl (Quiet (I := I)) := ⟨fun _ => rfl⟩

instance {I : Type} : IsTrans (KernelReceiverTransport (Recorded I)) Quiet := ⟨fun _ _ _ h h' => h'.trans h⟩

section QuietCalls

variable {I Request Answer : Type}

theorem ask_quiet (call : I → Except KernelIoError Answer × I) : Steps Quiet (ask (Recorded.ask call)) :=
  fun _ => rfl

theorem ioctl_quiet (call : Exchange I Request) (request : Request) :
    Steps Quiet (ioctl (Recorded.exchange call fun _ _ _ => []) request) :=
  fun _ => rfl

theorem holds_exchange {call : Exchange I Request}
    {record : Except KernelIoError Unit → Request → Request → List KernelCall} {request : Request}
    {transport : KernelReceiverTransport (Recorded I)}
    {Q : Except KernelIoError Unit × Request → KernelReceiverTransport (Recorded I) → Prop}
    {E : KernelTransportError → KernelReceiverTransport (Recorded I) → Prop}
    (h : ∀ result answer io, Q (result, answer)
      { transport with io := ⟨io, record result request answer ++ transport.io.calls⟩ }) :
    Holds (ioctl (Recorded.exchange call record) request) transport Q E :=
  h _ _ _

theorem deactivateSession_quiet : Steps Quiet (deactivateSession (I := Recorded I)) := steps_modify fun _ => rfl

theorem rememberDispatch_remembers (nonce : Nat) (fingerprint : DigestBytes) (epoch : Nat)
    (transport : KernelReceiverTransport (Recorded I)) :
    Holds (rememberDispatch nonce fingerprint epoch) transport
      (fun _ after => ∃ history, transport.history.remember nonce fingerprint epoch = .ok history ∧
        after = { transport with history := history })
      (fun _ after => after = transport) := by
  unfold rememberDispatch
  rw [holds_bind, holds_get, holds_bind, holds_lift]
  refine ⟨?_, fun _ _ => rfl⟩
  intro history hhistory
  exact ⟨history, hhistory, rfl⟩

variable [KernelIo I]

theorem boottimeNs_quiet : Steps Quiet (ask (KernelIo.boottimeNs (I := Recorded I))) :=
  ask_quiet KernelIo.boottimeNs

theorem getInfo_quiet : Steps Quiet (ask (KernelIo.getInfo (I := Recorded I))) := ask_quiet KernelIo.getInfo

theorem endSessionRecord_quiet (state : KernelSessionState) (reason : Nat) :
    Steps Quiet (endSessionRecord (I := Recorded I) state reason) := by
  unfold endSessionRecord
  apply steps_read
  intro transport
  apply steps_bind
  · exact ask_quiet (KernelIo.endSession _)
  intro result
  exact steps_lift ioError result

theorem endForRenewal_quiet (info : HfxUapiInfo) : Steps Quiet (endForRenewal (I := Recorded I) info) := by
  unfold endForRenewal
  apply steps_read
  intro transport
  split
  · apply steps_bind (steps_refuse _ _)
    intro _
    apply steps_bind (endSessionRecord_quiet _ _)
    intro _
    exact deactivateSession_quiet
  · exact steps_pure ()

theorem beginSession_quiet (now : Nat) : Steps Quiet (beginSession (I := Recorded I) now) := by
  unfold beginSession
  apply steps_read
  intro transport
  apply steps_bind (steps_refuse _ _)
  intro _
  apply steps_bind (ioctl_quiet KernelIo.beginSession _)
  intro answered
  apply steps_bind (steps_lift _ _)
  intro _
  apply steps_bind (steps_refuse _ _)
  intro _
  apply steps_bind
  · exact steps_modify fun _ => rfl
  intro _
  exact steps_pure _

theorem ensureSession_quiet : Steps Quiet (ensureSession (I := Recorded I)) := by
  unfold ensureSession
  apply steps_bind boottimeNs_quiet
  intro boottime
  apply steps_bind (steps_lift _ _)
  intro now
  apply steps_bind getInfo_quiet
  intro read
  apply steps_bind (steps_lift _ _)
  intro info
  apply steps_read
  intro transport
  apply steps_bind (steps_lift _ _)
  intro _
  split
  · exact steps_pure _
  apply steps_bind (endForRenewal_quiet info)
  intro _
  exact beginSession_quiet now

theorem endActiveSession_quiet (reason : Nat) : Steps Quiet (endActiveSession (I := Recorded I) reason) := by
  unfold endActiveSession
  apply steps_read
  intro transport
  split
  · exact steps_pure _
  apply steps_bind (endSessionRecord_quiet _ _)
  intro _
  exact deactivateSession_quiet

theorem lookupDispatch_quiet (nonce : Nat) (fingerprint : DigestBytes) :
    Steps Quiet (lookupDispatch (I := Recorded I) nonce fingerprint) := by
  unfold lookupDispatch
  apply steps_read
  intro transport
  split
  · exact steps_pure _
  split
  · exact steps_pure _
  apply steps_bind ensureSession_quiet
  intro epoch
  exact steps_pure _

theorem queryNativeExchange_quiet (request : NativeExchangeRequest) (requestDigest : DigestBytes)
    (authorizationEpoch kernelSequence : Nat) :
    Steps Quiet (queryNativeExchange (I := Recorded I) request requestDigest authorizationEpoch
      kernelSequence) := by
  unfold queryNativeExchange
  apply steps_read
  intro transport
  apply steps_bind (ioctl_quiet KernelIo.getNativeExchangeResult _)
  intro answered
  apply steps_bind (steps_lift _ _)
  intro _
  exact steps_lift _ _

theorem reconcileNativeExchange_quiet [FingerprintCodec] (request : NativeExchangeRequest) :
    Steps Quiet (reconcileNativeExchange (I := Recorded I) request) := by
  unfold reconcileNativeExchange
  apply steps_bind (steps_lift _ _)
  intro _
  apply steps_bind (lookupDispatch_quiet _ _)
  intro lookup
  cases lookup with
  | known epoch | new epoch => exact queryNativeExchange_quiet _ _ _ _
  | forgotten | conflict => exact steps_throw _

theorem readObservations_quiet (afterSequence : Nat) :
    Steps Quiet (readObservations (I := Recorded I) afterSequence) := by
  unfold readObservations
  apply steps_read
  intro transport
  apply steps_bind (ioctl_quiet KernelIo.readObservations _)
  intro answered
  apply steps_bind (steps_lift _ _)
  intro _
  exact steps_lift _ _

theorem currentGeneration_quiet (receiverId : ReceiverId) :
    Steps Quiet (currentGeneration (I := Recorded I) receiverId) := by
  unfold currentGeneration
  apply steps_read
  intro transport
  split
  · exact steps_pure _
  apply steps_bind getInfo_quiet
  intro read
  exact steps_pure _

theorem nativeExchangeAvailable_quiet (receiverId : ReceiverId) (generationId : GenerationId) :
    Steps Quiet (nativeExchangeAvailable (I := Recorded I) receiverId generationId) := by
  unfold nativeExchangeAvailable
  apply steps_read
  intro transport
  split
  · apply steps_bind getInfo_quiet
    intro read
    exact steps_pure _
  · exact steps_pure _

theorem openSession_quiet : Steps Quiet (KernelReceiverTransport.openSession (I := Recorded I)) := by
  unfold KernelReceiverTransport.openSession
  apply steps_bind getInfo_quiet
  intro read
  apply steps_bind (steps_lift _ _)
  intro info
  apply steps_read
  intro transport
  apply steps_bind (steps_lift _ _)
  intro _
  apply steps_bind ensureSession_quiet
  intro _
  exact steps_pure _

theorem new_ledger {io : I} {catalog : RuntimeProfileCatalog} {facts : ProfileId → ReceiverTransportFacts}
    {material : KernelSessionMaterial} {start : KernelReceiverTransport (Recorded I)}
    (h : KernelReceiverTransport.new ⟨io, []⟩ catalog facts material = .ok start) :
    start.ledger = ⟨.empty, []⟩ := by
  obtain ⟨transport, hbound, h⟩ := bind_eq_ok h
  obtain ⟨_, -, hbound⟩ := bind_eq_ok hbound
  obtain ⟨_, -, hbound⟩ := bind_eq_ok hbound
  obtain ⟨_, -, hbound⟩ := bind_eq_ok hbound
  cases hbound
  split at h
  next hopened =>
    cases h
    have hquiet := holds_ok (m := KernelReceiverTransport.openSession) (openSession_quiet _) hopened
    exact hquiet
  · cases h

end QuietCalls

section Questions

variable {I : Type} [KernelIo I]

def Asked (transport after : KernelReceiverTransport (Recorded I)) : Prop :=
  ∃ result answer, after.ledger =
    { transport.ledger with calls := .reconciled result answer :: transport.ledger.calls }

variable {encoded : EncodedTransaction} {answer : HfxUapiTransactionResult}

theorem decodeSucceeded_observed : decodeSucceeded encoded answer ≠ .ok .notObserved := by
  intro h
  obtain ⟨_, -, h⟩ := bind_eq_ok h
  obtain ⟨_, -, h⟩ := bind_eq_ok h
  obtain ⟨_, -, h⟩ := bind_eq_ok h
  cases h

theorem decodeFailed_observed : decodeFailed encoded answer ≠ .ok .notObserved := by
  intro h
  obtain ⟨_, -, h⟩ := bind_eq_ok h
  obtain ⟨facts, -, h⟩ := bind_eq_ok h
  split at h
  · cases h
  · cases h

theorem decodeResult_notObserved (h : decodeResult encoded answer = .ok .notObserved) :
    answer.status = TransportStatus.notObserved := by
  obtain ⟨_, -, hstatus⟩ := bind_eq_ok h
  by_contra hobserved
  unfold decodeStatus at hstatus
  rw [if_neg hobserved] at hstatus
  split_ifs at hstatus
  · cases hstatus
  · exact decodeSucceeded_observed hstatus
  · exact decodeFailed_observed hstatus
  · cases hstatus
  · cases hstatus
  · cases hstatus

theorem validateResultKey_ok {dispatch : TransportDispatch} {fingerprint : DigestBytes} {epoch : Nat}
    (h : validateResultKey dispatch fingerprint epoch answer = .ok ()) :
    answer.dispatchNonce = dispatch.dispatchNonce.get ∧ answer.requestDigest = fingerprint ∧
      (answer.status = TransportStatus.notObserved → answer.authorizationEpoch = epoch) := by
  obtain ⟨_, -, h⟩ := bind_eq_ok h
  obtain ⟨_, hkey, h⟩ := bind_eq_ok h
  have hnames := reject_eq_ok hkey
  have hepoch := reject_eq_ok h
  push Not at hnames
  refine ⟨hnames.2.1, hnames.2.2, ?_⟩
  intro hstatus
  by_contra hother
  apply hepoch
  refine ⟨?_, hother⟩
  rw [hstatus]
  rfl

theorem queryResult_asked (dispatch : TransportDispatch) (encoded : EncodedTransaction)
    (fingerprint : DigestBytes) (epoch : Nat) (transport : KernelReceiverTransport (Recorded I)) :
    Holds (queryResult dispatch encoded fingerprint epoch) transport
      (fun reconciliation after => Asked transport after ∧
        after.history = transport.history ∧
        (reconciliation = .notObserved → ∃ answer,
          after.io.calls = .reconciled (.ok ()) answer :: transport.io.calls ∧
          answer.status = TransportStatus.notObserved ∧
          answer.dispatchNonce = dispatch.dispatchNonce.get ∧ answer.requestDigest = fingerprint ∧
          answer.authorizationEpoch = epoch))
      (fun _ after => Asked transport after) := by
  unfold queryResult
  rw [holds_bind, holds_get, holds_bind]
  apply holds_exchange
  intro result answer io
  have hasked : Asked transport
      { transport with io := ⟨io, .reconciled result answer :: transport.io.calls⟩ } :=
    ⟨result, answer, rfl⟩
  dsimp only
  rw [holds_bind, holds_lift]
  refine ⟨?_, fun _ _ => hasked⟩
  intro _ hresult
  rw [holds_bind, holds_lift]
  refine ⟨?_, fun _ _ => hasked⟩
  intro _ hkey
  rw [holds_lift]
  refine ⟨?_, fun _ _ => hasked⟩
  intro reconciliation hdecoded
  refine ⟨hasked, rfl, ?_⟩
  intro hnotObserved
  rw [hnotObserved] at hdecoded
  have hstatus := decodeResult_notObserved hdecoded
  obtain ⟨hnonce, hdigest, hepoch⟩ := validateResultKey_ok hkey
  refine ⟨answer, ?_, hstatus, hnonce, hdigest, hepoch hstatus⟩
  rw [hresult]
  rfl

theorem lookupDispatch_bound (nonce : Nat) (fingerprint : DigestBytes)
    (transport : KernelReceiverTransport (Recorded I)) :
    Holds (lookupDispatch nonce fingerprint) transport
      (fun lookup after => Quiet transport after ∧
        (∀ epoch, lookup = .known epoch → transport.history.bindings[nonce]? = some ⟨fingerprint, epoch⟩) ∧
        ∀ epoch, lookup = .new epoch → transport.history.bindings[nonce]? = none)
      (fun _ after => Quiet transport after) := by
  unfold lookupDispatch
  rw [holds_bind, holds_get]
  split
  next binding hbinding =>
    rw [holds_pure]
    by_cases hsame : binding.fingerprint = fingerprint
    · rw [if_pos hsame]
      refine ⟨rfl, ?_, fun _ hnew => (by cases hnew)⟩
      intro epoch hknown
      cases hknown
      rw [hbinding, ← hsame]
    rw [if_neg hsame]
    exact ⟨rfl, fun _ hknown => (by cases hknown), fun _ hnew => (by cases hnew)⟩
  next hnone =>
    split
    · exact ⟨rfl, fun _ hknown => (by cases hknown), fun _ hnew => (by cases hnew)⟩
    rw [holds_bind]
    apply holds_post (ensureSession_quiet transport)
    intro epoch after hquiet
    exact ⟨hquiet, fun _ hknown => (by cases hknown), fun _ _ => hnone⟩

end Questions

section Submissions

variable {I : Type}

def Progress [FingerprintCodec] (transport after : KernelReceiverTransport (Recorded I)) : Prop :=
  LedgerSteps transport.ledger after.ledger

variable [FingerprintCodec] {transport after later : KernelReceiverTransport (Recorded I)}

instance : Std.Refl (Progress (I := I)) := ⟨fun _ => .refl⟩

instance : IsTrans (KernelReceiverTransport (Recorded I)) Progress := ⟨fun _ _ _ h h' => h.trans h'⟩

theorem Quiet.progress (h : Quiet transport after) : Progress transport after := by
  unfold Progress
  rw [h]

theorem Asked.progress (h : Asked transport after) : Progress transport after := by
  obtain ⟨result, answer, hledger⟩ := h
  unfold Progress
  rw [hledger]
  exact .single (.reconcile result answer)

theorem quiet_steps {α : Type} {m : TransportM (Recorded I) α} (h : Steps Quiet m) : Steps Progress m := by
  intro transport
  apply holds_mono (h transport)
  · intro _ _ hquiet
    exact hquiet.progress
  intro _ _ hquiet
  exact hquiet.progress

theorem encodeAndFingerprint_fingerprint {dispatch : TransportDispatch} {encoded : EncodedTransaction}
    {fingerprint : DigestBytes}
    (h : encodeAndFingerprint dispatch transport = .ok (encoded, fingerprint)) :
    dispatchFingerprint dispatch encoded = .ok fingerprint := by
  obtain ⟨_, -, h⟩ := bind_eq_ok h
  obtain ⟨plan, -, h⟩ := bind_eq_ok h
  obtain ⟨digest, hdigest, h⟩ := bind_eq_ok h
  cases h
  exact hdigest

variable [KernelIo I]

section

variable (dispatch : TransportDispatch)

theorem queryResult_progress (encoded : EncodedTransaction)
    (fingerprint : DigestBytes) (epoch : Nat) :
    Steps Progress (queryResult (I := Recorded I) dispatch encoded fingerprint epoch) := by
  intro transport
  apply holds_mono (queryResult_asked dispatch encoded fingerprint epoch transport)
  · intro _ _ hasked
    exact hasked.1.progress
  intro _ _ hasked
  exact hasked.progress

theorem reconcileExact_progress (encoded : EncodedTransaction)
    (fingerprint : DigestBytes) (transport : KernelReceiverTransport (Recorded I)) :
    Holds (reconcileExact dispatch encoded fingerprint) transport
      (fun reconciliation after => Progress transport after ∧
        (reconciliation = .notObserved → Unobserved after.ledger dispatch.dispatchNonce.get fingerprint))
      (fun _ after => Progress transport after) := by
  unfold reconcileExact
  rw [holds_bind, holds_attempt]
  have hquery : ∀ middle epoch (resolve : Except KernelTransportError _ → TransportReconciliation),
      Quiet transport middle → (∀ reconciliation, resolve (.ok reconciliation) = reconciliation) →
      (∀ error, resolve (.error error) = .unavailable) →
      (∀ binding, transport.history.bindings[dispatch.dispatchNonce.get]? = some binding →
        binding.authorizationEpoch = epoch) →
      Holds (do
        let queried ← attempt (queryResult dispatch encoded fingerprint epoch)
        pure (resolve queried) : TransportM (Recorded I) TransportReconciliation) middle
        (fun reconciliation after => Progress transport after ∧
          (reconciliation = .notObserved → Unobserved after.ledger dispatch.dispatchNonce.get fingerprint))
        (fun _ after => Progress transport after) := by
    intro middle epoch resolve hquiet hresolved hfailed hepoch
    rw [holds_bind, holds_attempt]
    apply holds_mono (queryResult_asked dispatch encoded fingerprint epoch middle)
    · intro reconciliation after hafter
      obtain ⟨hasked, hhistory, hnotObserved⟩ := hafter
      rw [holds_pure, hresolved]
      refine ⟨hquiet.progress.trans hasked.progress, ?_⟩
      intro hreconciliation
      obtain ⟨answer, hcalls, hstatus, hnonce, hdigest, hanswer⟩ := hnotObserved hreconciliation
      refine ⟨answer, middle.io.calls, hcalls, hstatus, hnonce, hdigest, ?_⟩
      have hsame : after.history = transport.history :=
        hhistory.trans (congrArg SubmissionLedger.history hquiet)
      show ∀ binding, after.history.bindings[dispatch.dispatchNonce.get]? = some binding → _
      rw [hsame, hanswer]
      exact hepoch
    intro _ after hasked
    rw [holds_pure, hfailed]
    exact ⟨hquiet.progress.trans hasked.progress, fun h => (by cases h)⟩
  apply holds_mono (lookupDispatch_bound _ fingerprint transport)
  · intro lookup middle hlookup
    obtain ⟨hquiet, hknown, hnew⟩ := hlookup
    cases lookup with
    | forgotten | conflict => exact ⟨hquiet.progress, fun h => (by cases h)⟩
    | known epoch =>
      apply hquery middle epoch _ hquiet (fun _ => rfl) (fun _ => rfl)
      intro binding hbinding
      rw [hknown epoch rfl] at hbinding
      cases hbinding
      rfl
    | new epoch =>
      apply hquery middle epoch _ hquiet (fun _ => rfl) (fun _ => rfl)
      intro binding hbinding
      rw [hnew epoch rfl] at hbinding
      cases hbinding
  intro _ middle hquiet
  exact ⟨hquiet.progress, fun h => (by cases h)⟩

theorem submitNew_progress (encoded : EncodedTransaction)
    (fingerprint : DigestBytes) (hdigest : dispatchFingerprint dispatch encoded = .ok fingerprint)
    (hunobserved : Unobserved transport.ledger dispatch.dispatchNonce.get fingerprint) :
    Holds (submitNew dispatch encoded fingerprint) transport (fun _ after => Progress transport after)
      (fun _ after => Progress transport after) := by
  unfold submitNew
  rw [holds_bind]
  apply holds_mono (ensureSession_quiet transport)
  · intro epoch middle hquiet
    rw [holds_bind]
    apply holds_mono (rememberDispatch_remembers _ fingerprint epoch middle)
    · intro _ bound hbound
      obtain ⟨history, hremember, hbound⟩ := hbound
      rw [hbound, holds_bind, holds_refuse]
      constructor
      · intro _
        exact hquiet.progress.trans (.single (.remember hremember))
      intro _
      rw [holds_bind, holds_get, holds_bind]
      apply holds_exchange
      intro result answer io
      have hsubmitted : Progress transport
          { middle with
            history := history
            io := ⟨io, .submitted (submission dispatch encoded fingerprint middle.material.generationId
              epoch) :: middle.io.calls⟩ } := by
        apply hquiet.progress.trans
        apply Relation.ReflTransGen.single
        apply LedgerStep.submit hremember _ ⟨dispatch, encoded, hdigest⟩
        rw [← hquiet] at hunobserved
        exact hunobserved
      dsimp only
      rw [holds_bind]
      have hquery : Steps Progress
          (attempt (queryResult dispatch encoded fingerprint epoch) : TransportM (Recorded I) _) :=
        steps_attempt (queryResult_progress dispatch encoded fingerprint epoch)
      apply holds_mono (hquery _)
      · intro reconciliation queried hqueried
        rw [holds_lift]
        exact ⟨fun _ _ => hsubmitted.trans hqueried, fun _ _ => hsubmitted.trans hqueried⟩
      intro _ queried hqueried
      exact hsubmitted.trans hqueried
    · intro _ after hafter
      rw [hafter]
      exact hquiet.progress
  · intro _ after hquiet
    exact hquiet.progress

theorem dispatchTransaction_progress :
    Steps Progress (dispatchTransaction (I := Recorded I) dispatch) := by
  intro transport
  unfold dispatchTransaction
  rw [holds_bind, holds_get, holds_bind, holds_lift]
  refine ⟨?_, fun _ _ => .refl⟩
  intro planned hplanned
  obtain ⟨encoded, fingerprint⟩ := planned
  have hdigest := encodeAndFingerprint_fingerprint hplanned
  dsimp only
  rw [holds_bind]
  apply holds_mono (reconcileExact_progress dispatch encoded fingerprint transport)
  · intro reconciliation middle hmiddle
    obtain ⟨hprogress, hnotObserved⟩ := hmiddle
    cases reconciliation with
    | retained receipt | retainedFailure facts | evicted | unavailable | conflict => exact hprogress
    | notObserved =>
      apply holds_mono (submitNew_progress dispatch encoded fingerprint hdigest (hnotObserved rfl))
      · intro _ after hsubmitted
        exact hprogress.trans hsubmitted
      intro _ after hsubmitted
      exact hprogress.trans hsubmitted
  intro _ middle hprogress
  exact hprogress

theorem reconcile_progress : Steps Progress (reconcile (I := Recorded I) dispatch) := by
  unfold reconcile
  apply steps_read
  intro transport
  split
  · exact steps_pure _
  next encoded fingerprint _ =>
    intro middle
    apply holds_post (reconcileExact_progress dispatch encoded fingerprint middle)
    intro _ after hafter
    exact hafter.1

end

theorem submitNativeExchange_progress (request : NativeExchangeRequest) (epoch : Nat)
    (hnew : transport.history.bindings[request.dispatchNonce]? = none) :
    Holds (submitNativeExchange request request.requestDigest epoch) transport
      (fun _ after => Progress transport after) (fun _ after => Progress transport after) := by
  unfold submitNativeExchange
  rw [holds_bind]
  apply holds_mono (rememberDispatch_remembers _ request.requestDigest epoch transport)
  · intro _ bound hbound
    obtain ⟨history, hremember, hbound⟩ := hbound
    have hremembered : Progress transport bound := by
      rw [hbound]
      exact .single (.remember hremember)
    rw [holds_bind, holds_refuse]
    refine ⟨fun _ => hremembered, ?_⟩
    intro _
    rw [holds_bind]
    apply holds_mono (boottimeNs_quiet bound)
    · intro boottime clocked hclocked
      have hclock : Progress transport clocked := hremembered.trans hclocked.progress
      rw [holds_bind, holds_lift]
      refine ⟨?_, fun _ _ => hclock⟩
      intro now _
      rw [holds_bind, holds_refuse]
      refine ⟨fun _ => hclock, ?_⟩
      intro _
      rw [holds_bind, holds_get, holds_bind]
      apply holds_exchange
      intro result answer io
      have hsubmitted : Progress transport
          { clocked with io := ⟨io, .submittedNative (nativeSubmission request request.requestDigest
              clocked.material.generationId epoch (now + request.timeout)) :: clocked.io.calls⟩ } := by
        have hledger : clocked.ledger = ⟨history, transport.io.calls⟩ := by
          rw [hclocked, hbound]
          rfl
        have hhistory : clocked.history = history := congrArg SubmissionLedger.history hledger
        have hcalls : clocked.io.calls = transport.io.calls := congrArg SubmissionLedger.calls hledger
        unfold Progress KernelReceiverTransport.ledger
        dsimp only
        rw [hhistory, hcalls]
        exact .single (.submitNative hremember hnew ⟨request, rfl⟩)
      dsimp only
      have hquery := quiet_steps (queryNativeExchange_quiet (I := I) request request.requestDigest epoch
        answer.kernelSequence)
      apply holds_mono (hquery _)
      · intro _ after hqueried
        exact hsubmitted.trans hqueried
      intro _ after hqueried
      exact hsubmitted.trans hqueried
    · intro _ clocked hclocked
      exact hremembered.trans hclocked.progress
  · intro _ after hafter
    rw [hafter]
    exact .refl

theorem nativeExchange_progress (request : NativeExchangeRequest) :
    Steps Progress (nativeExchange (I := Recorded I) request) := by
  intro transport
  unfold nativeExchange
  rw [holds_bind, holds_lift]
  refine ⟨?_, fun _ _ => .refl⟩
  intro _ _
  rw [holds_bind]
  apply holds_mono (lookupDispatch_bound _ request.requestDigest transport)
  · intro lookup middle hlookup
    obtain ⟨hquiet, -, hnew⟩ := hlookup
    cases lookup with
    | known epoch =>
      have hquery := quiet_steps (queryNativeExchange_quiet (I := I) request request.requestDigest epoch 0)
      apply holds_mono (hquery middle)
      · intro _ after hqueried
        exact hquiet.progress.trans hqueried
      intro _ after hqueried
      exact hquiet.progress.trans hqueried
    | new epoch =>
      have hunbound : middle.history.bindings[request.dispatchNonce]? = none := by
        have hsame : middle.history = transport.history := congrArg SubmissionLedger.history hquiet
        rw [hsame]
        exact hnew epoch rfl
      apply holds_mono (submitNativeExchange_progress request epoch hunbound)
      · intro _ after hsubmitted
        exact hquiet.progress.trans hsubmitted
      intro _ after hsubmitted
      exact hquiet.progress.trans hsubmitted
    | forgotten | conflict => exact hquiet.progress
  · intro _ middle hquiet
    exact hquiet.progress

theorem dispatchNative_progress (dispatch : NativeTransportDispatch) :
    Steps Progress (dispatchNative (I := Recorded I) dispatch) := by
  unfold dispatchNative
  apply steps_read
  intro transport
  split
  · exact steps_pure _
  apply steps_bind (steps_attempt (nativeExchange_progress _))
  intro result
  exact steps_pure _

end Submissions

inductive TransportOp where
  | reconcile (dispatch : TransportDispatch)
  | dispatch (dispatch : TransportDispatch)
  | nativeExchange (request : NativeExchangeRequest)
  | reconcileNativeExchange (request : NativeExchangeRequest)
  | dispatchNative (dispatch : NativeTransportDispatch)
  | readObservations (afterSequence : Nat)
  | currentGeneration (receiverId : ReceiverId)
  | nativeExchangeAvailable (receiverId : ReceiverId) (generationId : GenerationId)
  | shutdown

section Runs

variable {I : Type} [FingerprintCodec]

def KernelReceiverTransport.perform [KernelIo I] (transport : KernelReceiverTransport I) :
    TransportOp → KernelReceiverTransport I
  | .reconcile dispatch => final (KernelTransport.reconcile dispatch) transport
  | .dispatch dispatch => final (dispatchTransaction dispatch) transport
  | .nativeExchange request => final (KernelTransport.nativeExchange request) transport
  | .reconcileNativeExchange request => final (KernelTransport.reconcileNativeExchange request) transport
  | .dispatchNative dispatch => final (KernelTransport.dispatchNative dispatch) transport
  | .readObservations afterSequence => final (KernelTransport.readObservations afterSequence) transport
  | .currentGeneration receiverId => final (KernelTransport.currentGeneration receiverId) transport
  | .nativeExchangeAvailable receiverId generationId =>
    final (KernelTransport.nativeExchangeAvailable receiverId generationId) transport
  | .shutdown => final KernelTransport.shutdown transport

def KernelReceiverTransport.performAll [KernelIo I] (transport : KernelReceiverTransport I)
    (ops : List TransportOp) : KernelReceiverTransport I :=
  ops.foldl KernelReceiverTransport.perform transport

variable [KernelIo I]

theorem perform_progress (transport : KernelReceiverTransport (Recorded I)) (op : TransportOp) :
    Progress transport (transport.perform op) := by
  cases op with
  | reconcile dispatch => exact (reconcile_progress dispatch).final transport
  | dispatch dispatch => exact (dispatchTransaction_progress dispatch).final transport
  | nativeExchange request => exact (nativeExchange_progress request).final transport
  | reconcileNativeExchange request =>
    exact (quiet_steps (reconcileNativeExchange_quiet request)).final transport
  | dispatchNative dispatch => exact (dispatchNative_progress dispatch).final transport
  | readObservations afterSequence => exact (quiet_steps (readObservations_quiet afterSequence)).final transport
  | currentGeneration receiverId => exact (quiet_steps (currentGeneration_quiet receiverId)).final transport
  | nativeExchangeAvailable receiverId generationId =>
    exact (quiet_steps (nativeExchangeAvailable_quiet receiverId generationId)).final transport
  | shutdown => exact (quiet_steps (endActiveSession_quiet RevokeReason.explicit)).final transport

theorem performAll_progress (transport : KernelReceiverTransport (Recorded I)) (ops : List TransportOp) :
    Progress transport (transport.performAll ops) := by
  induction ops generalizing transport with
  | nil => exact .refl
  | cons op ops ih => exact (perform_progress transport op).trans (ih (transport.perform op))

def FingerprintsSeparated : Prop :=
  ∀ dispatch encoded (request : NativeExchangeRequest),
    dispatchFingerprint dispatch encoded ≠ .ok request.requestDigest

/-- In every run of a transport, whatever the kernel answers: all submissions of a nonce have one digest; a nonce
that is passed by and no longer retained is not submitted again; a native nonce is submitted once; and a dispatch is
submitted again only right after the kernel answered that it had not observed it, under the same epoch. -/
theorem submissions_at_most_once {io : I} {catalog : RuntimeProfileCatalog}
    {facts : ProfileId → ReceiverTransportFacts} {material : KernelSessionMaterial}
    {start : KernelReceiverTransport (Recorded I)}
    (h : KernelReceiverTransport.new ⟨io, []⟩ catalog facts material = .ok start) (ops : List TransportOp) :
    (∀ first ∈ submissions (start.performAll ops).io.calls,
      ∀ second ∈ submissions (start.performAll ops).io.calls,
        first.dispatchNonce = second.dispatchNonce → first.requestDigest = second.requestDigest) ∧
    (∀ nonce : Nat, nonce ≤ (start.performAll ops).history.maximumNonce →
      (start.performAll ops).history.bindings[nonce]? = none → ∀ more,
        (submissions ((start.performAll ops).performAll more).io.calls).filter (·.dispatchNonce = nonce) =
          (submissions (start.performAll ops).io.calls).filter (·.dispatchNonce = nonce)) ∧
    (∀ later submit earlier,
      (start.performAll ops).io.calls = later ++ .submittedNative submit :: earlier →
        (∀ other ∈ submissions earlier, other.dispatchNonce ≠ submit.dispatchNonce) ∧
        (∀ other ∈ submissions later, other.dispatchNonce = submit.dispatchNonce → other.native = false) ∧
        (FingerprintsSeparated → ∀ other ∈ submissions later, other.dispatchNonce ≠ submit.dispatchNonce)) ∧
    ∀ later submit earlier, (start.performAll ops).io.calls = later ++ .submitted submit :: earlier →
      ∃ answer before, earlier = .reconciled (.ok ()) answer :: before ∧
        answer.status = TransportStatus.notObserved ∧ answer.dispatchNonce = submit.dispatchNonce ∧
        answer.requestDigest = submit.requestDigest ∧
        ∀ other ∈ submissions earlier, other.dispatchNonce = submit.dispatchNonce →
          other.requestDigest = submit.requestDigest ∧
          other.authorizationEpoch = submit.authorizationEpoch ∧
          answer.authorizationEpoch = submit.authorizationEpoch := by
  have hprogress := performAll_progress start ops
  unfold Progress at hprogress
  rw [new_ledger h] at hprogress
  have hsound := ledgerSteps_sound hprogress emptyLedger_sound
  refine ⟨?_, ?_, ?_, ?_⟩
  · intro first hfirst second hsecond hnonce
    exact (hsound.alike first hfirst second hsecond hnonce).1
  · intro nonce hbelow hunbound more
    have hmore := performAll_progress (start.performAll ops) more
    exact (ledgerSteps_forgotten hmore ⟨hbelow, hunbound⟩).2
  · intro later submit earlier hcalls
    have hjustified : Justified (later ++ .submittedNative submit :: earlier) := by
      rw [← hcalls]
      exact hsound.justified
    obtain ⟨⟨request, hrequest⟩, hbefore, -⟩ := hjustified.earlier
    refine ⟨hbefore, ?_, ?_⟩
    · intro other hmem hnonce
      exact (hjustified.afterNative hmem hnonce).1
    intro hseparated other hmem hnonce
    obtain ⟨-, dispatch, encoded, hfingerprint⟩ := hjustified.afterNative hmem hnonce
    have hsame : other.requestDigest = submit.requestDigest := by
      have hother : other ∈ submissions (start.performAll ops).ledger.calls := by
        show other ∈ submissions (start.performAll ops).io.calls
        rw [hcalls]
        unfold submissions
        rw [List.filterMap_append]
        exact List.mem_append_left _ hmem
      have hnative : (⟨submit.dispatchNonce, submit.requestDigest, submit.authorizationEpoch, true⟩ :
          Submission) ∈ submissions (start.performAll ops).ledger.calls := by
        apply List.mem_filterMap.mpr
        refine ⟨.submittedNative submit, ?_, rfl⟩
        show _ ∈ (start.performAll ops).io.calls
        rw [hcalls]
        exact List.mem_append_right later List.mem_cons_self
      exact (hsound.alike _ hother _ hnative hnonce).1
    rw [hsame, ← hrequest] at hfingerprint
    exact hseparated dispatch encoded request hfingerprint
  · intro later submit earlier hcalls
    have hjustified : Justified (later ++ .submitted submit :: earlier) := by
      rw [← hcalls]
      exact hsound.justified
    obtain ⟨-, hlast, -⟩ := hjustified.earlier
    exact hlast

end Runs

section Samples

/-- A kernel that begins sessions and loses every submission. -/
structure LossyKernel where
  begun : Bool

instance : KernelIo LossyKernel where
  boottimeNs port := (.ok 1, port)
  getInfo port := (.ok {
    version := 1
    size := 40
    receiverGeneration := 1
    authorizationEpoch := 1
    flags := if port.begun then InfoFlag.sessionActive else 0
    revokeReason := 0
    vendorId := 5426
    productId := 7
    boundInterfaces := 1
    reserved := 0 }, port)
  beginSession request _ := (.ok (), { request with authorizationEpoch := 1 }, ⟨true⟩)
  endSession _ _ := (.ok (), ⟨false⟩)
  submit request port := (.error ⟨none⟩, request, port)
  getTransactionResult request port := (.ok (), { request with flags := ResultFlag.automaticRetrySafe }, port)
  submitNativeExchange request port := (.error ⟨none⟩, request, port)
  getNativeExchangeResult request port := (.error ⟨none⟩, request, port)
  readObservations request port := (.error ⟨none⟩, request, port)

@[reducible] def fixedFingerprints : FingerprintCodec := ⟨fun _ => Vector.replicate 32 1, fun _ => some []⟩

def lightReceiverId : ReceiverId := .lit "receiver"

def lightReceiverProfile : ProfileId := .lit "receiver-profile"

def lightMouse : LogicalDeviceId := .lit "mouse"

def lightMouseProfile : ProfileId := .lit "mouse-profile"

def lightDigest : ProfileDigest :=
  .lit "0123456789abcdef0123456789abcdef0123456789abcdef0123456789abcdef"

def lightCatalog : RuntimeProfileCatalog where
  profiles := Std.TreeMap.ofList (α := ProfileId) (β := RuntimeProfile) [
    (lightReceiverProfile, ⟨lightReceiverProfile, lightDigest, .receiver, .receiver,
      some (.lit 5426), some "wireless", [], [], [], [], [], none, none, []⟩),
    (lightMouseProfile, ⟨lightMouseProfile, lightDigest, .child, .mouse,
      some (.lit 5426), none, ["wireless"], [], [], [], [], none,
      some ⟨.lit 1, .lit 1, 1, 1, [(.lit 0)]⟩, []⟩)]
  receivers _ _ := none

def lightMaterial : KernelSessionMaterial where
  receiverId := lightReceiverId
  generationId := .lit 1
  receiverProfileId := lightReceiverProfile
  receiverProfileDigest := lightDigest
  capabilityDigest := Vector.replicate 32 1
  daemonNonce := Vector.replicate 32 1
  sessionDuration := 60000000000

def lightDispatch : TransportDispatch where
  sessionId := .lit "session"
  authorizationEpoch := .lit 1
  dispatchNonce := .lit 1
  receiverId := lightReceiverId
  generationId := .lit 1
  transactionId := .lit "transaction"
  requestDigest := lightDigest
  receiverProfileId := lightReceiverProfile
  receiverProfileDigest := lightDigest
  deviceProfiles := [⟨lightMouse, lightMouseProfile, lightDigest, .lit 1⟩]
  frames := [⟨lightMouse, .lit 0,
    [⟨.lit 1, .lit 2, .lit 3⟩]⟩]

def lightFacts (_ : ProfileId) : ReceiverTransportFacts := ⟨some (.lit 7), some 1⟩

def lightOpened : Except KernelTransportError (KernelReceiverTransport (Recorded LossyKernel)) :=
  KernelReceiverTransport.new ⟨⟨false⟩, []⟩ lightCatalog lightFacts lightMaterial

/-- A dispatch that is lost is submitted a second time, like the first time. -/
theorem submissions_at_most_once_lost :
    let _ := fixedFingerprints
    ∃ start, KernelReceiverTransport.new (⟨⟨false⟩, []⟩ : Recorded LossyKernel) lightCatalog lightFacts
        lightMaterial = .ok start ∧
      (submissions (start.performAll [.dispatch lightDispatch, .dispatch lightDispatch]).io.calls).length = 2 ∧
      ∀ later submit earlier,
        (start.performAll [.dispatch lightDispatch, .dispatch lightDispatch]).io.calls =
          later ++ .submitted submit :: earlier →
        ∃ answer before, earlier = .reconciled (.ok ()) answer :: before ∧
          answer.status = TransportStatus.notObserved ∧ answer.dispatchNonce = submit.dispatchNonce := by
  intro codec
  have hcount : lightOpened.toOption.map (fun start => (submissions
      (start.performAll [.dispatch lightDispatch, .dispatch lightDispatch]).io.calls).length) = some 2 := by
    decide +kernel
  cases hnew : lightOpened with
  | error error =>
    rw [hnew] at hcount
    cases hcount
  | ok start =>
    rw [hnew] at hcount
    obtain ⟨-, -, -, hlast⟩ := submissions_at_most_once hnew [.dispatch lightDispatch, .dispatch lightDispatch]
    refine ⟨start, hnew, Option.some.inj hcount, ?_⟩
    intro later submit earlier hcalls
    obtain ⟨answer, before, hearlier, hstatus, hnonce, -⟩ := hlast later submit earlier hcalls
    exact ⟨answer, before, hearlier, hstatus, hnonce⟩

end Samples

end KernelTransport

end HyperfluxNext
