import HyperfluxNext.KernelTransport.History
import HyperfluxNext.Library.OrderedMaps

namespace HyperfluxNext

open Procedure OrderedMaps List

namespace KernelTransport

inductive KernelCall where
  | submitted (submit : HfxUapiSubmit)
  | submittedNative (submit : HfxUapiNativeExchangeSubmit)
  | reconciled (result : Except KernelIoError Unit) (answer : HfxUapiTransactionResult)

/-- What both submit calls say of themselves. -/
structure Submission where
  dispatchNonce : Nat
  requestDigest : DigestBytes
  authorizationEpoch : Nat
  native : Bool

def KernelCall.submission : KernelCall → Option Submission
  | .submitted submit => some ⟨submit.dispatchNonce, submit.requestDigest, submit.authorizationEpoch, false⟩
  | .submittedNative submit =>
    some ⟨submit.dispatchNonce, submit.requestDigest, submit.authorizationEpoch, true⟩
  | .reconciled _ _ => none

/-- The submissions among some calls; both lists have the newest first. -/
def submissions (calls : List KernelCall) : List Submission := calls.filterMap KernelCall.submission

/-- What decides whether a nonce may be submitted, with what was submitted so far. -/
structure SubmissionLedger where
  history : DispatchHistory
  calls : List KernelCall

/-- The last call was a question for this dispatch, under the epoch it is bound to where it is bound to one, and
the kernel had not observed it. -/
def Unobserved (ledger : SubmissionLedger) (nonce : Nat) (fingerprint : DigestBytes) : Prop :=
  ∃ answer earlier, ledger.calls = .reconciled (.ok ()) answer :: earlier ∧
    answer.status = TransportStatus.notObserved ∧ answer.dispatchNonce = nonce ∧
    answer.requestDigest = fingerprint ∧
    ∀ binding, ledger.history.bindings[nonce]? = some binding →
      binding.authorizationEpoch = answer.authorizationEpoch

inductive LedgerStep [FingerprintCodec] : SubmissionLedger → SubmissionLedger → Prop where
  | reconcile {ledger : SubmissionLedger} (result : Except KernelIoError Unit)
      (answer : HfxUapiTransactionResult) :
      LedgerStep ledger { ledger with calls := .reconciled result answer :: ledger.calls }
  | remember {ledger : SubmissionLedger} {nonce epoch : Nat} {fingerprint : DigestBytes}
      {history : DispatchHistory} (h : ledger.history.remember nonce fingerprint epoch = .ok history) :
      LedgerStep ledger { ledger with history := history }
  | submit {ledger : SubmissionLedger} {submit : HfxUapiSubmit} {history : DispatchHistory}
      (h : ledger.history.remember submit.dispatchNonce submit.requestDigest submit.authorizationEpoch =
        .ok history)
      (hunobserved : Unobserved ledger submit.dispatchNonce submit.requestDigest)
      (hdigest : ∃ dispatch encoded, dispatchFingerprint dispatch encoded = .ok submit.requestDigest) :
      LedgerStep ledger ⟨history, .submitted submit :: ledger.calls⟩
  | submitNative {ledger : SubmissionLedger} {submit : HfxUapiNativeExchangeSubmit}
      {history : DispatchHistory}
      (h : ledger.history.remember submit.dispatchNonce submit.requestDigest submit.authorizationEpoch =
        .ok history)
      (hnew : ledger.history.bindings[submit.dispatchNonce]? = none)
      (hdigest : ∃ request : NativeExchangeRequest, request.requestDigest = submit.requestDigest) :
      LedgerStep ledger ⟨history, .submittedNative submit :: ledger.calls⟩

section History

variable {history after : DispatchHistory}

variable {nonce epoch : Nat} {fingerprint : DigestBytes} {binding : DispatchBinding}

theorem expireBindings_lookup {bindings : Std.TreeMap Nat DispatchBinding} {order : List Nat}
    (h : (DispatchHistory.expireBindings bindings order).1[nonce]? = some binding) :
    bindings[nonce]? = some binding := by
  induction order generalizing bindings with
  | nil => exact h
  | cons expired order ih =>
    unfold DispatchHistory.expireBindings at h
    split at h
    · have herased := ih h
      rw [getElem?_erase_of] at herased
      by_cases hsame : nonce = expired
      · rw [if_pos hsame] at herased
        cases herased
      rw [if_neg hsame] at herased
      exact herased
    · exact h

theorem remember_cases (h : history.remember nonce fingerprint epoch = .ok after) :
    after = history ∧ history.bindings[nonce]? = some ⟨fingerprint, epoch⟩ ∨
    history.bindings[nonce]? = none ∧ history.maximumNonce < nonce ∧ after.maximumNonce = nonce ∧
      ∀ other binding, after.bindings[other]? = some binding →
        other = nonce ∧ binding = ⟨fingerprint, epoch⟩ ∨ history.bindings[other]? = some binding := by
  unfold DispatchHistory.remember at h
  split at h
  next existing hexisting =>
    split at h
    next hsame =>
      cases h
      obtain ⟨hfingerprint, hepoch⟩ := hsame
      rw [hexisting, ← hfingerprint, ← hepoch]
      exact .inl ⟨rfl, rfl⟩
    · cases h
  next hnone =>
    split at h
    · cases h
    next hnew =>
      cases h
      refine .inr ⟨hnone, by omega, rfl, ?_⟩
      intro other binding hother
      have hinserted := expireBindings_lookup hother
      rw [getElem?_insert_of] at hinserted
      by_cases hsame : other = nonce
      · rw [if_pos hsame] at hinserted
        exact .inl ⟨hsame, (Option.some.inj hinserted).symm⟩
      rw [if_neg hsame] at hinserted
      exact .inr hinserted

theorem remember_retained {history later : DispatchHistory}
    (h : ∀ (nonce : Nat) binding, history.bindings[nonce]? = some binding → nonce ≤ history.maximumNonce)
    (hremember : history.remember nonce fingerprint epoch = .ok later) :
    (∀ (nonce : Nat) binding, later.bindings[nonce]? = some binding → nonce ≤ later.maximumNonce) ∧
      history.maximumNonce ≤ later.maximumNonce := by
  obtain ⟨hsame, -⟩ | ⟨-, habove, hmaximum, hlookup⟩ := remember_cases hremember
  · rw [hsame]
    exact ⟨h, Nat.le_refl _⟩
  rw [hmaximum]
  refine ⟨?_, Nat.le_of_lt habove⟩
  intro other binding hother
  obtain ⟨hsame, -⟩ | hkept := hlookup other binding hother
  · rw [hsame]
  have := h other binding hkept
  omega

theorem remember_bound (h : history.remember nonce fingerprint epoch = .ok after)
    (hbinding : after.bindings[nonce]? = some binding) : binding = ⟨fingerprint, epoch⟩ := by
  obtain ⟨hsame, hbound⟩ | ⟨hnone, -, -, hlookup⟩ := remember_cases h
  · rw [hsame, hbound] at hbinding
    exact (Option.some.inj hbinding).symm
  obtain ⟨-, hnew⟩ | hkept := hlookup nonce binding hbinding
  · exact hnew
  rw [hnone] at hkept
  cases hkept

theorem remember_reaches (hretained : ∀ (nonce : Nat) binding, history.bindings[nonce]? = some binding →
      nonce ≤ history.maximumNonce) (h : history.remember nonce fingerprint epoch = .ok after)
    : nonce ≤ after.maximumNonce := by
  obtain ⟨hsame, hbound⟩ | ⟨-, -, hmaximum, -⟩ := remember_cases h
  · rw [hsame]
    exact hretained nonce _ hbound
  · rw [hmaximum]

end History

/-- A nonce that was passed by and is not bound any more. -/
def Forgotten (nonce : Nat) (ledger : SubmissionLedger) : Prop :=
  nonce ≤ ledger.history.maximumNonce ∧ ledger.history.bindings[nonce]? = none

def submissionsOf (nonce : Nat) (ledger : SubmissionLedger) : List Submission :=
  (submissions ledger.calls).filter (·.dispatchNonce = nonce)

variable {submission : Submission} {call : KernelCall} {calls : List KernelCall}

section Forgetting

variable {ledger : SubmissionLedger} {nonce : Nat} {history : DispatchHistory}

theorem remember_forgotten {other epoch : Nat} {fingerprint : DigestBytes}
    (hremember : ledger.history.remember other fingerprint epoch = .ok history) (h : Forgotten nonce ledger) :
    other ≠ nonce ∧ nonce ≤ history.maximumNonce ∧ history.bindings[nonce]? = none := by
  obtain ⟨hbelow, hunbound⟩ := h
  obtain ⟨hsame, hbound⟩ | ⟨-, habove, hmaximum, hlookup⟩ := remember_cases hremember
  · rw [hsame]
    refine ⟨?_, hbelow, hunbound⟩
    intro hother
    rw [hother, hunbound] at hbound
    cases hbound
  have hother : other ≠ nonce := by omega
  refine ⟨hother, by omega, ?_⟩
  cases hbinding : history.bindings[nonce]? with
  | none => rfl
  | some binding =>
    obtain ⟨hsame, -⟩ | hkept := hlookup nonce binding hbinding
    · exact absurd hsame.symm hother
    rw [hunbound] at hkept
    cases hkept

theorem submissionsOf_cons (hcall : call.submission = some submission)
    (hother : submission.dispatchNonce ≠ nonce) :
    submissionsOf nonce ⟨history, call :: ledger.calls⟩ = submissionsOf nonce ledger := by
  unfold submissionsOf submissions
  rw [filterMap_cons, hcall]
  exact filter_cons_of_neg (by simpa using hother)

theorem mem_submissions (h : submission ∈ submissions calls) :
    ∃ later call earlier, calls = later ++ call :: earlier ∧ call.submission = some submission := by
  obtain ⟨call, hcall, hsubmission⟩ := mem_filterMap.mp h
  obtain ⟨later, earlier, hsplit⟩ := append_of_mem hcall
  exact ⟨later, call, earlier, hsplit, hsubmission⟩

end Forgetting

def Justified [FingerprintCodec] : List KernelCall → Prop
  | [] => True
  | .reconciled _ _ :: earlier => Justified earlier
  | .submittedNative submit :: earlier =>
    (∃ request : NativeExchangeRequest, request.requestDigest = submit.requestDigest) ∧
    (∀ other ∈ submissions earlier, other.dispatchNonce ≠ submit.dispatchNonce) ∧ Justified earlier
  | .submitted submit :: earlier =>
    (∃ dispatch encoded, dispatchFingerprint dispatch encoded = .ok submit.requestDigest) ∧
    (∃ answer before, earlier = .reconciled (.ok ()) answer :: before ∧
      answer.status = TransportStatus.notObserved ∧ answer.dispatchNonce = submit.dispatchNonce ∧
      answer.requestDigest = submit.requestDigest ∧
      ∀ other ∈ submissions earlier, other.dispatchNonce = submit.dispatchNonce →
        other.requestDigest = submit.requestDigest ∧
        other.authorizationEpoch = submit.authorizationEpoch ∧
        answer.authorizationEpoch = submit.authorizationEpoch) ∧
    Justified earlier

structure SubmissionLedger.Sound [FingerprintCodec] (ledger : SubmissionLedger) : Prop where
  retained : ∀ (nonce : Nat) binding, ledger.history.bindings[nonce]? = some binding →
    nonce ≤ ledger.history.maximumNonce
  submitted : ∀ submission ∈ submissions ledger.calls,
    submission.dispatchNonce ≤ ledger.history.maximumNonce ∧
    ∀ binding, ledger.history.bindings[submission.dispatchNonce]? = some binding →
      binding = ⟨submission.requestDigest, submission.authorizationEpoch⟩
  alike : ∀ first ∈ submissions ledger.calls, ∀ second ∈ submissions ledger.calls,
    first.dispatchNonce = second.dispatchNonce →
    first.requestDigest = second.requestDigest ∧ first.authorizationEpoch = second.authorizationEpoch
  justified : Justified ledger.calls

variable {submit : HfxUapiNativeExchangeSubmit}

section Steps

variable [FingerprintCodec] {ledger after : SubmissionLedger}

variable {nonce epoch : Nat} {history : DispatchHistory} {fingerprint : DigestBytes}

theorem remember_submitted (h : ledger.Sound)
    (hremember : ledger.history.remember nonce fingerprint epoch = .ok history) :
    ∀ submission ∈ submissions ledger.calls,
      submission.dispatchNonce ≤ history.maximumNonce ∧
      (∀ binding, history.bindings[submission.dispatchNonce]? = some binding →
        binding = ⟨submission.requestDigest, submission.authorizationEpoch⟩) ∧
      (submission.dispatchNonce = nonce →
        submission.requestDigest = fingerprint ∧ submission.authorizationEpoch = epoch) := by
  intro submission hmem
  obtain ⟨hbelow, hagrees⟩ := h.submitted submission hmem
  obtain ⟨hsame, hbound⟩ | ⟨hnone, habove, hmaximum, hlookup⟩ := remember_cases hremember
  · rw [hsame]
    refine ⟨hbelow, hagrees, ?_⟩
    intro hnonce
    rw [hnonce] at hagrees
    have hbinding := hagrees _ hbound
    cases hbinding
    exact ⟨rfl, rfl⟩
  have hother : submission.dispatchNonce ≠ nonce := by omega
  refine ⟨by omega, ?_, fun hnonce => absurd hnonce hother⟩
  intro binding hbinding
  obtain ⟨hnonce, -⟩ | hkept := hlookup _ binding hbinding
  · exact absurd hnonce hother
  · exact hagrees binding hkept

theorem remember_sound (h : ledger.Sound)
    (hremember : ledger.history.remember nonce fingerprint epoch = .ok history) :
    SubmissionLedger.Sound { ledger with history := history } where
  retained := (remember_retained h.retained hremember).1
  submitted submission hmem := by
    obtain ⟨hbelow, hagrees, -⟩ := remember_submitted h hremember submission hmem
    exact ⟨hbelow, hagrees⟩
  alike := h.alike
  justified := h.justified

theorem reconcile_sound (h : ledger.Sound) (result : Except KernelIoError Unit)
    (answer : HfxUapiTransactionResult) :
    SubmissionLedger.Sound { ledger with calls := .reconciled result answer :: ledger.calls } :=
  ⟨h.retained, h.submitted, h.alike, h.justified⟩

/-- A submission of what was just remembered joins the others. -/
theorem submission_sound (h : ledger.Sound)
    (hremember : ledger.history.remember submission.dispatchNonce submission.requestDigest
      submission.authorizationEpoch = .ok history) (hcall : call.submission = some submission)
    (hjustified : Justified (call :: ledger.calls)) :
    SubmissionLedger.Sound ⟨history, call :: ledger.calls⟩ := by
  have hbefore := remember_submitted h hremember
  have hsubmissions : submissions (call :: ledger.calls) = submission :: submissions ledger.calls := by
    unfold submissions
    rw [filterMap_cons, hcall]
  refine ⟨(remember_retained h.retained hremember).1, ?_, ?_, hjustified⟩
  · intro other hmem
    rw [hsubmissions] at hmem
    obtain hnew | hold := mem_cons.mp hmem
    · rw [hnew]
      refine ⟨remember_reaches h.retained hremember, ?_⟩
      intro binding hbinding
      exact remember_bound hremember hbinding
    obtain ⟨hbelow, hagrees, -⟩ := hbefore other hold
    exact ⟨hbelow, hagrees⟩
  intro first hfirst second hsecond hnonce
  rw [hsubmissions] at hfirst hsecond
  obtain hfirst | hfirst := mem_cons.mp hfirst
  · obtain hsecond | hsecond := mem_cons.mp hsecond
    · rw [hfirst, hsecond]
      exact ⟨rfl, rfl⟩
    rw [hfirst] at hnonce
    obtain ⟨-, -, hequal⟩ := hbefore second hsecond
    obtain ⟨hdigest, hepoch⟩ := hequal hnonce.symm
    rw [hfirst]
    exact ⟨hdigest.symm, hepoch.symm⟩
  obtain hsecond | hsecond := mem_cons.mp hsecond
  · rw [hsecond] at hnonce
    obtain ⟨-, -, hequal⟩ := hbefore first hfirst
    rw [hsecond]
    exact hequal hnonce
  · exact h.alike first hfirst second hsecond hnonce

theorem submit_justified (h : ledger.Sound) {submit : HfxUapiSubmit}
    (hremember : ledger.history.remember submit.dispatchNonce submit.requestDigest
      submit.authorizationEpoch = .ok history)
    (hunobserved : Unobserved ledger submit.dispatchNonce submit.requestDigest)
    (hdigest : ∃ dispatch encoded, dispatchFingerprint dispatch encoded = .ok submit.requestDigest) :
    Justified (.submitted submit :: ledger.calls) := by
  obtain ⟨answer, earlier, hcalls, hstatus, hnonce, hanswer, hepoch⟩ := hunobserved
  refine ⟨hdigest, ⟨answer, earlier, hcalls, hstatus, hnonce, hanswer, ?_⟩, h.justified⟩
  intro other hmem hother
  obtain ⟨-, -, hequal⟩ := remember_submitted h hremember other hmem
  obtain ⟨hsameDigest, hsameEpoch⟩ := hequal hother
  refine ⟨hsameDigest, hsameEpoch, ?_⟩
  obtain ⟨-, hbound⟩ | ⟨-, habove, -⟩ := remember_cases hremember
  · exact (hepoch _ hbound).symm
  obtain ⟨hbelow, -⟩ := h.submitted other hmem
  omega

theorem submitNative_justified (h : ledger.Sound)
    (hremember : ledger.history.remember submit.dispatchNonce submit.requestDigest
      submit.authorizationEpoch = .ok history) (hnew : ledger.history.bindings[submit.dispatchNonce]? = none)
    (hdigest : ∃ request : NativeExchangeRequest, request.requestDigest = submit.requestDigest) :
    Justified (.submittedNative submit :: ledger.calls) := by
  refine ⟨hdigest, ?_, h.justified⟩
  intro other hmem hother
  obtain ⟨hbelow, -⟩ := h.submitted other hmem
  obtain ⟨-, hbound⟩ | ⟨-, habove, -⟩ := remember_cases hremember
  · rw [hnew] at hbound
    cases hbound
  · omega

theorem ledgerStep_sound (hstep : LedgerStep ledger after) (h : ledger.Sound) : after.Sound := by
  cases hstep with
  | reconcile result answer => exact reconcile_sound h result answer
  | remember hremember => exact remember_sound h hremember
  | submit hremember hunobserved hdigest =>
    exact submission_sound h hremember rfl (submit_justified h hremember hunobserved hdigest)
  | submitNative hremember hnew hdigest =>
    exact submission_sound h hremember rfl (submitNative_justified h hremember hnew hdigest)

theorem ledgerStep_forgotten (hstep : LedgerStep ledger after) (h : Forgotten nonce ledger) :
    Forgotten nonce after ∧ submissionsOf nonce after = submissionsOf nonce ledger := by
  cases hstep with
  | reconcile result answer => exact ⟨h, rfl⟩
  | remember hremember => exact ⟨(remember_forgotten hremember h).2, rfl⟩
  | submit hremember hunobserved hdigest | submitNative hremember hnew hdigest =>
    obtain ⟨hother, hforgotten⟩ := remember_forgotten hremember h
    exact ⟨hforgotten, submissionsOf_cons rfl hother⟩

end Steps

abbrev LedgerSteps [FingerprintCodec] := Relation.ReflTransGen LedgerStep

section Runs

variable [FingerprintCodec] {ledger after : SubmissionLedger}

theorem emptyLedger_sound : SubmissionLedger.Sound ⟨.empty, []⟩ where
  retained nonce binding h := by
    rw [DispatchHistory.empty, Std.TreeMap.getElem?_emptyc] at h
    cases h
  submitted submission h := by cases h
  alike first h := by cases h
  justified := trivial

theorem ledgerSteps_sound (hsteps : LedgerSteps ledger after) (h : ledger.Sound) : after.Sound := by
  induction hsteps with
  | refl => exact h
  | tail _ hstep ih => exact ledgerStep_sound hstep ih

theorem ledgerSteps_forgotten {nonce : Nat} (hsteps : LedgerSteps ledger after) (h : Forgotten nonce ledger) :
    Forgotten nonce after ∧ submissionsOf nonce after = submissionsOf nonce ledger := by
  induction hsteps with
  | refl => exact ⟨h, rfl⟩
  | tail _ hstep ih =>
    obtain ⟨hforgotten, hsame⟩ := ih
    obtain ⟨hstill, hkept⟩ := ledgerStep_forgotten hstep hforgotten
    exact ⟨hstill, hkept.trans hsame⟩

theorem Justified.earlier {later : List KernelCall} (h : Justified (later ++ calls)) : Justified calls := by
  induction later with
  | nil => exact h
  | cons call later ih =>
    cases call with
    | submitted submit | submittedNative submit => exact ih h.2.2
    | reconciled result answer => exact ih h

theorem Justified.afterNative {later earlier : List KernelCall}
    (h : Justified (later ++ .submittedNative submit :: earlier)) (hmem : submission ∈ submissions later)
    (hnonce : submission.dispatchNonce = submit.dispatchNonce) :
    submission.native = false ∧
      ∃ dispatch encoded, dispatchFingerprint dispatch encoded = .ok submission.requestDigest := by
  obtain ⟨newest, call, before, hsplit, hcall⟩ := mem_submissions hmem
  rw [hsplit, append_assoc] at h
  have hthere := h.earlier
  rw [cons_append] at hthere
  cases call with
  | reconciled result answer => cases hcall
  | submitted other =>
    cases hcall
    exact ⟨rfl, hthere.1⟩
  | submittedNative other =>
    cases hcall
    obtain ⟨-, hothers, -⟩ := hthere
    refine absurd hnonce.symm (hothers ⟨submit.dispatchNonce, submit.requestDigest,
      submit.authorizationEpoch, true⟩ ?_)
    apply mem_filterMap.mpr
    exact ⟨.submittedNative submit, mem_append_right before mem_cons_self, rfl⟩

end Runs

end KernelTransport

end HyperfluxNext
