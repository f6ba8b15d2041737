import Mathlib.Data.List.Chain
import HyperfluxNext.Lifecycle.Facts

namespace HyperfluxNext

namespace ReturnLifecycle

def maxReturnRetryAttempts : Nat := 32

def maxReturnRetryWindowMs : Nat := 30000

inductive ReturnEvidence where
  | applicationOwnershipLoss | batteryReport | contactReport | endpointActivity | endpointIdentity
  | endpointStatus | receiverGeneration | routeDeparture | routeReturn | systemResume
deriving DecidableEq

structure ReturnEpoch where
  sequence : SequenceNumber
  openedAtMs : MonotonicMs
  openingEvidence : ReturnEvidence
  phase : ReturnPhase
  delivery : RestoreDeliveryState
deriving DecidableEq

inductive ReturnTransition where
  | none
  | quiescenceCandidate
  | becameUnavailable
  | epochOpened (epoch : ReturnEpoch)
  | epochAccelerated (epoch : ReturnEpoch)
  | synchronized (epoch : ReturnEpoch)
  | windowCompleted (epoch : ReturnEpoch)
deriving DecidableEq

def retryOffsetsAreValid (retryOffsetsMs : List Nat) : Prop :=
  2 ≤ retryOffsetsMs.length ∧ retryOffsetsMs.length ≤ maxReturnRetryAttempts ∧
    retryOffsetsMs.head? = some 0 ∧ retryOffsetsMs.IsChain (· < ·) ∧
    retryOffsetsMs.getLast?.any (· ≤ maxReturnRetryWindowMs)

def policyIsValid (quiescenceCandidateMs observationJitterMs : Nat) (retryOffsetsMs : List Nat)
    (openEvidence acceleratorEvidence : List ReturnEvidence) : Prop :=
  quiescenceCandidateMs ≠ 0 ∧ observationJitterMs < quiescenceCandidateMs ∧
    retryOffsetsAreValid retryOffsetsMs ∧ openEvidence ≠ [] ∧ openEvidence.Nodup ∧
    (∀ evidence ∈ openEvidence, evidence ∈ acceleratorEvidence) ∧ acceleratorEvidence ≠ [] ∧
    acceleratorEvidence.Nodup

instance (retryOffsetsMs : List Nat) : Decidable (retryOffsetsAreValid retryOffsetsMs) :=
  inferInstanceAs (Decidable (_ ∧ _ ∧ _ ∧ _ ∧ _))

instance (quiescenceCandidateMs observationJitterMs : Nat) (retryOffsetsMs : List Nat)
    (openEvidence acceleratorEvidence : List ReturnEvidence) :
    Decidable (policyIsValid quiescenceCandidateMs observationJitterMs retryOffsetsMs openEvidence
      acceleratorEvidence) :=
  inferInstanceAs (Decidable (_ ∧ _ ∧ _ ∧ _ ∧ _ ∧ _ ∧ _ ∧ _))

/-- Validated policy for one qualified endpoint profile. -/
structure EndpointReturnPolicy where
  quiescenceCandidateMs : Nat
  observationJitterMs : Nat
  retryOffsetsMs : List Nat
  openEvidence : List ReturnEvidence
  acceleratorEvidence : List ReturnEvidence
  valid : policyIsValid quiescenceCandidateMs observationJitterMs retryOffsetsMs openEvidence
    acceleratorEvidence

namespace EndpointReturnPolicy

def new (quiescenceCandidateMs observationJitterMs : Nat) (retryOffsetsMs : List Nat)
    (openEvidence acceleratorEvidence : List ReturnEvidence) :
    Except LifecycleError EndpointReturnPolicy :=
  if h : policyIsValid quiescenceCandidateMs observationJitterMs retryOffsetsMs openEvidence
      acceleratorEvidence then
    .ok ⟨quiescenceCandidateMs, observationJitterMs, retryOffsetsMs, openEvidence, acceleratorEvidence, h⟩
  else
    .error .invalidReturnPolicy

def effectiveQuiescenceMs (policy : EndpointReturnPolicy) : Nat :=
  policy.quiescenceCandidateMs - policy.observationJitterMs

theorem retryOffsets_ne_nil (policy : EndpointReturnPolicy) : policy.retryOffsetsMs ≠ [] := by
  have hlength := policy.valid.2.2.1.1
  intro hnil
  rw [hnil] at hlength
  exact absurd hlength (by decide)

def finalOffset (policy : EndpointReturnPolicy) : Nat :=
  policy.retryOffsetsMs.getLast policy.retryOffsets_ne_nil

def dueTimes (policy : EndpointReturnPolicy) (epoch : ReturnEpoch) : List Nat :=
  policy.retryOffsetsMs.map (epoch.openedAtMs.get + ·)

/-- The end of an epoch's window, in the range of the clock. -/
def deadline (policy : EndpointReturnPolicy) (epoch : ReturnEpoch) : Nat :=
  min (epoch.openedAtMs.get + policy.finalOffset) u64Max

end EndpointReturnPolicy

def evidenceBit : ReturnEvidence → BitVec 16
  | .applicationOwnershipLoss => 1 <<< 0
  | .batteryReport => 1 <<< 1
  | .contactReport => 1 <<< 2
  | .endpointActivity => 1 <<< 3
  | .endpointIdentity => 1 <<< 4
  | .endpointStatus => 1 <<< 5
  | .receiverGeneration => 1 <<< 6
  | .routeDeparture => 1 <<< 7
  | .routeReturn => 1 <<< 8
  | .systemResume => 1 <<< 9

def mergeDelivery (current candidate : RestoreDeliveryState) : RestoreDeliveryState :=
  match current, candidate with
  | .childConfirmed, _ | _, .childConfirmed => .childConfirmed
  | .childRejected, _ | _, .childRejected => .childRejected
  | .receiverDelivered, _ | _, .receiverDelivered => .receiverDelivered
  | .outcomeUncertain, _ | _, .outcomeUncertain => .outcomeUncertain
  | .receiverRejected, _ | _, .receiverRejected => .receiverRejected
  | .notAttempted, .notAttempted => .notAttempted

/-- Detector of return epochs and of their bounded replay windows, for one endpoint. -/
structure EndpointReturnLifecycle where
  policy : EndpointReturnPolicy
  phase : ReturnPhase
  lastSequence : Option SequenceNumber
  lastObservedAtMs : Option MonotonicMs
  lastActivityMs : Option MonotonicMs
  epoch : Option ReturnEpoch
  seenAccelerators : BitVec 16

def completedTransition : Option ReturnEpoch → ReturnTransition
  | none => .none
  | some epoch => .windowCompleted epoch

namespace EndpointReturnLifecycle

def new (policy : EndpointReturnPolicy) : EndpointReturnLifecycle :=
  ⟨policy, .stable, none, none, none, none, 0⟩

/-- Clears the volatile anchors at a receiver suspend boundary. -/
def resetObservationAnchor (lifecycle : EndpointReturnLifecycle) : EndpointReturnLifecycle :=
  { lifecycle with
    lastSequence := none, lastObservedAtMs := none, lastActivityMs := none, epoch := none,
    seenAccelerators := 0, phase := .stable }

def completeIfExpired (lifecycle : EndpointReturnLifecycle) (now : MonotonicMs) :
    Option ReturnEpoch × EndpointReturnLifecycle :=
  match lifecycle.epoch with
  | none => (none, lifecycle)
  | some epoch =>
    if epoch.phase ≠ .returning then (none, lifecycle)
    else if now.get ≤ lifecycle.policy.deadline epoch then (none, lifecycle)
    else
      let completed := { epoch with phase := .stable }
      (some completed, { lifecycle with epoch := some completed, phase := .stable })

/-- Evidence that is not after the last accepted one. -/
def isStale (lifecycle : EndpointReturnLifecycle) (sequence : SequenceNumber)
    (observedAtMs : MonotonicMs) : Bool :=
  lifecycle.lastSequence.any (sequence ≤ ·) ∨ lifecycle.lastObservedAtMs.any (observedAtMs < ·)

def activityOpens (lifecycle : EndpointReturnLifecycle) (evidence : ReturnEvidence)
    (observedAtMs : MonotonicMs) : Bool :=
  if evidence = .endpointActivity then
    lifecycle.phase = .unavailable || lifecycle.lastActivityMs.all fun prior =>
      lifecycle.policy.effectiveQuiescenceMs ≤ observedAtMs.get - prior.get
  else
    true

def noteEvidence (lifecycle : EndpointReturnLifecycle) (evidence : ReturnEvidence)
    (sequence : SequenceNumber) (observedAtMs : MonotonicMs) : EndpointReturnLifecycle :=
  { lifecycle with
    lastActivityMs := if evidence = .endpointActivity then some observedAtMs else lifecycle.lastActivityMs
    lastSequence := some sequence
    lastObservedAtMs := some observedAtMs }

def openEpoch (lifecycle : EndpointReturnLifecycle) (evidence : ReturnEvidence)
    (sequence : SequenceNumber) (observedAtMs : MonotonicMs) :
    ReturnTransition × EndpointReturnLifecycle :=
  let epoch : ReturnEpoch := ⟨sequence, observedAtMs, evidence, .returning, .notAttempted⟩
  (.epochOpened epoch, { lifecycle with
    epoch := some epoch
    seenAccelerators := if evidence = .endpointActivity then 0 else evidenceBit evidence
    phase := .returning })

/-- An active epoch that this evidence has not accelerated yet; activity always may. -/
def accelerates (lifecycle : EndpointReturnLifecycle) (epoch : ReturnEpoch) (evidence : ReturnEvidence) : Bool :=
  epoch.phase = .returning ∧ evidence ∈ lifecycle.policy.acceleratorEvidence ∧
    (evidence = .endpointActivity ∨ lifecycle.seenAccelerators &&& evidenceBit evidence = 0)

/-- Applies one ordered passive fact. -/
def observe (lifecycle : EndpointReturnLifecycle) (evidence : ReturnEvidence) (sequence : SequenceNumber)
    (observedAtMs : MonotonicMs) : ReturnTransition × EndpointReturnLifecycle :=
  if lifecycle.isStale sequence observedAtMs then (.none, lifecycle) else
    let (completed, lifecycle) := lifecycle.completeIfExpired observedAtMs
    if evidence = .routeDeparture then
      (.becameUnavailable, { lifecycle with
        lastSequence := some sequence, lastObservedAtMs := some observedAtMs, epoch := none,
        seenAccelerators := 0, phase := .unavailable })
    else if evidence = .applicationOwnershipLoss then
      (completedTransition completed, { lifecycle with
        lastSequence := some sequence, lastObservedAtMs := some observedAtMs, epoch := none,
        seenAccelerators := 0, phase := .stable })
    else
      let noted := lifecycle.noteEvidence evidence sequence observedAtMs
      if lifecycle.activityOpens evidence observedAtMs ∧ evidence ∈ lifecycle.policy.openEvidence then
        noted.openEpoch evidence sequence observedAtMs
      else
        match noted.epoch with
        | none => (completedTransition completed, noted)
        | some epoch =>
          if noted.accelerates epoch evidence then
            (.epochAccelerated epoch, { noted with
              seenAccelerators := if evidence = .endpointActivity then noted.seenAccelerators
                else noted.seenAccelerators ||| evidenceBit evidence })
          else
            (completedTransition completed, noted)

def noteDelivery (lifecycle : EndpointReturnLifecycle) (epochSequence : SequenceNumber)
    (delivery : RestoreDeliveryState) : ReturnTransition × EndpointReturnLifecycle :=
  match lifecycle.epoch with
  | none => (.none, lifecycle)
  | some epoch =>
    if epoch.sequence ≠ epochSequence ∨ epoch.phase ≠ .returning then (.none, lifecycle) else
      let merged := mergeDelivery epoch.delivery delivery
      if merged = .childConfirmed then
        let confirmed := { epoch with delivery := merged, phase := .synchronized }
        (.synchronized confirmed, { lifecycle with epoch := some confirmed, phase := .synchronized })
      else
        (.none, { lifecycle with epoch := some { epoch with delivery := merged } })

/-- Closes an elapsed retry window without making a physical-state claim. -/
def advance (lifecycle : EndpointReturnLifecycle) (now : MonotonicMs) :
    ReturnTransition × EndpointReturnLifecycle :=
  let (completed, lifecycle) := lifecycle.completeIfExpired now
  match completed with
  | some epoch => (.windowCompleted epoch, lifecycle)
  | none =>
    if (lifecycle.phase = .stable ∨ lifecycle.phase = .synchronized) ∧
        (lifecycle.lastActivityMs.any fun activity =>
          lifecycle.policy.quiescenceCandidateMs ≤ now.get - activity.get) then
      (.quiescenceCandidate, { lifecycle with phase := .quiescentCandidate })
    else
      (.none, lifecycle)

end EndpointReturnLifecycle

end ReturnLifecycle

end HyperfluxNext
