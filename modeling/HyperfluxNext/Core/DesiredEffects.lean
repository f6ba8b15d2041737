import Std.Data.TreeMap
import HyperfluxNext.Core.Ports
import HyperfluxNext.Protocol.Validation

namespace HyperfluxNext

open Procedure

/-- Exact lifecycle scope of one volatile software-effect frame. -/
structure EffectFrameKey where
  receiverId : ReceiverId
  generationId : GenerationId
  deviceId : LogicalDeviceId
deriving DecidableEq

open EffectFrameKey

instance : Ord EffectFrameKey where
  compare := compareLex (compareOn receiverId) (compareLex (compareOn generationId) (compareOn deviceId))

instance : Std.TransOrd EffectFrameKey :=
  inferInstanceAs (Std.TransCmp (compareLex (compareOn receiverId)
    (compareLex (compareOn generationId) (compareOn deviceId))))

instance : Std.LawfulEqOrd EffectFrameKey where
  eq_of_compare {a b} h := by
    have hlex : (compareLex (compareOn receiverId)
        (compareLex (compareOn generationId) (compareOn deviceId))) a b = .eq := h
    simp only [compareLex_eq_eq, compareOn, Std.LawfulEqCmp.compare_eq_iff_eq] at hlex
    cases a
    cases b
    simp_all

structure EffectFrameOwner where
  sessionId : SessionId
  authorizationEpoch : AuthorizationEpoch
deriving DecidableEq

structure DesiredEffectFrame where
  clientId : ClientId
  leaseId : LeaseId
  receiverProfileId : ProfileId
  receiverProfileDigest : ProfileDigest
  deviceProfile : DeviceProfileBinding
  resource : ResourceKey
  frame : LightingFrame
  owner : EffectFrameOwner
  revision : Nat
deriving DecidableEq

/-- Fresh transaction material for one owner-bound effect replay. -/
structure EffectReplay where
  request : TransactionRequest
  submission : SubmissionBinding

structure EffectCapture where
  captured : Nat
  evicted : List EffectFrameKey

inductive DesiredEffectError where
  | invalidCapacity
  | invalidTransaction (error : ProtocolValidationError)
  | revisionExhausted

/-- Bounded process-local desired state for software-generated frames. -/
structure VolatileEffectRegistry where
  capacity : Nat
  nextRevision : Nat
  entries : Std.TreeMap EffectFrameKey DesiredEffectFrame

abbrev RegistryM := EStateM DesiredEffectError VolatileEffectRegistry

namespace VolatileEffectRegistry

def new (capacity : Nat) : Except DesiredEffectError VolatileEffectRegistry :=
  if 1 ≤ capacity ∧ capacity ≤ 4096 then .ok ⟨capacity, 1, ∅⟩ else .error .invalidCapacity

def followingRevision (registry : VolatileEffectRegistry) : Except DesiredEffectError Nat :=
  if registry.nextRevision + 1 ≤ u64Max then .ok (registry.nextRevision + 1)
  else .error .revisionExhausted

/-- Preflights effect capture without changing the registry. -/
def validateAdmission (registry : VolatileEffectRegistry) (request : TransactionRequest) :
    Except DesiredEffectError Unit :=
  if request.transactionClass ≠ .effectFrame then
    .ok ()
  else do
    (validateTransaction request).mapError .invalidTransaction
    let _ ← registry.followingRevision
    return ()

/-- The entry that one frame of an admitted request asks for. -/
def desiredFrame (request : TransactionRequest) (submission : SubmissionBinding) (revision : Nat)
    (frame : LightingFrame) : Except DesiredEffectError (EffectFrameKey × DesiredEffectFrame) :=
  match request.deviceProfiles.find? (·.deviceId = frame.deviceId) with
  | none => .error (.invalidTransaction .frameWithoutProfileBinding)
  | some deviceProfile =>
    match request.resources.find? (·.deviceId = frame.deviceId) with
    | none => .error (.invalidTransaction .frameWithoutLightingLease)
    | some resource =>
      .ok (⟨request.receiverId, request.generationId, frame.deviceId⟩,
        { clientId := request.clientId
          leaseId := request.leaseId
          receiverProfileId := request.receiverProfileId
          receiverProfileDigest := request.receiverProfileDigest
          deviceProfile := deviceProfile
          resource := resource
          frame := frame
          owner := ⟨submission.sessionId, submission.authorizationEpoch⟩
          revision := revision })

def olderEntry (left right : EffectFrameKey × DesiredEffectFrame) : EffectFrameKey × DesiredEffectFrame :=
  if right.2.revision < left.2.revision then right else left

/-- The first entry in key order among those with the smallest revision. -/
def oldest (registry : VolatileEffectRegistry) : Option EffectFrameKey :=
  match registry.entries.toList with
  | [] => none
  | entry :: entries => some (entries.foldl olderEntry entry).1

/-- The `while` loop that evicts the oldest entry until the registry is within its capacity. Each
round removes an entry, so their number bounds the rounds. -/
def evictLoop : Nat → VolatileEffectRegistry → List EffectFrameKey × VolatileEffectRegistry
  | 0, registry => ([], registry)
  | rounds + 1, registry =>
    if registry.entries.size > registry.capacity then
      match registry.oldest with
      | none => ([], registry)
      | some key =>
        let (evicted, registry) := evictLoop rounds { registry with entries := registry.entries.erase key }
        (key :: evicted, registry)
    else
      ([], registry)

def recorded (registry : VolatileEffectRegistry) (staged : List (EffectFrameKey × DesiredEffectFrame)) :
    VolatileEffectRegistry :=
  { registry with nextRevision := registry.nextRevision + 1, entries := registry.entries.insertMany staged }

def captureAdmitted (request : TransactionRequest) (submission : SubmissionBinding) :
    RegistryM EffectCapture := do
  let registry ← get
  if request.transactionClass ≠ .effectFrame then
    pure ⟨0, []⟩
  else
    lift id (registry.validateAdmission request)
    let _ ← lift id registry.followingRevision
    let staged ← lift id (request.frames.mapM (desiredFrame request submission registry.nextRevision))
    set (registry.recorded staged)
    let (evicted, kept) := evictLoop (registry.recorded staged).entries.size (registry.recorded staged)
    set kept
    pure ⟨staged.length, evicted⟩

/-- Builds a fresh single-target replay without changing the registry. -/
def planReplay (registry : VolatileEffectRegistry) (key : EffectFrameKey) (requestId : RequestId)
    (transactionId : TransactionId) (dispatchNonce : DispatchNonce) (deadlineMs : MonotonicMs) :
    Except DesiredEffectError (Option EffectReplay) :=
  match registry.entries[key]? with
  | none => .ok none
  | some desired => do
    let request : TransactionRequest := {
      requestId := requestId
      transactionId := transactionId
      clientId := desired.clientId
      leaseId := desired.leaseId
      receiverId := key.receiverId
      generationId := key.generationId
      receiverProfileId := desired.receiverProfileId
      receiverProfileDigest := desired.receiverProfileDigest
      deviceProfiles := [desired.deviceProfile]
      transactionClass := .effectFrame
      stableIntents := []
      deadlineMs := deadlineMs
      resources := [desired.resource]
      frames := [{ desired.frame with frameIndex := .lit 0 }] }
    (validateTransaction request).mapError .invalidTransaction
    return some ⟨request, desired.owner.sessionId, desired.owner.authorizationEpoch, dispatchNonce⟩

def isDefinitiveSuccess (request : TransactionRequest) (terminal : TransactionTerminal) : Bool :=
  request.frames.length ≤ u16Max ∧ terminal.requestId = request.requestId ∧
    terminal.transactionId = request.transactionId ∧ terminal.receiverId = request.receiverId ∧
    terminal.generationId = request.generationId ∧ terminal.state = .succeeded ∧
    terminal.declaredFrames.get = request.frames.length ∧
    terminal.deliveredFrames.get = request.frames.length ∧
    terminal.sideEffectCertainty = .committed ∧ terminal.liveWriteExecuted ∧
    terminal.deviceApplication ≠ .rejected ∧ terminal.errorKind = none

/-- Keeps the entries that satisfy a predicate, and counts the others. -/
def retain (keep : EffectFrameKey → DesiredEffectFrame → Bool) : RegistryM Nat := do
  let registry ← get
  let entries := registry.entries.filter keep
  set { registry with entries := entries }
  pure (registry.entries.size - entries.size)

def removeTarget (key : EffectFrameKey) : RegistryM Bool := do
  let registry ← get
  set { registry with entries := registry.entries.erase key }
  pure (registry.entries.contains key)

/-- A definitive user-authored stable write replaces the effects of the devices it paints. -/
def observeCompleted (request : TransactionRequest) (terminal : TransactionTerminal) : RegistryM Unit :=
  if request.transactionClass ≠ .staticLighting ∨ isDefinitiveSuccess request terminal = false then
    pure ()
  else do
    let _ ← each (fun frame : LightingFrame =>
      removeTarget ⟨request.receiverId, request.generationId, frame.deviceId⟩) request.frames

def removeSession (sessionId : SessionId) : RegistryM Nat :=
  retain fun _ desired => desired.owner.sessionId ≠ sessionId

def removeLease (leaseId : LeaseId) : RegistryM Nat := retain fun _ desired => desired.leaseId ≠ leaseId

def removeGeneration (receiverId : ReceiverId) (generationId : GenerationId) : RegistryM Nat :=
  retain fun key _ => key.receiverId ≠ receiverId ∨ key.generationId ≠ generationId

end VolatileEffectRegistry

end HyperfluxNext
