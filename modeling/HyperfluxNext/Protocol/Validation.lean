import HyperfluxNext.Library.Procedure
import HyperfluxNext.Protocol.Messages

namespace HyperfluxNext

open Procedure

inductive ProtocolValidationError where
  | emptyResources | tooManyResources | duplicateResource | resourcesNotCanonical
  | emptyFrames | tooManyFrames | duplicateFrameIndex | duplicateFrameTarget
  | nonCanonicalFrameOrder | emptyProfileBindings | tooManyProfileBindings
  | duplicateProfileBinding | profileBindingsNotCanonical | zeroApplicationSlots
  | frameWithoutProfileBinding | profileBindingWithoutFrame | frameColorCountMismatch
  | tooManyStableIntents | duplicateStableIntent | stableIntentsNotCanonical
  | stableIntentWithoutFrame | frameWithoutStableIntent | stableIntentOnNonStableTransaction
  | offIntentHasLitColor | emptyColors | tooManyColors | tooManyAggregateColors
  | frameWithoutLightingLease | resourceWithoutFrame | resourceOutsideTransactionGeneration
  | unsupportedTransactionClass
deriving DecidableEq

/-- Some pair of neighbours is out of the strict order that canonical lists keep. -/
def anyWindowUnordered {α : Type} [Ord α] : List α → Bool
  | a :: b :: rest => compare a b != .lt || anyWindowUnordered (b :: rest)
  | _ => false

def validateResources (resources : List ResourceKey) : Except ProtocolValidationError Unit := do
  reject (resources = []) .emptyResources
  reject (resources.length > 32) .tooManyResources
  reject (¬ resources.Nodup) .duplicateResource
  reject (anyWindowUnordered resources) .resourcesNotCanonical

def validateLeaseRequest (request : LeaseRequest) : Except ProtocolValidationError Unit :=
  validateResources request.resources

def validateTransactionScope (request : TransactionRequest) : Except ProtocolValidationError Unit := do
  reject (request.transactionClass ∉ [.effectFrame, .staticLighting, .restore]) .unsupportedTransactionClass
  reject (request.resources.any fun resource =>
    resource.receiverId != request.receiverId || resource.generationId != request.generationId)
    .resourceOutsideTransactionGeneration

/-- Returns the set of frame targets, which the later checks compare with the bindings. -/
def validateFrameTopology (request : TransactionRequest) :
    Except ProtocolValidationError (List LogicalDeviceId) := do
  reject (request.frames = []) .emptyFrames
  reject (request.frames.length > 32) .tooManyFrames
  reject (¬ (request.frames.map (·.frameIndex)).Nodup) .duplicateFrameIndex
  reject (request.frames.zipIdx.any fun (frame, index) =>
    index > u32Max || frame.frameIndex.get != index) .nonCanonicalFrameOrder
  reject (¬ (request.frames.map (·.deviceId)).Nodup) .duplicateFrameTarget
  return request.frames.map (·.deviceId)

def validateProfileBindings (request : TransactionRequest) (frameDevices : List LogicalDeviceId) :
    Except ProtocolValidationError Unit := do
  let profileDevices := request.deviceProfiles.map (·.deviceId)
  reject (request.deviceProfiles = []) .emptyProfileBindings
  reject (request.deviceProfiles.length > 32) .tooManyProfileBindings
  reject (¬ profileDevices.Nodup) .duplicateProfileBinding
  reject (anyWindowUnordered profileDevices) .profileBindingsNotCanonical
  reject (request.deviceProfiles.any (·.applicationSlotCount.get == 0)) .zeroApplicationSlots
  reject (frameDevices.any (· ∉ profileDevices)) .frameWithoutProfileBinding
  reject (profileDevices.any (· ∉ frameDevices)) .profileBindingWithoutFrame

/-- The frame loop, carrying the colours counted so far. -/
def validateFramePayloads (bindings : List DeviceProfileBinding) :
    List LightingFrame → Nat → Except ProtocolValidationError Unit
  | [], _ => return ()
  | frame :: frames, aggregateColors => do
    reject (frame.colors = []) .emptyColors
    reject (frame.colors.length > 4096) .tooManyColors
    reject (aggregateColors + frame.colors.length > 16384) .tooManyAggregateColors
    match bindings.find? (·.deviceId = frame.deviceId) with
    | none => throw .frameWithoutProfileBinding
    | some binding =>
      reject (binding.applicationSlotCount.get ≠ frame.colors.length) .frameColorCountMismatch
      validateFramePayloads bindings frames (aggregateColors + frame.colors.length)

def validateOffIntents (frames : List LightingFrame) :
    List StableLightingIntent → Except ProtocolValidationError Unit
  | [] => return ()
  | intent :: intents => do
    if intent.mode = .off then
      match frames.find? (·.deviceId = intent.deviceId) with
      | none => throw .stableIntentWithoutFrame
      | some frame =>
        reject (frame.colors.any fun color =>
          color.red.get != 0 || color.green.get != 0 || color.blue.get != 0) .offIntentHasLitColor
        validateOffIntents frames intents
    else
      validateOffIntents frames intents

def validateStableIntents (request : TransactionRequest) (frameDevices : List LogicalDeviceId) :
    Except ProtocolValidationError Unit :=
  let intentDevices := request.stableIntents.map (·.deviceId)
  if request.transactionClass ≠ .staticLighting then
    reject (request.stableIntents ≠ []) .stableIntentOnNonStableTransaction
  else do
    reject (request.stableIntents.length > 32) .tooManyStableIntents
    reject (¬ intentDevices.Nodup) .duplicateStableIntent
    reject (anyWindowUnordered intentDevices) .stableIntentsNotCanonical
    reject (intentDevices.any (· ∉ frameDevices)) .stableIntentWithoutFrame
    reject (frameDevices.any (· ∉ intentDevices)) .frameWithoutStableIntent
    validateOffIntents request.frames request.stableIntents

def validateResourceCoverage (request : TransactionRequest) (frameDevices : List LogicalDeviceId) :
    Except ProtocolValidationError Unit := do
  reject (request.frames.any fun frame =>
    (⟨request.receiverId, request.generationId, frame.deviceId, .lighting⟩ : ResourceKey)
      ∉ request.resources) .frameWithoutLightingLease
  reject (request.resources.any fun resource =>
    resource.kind != .lighting || resource.deviceId ∉ frameDevices) .resourceWithoutFrame

def validateTransaction (request : TransactionRequest) : Except ProtocolValidationError Unit := do
  validateResources request.resources
  validateTransactionScope request
  let frameDevices ← validateFrameTopology request
  validateProfileBindings request frameDevices
  validateFramePayloads request.deviceProfiles request.frames 0
  validateStableIntents request frameDevices
  validateResourceCoverage request frameDevices

/-- An accepted request carries between one and thirty-two frames. -/
theorem validateTransaction_frames {request : TransactionRequest} (h : validateTransaction request = .ok ()) :
    1 ≤ request.frames.length ∧ request.frames.length ≤ 32 := by
  unfold validateTransaction at h
  obtain ⟨_, _, h⟩ := bind_eq_ok h
  obtain ⟨_, _, h⟩ := bind_eq_ok h
  obtain ⟨devices, ht, _⟩ := bind_eq_ok h
  unfold validateFrameTopology at ht
  obtain ⟨_, hempty, ht⟩ := bind_eq_ok ht
  obtain ⟨_, hmany, _⟩ := bind_eq_ok ht
  have hne := List.length_pos_iff.mpr (reject_eq_ok hempty)
  have hle := reject_eq_ok hmany
  omega

end HyperfluxNext
