import HyperfluxNext.Core.Ports
import HyperfluxNext.Driver.Uapi
import HyperfluxNext.Profiles.Catalog

namespace HyperfluxNext

inductive KernelTransportErrorKind where
  | io | abiMismatch | receiverMismatch | generationMismatch | profileMismatch
  | unsupportedBackend | invalidSessionMaterial | sessionUnavailable | invalidDispatch
  | invalidNativeExchange | encoding | outcomeRetainedFailure | outcomeEvicted
  | outcomeUnavailable | outcomeConflict | nativeOutcomeUnavailable | nativeOutcomeConflict
  | kernelRejected

structure KernelTransportError where
  kind : KernelTransportErrorKind
  facts : TransportFailureFacts

def safeFacts : TransportFailureFacts := ⟨.lit 0, .none, false, true, .unverified⟩

def uncertainFacts : TransportFailureFacts := ⟨.lit 0, .possible, true, false, .unverified⟩

namespace KernelTransportError

def safe (kind : KernelTransportErrorKind) : KernelTransportError := ⟨kind, safeFacts⟩

def uncertain (kind : KernelTransportErrorKind) : KernelTransportError := ⟨kind, uncertainFacts⟩

def retained (kind : KernelTransportErrorKind) (facts : TransportFailureFacts) :
    KernelTransportError := ⟨kind, facts⟩

end KernelTransportError

def invalidDispatch : KernelTransportError := .safe .invalidDispatch

def profileMismatch : KernelTransportError := .safe .profileMismatch

def encodingError : KernelTransportError := .safe .encoding

/-- The three bytes of one carrier: red, green, blue. -/
abbrev CarrierColor := Vector UInt8 3

structure EncodedTransaction where
  frames : List HfxUapiFrame
  semanticSources : List Nat
  semanticFrameCount : Nat

def EncodedTransaction.semanticFramesCompleted (encoded : EncodedTransaction)
    (physicalFramesCompleted : Nat) : Nat :=
  let completed := min physicalFramesCompleted encoded.frames.length
  ((List.range encoded.semanticFrameCount).filter fun source =>
    let planned := encoded.semanticSources.count source
    let delivered := (encoded.semanticSources.take completed).count source
    0 < planned ∧ delivered = planned).length

structure PreparedDevice where
  kind : DeviceKind
  semanticIndex : Nat
  topology : RuntimeLightingTopology
  carriers : List CarrierColor

def hw001MaxRows : Nat := 8

def hw001PassCount : Nat := 2

def hw001InterFrameDelayUs : Nat := 2500

def hw001BetweenPassDelayUs : Nat := 50000

def writeColor (payload : Payload) (offset : Nat) (h : offset + 3 ≤ 96) (color : CarrierColor) : Payload :=
  ((payload.set offset color[0]).set (offset + 1) color[1]).set (offset + 2) color[2]

def writeColorBytes (payload : Payload) (index : Nat) : List CarrierColor → Except KernelTransportError Payload
  | [] => .ok payload
  | color :: rest =>
    if h : hw001ColorOffset + index * 3 + 3 ≤ 96 then
      writeColorBytes (writeColor payload (hw001ColorOffset + index * 3) h color) (index + 1) rest
    else .error encodingError

def payloadChecksum (payload : Payload) : UInt8 :=
  ((payload.toList.take hw001ChecksumIndex).drop 2).foldl (fun checksum value => checksum ^^^ value) 0

def writeColors (payload : Payload) (colors : List CarrierColor) : Except KernelTransportError Payload := do
  if colors.length = 0 then .error encodingError
  else if 255 < colors.length - 1 then .error encodingError
  else
    let written ← writeColorBytes (payload.set 12 (UInt8.ofNat (colors.length - 1))) 0 colors
    .ok (written.set 88 (payloadChecksum written))

def frame (payload : Payload) : HfxUapiFrame :=
  { backendId := hw001BackendId
    kind := frameKindUsbClassSetReport
    payloadLength := hw001ReportBytes
    delayAfterUs := 0
    flags := 0
    payload := payload }

def mousePayload : Payload := (((Vector.replicate 96 0).set 5 hw001MouseCommand).set 6 0x0f).set 7 0x03

def mouseFrame (carriers : List CarrierColor) : Except KernelTransportError HfxUapiFrame :=
  (writeColors mousePayload carriers).map frame

def keyboardPayload (selector : UInt8) : Payload :=
  (((((Vector.replicate 96 0).set 1 (0x80 + selector)).set 5 hw001KeyboardCommand).set 6 0x0f).set 7
    0x03).set 10 selector

def keyboardFrame (selector columns : Nat) (carriers : List CarrierColor) :
    Except KernelTransportError HfxUapiFrame :=
  let start := selector * columns
  if carriers.length < start + columns then .error encodingError
  else if 255 < selector then .error encodingError
  else if 255 < 0x80 + selector then .error encodingError
  else
    let row := (carriers.drop start).take columns
    (writeColors (keyboardPayload (UInt8.ofNat selector)) row).map frame

def validateHw001Topology (kind : DeviceKind) (topology : RuntimeLightingTopology) : Bool :=
  let carriers := topology.carrierCount.get
  match kind with
  | .mouse => topology.rows = 1 ∧ topology.columns = carriers ∧
      1 ≤ topology.columns ∧ topology.columns ≤ hw001MaxColumns
  | .keyboard => (1 ≤ topology.rows ∧ topology.rows ≤ hw001MaxRows) ∧
      (1 ≤ topology.columns ∧ topology.columns ≤ hw001MaxColumns) ∧
      topology.rows * topology.columns = carriers
  | .receiver | .mat | .unknown => false

def RgbColor.bytes (color : RgbColor) : CarrierColor :=
  #v[UInt8.ofNat color.red.get, UInt8.ofNat color.green.get, UInt8.ofNat color.blue.get]

/-- Later application slots overwrite earlier ones that map to the same carrier. -/
def paintCarriers (carriers : List CarrierColor) :
    List (RgbColor × CarrierIndex) → Except KernelTransportError (List CarrierColor)
  | [] => .ok carriers
  | (color, carrier) :: rest =>
    if carriers.length ≤ carrier.get then .error profileMismatch
    else paintCarriers (carriers.set carrier.get color.bytes) rest

def translateColors (topology : RuntimeLightingTopology) (colors : List RgbColor) :
    Except KernelTransportError (List CarrierColor) :=
  if colors.length ≠ topology.applicationSlotCount.get ∨
      colors.length ≠ topology.applicationIndexToCarrier.length then .error profileMismatch
  else
    paintCarriers (List.replicate topology.carrierCount.get (Vector.replicate 3 0))
      (colors.zip topology.applicationIndexToCarrier)

def bindingForFrame (bindings : List DeviceProfileBinding) (frame : LightingFrame) :
    Except KernelTransportError DeviceProfileBinding :=
  match bindings.find? (·.deviceId = frame.deviceId) with
  | some binding => .ok binding
  | none => .error invalidDispatch

def lightingProfile (catalog : RuntimeProfileCatalog) (receiverProtocolFamily : String)
    (binding : DeviceProfileBinding) (frame : LightingFrame) :
    Except KernelTransportError (RuntimeProfile × RuntimeLightingTopology) :=
  match catalog.profile binding.profileId with
  | none => .error profileMismatch
  | some profile =>
    match profile.lighting with
    | none => .error profileMismatch
    | some topology =>
      if profile.runtimeDigest ≠ binding.profileDigest ∨
          receiverProtocolFamily ∉ profile.receiverProtocols then .error profileMismatch
      else if u16Max < frame.colors.length then .error invalidDispatch
      else if binding.applicationSlotCount.get ≠ frame.colors.length then .error profileMismatch
      else .ok (profile, topology)

def prepareDevice (catalog : RuntimeProfileCatalog) (receiverProtocolFamily : String)
    (bindings : List DeviceProfileBinding) (prepared : List PreparedDevice) (frame : LightingFrame) :
    Except KernelTransportError PreparedDevice :=
  if frame.frameIndex.get ≠ prepared.length then .error invalidDispatch
  else do
    let binding ← bindingForFrame bindings frame
    let (profile, topology) ← lightingProfile catalog receiverProtocolFamily binding frame
    if profile.deviceKind ∈ prepared.map (·.kind) then .error invalidDispatch
    else if !validateHw001Topology profile.deviceKind topology then .error encodingError
    else
      let carriers ← translateColors topology frame.colors
      .ok ⟨profile.deviceKind, prepared.length, topology, carriers⟩

def prepareDevices (catalog : RuntimeProfileCatalog) (receiverProtocolFamily : String)
    (bindings : List DeviceProfileBinding) (prepared : List PreparedDevice) :
    List LightingFrame → Except KernelTransportError (List PreparedDevice)
  | [] => .ok prepared
  | frame :: rest => do
    let device ← prepareDevice catalog receiverProtocolFamily bindings prepared frame
    prepareDevices catalog receiverProtocolFamily bindings (prepared ++ [device]) rest

def DeviceKind.encodingRank : DeviceKind → Nat
  | .mouse => 0
  | .keyboard => 1
  | _ => 2

def encodesBefore (a b : PreparedDevice) : Bool :=
  a.kind.encodingRank < b.kind.encodingRank ∨
    a.kind.encodingRank = b.kind.encodingRank ∧ a.semanticIndex ≤ b.semanticIndex

def deviceFrameCount (device : PreparedDevice) : Except KernelTransportError Nat :=
  match device.kind with
  | .mouse => .ok 1
  | .keyboard => .ok device.topology.rows
  | _ => .error encodingError

def framesPerPass : List PreparedDevice → Except KernelTransportError Nat
  | [] => .ok 0
  | device :: rest => do
    let count ← deviceFrameCount device
    let others ← framesPerPass rest
    .ok (count + others)

def deviceFrames (device : PreparedDevice) : Except KernelTransportError (List HfxUapiFrame) :=
  match device.kind with
  | .mouse => (mouseFrame device.carriers).map fun row => [row]
  | .keyboard => (List.range device.topology.rows).mapM fun selector =>
      keyboardFrame selector device.topology.columns device.carriers
  | _ => .error encodingError

def passFrames : List PreparedDevice → Except KernelTransportError (List (HfxUapiFrame × Nat))
  | [] => .ok []
  | device :: rest => do
    let frames ← deviceFrames device
    let others ← passFrames rest
    .ok (frames.map (fun row => (row, device.semanticIndex)) ++ others)

def delayPass (lastPass : Bool) : List HfxUapiFrame → List HfxUapiFrame
  | [] => []
  | [last] => if lastPass then [last] else [{ last with delayAfterUs := hw001BetweenPassDelayUs }]
  | row :: next :: rest =>
    { row with delayAfterUs := hw001InterFrameDelayUs } :: delayPass lastPass (next :: rest)

def buildHw001Transaction (devices : List PreparedDevice) (semanticFrameCount : Nat) :
    Except KernelTransportError EncodedTransaction := do
  let perPass ← framesPerPass devices
  let frameCount := perPass * hw001PassCount
  if frameCount = 0 ∨ hfxUapiMaxFrames < frameCount then .error encodingError
  else
    let rows ← passFrames devices
    .ok
      { frames := delayPass false (rows.map Prod.fst) ++ delayPass true (rows.map Prod.fst)
        semanticSources := rows.map Prod.snd ++ rows.map Prod.snd
        semanticFrameCount := semanticFrameCount }

def encodeHw001 (catalog : RuntimeProfileCatalog) (receiverProtocolFamily : String)
    (dispatch : TransportDispatch) : Except KernelTransportError EncodedTransaction := do
  if dispatch.frames = [] ∨ dispatch.frames.length ≠ dispatch.deviceProfiles.length then
    .error invalidDispatch
  else if ¬ (dispatch.deviceProfiles.map (·.deviceId)).Nodup then .error invalidDispatch
  else
    let prepared ← prepareDevices catalog receiverProtocolFamily dispatch.deviceProfiles [] dispatch.frames
    if dispatch.deviceProfiles.length ≠ prepared.length then .error invalidDispatch
    else buildHw001Transaction (prepared.mergeSort encodesBefore) dispatch.frames.length

end HyperfluxNext
