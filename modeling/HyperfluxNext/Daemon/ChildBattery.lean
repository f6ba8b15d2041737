import HyperfluxNext.Bridge.LifecycleObservation
import HyperfluxNext.Driver.Battery

namespace HyperfluxNext

open Battery

inductive ChildBatteryLane where
  | pointer | keyboard
deriving DecidableEq

namespace ChildBatteryLane

def endpointSlot : ChildBatteryLane → Nat
  | .pointer => EndpointSlot.pointerLane
  | .keyboard => EndpointSlot.keyboardLane

def fromEndpointSlot (slot : Nat) : Option ChildBatteryLane :=
  if slot = EndpointSlot.pointerLane then some .pointer
  else if slot = EndpointSlot.keyboardLane then some .keyboard
  else none

/-- The driver's own name for the lane. -/
def kernelLane : ChildBatteryLane → LaneIndex
  | .pointer => .pointer
  | .keyboard => .keyboard

end ChildBatteryLane

inductive ChildBatteryStatus where
  | unknown | discharging | charging | full
deriving DecidableEq

def ChildBatteryStatus.uapi : ChildBatteryStatus → Nat
  | .unknown => 0
  | .discharging => 1
  | .charging => 2
  | .full => 3

def manufacturerPrefix : List Char := "Razer ".toList

def modelNameLimit : Nat := 31

/-- Printable ASCII without the manufacturer, as much as the fixed field holds. -/
def boundedModelName (modelName : String) : String :=
  let name := if manufacturerPrefix.isPrefixOf modelName.toList then
    modelName.toList.drop manufacturerPrefix.length else modelName.toList
  let bounded := (name.filter fun character => ' ' ≤ character ∧ character ≤ '~').take modelNameLimit
  String.ofList (bounded.reverse.dropWhile (· = ' ')).reverse

/-- One lane's forwarded battery state. -/
inductive ChildBatteryState where
  | absent
  | present (capacity : Nat) (status : ChildBatteryStatus) (modelName : String)
deriving DecidableEq

namespace ChildBatteryState

def presentBounded (capacity : Nat) (status : ChildBatteryStatus) (modelName : String) : ChildBatteryState :=
  .present (min capacity hfxUapiBatteryMaxCapacity) status (boundedModelName modelName)

def modelNameBytes (modelName : String) : Vector UInt8 32 :=
  let bytes := (boundedModelName modelName).toList.map fun character => UInt8.ofNat character.toNat
  Vector.ofFn fun index => bytes.getD index 0

def encode (state : ChildBatteryState) (lane : ChildBatteryLane) (generationId : GenerationId) :
    HfxUapiChildBattery :=
  let request : HfxUapiChildBattery := {
    version := hfxUapiPowerSupplyAbiVersion
    size := hfxUapiChildBatteryBytes
    receiverGeneration := generationId.get
    endpointSlot := lane.endpointSlot
    presence := presenceAbsent
    capacity := 0
    status := 0
    modelName := Vector.replicate 32 0 }
  match state with
  | .absent => request
  | .present capacity status modelName => { request with
      presence := presencePresent
      capacity := min capacity hfxUapiBatteryMaxCapacity
      status := status.uapi
      modelName := modelNameBytes modelName }

end ChildBatteryState

/-- One decoded charge state; anything the decoder cannot prove is unknown. -/
inductive ChildChargeReading where
  | unknown | charging | discharging

def ChildChargeReading.batteryCharge : ChildChargeReading → Option BatteryCharge
  | .unknown => none
  | .charging => some .charging
  | .discharging => some .discharging

/-- Full is inferred from charging at a 100 percent level. -/
def chargeStatus (capacity : Nat) : ChildChargeReading → ChildBatteryStatus
  | .charging => if 100 ≤ capacity then .full else .charging
  | .discharging => .discharging
  | .unknown => .unknown

/-- The device and its new reading, none for no battery, when the fact changes what the child lane should
publish. -/
def batteryFact : LifecycleObservationKind → Option (LogicalDeviceId × Option BatteryPercent)
  | .batteryReported deviceId percentage => some (deviceId, some percentage)
  | .batteryUnavailable deviceId => some (deviceId, none)
  | .batteryStale deviceId => some (deviceId, none)
  | .pairing deviceId value => if value = .paired then none else some (deviceId, none)
  | .route deviceId _ value => if value = .unavailable then some (deviceId, none) else none
  | _ => none

/-- How a logical device is mapped to its child lane and its catalog model name. -/
abbrev BatteryLookup := LogicalDeviceId → Option (ChildBatteryLane × String)

structure ForwardedLane where
  desired : ChildBatteryState
  published : ChildBatteryState
  charge : ChildChargeReading
  rejected : Bool
  resend : Bool

/-- The published-state mirror for one receiver endpoint. -/
structure ChildBatteryForwarder where
  lanes : ChildBatteryLane → ForwardedLane

namespace ForwardedLane

def empty : ForwardedLane := ⟨.absent, .absent, .unknown, false, false⟩

def record (reading : Option BatteryPercent) (modelName : String) (lane : ForwardedLane) : ForwardedLane :=
  match reading with
  | some capacity => { lane with
      resend := lane.rejected
      desired := .presentBounded capacity.get (chargeStatus capacity.get lane.charge) modelName }
  | none => { lane with
      resend := lane.rejected
      charge := .unknown
      desired := .absent }

def recordCharge (reading : ChildChargeReading) (lane : ForwardedLane) : ForwardedLane :=
  match lane.desired with
  | .absent => lane
  | .present capacity _ modelName => { lane with
      charge := reading
      desired := .present capacity (chargeStatus capacity reading) modelName }

def writerInstalled (lane : ForwardedLane) : ForwardedLane :=
  { lane with published := .absent, rejected := false, resend := false }

/-- Whether the next flush forwards the lane. -/
def due (lane : ForwardedLane) : Bool := ! (lane.desired = lane.published ∧ lane.resend = false)

/-- The lane after a forward and the kernel's answer to it. -/
def forwarded (ok : Bool) (lane : ForwardedLane) : ForwardedLane :=
  { lane with rejected := !ok, resend := false, published := lane.desired }

end ForwardedLane

namespace ChildBatteryForwarder

def empty : ChildBatteryForwarder := ⟨fun _ => .empty⟩

def setLane (lane : ChildBatteryLane) (value : ForwardedLane) (forwarder : ChildBatteryForwarder) :
    ChildBatteryForwarder :=
  ⟨Function.update forwarder.lanes lane value⟩

@[simp] theorem setLane_lanes (lane other : ChildBatteryLane) (value : ForwardedLane)
    (forwarder : ChildBatteryForwarder) :
    (forwarder.setLane lane value).lanes other = if other = lane then value else forwarder.lanes other :=
  Function.update_apply forwarder.lanes lane value other

def record (kind : LifecycleObservationKind) (lookup : BatteryLookup) (forwarder : ChildBatteryForwarder) :
    ChildBatteryForwarder :=
  match batteryFact kind with
  | none => forwarder
  | some (deviceId, reading) =>
    match lookup deviceId with
    | none => forwarder
    | some (lane, modelName) => forwarder.setLane lane ((forwarder.lanes lane).record reading modelName)

def recordCharge (lane : ChildBatteryLane) (reading : ChildChargeReading) (forwarder : ChildBatteryForwarder) :
    ChildBatteryForwarder :=
  forwarder.setLane lane ((forwarder.lanes lane).recordCharge reading)

def writerInstalled (forwarder : ChildBatteryForwarder) : ChildBatteryForwarder :=
  ⟨fun lane => (forwarder.lanes lane).writerInstalled⟩

def writerReleased (_ : ChildBatteryForwarder) : ChildBatteryForwarder := .empty

variable {K : Type}

/-- How the kernel answers a forward. -/
abbrev Publish (K : Type) := ChildBatteryLane → ChildBatteryState → K → Bool × K

def flushLane (publish : Publish K) (lane : ChildBatteryLane) (accepted : Nat)
    (forwarder : ChildBatteryForwarder) (kernel : K) : Nat × ChildBatteryForwarder × K :=
  if (forwarder.lanes lane).due = false then (accepted, forwarder, kernel)
  else
    let (ok, kernel) := publish lane (forwarder.lanes lane).desired kernel
    (if ok then accepted + 1 else accepted, forwarder.setLane lane ((forwarder.lanes lane).forwarded ok), kernel)

/-- Forwards every lane that is due, and counts the forwards that the kernel accepted. -/
def flush (publish : Publish K) (forwarder : ChildBatteryForwarder) (kernel : K) :
    Nat × ChildBatteryForwarder × K :=
  let (accepted, forwarder, kernel) := flushLane publish .pointer 0 forwarder kernel
  flushLane publish .keyboard accepted forwarder kernel

end ChildBatteryForwarder

section Encoding

def isPrintable (character : Char) : Bool := ' ' ≤ character ∧ character ≤ '~'

theorem boundedModelName_printable (modelName : String) :
    (boundedModelName modelName).toList.length ≤ modelNameLimit ∧
      ∀ character ∈ (boundedModelName modelName).toList, isPrintable character = true := by
  unfold boundedModelName
  rw [String.toList_ofList]
  generalize (if manufacturerPrefix.isPrefixOf modelName.toList then
    modelName.toList.drop manufacturerPrefix.length else modelName.toList) = name
  constructor
  · rw [List.length_reverse]
    apply Nat.le_trans (List.dropWhile_sublist _).length_le
    rw [List.length_reverse]
    exact List.length_take_le _ _
  intro character hmem
  rw [List.mem_reverse] at hmem
  have htaken := (List.dropWhile_sublist _).subset hmem
  rw [List.mem_reverse] at htaken
  exact (List.mem_filter.mp (List.mem_of_mem_take htaken)).2

theorem printable_byte {character : Char} (h : isPrintable character = true) :
    UInt8.ofNat character.toNat ≠ 0 ∧ 0x20 ≤ UInt8.ofNat character.toNat ∧
      UInt8.ofNat character.toNat ≤ 0x7e := by
  have hrange : 0x20 ≤ character.toNat ∧ character.toNat ≤ 0x7e := by
    unfold isPrintable at h
    have hboth := of_decide_eq_true h
    exact hboth
  have hbyte : (UInt8.ofNat character.toNat).toNat = character.toNat := by
    rw [UInt8.toNat_ofNat']
    omega
  refine ⟨?_, ?_, ?_⟩
  · intro hzero
    have := congrArg UInt8.toNat hzero
    rw [hbyte] at this
    have hcharacter : character.toNat = 0 := this
    omega
  · rw [UInt8.le_iff_toNat_le, hbyte]
    exact hrange.1
  rw [UInt8.le_iff_toNat_le, hbyte]
  exact hrange.2

theorem modelNameValid_zeros (count : Nat) : modelNameValid true (List.replicate count 0) = true := by
  induction count with
  | zero => rfl
  | succ count ih =>
    rw [List.replicate_succ]
    unfold modelNameValid
    simp [ih]

/-- Printable bytes and at least one zero after them. -/
theorem modelNameValid_padded (characters : List Char)
    (h : ∀ character ∈ characters, isPrintable character = true) (count : Nat) :
    modelNameValid false (characters.map (fun character => UInt8.ofNat character.toNat) ++
      List.replicate (count + 1) 0) = true := by
  induction characters with
  | nil =>
    rw [List.map_nil, List.nil_append, List.replicate_succ]
    unfold modelNameValid
    simp [modelNameValid_zeros]
  | cons character characters ih =>
    obtain ⟨hnonzero, hlower, hupper⟩ := printable_byte (h character List.mem_cons_self)
    have hrest := ih fun other hother => h other (List.mem_cons_of_mem _ hother)
    rw [List.map_cons, List.cons_append]
    unfold modelNameValid
    rw [if_neg hnonzero]
    simp [hlower, hupper, hrest]

/-- The fixed field holds the bounded name and at least one zero after it. -/
theorem modelNameBytes_toList (modelName : String) :
    (ChildBatteryState.modelNameBytes modelName).toList =
      (boundedModelName modelName).toList.map (fun character => UInt8.ofNat character.toNat) ++
        List.replicate (31 - (boundedModelName modelName).toList.length + 1) 0 := by
  have hlength := (boundedModelName_printable modelName).1
  unfold ChildBatteryState.modelNameBytes
  generalize (boundedModelName modelName).toList = characters at hlength ⊢
  unfold modelNameLimit at hlength
  apply List.ext_getElem
  · rw [Vector.length_toList, List.length_append, List.length_map, List.length_replicate]
    omega
  intro index hleft hright
  rw [Vector.getElem_toList, Vector.getElem_ofFn]
  by_cases hindex : index < characters.length
  · rw [List.getElem_append_left (by rw [List.length_map]; exact hindex)]
    simp [hindex]
  rw [List.getElem_append_right (by rw [List.length_map]; omega), List.getElem_replicate]
  simp [Nat.le_of_not_lt hindex]

theorem modelNameBytes_valid (modelName : String) :
    modelNameValid false (ChildBatteryState.modelNameBytes modelName).toList = true := by
  rw [modelNameBytes_toList]
  exact modelNameValid_padded _ (boundedModelName_printable modelName).2 _

theorem kernelLane_of_endpointSlot (lane : ChildBatteryLane) :
    hfxBatteryLaneIndex lane.endpointSlot = some lane.kernelLane := by
  cases lane <;> rfl

/-- Whatever the daemon forwards passes the driver's own check of it. -/
theorem encode_valid (state : ChildBatteryState) (lane : ChildBatteryLane) (generationId : GenerationId) :
    hfxBatteryCheckReport (state.encode lane generationId) = .valid := by
  cases state with
  | absent =>
    have hzeros : anyNonzero (Vector.replicate 32 0) = false := by decide +kernel
    unfold ChildBatteryState.encode hfxBatteryCheckReport
    dsimp only
    rw [kernelLane_of_endpointSlot, if_neg (by decide), if_neg (by simp), if_pos rfl, if_neg (by decide),
      if_neg (by rw [hzeros]; exact Bool.false_ne_true)]
  | present capacity status modelName =>
    have hstatus : status.uapi ≤ statusFull := by cases status <;> decide
    unfold ChildBatteryState.encode hfxBatteryCheckReport
    dsimp only
    rw [kernelLane_of_endpointSlot, if_neg (by decide), if_neg (by simp), if_neg (by decide), if_neg,
      if_pos (modelNameBytes_valid modelName)]
    rintro (hpresence | hcapacity | hfull)
    · exact hpresence rfl
    · omega
    · omega

end Encoding

end HyperfluxNext
