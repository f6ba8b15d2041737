import HyperfluxNext.Driver.Uapi
import HyperfluxNext.Library.Procedure

namespace HyperfluxNext

open Procedure

namespace Battery

def hfxUapiPowerSupplyAbiVersion : Nat := 3
def hfxUapiChildBatteryBytes : Nat := 64
def hfxUapiBatteryMaxCapacity : Nat := 100

def presenceAbsent : Nat := 0
def presencePresent : Nat := 1

def statusUnknown : Nat := 0
def statusFull : Nat := 3

structure HfxUapiChildBattery where
  version : Nat
  size : Nat
  receiverGeneration : Nat
  endpointSlot : Nat
  presence : Nat
  capacity : Nat
  status : Nat
  modelName : Vector UInt8 32

inductive LaneIndex where
  | pointer | keyboard
deriving DecidableEq

inductive BatteryCheck where
  | valid | header | slot | value | modelName
deriving DecidableEq

def hfxBatteryLaneIndex (endpointSlot : Nat) : Option LaneIndex :=
  if endpointSlot = EndpointSlot.pointerLane then some .pointer
  else if endpointSlot = EndpointSlot.keyboardLane then some .keyboard
  else none

/-- A printable name that ends within its bytes, with nothing after its end. -/
def modelNameValid : Bool → List UInt8 → Bool
  | terminated, [] => terminated
  | true, value :: rest => value = 0 ∧ modelNameValid true rest
  | false, value :: rest =>
    if value = 0 then modelNameValid true rest
    else 0x20 ≤ value ∧ value ≤ 0x7e ∧ modelNameValid false rest

def hfxBatteryCheckReport (report : HfxUapiChildBattery) : BatteryCheck :=
  if report.version ≠ hfxUapiPowerSupplyAbiVersion ∨ report.size ≠ hfxUapiChildBatteryBytes then .header
  else if hfxBatteryLaneIndex report.endpointSlot = none then .slot
  else if report.presence = presenceAbsent then
    if report.capacity ≠ 0 ∨ report.status ≠ statusUnknown then .value
    else if anyNonzero report.modelName then .modelName
    else .valid
  else if report.presence ≠ presencePresent ∨ hfxUapiBatteryMaxCapacity < report.capacity ∨
      statusFull < report.status then .value
  else if modelNameValid false report.modelName.toList then .valid
  else .modelName

/-- A bound interface of the receiver; whether hid core gave it an input device. -/
structure HidDevice where
  id : Nat
  interfaceNumber : Nat
  claimedInput : Bool
deriving DecidableEq

structure FileContext where
  id : Nat
  writer : Bool
deriving DecidableEq

structure PowerSupply where
  lane : LaneIndex
  parent : HidDevice
deriving DecidableEq

structure HfxBatteryLane where
  psy : Option PowerSupply
  hdev : Option HidDevice
  parent : Option HidDevice
  owner : Option FileContext
  capacity : Nat
  status : Nat
  modelName : Vector UInt8 32

/-- The receiver's batteries with the supplies that are registered for them; `faulted` is set where a missing
parent would be used. -/
structure BatteryReceiver where
  generation : Nat
  disconnecting : Bool
  writerContext : Option FileContext
  battery : LaneIndex → HfxBatteryLane
  batteryParent : Option HidDevice
  batteryParentInterface : Nat
  supplies : List PowerSupply
  faulted : Bool

/-- How `power_supply_register` answers for each lane: with an error, or not. -/
abbrev Registration := LaneIndex → Option Int

def hfxBatteryLaneForInterface (interfaceNumber : Nat) : Option LaneIndex :=
  match interfaceNumber with
  | 0 => some .pointer
  | 2 => some .keyboard
  | _ => none

def HfxBatteryLane.empty : HfxBatteryLane := ⟨none, none, none, none, 0, statusUnknown, Vector.replicate 32 0⟩

def hfxBatteryInit (generation : Nat) : BatteryReceiver where
  generation := generation
  disconnecting := false
  writerContext := none
  battery _ := .empty
  batteryParent := none
  batteryParentInterface := 0
  supplies := []
  faulted := false

namespace BatteryReceiver

def setLane (lane : LaneIndex) (value : HfxBatteryLane) (receiver : BatteryReceiver) : BatteryReceiver :=
  { receiver with battery := Function.update receiver.battery lane value }

@[simp] theorem setLane_battery (lane other : LaneIndex) (value : HfxBatteryLane) (receiver : BatteryReceiver) :
    (receiver.setLane lane value).battery other = if other = lane then value else receiver.battery other :=
  Function.update_apply receiver.battery lane value other

end BatteryReceiver

def hfxBatteryParent (receiver : BatteryReceiver) (lane : LaneIndex) : Option HidDevice :=
  match receiver.batteryParent with
  | some parent => some parent
  | none => (receiver.battery lane).hdev

def hfxBatteryForgetLocked (lane : LaneIndex) (receiver : BatteryReceiver) : BatteryReceiver :=
  receiver.setLane lane { receiver.battery lane with
    owner := none, capacity := 0, status := statusUnknown, modelName := Vector.replicate 32 0 }

/-- Takes the lane's supply out of the class. -/
def withdrawLocked (lane : LaneIndex) (psy : PowerSupply) (receiver : BatteryReceiver) : BatteryReceiver :=
  { receiver.setLane lane { receiver.battery lane with psy := none, parent := none } with
    supplies := receiver.supplies.erase psy }

def hfxBatteryUnregisterLocked (lane : LaneIndex) (receiver : BatteryReceiver) : BatteryReceiver :=
  match (receiver.battery lane).psy with
  | none => receiver
  | some psy => hfxBatteryForgetLocked lane (withdrawLocked lane psy receiver)

def hfxBatteryPublishLocked (registration : Registration) (lane : LaneIndex) (receiver : BatteryReceiver) :
    Option Int × BatteryReceiver :=
  match hfxBatteryParent receiver lane with
  | none => (none, { receiver with faulted := true })
  | some parent =>
    match registration lane with
    | some error => (some error, receiver)
    | none =>
      (none, { receiver.setLane lane { receiver.battery lane with
          psy := some ⟨lane, parent⟩, parent := some parent } with
        supplies := ⟨lane, parent⟩ :: receiver.supplies })

def hfxBatteryMoveLocked (registration : Registration) (lane : LaneIndex) (receiver : BatteryReceiver) :
    BatteryReceiver :=
  match (receiver.battery lane).psy with
  | none => receiver
  | some psy =>
    if (receiver.battery lane).parent = hfxBatteryParent receiver lane then receiver
    else
      match hfxBatteryPublishLocked registration lane (withdrawLocked lane psy receiver) with
      | (none, receiver) => receiver
      | (some _, receiver) => hfxBatteryForgetLocked lane receiver

def hfxBatteryMoveAllLocked (registration : Registration) (receiver : BatteryReceiver) : BatteryReceiver :=
  hfxBatteryMoveLocked registration .keyboard (hfxBatteryMoveLocked registration .pointer receiver)

abbrev BatteryM := EStateM Int BatteryReceiver

def hfxBatteryRegisterLocked (registration : Registration) (lane : LaneIndex) (context : FileContext) :
    BatteryM Unit := do
  let receiver ← get
  match hfxBatteryPublishLocked registration lane receiver with
  | (none, receiver) => set (receiver.setLane lane { receiver.battery lane with owner := some context })
  | (some error, receiver) => do
    set receiver
    throw error

/-- A new name is published through a fresh registration. -/
def renameLocked (lane : LaneIndex) (modelName : Vector UInt8 32) (receiver : BatteryReceiver) : BatteryReceiver :=
  if (receiver.battery lane).psy.isSome ∧ (receiver.battery lane).modelName ≠ modelName then
    hfxBatteryUnregisterLocked lane receiver
  else receiver

def storeLocked (lane : LaneIndex) (report : HfxUapiChildBattery) (receiver : BatteryReceiver) : BatteryReceiver :=
  receiver.setLane lane { receiver.battery lane with
    capacity := report.capacity
    status := report.status
    modelName := if (receiver.battery lane).psy = none then report.modelName
      else (receiver.battery lane).modelName }

def presentLocked (registration : Registration) (lane : LaneIndex) (context : FileContext)
    (report : HfxUapiChildBattery) : BatteryM Unit := do
  let receiver ← get
  let receiver := storeLocked lane report (renameLocked lane report.modelName receiver)
  set receiver
  if (receiver.battery lane).psy.isSome then
    set (receiver.setLane lane { receiver.battery lane with owner := some context })
  else
    hfxBatteryRegisterLocked registration lane context

def reportLocked (registration : Registration) (lane : LaneIndex) (context : FileContext)
    (report : HfxUapiChildBattery) : BatteryM Unit := do
  let receiver ← get
  refuse (receiver.disconnecting = true) (-Errno.enodev)
  refuse (receiver.writerContext ≠ some context) (-Errno.eacces)
  if report.presence = presenceAbsent then
    modify (hfxBatteryUnregisterLocked lane)
  else
    refuse ((receiver.battery lane).hdev = none) (-Errno.ehostdown)
    presentLocked registration lane context report

def hfxBatteryReport (registration : Registration) (context : FileContext)
    (userArg : Option HfxUapiChildBattery) : BatteryM Unit :=
  if context.writer = false then throw (-Errno.eacces)
  else
    match userArg with
    | none => throw (-Errno.efault)
    | some report =>
      if hfxBatteryCheckReport report = .header then throw (-Errno.eproto)
      else if hfxBatteryCheckReport report ≠ .valid then throw (-Errno.einval)
      else
        match hfxBatteryLaneIndex report.endpointSlot with
        | none => throw (-Errno.einval)
        | some lane => do
          let receiver ← get
          refuse (report.receiverGeneration ≠ receiver.generation) (-Errno.estale)
          reportLocked registration lane context report

def adoptLocked (hdev : HidDevice) (receiver : BatteryReceiver) : BatteryReceiver :=
  match hfxBatteryLaneForInterface hdev.interfaceNumber with
  | none => receiver
  | some lane => receiver.setLane lane { receiver.battery lane with hdev := some hdev }

def hfxBatteryAttachInterface (registration : Registration) (hdev : HidDevice) (receiver : BatteryReceiver) :
    BatteryReceiver :=
  let receiver := adoptLocked hdev receiver
  if hdev.claimedInput = false ∧
      (receiver.batteryParent = none ∨ hdev.interfaceNumber < receiver.batteryParentInterface) then
    hfxBatteryMoveAllLocked registration { receiver with
      batteryParent := some hdev, batteryParentInterface := hdev.interfaceNumber }
  else receiver

/-- The interface's own lane, if it has one, loses its supply and the interface. -/
def abandonLocked (interfaceNumber : Nat) (receiver : BatteryReceiver) : BatteryReceiver :=
  match hfxBatteryLaneForInterface interfaceNumber with
  | none => receiver
  | some lane =>
    let receiver := hfxBatteryUnregisterLocked lane receiver
    receiver.setLane lane { receiver.battery lane with hdev := none }

def hfxBatteryDetachInterface (registration : Registration) (interfaceNumber : Nat)
    (receiver : BatteryReceiver) : BatteryReceiver :=
  let receiver := abandonLocked interfaceNumber receiver
  if receiver.batteryParent ≠ none ∧ receiver.batteryParentInterface = interfaceNumber then
    hfxBatteryMoveAllLocked registration { receiver with batteryParent := none }
  else receiver

def releaseLane (context : FileContext) (lane : LaneIndex) (receiver : BatteryReceiver) : BatteryReceiver :=
  if (receiver.battery lane).owner = some context then hfxBatteryUnregisterLocked lane receiver
  else receiver

def hfxBatteryReleaseOwner (context : FileContext) (receiver : BatteryReceiver) : BatteryReceiver :=
  releaseLane context .keyboard (releaseLane context .pointer receiver)

def teardownLane (lane : LaneIndex) (receiver : BatteryReceiver) : BatteryReceiver :=
  let receiver := hfxBatteryUnregisterLocked lane receiver
  receiver.setLane lane { receiver.battery lane with hdev := none }

def hfxBatteryTeardown (receiver : BatteryReceiver) : BatteryReceiver :=
  { teardownLane .keyboard (teardownLane .pointer receiver) with batteryParent := none }

end Battery

end HyperfluxNext
