import HyperfluxNext.Library.OrderedMaps
import HyperfluxNext.Library.RoundRobin
import HyperfluxNext.Protocol.Messages
import Mathlib.Data.String.Basic

namespace HyperfluxNext

inductive LightingIntent where
  | effectFrame | static | off
deriving DecidableEq

structure QueuedLightingFrame where
  receiverId : ReceiverId
  generationId : GenerationId
  stableId : String
  expectedSlotCount : Nat
  colors : List RgbColor

structure DispatchTarget where
  receiverId : ReceiverId
  generationId : GenerationId
  stableId : String
  expectedSlotCount : Nat

structure DispatchBatch where
  sequence : Nat
  receiverId : ReceiverId
  intent : LightingIntent
  frames : List QueuedLightingFrame
  targets : List DispatchTarget

structure DispatchQueueConfig where
  stableCapacity : Nat
  effectTargetCapacity : Nat
  effectWindowMs : Nat

inductive EnqueueDisposition where
  | accepted | coalesced | rejectedInvalid | rejectedCapacity
deriving DecidableEq

def ledCountMaximum : Nat := 4096

def frameCountMaximum : Nat := 4096

def queueCapacityMaximum : Nat := 4096

def receiverKey (receiverId : ReceiverId) : String := receiverId.asStr

def dueAt (nowMs windowMs : Nat) : Nat :=
  if nowMs > u64Max - windowMs then u64Max else nowMs + windowMs

def QueuedLightingFrame.target (frame : QueuedLightingFrame) : DispatchTarget :=
  ⟨frame.receiverId, frame.generationId, frame.stableId, frame.expectedSlotCount⟩

def QueuedLightingFrame.key (frame : QueuedLightingFrame) : String := receiverKey frame.receiverId

def QueuedLightingFrame.valid (frame : QueuedLightingFrame) : Bool :=
  frame.stableId ≠ "" ∧ frame.expectedSlotCount > 0 ∧ frame.expectedSlotCount ≤ ledCountMaximum ∧
    frame.colors.length = frame.expectedSlotCount

def sortTargets (targets : List DispatchTarget) : List DispatchTarget :=
  targets.mergeSort fun left right => left.stableId ≤ right.stableId

/-- The targets without a controller's. -/
def withoutTarget (stableId : String) (targets : List DispatchTarget) : List DispatchTarget :=
  targets.filter (·.stableId ≠ stableId)

/-- Subtraction of a 64-bit size. -/
def sizeSub (size count : Nat) : Nat := (size + (u64Max + 1) - count) % (u64Max + 1)

structure StableRequest where
  sequence : Nat
  intent : LightingIntent
  receiverFrames : Std.TreeMap String (List QueuedLightingFrame)
  targets : List DispatchTarget

abbrev EffectGroup := Std.TreeMap String QueuedLightingFrame

structure EffectRequest where
  sequence : Nat
  receiverFrames : Std.TreeMap String EffectGroup
  targets : List DispatchTarget
  dueMs : Nat
  started : Bool

/-- The application's queue in front of one bridge client. -/
structure DispatchQueue where
  config : DispatchQueueConfig
  nextSequence : Nat
  sequenceExhausted : Bool
  stable : List StableRequest
  effects : List EffectRequest
  effectTargetSize : Nat
  lastReceiverKey : Option String

namespace EffectRequest

/-- The receiver under whose key a controller has a frame here. -/
def holder (stableId : String) (request : EffectRequest) : Option String :=
  (request.receiverFrames.toList.find? fun entry => entry.2.contains stableId).map (·.1)

def group (key : String) (request : EffectRequest) : EffectGroup := request.receiverFrames.getD key ∅

/-- Another frame for a controller that has one here. -/
def replace (key : String) (frame : QueuedLightingFrame) (request : EffectRequest) : EffectRequest :=
  { request with
    receiverFrames := request.receiverFrames.insert key ((request.group key).insert frame.stableId frame)
    targets := match request.targets.findIdx? (·.stableId = frame.stableId) with
      | none => request.targets
      | some index => sortTargets (request.targets.set index frame.target) }

def add (frame : QueuedLightingFrame) (request : EffectRequest) : EffectRequest :=
  { request with
    targets := sortTargets (request.targets ++ [frame.target])
    receiverFrames := request.receiverFrames.insert frame.key
      ((request.group frame.key).insertIfNew frame.stableId frame) }

def withoutGroup (key : String) (request : EffectRequest) : EffectRequest :=
  { request with receiverFrames := request.receiverFrames.erase key }

def without (key stableId : String) (request : EffectRequest) : EffectRequest :=
  let group := (request.group key).erase stableId
  { request with
    targets := withoutTarget stableId request.targets
    receiverFrames := if group.isEmpty then request.receiverFrames.erase key
      else request.receiverFrames.insert key group }

/-- A group as a batch. Of an empty group the source would read a first frame that is not there. -/
def batch (group : EffectGroup) (request : EffectRequest) : Option DispatchBatch :=
  group.values.head?.map fun first =>
    ⟨request.sequence, first.receiverId, .effectFrame, group.values, request.targets⟩

end EffectRequest

namespace StableRequest

def batch (frames : List QueuedLightingFrame) (request : StableRequest) : Option DispatchBatch :=
  frames.head?.map fun first => ⟨request.sequence, first.receiverId, request.intent, frames, request.targets⟩

def withoutGroup (key : String) (request : StableRequest) : StableRequest :=
  { request with receiverFrames := request.receiverFrames.erase key }

/-- The request without a controller's frames and target, and without the groups that this leaves empty. -/
def without (stableId : String) (request : StableRequest) : StableRequest :=
  { request with
    targets := withoutTarget stableId request.targets
    receiverFrames := (request.receiverFrames.map fun _ frames =>
      frames.filter (·.stableId ≠ stableId)).filter fun _ frames => frames ≠ [] }

end StableRequest

/-- The frames of a stable request by receiver, each receiver's in the order they came in. -/
def groupByReceiver (frames : List QueuedLightingFrame) : Std.TreeMap String (List QueuedLightingFrame) :=
  frames.foldl (fun groups frame => groups.insert frame.key (groups.getD frame.key [] ++ [frame])) ∅

namespace DispatchQueue

variable (queue : DispatchQueue)

def new (config : DispatchQueueConfig) (initialSequence : Nat) : DispatchQueue :=
  ⟨config, initialSequence, false, [], [], 0, none⟩

def takeSequence : Option (Nat × DispatchQueue) :=
  if queue.sequenceExhausted then none
  else some (queue.nextSequence, if queue.nextSequence = u64Max then { queue with sequenceExhausted := true }
    else { queue with nextSequence := queue.nextSequence + 1 })

/-- Replaces the frame that a controller has queued, if it has one, unless it is another receiver's. -/
def coalesce (frame : QueuedLightingFrame) :
    List EffectRequest → Option (EnqueueDisposition × List EffectRequest)
  | [] => none
  | request :: requests =>
    match request.holder frame.stableId with
    | some key =>
      if key ≠ frame.key then some (.rejectedInvalid, request :: requests)
      else some (.coalesced, request.replace key frame :: requests)
    | none => (coalesce frame requests).map fun coalesced => (coalesced.1, request :: coalesced.2)

/-- The queue with an effect request at its end that can still grow. -/
def openEffect (nowMs : Nat) : Option DispatchQueue :=
  if queue.effects.getLast?.all (·.started) then
    queue.takeSequence.map fun taken => { taken.2 with
      effects := taken.2.effects ++ [⟨taken.1, ∅, [], dueAt nowMs queue.config.effectWindowMs, false⟩] }
  else some queue

def enqueueEffect (frame : QueuedLightingFrame) (nowMs : Nat) : EnqueueDisposition × DispatchQueue :=
  if frame.valid = false ∨ queue.config.effectTargetCapacity = 0 ∨
      queue.config.effectTargetCapacity > queueCapacityMaximum ∨ queue.config.effectWindowMs = 0 then
    (.rejectedInvalid, queue)
  else
    match coalesce frame queue.effects with
    | some (disposition, effects) => (disposition, { queue with effects := effects })
    | none =>
      if queue.effectTargetSize ≥ queue.config.effectTargetCapacity then (.rejectedCapacity, queue) else
        match queue.openEffect nowMs with
        | none => (.rejectedCapacity, queue)
        | some opened =>
          (.accepted, { opened with
            effects := opened.effects.dropLast ++ opened.effects.getLast?.toList.map (·.add frame)
            effectTargetSize := opened.effectTargetSize + 1 })

def withoutEffect (stableId : String) : List EffectRequest → Option (List EffectRequest)
  | [] => none
  | request :: requests =>
    match request.holder stableId with
    | none => (withoutEffect stableId requests).map (request :: ·)
    | some key =>
      if (request.without key stableId).receiverFrames.isEmpty then some requests
      else some (request.without key stableId :: requests)

def eraseEffectTarget (stableId : String) : DispatchQueue :=
  match withoutEffect stableId queue.effects with
  | none => queue
  | some effects => { queue with effects := effects, effectTargetSize := sizeSub queue.effectTargetSize 1 }

def enqueueStable (intent : LightingIntent) (frames : List QueuedLightingFrame) :
    EnqueueDisposition × DispatchQueue :=
  if (intent ≠ .static ∧ intent ≠ .off) ∨ frames = [] ∨ frames.length > frameCountMaximum ∨
      queue.config.stableCapacity = 0 ∨ queue.config.stableCapacity > queueCapacityMaximum ∨
      queue.stable.length ≥ queue.config.stableCapacity then
    (if queue.stable.length ≥ queue.config.stableCapacity then .rejectedCapacity else .rejectedInvalid, queue)
  else if frames.all (·.valid) = false ∨ ¬ (frames.map (·.stableId)).Nodup then (.rejectedInvalid, queue)
  else
    match queue.takeSequence with
    | none => (.rejectedCapacity, queue)
    | some (sequence, taken) =>
      let erased := frames.foldl (fun queue frame => queue.eraseEffectTarget frame.stableId) taken
      let groups := groupByReceiver frames
      (.accepted, { erased with
        stable := erased.stable ++
          [⟨sequence, intent, groups, sortTargets (groups.values.flatten.map (·.target))⟩] })

def stableReceivers : Finset String := (queue.stable.flatMap (·.receiverFrames.keys)).toFinset

/-- The receivers with a batch to send. Effects wait behind stable requests of their receiver. -/
def readyReceivers (nowMs : Nat) (blocked : Finset String) : Finset String :=
  (queue.stableReceivers \ blocked) ∪
    (((queue.effects.filter fun request => request.dueMs ≤ nowMs).flatMap
      (·.receiverFrames.keys)).toFinset \ queue.stableReceivers) \ blocked

def selectReadyReceiver (nowMs : Nat) (blocked : Finset String) : Option String :=
  RoundRobin.nextTurn (queue.readyReceivers nowMs blocked) queue.lastReceiverKey

def findStable (key : String) : List StableRequest → Option (StableRequest × List QueuedLightingFrame)
  | [] => none
  | request :: requests =>
    match request.receiverFrames[key]? with
    | some frames => some (request, frames)
    | none => findStable key requests

def findEffect (key : String) (nowMs : Nat) : List EffectRequest → Option (EffectRequest × EffectGroup)
  | [] => none
  | request :: requests =>
    match request.receiverFrames[key]? with
    | some group => if nowMs < request.dueMs then findEffect key nowMs requests else some (request, group)
    | none => findEffect key nowMs requests

def previewReady (nowMs : Nat) (blocked : Finset String) : Option DispatchBatch :=
  match queue.selectReadyReceiver nowMs blocked with
  | none => none
  | some key =>
    match findStable key queue.stable with
    | some (request, frames) => request.batch frames
    | none =>
      match findEffect key nowMs queue.effects with
      | some (request, group) => request.batch group
      | none => none

def popStable (key : String) : List StableRequest → List StableRequest
  | [] => []
  | request :: requests =>
    if key ∈ request.receiverFrames then
      if (request.withoutGroup key).receiverFrames.isEmpty then requests
      else request.withoutGroup key :: requests
    else request :: popStable key requests

def popEffect (key : String) (nowMs : Nat) : List EffectRequest → List EffectRequest
  | [] => []
  | request :: requests =>
    if key ∈ request.receiverFrames ∧ ¬ nowMs < request.dueMs then
      if (request.withoutGroup key).receiverFrames.isEmpty then requests
      else { request.withoutGroup key with started := true } :: requests
    else request :: popEffect key nowMs requests

def popReadyFor (receiverId : ReceiverId) (nowMs : Nat) : Option DispatchBatch × DispatchQueue :=
  let key := receiverKey receiverId
  match findStable key queue.stable with
  | some (request, frames) =>
    (request.batch frames, { queue with
      stable := popStable key queue.stable
      lastReceiverKey := some key })
  | none =>
    match findEffect key nowMs queue.effects with
    | some (request, group) =>
      (request.batch group, { queue with
        effects := popEffect key nowMs queue.effects
        effectTargetSize := sizeSub queue.effectTargetSize group.size
        lastReceiverKey := some key })
    | none => (none, queue)

def effectTargetIds : Finset String :=
  (queue.effects.flatMap fun request => request.receiverFrames.values.flatMap (·.keys)).toFinset

def discardRequest (sequence : Nat) : List DispatchBatch × DispatchQueue :=
  match queue.stable.find? (·.sequence = sequence) with
  | some request =>
    (request.receiverFrames.values.filterMap fun frames => request.batch frames,
      { queue with stable := queue.stable.eraseP (·.sequence = sequence) })
  | none =>
    match queue.effects.find? (·.sequence = sequence) with
    | some request =>
      (request.receiverFrames.values.filterMap fun group => request.batch group,
        { queue with
          effects := queue.effects.eraseP (·.sequence = sequence)
          effectTargetSize := request.receiverFrames.values.foldl
            (fun size group => sizeSub size group.size) queue.effectTargetSize })
    | none => ([], queue)

def clear : DispatchQueue :=
  { queue with stable := [], effects := [], effectTargetSize := 0, lastReceiverKey := none }

def discardController (stableId : String) : DispatchQueue :=
  let erased := queue.eraseEffectTarget stableId
  { erased with
    stable := (erased.stable.map (·.without stableId)).filter fun request =>
      request.receiverFrames.isEmpty = false }

end DispatchQueue

end HyperfluxNext
