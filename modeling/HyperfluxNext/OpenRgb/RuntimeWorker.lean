import HyperfluxNext.OpenRgb.QueueRuns

namespace HyperfluxNext

/-- A queue configuration that the runtime can be created with. -/
structure RuntimeQueueConfig extends DispatchQueueConfig where
  stableCapacity_pos : 0 < stableCapacity
  stableCapacity_le : stableCapacity ≤ queueCapacityMaximum
  effectTargetCapacity_pos : 0 < effectTargetCapacity
  effectTargetCapacity_le : effectTargetCapacity ≤ queueCapacityMaximum
  effectWindowMs_pos : 0 < effectWindowMs

structure WorkerConfig where
  dispatchQueue : RuntimeQueueConfig
  stableCallbackWindowMs : Nat

/-- A frame that a client handed in. `number` counts the calls accepted before its own; the source keeps none. -/
structure MailedFrame where
  frame : QueuedLightingFrame
  number : Nat

def MailedFrame.stableId (mailed : MailedFrame) : String := mailed.frame.stableId

structure StableCommand where
  intent : LightingIntent
  frames : List MailedFrame
  dueAt : Nat

structure EffectCommand where
  frame : MailedFrame
  firstEnqueuedMs : Nat

/-- What client threads and the worker share. Times are in nanoseconds of the steady clock. -/
structure Mailbox where
  stableCommands : List StableCommand
  effectCommands : Std.TreeMap String EffectCommand
  stableReservations : Nat
  effectReservations : Finset String

def milliseconds (count : Nat) : Nat := count * 1000000

def disjointFrames (left right : List MailedFrame) : Bool :=
  left.all fun candidate => right.all fun value => value.stableId ≠ candidate.stableId

def containsFrame (frames : List MailedFrame) (stableId : String) : Bool := frames.any (·.stableId = stableId)

namespace Mailbox

variable (config : WorkerConfig) (box : Mailbox)

/-- The first stable command that names a controller becomes due. -/
def pullForward (stableId : String) (stableNow : Nat) : List StableCommand → List StableCommand
  | [] => []
  | command :: commands =>
    if containsFrame command.frames stableId then
      { command with dueAt := min command.dueAt stableNow } :: commands
    else command :: pullForward stableId stableNow commands

def enqueueEffect (mailed : MailedFrame) (nowMs stableNow : Nat) : EnqueueDisposition × Mailbox :=
  if mailed.frame.valid = false then (.rejectedInvalid, box) else
    let pulled := { box with stableCommands := pullForward mailed.stableId stableNow box.stableCommands }
    match box.effectCommands[mailed.stableId]? with
    | some existing =>
      (.coalesced, { pulled with
        effectCommands := box.effectCommands.insert mailed.stableId { existing with frame := mailed } })
    | none =>
      if mailed.stableId ∉ box.effectReservations ∧
          box.effectReservations.card ≥ config.dispatchQueue.effectTargetCapacity then
        (.rejectedCapacity, pulled)
      else
        (if mailed.stableId ∈ box.effectReservations then .coalesced else .accepted, { pulled with
          effectReservations := insert mailed.stableId box.effectReservations
          effectCommands := box.effectCommands.insert mailed.stableId ⟨mailed, nowMs⟩ })

def validStable (intent : LightingIntent) (frames : List MailedFrame) : Bool :=
  (intent = .static ∨ intent = .off) ∧ frames ≠ [] ∧ frames.length ≤ frameCountMaximum ∧
    frames.all (·.frame.valid) ∧ (frames.map (·.stableId)).Nodup

/-- The last stable command takes frames of the same intent, inside its window, of other controllers. -/
def mergeable (intent : LightingIntent) (frames : List MailedFrame) (now : Nat) : Bool :=
  box.stableCommands.getLast?.any fun command =>
    command.intent = intent ∧ now ≤ command.dueAt ∧ disjointFrames command.frames frames ∧
      command.frames.length ≤ frameCountMaximum - frames.length

def mergeLast (frames : List MailedFrame) : List StableCommand :=
  box.stableCommands.dropLast ++
    box.stableCommands.getLast?.toList.map fun command => { command with frames := command.frames ++ frames }

/-- The mailbox without the effects, and their reservations, of the controllers that a stable command names. -/
def withoutEffects (frames : List MailedFrame) : Mailbox :=
  { box with
    effectCommands := frames.foldl (fun commands mailed => commands.erase mailed.stableId) box.effectCommands
    effectReservations := box.effectReservations \ (frames.map (·.stableId)).toFinset }

def enqueueStable (intent : LightingIntent) (frames : List MailedFrame) (now : Nat) :
    EnqueueDisposition × Mailbox :=
  if validStable intent frames = false then (.rejectedInvalid, box)
  else if box.mergeable intent frames now = false ∧
      box.stableReservations ≥ config.dispatchQueue.stableCapacity then (.rejectedCapacity, box)
  else if box.mergeable intent frames now then
    (.coalesced, { box.withoutEffects frames with stableCommands := box.mergeLast frames })
  else
    (.accepted, { box.withoutEffects frames with
      stableCommands := box.stableCommands ++
        [⟨intent, frames, now + milliseconds config.stableCallbackWindowMs⟩]
      stableReservations := box.stableReservations + 1 })

def due (stableNow : Nat) : List StableCommand := box.stableCommands.takeWhile (·.dueAt ≤ stableNow)

def waiting (stableNow : Nat) : List StableCommand := box.stableCommands.dropWhile (·.dueAt ≤ stableNow)

end Mailbox

inductive WorkerMode where
  | running | failed | terminal
deriving DecidableEq

/-- The mailbox, the core's queue and the commands that are on their way from one to the other.
`accepted`, `handed` and `refused` are what was accepted, handed over and refused so far; the source keeps none. -/
structure RuntimeWorker where
  config : WorkerConfig
  mailbox : Mailbox
  core : DispatchQueue
  stable : List StableCommand
  effects : List EffectCommand
  mode : WorkerMode
  accepted : Nat
  handed : List MailedFrame
  refused : Nat

inductive WorkerOp where
  | enqueueEffect (frame : QueuedLightingFrame) (nowMs stableNow : Nat)
  | enqueueStable (intent : LightingIntent) (frames : List QueuedLightingFrame) (now : Nat)
  | drain (stableNow : Nat)
  | hand
  | refreshReservations
  | popReadyFor (receiverId : ReceiverId) (nowMs : Nat)
  | discardRequest (sequence : Nat)
  | discardController (stableId : String)
  | terminalizeMailbox

namespace RuntimeWorker

variable (worker : RuntimeWorker)

def new (config : WorkerConfig) : RuntimeWorker :=
  ⟨config, ⟨[], ∅, 0, ∅⟩, DispatchQueue.new config.dispatchQueue.toDispatchQueueConfig 1, [], [], .running, 0, [], 0⟩

/-- Nothing is on its way to the core. -/
def idle : Bool := worker.stable.isEmpty && worker.effects.isEmpty

/-- A call that was answered with success counts as accepted, also where it was merged into another one. -/
def answer (answered : EnqueueDisposition × Mailbox) : RuntimeWorker :=
  { worker with
    mailbox := answered.2
    accepted := if answered.1 = .accepted ∨ answered.1 = .coalesced then worker.accepted + 1 else worker.accepted }

def drain (stableNow : Nat) : RuntimeWorker :=
  { worker with
    stable := worker.mailbox.due stableNow
    effects := worker.mailbox.effectCommands.values
    mailbox := { worker.mailbox with
      stableCommands := worker.mailbox.waiting stableNow
      effectCommands := ∅ } }

/-- A refused command stops the worker, unless it is terminating anyway. -/
def settle (refused : Bool) : RuntimeWorker :=
  if refused = false then worker
  else if worker.mode = .running then
    { worker with stable := [], effects := [], mode := .failed, refused := worker.refused + 1 }
  else { worker with refused := worker.refused + 1 }

def handStable (command : StableCommand) (rest : List StableCommand) : RuntimeWorker :=
  let answered := worker.core.enqueueStable command.intent (command.frames.map (·.frame))
  settle { worker with
    core := answered.2
    stable := rest
    handed := worker.handed ++ command.frames } (answered.1 ≠ .accepted)

def handEffect (command : EffectCommand) (rest : List EffectCommand) : RuntimeWorker :=
  let answered := worker.core.enqueueEffect command.frame.frame command.firstEnqueuedMs
  settle { worker with
    core := answered.2
    effects := rest
    handed := worker.handed ++ [command.frame] } (answered.1 ≠ .accepted ∧ answered.1 ≠ .coalesced)

def hand : Option RuntimeWorker :=
  match worker.stable, worker.effects with
  | command :: rest, _ => some (worker.handStable command rest)
  | [], command :: rest => some (worker.handEffect command rest)
  | [], [] => none

def refreshReservations : RuntimeWorker :=
  { worker with
    mailbox := { worker.mailbox with
      stableReservations := worker.mailbox.stableCommands.length + worker.core.stable.length
      effectReservations := worker.core.effectTargetIds ∪ worker.mailbox.effectCommands.keys.toFinset } }

def terminalizeMailbox : RuntimeWorker :=
  { worker with
    stable := worker.mailbox.stableCommands
    effects := worker.mailbox.effectCommands.values
    mailbox := { worker.mailbox with stableCommands := [], effectCommands := ∅ }
    mode := .terminal }

/-- One step of a client thread or of the worker's own thread, where it can be taken. -/
def perform : WorkerOp → Option RuntimeWorker
  | .enqueueEffect frame nowMs stableNow =>
    if worker.mode = .running then
      some (worker.answer (worker.mailbox.enqueueEffect worker.config ⟨frame, worker.accepted⟩ nowMs stableNow))
    else none
  | .enqueueStable intent frames now =>
    if worker.mode = .running then
      some (worker.answer (worker.mailbox.enqueueStable worker.config intent (frames.map (⟨·, worker.accepted⟩)) now))
    else none
  | .drain stableNow => if worker.mode = .running ∧ worker.idle then some (worker.drain stableNow) else none
  | .hand => worker.hand
  | .refreshReservations => if worker.idle then some worker.refreshReservations else none
  | .popReadyFor receiverId nowMs =>
    if worker.idle then some { worker with core := (worker.core.popReadyFor receiverId nowMs).2 } else none
  | .discardRequest sequence =>
    if worker.idle then some { worker with core := (worker.core.discardRequest sequence).2 } else none
  | .discardController stableId =>
    if worker.idle then some { worker with core := worker.core.discardController stableId } else none
  | .terminalizeMailbox =>
    if worker.mode ≠ .terminal ∧ worker.idle then some worker.terminalizeMailbox else none

def performAll (worker : RuntimeWorker) (ops : List WorkerOp) : Option RuntimeWorker := ops.foldlM perform worker

end RuntimeWorker

end HyperfluxNext
