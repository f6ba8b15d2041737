import HyperfluxNext.Daemon.ChildBattery
import HyperfluxNext.Driver.BatteryForwards

namespace HyperfluxNext

open Procedure Battery ChildBatteryForwarder

namespace BatteryForwarding

/-- The daemon's mirror of one receiver with the driver it forwards to, and the writer file it has open. -/
structure BatterySystem where
  forwarder : ChildBatteryForwarder
  driver : BatteryRun
  writer : Option FileContext

open BatterySystem

inductive ForwardOp where
  | record (kind : LifecycleObservationKind) (lookup : BatteryLookup)
  | recordCharge (lane : ChildBatteryLane) (reading : ChildChargeReading)
  | flush (registration : Registration)
  | install (context : FileContext)
  | release
  | attach (hdev : HidDevice) (registration : Registration)
  | detach (interfaceNumber : Nat) (registration : Registration)

def isOk {ε σ α : Type} : EStateM.Result ε σ α → Bool
  | .ok _ _ => true
  | .error _ _ => false

/-- A forward through the writer file. -/
def publishChildBattery (generationId : GenerationId) (registration : Registration) (context : FileContext) :
    ChildBatteryForwarder.Publish BatteryRun :=
  fun lane state run =>
    (isOk (hfxBatteryReport registration context (some (state.encode lane generationId)) run.receiver),
      run.perform (.report context (some (state.encode lane generationId)) registration))

namespace BatterySystem

def start (generationId : GenerationId) : BatterySystem :=
  ⟨.empty, ⟨hfxBatteryInit generationId.get, [], []⟩, none⟩

/-- Without a writer file nothing is forwarded. -/
def flush (generationId : GenerationId) (registration : Registration) (system : BatterySystem) : BatterySystem :=
  match system.writer with
  | none => system
  | some context =>
    let (_, forwarder, driver) :=
      system.forwarder.flush (publishChildBattery generationId registration context) system.driver
    { system with forwarder := forwarder, driver := driver }

def install (context : FileContext) (system : BatterySystem) : BatterySystem :=
  if system.writer.isSome ∨ system.driver.receiver.writerContext.isSome ∨ context.writer = false then system
  else
    { forwarder := system.forwarder.writerInstalled
      driver := system.driver.perform (.authority system.driver.receiver.disconnecting (some context))
      writer := some context }

/-- Closing the writer file ends its authority and takes what it published. -/
def release (system : BatterySystem) : BatterySystem :=
  match system.writer with
  | none => { system with forwarder := system.forwarder.writerReleased }
  | some context =>
    { forwarder := system.forwarder.writerReleased
      driver := (system.driver.perform (.authority system.driver.receiver.disconnecting none)).perform
        (.releaseOwner context)
      writer := none }

def perform (generationId : GenerationId) (system : BatterySystem) : ForwardOp → BatterySystem
  | .record kind lookup => { system with forwarder := system.forwarder.record kind lookup }
  | .recordCharge lane reading => { system with forwarder := system.forwarder.recordCharge lane reading }
  | .flush registration => system.flush generationId registration
  | .install context => system.install context
  | .release => system.release
  | .attach hdev registration => { system with driver := system.driver.perform (.attach hdev registration) }
  | .detach interfaceNumber registration =>
    { system with driver := system.driver.perform (.detach interfaceNumber registration) }

def run (generationId : GenerationId) (ops : List ForwardOp) : BatterySystem :=
  ops.foldl (fun system op => system.perform generationId op) (start generationId)

end BatterySystem

section Forwards

variable {generationId : GenerationId} {registration : Registration} {context : FileContext}
  {lane : ChildBatteryLane} {state : ChildBatteryState} {driver : BatteryRun}

theorem report_encoded (hauthority : driver.receiver.authority = (generationId.get, false, some context))
    (hwriter : context.writer = true) (registration : Registration) (lane : ChildBatteryLane)
    (state : ChildBatteryState) :
    hfxBatteryReport registration context (some (state.encode lane generationId)) driver.receiver =
      reportLocked registration lane.kernelLane context (state.encode lane generationId) driver.receiver := by
  have hgeneration : (state.encode lane generationId).receiverGeneration = driver.receiver.generation := by
    have hmine : driver.receiver.generation = generationId.get := congrArg Prod.fst hauthority
    rw [hmine]
    cases state <;> rfl
  have hslot : hfxBatteryLaneIndex (state.encode lane generationId).endpointSlot = some lane.kernelLane := by
    rw [← kernelLane_of_endpointSlot]
    cases state <;> rfl
  unfold hfxBatteryReport
  rw [if_neg (by rw [hwriter]; exact Bool.noConfusion)]
  dsimp only
  rw [encode_valid, if_neg (by decide), if_neg (by simp), hslot]
  show EStateM.bind (refuse _ _) _ driver.receiver = _
  unfold refuse
  rw [if_neg (not_not.mpr hgeneration)]
  rfl

theorem reportLocked_outcome
    (hauthority : driver.receiver.authority = (generationId.get, false, some context))
    (hstate : state ≠ .absent) (hbound : (driver.receiver.battery lane.kernelLane).hdev ≠ none) :
    Holds (reportLocked registration lane.kernelLane context (state.encode lane generationId)) driver.receiver
      (fun _ after => Displays (after.battery lane.kernelLane) (state.encode lane generationId) ∧
        (Registered driver.receiver lane.kernelLane (state.encode lane generationId).modelName ∨
          registration lane.kernelLane = none))
      (fun _ after => (after.battery lane.kernelLane).psy = none ∧
        ¬Registered driver.receiver lane.kernelLane (state.encode lane generationId).modelName ∧
        registration lane.kernelLane ≠ none) := by
  have hrunning : driver.receiver.disconnecting = false := congrArg (fun a => a.2.1) hauthority
  have hcontext : driver.receiver.writerContext = some context := congrArg (fun a => a.2.2) hauthority
  have hpresent : (state.encode lane generationId).presence ≠ presenceAbsent := by
    cases state with
    | absent => exact absurd rfl hstate
    | present capacity status modelName => exact Nat.one_ne_zero
  unfold reportLocked
  rw [holds_bind, holds_get, holds_bind, holds_refuse]
  refine ⟨fun hdisconnecting => ?_, fun _ => ?_⟩
  · rw [hrunning] at hdisconnecting
    cases hdisconnecting
  rw [holds_bind, holds_refuse]
  refine ⟨fun hother => absurd hcontext hother, fun _ => ?_⟩
  rw [if_neg hpresent, holds_bind, holds_refuse]
  refine ⟨fun hnone => absurd hnone hbound, fun _ => ?_⟩
  apply holds_mono (present_outcome hbound registration context _)
  · intro _ after h
    exact h.2
  intro _ after h
  exact h.2

structure Forwarded (generationId : GenerationId) (registration : Registration) (context : FileContext)
    (lane : ChildBatteryLane) (state : ChildBatteryState) (driver : BatteryRun) (ok : Bool)
    (after : BatteryRun) : Prop where
  settled : Settled after.attached after.accepted after.receiver
  frame : ReportFrame lane.kernelLane driver.receiver after.receiver
  accepted : after.accepted = (if ok then [⟨lane.kernelLane, context, state.encode lane generationId⟩] else []) ++
    driver.accepted
  displays : state ≠ .absent → (driver.receiver.battery lane.kernelLane).hdev ≠ none →
    (Displays (after.receiver.battery lane.kernelLane) (state.encode lane generationId) ↔
      (¬Registered driver.receiver lane.kernelLane (state.encode lane generationId).modelName →
        registration lane.kernelLane = none))

theorem publish_forwarded (hsettled : Settled driver.attached driver.accepted driver.receiver)
    (hauthority : driver.receiver.authority = (generationId.get, false, some context))
    (hwriter : context.writer = true) (registration : Registration) (lane : ChildBatteryLane)
    (state : ChildBatteryState) :
    Forwarded generationId registration context lane state driver
      (publishChildBattery generationId registration context lane state driver).1
      (publishChildBattery generationId registration context lane state driver).2 := by
  have hafter := perform_settled hsettled (.report context (some (state.encode lane generationId)) registration)
  have hframe : Ensures (reportLocked registration lane.kernelLane context (state.encode lane generationId))
      driver.receiver (ReportFrame lane.kernelLane driver.receiver) :=
    reportLocked_frame registration lane.kernelLane context (state.encode lane generationId) driver.receiver
  have hslot : hfxBatteryLaneIndex (state.encode lane generationId).endpointSlot = some lane.kernelLane := by
    rw [← kernelLane_of_endpointSlot]
    cases state <;> rfl
  unfold publishChildBattery
  unfold BatteryRun.perform at hafter ⊢
  dsimp only at hafter ⊢
  rw [report_encoded hauthority hwriter] at hafter ⊢
  have houtcome := fun hstate hbound => @reportLocked_outcome generationId registration context lane state driver
    hauthority hstate hbound
  cases hresult : reportLocked registration lane.kernelLane context (state.encode lane generationId)
      driver.receiver with
  | ok answer receiver =>
    rw [hresult] at hafter
    have hsame := holds_ok hframe hresult
    refine ⟨hafter, hsame, ?_, ?_⟩
    · simp [acceptedOf, hslot, isOk]
    intro hstate hbound
    obtain ⟨hdisplays, hregistered⟩ := holds_ok (houtcome hstate hbound) hresult
    constructor
    · intro _ hnot
      rcases hregistered with hheld | hnone
      · exact absurd hheld hnot
      · exact hnone
    intro _
    exact hdisplays
  | error error receiver =>
    rw [hresult] at hafter
    have hsame := holds_error hframe hresult
    refine ⟨hafter, hsame, ?_, ?_⟩
    · simp [isOk]
    intro hstate hbound
    obtain ⟨hnone, hnot, hfailed⟩ := holds_error (houtcome hstate hbound) hresult
    constructor
    · intro hdisplays
      exact absurd hnone hdisplays.published
    intro hregistered
    exact absurd (hregistered hnot) hfailed

end Forwards

/-- The last forward that the driver took over is the one the mirror remembers. -/
def Remembers (generationId : GenerationId) (system : BatterySystem) (lane : ChildBatteryLane) : Prop :=
  (system.forwarder.lanes lane).rejected = false → (system.forwarder.lanes lane).published ≠ .absent →
    ∃ entry, lastAccepted lane.kernelLane system.driver.accepted = some entry ∧
      entry.report = (system.forwarder.lanes lane).published.encode lane generationId

structure Tracked (generationId : GenerationId) (system : BatterySystem) : Prop where
  settled : Settled system.driver.attached system.driver.accepted system.driver.receiver
  authority : system.driver.receiver.authority = (generationId.get, false, system.writer)
  writer : ∀ context, system.writer = some context → context.writer = true
  memory : ∀ lane, Remembers generationId system lane

variable {other : ChildBatteryLane}

section Invariant

variable {generationId : GenerationId} {system : BatterySystem}

variable {lane : ChildBatteryLane} {context : FileContext} {registration : Registration}

theorem kernelLane_injective (h : lane.kernelLane = other.kernelLane) :
    lane = other := by
  cases lane <;> cases other <;> first | rfl | cases h

def flushOne (generationId : GenerationId) (registration : Registration) (context : FileContext)
    (lane : ChildBatteryLane) (system : BatterySystem) : BatterySystem :=
  let flushed := flushLane (publishChildBattery generationId registration context) lane 0
    system.forwarder system.driver
  { system with forwarder := flushed.2.1, driver := flushed.2.2 }

theorem flushLane_accepted (publish : ChildBatteryForwarder.Publish BatteryRun) (lane : ChildBatteryLane)
    (accepted : Nat) (forwarder : ChildBatteryForwarder) (driver : BatteryRun) :
    (flushLane publish lane accepted forwarder driver).2 = (flushLane publish lane 0 forwarder driver).2 := by
  unfold flushLane
  split <;> rfl

theorem flush_eq (h : system.writer = some context) (registration : Registration) :
    system.flush generationId registration =
      flushOne generationId registration context .keyboard
        (flushOne generationId registration context .pointer system) := by
  unfold BatterySystem.flush flushOne ChildBatteryForwarder.flush
  rw [h]
  dsimp only
  generalize ChildBatteryForwarder.flushLane (publishChildBattery generationId registration context) .pointer 0
    system.forwarder system.driver = first
  exact congrArg (fun flushed : ChildBatteryForwarder × BatteryRun =>
      (⟨flushed.1, flushed.2, some context⟩ : BatterySystem))
    (flushLane_accepted _ .keyboard first.1 first.2.1 first.2.2)

theorem flushOne_idle (h : (system.forwarder.lanes lane).due = false) :
    flushOne generationId registration context lane system = system := by
  unfold flushOne flushLane
  rw [if_pos h]

theorem flushOne_due (h : (system.forwarder.lanes lane).due = true) :
    flushOne generationId registration context lane system =
      { system with
        forwarder := system.forwarder.setLane lane ((system.forwarder.lanes lane).forwarded
          (publishChildBattery generationId registration context lane
            (system.forwarder.lanes lane).desired system.driver).1)
        driver := (publishChildBattery generationId registration context lane
          (system.forwarder.lanes lane).desired system.driver).2 } := by
  unfold flushOne flushLane
  rw [if_neg (by rw [h]; exact Bool.noConfusion)]

theorem flushOne_tracked (h : Tracked generationId system) (hopen : system.writer = some context)
    (registration : Registration) (lane : ChildBatteryLane) :
    Tracked generationId (flushOne generationId registration context lane system) := by
  cases hdue : (system.forwarder.lanes lane).due with
  | false =>
    rw [flushOne_idle hdue]
    exact h
  | true =>
    have hauthority := h.authority
    rw [hopen] at hauthority
    have hforwarded := publish_forwarded h.settled hauthority (h.writer context hopen) registration lane
      (system.forwarder.lanes lane).desired
    rw [flushOne_due hdue]
    generalize publishChildBattery generationId registration context lane
      (system.forwarder.lanes lane).desired system.driver = answered at hforwarded ⊢
    obtain ⟨ok, after⟩ := answered
    refine ⟨hforwarded.settled, hforwarded.frame.authority.trans h.authority, h.writer, ?_⟩
    intro other
    unfold Remembers
    rw [setLane_lanes]
    by_cases hother : other = lane
    · rw [if_pos hother, hother]
      intro hrejected _
      have hok : ok = true := by
        cases ok with
        | true => rfl
        | false => cases hrejected
      show ∃ entry, lastAccepted lane.kernelLane after.accepted = some entry ∧ _
      rw [hforwarded.accepted, hok]
      exact ⟨_, lastAccepted_self _ _, rfl⟩
    rw [if_neg hother]
    intro hrejected hpublished
    obtain ⟨entry, hlast, hreport⟩ := h.memory other hrejected hpublished
    refine ⟨entry, ?_, hreport⟩
    show lastAccepted other.kernelLane after.accepted = some entry
    rw [hforwarded.accepted]
    have hlane : other.kernelLane ≠ lane.kernelLane := fun hsame => hother (kernelLane_injective hsame)
    cases ok with
    | true =>
      rw [if_pos rfl, List.singleton_append, lastAccepted_other hlane]
      exact hlast
    | false => exact hlast

theorem flush_tracked (h : Tracked generationId system) (registration : Registration) :
    Tracked generationId (system.flush generationId registration) := by
  cases hopen : system.writer with
  | none =>
    unfold BatterySystem.flush
    rw [hopen]
    exact h
  | some context =>
    rw [flush_eq hopen]
    apply flushOne_tracked (flushOne_tracked h hopen registration .pointer)
    exact hopen

end Invariant

section Steps

variable {generationId : GenerationId} {system : BatterySystem}

/-- A reading changes what is wanted, not what was forwarded. -/
theorem record_memory (kind : LifecycleObservationKind) (lookup : BatteryLookup)
    (forwarder : ChildBatteryForwarder) (lane : ChildBatteryLane) :
    ((forwarder.record kind lookup).lanes lane).published = (forwarder.lanes lane).published ∧
      ((forwarder.record kind lookup).lanes lane).rejected = (forwarder.lanes lane).rejected := by
  unfold record
  cases batteryFact kind with
  | none => exact ⟨rfl, rfl⟩
  | some fact =>
    dsimp only
    cases lookup fact.1 with
    | none => exact ⟨rfl, rfl⟩
    | some found =>
      dsimp only
      rw [setLane_lanes]
      by_cases hlane : lane = found.1
      · rw [if_pos hlane, hlane]
        cases fact.2 <;> exact ⟨rfl, rfl⟩
      rw [if_neg hlane]
      exact ⟨rfl, rfl⟩

theorem recordCharge_memory (other : ChildBatteryLane) (reading : ChildChargeReading)
    (forwarder : ChildBatteryForwarder) (lane : ChildBatteryLane) :
    ((forwarder.recordCharge other reading).lanes lane).published = (forwarder.lanes lane).published ∧
      ((forwarder.recordCharge other reading).lanes lane).rejected = (forwarder.lanes lane).rejected := by
  unfold recordCharge
  rw [setLane_lanes]
  by_cases hlane : lane = other
  · rw [if_pos hlane, hlane]
    unfold ForwardedLane.recordCharge
    split <;> exact ⟨rfl, rfl⟩
  rw [if_neg hlane]
  exact ⟨rfl, rfl⟩

theorem Tracked.mirrored (h : Tracked generationId system) {forwarder : ChildBatteryForwarder}
    (hsame : ∀ lane, (forwarder.lanes lane).published = (system.forwarder.lanes lane).published ∧
      (forwarder.lanes lane).rejected = (system.forwarder.lanes lane).rejected) :
    Tracked generationId { system with forwarder := forwarder } := by
  refine ⟨h.settled, h.authority, h.writer, ?_⟩
  intro lane
  unfold Remembers
  obtain ⟨hpublished, hrejected⟩ := hsame lane
  dsimp only
  rw [hpublished, hrejected]
  exact h.memory lane

theorem Tracked.moved (h : Tracked generationId system) {op : BatteryOp} (hmoves : op.moves = true)
    (hauthority : (system.driver.perform op).receiver.authority = system.driver.receiver.authority) :
    Tracked generationId { system with driver := system.driver.perform op } := by
  refine ⟨perform_settled h.settled op, hauthority.trans h.authority, h.writer, ?_⟩
  intro lane
  unfold Remembers
  dsimp only
  rw [perform_accepted hmoves]
  exact h.memory lane

theorem perform_tracked (h : Tracked generationId system) (op : ForwardOp) :
    Tracked generationId (system.perform generationId op) := by
  cases op with
  | record kind lookup => exact h.mirrored (record_memory kind lookup system.forwarder)
  | recordCharge lane reading => exact h.mirrored (recordCharge_memory lane reading system.forwarder)
  | flush registration => exact flush_tracked h registration
  | attach hdev registration =>
    apply h.moved rfl
    unfold BatteryRun.perform
    dsimp only
    split
    · rfl
    · exact attach_authority registration hdev system.driver.receiver
  | detach interfaceNumber registration =>
    apply h.moved rfl
    exact detach_authority registration interfaceNumber system.driver.receiver
  | install context =>
    show Tracked generationId (system.install context)
    unfold install
    split
    · exact h
    next hfree =>
      have hwriter : context.writer = true := by
        cases hwriter : context.writer with
        | true => rfl
        | false => exact absurd (.inr (.inr hwriter)) hfree
      have hgeneration : system.driver.receiver.generation = generationId.get := congrArg Prod.fst h.authority
      have hrunning : system.driver.receiver.disconnecting = false := congrArg (fun a => a.2.1) h.authority
      refine ⟨perform_settled h.settled (.authority _ _), ?_, ?_, ?_⟩
      · show (system.driver.receiver.generation, system.driver.receiver.disconnecting, some context) = _
        rw [hgeneration, hrunning]
      · intro other hother
        cases hother
        exact hwriter
      intro lane _ hpublished
      exact absurd rfl hpublished
  | release =>
    show Tracked generationId system.release
    unfold release
    split
    next hclosed =>
      refine ⟨h.settled, h.authority, h.writer, ?_⟩
      intro lane _ hpublished
      exact absurd rfl hpublished
    next context hopen =>
      have hgeneration : system.driver.receiver.generation = generationId.get := congrArg Prod.fst h.authority
      have hrunning : system.driver.receiver.disconnecting = false := congrArg (fun a => a.2.1) h.authority
      refine ⟨perform_settled (perform_settled h.settled (.authority _ _)) (.releaseOwner context), ?_, ?_, ?_⟩
      · show (hfxBatteryReleaseOwner context _).authority = _
        rw [releaseOwner_authority]
        show (system.driver.receiver.generation, system.driver.receiver.disconnecting, none) = _
        rw [hgeneration, hrunning]
      · intro other hother
        cases hother
      intro lane _ hpublished
      exact absurd rfl hpublished

theorem start_tracked (generationId : GenerationId) : Tracked generationId (.start generationId) := by
  refine ⟨init_settled generationId.get, rfl, ?_, ?_⟩
  · intro context hopen
    cases hopen
  intro lane _ hpublished
  exact absurd rfl hpublished

theorem run_tracked (generationId : GenerationId) (ops : List ForwardOp) :
    Tracked generationId (run generationId ops) := by
  unfold run
  have h := start_tracked generationId
  generalize start generationId = system at h
  induction ops generalizing system with
  | nil => exact h
  | cons op ops ih => exact ih _ (perform_tracked h op)

end Steps

/-- What the mirror wants for the lane once the level has been recorded. -/
def wanted (system : BatterySystem) (lane : ChildBatteryLane) (percentage : BatteryPercent)
    (modelName : String) : ChildBatteryState :=
  .presentBounded percentage.get (chargeStatus percentage.get (system.forwarder.lanes lane).charge) modelName

/-- The driver dropped the lane's supply, and the mirror still takes it for forwarded as it is wanted. -/
def Forgotten (system : BatterySystem) (lane : ChildBatteryLane) (state : ChildBatteryState) : Prop :=
  (system.forwarder.lanes lane).published = state ∧ (system.forwarder.lanes lane).rejected = false ∧
    (system.driver.receiver.battery lane.kernelLane).psy = none

section Readings

variable {generationId : GenerationId} {system : BatterySystem} {context : FileContext}
  {lane : ChildBatteryLane} {state : ChildBatteryState}

theorem flushOne_other (h : Tracked generationId system) (hopen : system.writer = some context)
    (registration : Registration) (hother : lane ≠ other) :
    (flushOne generationId registration context other system).forwarder.lanes lane =
        system.forwarder.lanes lane ∧
      (flushOne generationId registration context other system).driver.receiver.battery lane.kernelLane =
        system.driver.receiver.battery lane.kernelLane := by
  cases hdue : (system.forwarder.lanes other).due with
  | false =>
    rw [flushOne_idle hdue]
    exact ⟨rfl, rfl⟩
  | true =>
    have hauthority := h.authority
    rw [hopen] at hauthority
    have hforwarded := publish_forwarded h.settled hauthority (h.writer context hopen) registration other
      (system.forwarder.lanes other).desired
    have hlane : lane.kernelLane ≠ other.kernelLane := fun hsame => hother (kernelLane_injective hsame)
    rw [flushOne_due hdue]
    refine ⟨?_, hforwarded.frame.elsewhere.battery lane.kernelLane hlane⟩
    rw [setLane_lanes, if_neg hother]

theorem registered_congr {receiver other : BatteryReceiver} {index : LaneIndex}
    (h : receiver.battery index = other.battery index) (modelName : Vector UInt8 32) :
    Registered receiver index modelName ↔ Registered other index modelName := by
  unfold Registered
  rw [h]

theorem remembered_displays (h : Tracked generationId system) (hstate : state ≠ .absent)
    (hpublished : (system.forwarder.lanes lane).published = state)
    (hrejected : (system.forwarder.lanes lane).rejected = false)
    (hpsy : (system.driver.receiver.battery lane.kernelLane).psy ≠ none) :
    Displays (system.driver.receiver.battery lane.kernelLane) (state.encode lane generationId) := by
  obtain ⟨entry, hlast, hreport⟩ := h.memory lane hrejected (by rw [hpublished]; exact hstate)
  obtain ⟨psy, hsome⟩ := Option.ne_none_iff_exists'.mp hpsy
  obtain ⟨-, -, -, shown, hshown, -, -, hcapacity, hstatus, hname⟩ :=
    (h.settled.1.lanes lane.kernelLane).published psy hsome
  cases hlast.symm.trans hshown
  rw [hpublished] at hreport
  rw [← hreport]
  exact ⟨hpsy, hcapacity, hstatus, hname⟩

theorem flushOne_displays (h : Tracked generationId system) (hopen : system.writer = some context)
    (registration : Registration) (hstate : state ≠ .absent)
    (hdesired : (system.forwarder.lanes lane).desired = state)
    (hresend : (system.forwarder.lanes lane).resend = (system.forwarder.lanes lane).rejected)
    (hbound : (system.driver.receiver.battery lane.kernelLane).hdev ≠ none) :
    Displays ((flushOne generationId registration context lane system).driver.receiver.battery lane.kernelLane)
        (state.encode lane generationId) ↔
      ¬Forgotten system lane state ∧
        (¬Registered system.driver.receiver lane.kernelLane (state.encode lane generationId).modelName →
          registration lane.kernelLane = none) := by
  cases hdue : (system.forwarder.lanes lane).due with
  | false =>
    rw [flushOne_idle hdue]
    have hidle : (system.forwarder.lanes lane).desired = (system.forwarder.lanes lane).published ∧
        (system.forwarder.lanes lane).resend = false := by
      simpa [ForwardedLane.due] using hdue
    have hpublished : (system.forwarder.lanes lane).published = state := hidle.1.symm.trans hdesired
    have hrejected : (system.forwarder.lanes lane).rejected = false := hresend.symm.trans hidle.2
    constructor
    · intro hdisplays
      refine ⟨fun hforgotten => hdisplays.published hforgotten.2.2, ?_⟩
      intro hnot
      exact absurd ⟨hdisplays.published, hdisplays.modelName⟩ hnot
    intro hkept
    apply remembered_displays h hstate hpublished hrejected
    intro hnone
    exact hkept.1 ⟨hpublished, hrejected, hnone⟩
  | true =>
    have hauthority := h.authority
    rw [hopen] at hauthority
    have hforwarded := publish_forwarded h.settled hauthority (h.writer context hopen) registration lane
      (system.forwarder.lanes lane).desired
    rw [flushOne_due hdue]
    rw [hdesired] at hforwarded ⊢
    have hnot : ¬Forgotten system lane state := by
      intro hforgotten
      have hidle : (system.forwarder.lanes lane).due = false := by
        unfold ForwardedLane.due
        rw [hdesired, hresend, hforgotten.1, hforgotten.2.1]
        simp
      rw [hdue] at hidle
      cases hidle
    rw [hforwarded.displays hstate hbound]
    exact (and_iff_right hnot).symm

def reads (generationId : GenerationId) (registration : Registration) (lookup : BatteryLookup)
    (deviceId : LogicalDeviceId) (percentage : BatteryPercent) (system : BatterySystem) : BatterySystem :=
  (system.perform generationId (.record (.batteryReported deviceId percentage) lookup)).perform generationId
    (.flush registration)

theorem reads_displays (h : Tracked generationId system) (hopen : system.writer = some context)
    (registration : Registration) {lookup : BatteryLookup} {deviceId : LogicalDeviceId}
    (percentage : BatteryPercent) {modelName : String} (hlookup : lookup deviceId = some (lane, modelName))
    (hbound : (system.driver.receiver.battery lane.kernelLane).hdev ≠ none) :
    Displays ((reads generationId registration lookup deviceId percentage system).driver.receiver.battery
        lane.kernelLane) ((wanted system lane percentage modelName).encode lane generationId) ↔
      ¬Forgotten system lane (wanted system lane percentage modelName) ∧
        (¬Registered system.driver.receiver lane.kernelLane
            ((wanted system lane percentage modelName).encode lane generationId).modelName →
          registration lane.kernelLane = none) := by
  have hrecorded := perform_tracked h (.record (.batteryReported deviceId percentage) lookup)
  have hlane : (system.perform generationId
      (.record (.batteryReported deviceId percentage) lookup)).forwarder.lanes lane =
      (system.forwarder.lanes lane).record (some percentage) modelName := by
    show (system.forwarder.record (.batteryReported deviceId percentage) lookup).lanes lane = _
    unfold record
    simp [batteryFact, hlookup]
  have hdriver : (system.perform generationId
      (.record (.batteryReported deviceId percentage) lookup)).driver = system.driver := rfl
  have hstill : (system.perform generationId
      (.record (.batteryReported deviceId percentage) lookup)).writer = some context := hopen
  unfold reads
  generalize system.perform generationId (.record (.batteryReported deviceId percentage) lookup) = recorded at *
  have hstate : wanted system lane percentage modelName ≠ .absent := by
    intro habsent
    cases habsent
  have hdesired : (recorded.forwarder.lanes lane).desired = wanted system lane percentage modelName := by
    rw [hlane]
    rfl
  have hresend : (recorded.forwarder.lanes lane).resend = (recorded.forwarder.lanes lane).rejected := by
    rw [hlane]
    rfl
  have hforgotten : Forgotten recorded lane (wanted system lane percentage modelName) ↔
      Forgotten system lane (wanted system lane percentage modelName) := by
    unfold Forgotten
    rw [hlane, hdriver]
    exact Iff.rfl
  rw [← hdriver] at hbound ⊢
  rw [← hforgotten]
  show Displays ((recorded.flush generationId registration).driver.receiver.battery lane.kernelLane) _ ↔ _
  rw [flush_eq hstill]
  have hfirst := flushOne_tracked hrecorded hstill registration .pointer
  cases lane with
  | pointer =>
    have hself := flushOne_displays hrecorded hstill registration hstate hdesired hresend hbound
    have hother : ChildBatteryLane.pointer ≠ .keyboard := nofun
    rw [(flushOne_other hfirst hstill registration hother).2]
    exact hself
  | keyboard =>
    have hother : ChildBatteryLane.keyboard ≠ .pointer := nofun
    obtain ⟨hmirror, hkernel⟩ := flushOne_other hrecorded hstill registration hother
    have hself := flushOne_displays hfirst hstill registration hstate
      (by rw [hmirror]; exact hdesired) (by rw [hmirror]; exact hresend) (by rw [hkernel]; exact hbound)
    rw [hself, registered_congr hkernel]
    unfold Forgotten
    rw [hmirror, hkernel]

end Readings

section Silence

variable {generationId : GenerationId} {system : BatterySystem} (registration : Registration)

/-- What the next flush forwards. -/
def sent (system : BatterySystem) : List (ChildBatteryLane × ChildBatteryState) :=
  match system.writer with
  | none => []
  | some _ => (system.forwarder.flush (fun lane state sent => (true, sent ++ [(lane, state)])) []).2.2

def ForwardOp.isKernel : ForwardOp → Bool
  | .attach _ _ => true
  | .detach _ _ => true
  | .flush _ => true
  | _ => false

def Idle (system : BatterySystem) : Prop :=
  system.writer = none ∨ ∀ lane, (system.forwarder.lanes lane).due = false

theorem Idle.sent (h : Idle system) : sent system = [] := by
  unfold BatteryForwarding.sent
  rcases h with hclosed | hidle
  · rw [hclosed]
  split
  · rfl
  unfold ChildBatteryForwarder.flush ChildBatteryForwarder.flushLane
  simp [hidle]

theorem forwarded_idle (ok : Bool) (lane : ForwardedLane) : (lane.forwarded ok).due = false := by
  simp [ForwardedLane.due, ForwardedLane.forwarded]

theorem flushOne_idles (context : FileContext) (lane other : ChildBatteryLane)
    (h : other = lane ∨ (system.forwarder.lanes other).due = false) :
    ((flushOne generationId registration context lane system).forwarder.lanes other).due = false := by
  cases hdue : (system.forwarder.lanes lane).due with
  | false =>
    rw [flushOne_idle hdue]
    rcases h with hsame | hidle
    · rw [hsame]
      exact hdue
    · exact hidle
  | true =>
    rw [flushOne_due hdue, setLane_lanes]
    by_cases hsame : other = lane
    · rw [if_pos hsame]
      exact forwarded_idle _ _
    rw [if_neg hsame]
    exact h.resolve_left hsame

theorem flush_idle (system : BatterySystem) :
    Idle (system.flush generationId registration) := by
  cases hopen : system.writer with
  | none =>
    left
    unfold BatterySystem.flush
    rw [hopen]
    exact hopen
  | some context =>
    right
    rw [flush_eq hopen]
    intro lane
    cases lane with
    | keyboard => exact flushOne_idles registration context .keyboard .keyboard (.inl rfl)
    | pointer =>
      apply flushOne_idles registration context .keyboard .pointer
      right
      exact flushOne_idles registration context .pointer .pointer (.inl rfl)

theorem kernel_idle {ops : List ForwardOp} (hkernel : ∀ op ∈ ops, op.isKernel = true) :
    ∀ {system : BatterySystem}, Idle system →
      Idle (ops.foldl (fun system op => system.perform generationId op) system) := by
  induction ops with
  | nil =>
    intro system h
    exact h
  | cons op ops ih =>
    intro system h
    apply ih fun other hother => hkernel other (List.mem_cons_of_mem _ hother)
    have hop := hkernel op List.mem_cons_self
    cases op with
    | attach hdev registration | detach interfaceNumber registration => exact h
    | flush registration => exact flush_idle registration system
    | record kind lookup | recordCharge lane reading | install context | release => cases hop

end Silence

section Results

/-- Right after a level of a lane is recorded and flushed, with the writer open and the lane's interface
attached, the driver displays exactly that level, status and model name: unless it dropped the lane's supply
since the same state was forwarded, or a registration that the forward needs fails. After a flush nothing is
sent again before something is recorded, released or installed. -/
theorem battery_forwarding_exact (generationId : GenerationId) (ops : List ForwardOp) :
    (∀ context lane deviceId percentage modelName lookup registration,
      (run generationId ops).writer = some context →
      ((run generationId ops).driver.receiver.battery lane.kernelLane).hdev ≠ none →
      lookup deviceId = some (lane, modelName) →
      (Displays ((reads generationId registration lookup deviceId percentage
            (run generationId ops)).driver.receiver.battery lane.kernelLane)
          ((wanted (run generationId ops) lane percentage modelName).encode lane generationId) ↔
        ¬Forgotten (run generationId ops) lane (wanted (run generationId ops) lane percentage modelName) ∧
          (¬Registered (run generationId ops).driver.receiver lane.kernelLane
              ((wanted (run generationId ops) lane percentage modelName).encode lane generationId).modelName →
            registration lane.kernelLane = none))) ∧
    ∀ (registration : Registration) (quiet : List ForwardOp), (∀ op ∈ quiet, op.isKernel = true) →
      sent (quiet.foldl (fun system op => system.perform generationId op)
        ((run generationId ops).flush generationId registration)) = [] := by
  constructor
  · intro context lane deviceId percentage modelName lookup registration hopen hbound hlookup
    exact reads_displays (run_tracked generationId ops) hopen registration percentage hlookup hbound
  intro registration quiet hkernel
  exact (kernel_idle hkernel (flush_idle registration _)).sent

end Results

section Samples

def pairedMouse : LogicalDeviceId := ⟨"paired-mouse-00cd", by decide +kernel, by decide +kernel⟩

def firstGeneration : GenerationId := .lit 1

def eightyPercent : BatteryPercent := .lit 80

def mouseLookup : BatteryLookup := fun _ => some (.pointer, "Razer Basilisk V3 Pro 35K")

def registered : Registration := fun _ => none

def boundOps : List ForwardOp := [.install daemonContext, .attach mouseInterface registered]

theorem battery_forwarding_exact_bound :
    Displays ((reads firstGeneration registered mouseLookup pairedMouse eightyPercent
        (run firstGeneration boundOps)).driver.receiver.battery .pointer)
      ((wanted (run firstGeneration boundOps) .pointer eightyPercent
        "Razer Basilisk V3 Pro 35K").encode .pointer firstGeneration) := by
  have hbound : ((run firstGeneration boundOps).driver.receiver.battery .pointer).hdev =
      some mouseInterface := by decide +kernel
  have hwriter : (run firstGeneration boundOps).writer = some daemonContext := by decide +kernel
  have hexact := (battery_forwarding_exact firstGeneration boundOps).1 daemonContext .pointer pairedMouse
    eightyPercent "Razer Basilisk V3 Pro 35K" mouseLookup registered hwriter (by simp [hbound, ChildBatteryLane.kernelLane]) rfl
  apply hexact.mpr
  constructor
  · intro hforgotten
    have hpublished : ((run firstGeneration boundOps).forwarder.lanes .pointer).published =
        .absent := by decide +kernel
    have hpresent := hpublished.symm.trans hforgotten.1
    cases hpresent
  intro _
  rfl

/-- The mouse's interface is unbound and bound again after its level was forwarded. -/
def reboundOps : List ForwardOp :=
  [.install daemonContext, .attach mouseInterface registered,
    .record (.batteryReported pairedMouse eightyPercent) mouseLookup, .flush registered,
    .detach 0 registered, .attach mouseInterface registered]

/-- The same level is read again after the interface came back, and nothing is published. -/
theorem battery_forwarding_after_rebind :
    (run firstGeneration reboundOps).writer = some daemonContext ∧
      ((run firstGeneration reboundOps).driver.receiver.battery .pointer).hdev = some mouseInterface ∧
      ¬Displays ((reads firstGeneration registered mouseLookup pairedMouse eightyPercent
          (run firstGeneration reboundOps)).driver.receiver.battery .pointer)
        ((wanted (run firstGeneration reboundOps) .pointer eightyPercent
          "Razer Basilisk V3 Pro 35K").encode .pointer firstGeneration) := by
  refine ⟨by decide +kernel, by decide +kernel, ?_⟩
  intro hdisplays
  have hnone : ((reads firstGeneration registered mouseLookup pairedMouse eightyPercent
      (run firstGeneration reboundOps)).driver.receiver.battery .pointer).psy = none := by
    decide +kernel
  exact hdisplays.published hnone

end Samples

end BatteryForwarding

end HyperfluxNext
