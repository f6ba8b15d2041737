import HyperfluxNext.Driver.BatteryLanes

namespace HyperfluxNext

open Procedure

namespace Battery

section Reports

variable {attached : List HidDevice} {accepted : List AcceptedReport} {receiver : BatteryReceiver}

def acceptedOf (context : FileContext) (userArg : Option HfxUapiChildBattery) : List AcceptedReport :=
  match userArg with
  | none => []
  | some report =>
    match hfxBatteryLaneIndex report.endpointSlot with
    | none => []
    | some lane => [⟨lane, context, report⟩]

theorem lastAccepted_self (entry : AcceptedReport) (accepted : List AcceptedReport) :
    lastAccepted entry.lane (entry :: accepted) = some entry := by
  exact List.find?_cons_of_pos (decide_eq_true rfl)

variable {index : LaneIndex} {entry : AcceptedReport}

theorem lastAccepted_other (h : index ≠ entry.lane)
    (accepted : List AcceptedReport) :
    lastAccepted index (entry :: accepted) = lastAccepted index accepted := by
  unfold lastAccepted
  rw [List.find?_cons_of_neg]
  intro hlane
  exact h (of_decide_eq_true hlane).symm

theorem LaneSound.reported {lane : HfxBatteryLane}
    (h : LaneSound attached accepted index lane) (hother : index ≠ entry.lane) :
    LaneSound attached (entry :: accepted) index lane where
  hdev := h.hdev
  unpublished := h.unpublished
  published psy hpsy := by
    obtain ⟨hlane, hparent, hhdev, hshows⟩ := h.published psy hpsy
    refine ⟨hlane, hparent, hhdev, ?_⟩
    unfold Shows
    rw [lastAccepted_other hother]
    exact hshows

theorem Vacant.reported (h : Vacant attached accepted entry.lane receiver) :
    Vacant attached (entry :: accepted) entry.lane receiver where
  others other hother := (h.others other hother).reported hother
  hdev := h.hdev
  vacant := h.vacant
  supplies := h.supplies
  nodup := h.nodup
  batteryParent := h.batteryParent
  running := h.running

/-- New values and a new owner for a lane that keeps its supply. -/
theorem restated_coherent (h : Coherent attached accepted receiver)
    {psy : PowerSupply} (hpsy : (receiver.battery entry.lane).psy = some psy) {next : HfxBatteryLane}
    (hnext : next.psy = some psy) (hparent : next.parent = (receiver.battery entry.lane).parent)
    (hhdev : next.hdev = (receiver.battery entry.lane).hdev)
    (hshows : Shows (entry :: accepted) entry.lane next) :
    Coherent attached (entry :: accepted) (receiver.setLane entry.lane next) where
  lanes other := by
    by_cases hother : other = entry.lane
    · rw [hother]
      simp only [BatteryReceiver.setLane_battery, if_true]
      obtain ⟨hlane, holdParent, hbound, -⟩ := (h.lanes entry.lane).published psy hpsy
      refine ⟨?_, ?_, ?_⟩
      · rw [hhdev]
        exact (h.lanes entry.lane).hdev
      · intro hnone
        rw [hnext] at hnone
        cases hnone
      intro stored hstored
      cases hnext.symm.trans hstored
      exact ⟨hlane, hparent.trans holdParent, hhdev ▸ hbound, hshows⟩
    simp only [BatteryReceiver.setLane_battery, if_neg hother]
    exact (h.lanes other).reported hother
  supplies supply := by
    show supply ∈ receiver.supplies ↔ _
    rw [h.supplies]
    by_cases hlane : supply.lane = entry.lane
    · simp only [BatteryReceiver.setLane_battery, hlane, if_true, hpsy, hnext]
    · simp only [BatteryReceiver.setLane_battery, if_neg hlane]
  nodup := h.nodup
  batteryParent := h.batteryParent
  running := h.running

theorem restated_placed {index other : LaneIndex} (h : Placed receiver other) {next : HfxBatteryLane}
    (hnext : next.psy = (receiver.battery index).psy)
    (hparent : next.parent = (receiver.battery index).parent)
    (hhdev : next.hdev = (receiver.battery index).hdev) : Placed (receiver.setLane index next) other := by
  have hsame : SameElsewhere index receiver (receiver.setLane index next) := by
    refine ⟨?_, ?_, rfl, rfl⟩
    · intro other hother
      simp only [BatteryReceiver.setLane_battery, if_neg hother]
    · simp only [BatteryReceiver.setLane_battery, if_true, hhdev]
  intro hpsy
  rw [hsame.wanted]
  by_cases hother : other = index
  · rw [hother] at hpsy ⊢
    simp only [BatteryReceiver.setLane_battery, if_true] at hpsy ⊢
    rw [hparent]
    rw [hnext] at hpsy
    rw [hother] at h
    exact h hpsy
  rw [hsame.battery other hother] at hpsy ⊢
  exact h hpsy

/-- New values for a lane without a supply. -/
theorem stored_vacant (h : Vacant attached accepted index receiver)
    (report : HfxUapiChildBattery) : Vacant attached accepted index (storeLocked index report receiver) where
  others other hother := by
    simp only [storeLocked, BatteryReceiver.setLane_battery, if_neg hother]
    exact h.others other hother
  hdev := by
    simp only [storeLocked, BatteryReceiver.setLane_battery, if_true]
    exact h.hdev
  vacant := by
    simp only [storeLocked, BatteryReceiver.setLane_battery, if_true]
    exact h.vacant
  supplies supply := by
    show supply ∈ receiver.supplies ↔ _
    rw [h.supplies]
    by_cases hlane : supply.lane = index
    · simp only [storeLocked, BatteryReceiver.setLane_battery, hlane, if_true]
    · simp only [storeLocked, BatteryReceiver.setLane_battery, if_neg hlane]
  nodup := h.nodup
  batteryParent := h.batteryParent
  running := h.running

theorem setLane_same (index : LaneIndex) {next : HfxBatteryLane}
    (hhdev : next.hdev = (receiver.battery index).hdev) :
    SameElsewhere index receiver (receiver.setLane index next) := by
  refine ⟨?_, ?_, rfl, rfl⟩
  · intro other hother
    simp only [BatteryReceiver.setLane_battery, if_neg hother]
  · simp only [BatteryReceiver.setLane_battery, if_true, hhdev]

structure Renamed (attached : List HidDevice) (accepted : List AcceptedReport) (index : LaneIndex)
    (modelName : Vector UInt8 32) (receiver after : BatteryReceiver) : Prop where
  coherent : Coherent attached accepted after
  placed : (∀ other, Placed receiver other) → ∀ other, Placed after other
  hdev : (after.battery index).hdev = (receiver.battery index).hdev
  named : (after.battery index).psy ≠ none → (after.battery index).modelName = modelName

theorem rename_renamed (h : Coherent attached accepted receiver) (index : LaneIndex)
    (modelName : Vector UInt8 32) :
    Renamed attached accepted index modelName receiver (renameLocked index modelName receiver) := by
  unfold renameLocked
  split
  · have hsame := unregister_same index receiver
    refine ⟨unregister_coherent h index, ?_, hsame.hdev, ?_⟩
    · intro hplaced other
      exact unregister_placed (hplaced other)
    intro hpsy
    exact absurd (unregister_psy index receiver) hpsy
  next hkept =>
    refine ⟨h, fun hplaced => hplaced, rfl, ?_⟩
    intro hpsy
    by_contra hname
    exact hkept ⟨Option.isSome_iff_ne_none.mpr hpsy, hname⟩

/-- Where every supply is where it is wanted, and all agree with what was accepted. -/
def Settled (attached : List HidDevice) (accepted : List AcceptedReport) (receiver : BatteryReceiver) : Prop :=
  Coherent attached accepted receiver ∧ ∀ index, Placed receiver index

theorem register_settled (h : Vacant attached accepted index receiver)
    (howner : (receiver.battery index).owner = none) (hplaced : ∀ other, Placed receiver other)
    (hhdev : (receiver.battery index).hdev ≠ none) (registration : Registration) (context : FileContext)
    {report : HfxUapiChildBattery} (hpresent : report.presence ≠ presenceAbsent)
    (hcapacity : (receiver.battery index).capacity = report.capacity)
    (hstatus : (receiver.battery index).status = report.status)
    (hname : (receiver.battery index).modelName = report.modelName) :
    Holds (hfxBatteryRegisterLocked registration index context) receiver
      (fun _ after => Settled attached (⟨index, context, report⟩ :: accepted) after)
      (fun _ after => Settled attached accepted after) := by
  have hwanted : ∃ parent, hfxBatteryParent receiver index = some parent := by
    unfold hfxBatteryParent
    cases receiver.batteryParent with
    | some parent => exact ⟨parent, rfl⟩
    | none => exact Option.ne_none_iff_exists'.mp hhdev
  obtain ⟨parent, hparent⟩ := hwanted
  unfold hfxBatteryRegisterLocked
  rw [holds_bind, holds_get]
  obtain ⟨error, hfailed⟩ | ⟨after, hpublish, hlane, hsame, hsupplies, hrunning⟩ :=
    publish_cases index registration hparent
  · rw [hfailed]
    exact ⟨h.coherent howner, hplaced⟩
  rw [hpublish]
  dsimp only
  rw [holds_set]
  have howned : SameElsewhere index after
      (after.setLane index { after.battery index with owner := some context }) := setLane_same index rfl
  have hafter : (after.setLane index { after.battery index with owner := some context }).battery index =
      { receiver.battery index with
        psy := some ⟨index, parent⟩, parent := some parent, owner := some context } := by
    simp only [BatteryReceiver.setLane_battery, if_true, hlane]
  have hputUp : (after.setLane index { after.battery index with owner := some context }).supplies =
      ⟨index, parent⟩ :: receiver.supplies := hsupplies
  have hruns : (after.setLane index { after.battery index with owner := some context }).faulted =
      receiver.faulted := hrunning
  generalize after.setLane index { after.battery index with owner := some context } = owned at *
  have hall := hsame.trans howned
  have hreported := @Vacant.reported attached accepted receiver ⟨index, context, report⟩ h
  have hpsy : (owned.battery index).psy = some ⟨index, parent⟩ := by rw [hafter]
  have hunder : (owned.battery index).parent = some parent := by rw [hafter]
  have hshows : Shows (⟨index, context, report⟩ :: accepted) index (owned.battery index) := by
    rw [hafter]
    exact ⟨_, lastAccepted_self ⟨index, context, report⟩ accepted, hpresent, rfl, hcapacity, hstatus, hname⟩
  constructor
  · exact published_coherent hreported hhdev hpsy hunder hshows hall hputUp hruns
  intro other
  by_cases hother : other = index
  · intro _
    rw [hother, hall.wanted, hparent, hunder]
  · exact hall.placed hother (hplaced other)

section

variable (h : Settled attached accepted receiver)
include h

theorem present_settled {index : LaneIndex}
    (hhdev : (receiver.battery index).hdev ≠ none) (registration : Registration) (context : FileContext)
    {report : HfxUapiChildBattery} (hpresent : report.presence ≠ presenceAbsent) :
    Holds (presentLocked registration index context report) receiver
      (fun _ after => Settled attached (⟨index, context, report⟩ :: accepted) after)
      (fun _ after => Settled attached accepted after) := by
  have hrenamed := rename_renamed h.1 index report.modelName
  have hplaced := hrenamed.placed h.2
  have hsame : SameElsewhere index (renameLocked index report.modelName receiver)
      (storeLocked index report (renameLocked index report.modelName receiver)) := setLane_same index rfl
  unfold presentLocked
  rw [holds_bind, holds_get]
  dsimp only
  rw [holds_bind, holds_set]
  generalize renameLocked index report.modelName receiver = renamed at hrenamed hplaced hsame
  have hstored : (storeLocked index report renamed).battery index = { renamed.battery index with
      capacity := report.capacity, status := report.status, modelName := report.modelName } := by
    unfold storeLocked
    simp only [BatteryReceiver.setLane_battery, if_true]
    split
    · rfl
    next hpsy => rw [hrenamed.named hpsy]
  by_cases hpsy : (renamed.battery index).psy = none
  · have hvacant := stored_vacant (hrenamed.coherent.vacant hpsy) report
    rw [if_neg (by rw [hstored, hpsy]; exact Bool.false_ne_true)]
    apply register_settled hvacant _ _ _ registration context hpresent
    · rw [hstored]
    · rw [hstored]
    · rw [hstored]
    · rw [hstored]
      exact (hrenamed.coherent.lanes index).unpublished hpsy
    · intro other
      exact restated_placed (hplaced other) rfl rfl rfl
    rw [hstored, hrenamed.hdev]
    exact hhdev
  obtain ⟨psy, hsome⟩ := Option.ne_none_iff_exists'.mp hpsy
  rw [if_pos (by rw [hstored, hsome]; rfl), holds_set]
  have hafter : (storeLocked index report renamed).setLane index
      { (storeLocked index report renamed).battery index with owner := some context } =
      renamed.setLane index { renamed.battery index with
        capacity := report.capacity, status := report.status, modelName := report.modelName,
        owner := some context } := by
    rw [hstored]
    unfold storeLocked BatteryReceiver.setLane
    rw [Function.update_idem]
  rw [hafter]
  constructor
  · refine @restated_coherent attached accepted renamed ⟨index, context, report⟩ hrenamed.coherent psy hsome
      _ hsome rfl rfl ?_
    exact ⟨_, lastAccepted_self ⟨index, context, report⟩ accepted, hpresent, rfl, rfl, rfl, rfl⟩
  intro other
  exact restated_placed (hplaced other) rfl rfl rfl

theorem unregister_reported (entry : AcceptedReport) :
    Settled attached (entry :: accepted) (hfxBatteryUnregisterLocked entry.lane receiver) := by
  have hunregistered := unregister_coherent h.1 entry.lane
  have hnone := unregister_psy entry.lane receiver
  constructor
  · exact (hunregistered.vacant hnone).reported.coherent ((hunregistered.lanes entry.lane).unpublished hnone)
  intro other
  exact unregister_placed (h.2 other)

theorem reportLocked_settled (registration : Registration)
    (index : LaneIndex) (context : FileContext) (report : HfxUapiChildBattery) :
    Holds (reportLocked registration index context report) receiver
      (fun _ after => Settled attached (⟨index, context, report⟩ :: accepted) after)
      (fun _ after => Settled attached accepted after) := by
  unfold reportLocked
  rw [holds_bind, holds_get, holds_bind, holds_refuse]
  refine ⟨fun _ => h, fun _ => ?_⟩
  rw [holds_bind, holds_refuse]
  refine ⟨fun _ => h, fun _ => ?_⟩
  split
  · rw [holds_modify]
    exact unregister_reported h ⟨index, context, report⟩
  next hpresent =>
    rw [holds_bind, holds_refuse]
    exact ⟨fun _ => h, fun hhdev => present_settled h hhdev registration context hpresent⟩

theorem report_settled (registration : Registration)
    (context : FileContext) (userArg : Option HfxUapiChildBattery) :
    Holds (hfxBatteryReport registration context userArg) receiver
      (fun _ after => Settled attached (acceptedOf context userArg ++ accepted) after)
      (fun _ after => Settled attached accepted after) := by
  unfold hfxBatteryReport
  split
  · exact h
  cases userArg with
  | none => exact h
  | some report =>
    dsimp only
    split
    · exact h
    split
    · exact h
    cases hindex : hfxBatteryLaneIndex report.endpointSlot with
    | none => exact h
    | some index =>
      have haccepted : acceptedOf context (some report) = [⟨index, context, report⟩] := by
        simp only [acceptedOf, hindex]
      rw [haccepted]
      dsimp only
      rw [holds_bind, holds_get, holds_bind, holds_refuse]
      exact ⟨fun _ => h, fun _ => reportLocked_settled h registration index context report⟩

end

end Reports

section Runs

/-- A receiver with the interfaces that are attached and the reports that were accepted, the newest first. -/
structure BatteryRun where
  receiver : BatteryReceiver
  attached : List HidDevice
  accepted : List AcceptedReport

inductive BatteryOp where
  | attach (hdev : HidDevice) (registration : Registration)
  | detach (interfaceNumber : Nat) (registration : Registration)
  | report (context : FileContext) (userArg : Option HfxUapiChildBattery) (registration : Registration)
  | releaseOwner (context : FileContext)
  | teardown
  | authority (disconnecting : Bool) (writerContext : Option FileContext)

/-- One call under the battery lock. An interface is bound only once. -/
def BatteryRun.perform (run : BatteryRun) : BatteryOp → BatteryRun
  | .attach hdev registration =>
    if run.attached.any (·.interfaceNumber = hdev.interfaceNumber) then run
    else { run with
      receiver := hfxBatteryAttachInterface registration hdev run.receiver
      attached := hdev :: run.attached }
  | .detach interfaceNumber registration => { run with
      receiver := hfxBatteryDetachInterface registration interfaceNumber run.receiver
      attached := run.attached.filter (·.interfaceNumber ≠ interfaceNumber) }
  | .report context userArg registration =>
    match hfxBatteryReport registration context userArg run.receiver with
    | .ok _ receiver => { run with
        receiver := receiver
        accepted := acceptedOf context userArg ++ run.accepted }
    | .error _ receiver => { run with receiver := receiver }
  | .releaseOwner context => { run with receiver := hfxBatteryReleaseOwner context run.receiver }
  | .teardown => { run with receiver := hfxBatteryTeardown run.receiver }
  | .authority disconnecting writerContext => { run with
      receiver := { run.receiver with disconnecting := disconnecting, writerContext := writerContext } }

inductive BatteryReach (generation : Nat) : BatteryRun → Prop where
  | start : BatteryReach generation ⟨hfxBatteryInit generation, [], []⟩
  | step {run : BatteryRun} (h : BatteryReach generation run) (op : BatteryOp) :
      BatteryReach generation (run.perform op)

theorem init_settled (generation : Nat) : Settled [] [] (hfxBatteryInit generation) := by
  refine ⟨⟨?_, ?_, List.nodup_nil, ?_, rfl⟩, ?_⟩
  · intro index
    refine ⟨?_, fun _ => rfl, ?_⟩
    · intro hdev hstored
      cases hstored
    intro psy hstored
    cases hstored
  · intro supply
    constructor
    · intro hmem
      cases hmem
    intro hstored
    cases hstored
  · intro hdev hparent
    cases hparent
  intro index hpsy
  exact absurd rfl hpsy

theorem perform_settled {run : BatteryRun} (h : Settled run.attached run.accepted run.receiver) (op : BatteryOp) :
    Settled (run.perform op).attached (run.perform op).accepted (run.perform op).receiver := by
  cases op with
  | attach hdev registration =>
    unfold BatteryRun.perform
    dsimp only
    split
    · exact h
    next hunbound =>
      apply attach_settled h.1 h.2
      intro other hmem hsame
      exact hunbound (List.any_eq_true.mpr ⟨other, hmem, decide_eq_true hsame⟩)
  | detach interfaceNumber registration => exact detach_settled h.1 h.2 interfaceNumber registration
  | report context userArg registration =>
    have hreport := report_settled h registration context userArg
    unfold BatteryRun.perform
    dsimp only
    split
    next hok =>
      have hafter := holds_ok hreport hok
      exact hafter
    next herror =>
      have hafter := holds_error hreport herror
      exact hafter
  | releaseOwner context =>
    have hreleased := release_released h.1 context
    exact ⟨hreleased.coherent, hreleased.placed h.2⟩
  | teardown => exact teardown_settled h.1
  | authority disconnecting writerContext =>
    exact ⟨⟨h.1.lanes, h.1.supplies, h.1.nodup, h.1.batteryParent, h.1.running⟩, h.2⟩

theorem batteryReach_settled {generation : Nat} {run : BatteryRun} (h : BatteryReach generation run) :
    Settled run.attached run.accepted run.receiver := by
  induction h with
  | start => exact init_settled generation
  | step _ op ih => exact perform_settled ih op

theorem Settled.supply {attached : List HidDevice} {accepted : List AcceptedReport}
    {receiver : BatteryReceiver} (h : Settled attached accepted receiver) {supply : PowerSupply}
    (hmem : supply ∈ receiver.supplies) :
    (receiver.battery supply.lane).psy = some supply ∧ supply.parent ∈ attached ∧
      Shows accepted supply.lane (receiver.battery supply.lane) := by
  have hstored := (h.1.supplies supply).mp hmem
  obtain ⟨-, -, -, hshows⟩ := (h.1.lanes supply.lane).published supply hstored
  exact ⟨hstored, placed_attached h.1 (h.2 supply.lane) hstored, hshows⟩

theorem Shows.unique {accepted : List AcceptedReport} {index : LaneIndex} {lane other : HfxBatteryLane}
    (h : Shows accepted index lane) (h' : Shows accepted index other) :
    other.owner = lane.owner ∧ other.capacity = lane.capacity ∧ other.status = lane.status ∧
      other.modelName = lane.modelName := by
  obtain ⟨entry, hlast, -, howner, hcapacity, hstatus, hname⟩ := h
  obtain ⟨entry', hlast', -, howner', hcapacity', hstatus', hname'⟩ := h'
  cases hlast.symm.trans hlast'
  rw [howner, hcapacity, hstatus, hname]
  exact ⟨howner', hcapacity', hstatus', hname'⟩

def BatteryOp.moves : BatteryOp → Bool
  | .attach _ _ => true
  | .detach _ _ => true
  | _ => false

theorem perform_accepted {op : BatteryOp} (h : op.moves = true) (run : BatteryRun) :
    (run.perform op).accepted = run.accepted := by
  cases op with
  | attach hdev registration =>
    unfold BatteryRun.perform
    dsimp only
    split
    · rfl
    · rfl
  | detach interfaceNumber registration => rfl
  | report context userArg registration => cases h
  | releaseOwner context | teardown | authority disconnecting writerContext => cases h

/-- In every run a published supply is that of a lane with an owner, under an attached interface, and shows
what its owner last forwarded; no supply is registered without a parent. None stays under a detached interface,
a released owner keeps no lane and no supply, and a supply that is published after an interface came or went
shows what it did before. -/
theorem battery_lanes_owned {generation : Nat} {run : BatteryRun} (h : BatteryReach generation run) :
    run.receiver.faulted = false ∧
    (∀ supply ∈ run.receiver.supplies,
      (run.receiver.battery supply.lane).psy = some supply ∧
      (∃ entry, lastAccepted supply.lane run.accepted = some entry ∧
        (run.receiver.battery supply.lane).owner = some entry.context ∧
        (run.receiver.battery supply.lane).capacity = entry.report.capacity ∧
        (run.receiver.battery supply.lane).status = entry.report.status) ∧
      supply.parent ∈ run.attached) ∧
    (∀ interfaceNumber registration,
      ∀ supply ∈ (run.perform (.detach interfaceNumber registration)).receiver.supplies,
        supply.parent.interfaceNumber ≠ interfaceNumber) ∧
    (∀ context,
      (∀ index, ((run.perform (.releaseOwner context)).receiver.battery index).owner ≠ some context) ∧
      ∀ supply ∈ (run.perform (.releaseOwner context)).receiver.supplies,
        supply ∈ run.receiver.supplies ∧ (run.receiver.battery supply.lane).owner ≠ some context) ∧
    ∀ op, op.moves = true → ∀ supply ∈ run.receiver.supplies, ∀ moved ∈ (run.perform op).receiver.supplies,
      moved.lane = supply.lane →
      moved.parent ∈ (run.perform op).attached ∧
      ((run.perform op).receiver.battery moved.lane).owner = (run.receiver.battery supply.lane).owner ∧
      ((run.perform op).receiver.battery moved.lane).capacity = (run.receiver.battery supply.lane).capacity ∧
      ((run.perform op).receiver.battery moved.lane).status = (run.receiver.battery supply.lane).status := by
  have hsettled := batteryReach_settled h
  refine ⟨hsettled.1.running, ?_, ?_, ?_, ?_⟩
  · intro supply hmem
    obtain ⟨hstored, hattached, entry, hlast, -, howner, hcapacity, hstatus, -⟩ := hsettled.supply hmem
    exact ⟨hstored, ⟨entry, hlast, howner, hcapacity, hstatus⟩, hattached⟩
  · intro interfaceNumber registration supply hmem
    have hdetached := perform_settled hsettled (.detach interfaceNumber registration)
    obtain ⟨-, hattached, -⟩ := hdetached.supply hmem
    exact of_decide_eq_true (List.mem_filter.mp hattached).2
  · intro context
    have hreleased := release_released hsettled.1 context
    refine ⟨hreleased.owners, ?_⟩
    intro supply hmem
    obtain ⟨hstored, howner⟩ := hreleased.supplies supply hmem
    exact ⟨(hsettled.1.supplies supply).mpr hstored, howner⟩
  intro op hmoves supply hmem moved hmoved hlane
  have hperformed := perform_settled hsettled op
  obtain ⟨-, -, hshows⟩ := hsettled.supply hmem
  obtain ⟨-, hattached, hshowsAfter⟩ := hperformed.supply hmoved
  rw [perform_accepted hmoves, hlane] at hshowsAfter
  obtain ⟨howner, hcapacity, hstatus, -⟩ := hshows.unique hshowsAfter
  rw [hlane]
  exact ⟨hattached, howner, hcapacity, hstatus⟩

end Runs

section Samples

def mouseInterface : HidDevice := ⟨1, 0, true⟩

def vendorInterface : HidDevice := ⟨2, 1, false⟩

def daemonContext : FileContext := ⟨1, true⟩

def mouseBattery : HfxUapiChildBattery where
  version := 3
  size := 64
  receiverGeneration := 1
  endpointSlot := EndpointSlot.pointerLane
  presence := presencePresent
  capacity := 80
  status := 1
  modelName := Vector.replicate 32 0

def publishedRun : BatteryRun :=
  ((((BatteryRun.mk (hfxBatteryInit 1) [] []).perform (.attach mouseInterface fun _ => none)).perform
    (.attach vendorInterface fun _ => none)).perform (.authority false (some daemonContext))).perform
    (.report daemonContext (some mouseBattery) fun _ => none)

theorem battery_lanes_owned_moved :
    publishedRun.receiver.supplies = [⟨.pointer, vendorInterface⟩] ∧
    (publishedRun.perform (.detach 1 fun _ => none)).receiver.supplies = [⟨.pointer, mouseInterface⟩] ∧
    ((publishedRun.perform (.detach 1 fun _ => none)).receiver.battery .pointer).capacity =
      (publishedRun.receiver.battery .pointer).capacity := by
  have hreach : BatteryReach 1 publishedRun := .step (.step (.step (.step .start _) _) _) _
  have hbefore : publishedRun.receiver.supplies = [⟨.pointer, vendorInterface⟩] := by decide +kernel
  have hafter : (publishedRun.perform (.detach 1 fun _ => none)).receiver.supplies =
      [⟨.pointer, mouseInterface⟩] := by decide +kernel
  obtain ⟨-, -, -, -, hmoved⟩ := battery_lanes_owned hreach
  obtain ⟨-, -, hcapacity, -⟩ := hmoved (.detach 1 fun _ => none) rfl ⟨.pointer, vendorInterface⟩
    (by rw [hbefore]; exact List.mem_singleton_self _) ⟨.pointer, mouseInterface⟩
    (by rw [hafter]; exact List.mem_singleton_self _) rfl
  exact ⟨hbefore, hafter, hcapacity⟩

end Samples

end Battery

end HyperfluxNext
