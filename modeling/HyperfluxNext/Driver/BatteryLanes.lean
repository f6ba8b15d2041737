import HyperfluxNext.Driver.Battery

namespace HyperfluxNext

open Procedure

namespace Battery

/-- A report that the driver took over. -/
structure AcceptedReport where
  lane : LaneIndex
  context : FileContext
  report : HfxUapiChildBattery

def lastAccepted (lane : LaneIndex) (accepted : List AcceptedReport) : Option AcceptedReport :=
  accepted.find? (·.lane = lane)

def Shows (accepted : List AcceptedReport) (index : LaneIndex) (lane : HfxBatteryLane) : Prop :=
  ∃ entry, lastAccepted index accepted = some entry ∧ entry.report.presence ≠ presenceAbsent ∧
    lane.owner = some entry.context ∧ lane.capacity = entry.report.capacity ∧
    lane.status = entry.report.status ∧ lane.modelName = entry.report.modelName

structure LaneSound (attached : List HidDevice) (accepted : List AcceptedReport) (index : LaneIndex)
    (lane : HfxBatteryLane) : Prop where
  hdev : ∀ hdev, lane.hdev = some hdev →
    hdev ∈ attached ∧ hfxBatteryLaneForInterface hdev.interfaceNumber = some index
  unpublished : lane.psy = none → lane.owner = none
  published : ∀ psy, lane.psy = some psy → psy.lane = index ∧ lane.parent = some psy.parent ∧
    lane.hdev ≠ none ∧ Shows accepted index lane

/-- Everything but that the supplies are where they are wanted. -/
structure Coherent (attached : List HidDevice) (accepted : List AcceptedReport) (receiver : BatteryReceiver) :
    Prop where
  lanes : ∀ index, LaneSound attached accepted index (receiver.battery index)
  supplies : ∀ supply, supply ∈ receiver.supplies ↔ (receiver.battery supply.lane).psy = some supply
  nodup : receiver.supplies.Nodup
  batteryParent : ∀ hdev, receiver.batteryParent = some hdev →
    hdev ∈ attached ∧ receiver.batteryParentInterface = hdev.interfaceNumber
  running : receiver.faulted = false

/-- The lane's supply, if it has one, is registered under the wanted parent. -/
def Placed (receiver : BatteryReceiver) (index : LaneIndex) : Prop :=
  (receiver.battery index).psy ≠ none → (receiver.battery index).parent = hfxBatteryParent receiver index

variable {psy : PowerSupply} {lane : HfxBatteryLane}

section Lanes

variable {attached : List HidDevice} {accepted : List AcceptedReport} {receiver : BatteryReceiver}

variable {index : LaneIndex} {after : BatteryReceiver} {parent : HidDevice}

theorem withdrawLocked_supplies (h : Coherent attached accepted receiver)
    (hpsy : (receiver.battery index).psy = some psy) (supply : PowerSupply) :
    supply ∈ receiver.supplies.erase psy ↔
      supply.lane ≠ index ∧ (receiver.battery supply.lane).psy = some supply := by
  obtain ⟨hlane, -⟩ := (h.lanes index).published psy hpsy
  rw [h.nodup.mem_erase_iff, h.supplies]
  constructor
  · intro ⟨hother, hstored⟩
    refine ⟨?_, hstored⟩
    intro hindex
    rw [hindex, hpsy] at hstored
    exact hother (Option.some.inj hstored).symm
  intro ⟨hother, hstored⟩
  refine ⟨?_, hstored⟩
  intro hsame
  rw [hsame] at hother
  exact hother hlane

/-- What an operation on one lane leaves of the rest. -/
structure SameElsewhere (index : LaneIndex) (receiver after : BatteryReceiver) : Prop where
  battery : ∀ other, other ≠ index → after.battery other = receiver.battery other
  hdev : (after.battery index).hdev = (receiver.battery index).hdev
  batteryParent : after.batteryParent = receiver.batteryParent
  batteryParentInterface : after.batteryParentInterface = receiver.batteryParentInterface

theorem SameElsewhere.wanted (h : SameElsewhere index receiver after) (other : LaneIndex) :
    hfxBatteryParent after other = hfxBatteryParent receiver other := by
  unfold hfxBatteryParent
  rw [h.batteryParent]
  by_cases hother : other = index
  · rw [hother, h.hdev]
  · rw [h.battery other hother]

theorem SameElsewhere.placed {other : LaneIndex} (h : SameElsewhere index receiver after)
    (hother : other ≠ index) (hplaced : Placed receiver other) :
    Placed after other := by
  unfold Placed
  rw [h.wanted, h.battery other hother]
  exact hplaced

theorem unregister_same (index : LaneIndex) (receiver : BatteryReceiver) :
    SameElsewhere index receiver (hfxBatteryUnregisterLocked index receiver) := by
  unfold hfxBatteryUnregisterLocked
  split
  · exact ⟨fun _ _ => rfl, rfl, rfl, rfl⟩
  next psy _ =>
    refine ⟨?_, ?_, rfl, rfl⟩
    · intro other hother
      simp [hfxBatteryForgetLocked, withdrawLocked, hother]
    · simp [hfxBatteryForgetLocked, withdrawLocked]

theorem unregister_psy (index : LaneIndex) (receiver : BatteryReceiver) :
    ((hfxBatteryUnregisterLocked index receiver).battery index).psy = none := by
  unfold hfxBatteryUnregisterLocked
  split
  next hnone => exact hnone
  · simp [hfxBatteryForgetLocked, withdrawLocked]

theorem forget_same (index : LaneIndex) (receiver : BatteryReceiver) :
    SameElsewhere index receiver (hfxBatteryForgetLocked index receiver) := by
  refine ⟨?_, ?_, rfl, rfl⟩
  · intro other hother
    simp [hfxBatteryForgetLocked, hother]
  · simp [hfxBatteryForgetLocked]

theorem withdraw_same (index : LaneIndex) (psy : PowerSupply) (receiver : BatteryReceiver) :
    SameElsewhere index receiver (withdrawLocked index psy receiver) := by
  refine ⟨?_, ?_, rfl, rfl⟩
  · intro other hother
    simp [withdrawLocked, hother]
  · simp [withdrawLocked]

theorem SameElsewhere.trans {first second third : BatteryReceiver} (h : SameElsewhere index first second)
    (h' : SameElsewhere index second third) :
    SameElsewhere index first third where
  battery other hother := (h'.battery other hother).trans (h.battery other hother)
  hdev := h'.hdev.trans h.hdev
  batteryParent := h'.batteryParent.trans h.batteryParent
  batteryParentInterface := h'.batteryParentInterface.trans h.batteryParentInterface

/-- The supplies of all other lanes, and none of this one. -/
structure Vacant (attached : List HidDevice) (accepted : List AcceptedReport) (index : LaneIndex)
    (receiver : BatteryReceiver) : Prop where
  others : ∀ other, other ≠ index → LaneSound attached accepted other (receiver.battery other)
  hdev : ∀ hdev, (receiver.battery index).hdev = some hdev →
    hdev ∈ attached ∧ hfxBatteryLaneForInterface hdev.interfaceNumber = some index
  vacant : (receiver.battery index).psy = none
  supplies : ∀ supply, supply ∈ receiver.supplies ↔ (receiver.battery supply.lane).psy = some supply
  nodup : receiver.supplies.Nodup
  batteryParent : ∀ hdev, receiver.batteryParent = some hdev →
    hdev ∈ attached ∧ receiver.batteryParentInterface = hdev.interfaceNumber
  running : receiver.faulted = false

theorem Vacant.coherent (h : Vacant attached accepted index receiver)
    (howner : (receiver.battery index).owner = none) : Coherent attached accepted receiver where
  lanes other := by
    by_cases hother : other = index
    · rw [hother]
      refine ⟨h.hdev, fun _ => howner, ?_⟩
      intro psy hpsy
      rw [h.vacant] at hpsy
      cases hpsy
    · exact h.others other hother
  supplies := h.supplies
  nodup := h.nodup
  batteryParent := h.batteryParent
  running := h.running

theorem Coherent.vacant (h : Coherent attached accepted receiver)
    (hnone : (receiver.battery index).psy = none) : Vacant attached accepted index receiver where
  others other _ := h.lanes other
  hdev := (h.lanes index).hdev
  vacant := hnone
  supplies := h.supplies
  nodup := h.nodup
  batteryParent := h.batteryParent
  running := h.running

theorem withdraw_vacant (h : Coherent attached accepted receiver)
    (hpsy : (receiver.battery index).psy = some psy) :
    Vacant attached accepted index (withdrawLocked index psy receiver) where
  others other hother := by
    rw [(withdraw_same index psy receiver).battery other hother]
    exact h.lanes other
  hdev := by
    rw [(withdraw_same index psy receiver).hdev]
    exact (h.lanes index).hdev
  vacant := by simp [withdrawLocked]
  supplies supply := by
    show supply ∈ receiver.supplies.erase psy ↔ _
    rw [withdrawLocked_supplies h hpsy]
    by_cases hlane : supply.lane = index
    · simp [withdrawLocked, hlane]
    · simp [withdrawLocked, hlane]
  nodup := h.nodup.erase psy
  batteryParent := h.batteryParent
  running := h.running

theorem forget_vacant (h : Vacant attached accepted index receiver) :
    Vacant attached accepted index (hfxBatteryForgetLocked index receiver) where
  others other hother := by
    rw [(forget_same index receiver).battery other hother]
    exact h.others other hother
  hdev := by
    rw [(forget_same index receiver).hdev]
    exact h.hdev
  vacant := by
    simp only [hfxBatteryForgetLocked, BatteryReceiver.setLane_battery, if_true]
    exact h.vacant
  supplies supply := by
    show supply ∈ receiver.supplies ↔ _
    rw [h.supplies]
    by_cases hlane : supply.lane = index
    · simp [hfxBatteryForgetLocked, hlane]
    · rw [(forget_same index receiver).battery _ hlane]
  nodup := h.nodup
  batteryParent := h.batteryParent
  running := h.running

theorem forget_coherent (h : Vacant attached accepted index receiver) :
    Coherent attached accepted (hfxBatteryForgetLocked index receiver) := by
  apply (forget_vacant h).coherent
  simp [hfxBatteryForgetLocked]

theorem unregister_coherent (h : Coherent attached accepted receiver) (index : LaneIndex) :
    Coherent attached accepted (hfxBatteryUnregisterLocked index receiver) := by
  unfold hfxBatteryUnregisterLocked
  split
  · exact h
  next psy hpsy => exact forget_coherent (withdraw_vacant h hpsy)

/-- What a registration can do: it fails and changes nothing, or there is a supply under the wanted parent. -/
theorem publish_cases (index : LaneIndex) (registration : Registration)
    (hparent : hfxBatteryParent receiver index = some parent) :
    (∃ error, hfxBatteryPublishLocked registration index receiver = (some error, receiver)) ∨
    ∃ after, hfxBatteryPublishLocked registration index receiver = (none, after) ∧
      after.battery index = { receiver.battery index with
        psy := some ⟨index, parent⟩, parent := some parent } ∧
      SameElsewhere index receiver after ∧ after.supplies = ⟨index, parent⟩ :: receiver.supplies ∧
      after.faulted = receiver.faulted := by
  unfold hfxBatteryPublishLocked
  rw [hparent]
  dsimp only
  cases registration index with
  | some error => exact .inl ⟨error, rfl⟩
  | none =>
    refine .inr ⟨_, rfl, ?_, ⟨?_, ?_, rfl, rfl⟩, rfl, rfl⟩
    · simp
    · intro other hother
      simp [hother]
    · simp

/-- A supply that was put up for a vacant lane with an owner. -/
theorem published_coherent (h : Vacant attached accepted index receiver)
    (hhdev : (receiver.battery index).hdev ≠ none) (hpsy : (after.battery index).psy = some ⟨index, parent⟩)
    (hafter : (after.battery index).parent = some parent) (hshows : Shows accepted index (after.battery index))
    (hsame : SameElsewhere index receiver after)
    (hsupplies : after.supplies = ⟨index, parent⟩ :: receiver.supplies)
    (hrunning : after.faulted = receiver.faulted) : Coherent attached accepted after where
  lanes other := by
    by_cases hother : other = index
    · rw [hother]
      refine ⟨?_, ?_, ?_⟩
      · rw [hsame.hdev]
        exact h.hdev
      · intro hnone
        rw [hpsy] at hnone
        cases hnone
      intro psy hstored
      cases hpsy.symm.trans hstored
      refine ⟨rfl, hafter, ?_, hshows⟩
      rw [hsame.hdev]
      exact hhdev
    rw [hsame.battery other hother]
    exact h.others other hother
  supplies supply := by
    rw [hsupplies, List.mem_cons, h.supplies]
    by_cases hlane : supply.lane = index
    · rw [hlane, hpsy, h.vacant]
      simp [eq_comm]
    rw [hsame.battery _ hlane]
    refine or_iff_right ?_
    intro hnew
    rw [hnew] at hlane
    exact hlane rfl
  nodup := by
    rw [hsupplies]
    apply List.nodup_cons.mpr ⟨?_, h.nodup⟩
    intro hmem
    have hstored := (h.supplies _).mp hmem
    rw [h.vacant] at hstored
    cases hstored
  batteryParent hdev hparent := by
    rw [hsame.batteryParent] at hparent
    rw [hsame.batteryParentInterface]
    exact h.batteryParent hdev hparent
  running := hrunning.trans h.running

theorem Shows.congr {next : HfxBatteryLane} (h : Shows accepted index lane) (howner : next.owner = lane.owner)
    (hcapacity : next.capacity = lane.capacity) (hstatus : next.status = lane.status)
    (hname : next.modelName = lane.modelName) :
    Shows accepted index next := by
  unfold Shows
  rw [howner, hcapacity, hstatus, hname]
  exact h

theorem Coherent.wanted_some (h : Coherent attached accepted receiver)
    (hpsy : (receiver.battery index).psy ≠ none) :
    ∃ parent, hfxBatteryParent receiver index = some parent := by
  obtain ⟨psy, hstored⟩ := Option.ne_none_iff_exists'.mp hpsy
  obtain ⟨-, -, hhdev, -⟩ := (h.lanes index).published psy hstored
  unfold hfxBatteryParent
  cases receiver.batteryParent with
  | some parent => exact ⟨parent, rfl⟩
  | none => exact Option.ne_none_iff_exists'.mp hhdev

/-- A lane that was moved: its supply, if it still has one, is in the wanted place with the same values. -/
structure Moved (attached : List HidDevice) (accepted : List AcceptedReport) (index : LaneIndex)
    (receiver after : BatteryReceiver) : Prop where
  coherent : Coherent attached accepted after
  same : SameElsewhere index receiver after
  placed : Placed after index

theorem move_moved (h : Coherent attached accepted receiver) (registration : Registration) (index : LaneIndex) :
    Moved attached accepted index receiver (hfxBatteryMoveLocked registration index receiver) := by
  have hstays : Placed receiver index → Moved attached accepted index receiver receiver := fun hplaced =>
    ⟨h, ⟨fun _ _ => rfl, rfl, rfl, rfl⟩, hplaced⟩
  unfold hfxBatteryMoveLocked
  split
  next hnone => exact hstays fun hpsy => absurd hnone hpsy
  next psy hpsy =>
    split
    next hplaced => exact hstays fun _ => hplaced
    have hpublished : (receiver.battery index).psy ≠ none := by
      rw [hpsy]
      exact Option.some_ne_none psy
    have hwithdrawn := withdraw_same index psy receiver
    have hvacant := withdraw_vacant h hpsy
    obtain ⟨parent, hparent⟩ := h.wanted_some hpublished
    have hwanted := hwithdrawn.wanted index
    rw [hparent] at hwanted
    obtain ⟨-, -, hhdev, hshows⟩ := (h.lanes index).published psy hpsy
    obtain ⟨error, hfailed⟩ | ⟨after, hpublish, hlane, hsame, hsupplies, hrunning⟩ :=
      publish_cases index registration hwanted
    · rw [hfailed]
      have hforgotten := forget_same index (withdrawLocked index psy receiver)
      have hnone := (forget_vacant hvacant).vacant
      refine ⟨forget_coherent hvacant, hwithdrawn.trans hforgotten, ?_⟩
      intro hstored
      exact absurd hnone hstored
    rw [hpublish]
    have hkept : after.battery index = { receiver.battery index with
        psy := some ⟨index, parent⟩, parent := some parent } := by
      rw [hlane]
      simp [withdrawLocked]
    refine ⟨?_, hwithdrawn.trans hsame, ?_⟩
    · apply published_coherent hvacant _ _ _ _ hsame hsupplies hrunning
      · rw [hwithdrawn.hdev]
        exact hhdev
      · rw [hkept]
      · rw [hkept]
      apply hshows.congr
      · rw [hkept]
      · rw [hkept]
      · rw [hkept]
      · rw [hkept]
    intro _
    rw [(hwithdrawn.trans hsame).wanted, hparent, hkept]

/-- Both lanes were moved. -/
structure MovedAll (attached : List HidDevice) (accepted : List AcceptedReport)
    (receiver after : BatteryReceiver) : Prop where
  coherent : Coherent attached accepted after
  placed : ∀ index, Placed after index

theorem moveAll_moved (h : Coherent attached accepted receiver) (registration : Registration) :
    MovedAll attached accepted receiver (hfxBatteryMoveAllLocked registration receiver) := by
  have hpointer := move_moved h registration .pointer
  have hkeyboard := move_moved hpointer.coherent registration .keyboard
  refine ⟨hkeyboard.coherent, ?_⟩
  intro index
  cases index with
  | pointer => exact hkeyboard.same.placed (by decide) hpointer.placed
  | keyboard => exact hkeyboard.placed

end Lanes

section Interfaces

variable {index other : LaneIndex}

theorem hfxBatteryLaneForInterface_injective {first second : Nat}
    (h : hfxBatteryLaneForInterface first = some index) (h' : hfxBatteryLaneForInterface second = some index)
    : first = second := by
  unfold hfxBatteryLaneForInterface at h h'
  split at h
  · split at h'
    · rfl
    · cases h
      cases h'
    · cases h'
  · split at h'
    · cases h
      cases h'
    · rfl
    · cases h'
  · cases h

variable {attached later : List HidDevice} {accepted : List AcceptedReport} {receiver : BatteryReceiver}
  {next : Option HidDevice} {hdev : HidDevice} {interfaceNumber : Nat}

theorem LaneSound.rebound (h : LaneSound attached accepted index lane)
    (hlater : ∀ hdev, lane.hdev = some hdev → hdev ∈ later) :
    LaneSound later accepted index lane where
  hdev hdev hstored := ⟨hlater hdev hstored, (h.hdev hdev hstored).2⟩
  unpublished := h.unpublished
  published := h.published

theorem Coherent.rebound (h : Coherent attached accepted receiver) (hlater : ∀ hdev ∈ attached, hdev ∈ later)
    : Coherent later accepted receiver where
  lanes index := (h.lanes index).rebound fun hdev hstored => hlater hdev ((h.lanes index).hdev hdev hstored).1
  supplies := h.supplies
  nodup := h.nodup
  batteryParent hdev hparent := ⟨hlater hdev (h.batteryParent hdev hparent).1, (h.batteryParent hdev hparent).2⟩
  running := h.running

theorem Coherent.unplaced (h : Coherent attached accepted receiver)
    (hhdev : (receiver.battery index).hdev = none) : (receiver.battery index).psy = none := by
  by_contra hpsy
  obtain ⟨psy, hstored⟩ := Option.ne_none_iff_exists'.mp hpsy
  exact ((h.lanes index).published psy hstored).2.2.1 hhdev

theorem setHdev_coherent (h : Coherent attached accepted receiver) (hnone : (receiver.battery index).psy = none)
    (hnext : ∀ hdev, next = some hdev →
      hdev ∈ attached ∧ hfxBatteryLaneForInterface hdev.interfaceNumber = some index) :
    Coherent attached accepted (receiver.setLane index { receiver.battery index with hdev := next }) where
  lanes other := by
    by_cases hother : other = index
    · rw [hother]
      refine ⟨?_, ?_, ?_⟩
      · intro hdev hstored
        simp only [BatteryReceiver.setLane_battery, if_true] at hstored
        exact hnext hdev hstored
      · intro _
        simp only [BatteryReceiver.setLane_battery, if_true]
        exact (h.lanes index).unpublished hnone
      intro psy hstored
      simp only [BatteryReceiver.setLane_battery, if_true, hnone] at hstored
      cases hstored
    simp only [BatteryReceiver.setLane_battery, if_neg hother]
    exact h.lanes other
  supplies supply := by
    show supply ∈ receiver.supplies ↔ _
    rw [h.supplies]
    by_cases hlane : supply.lane = index
    · simp [hlane]
    · simp [hlane]
  nodup := h.nodup
  batteryParent := h.batteryParent
  running := h.running

theorem setHdev_placed (hnone : (receiver.battery index).psy = none) (h : Placed receiver other) :
    Placed (receiver.setLane index { receiver.battery index with hdev := next }) other := by
  intro hpsy
  by_cases hother : other = index
  · rw [hother] at hpsy
    simp only [BatteryReceiver.setLane_battery, if_true] at hpsy
    exact absurd hnone hpsy
  simp only [BatteryReceiver.setLane_battery, if_neg hother] at hpsy
  unfold hfxBatteryParent
  simp only [BatteryReceiver.setLane_battery, if_neg hother]
  exact h hpsy

theorem placed_attached (h : Coherent attached accepted receiver) (hplaced : Placed receiver index)
    (hpsy : (receiver.battery index).psy = some psy) :
    psy.parent ∈ attached := by
  obtain ⟨-, hparent, -⟩ := (h.lanes index).published psy hpsy
  have hwanted := hplaced (by rw [hpsy]; exact Option.some_ne_none psy)
  rw [hparent] at hwanted
  unfold hfxBatteryParent at hwanted
  split at hwanted
  next parent hbatteryParent =>
    cases hwanted
    exact (h.batteryParent _ hbatteryParent).1
  · exact ((h.lanes index).hdev _ hwanted.symm).1

theorem attach_settled (h : Coherent attached accepted receiver) (hplaced : ∀ index, Placed receiver index)
    (hunbound : ∀ other ∈ attached, other.interfaceNumber ≠ hdev.interfaceNumber) (registration : Registration)
    :
    Coherent (hdev :: attached) accepted (hfxBatteryAttachInterface registration hdev receiver) ∧
      ∀ index, Placed (hfxBatteryAttachInterface registration hdev receiver) index := by
  have hwider : Coherent (hdev :: attached) accepted receiver :=
    h.rebound fun other hother => List.mem_cons_of_mem hdev hother
  have hadopted : Coherent (hdev :: attached) accepted (adoptLocked hdev receiver) ∧
      ∀ index, Placed (adoptLocked hdev receiver) index := by
    unfold adoptLocked
    split
    · exact ⟨hwider, hplaced⟩
    next lane hlane =>
      have hfree : (receiver.battery lane).hdev = none := by
        by_contra hbound
        obtain ⟨other, hother⟩ := Option.ne_none_iff_exists'.mp hbound
        obtain ⟨hmem, hsameLane⟩ := (h.lanes lane).hdev other hother
        exact hunbound other hmem (hfxBatteryLaneForInterface_injective hsameLane hlane)
      have hnone := h.unplaced hfree
      constructor
      · apply setHdev_coherent hwider hnone
        intro other hother
        cases hother
        exact ⟨List.mem_cons_self, hlane⟩
      intro index
      exact setHdev_placed hnone (hplaced index)
  unfold hfxBatteryAttachInterface
  dsimp only
  split
  · have hparent : Coherent (hdev :: attached) accepted { adoptLocked hdev receiver with
        batteryParent := some hdev, batteryParentInterface := hdev.interfaceNumber } := by
      refine ⟨hadopted.1.lanes, hadopted.1.supplies, hadopted.1.nodup, ?_, hadopted.1.running⟩
      intro other hother
      cases hother
      exact ⟨List.mem_cons_self, rfl⟩
    have hmoved := moveAll_moved hparent registration
    exact ⟨hmoved.coherent, hmoved.placed⟩
  · exact hadopted

theorem unregister_placed (h : Placed receiver other) :
    Placed (hfxBatteryUnregisterLocked index receiver) other := by
  by_cases hother : other = index
  · intro hpsy
    rw [hother] at hpsy
    exact absurd (unregister_psy index receiver) hpsy
  · exact (unregister_same index receiver).placed hother h

structure Abandoned (attached : List HidDevice) (accepted : List AcceptedReport) (interfaceNumber : Nat)
    (receiver after : BatteryReceiver) : Prop where
  coherent : Coherent attached accepted after
  placed : (∀ index, Placed receiver index) → ∀ index, Placed after index
  gone : ∀ index, hfxBatteryLaneForInterface interfaceNumber = some index → (after.battery index).hdev = none
  batteryParent : after.batteryParent = receiver.batteryParent
  batteryParentInterface : after.batteryParentInterface = receiver.batteryParentInterface

theorem teardownLane_abandoned (h : Coherent attached accepted receiver)
    (hlane : hfxBatteryLaneForInterface interfaceNumber = some index) :
    Abandoned attached accepted interfaceNumber receiver (teardownLane index receiver) := by
  have hunregistered := unregister_coherent h index
  have hnone := unregister_psy index receiver
  have hsame := unregister_same index receiver
  refine ⟨?_, ?_, ?_, hsame.batteryParent, hsame.batteryParentInterface⟩
  · apply setHdev_coherent hunregistered hnone
    intro hdev hnext
    cases hnext
  · intro hplaced other
    exact setHdev_placed hnone (unregister_placed (hplaced other))
  intro other hother
  cases hlane.symm.trans hother
  unfold teardownLane
  simp only [BatteryReceiver.setLane_battery, if_true]

theorem abandon_abandoned (h : Coherent attached accepted receiver) (interfaceNumber : Nat) :
    Abandoned attached accepted interfaceNumber receiver (abandonLocked interfaceNumber receiver) := by
  unfold abandonLocked
  split
  next hlane =>
    refine ⟨h, fun hplaced => hplaced, ?_, rfl, rfl⟩
    intro index hindex
    rw [hlane] at hindex
    cases hindex
  next index hlane => exact teardownLane_abandoned h hlane

theorem Abandoned.remaining {after : BatteryReceiver}
    (h : Abandoned attached accepted interfaceNumber receiver after)
    (hstored : (after.battery index).hdev = some hdev) :
    hdev ∈ attached.filter (·.interfaceNumber ≠ interfaceNumber) := by
  obtain ⟨hmem, hlane⟩ := (h.coherent.lanes index).hdev hdev hstored
  refine List.mem_filter.mpr ⟨hmem, decide_eq_true ?_⟩
  intro hinterface
  rw [hinterface] at hlane
  rw [h.gone index hlane] at hstored
  cases hstored

theorem detach_settled (h : Coherent attached accepted receiver) (hplaced : ∀ index, Placed receiver index)
    (interfaceNumber : Nat) (registration : Registration) :
    Coherent (attached.filter (·.interfaceNumber ≠ interfaceNumber)) accepted
        (hfxBatteryDetachInterface registration interfaceNumber receiver) ∧
      ∀ index, Placed (hfxBatteryDetachInterface registration interfaceNumber receiver) index := by
  have habandoned := abandon_abandoned h interfaceNumber
  have hcoherent := habandoned.coherent
  have hlanes : ∀ index, LaneSound (attached.filter (·.interfaceNumber ≠ interfaceNumber)) accepted index
      ((abandonLocked interfaceNumber receiver).battery index) := by
    intro index
    exact (hcoherent.lanes index).rebound fun hdev hstored => habandoned.remaining hstored
  unfold hfxBatteryDetachInterface
  dsimp only
  split
  · have hparentless : Coherent (attached.filter (·.interfaceNumber ≠ interfaceNumber)) accepted
        { abandonLocked interfaceNumber receiver with batteryParent := none } := by
      refine ⟨hlanes, hcoherent.supplies, hcoherent.nodup, ?_, hcoherent.running⟩
      intro hdev hparent
      cases hparent
    have hmoved := moveAll_moved hparentless registration
    exact ⟨hmoved.coherent, hmoved.placed⟩
  next hother =>
    refine ⟨⟨hlanes, hcoherent.supplies, hcoherent.nodup, ?_, hcoherent.running⟩, habandoned.placed hplaced⟩
    intro hdev hparent
    obtain ⟨hmem, hinterface⟩ := hcoherent.batteryParent hdev hparent
    refine ⟨List.mem_filter.mpr ⟨hmem, decide_eq_true ?_⟩, hinterface⟩
    intro hsame
    apply hother
    rw [hparent, hinterface]
    exact ⟨Option.some_ne_none hdev, hsame⟩

theorem releaseLane_settled (h : Coherent attached accepted receiver) (context : FileContext) (index : LaneIndex) :
    Coherent attached accepted (releaseLane context index receiver) ∧
      SameElsewhere index receiver (releaseLane context index receiver) ∧
      ((releaseLane context index receiver).battery index).owner ≠ some context ∧
      (∀ other, Placed receiver other → Placed (releaseLane context index receiver) other) := by
  unfold releaseLane
  split
  · have hunregistered := unregister_coherent h index
    have hnone := unregister_psy index receiver
    refine ⟨hunregistered, unregister_same index receiver, ?_, fun other => unregister_placed⟩
    rw [(hunregistered.lanes index).unpublished hnone]
    exact fun hcontext => by cases hcontext
  next howner => exact ⟨h, ⟨fun _ _ => rfl, rfl, rfl, rfl⟩, howner, fun _ hplaced => hplaced⟩

/-- Neither lane is owned by the context, and a supply that stays was not its own. -/
structure Released (attached : List HidDevice) (accepted : List AcceptedReport) (context : FileContext)
    (receiver after : BatteryReceiver) : Prop where
  coherent : Coherent attached accepted after
  placed : (∀ index, Placed receiver index) → ∀ index, Placed after index
  owners : ∀ index, (after.battery index).owner ≠ some context
  supplies : ∀ supply ∈ after.supplies, (receiver.battery supply.lane).psy = some supply ∧
    (receiver.battery supply.lane).owner ≠ some context

theorem releaseLane_kept (context : FileContext) (index : LaneIndex) {receiver : BatteryReceiver}
    (h : ((releaseLane context index receiver).battery index).psy ≠ none) :
    (releaseLane context index receiver).battery index = receiver.battery index ∧
      (receiver.battery index).owner ≠ some context := by
  unfold releaseLane at h ⊢
  split at h
  · exact absurd (unregister_psy index receiver) h
  next howner =>
    rw [if_neg howner]
    exact ⟨rfl, howner⟩

theorem release_released (h : Coherent attached accepted receiver) (context : FileContext) :
    Released attached accepted context receiver (hfxBatteryReleaseOwner context receiver) := by
  obtain ⟨hcoherent, hsame, howner, hplaced⟩ := releaseLane_settled h context .pointer
  obtain ⟨hcoherent', hsame', howner', hplaced'⟩ := releaseLane_settled hcoherent context .keyboard
  have hpointer := hsame'.battery .pointer (by decide)
  have hkeyboard := hsame.battery .keyboard (by decide)
  refine ⟨hcoherent', fun hall index => hplaced' index (hplaced index (hall index)), ?_, ?_⟩
  · intro index
    cases index with
    | pointer =>
      unfold hfxBatteryReleaseOwner
      rw [hpointer]
      exact howner
    | keyboard => exact howner'
  intro supply hmem
  have hstored := (hcoherent'.supplies supply).mp hmem
  have hpsy : (((hfxBatteryReleaseOwner context receiver).battery supply.lane).psy) ≠ none := by
    unfold hfxBatteryReleaseOwner
    rw [hstored]
    exact Option.some_ne_none supply
  cases hlane : supply.lane with
  | pointer =>
    rw [hlane, hpointer] at hstored
    have hkept := releaseLane_kept context .pointer (by rw [hstored]; exact Option.some_ne_none supply)
    rw [hkept.1] at hstored
    exact ⟨hstored, hkept.2⟩
  | keyboard =>
    rw [hlane] at hstored
    have hkept := releaseLane_kept context .keyboard (by rw [hstored]; exact Option.some_ne_none supply)
    rw [hkept.1, hkeyboard] at hstored
    rw [hkeyboard] at hkept
    exact ⟨hstored, hkept.2⟩

theorem teardownLane_other (hother : other ≠ index) (receiver : BatteryReceiver) :
    (teardownLane index receiver).battery other = receiver.battery other := by
  unfold teardownLane
  simp only [BatteryReceiver.setLane_battery, if_neg hother]
  exact (unregister_same index receiver).battery other hother

theorem teardownLane_psy (index : LaneIndex) (receiver : BatteryReceiver) :
    ((teardownLane index receiver).battery index).psy = none := by
  unfold teardownLane
  simp only [BatteryReceiver.setLane_battery, if_true]
  exact unregister_psy index receiver

theorem teardown_settled (h : Coherent attached accepted receiver) :
    Coherent attached accepted (hfxBatteryTeardown receiver) ∧
      ∀ index, Placed (hfxBatteryTeardown receiver) index := by
  have hpointer := teardownLane_abandoned h (rfl : hfxBatteryLaneForInterface 0 = some .pointer)
  have hkeyboard := teardownLane_abandoned hpointer.coherent
    (rfl : hfxBatteryLaneForInterface 2 = some .keyboard)
  have hcoherent := hkeyboard.coherent
  refine ⟨⟨hcoherent.lanes, hcoherent.supplies, hcoherent.nodup, ?_, hcoherent.running⟩, ?_⟩
  · intro hdev hparent
    cases hparent
  intro index hpsy
  cases index with
  | pointer =>
    have hnone := teardownLane_psy .pointer receiver
    rw [← teardownLane_other (by decide : LaneIndex.pointer ≠ .keyboard)] at hnone
    exact absurd hnone hpsy
  | keyboard => exact absurd (teardownLane_psy .keyboard _) hpsy

end Interfaces

end Battery

end HyperfluxNext
