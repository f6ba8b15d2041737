import HyperfluxNext.Driver.BatteryRuns
import HyperfluxNext.Library.StepRelation

namespace HyperfluxNext

open Procedure

namespace Battery

/-- What decides whether a report may be taken over. -/
def BatteryReceiver.authority (receiver : BatteryReceiver) : Nat × Bool × Option FileContext :=
  (receiver.generation, receiver.disconnecting, receiver.writerContext)

structure Displays (lane : HfxBatteryLane) (report : HfxUapiChildBattery) : Prop where
  published : lane.psy ≠ none
  capacity : lane.capacity = report.capacity
  status : lane.status = report.status
  modelName : lane.modelName = report.modelName

def Registered (receiver : BatteryReceiver) (index : LaneIndex) (modelName : Vector UInt8 32) : Prop :=
  (receiver.battery index).psy ≠ none ∧ (receiver.battery index).modelName = modelName

variable (registration : Registration)

section Authority

variable {receiver : BatteryReceiver}

@[simp] theorem unregister_authority (index : LaneIndex) (receiver : BatteryReceiver) :
    (hfxBatteryUnregisterLocked index receiver).authority = receiver.authority := by
  unfold hfxBatteryUnregisterLocked
  split <;> rfl

@[simp] theorem publish_authority (index : LaneIndex) (receiver : BatteryReceiver) :
    (hfxBatteryPublishLocked registration index receiver).2.authority = receiver.authority := by
  unfold hfxBatteryPublishLocked
  split
  · rfl
  · split <;> rfl

@[simp] theorem move_authority (index : LaneIndex) (receiver : BatteryReceiver) :
    (hfxBatteryMoveLocked registration index receiver).authority = receiver.authority := by
  unfold hfxBatteryMoveLocked
  split
  · rfl
  next psy _ =>
    have hpublish := publish_authority registration index (withdrawLocked index psy receiver)
    split
    · rfl
    split
    next heq =>
      rw [heq] at hpublish
      exact hpublish
    next heq =>
      rw [heq] at hpublish
      exact hpublish

@[simp] theorem moveAll_authority (receiver : BatteryReceiver) :
    (hfxBatteryMoveAllLocked registration receiver).authority = receiver.authority := by
  unfold hfxBatteryMoveAllLocked
  rw [move_authority, move_authority]

theorem attach_authority (hdev : HidDevice) (receiver : BatteryReceiver) :
    (hfxBatteryAttachInterface registration hdev receiver).authority = receiver.authority := by
  have hadopt : (adoptLocked hdev receiver).authority = receiver.authority := by
    unfold adoptLocked
    split <;> rfl
  unfold hfxBatteryAttachInterface
  dsimp only
  split
  · rw [moveAll_authority]
    exact hadopt
  · exact hadopt

theorem detach_authority (interfaceNumber : Nat) (receiver : BatteryReceiver) :
    (hfxBatteryDetachInterface registration interfaceNumber receiver).authority = receiver.authority := by
  have habandon : (abandonLocked interfaceNumber receiver).authority = receiver.authority := by
    unfold abandonLocked
    split
    · rfl
    · exact unregister_authority _ receiver
  unfold hfxBatteryDetachInterface
  dsimp only
  split
  · rw [moveAll_authority]
    exact habandon
  · exact habandon

theorem releaseOwner_authority (context : FileContext) (receiver : BatteryReceiver) :
    (hfxBatteryReleaseOwner context receiver).authority = receiver.authority := by
  have hlane : ∀ index receiver, (releaseLane context index receiver).authority = receiver.authority := by
    intro index receiver
    unfold releaseLane
    split
    · exact unregister_authority index receiver
    · rfl
  unfold hfxBatteryReleaseOwner
  rw [hlane, hlane]

end Authority

structure ReportFrame (index : LaneIndex) (receiver after : BatteryReceiver) : Prop where
  elsewhere : SameElsewhere index receiver after
  authority : after.authority = receiver.authority

instance (index : LaneIndex) : Std.Refl (ReportFrame index) := ⟨fun _ => ⟨⟨fun _ _ => rfl, rfl, rfl, rfl⟩, rfl⟩⟩

instance (index : LaneIndex) : IsTrans BatteryReceiver (ReportFrame index) :=
  ⟨fun _ _ _ h h' => ⟨h.elsewhere.trans h'.elsewhere, h'.authority.trans h.authority⟩⟩

section Outcomes

variable {receiver : BatteryReceiver} {index : LaneIndex} {report : HfxUapiChildBattery}

theorem rename_frame (modelName : Vector UInt8 32) (receiver : BatteryReceiver) :
    ReportFrame index receiver (renameLocked index modelName receiver) := by
  unfold renameLocked
  split
  · exact ⟨unregister_same index receiver, unregister_authority index receiver⟩
  · exact Std.Refl.refl receiver

theorem store_frame (report : HfxUapiChildBattery) (receiver : BatteryReceiver) :
    ReportFrame index receiver (storeLocked index report receiver) :=
  ⟨setLane_same index rfl, rfl⟩

theorem parent_of_bound (hhdev : (receiver.battery index).hdev ≠ none) :
    ∃ parent, hfxBatteryParent receiver index = some parent := by
  unfold hfxBatteryParent
  cases receiver.batteryParent with
  | some parent => exact ⟨parent, rfl⟩
  | none => exact Option.ne_none_iff_exists'.mp hhdev

/-- How a present reading ends: it is displayed, or its registration failed and nothing is published. -/
theorem present_outcome (hhdev : (receiver.battery index).hdev ≠ none) (registration : Registration)
    (context : FileContext) (report : HfxUapiChildBattery) :
    Holds (presentLocked registration index context report) receiver
      (fun _ after => ReportFrame index receiver after ∧ Displays (after.battery index) report ∧
        (Registered receiver index report.modelName ∨ registration index = none))
      (fun _ after => ReportFrame index receiver after ∧ (after.battery index).psy = none ∧
        ¬Registered receiver index report.modelName ∧ registration index ≠ none) := by
  have hrenamed : ReportFrame index receiver (renameLocked index report.modelName receiver) :=
    rename_frame report.modelName receiver
  have hstored := (@store_frame index report (renameLocked index report.modelName receiver))
  have hframe := IsTrans.trans _ _ _ hrenamed hstored
  unfold presentLocked
  rw [holds_bind, holds_get]
  dsimp only
  rw [holds_bind, holds_set]
  by_cases hregistered : Registered receiver index report.modelName
  · have hsame : renameLocked index report.modelName receiver = receiver := by
      unfold renameLocked
      rw [if_neg]
      intro hother
      exact hother.2 hregistered.2
    rw [hsame] at hframe ⊢
    have hlane : (storeLocked index report receiver).battery index = { receiver.battery index with
        capacity := report.capacity, status := report.status, modelName := report.modelName } := by
      unfold storeLocked
      simp only [BatteryReceiver.setLane_battery, if_true, if_neg hregistered.1]
      rw [hregistered.2]
    have hsome : ((storeLocked index report receiver).battery index).psy.isSome = true := by
      rw [hlane]
      exact Option.isSome_iff_ne_none.mpr hregistered.1
    rw [if_pos hsome, holds_set]
    refine ⟨IsTrans.trans _ _ _ hframe ⟨setLane_same index rfl, rfl⟩, ?_, .inl hregistered⟩
    simp only [BatteryReceiver.setLane_battery, if_true, hlane]
    exact ⟨hregistered.1, rfl, rfl, rfl⟩
  · have hnone : ((renameLocked index report.modelName receiver).battery index).psy = none := by
      unfold renameLocked
      split
      · exact unregister_psy index receiver
      next hkept =>
        by_contra hpsy
        apply hregistered
        refine ⟨hpsy, ?_⟩
        by_contra hname
        exact hkept ⟨Option.isSome_iff_ne_none.mpr hpsy, hname⟩
    generalize renameLocked index report.modelName receiver = renamed at hframe hnone ⊢
    have hlane : (storeLocked index report renamed).battery index = { renamed.battery index with
        capacity := report.capacity, status := report.status, modelName := report.modelName } := by
      unfold storeLocked
      simp only [BatteryReceiver.setLane_battery, if_true, if_pos hnone]
    have hbound : ((storeLocked index report renamed).battery index).hdev ≠ none := by
      rw [hframe.elsewhere.hdev]
      exact hhdev
    have hvacant : ((storeLocked index report renamed).battery index).psy = none := by
      rw [hlane]
      exact hnone
    rw [if_neg (by rw [hvacant]; exact Bool.false_ne_true)]
    generalize storeLocked index report renamed = stored at hframe hlane hbound hvacant ⊢
    obtain ⟨parent, hparent⟩ := parent_of_bound hbound
    unfold hfxBatteryRegisterLocked
    rw [holds_bind, holds_get]
    unfold hfxBatteryPublishLocked
    rw [hparent]
    dsimp only
    cases hregistration : registration index with
    | some error => exact ⟨hframe, hvacant, hregistered, nofun⟩
    | none =>
      dsimp only
      rw [holds_set]
      refine ⟨IsTrans.trans _ _ _ hframe ⟨⟨?_, ?_, rfl, rfl⟩, rfl⟩, ?_, .inr rfl⟩
      · intro other hother
        simp [hother]
      · simp
      constructor
      · simp
      · simp [hlane]
      · simp [hlane]
      · simp [hlane]

theorem reportLocked_frame (index : LaneIndex) (context : FileContext) (report : HfxUapiChildBattery) :
    Steps (ReportFrame index) (reportLocked registration index context report) := by
  unfold reportLocked
  apply steps_get
  intro receiver
  rw [holds_bind, holds_refuse]
  refine ⟨fun _ => Std.Refl.refl receiver, fun _ => ?_⟩
  rw [holds_bind, holds_refuse]
  refine ⟨fun _ => Std.Refl.refl receiver, fun _ => ?_⟩
  split
  · rw [holds_modify]
    exact ⟨unregister_same index receiver, unregister_authority index receiver⟩
  rw [holds_bind, holds_refuse]
  refine ⟨fun _ => Std.Refl.refl receiver, fun hhdev => ?_⟩
  apply holds_mono (present_outcome hhdev registration context report)
  · intro _ after h
    exact h.1
  intro _ after h
  exact h.1

end Outcomes

end Battery

end HyperfluxNext
