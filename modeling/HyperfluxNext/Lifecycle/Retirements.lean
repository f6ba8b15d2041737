import Mathlib.Data.List.DropRight
import HyperfluxNext.Lifecycle.Generations

namespace HyperfluxNext

namespace ReceiverLifecycleMachine

open LifecycleOp List

variable {machine : ReceiverLifecycleMachine} {stamp : ObservationStamp}

/-- What a call does to the generations: it keeps the current one, starts one that is not retired, or retires the
current one, which may start another. -/
def Turned (machine : ReceiverLifecycleMachine) (stamp : ObservationStamp)
    (machine' : ReceiverLifecycleMachine) : Prop :=
  (machine'.currentGeneration = machine.currentGeneration ∧
    machine'.retiredGenerations = machine.retiredGenerations) ∨
  (machine.currentGeneration = none ∧ stamp.generationId ∉ machine.retiredGenerations ∧
    machine'.currentGeneration = some stamp.generationId ∧
    machine'.retiredGenerations = machine.retiredGenerations) ∨
  (∃ id, machine.currentGeneration = some id ∧
    machine'.retiredGenerations = (machine.rememberRetiredGeneration id).retiredGenerations ∧
    (machine'.currentGeneration = none ∨ (stamp.generationId ≠ id ∧
      stamp.generationId ∉ machine.retiredGenerations ∧
      machine'.currentGeneration = some stamp.generationId)))

theorem currentGeneration_of_current {current : ReceiverGenerationLifecycle}
    (h : machine.current = some current) : machine.currentGeneration = some current.generationId := by
  unfold currentGeneration
  rw [h]
  rfl

section

variable (machine : ReceiverLifecycleMachine)

theorem Turned.refl (stamp : ObservationStamp) :
    machine.Turned stamp machine :=
  .inl ⟨rfl, rfl⟩

theorem discover_turned (stamp : ObservationStamp) :
    machine.Turned stamp (machine.discover stamp).2 := by
  unfold discover
  split
  · exact .refl machine stamp
  next hfresh =>
    split
    · exact .refl machine stamp
    next habsent =>
      split
      · exact .refl machine stamp
      refine .inr (.inl ⟨?_, fun hmem => hfresh (.inr hmem), rfl, rfl⟩)
      unfold currentGeneration
      rw [Option.not_isSome_iff_eq_none.mp habsent]
      rfl

theorem replaceGeneration_turned (stamp : ObservationStamp) :
    machine.Turned stamp (machine.replaceGeneration stamp).2 := by
  unfold replaceGeneration
  split
  · split <;> exact .refl machine stamp
  next current hcurrent =>
    split
    · exact .refl machine stamp
    next hfresh =>
      split
      · exact .refl machine stamp
      obtain ⟨hother, hunretired⟩ := not_or.mp hfresh
      exact .inr (.inr ⟨current.generationId, currentGeneration_of_current hcurrent, rfl,
        .inr ⟨hother, hunretired, rfl⟩⟩)

theorem transitionReceiver_turned (target : ReceiverLifecycleState)
    (stamp : ObservationStamp) : machine.Turned stamp (machine.transitionReceiver target stamp).2 := by
  unfold transitionReceiver
  split
  · exact .refl machine stamp
  split
  · exact .refl machine stamp
  next current hcurrent =>
    split
    · exact .refl machine stamp
    split
    · exact .refl machine stamp
    · exact .inl ⟨(currentGeneration_of_current hcurrent).symm, rfl⟩

end

theorem rememberRetiredGeneration_retired {other : ReceiverLifecycleMachine} (id : GenerationId)
    (h : other.retiredGenerations = machine.retiredGenerations) :
    (other.rememberRetiredGeneration id).retiredGenerations =
      (machine.rememberRetiredGeneration id).retiredGenerations := by
  unfold rememberRetiredGeneration
  rw [h]
  split
  · exact h
  · split <;> rfl

section

variable (machine : ReceiverLifecycleMachine)

theorem completeDisconnect_turned (stamp : ObservationStamp) :
    machine.Turned stamp (machine.completeDisconnect stamp).2 := by
  unfold completeDisconnect
  split
  · exact .refl machine stamp
  split
  · exact .refl machine stamp
  next current hcurrent =>
    split
    · exact .refl machine stamp
    split
    · exact .refl machine stamp
    refine .inr (.inr ⟨current.generationId, currentGeneration_of_current hcurrent,
      rememberRetiredGeneration_retired _ rfl, .inl ?_⟩)
    unfold currentGeneration
    rw [rememberRetiredGeneration_current]
    rfl

theorem registerDevice_turned (identity : ChildIdentity)
    (stamp : ObservationStamp) : machine.Turned stamp (machine.registerDevice identity stamp).2 := by
  unfold registerDevice
  split
  · exact .refl machine stamp
  split
  · exact .refl machine stamp
  next current hcurrent =>
    have hsame := currentGeneration_of_current hcurrent
    split
    · exact .refl machine stamp
    split
    · split
      · exact .refl machine stamp
      split
      · exact .refl machine stamp
      split
      · exact .refl machine stamp
      · exact .inl ⟨hsame.symm, rfl⟩
    split
    · exact .refl machine stamp
    · exact .inl ⟨hsame.symm, rfl⟩

theorem onDevice_turned (deviceId : LogicalDeviceId)
    (stamp : ObservationStamp)
    (update : DeviceLifecycle → Except LifecycleError ApplyOutcome × DeviceLifecycle) :
    machine.Turned stamp (machine.onDevice deviceId stamp update).2 := by
  unfold onDevice
  split
  · exact .refl machine stamp
  split
  · exact .refl machine stamp
  next current hcurrent =>
    split
    · exact .refl machine stamp
    · exact .inl ⟨(currentGeneration_of_current hcurrent).symm, rfl⟩

theorem observeEndpointFact_turned {α : Type} [DecidableEq α]
    (deviceId : LogicalDeviceId) (endpointId : EndpointId) (unknown value : α)
    (stamp : ObservationStamp) (field : FactField EndpointLifecycle α) :
    machine.Turned stamp (machine.observeEndpointFact deviceId endpointId unknown value stamp field).2 := by
  unfold observeEndpointFact
  split
  · exact .refl machine stamp
  · exact onDevice_turned machine deviceId stamp _

end

theorem generationRejection_of_ne {id : GenerationId} (h : machine.currentGeneration ≠ some id) :
    ∃ outcome, machine.generationRejection id = some outcome ∧ outcome ≠ .applied := by
  unfold generationRejection
  split
  next current hcurrent =>
    rw [currentGeneration_of_current hcurrent] at h
    rw [if_neg (fun hsame => h (congrArg some hsame.symm))]
    exact ⟨_, rfl, nofun⟩
  split
  · exact ⟨_, rfl, nofun⟩
  · exact ⟨_, rfl, nofun⟩

theorem deviceObservationRejection_of_ne (h : machine.currentGeneration ≠ some stamp.generationId) :
    ∃ outcome, machine.deviceObservationRejection stamp = some outcome ∧ outcome ≠ .applied := by
  obtain ⟨outcome, hrejection, houtcome⟩ := generationRejection_of_ne h
  refine ⟨outcome, ?_, houtcome⟩
  unfold deviceObservationRejection
  rw [hrejection]

theorem discover_retired (h : stamp.generationId ∈ machine.retiredGenerations) :
    (machine.discover stamp).1 ≠ .applied := by
  unfold discover
  rw [if_pos (.inr h)]
  exact nofun

theorem replaceGeneration_retired (h : stamp.generationId ∈ machine.retiredGenerations) :
    (machine.replaceGeneration stamp).1 ≠ .applied := by
  unfold replaceGeneration
  split
  · split <;> exact nofun
  rw [if_pos (.inr h)]
  exact nofun

section

variable (h : machine.currentGeneration ≠ some stamp.generationId)
include h

theorem transitionReceiver_of_ne
    (target : ReceiverLifecycleState) : (machine.transitionReceiver target stamp).1 ≠ .applied := by
  obtain ⟨outcome, hrejection, houtcome⟩ := generationRejection_of_ne h
  unfold transitionReceiver
  rw [hrejection]
  exact houtcome

theorem completeDisconnect_of_ne : (machine.completeDisconnect stamp).1 ≠ .applied := by
  obtain ⟨outcome, hrejection, houtcome⟩ := generationRejection_of_ne h
  unfold completeDisconnect
  rw [hrejection]
  exact houtcome

theorem registerDevice_of_ne
    (identity : ChildIdentity) : (machine.registerDevice identity stamp).1 ≠ .ok .applied := by
  obtain ⟨outcome, hrejection, houtcome⟩ := deviceObservationRejection_of_ne h
  unfold registerDevice
  rw [hrejection]
  intro hresult
  exact houtcome (Except.ok.inj hresult)

theorem onDevice_of_ne (deviceId : LogicalDeviceId)
    (update : DeviceLifecycle → Except LifecycleError ApplyOutcome × DeviceLifecycle) :
    (machine.onDevice deviceId stamp update).1 ≠ .ok .applied := by
  obtain ⟨outcome, hrejection, houtcome⟩ := deviceObservationRejection_of_ne h
  unfold onDevice
  rw [hrejection]
  intro hresult
  exact houtcome (Except.ok.inj hresult)

theorem observeEndpointFact_of_ne {α : Type} [DecidableEq α] (deviceId : LogicalDeviceId)
    (endpointId : EndpointId) (unknown value : α) (field : FactField EndpointLifecycle α) :
    (machine.observeEndpointFact deviceId endpointId unknown value stamp field).1 ≠ .ok .applied := by
  unfold observeEndpointFact
  split
  · exact nofun
  · exact onDevice_of_ne h deviceId _

end

end ReceiverLifecycleMachine

open ReceiverLifecycleMachine

theorem LifecycleOp.call_turned (op : LifecycleOp) (stamp : ObservationStamp)
    (machine : ReceiverLifecycleMachine) : machine.Turned stamp (op.call stamp machine).2 := by
  cases op with
  | discover => exact discover_turned machine stamp
  | replaceGeneration => exact replaceGeneration_turned machine stamp
  | transitionReceiver target => exact transitionReceiver_turned machine target stamp
  | completeDisconnect => exact completeDisconnect_turned machine stamp
  | registerDevice identity => exact registerDevice_turned machine identity stamp
  | observePairing deviceId value =>
    unfold call ReceiverLifecycleMachine.observePairing
    dsimp only
    split
    · exact .refl machine stamp
    · exact onDevice_turned machine deviceId stamp _
  | observeBatteryReported deviceId percentage => exact onDevice_turned machine deviceId stamp _
  | observeBatteryUnavailable deviceId => exact onDevice_turned machine deviceId stamp _
  | observeBatteryCharge deviceId charge => exact onDevice_turned machine deviceId stamp _
  | markBatteryStale deviceId => exact onDevice_turned machine deviceId stamp _
  | registerEndpoint deviceId identity => exact onDevice_turned machine deviceId stamp _
  | observeRoute deviceId endpointId value => exact observeEndpointFact_turned machine _ _ _ _ _ _
  | observePower deviceId endpointId value => exact observeEndpointFact_turned machine _ _ _ _ _ _
  | observeSleep deviceId endpointId value => exact observeEndpointFact_turned machine _ _ _ _ _ _
  | observeActivity deviceId endpointId value => exact observeEndpointFact_turned machine _ _ _ _ _ _
  | observeContact deviceId endpointId value =>
    unfold call ReceiverLifecycleMachine.observeContact
    dsimp only
    split
    · exact .refl machine stamp
    · exact onDevice_turned machine deviceId stamp _
  | observeFreshness deviceId endpointId value => exact observeEndpointFact_turned machine _ _ _ _ _ _

theorem LifecycleOp.call_retired {machine : ReceiverLifecycleMachine} {stamp : ObservationStamp}
    (hne : machine.currentGeneration ≠ some stamp.generationId)
    (hretired : stamp.generationId ∈ machine.retiredGenerations) (op : LifecycleOp) :
    (op.call stamp machine).1 ≠ .ok .applied := by
  cases op with
  | discover => exact fun hresult => discover_retired hretired (Except.ok.inj hresult)
  | replaceGeneration => exact fun hresult => replaceGeneration_retired hretired (Except.ok.inj hresult)
  | transitionReceiver target => exact fun hresult => transitionReceiver_of_ne hne target (Except.ok.inj hresult)
  | completeDisconnect => exact fun hresult => completeDisconnect_of_ne hne (Except.ok.inj hresult)
  | registerDevice identity => exact registerDevice_of_ne hne identity
  | observePairing deviceId value =>
    unfold call ReceiverLifecycleMachine.observePairing
    dsimp only
    split
    · exact nofun
    · exact onDevice_of_ne hne deviceId _
  | observeBatteryReported deviceId percentage => exact onDevice_of_ne hne deviceId _
  | observeBatteryUnavailable deviceId => exact onDevice_of_ne hne deviceId _
  | observeBatteryCharge deviceId charge => exact onDevice_of_ne hne deviceId _
  | markBatteryStale deviceId | registerEndpoint deviceId identity => exact onDevice_of_ne hne deviceId _
  | observeRoute deviceId endpointId value => exact observeEndpointFact_of_ne hne _ _ _ _ _
  | observePower deviceId endpointId value => exact observeEndpointFact_of_ne hne _ _ _ _ _
  | observeSleep deviceId endpointId value => exact observeEndpointFact_of_ne hne _ _ _ _ _
  | observeActivity deviceId endpointId value => exact observeEndpointFact_of_ne hne _ _ _ _ _
  | observeContact deviceId endpointId value =>
    unfold call ReceiverLifecycleMachine.observeContact
    dsimp only
    split
    · exact nofun
    · exact onDevice_of_ne hne deviceId _
  | observeFreshness deviceId endpointId value => exact observeEndpointFact_of_ne hne _ _ _ _ _

/-- The generation that a call retired: the current one, unless it stays current. -/
def retiredBy (machine machine' : ReceiverLifecycleMachine) : List GenerationId :=
  if machine'.currentGeneration = machine.currentGeneration then [] else
    machine.currentGeneration.toList

/-- The machine after any run of calls, with the generations it has retired, oldest first. -/
inductive MachineReach (receiverId : ReceiverId) (limits : LifecycleLimits) :
    List GenerationId → ReceiverLifecycleMachine → Prop
  | start : MachineReach receiverId limits [] (.new receiverId limits)
  | call {retirements : List GenerationId} {machine : ReceiverLifecycleMachine} (op : LifecycleOp)
      (stamp : ObservationStamp) : MachineReach receiverId limits retirements machine →
      MachineReach receiverId limits
        (retirements ++ retiredBy machine (op.call stamp machine).2) (op.call stamp machine).2

/-- The retired list is the newest part of the retirements, and holds neither twins nor the current one. -/
structure RetiredInOrder (retirements : List GenerationId) (machine : ReceiverLifecycleMachine) : Prop where
  newest : machine.retiredGenerations = retirements.rtake maxRetiredGenerations
  current : ∀ id, machine.currentGeneration = some id → id ∉ machine.retiredGenerations
  distinct : machine.retiredGenerations.Nodup

theorem rtake_length_le {α : Type} (l : List α) (n : Nat) : (l.rtake n).length ≤ n := by
  unfold List.rtake
  rw [List.length_drop]
  omega

/-- One more element moves the window by one. -/
theorem rtake_append_singleton {α : Type} (l : List α) (n : Nat) (x : α) :
    (l ++ [x]).rtake (n + 1) =
      if (l.rtake (n + 1)).length = n + 1 then (l.rtake (n + 1)).tail ++ [x]
      else l.rtake (n + 1) ++ [x] := by
  rw [List.rtake_concat_succ]
  unfold List.rtake
  split
  next hfull =>
    rw [List.length_drop] at hfull
    rw [List.tail_drop, show l.length - (n + 1) + 1 = l.length - n by omega]
  next hroom =>
    rw [List.length_drop] at hroom
    rw [show l.length - (n + 1) = 0 by omega, show l.length - n = 0 by omega]

theorem RetiredInOrder.turned {retirements : List GenerationId} {machine machine' : ReceiverLifecycleMachine}
    {stamp : ObservationStamp} (h : RetiredInOrder retirements machine)
    (hturned : machine.Turned stamp machine') :
    RetiredInOrder (retirements ++ retiredBy machine machine') machine' := by
  obtain ⟨hcurrent, hretired⟩ | ⟨hnone, hfresh, hcurrent, hretired⟩ | ⟨id, hid, hretired, hnext⟩ := hturned
  · have hby : retiredBy machine machine' = [] := if_pos hcurrent
    rw [hby, List.append_nil]
    refine ⟨hretired.trans h.newest, ?_, hretired ▸ h.distinct⟩
    intro id hid
    rw [hretired]
    exact h.current id (hcurrent ▸ hid)
  · have hby : retiredBy machine machine' = [] := by
      unfold retiredBy
      rw [hnone]
      split <;> rfl
    rw [hby, List.append_nil]
    refine ⟨hretired.trans h.newest, ?_, hretired ▸ h.distinct⟩
    intro id hid
    rw [hcurrent] at hid
    cases hid
    rw [hretired]
    exact hfresh
  have hleft : machine'.currentGeneration ≠ some id := by
    obtain hnone | ⟨hother, -, hsome⟩ := hnext
    · rw [hnone]
      exact nofun
    rw [hsome]
    exact fun hsame => hother (Option.some.inj hsame)
  have hby : retiredBy machine machine' = [id] := by
    unfold retiredBy
    rw [hid, if_neg hleft]
    rfl
  have hnew : id ∉ machine.retiredGenerations := h.current id hid
  have hlist : machine'.retiredGenerations = (retirements ++ [id]).rtake maxRetiredGenerations := by
    have hwindow := rtake_append_singleton retirements 255 id
    rw [show 255 + 1 = maxRetiredGenerations from rfl, ← h.newest] at hwindow
    rw [hretired, hwindow]
    unfold rememberRetiredGeneration
    rw [if_neg hnew]
    split <;> rfl
  have hmem : ∀ other ∈ machine'.retiredGenerations, other ∈ machine.retiredGenerations ∨ other = id := by
    intro other hother
    rw [hretired] at hother
    unfold rememberRetiredGeneration at hother
    rw [if_neg hnew] at hother
    split at hother
    · obtain hold | hsame := List.mem_append.mp hother
      · exact .inl (List.mem_of_mem_tail hold)
      · exact .inr (List.mem_singleton.mp hsame)
    obtain hold | hsame := List.mem_append.mp hother
    · exact .inl hold
    · exact .inr (List.mem_singleton.mp hsame)
  rw [hby]
  refine ⟨hlist, ?_, ?_⟩
  · intro next hcurrent hin
    obtain hnone | ⟨hother, hfresh, hsome⟩ := hnext
    · rw [hnone] at hcurrent
      cases hcurrent
    rw [hsome] at hcurrent
    cases hcurrent
    obtain hold | hsame := hmem _ hin
    · exact hfresh hold
    · exact hother hsame
  have hconcat : ∀ old : List GenerationId, old.Nodup → id ∉ old → (old ++ [id]).Nodup :=
    fun old hnodup hnot => List.nodup_append.mpr ⟨hnodup, List.nodup_cons.mpr ⟨List.not_mem_nil, List.nodup_nil⟩,
      fun other hother last hlast hsame => hnot (by
        rw [List.mem_singleton.mp hlast] at hsame
        exact hsame ▸ hother)⟩
  rw [hretired]
  unfold rememberRetiredGeneration
  rw [if_neg hnew]
  split
  · exact hconcat _ h.distinct.tail (fun hin => hnew (List.mem_of_mem_tail hin))
  · exact hconcat _ h.distinct hnew

variable {receiverId : ReceiverId} {limits : LifecycleLimits} {retirements : List GenerationId}
  {machine : ReceiverLifecycleMachine}

theorem machineReach_retiredInOrder (h : MachineReach receiverId limits retirements machine) :
    RetiredInOrder retirements machine := by
  induction h with
  | start => exact ⟨rfl, nofun, List.nodup_nil⟩
  | call op stamp _ ih => exact ih.turned (op.call_turned stamp _)

theorem machineReach_disciplined (h : MachineReach receiverId limits retirements machine) :
    machine.Disciplined := by
  induction h with
  | start =>
    intro _ hid
    cases hid
  | call op stamp _ ih => exact (op.call_called ih stamp).disciplined

/-- The retired list is bounded and distinct and never holds the current generation; a generation among the last
retirements does not become current again, whatever is called, and none of its evidence is applied. -/
theorem machineReach_irreversible (h : MachineReach receiverId limits retirements machine) :
    (∀ id, machine.currentGeneration = some id → id ∉ machine.retiredGenerations) ∧
    machine.retiredGenerations.Nodup ∧
    machine.retiredGenerations.length ≤ maxRetiredGenerations ∧
    ∀ id ∈ retirements.rtake maxRetiredGenerations,
      machine.currentGeneration ≠ some id ∧
      (∀ (op : LifecycleOp) (stamp : ObservationStamp), (op.call stamp machine).2.currentGeneration ≠ some id) ∧
      ∀ (op : LifecycleOp) (stamp : ObservationStamp), stamp.generationId = id →
        (op.call stamp machine).1 ≠ .ok .applied ∧
        (op.call stamp machine).2.contents = machine.contents := by
  have hordered := machineReach_retiredInOrder h
  refine ⟨hordered.current, hordered.distinct, ?_, ?_⟩
  · rw [hordered.newest]
    exact rtake_length_le retirements maxRetiredGenerations
  intro id hid
  rw [← hordered.newest] at hid
  have hne : machine.currentGeneration ≠ some id := fun hsame => hordered.current id hsame hid
  refine ⟨hne, ?_, ?_⟩
  · intro op stamp hsame
    obtain ⟨hcurrent, -⟩ | ⟨-, hfresh, hcurrent, -⟩ | ⟨_, -, -, hnext⟩ := op.call_turned stamp machine
    · rw [hcurrent] at hsame
      exact hne hsame
    · rw [hcurrent] at hsame
      cases hsame
      exact hfresh hid
    obtain hcurrent | ⟨-, hfresh, hcurrent⟩ := hnext
    · rw [hcurrent] at hsame
      cases hsame
    rw [hcurrent] at hsame
    cases hsame
    exact hfresh hid
  intro op stamp hstamp
  rw [← hstamp] at hne hid
  have hrefused := LifecycleOp.call_retired hne hid op
  exact ⟨hrefused, (op.call_called (machineReach_disciplined h) stamp).unchanged hrefused⟩

/-- Every stamp held for a device is of the current generation and not after the device's latest observation; a call
moves a stamp only forward, and a call that is not applied changes nothing. -/
theorem machineReach_stamps (h : MachineReach receiverId limits retirements machine) :
    (∀ generation, machine.current = some generation →
      ∀ (id : LogicalDeviceId) (device : DeviceLifecycle), generation.devices[id]? = some device →
      ∀ stamp ∈ device.stamps, stamp.generationId = generation.generationId ∧
        stamp.sequence.get ≤ device.latestObservation.sequence.get ∧
        stamp.observedAtMs.get ≤ device.latestObservation.observedAtMs.get) ∧
    ∀ (op : LifecycleOp) (stamp : ObservationStamp),
      (∀ old new, machine.current = some old → (op.call stamp machine).2.current = some new →
        new.generationId = old.generationId → old.Advances new) ∧
      ((op.call stamp machine).1 ≠ .ok .applied → (op.call stamp machine).2.contents = machine.contents) := by
  have hdisciplined := machineReach_disciplined h
  refine ⟨?_, ?_⟩
  · intro generation hgeneration id device hdevice stamp hstamp
    have hheld := ((hdisciplined generation hgeneration).devices id device hdevice).2
    obtain ⟨hsame, hsequence, htime⟩ := ObservationStamp.atOrAfter_iff.mp (hheld.dated stamp hstamp)
    exact ⟨hsame.symm.trans hheld.generation, hsequence, htime⟩
  intro op stamp
  have hcalled := op.call_called hdisciplined stamp
  exact ⟨hcalled.advances, hcalled.unchanged⟩

section Samples

def sampleReceiver : ReceiverId := .lit "receiver"

def sampleMouse : ChildIdentity where
  deviceId := .lit "mouse"
  deviceKind := .mouse
  productId := .lit 1
  child := by decide

def sampleLimits : LifecycleLimits := ⟨32, 8, by decide, by decide⟩

def sampleStamp (generationId : GenerationId) (sequence : SequenceNumber) (observedAtMs : MonotonicMs) :
    ObservationStamp :=
  ⟨generationId, sequence, observedAtMs, .observed, .lit "claim", observed_known⟩

def firstGeneration : GenerationId := .lit 1

def secondGeneration : GenerationId := .lit 2

def firstStamp (sequence : SequenceNumber) : ObservationStamp :=
  sampleStamp firstGeneration sequence (.lit 5)

def discovered : ReceiverLifecycleMachine :=
  (LifecycleOp.discover.call (firstStamp (.lit 1)) (.new sampleReceiver sampleLimits)).2

def replaced : ReceiverLifecycleMachine :=
  (LifecycleOp.replaceGeneration.call
    (sampleStamp secondGeneration (.lit 1) (.lit 6)) discovered).2

theorem discovered_reach : MachineReach sampleReceiver sampleLimits [] discovered := by
  have hreach := MachineReach.call .discover (firstStamp (.lit 1))
    (@MachineReach.start sampleReceiver sampleLimits)
  have hretired : retiredBy (.new sampleReceiver sampleLimits) discovered = [] := by decide
  rw [show (LifecycleOp.discover.call _ _).2 = discovered from rfl, hretired] at hreach
  exact hreach

theorem replaced_reach : MachineReach sampleReceiver sampleLimits [firstGeneration] replaced := by
  have hreach := MachineReach.call .replaceGeneration
    (sampleStamp secondGeneration (.lit 1) (.lit 6)) discovered_reach
  have hretired : retiredBy discovered replaced = [firstGeneration] := by decide
  rw [show (LifecycleOp.replaceGeneration.call _ _).2 = replaced from rfl, hretired] at hreach
  exact hreach

/-- The replaced generation is in the list, and cannot be discovered again. -/
theorem machineReach_irreversible_replaced : replaced.currentGeneration = some secondGeneration ∧
    replaced.retiredGenerations = [firstGeneration] ∧
    (LifecycleOp.discover.call (firstStamp (.lit 9)) replaced).2.currentGeneration ≠
      some firstGeneration :=
  ⟨by decide, by decide, ((machineReach_irreversible replaced_reach).2.2.2 firstGeneration
    (by decide)).2.1 _ _⟩

def mouseRegistered : ReceiverLifecycleMachine :=
  ((LifecycleOp.registerDevice sampleMouse).call (firstStamp (.lit 2)) discovered).2

theorem mouseRegistered_reach : MachineReach sampleReceiver sampleLimits [] mouseRegistered := by
  have hreach := MachineReach.call (.registerDevice sampleMouse) (firstStamp (.lit 2))
    discovered_reach
  have hretired : retiredBy discovered mouseRegistered = [] := by decide
  rw [show (LifecycleOp.call _ _ _).2 = mouseRegistered from rfl, hretired] at hreach
  exact hreach

/-- Pairing evidence from before the latest observation leaves the machine as it was. -/
theorem machineReach_stamps_mouse :
    ((LifecycleOp.observePairing sampleMouse.deviceId .paired).call
      (firstStamp (.lit 1)) mouseRegistered).2.contents = mouseRegistered.contents :=
  ((machineReach_stamps mouseRegistered_reach).2 _ _).2 (by decide +kernel)

end Samples

end HyperfluxNext
