import HyperfluxNext.Daemon.BroadTriggers
import HyperfluxNext.Library.Allotment
import Mathlib.Algebra.Group.Action.Defs

namespace HyperfluxNext

open Procedure Allotment List

abbrev ReceiverGeneration := ReceiverId × GenerationId

/-- What the entries of the trigger table are counted by: the broad triggers of a generation, and the
returns of one child lane. -/
inductive TriggerSlot where
  | broad (receiverId : ReceiverId) (generationId : GenerationId)
  | lane (key : DeviceKey)

open TriggerSlot

namespace RestorationScheduler

def TriggerSlot.holds : TriggerSlot → ScheduledTrigger → Bool
  | .broad receiverId generationId, scheduled =>
    ofGeneration receiverId generationId scheduled ∧ isBroadTrigger scheduled.trigger.kind
  | .lane key, scheduled => returnOf key scheduled

def TriggerSlot.room (envelope : DeviceKey → Nat) : TriggerSlot → Nat
  | .broad _ _ => 1
  | .lane key => envelope key

def TriggerSlot.generation : TriggerSlot → ReceiverGeneration
  | .broad receiverId generationId => (receiverId, generationId)
  | .lane key => (key.receiverId, key.generationId)

abbrev Lanes := ReceiverGeneration → List LogicalDeviceId

def slotsOf (lanes : Lanes) (live : List ReceiverGeneration) : List TriggerSlot :=
  live.flatMap fun generation => .broad generation.1 generation.2 ::
    (lanes generation).map fun deviceId => .lane ⟨generation.1, generation.2, deviceId⟩

def demand (lanes : Lanes) (envelope : DeviceKey → Nat) (live : List ReceiverGeneration) : Nat :=
  ((slotsOf lanes live).map (TriggerSlot.room envelope)).sum

def admitted (generation : ReceiverGeneration) (live : List ReceiverGeneration) : List ReceiverGeneration :=
  if generation ∈ live then live else generation :: live

/-- The generations that were named by an enqueueing call and are not retired. -/
def liveAfter (live : List ReceiverGeneration) : ScheduleOp → List ReceiverGeneration
  | .openEpoch key _ _ _ => admitted (key.receiverId, key.generationId) live
  | .serviceStart receiverId generationId => admitted (receiverId, generationId) live
  | .receiverGeneration receiverId generationId => admitted (receiverId, generationId) live
  | .systemResume receiverId generationId _ => admitted (receiverId, generationId) live
  | .retireGeneration receiverId generationId => live.filter (· ≠ (receiverId, generationId))
  | _ => live

def liveAfterAll (ops : List ScheduleOp) : List ReceiverGeneration := ops.foldl liveAfter []

/-- What the daemon calls for kernel observations: epochs of known lanes, with envelopes of their policy. -/
def FromObservations (lanes : Lanes) (envelope : DeviceKey → Nat) : ScheduleOp → Prop
  | .openEpoch key _ _ retryOffsetsMs =>
    key.deviceId ∈ lanes (key.receiverId, key.generationId) ∧ retryOffsetsMs.length ≤ envelope key
  | .primaryReturn _ _ _ _ _ => False
  | _ => True

/-- The calls that go through `schedule_device_return_epoch_at` or `schedule_at_with_purpose`. -/
def Enqueues : ScheduleOp → Prop
  | .openEpoch _ _ _ _ => True
  | .primaryReturn _ _ _ _ _ => True
  | .serviceStart _ _ => True
  | .receiverGeneration _ _ => True
  | .systemResume _ _ _ => True
  | _ => False

variable {receiverId : ReceiverId} {generationId : GenerationId} {key : DeviceKey} {kind : RestoreTriggerKind}
  {live' : List ReceiverGeneration}

section Slots

variable {lanes : Lanes} {envelope : DeviceKey → Nat} {live : List ReceiverGeneration}
  {scheduled : ScheduledTrigger} (generation : ReceiverGeneration)

theorem mem_slotsOf_broad :
    broad receiverId generationId ∈ slotsOf lanes live ↔ (receiverId, generationId) ∈ live := by
  unfold slotsOf
  rw [mem_flatMap]
  constructor
  · intro h
    obtain ⟨generation, hlive, hslot⟩ := h
    obtain hbroad | hlane := mem_cons.mp hslot
    · cases hbroad
      exact hlive
    obtain ⟨deviceId, _, hother⟩ := mem_map.mp hlane
    cases hother
  intro h
  exact ⟨_, h, mem_cons_self⟩

theorem mem_slotsOf_lane :
    lane key ∈ slotsOf lanes live ↔ (key.receiverId, key.generationId) ∈ live ∧
      key.deviceId ∈ lanes (key.receiverId, key.generationId) := by
  unfold slotsOf
  rw [mem_flatMap]
  constructor
  · intro h
    obtain ⟨generation, hlive, hslot⟩ := h
    obtain hbroad | hlane := mem_cons.mp hslot
    · cases hbroad
    obtain ⟨deviceId, hdevice, hsame⟩ := mem_map.mp hlane
    cases hsame
    exact ⟨hlive, hdevice⟩
  intro h
  obtain ⟨hlive, hdevice⟩ := h
  exact ⟨_, hlive, mem_cons_of_mem _ (mem_map.mpr ⟨key.deviceId, hdevice, rfl⟩)⟩

theorem slotsOf_mono (h : ∀ generation ∈ live, generation ∈ live') :
    ∀ slot ∈ slotsOf lanes live, slot ∈ slotsOf lanes live' := by
  intro slot hslot
  cases slot with
  | broad receiverId generationId =>
    rw [mem_slotsOf_broad] at hslot ⊢
    exact h _ hslot
  | lane key =>
    rw [mem_slotsOf_lane] at hslot ⊢
    exact ⟨h _ hslot.1, hslot.2⟩

theorem mem_admitted (live : List ReceiverGeneration) :
    generation ∈ admitted generation live := by
  unfold admitted
  split
  next hmem => exact hmem
  · exact mem_cons_self

theorem admitted_mono (live : List ReceiverGeneration) :
    ∀ other ∈ live, other ∈ admitted generation live := by
  intro other hother
  unfold admitted
  split
  · exact hother
  · exact mem_cons_of_mem generation hother

theorem holds_generation {slot : TriggerSlot} (h : TriggerSlot.holds slot scheduled = true) :
    ofGeneration (TriggerSlot.generation slot).1 (TriggerSlot.generation slot).2 scheduled = true := by
  cases slot with
  | broad receiverId generationId | lane key => exact (of_decide_eq_true h).1

theorem holds_broad_iff {triggerId : RestoreTriggerId} {target : Option LogicalDeviceId} {due : MonotonicMs}
    {sequence : Option SequenceNumber} {purpose : ScheduledTriggerPurpose} (hbroad : isBroadTrigger kind = true)
    (slot : TriggerSlot) :
    TriggerSlot.holds slot ⟨⟨triggerId, kind, receiverId, generationId, target⟩, due, sequence, purpose⟩ =
      true ↔ slot = .broad receiverId generationId := by
  cases slot with
  | broad otherReceiver otherGeneration =>
    unfold TriggerSlot.holds ofGeneration
    rw [decide_eq_true_iff, decide_eq_true_iff, TriggerSlot.broad.injEq]
    constructor
    · intro h
      exact ⟨h.1.1.symm, h.1.2.symm⟩
    intro h
    exact ⟨⟨h.1.symm, h.2.symm⟩, hbroad⟩
  | lane key =>
    constructor
    · intro h
      have hreturn := (of_decide_eq_true h).2.1
      exact absurd hreturn (ne_deviceReturn_of_broad hbroad)
    intro h
    cases h

theorem holds_return_iff (h : returnOf key scheduled = true) (slot : TriggerSlot)
    : TriggerSlot.holds slot scheduled = true ↔ slot = .lane key := by
  cases slot with
  | broad receiverId generationId =>
    constructor
    · intro hholds
      have hkind := (of_decide_eq_true hholds).2
      have hreturn := (of_decide_eq_true h).2.1
      exact absurd hreturn (ne_deviceReturn_of_broad hkind)
    intro hslot
    cases hslot
  | lane other =>
    constructor
    · intro hholds
      rw [returnOf_key h hholds]
    intro hslot
    cases hslot
    exact h

theorem demand_le {count length : Nat} (hlanes : ∀ generation ∈ live, (lanes generation).length ≤ count)
    (henvelope : ∀ key, envelope key ≤ length) :
    demand lanes envelope live ≤ live.length * (1 + count * length) := by
  unfold demand slotsOf
  induction live with
  | nil => exact Nat.zero_le _
  | cons generation live ih =>
    have hrest := ih fun other hother => hlanes other (mem_cons_of_mem generation hother)
    have hfirst : (((lanes generation).map fun deviceId =>
        TriggerSlot.lane ⟨generation.1, generation.2, deviceId⟩).map (TriggerSlot.room envelope)).sum ≤
          count * length := by
      have hsum := sum_le_card_nsmul (((lanes generation).map fun deviceId =>
        TriggerSlot.lane ⟨generation.1, generation.2, deviceId⟩).map (TriggerSlot.room envelope)) length (by
          intro room hroom
          rw [map_map] at hroom
          obtain ⟨deviceId, _, hsame⟩ := mem_map.mp hroom
          rw [← hsame]
          exact henvelope _)
      rw [length_map, length_map, smul_eq_mul] at hsum
      exact Nat.le_trans hsum (Nat.mul_le_mul_right length (hlanes generation mem_cons_self))
    rw [flatMap_cons, cons_append, map_cons, map_append, sum_cons, sum_append, length_cons, Nat.succ_mul]
    show 1 + _ ≤ _
    omega

end Slots

section Budget

variable {lanes : Lanes} {envelope : DeviceKey → Nat} {live : List ReceiverGeneration}
  {s s' : RestorationScheduler} {openedAt : MonotonicMs} {offsets : List Nat} {dues : List MonotonicMs}
  {error : RestorationScheduleError}

abbrev Budgeted (lanes : Lanes) (envelope : DeviceKey → Nat) (live : List ReceiverGeneration)
    (s : RestorationScheduler) : Prop :=
  Allotted TriggerSlot.holds (TriggerSlot.room envelope) (slotsOf lanes live) s.triggers

theorem Budgeted.thinned (h : Budgeted lanes envelope live s) (hthin : Thinned s s') :
    Budgeted lanes envelope live s' := by
  apply Allotted.thinned h
  intro id scheduled hstored
  obtain ⟨old, hold, hsame⟩ := hthin id scheduled hstored
  refine ⟨old, hold, fun slot => ?_⟩
  rw [hsame]
  cases slot with
  | broad receiverId generationId | lane key => rfl

theorem Budgeted.more (h : Budgeted lanes envelope live s) (hmore : ∀ generation ∈ live, generation ∈ live')
    : Budgeted lanes envelope live' s :=
  Allotted.more h (slotsOf_mono hmore)

theorem budgeted_of_steps {m : SchedulerM Unit} (hm : Steps Thinned m) (h : Budgeted lanes envelope live s) :
    Ensures m s (Budgeted lanes envelope live) := by
  apply holds_mono (hm s)
  · intro _ _ hthin
    exact h.thinned hthin
  intro _ _ hthin
  exact h.thinned hthin

theorem budgeted_retire (receiverId : ReceiverId) (generationId : GenerationId)
    (h : Budgeted lanes envelope live s) :
    Budgeted lanes envelope (live.filter (· ≠ (receiverId, generationId)))
      (retireGeneration receiverId generationId s) where
  placed id scheduled hstored := by
    have hkept := ((retireGeneration_retired receiverId generationId s).triggers id scheduled).mp hstored
    obtain ⟨slot, hslot, hholds⟩ := h.placed id scheduled hkept.1
    have hof := holds_generation hholds
    have hother : TriggerSlot.generation slot ≠ (receiverId, generationId) := by
      intro hsame
      rw [hsame] at hof
      rw [hof] at hkept
      cases hkept.2
    refine ⟨slot, ?_, hholds⟩
    cases slot with
    | broad otherReceiver otherGeneration =>
      rw [mem_slotsOf_broad] at hslot ⊢
      exact mem_filter.mpr ⟨hslot, decide_eq_true hother⟩
    | lane key =>
      rw [mem_slotsOf_lane] at hslot ⊢
      exact ⟨mem_filter.mpr ⟨hslot.1, decide_eq_true hother⟩, hslot.2⟩
  within := (h.thinned (retireGeneration_thinned receiverId generationId s)).within

theorem dueTimes_length (h : dueTimes openedAt offsets = .ok dues) : dues.length = offsets.length := by
  induction offsets generalizing dues with
  | nil =>
    cases h
    rfl
  | cons offset offsets ih =>
    unfold dueTimes at h
    obtain ⟨due, _, h⟩ := bind_eq_ok h
    obtain ⟨rest, hrest, h⟩ := bind_eq_ok h
    cases h
    rw [length_cons, length_cons, ih hrest]

theorem dueTimes_error (h : dueTimes openedAt offsets = .error error) : error = .timeOverflow := by
  induction offsets with
  | nil => cases h
  | cons offset offsets ih =>
    unfold dueTimes at h
    obtain hfirst | ⟨due, _, h⟩ := bind_eq_error h
    · unfold dueAfter at hfirst
      split at hfirst
      · cases hfirst
        rfl
      · cases hfirst
    obtain hrest | ⟨rest, _, h⟩ := bind_eq_error h
    · exact ih hrest
    · cases h

section Enqueueing

variable [TriggerDigests]

/-- An identity that cannot be made is refused as such. -/
def DigestsIdentify : Prop :=
  ∀ (kind : RestoreTriggerKind) (receiverId : ReceiverId) (generationId : GenerationId)
    (target : Option LogicalDeviceId) (sequence : Option SequenceNumber) (nonce : Option (List UInt8))
    (purpose : ScheduledTriggerPurpose) (error : RestorationScheduleError),
    TriggerDigests.triggerId kind receiverId generationId target sequence nonce purpose = .error error →
      error = .identifier

theorem stageAttempts_error (hdigests : DigestsIdentify) {epochSequence : SequenceNumber} {attempt : Nat}
    (h : stageAttempts key epochSequence attempt dues = .error error) : error = .identifier := by
  induction dues generalizing attempt with
  | nil => cases h
  | cons due dues ih =>
    unfold stageAttempts at h
    obtain hid | ⟨triggerId, _, h⟩ := bind_eq_error h
    · exact hdigests _ _ _ _ _ _ _ _ hid
    obtain hrest | ⟨rest, _, h⟩ := bind_eq_error h
    · exact ih hrest
    · cases h

/-- What a call leaves when it fails: the budget, and no capacity error where the table is large enough. -/
def Fits (lanes : Lanes) (envelope : DeviceKey → Nat) (live : List ReceiverGeneration) (maxTriggers : Nat)
    (error : RestorationScheduleError) (s' : RestorationScheduler) : Prop :=
  Budgeted lanes envelope live s' ∧ (demand lanes envelope live ≤ maxTriggers → error ≠ .triggerCapacity)

section

variable (hdigests : DigestsIdentify)
include hdigests

theorem insertTrigger_fits (hbroad : isBroadTrigger kind = true)
    (hlive : (receiverId, generationId) ∈ live) (sequence : Option SequenceNumber) (due : MonotonicMs)
    (h : Budgeted lanes envelope live s) (hfree : s.hasPendingBroadTrigger receiverId generationId = false) :
    Holds (insertTrigger kind receiverId generationId none sequence due .primary) s
      (fun _ s' => Budgeted lanes envelope live s') (Fits lanes envelope live s.maxTriggers) := by
  have hslot : TriggerSlot.broad receiverId generationId ∈ slotsOf lanes live := mem_slotsOf_broad.mpr hlive
  have hempty : ∀ (id : RestoreTriggerId) (scheduled : ScheduledTrigger), s.triggers[id]? = some scheduled →
      TriggerSlot.holds (.broad receiverId generationId) scheduled = false := by
    intro id scheduled hstored
    rw [Bool.eq_false_iff]
    intro hholds
    obtain ⟨hof, hkind⟩ := of_decide_eq_true hholds
    have hpending := (hasPendingBroadTrigger_iff s).mpr ⟨id, scheduled, hstored, hof, hkind⟩
    rw [hfree] at hpending
    cases hpending
  unfold insertTrigger
  rw [holds_bind, holds_get, holds_bind, holds_lift]
  constructor
  · intro triggerId _
    split
    · exact h
    rw [holds_bind, holds_refuse]
    constructor
    · intro hfull
      refine ⟨h, fun hroom => ?_⟩
      have hsize : s.triggers.size + 1 ≤ demand lanes envelope live := h.size_add_le hslot hempty
      omega
    intro _
    rw [holds_set]
    have hone : [triggerId].length ≤ TriggerSlot.room envelope (.broad receiverId generationId) := Nat.le_refl 1
    apply Allotted.filled h hslot hempty hone
    intro id scheduled hstored
    rw [OrderedMaps.getElem?_insert_of] at hstored
    split at hstored
    next hid =>
      cases hstored
      exact .inr ⟨mem_singleton.mpr hid, holds_broad_iff hbroad⟩
    · exact .inl hstored
  · intro error hfailed
    refine ⟨h, fun _ hcapacity => ?_⟩
    have hidentifier := hdigests _ _ _ _ _ _ _ _ hfailed
    rw [hidentifier] at hcapacity
    cases hcapacity

theorem scheduleBroad_fits (hbroad : isBroadTrigger kind = true)
    (hlive : (receiverId, generationId) ∈ live) (sequence : Option SequenceNumber)
    (h : Budgeted lanes envelope live s) :
    Holds (scheduleBroad kind receiverId generationId sequence) s
      (fun _ s' => Budgeted lanes envelope live s') (Fits lanes envelope live s.maxTriggers) := by
  have hawakened := h.thinned (awakened_thinned kind receiverId generationId s)
  have hmax : (awakened kind receiverId generationId s).maxTriggers = s.maxTriggers :=
    awakened_maxTriggers kind receiverId generationId s
  apply holds_scheduleBroad
  · intro _
    exact h
  · intro _ _
    exact hawakened
  intro _ _ hfree
  rw [← hmax]
  exact insertTrigger_fits hdigests hbroad hlive sequence immediateDue hawakened hfree

theorem scheduleDeviceReturnEpochAt_fits (epochSequence : SequenceNumber)
    (openedAt : MonotonicMs) {retryOffsetsMs : List Nat} (hlive : (key.receiverId, key.generationId) ∈ live)
    (hlane : key.deviceId ∈ lanes (key.receiverId, key.generationId))
    (hlength : retryOffsetsMs.length ≤ envelope key) (h : Budgeted lanes envelope live s) :
    Holds (scheduleDeviceReturnEpochAt key epochSequence openedAt retryOffsetsMs) s
      (fun _ s' => Budgeted lanes envelope live s') (Fits lanes envelope live s.maxTriggers) := by
  have hslot : TriggerSlot.lane key ∈ slotsOf lanes live := mem_slotsOf_lane.mpr ⟨hlive, hlane⟩
  have hcleared : Budgeted lanes envelope live (removeDeviceReturnTriggers key s) :=
    h.thinned (Thinned.of_filter rfl)
  have hempty : ∀ (id : RestoreTriggerId) (scheduled : ScheduledTrigger),
      (removeDeviceReturnTriggers key s).triggers[id]? = some scheduled →
        TriggerSlot.holds (.lane key) scheduled = false := by
    intro id scheduled hstored
    unfold removeDeviceReturnTriggers at hstored
    rw [Std.TreeMap.getElem?_filter', Option.filter_eq_some_iff, Bool.not_eq_true'] at hstored
    exact hstored.2
  unfold scheduleDeviceReturnEpochAt
  rw [holds_bind, holds_get]
  split
  · exact h
  rw [holds_bind, holds_refuse]
  refine ⟨fun _ => ⟨h, fun _ hcapacity => by cases hcapacity⟩, fun _ => ?_⟩
  split
  · exact h
  simp only [holds_do]
  refine ⟨fun dues hdues => ⟨fun hfull => ⟨h, fun hroom => ?_⟩, fun _ =>
    ⟨fun staged hstaged => ?_, fun error hfailed => ⟨h, fun _ hcapacity => ?_⟩⟩⟩,
    fun error hfailed => ⟨h, fun _ hcapacity => ?_⟩⟩
  · have hsize : (removeDeviceReturnTriggers key s).triggers.size + envelope key ≤
        demand lanes envelope live := hcleared.size_add_le hslot hempty
    have hsplit : (removeDeviceReturnTriggers key s).triggers.size +
        (s.triggers.values.filter (returnOf key)).length = s.triggers.size :=
      OrderedMaps.size_filter_not s.triggers (returnOf key)
    have hdueLength := dueTimes_length hdues
    omega
  · have hstagedLength : (staged.map fun scheduled => scheduled.trigger.triggerId).length ≤
        TriggerSlot.room envelope (.lane key) := by
      rw [length_map, stageAttempts_length hstaged, dueTimes_length hdues]
      exact hlength
    apply Allotted.filled hcleared hslot hempty hstagedLength
    intro id scheduled hstored
    unfold wake at hstored
    rw [retime_triggers] at hstored
    obtain ⟨hmem, hid⟩ | hold := getElem?_staged hstored
    · right
      refine ⟨?_, holds_return_iff (stageAttempts_mem hstaged hmem).1⟩
      rw [hid]
      exact mem_map_of_mem (f := fun scheduled => scheduled.trigger.triggerId) hmem
    · exact .inl hold
  · have hidentifier : error = .identifier := stageAttempts_error hdigests hfailed
    rw [id, hidentifier] at hcapacity
    cases hcapacity
  have hoverflow : error = .timeOverflow := dueTimes_error hfailed
  rw [id, hoverflow] at hcapacity
  cases hcapacity

/-- One call keeps the budget, and it fails for capacity only where the table is too small. -/
theorem apply_fits (op : ScheduleOp) (hop : FromObservations lanes envelope op)
    (h : Budgeted lanes envelope live s) :
    Holds (apply op) s (fun _ s' => Budgeted lanes envelope (liveAfter live op) s')
      (fun error s' => Budgeted lanes envelope (liveAfter live op) s' ∧
        (Enqueues op → demand lanes envelope (liveAfter live op) ≤ s.maxTriggers →
          error ≠ .triggerCapacity)) := by
  have hbroad : ∀ (kind : RestoreTriggerKind) (receiverId : ReceiverId) (generationId : GenerationId)
      (sequence : Option SequenceNumber) (before : RestorationScheduler), isBroadTrigger kind = true →
      before.maxTriggers = s.maxTriggers → Budgeted lanes envelope live before →
      Holds (scheduleBroad kind receiverId generationId sequence) before
        (fun _ s' => Budgeted lanes envelope (admitted (receiverId, generationId) live) s')
        (fun error s' => Budgeted lanes envelope (admitted (receiverId, generationId) live) s' ∧
          (Enqueues op → demand lanes envelope (admitted (receiverId, generationId) live) ≤ s.maxTriggers →
            error ≠ .triggerCapacity)) := by
    intro kind receiverId generationId sequence before hkind hmax hbefore
    have hmore := hbefore.more (admitted_mono (receiverId, generationId) live)
    apply holds_mono (scheduleBroad_fits hdigests hkind (mem_admitted _ live) sequence hmore)
    · intro _ _ hkept
      exact hkept
    intro error s' hfits
    rw [hmax] at hfits
    exact ⟨hfits.1, fun _ => hfits.2⟩
  cases op with
  | openEpoch key epochSequence openedAt retryOffsetsMs =>
    have hmore := h.more (admitted_mono (key.receiverId, key.generationId) live)
    apply holds_mono (scheduleDeviceReturnEpochAt_fits hdigests epochSequence openedAt (mem_admitted _ live)
      hop.1 hop.2 hmore)
    · intro _ _ hkept
      exact hkept
    intro error s' hfits
    exact ⟨hfits.1, fun _ => hfits.2⟩
  | accelerate key epochSequence evidenceAt =>
    apply holds_mono (budgeted_of_steps (accelerateDeviceReturnEpochAt_thinned key epochSequence evidenceAt) h)
    · intro _ _ hkept
      exact hkept
    intro _ _ hkept
    exact ⟨hkept, fun henqueues => henqueues.elim⟩
  | primaryReturn => exact hop.elim
  | serviceStart receiverId generationId => exact hbroad .serviceStart receiverId generationId none s rfl rfl h
  | receiverGeneration receiverId generationId =>
    show Holds (modify _ >>= _) s _ _
    rw [holds_bind, holds_modify]
    exact hbroad .receiverGeneration receiverId generationId none _ rfl rfl
      (h.thinned (clearReadiness_thinned receiverId generationId s))
  | systemSuspend receiverId generationId =>
    have hcleared := h.thinned (clearReadiness_thinned receiverId generationId s)
    show Holds (modify _) s _ _
    rw [holds_modify]
    exact hcleared.thinned (Thinned.of_eq rfl)
  | systemResume receiverId generationId sequence =>
    exact hbroad .systemResume receiverId generationId (some sequence) s rfl rfl h
  | retireGeneration receiverId generationId =>
    show Holds (modify _) s _ _
    rw [holds_modify]
    exact budgeted_retire receiverId generationId h
  | tick now trigger claims =>
    apply holds_mono (budgeted_of_steps (tickAt_thinned now trigger claims) h)
    · intro _ _ hkept
      exact hkept
    intro _ _ hkept
    exact ⟨hkept, fun henqueues => henqueues.elim⟩

theorem applyAll_budgeted (ops : List ScheduleOp)
    (hops : ∀ op ∈ ops, FromObservations lanes envelope op) (h : Budgeted lanes envelope live s) :
    Budgeted lanes envelope (ops.foldl liveAfter live) (applyAll s ops) := by
  induction ops generalizing live s with
  | nil => exact h
  | cons op ops ih =>
    have hstep : Budgeted lanes envelope (liveAfter live op) (final (apply op) s) := by
      apply holds_final
      apply holds_mono (apply_fits hdigests op (hops op mem_cons_self) h)
      · intro _ _ hkept
        exact hkept
      intro _ _ hkept
      exact hkept.1
    exact ih (fun later hlater => hops later (mem_cons_of_mem op hlater)) hstep

end

/-- In every run of what kernel observations and ticks call, nothing is refused for want of a place in the
trigger table as long as that has room for a broad trigger of every live generation and for one whole
envelope of each of their lanes. -/
theorem triggers_within_capacity {Session : Type} {enabled : Bool} {session : Option Session}
    {processNonce : List UInt8} {leaseDurationMs : LeaseDurationMs}
    {authorityWindowMs retryIntervalMs claimsPerTick maxTriggers maxClaims : Nat}
    {start : RestorationScheduler} (hdigests : DigestsIdentify)
    (hnew : new enabled session processNonce leaseDurationMs authorityWindowMs retryIntervalMs claimsPerTick
      maxTriggers maxClaims = .ok start) (lanes : Lanes) (envelope : DeviceKey → Nat) (ops : List ScheduleOp)
    (hops : ∀ op ∈ ops, FromObservations lanes envelope op) (op : ScheduleOp) (henqueues : Enqueues op)
    (hop : FromObservations lanes envelope op)
    (hroom : demand lanes envelope (liveAfterAll (ops ++ [op])) ≤ maxTriggers) :
    answer (apply op) (applyAll start ops) ≠ .error .triggerCapacity := by
  obtain ⟨hmax, _, htriggers, _⟩ := new_ok hnew
  have hstart : Budgeted lanes envelope [] start := by
    unfold Budgeted
    rw [htriggers]
    exact Allotted.empty
  have hbudgeted := applyAll_budgeted hdigests ops hops hstart
  have hregulated : Regulated (fun _ => true) start (applyAll start ops) := by
    apply applyAll_regulated
    intro _ _ _ hkept
    cases hkept
  have hlive : liveAfterAll (ops ++ [op]) = liveAfter (ops.foldl liveAfter []) op := by
    unfold liveAfterAll
    rw [foldl_append]
    rfl
  rw [hlive, ← hmax, ← hregulated.maxTriggers] at hroom
  intro hfailed
  have hfits := apply_fits hdigests op hop hbudgeted
  cases hcall : apply op (applyAll start ops) with
  | ok _ _ =>
    unfold answer at hfailed
    rw [hcall] at hfailed
    cases hfailed
  | error error last =>
    unfold answer at hfailed
    rw [hcall] at hfailed
    cases hfailed
    exact (holds_error hfits hcall).2 henqueues hroom rfl

end Enqueueing

end Budget

section Samples

/-- Identities of one character: the attempts of two lanes, and any other trigger. -/
@[reducible] def letterDigests : TriggerDigests where
  triggerId _ _ _ target _ _ purpose :=
    let letter := match purpose with
      | .primary => 'P'
      | .returnAttempt attempt => Char.ofNat (attempt + if target = some keyboardId then 300 else 200)
    match Text.tryFrom 1 128 (String.singleton letter) with
    | some triggerId => .ok triggerId
    | none => .error .identifier

def keyboardKey : DeviceKey := { sampleEpoch.key with deviceId := keyboardId }

def twoLanes : Lanes := fun _ => [sampleEpoch.key.deviceId, keyboardId]

def daemonSchedule : RestorationScheduler := { emptySchedule with maxTriggers := 64, maxClaims := 4096 }

/-- The longest policy that is accepted. -/
def fullPolicy : List Nat := List.range 32

def bothReturn : List ScheduleOp :=
  [.openEpoch sampleEpoch.key sampleEpoch.sequence (.lit 2000) fullPolicy,
    .openEpoch keyboardKey sampleEpoch.sequence (.lit 2000) fullPolicy]

def resumeOp : ScheduleOp :=
  .systemResume sampleEpoch.key.receiverId sampleEpoch.key.generationId (.lit 9)

theorem letterDigests_identify :
    letI := letterDigests
    DigestsIdentify := by
  let _ := letterDigests
  intro kind receiverId generationId target sequence nonce purpose error h
  dsimp only [TriggerDigests.triggerId] at h
  split at h
  · cases h
  cases h
  rfl

theorem daemonSchedule_new :
    new true (some ()) [] (.lit 10000) 30000 1000 1 64 4096 = .ok daemonSchedule :=
  rfl

/-- One receiver whose policies have as many attempts as the generated one fits. -/
theorem triggers_within_capacity_generated :
    letI := letterDigests
    answer (apply resumeOp) (applyAll daemonSchedule
      [.openEpoch sampleEpoch.key sampleEpoch.sequence (.lit 2000) (List.range 12)]) ≠
        .error .triggerCapacity := by
  let _ := letterDigests
  apply triggers_within_capacity letterDigests_identify daemonSchedule_new twoLanes (fun _ => 12)
  · intro op hop
    cases mem_singleton.mp hop
    exact ⟨by decide, Nat.le_refl 12⟩
  · trivial
  · trivial
  have hbound : demand twoLanes (fun _ => 12) [(sampleEpoch.key.receiverId, sampleEpoch.key.generationId)] ≤
      1 * (1 + 2 * 12) := demand_le (fun _ _ => Nat.le_refl 2) fun _ => Nat.le_refl 12
  exact Nat.le_trans hbound (by decide)

/-- Two envelopes of the longest accepted policy take the whole table. -/
theorem returns_exhaust_triggers :
    letI := letterDigests
    new true (some ()) [] (.lit 10000) 30000 1000 1 64 4096 = .ok daemonSchedule ∧
    ¬ ∀ (lanes : Lanes) (envelope : DeviceKey → Nat) (ops : List ScheduleOp) (op : ScheduleOp),
      (∀ generation, (lanes generation).length ≤ 2) →
      (∀ earlier ∈ ops.inits, (liveAfterAll earlier).length ≤ 16) →
      (∀ earlier ∈ ops, FromObservations lanes envelope earlier) → FromObservations lanes envelope op →
      Enqueues op → answer (apply op) (applyAll daemonSchedule ops) ≠ .error .triggerCapacity := by
  let _ := letterDigests
  refine ⟨daemonSchedule_new, ?_⟩
  intro h
  apply h twoLanes (fun _ => 32) bothReturn resumeOp (fun _ => Nat.le_refl 2)
  · decide +kernel
  · intro op hop
    obtain hmouse | hop := mem_cons.mp hop
    · cases hmouse
      exact ⟨by decide, Nat.le_refl 32⟩
    cases mem_singleton.mp hop
    exact ⟨by decide, Nat.le_refl 32⟩
  · trivial
  · trivial
  · decide +kernel

end Samples

end RestorationScheduler

end HyperfluxNext
