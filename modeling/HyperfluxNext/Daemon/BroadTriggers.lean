import HyperfluxNext.Daemon.TriggerTable

namespace HyperfluxNext

open Procedure List Std.TreeMap

namespace RestorationScheduler

section Filing

variable [TriggerDigests]

def FiledAs (id : RestoreTriggerId) (trigger : RestoreTrigger) : Prop :=
  ∃ target sequence nonce purpose, TriggerDigests.triggerId trigger.kind trigger.receiverId
    trigger.generationId target sequence nonce purpose = .ok id

def Filed (s : RestorationScheduler) : Prop :=
  ∀ (id : RestoreTriggerId) (scheduled : ScheduledTrigger), s.triggers[id]? = some scheduled →
    FiledAs id scheduled.trigger

variable {s s' : RestorationScheduler}

theorem Filed.thinned (h : Filed s) (hthin : Thinned s s') : Filed s' := by
  intro id scheduled hstored
  obtain ⟨old, hold, hsame⟩ := hthin id scheduled hstored
  rw [hsame]
  exact h id old hold

theorem filed_of_steps {m : SchedulerM Unit} (hm : Steps Thinned m) (h : Filed s) :
    Ensures m s Filed := by
  apply holds_mono (hm s)
  · intro _ _ hthin
    exact h.thinned hthin
  intro _ _ hthin
  exact h.thinned hthin

theorem filed_insertTrigger (kind : RestoreTriggerKind) (receiverId : ReceiverId)
    (generationId : GenerationId) (targetDeviceId : Option LogicalDeviceId)
    (sequence : Option SequenceNumber) (due : MonotonicMs) (h : Filed s) :
    Holds (insertTrigger kind receiverId generationId targetDeviceId sequence due .primary) s
      (fun _ s' => Filed s') (fun _ s' => Filed s') := by
  unfold insertTrigger
  rw [holds_bind, holds_get, holds_bind, holds_lift]
  constructor
  · intro triggerId hid
    split
    · exact h
    rw [holds_bind, holds_refuse]
    constructor
    · intro _
      exact h
    intro _
    rw [holds_set]
    intro id scheduled hstored
    have hinserted := hstored
    rw [OrderedMaps.getElem?_insert_of] at hinserted
    split at hinserted
    next hsame =>
      cases hinserted
      rw [hsame]
      exact ⟨_, _, _, _, hid⟩
    · exact h id scheduled hinserted
  · intro _ _
    exact h

theorem filedAs_of_staged {key : DeviceKey} {epochSequence : SequenceNumber} {attempt : Nat}
    {dues : List MonotonicMs} {staged : List ScheduledTrigger}
    (h : stageAttempts key epochSequence attempt dues = .ok staged) {scheduled : ScheduledTrigger}
    (hmem : scheduled ∈ staged) : FiledAs scheduled.trigger.triggerId scheduled.trigger := by
  induction dues generalizing attempt staged with
  | nil =>
    cases h
    cases hmem
  | cons due dues ih =>
    unfold stageAttempts at h
    obtain ⟨triggerId, hid, h⟩ := bind_eq_ok h
    obtain ⟨rest, hrest, h⟩ := bind_eq_ok h
    cases h
    obtain hhead | htail := mem_cons.mp hmem
    · subst hhead
      exact ⟨_, _, _, _, hid⟩
    · exact ih hrest htail

theorem filed_scheduleDeviceReturnEpochAt (key : DeviceKey) (epochSequence : SequenceNumber)
    (openedAt : MonotonicMs) (retryOffsetsMs : List Nat) (h : Filed s) :
    Holds (scheduleDeviceReturnEpochAt key epochSequence openedAt retryOffsetsMs) s
      (fun _ s' => Filed s') (fun _ s' => Filed s') := by
  unfold scheduleDeviceReturnEpochAt
  rw [holds_bind, holds_get]
  split
  · exact h
  rw [holds_bind, holds_refuse]
  refine ⟨fun _ => h, fun _ => ?_⟩
  split
  · exact h
  simp only [holds_do]
  refine ⟨fun dues _ => ⟨fun _ => h, fun _ => ⟨fun staged hstaged => ?_, fun _ _ => h⟩⟩, fun _ _ => h⟩
  intro id scheduled hstored
  unfold wake at hstored
  rw [retime_triggers] at hstored
  obtain ⟨hmem, hid⟩ | hold := getElem?_staged hstored
  · rw [hid]
    exact filedAs_of_staged hstaged hmem
  have hcleared : Thinned s (removeDeviceReturnTriggers key s) := Thinned.of_filter rfl
  exact (h.thinned hcleared) id scheduled hold

theorem filed_scheduleBroad (kind : RestoreTriggerKind) (receiverId : ReceiverId)
    (generationId : GenerationId) (sequence : Option SequenceNumber) (h : Filed s) :
    Ensures (scheduleBroad kind receiverId generationId sequence) s Filed := by
  have hawakened := h.thinned (awakened_thinned kind receiverId generationId s)
  apply holds_scheduleBroad
  · intro _
    exact h
  · intro _ _
    exact hawakened
  intro _ _ _
  exact filed_insertTrigger kind receiverId generationId none sequence immediateDue hawakened

theorem filed_apply (op : ScheduleOp) (h : Filed s) :
    Ensures (apply op) s Filed := by
  cases op with
  | openEpoch key epochSequence openedAt retryOffsetsMs =>
    exact filed_scheduleDeviceReturnEpochAt key epochSequence openedAt retryOffsetsMs h
  | accelerate key epochSequence evidenceAt =>
    exact filed_of_steps (accelerateDeviceReturnEpochAt_thinned key epochSequence evidenceAt) h
  | primaryReturn receiverId generationId targetDeviceId sequence due =>
    apply holds_schedulePrimaryReturn
    · intro before hthin
      exact h.thinned hthin
    intro before hthin
    exact filed_insertTrigger .deviceReturn receiverId generationId targetDeviceId sequence due
      (h.thinned hthin)
  | serviceStart receiverId generationId =>
    exact filed_scheduleBroad .serviceStart receiverId generationId none h
  | receiverGeneration receiverId generationId =>
    have hcleared := h.thinned (clearReadiness_thinned receiverId generationId s)
    show Holds (modify _ >>= _) s _ _
    rw [holds_bind, holds_modify]
    exact filed_scheduleBroad .receiverGeneration receiverId generationId none hcleared
  | systemSuspend receiverId generationId =>
    have hcleared := h.thinned (clearReadiness_thinned receiverId generationId s)
    show Holds (modify _) s _ _
    rw [holds_modify]
    exact hcleared.thinned (Thinned.of_eq rfl)
  | systemResume receiverId generationId sequence =>
    exact filed_scheduleBroad .systemResume receiverId generationId (some sequence) h
  | retireGeneration receiverId generationId =>
    show Holds (modify _) s _ _
    rw [holds_modify]
    exact h.thinned (retireGeneration_thinned receiverId generationId s)
  | tick now trigger claims => exact filed_of_steps (tickAt_thinned now trigger claims) h

theorem filed_applyAll (ops : List ScheduleOp) (h : Filed s) : Filed (applyAll s ops) := by
  induction ops generalizing s with
  | nil => exact h
  | cons op ops ih =>
    have hstep : Filed (final (apply op) s) := holds_final (filed_apply op h)
    exact ih hstep

end Filing

section Coverage

def Claimed (matching : ScheduledClaim → Bool) (s : RestorationScheduler) : Prop :=
  ∃ (id : RestoreClaimId) (claim : ScheduledClaim), s.claims[id]? = some claim ∧ matching claim = true

theorem claimed_iff_count (matching : ScheduledClaim → Bool) (s : RestorationScheduler) :
    0 < (s.claims.values.filter matching).length ↔ Claimed matching s := by
  rw [length_pos_iff_exists_mem]
  constructor
  · intro h
    obtain ⟨claim, hmem⟩ := h
    obtain ⟨hvalue, hmatch⟩ := mem_filter.mp hmem
    rw [OrderedMaps.values_eq_map_toList] at hvalue
    obtain ⟨entry, hentry, hclaim⟩ := mem_map.mp hvalue
    have hfound := mem_toList_iff_getElem?_eq_some.mp hentry
    rw [hclaim] at hfound
    exact ⟨entry.1, claim, hfound, hmatch⟩
  intro h
  obtain ⟨id, claim, hfound, hmatch⟩ := h
  have hentry : (id, claim) ∈ s.claims.toList := mem_toList_iff_getElem?_eq_some.mpr hfound
  refine ⟨claim, mem_filter.mpr ⟨?_, hmatch⟩⟩
  rw [OrderedMaps.values_eq_map_toList]
  exact mem_map_of_mem hentry

variable {receiverId : ReceiverId} {generationId : GenerationId}

/-- A new due time leaves the claims what they are. -/
theorem retime_claimed (deviceId : Option LogicalDeviceId) (due : MonotonicMs → MonotonicMs)
    (device : Option LogicalDeviceId) (s : RestorationScheduler) :
    Claimed (claimOf receiverId generationId device) (retime receiverId generationId deviceId due s).2 ↔
      Claimed (claimOf receiverId generationId device) s := by
  have hsame : ∀ claim, claimOf receiverId generationId device
      (if claimOf receiverId generationId deviceId claim then { claim with due := due claim.due } else claim) =
        claimOf receiverId generationId device claim := by
    intro claim
    split
    · rfl
    · rfl
  unfold Claimed retime
  simp only [Std.TreeMap.getElem?_map]
  constructor
  · intro h
    obtain ⟨id, claim, hfound, hmatch⟩ := h
    obtain ⟨old, hold, hclaim⟩ := Option.map_eq_some_iff.mp hfound
    refine ⟨id, old, hold, ?_⟩
    rw [← hsame old, hclaim]
    exact hmatch
  intro h
  obtain ⟨id, old, hold, hmatch⟩ := h
  refine ⟨id, _, by rw [hold]; rfl, ?_⟩
  rw [hsame old]
  exact hmatch

theorem retime_count (deviceId : Option LogicalDeviceId) (due : MonotonicMs → MonotonicMs)
    (s : RestorationScheduler) :
    0 < (retime receiverId generationId deviceId due s).1 ↔
      Claimed (claimOf receiverId generationId deviceId) s :=
  claimed_iff_count _ s

theorem wake_claimed (deviceId : Option LogicalDeviceId) (due : MonotonicMs)
    (device : Option LogicalDeviceId) (s : RestorationScheduler) :
    Claimed (claimOf receiverId generationId device) (wake receiverId generationId deviceId due s).2 ↔
      Claimed (claimOf receiverId generationId device) s :=
  retime_claimed deviceId (fun _ => due) device s

theorem park_claimed (deviceId device : Option LogicalDeviceId) (s : RestorationScheduler) :
    Claimed (claimOf receiverId generationId device) (park receiverId generationId deviceId s).2 ↔
      Claimed (claimOf receiverId generationId device) s :=
  retime_claimed deviceId (fun _ => parkedDue) device s

def ReadyClaimed (receiverId : ReceiverId) (generationId : GenerationId) (s : RestorationScheduler) : Prop :=
  ∃ (key : DeviceKey) (due : MonotonicMs), s.readyDevices[key]? = some due ∧
    ofDevice receiverId generationId key = true ∧
    Claimed (claimOf receiverId generationId (some key.deviceId)) s

def wakeEach (receiverId : ReceiverId) (generationId : GenerationId)
    (devices : List (DeviceKey × MonotonicMs)) (answer : Nat × RestorationScheduler) :
    Nat × RestorationScheduler :=
  devices.foldl (fun answer entry =>
    let (woken, scheduler) := wake receiverId generationId (some entry.1.deviceId) entry.2 answer.2
    (answer.1 + woken, scheduler)) answer

variable (receiverId generationId) in
theorem wakeEach_claimed (devices : List (DeviceKey × MonotonicMs)) (answer : Nat × RestorationScheduler)
    (device : Option LogicalDeviceId) :
    Claimed (claimOf receiverId generationId device) (wakeEach receiverId generationId devices answer).2 ↔
      Claimed (claimOf receiverId generationId device) answer.2 := by
  induction devices generalizing answer with
  | nil => exact Iff.rfl
  | cons entry devices ih =>
    have hrest := ih (answer.1 + (wake receiverId generationId (some entry.1.deviceId) entry.2 answer.2).1,
      (wake receiverId generationId (some entry.1.deviceId) entry.2 answer.2).2)
    exact hrest.trans (wake_claimed (some entry.1.deviceId) entry.2 device answer.2)

variable (receiverId generationId) in
theorem wakeEach_count (devices : List (DeviceKey × MonotonicMs)) (answer : Nat × RestorationScheduler) :
    0 < (wakeEach receiverId generationId devices answer).1 ↔ 0 < answer.1 ∨
      ∃ entry ∈ devices, Claimed (claimOf receiverId generationId (some entry.1.deviceId)) answer.2 := by
  induction devices generalizing answer with
  | nil => simp [wakeEach]
  | cons entry devices ih =>
    have hrest := ih (answer.1 + (wake receiverId generationId (some entry.1.deviceId) entry.2 answer.2).1,
      (wake receiverId generationId (some entry.1.deviceId) entry.2 answer.2).2)
    have hfirst : 0 < (wake receiverId generationId (some entry.1.deviceId) entry.2 answer.2).1 ↔
        Claimed (claimOf receiverId generationId (some entry.1.deviceId)) answer.2 :=
      retime_count _ _ answer.2
    have hothers : ∀ device, Claimed (claimOf receiverId generationId device)
        (wake receiverId generationId (some entry.1.deviceId) entry.2 answer.2).2 ↔
          Claimed (claimOf receiverId generationId device) answer.2 :=
      fun device => wake_claimed (some entry.1.deviceId) entry.2 device answer.2
    simp only [hothers] at hrest
    refine hrest.trans ?_
    rw [exists_mem_cons_iff, ← hfirst, Nat.add_pos_iff_pos_or_pos, or_assoc]

theorem wakeReadyDevices_count (s : RestorationScheduler) :
    0 < (wakeReadyDevices receiverId generationId s).1 ↔ ReadyClaimed receiverId generationId s := by
  have hcount := wakeEach_count receiverId generationId
    (s.readyDevices.toList.filter fun entry =>
      entry.1.receiverId = receiverId ∧ entry.1.generationId = generationId) (0, s)
  refine hcount.trans ?_
  constructor
  · intro h
    obtain hzero | hready := h
    · exact absurd hzero (Nat.lt_irrefl 0)
    obtain ⟨entry, hmem, hclaimed⟩ := hready
    obtain ⟨hentry, hdevice⟩ := mem_filter.mp hmem
    exact ⟨entry.1, entry.2, mem_toList_iff_getElem?_eq_some.mp hentry, hdevice, hclaimed⟩
  intro h
  obtain ⟨key, due, hready, hdevice, hclaimed⟩ := h
  have hentry : (key, due) ∈ s.readyDevices.toList := mem_toList_iff_getElem?_eq_some.mpr hready
  exact .inr ⟨(key, due), mem_filter.mpr ⟨hentry, hdevice⟩, hclaimed⟩

end Coverage

section Calls

inductive BroadCall where
  | serviceStart | receiverGeneration
  | systemResume (sequence : SequenceNumber)

def BroadCall.kind : BroadCall → RestoreTriggerKind
  | .serviceStart => .serviceStart
  | .receiverGeneration => .receiverGeneration
  | .systemResume _ => .systemResume

def BroadCall.op (receiverId : ReceiverId) (generationId : GenerationId) : BroadCall → ScheduleOp
  | .serviceStart => .serviceStart receiverId generationId
  | .receiverGeneration => .receiverGeneration receiverId generationId
  | .systemResume sequence => .systemResume receiverId generationId sequence

def BroadCall.Wakes (receiverId : ReceiverId) (generationId : GenerationId) (s : RestorationScheduler) :
    BroadCall → Prop
  | .serviceStart => Claimed (claimOf receiverId generationId none) s
  | .receiverGeneration => False
  | .systemResume _ => ReadyClaimed receiverId generationId s

def Covered (receiverId : ReceiverId) (generationId : GenerationId) (stable : LogicalDeviceId → Prop)
    (s : RestorationScheduler) : Prop :=
  s.hasPendingBroadTrigger receiverId generationId = true ∨
    ∀ device, stable device → Claimed (claimOf receiverId generationId (some device)) s

variable {receiverId : ReceiverId} {generationId : GenerationId}

theorem hasPendingBroadTrigger_iff (s : RestorationScheduler) :
    s.hasPendingBroadTrigger receiverId generationId = true ↔
      ∃ (id : RestoreTriggerId) (scheduled : ScheduledTrigger), s.triggers[id]? = some scheduled ∧
        ofGeneration receiverId generationId scheduled = true ∧
        isBroadTrigger scheduled.trigger.kind = true := by
  unfold hasPendingBroadTrigger
  rw [any_eq_true, OrderedMaps.values_eq_map_toList]
  constructor
  · intro h
    obtain ⟨scheduled, hmem, hbroad⟩ := h
    obtain ⟨entry, hentry, hvalue⟩ := mem_map.mp hmem
    have hfound := mem_toList_iff_getElem?_eq_some.mp hentry
    rw [hvalue] at hfound
    exact ⟨entry.1, scheduled, hfound, of_decide_eq_true hbroad⟩
  intro h
  obtain ⟨id, scheduled, hfound, hbroad⟩ := h
  have hentry : (id, scheduled) ∈ s.triggers.toList := mem_toList_iff_getElem?_eq_some.mpr hfound
  exact ⟨scheduled, mem_map_of_mem hentry, decide_eq_true hbroad⟩

theorem pending_of_thinned {s s' : RestorationScheduler} (hthin : Thinned s s')
    (h : s'.hasPendingBroadTrigger receiverId generationId = true) :
    s.hasPendingBroadTrigger receiverId generationId = true := by
  rw [hasPendingBroadTrigger_iff] at h ⊢
  obtain ⟨id, scheduled, hstored, hof, hbroad⟩ := h
  obtain ⟨old, hold, hsame⟩ := hthin id scheduled hstored
  rw [hsame] at hof hbroad
  exact ⟨id, old, hold, hof, hbroad⟩

theorem pending_filter {s s' : RestorationScheduler} (keep : RestoreTriggerId → ScheduledTrigger → Bool)
    (htriggers : s'.triggers = s.triggers.filter keep)
    (hkeep : ∀ id scheduled, isBroadTrigger scheduled.trigger.kind = true → keep id scheduled = true) :
    s'.hasPendingBroadTrigger receiverId generationId = true ↔
      s.hasPendingBroadTrigger receiverId generationId = true := by
  constructor
  · intro h
    exact pending_of_thinned (Thinned.of_filter htriggers) h
  intro h
  rw [hasPendingBroadTrigger_iff] at h ⊢
  obtain ⟨id, scheduled, hstored, hof, hbroad⟩ := h
  refine ⟨id, scheduled, ?_, hof, hbroad⟩
  rw [htriggers, getElem?_filter', Option.filter_eq_some_iff]
  exact ⟨hstored, hkeep id scheduled hbroad⟩

theorem ne_deviceReturn_of_broad {kind : RestoreTriggerKind} (h : isBroadTrigger kind = true) :
    kind ≠ .deviceReturn := by
  intro hreturn
  rw [hreturn] at h
  cases h

variable (receiverId generationId) in
theorem awakened_pending (kind : RestoreTriggerKind) (s : RestorationScheduler) :
    (awakened kind receiverId generationId s).hasPendingBroadTrigger receiverId generationId = true ↔
      s.hasPendingBroadTrigger receiverId generationId = true := by
  apply pending_filter (fun _ scheduled =>
    ! (ofGeneration receiverId generationId scheduled ∧
      scheduled.trigger.kind = .deviceReturn ∧ scheduled.purpose = .primary))
  · show (awaken kind receiverId generationId s).2.triggers.filter _ = _
    rw [awaken_triggers]
  intro id scheduled hbroad
  simp [ne_deviceReturn_of_broad hbroad]

theorem clearReadiness_pending (s : RestorationScheduler) :
    (clearReadiness receiverId generationId s).hasPendingBroadTrigger receiverId generationId = true ↔
      s.hasPendingBroadTrigger receiverId generationId = true := by
  apply pending_filter (fun _ scheduled =>
    ! (ofGeneration receiverId generationId scheduled ∧ scheduled.trigger.kind = .deviceReturn))
  · rfl
  intro id scheduled hbroad
  simp [ne_deviceReturn_of_broad hbroad]

variable (receiverId generationId) in
theorem awakened_claimed (kind : RestoreTriggerKind) (device : Option LogicalDeviceId) (s : RestorationScheduler) :
    Claimed (claimOf receiverId generationId device) (awakened kind receiverId generationId s) ↔
      Claimed (claimOf receiverId generationId device) s := by
  show Claimed (claimOf receiverId generationId device) (awaken kind receiverId generationId s).2 ↔ _
  unfold awaken
  split
  · have hready := wakeEach_claimed receiverId generationId
      ((park receiverId generationId none s).2.readyDevices.toList.filter fun entry =>
        entry.1.receiverId = receiverId ∧ entry.1.generationId = generationId)
      (0, (park receiverId generationId none s).2) device
    exact hready.trans (park_claimed none device s)
  · exact wake_claimed none immediateDue device s

theorem clearReadiness_unready (s : RestorationScheduler) :
    ¬ ReadyClaimed receiverId generationId (clearReadiness receiverId generationId s) := by
  intro h
  obtain ⟨key, due, hready, hdevice, _⟩ := h
  unfold clearReadiness at hready
  rw [getElem?_filter', Option.filter_eq_some_iff] at hready
  have hkept := of_decide_eq_true hready.2
  have hof := of_decide_eq_true hdevice
  obtain hother | hother := hkept
  · exact hother hof.1
  · exact hother hof.2

theorem park_readyClaimed (s : RestorationScheduler) :
    ReadyClaimed receiverId generationId (park receiverId generationId none s).2 ↔
      ReadyClaimed receiverId generationId s := by
  unfold ReadyClaimed
  simp only [park_claimed]
  exact Iff.rfl

section Enqueued

variable [TriggerDigests]

def DigestsSeparate : Prop :=
  ∀ (kind kind' : RestoreTriggerKind) (receiverId receiverId' : ReceiverId)
    (generationId generationId' : GenerationId) (target target' : Option LogicalDeviceId)
    (sequence sequence' : Option SequenceNumber) (nonce nonce' : Option (List UInt8))
    (purpose purpose' : ScheduledTriggerPurpose) (id : RestoreTriggerId),
    TriggerDigests.triggerId kind receiverId generationId target sequence nonce purpose = .ok id →
    TriggerDigests.triggerId kind' receiverId' generationId' target' sequence' nonce' purpose' = .ok id →
    kind = kind' ∧ receiverId = receiverId' ∧ generationId = generationId'

variable {s : RestorationScheduler}

theorem insertTrigger_pending (hdigests : DigestsSeparate) {kind : RestoreTriggerKind}
    (hbroad : isBroadTrigger kind = true) (sequence : Option SequenceNumber) (due : MonotonicMs)
    (hfiled : Filed s) :
    Holds (insertTrigger kind receiverId generationId none sequence due .primary) s
      (fun _ s' => s'.hasPendingBroadTrigger receiverId generationId = true ∧ s'.claims = s.claims)
      (fun _ _ => True) := by
  unfold insertTrigger
  rw [holds_bind, holds_get, holds_bind, holds_lift]
  constructor
  · intro triggerId hid
    split
    next hcontains =>
      refine ⟨?_, rfl⟩
      rw [hasPendingBroadTrigger_iff]
      have hmem : triggerId ∈ s.triggers := mem_iff_contains.mpr hcontains
      rw [mem_iff_isSome_getElem?, Option.isSome_iff_exists] at hmem
      obtain ⟨scheduled, hstored⟩ := hmem
      obtain ⟨target, other, nonce, purpose, hother⟩ := hfiled triggerId scheduled hstored
      obtain ⟨hkind, hreceiver, hgeneration⟩ := hdigests _ _ _ _ _ _ _ _ _ _ _ _ _ _ _ hid hother
      refine ⟨triggerId, scheduled, hstored, decide_eq_true ⟨hreceiver.symm, hgeneration.symm⟩, ?_⟩
      rw [← hkind]
      exact hbroad
    rw [holds_bind, holds_refuse]
    refine ⟨fun _ => trivial, fun _ => ?_⟩
    rw [holds_set]
    refine ⟨?_, rfl⟩
    rw [hasPendingBroadTrigger_iff]
    refine ⟨triggerId, ⟨⟨triggerId, kind, receiverId, generationId, none⟩, due, sequence, .primary⟩, ?_,
      decide_eq_true ⟨rfl, rfl⟩, hbroad⟩
    rw [OrderedMaps.getElem?_insert_of, if_pos rfl]
  · intro _ _
    trivial

structure Absorbed (receiverId : ReceiverId) (generationId : GenerationId) (woken : Prop)
    (s s' : RestorationScheduler) : Prop where
  pending : s'.hasPendingBroadTrigger receiverId generationId = true ↔
    s.hasPendingBroadTrigger receiverId generationId = true ∨ ¬ woken
  claimed : ∀ device, Claimed (claimOf receiverId generationId device) s' ↔
    Claimed (claimOf receiverId generationId device) s

variable (receiverId generationId) in
theorem scheduleBroad_absorbed (hdigests : DigestsSeparate) {kind : RestoreTriggerKind}
    (hbroad : isBroadTrigger kind = true) (sequence : Option SequenceNumber)
    (hfiled : Filed s) (henabled : s.enabled = true) :
    Holds (scheduleBroad kind receiverId generationId sequence) s
      (fun _ s' => Absorbed receiverId generationId (0 < (awaken kind receiverId generationId s).1) s s')
      (fun _ _ => True) := by
  have hpending := awakened_pending receiverId generationId kind s
  have hclaimed := fun device => awakened_claimed receiverId generationId kind device s
  apply holds_scheduleBroad
  · intro hdisabled
    rw [henabled] at hdisabled
    cases hdisabled
  · intro _ habsorbed
    refine ⟨?_, hclaimed⟩
    rw [hpending] at habsorbed ⊢
    constructor
    · intro h
      exact .inl h
    intro h
    obtain h | hnone := h
    · exact h
    · exact habsorbed.resolve_left hnone
  intro _ hnone _
  have hfiled' := hfiled.thinned (awakened_thinned kind receiverId generationId s)
  apply holds_mono (insertTrigger_pending hdigests hbroad sequence immediateDue hfiled')
  · intro _ s' h
    refine ⟨⟨fun _ => .inr ?_, fun _ => h.1⟩, ?_⟩
    · rw [hnone]
      exact Nat.lt_irrefl 0
    intro device
    unfold Claimed
    rw [h.2]
    exact hclaimed device
  intro _ _ _
  trivial

variable (receiverId generationId) in
theorem broadCall_absorbed (hdigests : DigestsSeparate) (call : BroadCall)
    (hfiled : Filed s) (henabled : s.enabled = true) :
    Holds (apply (call.op receiverId generationId)) s
      (fun _ s' => Absorbed receiverId generationId (call.Wakes receiverId generationId s) s s')
      (fun _ _ => True) := by
  cases call with
  | serviceStart =>
    have hwoken : 0 < (awaken .serviceStart receiverId generationId s).1 ↔
        Claimed (claimOf receiverId generationId none) s :=
      retime_count none (fun _ => immediateDue) s
    have habsorbed := scheduleBroad_absorbed receiverId generationId hdigests
      (rfl : isBroadTrigger .serviceStart = true) none hfiled henabled
    rw [hwoken] at habsorbed
    exact habsorbed
  | receiverGeneration =>
    have hfiled' := hfiled.thinned (clearReadiness_thinned receiverId generationId s)
    have hwoken : 0 < (awaken .receiverGeneration receiverId generationId
        (clearReadiness receiverId generationId s)).1 ↔ False := by
      rw [iff_false]
      intro hwoken
      have hready := (wakeReadyDevices_count _).mp hwoken
      rw [park_readyClaimed] at hready
      exact clearReadiness_unready s hready
    show Holds (modify _ >>= _) s _ _
    rw [holds_bind, holds_modify]
    have habsorbed := scheduleBroad_absorbed receiverId generationId hdigests
      (rfl : isBroadTrigger .receiverGeneration = true) none hfiled' henabled
    rw [hwoken] at habsorbed
    apply holds_mono habsorbed
    · intro _ s' h
      refine ⟨?_, h.claimed⟩
      rw [h.pending, clearReadiness_pending]
      exact Iff.rfl
    intro _ _ _
    trivial
  | systemResume sequence =>
    have hwoken : 0 < (awaken .systemResume receiverId generationId s).1 ↔
        ReadyClaimed receiverId generationId s :=
      (wakeReadyDevices_count _).trans (park_readyClaimed s)
    have habsorbed := scheduleBroad_absorbed receiverId generationId hdigests
      (rfl : isBroadTrigger .systemResume = true) (some sequence) hfiled henabled
    rw [hwoken] at habsorbed
    exact habsorbed

/-- In every run, an accepted broad trigger leaves every device with a stable intent covered exactly when one
was pending already, or it woke no claim, or each of these devices had its claim. -/
theorem broad_trigger_coverage {Session : Type} {enabled : Bool} {session : Option Session}
    {processNonce : List UInt8} {leaseDurationMs : LeaseDurationMs}
    {authorityWindowMs retryIntervalMs claimsPerTick maxTriggers maxClaims : Nat}
    {start : RestorationScheduler} (hdigests : DigestsSeparate)
    (hnew : new enabled session processNonce leaseDurationMs authorityWindowMs retryIntervalMs claimsPerTick
      maxTriggers maxClaims = .ok start) (ops : List ScheduleOp) (receiverId : ReceiverId)
    (generationId : GenerationId) (stable : LogicalDeviceId → Prop) (call : BroadCall)
    {scheduled : RestorationScheduler} (henabled : (applyAll start ops).enabled = true)
    (hcall : apply (call.op receiverId generationId) (applyAll start ops) = .ok () scheduled) :
    Covered receiverId generationId stable scheduled ↔
      (applyAll start ops).hasPendingBroadTrigger receiverId generationId = true ∨
      ¬ call.Wakes receiverId generationId (applyAll start ops) ∨
      ∀ device, stable device →
        Claimed (claimOf receiverId generationId (some device)) (applyAll start ops) := by
  have hempty : Filed start := by
    intro id found hstored
    rw [(new_ok hnew).2.2.1, getElem?_emptyc] at hstored
    cases hstored
  have habsorbed := holds_ok (broadCall_absorbed receiverId generationId hdigests call
    (filed_applyAll ops hempty) henabled) hcall
  unfold Covered
  rw [habsorbed.pending, or_assoc]
  simp only [habsorbed.claimed]

end Enqueued

end Calls

section Samples

/-- What an identity is made of here: the kind, and which attempt of an envelope it is. -/
def returnDigestText (kind : RestoreTriggerKind) (purpose : ScheduledTriggerPurpose) : RestoreTriggerId :=
  match kind with
  | .serviceStart => (.lit "restore-service-start")
  | .receiverGeneration => (.lit "restore-receiver-generation")
  | .systemResume => (.lit "restore-system-resume")
  | .deviceReturn =>
    if purpose = .returnAttempt 0 then (.lit "restore-device-return-first")
    else (.lit "restore-device-return-later")

@[reducible] def returnDigests : TriggerDigests where
  triggerId kind receiverId generationId _ _ _ purpose :=
    if receiverId = sampleEpoch.key.receiverId ∧ generationId = sampleEpoch.key.generationId then
      .ok (returnDigestText kind purpose)
    else .error .identifier

theorem returnDigestText_kind {kind kind' : RestoreTriggerKind} {purpose purpose' : ScheduledTriggerPurpose}
    (h : returnDigestText kind purpose = returnDigestText kind' purpose') : kind = kind' := by
  have htext := congrArg (fun id : RestoreTriggerId => id.asStr) h
  unfold returnDigestText Text.lit at htext
  cases kind <;> cases kind' <;> first | rfl | (dsimp only at htext; split at htext <;> simp at htext) |
    simp at htext

theorem returnDigests_separate :
    letI := returnDigests
    DigestsSeparate := by
  let _ := returnDigests
  intro kind kind' receiverId receiverId' generationId generationId' _ _ _ _ _ _ purpose purpose' id h h'
  dsimp only [TriggerDigests.triggerId] at h h'
  split at h
  next hof =>
    split at h'
    next hof' =>
      cases h
      have htext := Except.ok.inj h'
      exact ⟨returnDigestText_kind htext.symm, hof.1.trans hof'.1.symm, hof.2.trans hof'.2.symm⟩
    · cases h'
  · cases h

def mouseClaim : RestoreRecord where
  schemaVersion := currentSchemaVersion
  claimId := .lit "claim-mouse"
  triggerId := .lit "restore-device-return-first"
  triggerKind := .deviceReturn
  receiverId := sampleEpoch.key.receiverId
  generationId := sampleEpoch.key.generationId
  deviceId := sampleEpoch.key.deviceId
  intentRevision := .lit 1
  intentDigest := .lit "00000000000000000000000000000000000000000000000000000000000000aa"
  revision := .lit 1
  lastAttempt := none
  status := .deferred ⟨.ownershipConflict, none⟩

def plannedAnswers : TriggerAnswers where
  setEnabled := .ok ()
  effectReplay := .ok .notAvailable
  rebind := .ok 0
  priorRecords := .ok []
  planRestore := .ok (.planned [mouseClaim])
  pendingRecords := .ok [mouseClaim]

def deferredAnswers : ClaimAnswers where
  advanceClaim := .ok (.deferred mouseClaim)
  dispatchClaim := .ok mouseClaim
  pendingRecords := .ok [mouseClaim]

/-- The machine sleeps; then the mouse returns, and its claim is planned but finds the authority taken. -/
def returningOps : List ScheduleOp :=
  [.systemSuspend sampleEpoch.key.receiverId sampleEpoch.key.generationId,
    .openEpoch sampleEpoch.key sampleEpoch.sequence (.lit 2000) sampleEpoch.offsets,
    .tick (.lit 2000) plannedAnswers [deferredAnswers]]

def resumeCall : BroadCall := .systemResume (.lit 9)

def resumedSchedule : RestorationScheduler :=
  letI := returnDigests
  final (apply (resumeCall.op sampleEpoch.key.receiverId sampleEpoch.key.generationId))
    (applyAll consumedStart returningOps)

def keyboardId : LogicalDeviceId := .lit "keyboard"

theorem consumedStart_new : new true (some ()) [] (.lit 1000) 2000 1000 1 8 16 = .ok consumedStart :=
  rfl

theorem resumedSchedule_ok :
    letI := returnDigests
    apply (resumeCall.op sampleEpoch.key.receiverId sampleEpoch.key.generationId)
      (applyAll consumedStart returningOps) = .ok () resumedSchedule := by
  let _ := returnDigests
  apply eq_ok_of_answer
  decide +kernel

theorem broad_trigger_coverage_resumed :
    letI := returnDigests
    Covered sampleEpoch.key.receiverId sampleEpoch.key.generationId (· = keyboardId) resumedSchedule ↔
      (applyAll consumedStart returningOps).hasPendingBroadTrigger sampleEpoch.key.receiverId
        sampleEpoch.key.generationId = true ∨
      ¬ resumeCall.Wakes sampleEpoch.key.receiverId sampleEpoch.key.generationId
        (applyAll consumedStart returningOps) ∨
      ∀ device, device = keyboardId → Claimed (claimOf sampleEpoch.key.receiverId
        sampleEpoch.key.generationId (some device)) (applyAll consumedStart returningOps) := by
  let _ := returnDigests
  exact broad_trigger_coverage returnDigests_separate consumedStart_new returningOps
    sampleEpoch.key.receiverId sampleEpoch.key.generationId (· = keyboardId) resumeCall (by decide +kernel)
    resumedSchedule_ok

/-- The mouse's claim is woken, and the keyboard is never planned for. -/
theorem resume_forgets_keyboard :
    letI := returnDigests
    new true (some ()) [] (.lit 1000) 2000 1000 1 8 16 = .ok consumedStart ∧
    ¬ ∀ (ops : List ScheduleOp) (receiverId : ReceiverId) (generationId : GenerationId)
      (stable : LogicalDeviceId → Prop) (call : BroadCall) (scheduled : RestorationScheduler),
      (applyAll consumedStart ops).enabled = true →
      apply (call.op receiverId generationId) (applyAll consumedStart ops) = .ok () scheduled →
      Covered receiverId generationId stable scheduled := by
  let _ := returnDigests
  refine ⟨consumedStart_new, ?_⟩
  intro h
  have hcovered := h returningOps sampleEpoch.key.receiverId sampleEpoch.key.generationId (· = keyboardId)
    resumeCall resumedSchedule (by decide +kernel) resumedSchedule_ok
  have hpending : resumedSchedule.hasPendingBroadTrigger sampleEpoch.key.receiverId
      sampleEpoch.key.generationId = false := by decide +kernel
  obtain hbroad | hclaims := hcovered
  · rw [hpending] at hbroad
    cases hbroad
  have hcount := (claimed_iff_count _ _).mpr (hclaims keyboardId rfl)
  have hnone : (resumedSchedule.claims.values.filter (claimOf sampleEpoch.key.receiverId
      sampleEpoch.key.generationId (some keyboardId))).length = 0 := by decide +kernel
  omega

end Samples

end RestorationScheduler

end HyperfluxNext
