import HyperfluxNext.Daemon.ClockLines
import HyperfluxNext.Daemon.TickSteps
import HyperfluxNext.Library.OrderedMaps

namespace HyperfluxNext

open Procedure OrderedMaps

instance : Std.TransOrd DeviceKey :=
  inferInstanceAs (Std.TransCmp (compareLex (compareOn DeviceKey.receiverId) (compareLex
    (compareOn DeviceKey.generationId) (compareOn DeviceKey.deviceId))))

instance : Std.LawfulEqOrd DeviceKey where
  eq_of_compare {a b} h := by
    have hcompare : ((compare a.receiverId b.receiverId).then
        ((compare a.generationId b.generationId).then (compare a.deviceId b.deviceId))) = .eq := h
    rw [Ordering.then_eq_eq, Ordering.then_eq_eq] at hcompare
    obtain ⟨hreceiver, hgeneration, hdevice⟩ := hcompare
    cases a
    cases b
    congr 1
    · exact Std.LawfulEqOrd.eq_of_compare hreceiver
    · exact Std.LawfulEqOrd.eq_of_compare hgeneration
    · exact Std.LawfulEqOrd.eq_of_compare hdevice

inductive ScheduleOp where
  | openEpoch (key : DeviceKey) (epochSequence : SequenceNumber) (openedAt : MonotonicMs)
      (retryOffsetsMs : List Nat)
  | accelerate (key : DeviceKey) (epochSequence : SequenceNumber) (evidenceAt : MonotonicMs)
  | primaryReturn (receiverId : ReceiverId) (generationId : GenerationId)
      (targetDeviceId : Option LogicalDeviceId) (sequence : Option SequenceNumber) (due : MonotonicMs)
  | serviceStart (receiverId : ReceiverId) (generationId : GenerationId)
  | receiverGeneration (receiverId : ReceiverId) (generationId : GenerationId)
  | systemSuspend (receiverId : ReceiverId) (generationId : GenerationId)
  | systemResume (receiverId : ReceiverId) (generationId : GenerationId) (sequence : SequenceNumber)
  | retireGeneration (receiverId : ReceiverId) (generationId : GenerationId)
  | tick (now : MonotonicMs) (trigger : RestorationScheduler.TriggerAnswers)
      (claims : List RestorationScheduler.ClaimAnswers)

namespace RestorationScheduler

def ofDevice (receiverId : ReceiverId) (generationId : GenerationId) (key : DeviceKey) : Bool :=
  key.receiverId = receiverId ∧ key.generationId = generationId

/-- The devices whose watermark goes with the call. -/
def forgets : ScheduleOp → DeviceKey → Bool
  | .receiverGeneration receiverId generationId => ofDevice receiverId generationId
  | .systemSuspend receiverId generationId => ofDevice receiverId generationId
  | .retireGeneration receiverId generationId => ofDevice receiverId generationId
  | _ => fun _ => false

section Runs

variable [TriggerDigests]

def apply : ScheduleOp → SchedulerM Unit
  | .openEpoch key epochSequence openedAt retryOffsetsMs =>
    scheduleDeviceReturnEpochAt key epochSequence openedAt retryOffsetsMs
  | .accelerate key epochSequence evidenceAt => accelerateDeviceReturnEpochAt key epochSequence evidenceAt
  | .primaryReturn receiverId generationId targetDeviceId sequence due =>
    schedulePrimaryReturn receiverId generationId targetDeviceId sequence due
  | .serviceStart receiverId generationId => scheduleServiceStart receiverId generationId
  | .receiverGeneration receiverId generationId => scheduleReceiverGeneration receiverId generationId
  | .systemSuspend receiverId generationId => scheduleSystemSuspend receiverId generationId
  | .systemResume receiverId generationId sequence => scheduleSystemResume receiverId generationId sequence
  | .retireGeneration receiverId generationId => modify (retireGeneration receiverId generationId)
  | .tick now trigger claims => tickAt now trigger claims

def applyAll (scheduler : RestorationScheduler) (ops : List ScheduleOp) : RestorationScheduler :=
  ops.foldl (fun scheduler op => final (apply op) scheduler) scheduler

end Runs

/-- No bound is left and no watermark goes back, but for the devices that are forgotten. -/
structure Regulated (forgotten : DeviceKey → Bool) (s s' : RestorationScheduler) : Prop where
  maxTriggers : s'.maxTriggers = s.maxTriggers
  maxClaims : s'.maxClaims = s.maxClaims
  triggers : s.triggers.size ≤ s.maxTriggers → s'.triggers.size ≤ s.maxTriggers
  claims : s.claims.size ≤ s.maxClaims → s'.claims.size ≤ s.maxClaims
  watermarks : ∀ (key : DeviceKey) (sequence : SequenceNumber), forgotten key = false →
    s.returnEpochs[key]? = some sequence → ∃ later, s'.returnEpochs[key]? = some later ∧ sequence ≤ later

open Regulated

theorem Regulated.refl (forgotten : DeviceKey → Bool) (s : RestorationScheduler) : Regulated forgotten s s where
  maxTriggers := rfl
  maxClaims := rfl
  triggers h := h
  claims h := h
  watermarks _ sequence _ h := ⟨sequence, h, Nat.le_refl _⟩

variable {forgotten : DeviceKey → Bool} {s s' s'' : RestorationScheduler} {key : DeviceKey}
  {sequence epochSequence : SequenceNumber} (receiverId : ReceiverId)

theorem Regulated.trans (h : Regulated forgotten s s') (h' : Regulated forgotten s' s'')
    : Regulated forgotten s s'' where
  maxTriggers := h'.maxTriggers.trans h.maxTriggers
  maxClaims := h'.maxClaims.trans h.maxClaims
  triggers hsize := by
    have hlater := h'.triggers (h.maxTriggers ▸ h.triggers hsize)
    rw [h.maxTriggers] at hlater
    exact hlater
  claims hsize := by
    have hlater := h'.claims (h.maxClaims ▸ h.claims hsize)
    rw [h.maxClaims] at hlater
    exact hlater
  watermarks key sequence hkept hstored := by
    obtain ⟨middle, hmiddle, hle⟩ := h.watermarks key sequence hkept hstored
    obtain ⟨later, hlater, hle'⟩ := h'.watermarks key middle hkept hmiddle
    exact ⟨later, hlater, Nat.le_trans hle hle'⟩

instance (forgotten : DeviceKey → Bool) : Std.Refl (Regulated forgotten) := ⟨Regulated.refl forgotten⟩

instance (forgotten : DeviceKey → Bool) : IsTrans RestorationScheduler (Regulated forgotten) :=
  ⟨fun _ _ _ => trans⟩

/-- No more triggers, the same watermarks. -/
theorem Regulated.of_size_le (hmaxTriggers : s'.maxTriggers = s.maxTriggers)
    (hmaxClaims : s'.maxClaims = s.maxClaims) (htriggers : s'.triggers.size ≤ s.triggers.size)
    (hclaims : s'.claims.size ≤ s.claims.size) (hepochs : s'.returnEpochs = s.returnEpochs)
    : Regulated forgotten s s' where
  maxTriggers := hmaxTriggers
  maxClaims := hmaxClaims
  triggers hsize := Nat.le_trans htriggers hsize
  claims hsize := Nat.le_trans hclaims hsize
  watermarks key sequence _ hstored := ⟨sequence, by rw [hepochs]; exact hstored, Nat.le_refl _⟩

section Ticks

structure Contained (measure : Std.TreeMap RestoreTriggerId ScheduledTrigger → Nat)
    (s s' : RestorationScheduler) : Prop where
  maxTriggers : s'.maxTriggers = s.maxTriggers
  maxClaims : s'.maxClaims = s.maxClaims
  triggers : measure s'.triggers ≤ measure s.triggers
  claims : s.claims.size ≤ s.maxClaims → s'.claims.size ≤ s.maxClaims
  returnEpochs : s'.returnEpochs = s.returnEpochs

variable {measure : Std.TreeMap RestoreTriggerId ScheduledTrigger → Nat}

instance : Std.Refl (Contained measure) := ⟨fun _ => ⟨rfl, rfl, Nat.le_refl _, fun h => h, rfl⟩⟩

theorem Contained.trans (h : Contained measure s s') (h' : Contained measure s' s'')
    : Contained measure s s'' where
  maxTriggers := h'.maxTriggers.trans h.maxTriggers
  maxClaims := h'.maxClaims.trans h.maxClaims
  triggers := Nat.le_trans h'.triggers h.triggers
  claims hsize := by
    have hlater := h'.claims (h.maxClaims ▸ h.claims hsize)
    rw [h.maxClaims] at hlater
    exact hlater
  returnEpochs := h'.returnEpochs.trans h.returnEpochs

instance : IsTrans RestorationScheduler (Contained measure) := ⟨fun _ _ _ => Contained.trans⟩

theorem contained_claimStable : ClaimStable (Contained measure) where
  erase s claimId := ⟨rfl, rfl, Nat.le_refl _, fun h => Nat.le_trans Std.TreeMap.size_erase_le h, rfl⟩
  insert s claimId claim hroom := by
    refine ⟨rfl, rfl, Nat.le_refl _, ?_, rfl⟩
    intro hsize
    show (s.claims.insert claimId claim).size ≤ s.maxClaims
    rw [Std.TreeMap.size_insert]
    split
    · exact hsize
    next hunknown =>
      obtain hknown | hfree := hroom
      · exact absurd (Std.TreeMap.mem_iff_contains.mpr hknown) hunknown
      · exact hfree
  filter s keep := ⟨rfl, rfl, Nat.le_refl _, fun h => Nat.le_trans Std.TreeMap.size_filter_le_size h, rfl⟩

theorem contained_triggerStable (triggerId : RestoreTriggerId) (scheduled : ScheduledTrigger) :
    TriggerStable triggerId scheduled (Contained fun triggers => (triggers.erase triggerId).size) where
  toClaimStable := contained_claimStable
  retry s due _ := by
    refine ⟨rfl, rfl, ?_, fun h => h, rfl⟩
    apply size_le_of_mem
    intro id hid
    rw [Std.TreeMap.mem_erase] at hid ⊢
    obtain ⟨hother, hmem⟩ := hid
    exact ⟨hother, Std.TreeMap.mem_of_mem_insert hmem hother⟩
  consume s key := by
    refine ⟨rfl, rfl, ?_, fun h => h, rfl⟩
    apply size_le_of_mem
    intro id hid
    rw [Std.TreeMap.mem_erase] at hid ⊢
    exact ⟨hid.1, Std.TreeMap.mem_of_mem_filter hid.2⟩
  configure s receivers := ⟨rfl, rfl, Nat.le_refl _, fun h => h, rfl⟩

theorem processDueTrigger_steps (forgotten : DeviceKey → Bool) (answers : TriggerAnswers)
    (now : MonotonicMs) : Steps (Regulated forgotten) (processDueTrigger answers now) := by
  apply processDueTrigger_through fun triggerId _ => Contained fun triggers => (triggers.erase triggerId).size
  · exact contained_triggerStable
  intro s triggerId _ last hstored h
  have hlast : last.triggers.size ≤ (last.triggers.erase triggerId).size + 1 :=
    Std.TreeMap.size_le_size_erase
  have hweight : (last.triggers.erase triggerId).size ≤
      ((s.triggers.erase triggerId).erase triggerId).size := h.triggers
  have htwice : ((s.triggers.erase triggerId).erase triggerId).size ≤
      (s.triggers.erase triggerId).size := Std.TreeMap.size_erase_le
  have herased := (toList_perm_erase hstored).length_eq
  rw [List.length_cons, Std.TreeMap.length_toList, Std.TreeMap.length_toList] at herased
  refine ⟨h.maxTriggers, h.maxClaims, ?_, h.claims, ?_⟩
  · intro hsize
    omega
  intro key sequence _ hepoch
  exact ⟨sequence, by rw [h.returnEpochs]; exact hepoch, Nat.le_refl _⟩

theorem Contained.regulated (h : Contained Std.TreeMap.size s s') (forgotten : DeviceKey → Bool)
    : Regulated forgotten s s' where
  maxTriggers := h.maxTriggers
  maxClaims := h.maxClaims
  triggers hsize := Nat.le_trans h.triggers hsize
  claims := h.claims
  watermarks key sequence _ hstored := ⟨sequence, by rw [h.returnEpochs]; exact hstored, Nat.le_refl _⟩

theorem tickAt_steps (forgotten : DeviceKey → Bool) (now : MonotonicMs) (trigger : TriggerAnswers)
    (claims : List ClaimAnswers) : Steps (Regulated forgotten) (tickAt now trigger claims) := by
  apply tickAt_through now claims trigger (processDueTrigger_steps forgotten trigger now)
  intro claims
  apply (processDueClaims_steps contained_claimStable now claims).mono
  intro _ _ h
  exact h.regulated forgotten

end Ticks

section Calls

variable {forgotten : DeviceKey → Bool}

theorem retime_regulated (generationId : GenerationId) (deviceId : Option LogicalDeviceId)
    (due : MonotonicMs → MonotonicMs) (s : RestorationScheduler) :
    Regulated forgotten s (retime receiverId generationId deviceId due s).2 := by
  have hclaims : (retime receiverId generationId deviceId due s).2.claims.size = s.claims.size :=
    Std.TreeMap.size_map
  exact of_size_le rfl rfl (Nat.le_refl _) (Nat.le_of_eq hclaims) rfl

theorem regulated_callStable : CallStable (Regulated forgotten) where
  retime receiverId generationId deviceId due s := retime_regulated receiverId generationId deviceId due s
  filter _ _ := of_size_le rfl rfl Std.TreeMap.size_filter_le_size (Nat.le_refl _) rfl
  erase _ _ := of_size_le rfl rfl Std.TreeMap.size_erase_le (Nat.le_refl _) rfl
  insert s triggerId scheduled hroom _ := by
    refine ⟨rfl, rfl, ?_, fun h => h, fun _ sequence _ h => ⟨sequence, h, Nat.le_refl _⟩⟩
    intro _
    have hinsert : (s.triggers.insert triggerId scheduled).size ≤ s.triggers.size + 1 :=
      Std.TreeMap.size_insert_le
    show (s.triggers.insert triggerId scheduled).size ≤ s.maxTriggers
    omega

theorem getElem?_filter_epochs {receiverId : ReceiverId} {generationId : GenerationId}
    (hkept : ofDevice receiverId generationId key = false) (hstored : s.returnEpochs[key]? = some sequence) :
    (s.returnEpochs.filter fun key _ =>
      key.receiverId ≠ receiverId ∨ key.generationId ≠ generationId)[key]? = some sequence := by
  rw [Std.TreeMap.getElem?_filter', hstored]
  unfold ofDevice at hkept
  rw [decide_eq_false_iff_not, not_and_or] at hkept
  simp only [Option.filter_some, hkept, decide_true, if_true]

theorem clearReadiness_regulated (generationId : GenerationId) (s : RestorationScheduler) :
    Regulated (ofDevice receiverId generationId) s (clearReadiness receiverId generationId s) where
  maxTriggers := rfl
  maxClaims := rfl
  triggers hsize := Nat.le_trans Std.TreeMap.size_filter_le_size hsize
  claims hsize := hsize
  watermarks _ sequence hkept hstored := ⟨sequence, getElem?_filter_epochs hkept hstored, Nat.le_refl _⟩

theorem retireGeneration_regulated (generationId : GenerationId) (s : RestorationScheduler) :
    Regulated (ofDevice receiverId generationId) s (retireGeneration receiverId generationId s) where
  maxTriggers := rfl
  maxClaims := rfl
  triggers hsize := Nat.le_trans Std.TreeMap.size_filter_le_size hsize
  claims hsize := Nat.le_trans Std.TreeMap.size_filter_le_size hsize
  watermarks _ sequence hkept hstored := ⟨sequence, getElem?_filter_epochs hkept hstored, Nat.le_refl _⟩

theorem foldl_insert_size_le (staged : List ScheduledTrigger)
    (triggers : Std.TreeMap RestoreTriggerId ScheduledTrigger) :
    (staged.foldl (fun triggers scheduled => triggers.insert scheduled.trigger.triggerId scheduled)
      triggers).size ≤ triggers.size + staged.length := by
  induction staged generalizing triggers with
  | nil => exact Nat.le_refl _
  | cons first staged ih =>
    have hinsert : (triggers.insert first.trigger.triggerId first).size ≤ triggers.size + 1 :=
      Std.TreeMap.size_insert_le
    have hrest := ih (triggers.insert first.trigger.triggerId first)
    rw [List.foldl_cons, List.length_cons]
    omega

variable [TriggerDigests]

theorem stageAttempts_length {attempt : Nat} {dues : List MonotonicMs} {staged : List ScheduledTrigger}
    (h : stageAttempts key epochSequence attempt dues = .ok staged) : staged.length = dues.length := by
  induction dues generalizing attempt staged with
  | nil =>
    cases h
    rfl
  | cons due dues ih =>
    unfold stageAttempts at h
    obtain ⟨triggerId, _, h⟩ := bind_eq_ok h
    obtain ⟨rest, hrest, h⟩ := bind_eq_ok h
    cases h
    rw [List.length_cons, List.length_cons, ih hrest]

theorem scheduleDeviceReturnEpochAt_steps (key : DeviceKey) (epochSequence : SequenceNumber)
    (openedAt : MonotonicMs) (retryOffsetsMs : List Nat) :
    Steps (Regulated forgotten) (scheduleDeviceReturnEpochAt key epochSequence openedAt retryOffsetsMs) := by
  unfold scheduleDeviceReturnEpochAt
  apply steps_get
  intro s
  split
  · exact refl forgotten s
  rw [holds_bind, holds_refuse]
  refine ⟨fun _ => refl forgotten s, fun _ => ?_⟩
  split
  · exact refl forgotten s
  next hnewer =>
    simp only [holds_do]
    refine ⟨fun dues _ => ⟨fun _ => refl forgotten s, fun hroom =>
      ⟨fun staged hstaged => ?_, fun _ _ => refl forgotten s⟩⟩,
      fun _ _ => refl forgotten s⟩
    refine ⟨rfl, rfl, fun _ => ?_, fun hsize => ?_, fun other sequence _ hstored => ?_⟩
    · have hcleared : (removeDeviceReturnTriggers key s).triggers.size +
          (s.triggers.values.filter (returnOf key)).length = s.triggers.size :=
        size_filter_not s.triggers (returnOf key)
      have hlength := stageAttempts_length hstaged
      have hinstalled := foldl_insert_size_le staged (removeDeviceReturnTriggers key s).triggers
      unfold wake
      rw [retime_triggers]
      dsimp only
      omega
    · have hwoken : (wake key.receiverId key.generationId (some key.deviceId) (dues.headD openedAt)
          (removeDeviceReturnTriggers key s)).2.claims.size = s.claims.size := Std.TreeMap.size_map
      exact Nat.le_trans (Nat.le_of_eq hwoken) hsize
    show ∃ later, (s.returnEpochs.insert key epochSequence)[other]? = some later ∧ sequence ≤ later
    rw [getElem?_insert_of]
    by_cases hother : other = key
    · rw [if_pos hother]
      rw [hother] at hstored
      rw [hstored, Option.any_some, decide_eq_true_iff, Bounded.le_iff] at hnewer
      exact ⟨epochSequence, rfl, Bounded.le_iff.mpr (Nat.le_of_lt (Nat.not_le.mp hnewer))⟩
    rw [if_neg hother]
    exact ⟨sequence, hstored, Nat.le_refl _⟩

end Calls

section Acceleration

structure SoonerTrigger (key : DeviceKey) (old scheduled : ScheduledTrigger) : Prop where
  due : scheduled.due ≤ old.due
  same : scheduled = { old with due := scheduled.due }
  others : returnOf key old = false → scheduled = old

structure SoonerClaim (key : DeviceKey) (old claim : ScheduledClaim) : Prop where
  due : claim.due ≤ old.due
  same : claim = { old with due := claim.due }
  others : claimOf key.receiverId key.generationId (some key.deviceId) old = false → claim = old

structure Accelerated (key : DeviceKey) (s s' : RestorationScheduler) : Prop where
  triggers : ∀ id : RestoreTriggerId, Option.Rel (SoonerTrigger key) s.triggers[id]? s'.triggers[id]?
  claims : ∀ id : RestoreClaimId, Option.Rel (SoonerClaim key) s.claims[id]? s'.claims[id]?
  ready : ∀ (other : DeviceKey) (due : MonotonicMs), s.readyDevices[other]? = some due →
    ∃ sooner, s'.readyDevices[other]? = some sooner ∧ sooner ≤ due
  others : ∀ other : DeviceKey, other ≠ key → s'.readyDevices[other]? = s.readyDevices[other]?
  rest : s' = { s with
    triggers := s'.triggers, claims := s'.claims, readyDevices := s'.readyDevices }

theorem SoonerTrigger.refl (key : DeviceKey) (scheduled : ScheduledTrigger) :
    SoonerTrigger key scheduled scheduled :=
  ⟨Nat.le_refl _, rfl, fun _ => rfl⟩

theorem SoonerClaim.refl (key : DeviceKey) (claim : ScheduledClaim) : SoonerClaim key claim claim :=
  ⟨Nat.le_refl _, rfl, fun _ => rfl⟩

theorem rel_refl {α : Type} {r : α → α → Prop} (h : ∀ a, r a a) (found : Option α) : Option.Rel r found found := by
  cases found with
  | none => exact .none
  | some a => exact .some (h a)

theorem Accelerated.refl (key : DeviceKey) (s : RestorationScheduler) : Accelerated key s s where
  triggers _ := rel_refl (SoonerTrigger.refl key) _
  claims _ := rel_refl (SoonerClaim.refl key) _
  ready _ due h := ⟨due, h, Nat.le_refl _⟩
  others _ _ := rfl
  rest := rfl

theorem acceleratable_spec {evidenceAt : MonotonicMs} {scheduled : ScheduledTrigger}
    (h : acceleratable key epochSequence evidenceAt scheduled = true) :
    SoonerTrigger key scheduled { scheduled with due := evidenceAt } := by
  unfold acceleratable at h
  rw [decide_eq_true_iff] at h
  obtain ⟨hreturn, -, -, hlater⟩ := h
  refine ⟨Nat.le_of_lt hlater, rfl, ?_⟩
  intro hother
  rw [hreturn] at hother
  cases hother

theorem sooner_claim (key : DeviceKey) (evidenceAt : MonotonicMs) (claim : ScheduledClaim) :
    SoonerClaim key claim
      (if claimOf key.receiverId key.generationId (some key.deviceId) claim then
        { claim with due := if evidenceAt < claim.due then evidenceAt else claim.due }
      else claim) := by
  by_cases hclaim : claimOf key.receiverId key.generationId (some key.deviceId) claim = true
  · rw [if_pos hclaim]
    refine ⟨?_, rfl, ?_⟩
    · dsimp only
      split
      next hsooner => exact Nat.le_of_lt hsooner
      · exact Nat.le_refl _
    intro hother
    rw [hclaim] at hother
    cases hother
  rw [if_neg hclaim]
  exact SoonerClaim.refl key claim

theorem accelerateDeviceReturnEpochAt_accelerated (key : DeviceKey) (epochSequence : SequenceNumber)
    (evidenceAt : MonotonicMs) :
    Steps (Accelerated key) (accelerateDeviceReturnEpochAt key epochSequence evidenceAt) := by
  unfold accelerateDeviceReturnEpochAt
  apply steps_get
  intro s
  split
  · exact Accelerated.refl key s
  rw [holds_set]
  refine ⟨?_, ?_, ?_, ?_, rfl⟩
  · intro id
    unfold wakeEarlier
    rw [retime_triggers]
    dsimp only
    split
    · exact rel_refl (SoonerTrigger.refl key) _
    next triggerId old hold =>
      obtain ⟨hstored, hkeep⟩ := getElem?_of_earliest hold
      rw [getElem?_insert_of]
      by_cases hid : id = triggerId
      · rw [if_pos hid, hid, hstored]
        exact .some (acceleratable_spec hkeep)
      rw [if_neg hid]
      exact rel_refl (SoonerTrigger.refl key) _
  · intro id
    show Option.Rel (SoonerClaim key) s.claims[id]? (s.claims.map _)[id]?
    rw [Std.TreeMap.getElem?_map]
    cases s.claims[id]? with
    | none => exact .none
    | some claim => exact .some (sooner_claim key evidenceAt claim)
  · intro other due hready
    show ∃ sooner, (s.readyDevices.insert key _)[other]? = some sooner ∧ sooner ≤ due
    rw [getElem?_insert_of]
    by_cases hother : other = key
    · rw [if_pos hother]
      rw [hother] at hready
      simp only [hready]
      refine ⟨_, rfl, ?_⟩
      split
      next hsooner => exact Nat.le_of_lt hsooner
      · exact Nat.le_refl _
    rw [if_neg hother]
    exact ⟨due, hready, Nat.le_refl _⟩
  intro other hother
  show (s.readyDevices.insert key _)[other]? = s.readyDevices[other]?
  rw [getElem?_insert_of, if_neg hother]

theorem Accelerated.regulated (h : Accelerated key s s') (forgotten : DeviceKey → Bool)
    : Regulated forgotten s s' := by
  have hmaxTriggers : s'.maxTriggers = s.maxTriggers := by rw [h.rest]
  have hmaxClaims : s'.maxClaims = s.maxClaims := by rw [h.rest]
  have hepochs : s'.returnEpochs = s.returnEpochs := by rw [h.rest]
  have htriggers : s'.triggers.size ≤ s.triggers.size :=
    size_le_of_mem fun id hid => mem_of_rel (h.triggers id) hid
  have hclaims : s'.claims.size ≤ s.claims.size := size_le_of_mem fun id hid => mem_of_rel (h.claims id) hid
  exact of_size_le hmaxTriggers hmaxClaims htriggers hclaims hepochs

end Acceleration

variable [TriggerDigests] {watermark : SequenceNumber}

theorem apply_steps (op : ScheduleOp) : Steps (Regulated (forgets op)) (apply op) := by
  cases op with
  | openEpoch key epochSequence openedAt retryOffsetsMs =>
    exact scheduleDeviceReturnEpochAt_steps key epochSequence openedAt retryOffsetsMs
  | accelerate key epochSequence evidenceAt =>
    intro s
    apply holds_mono (accelerateDeviceReturnEpochAt_accelerated key epochSequence evidenceAt s)
    · intro _ _ h
      exact h.regulated _
    intro _ _ h
    exact h.regulated _
  | primaryReturn receiverId generationId targetDeviceId sequence due =>
    exact schedulePrimaryReturn_steps receiverId generationId regulated_callStable targetDeviceId sequence due
  | serviceStart receiverId generationId =>
    exact scheduleBroad_steps .serviceStart receiverId generationId regulated_callStable none
  | receiverGeneration receiverId generationId =>
    exact steps_bind (steps_modify (clearReadiness_regulated receiverId generationId))
      fun _ => scheduleBroad_steps _ receiverId generationId regulated_callStable none
  | systemSuspend receiverId generationId =>
    apply steps_modify
    intro s
    exact (clearReadiness_regulated receiverId generationId s).trans (retime_regulated _ _ none _ _)
  | systemResume receiverId generationId sequence =>
    exact scheduleBroad_steps .systemResume receiverId generationId regulated_callStable (some sequence)
  | retireGeneration receiverId generationId =>
    exact steps_modify (retireGeneration_regulated receiverId generationId)
  | tick now trigger claims => exact tickAt_steps _ now trigger claims

theorem applyAll_regulated (s : RestorationScheduler) (ops : List ScheduleOp)
    (h : ∀ op ∈ ops, ∀ key, forgotten key = false → forgets op key = false) :
    Regulated forgotten s (applyAll s ops) := by
  induction ops generalizing s with
  | nil => exact refl forgotten s
  | cons op ops ih =>
    have hop := (apply_steps op).final s
    have hfirst : Regulated forgotten s (final (apply op) s) := by
      refine ⟨hop.maxTriggers, hop.maxClaims, hop.triggers, hop.claims, ?_⟩
      intro key sequence hkept hstored
      exact hop.watermarks key sequence (h op List.mem_cons_self key hkept) hstored
    exact hfirst.trans (ih _ fun later hlater => h later (List.mem_cons_of_mem op hlater))

theorem applyAll_watermark {later : List ScheduleOp} (hstored : s.returnEpochs[key]? = some watermark)
    (hlater : ∀ op ∈ later, forgets op key = false) :
    ∃ last, (applyAll s later).returnEpochs[key]? = some last ∧ watermark ≤ last := by
  have hkept : Regulated (fun other => ! decide (other = key)) s (applyAll s later) := by
    apply applyAll_regulated
    intro op hop other hother
    rw [Bool.not_eq_false', decide_eq_true_iff] at hother
    rw [hother]
    exact hlater op hop
  apply hkept.watermarks key watermark _ hstored
  rw [decide_eq_true rfl]
  rfl

/-- An epoch that is not newer than the watermark leaves everything as it is. -/
theorem scheduleDeviceReturnEpochAt_stale (hstored : s.returnEpochs[key]? = some watermark)
    (hle : sequence ≤ watermark) (openedAt : MonotonicMs) (retryOffsetsMs : List Nat) :
    scheduleDeviceReturnEpochAt key sequence openedAt retryOffsetsMs s =
      if s.enabled = true ∧ validOffsets retryOffsetsMs = false then .error .invalidConfiguration s
      else .ok () s := by
  unfold scheduleDeviceReturnEpochAt
  by_cases henabled : s.enabled = false
  · simp [bind, EStateM.bind, get, getThe, MonadStateOf.get, get_apply, pure, EStateM.pure, henabled]
  by_cases hvalid : validOffsets retryOffsetsMs = false
  · simp [bind, EStateM.bind, get, getThe, MonadStateOf.get, get_apply, refuse, throw, throwThe,
      MonadExceptOf.throw, throw_apply, henabled, hvalid]
  simp [bind, EStateM.bind, get, getThe, MonadStateOf.get, get_apply, pure, EStateM.pure, refuse,
    henabled, hvalid, hstored, hle]

theorem scheduleDeviceReturnEpochAt_remembers (key : DeviceKey) (sequence : SequenceNumber)
    (openedAt : MonotonicMs) (retryOffsetsMs : List Nat) (s : RestorationScheduler) :
    Holds (scheduleDeviceReturnEpochAt key sequence openedAt retryOffsetsMs) s
      (fun _ s' => s.enabled = true →
        ∃ watermark, s'.returnEpochs[key]? = some watermark ∧ sequence ≤ watermark)
      (fun _ s' => s' = s) := by
  unfold scheduleDeviceReturnEpochAt
  rw [holds_bind, holds_get]
  split
  next hdisabled =>
    intro henabled
    rw [hdisabled] at henabled
    cases henabled
  rw [holds_bind, holds_refuse]
  refine ⟨fun _ => rfl, fun _ => ?_⟩
  split
  next hstale =>
    intro _
    obtain ⟨watermark, hstored, hle⟩ := (Option.any_eq_true _ _).mp hstale
    exact ⟨watermark, hstored, of_decide_eq_true hle⟩
  simp only [holds_do]
  refine ⟨fun dues _ => ⟨fun _ => trivial, fun _ => ⟨fun staged _ _ => ?_, fun _ _ => trivial⟩⟩,
    fun _ _ => trivial⟩
  refine ⟨sequence, ?_, Nat.le_refl _⟩
  show (s.returnEpochs.insert key sequence)[key]? = some sequence
  rw [getElem?_insert_of, if_pos rfl]

structure Retired (receiverId : ReceiverId) (generationId : GenerationId) (s s' : RestorationScheduler) :
    Prop where
  triggers : ∀ (id : RestoreTriggerId) (scheduled : ScheduledTrigger),
    s'.triggers[id]? = some scheduled ↔
      s.triggers[id]? = some scheduled ∧ ofGeneration receiverId generationId scheduled = false
  claims : ∀ (id : RestoreClaimId) (claim : ScheduledClaim),
    s'.claims[id]? = some claim ↔
      s.claims[id]? = some claim ∧ claimOf receiverId generationId none claim = false
  watermarks : ∀ (key : DeviceKey) (sequence : SequenceNumber),
    s'.returnEpochs[key]? = some sequence ↔
      s.returnEpochs[key]? = some sequence ∧ ofDevice receiverId generationId key = false
  ready : ∀ (key : DeviceKey) (due : MonotonicMs),
    s'.readyDevices[key]? = some due ↔
      s.readyDevices[key]? = some due ∧ ofDevice receiverId generationId key = false

section
omit [TriggerDigests]

theorem retireGeneration_retired (generationId : GenerationId) (s : RestorationScheduler) :
    Retired receiverId generationId s (retireGeneration receiverId generationId s) where
  triggers id scheduled := by
    unfold retireGeneration
    rw [Std.TreeMap.getElem?_filter', Option.filter_eq_some_iff, Bool.not_eq_true']
  claims id claim := by
    unfold retireGeneration claimOf
    rw [Std.TreeMap.getElem?_filter', Option.filter_eq_some_iff]
    simp [← not_and_or]
  watermarks key sequence := by
    unfold retireGeneration ofDevice
    rw [Std.TreeMap.getElem?_filter', Option.filter_eq_some_iff]
    simp [← not_and_or]
  ready key due := by
    unfold retireGeneration ofDevice
    rw [Std.TreeMap.getElem?_filter', Option.filter_eq_some_iff]
    simp [← not_and_or]

theorem new_ok {Session : Type} {enabled : Bool} {session : Option Session} {processNonce : List UInt8}
    {leaseDurationMs : LeaseDurationMs}
    {authorityWindowMs retryIntervalMs claimsPerTick maxTriggers maxClaims : Nat}
    {start : RestorationScheduler}
    (h : new enabled session processNonce leaseDurationMs authorityWindowMs retryIntervalMs claimsPerTick
      maxTriggers maxClaims = .ok start) :
    start.maxTriggers = maxTriggers ∧ start.maxClaims = maxClaims ∧ start.triggers = ∅ ∧ start.claims = ∅ := by
  unfold new at h
  split at h
  · cases h
  cases h
  exact ⟨rfl, rfl, rfl, rfl⟩

end

/-- In every run of a scheduler the triggers and the claims stay within their maxima. An accepted epoch is remembered,
and whatever follows in its generation, an epoch that is not newer changes nothing; further evidence makes the device's
attempts and claims sooner and nothing else; a retired generation takes along its own, and only that. -/
theorem schedule_bounds {Session : Type} {enabled : Bool} {session : Option Session}
    {processNonce : List UInt8} {leaseDurationMs : LeaseDurationMs}
    {authorityWindowMs retryIntervalMs claimsPerTick maxTriggers maxClaims : Nat}
    {start : RestorationScheduler}
    (hnew : new enabled session processNonce leaseDurationMs authorityWindowMs retryIntervalMs claimsPerTick
      maxTriggers maxClaims = .ok start) (ops : List ScheduleOp) :
    (applyAll start ops).triggers.size ≤ maxTriggers ∧ (applyAll start ops).claims.size ≤ maxClaims ∧
    (∀ (key : DeviceKey) (sequence : SequenceNumber) (openedAt : MonotonicMs) (retryOffsetsMs : List Nat)
      (accepted : RestorationScheduler), (applyAll start ops).enabled = true →
      scheduleDeviceReturnEpochAt key sequence openedAt retryOffsetsMs (applyAll start ops) = .ok () accepted →
      ∃ watermark, accepted.returnEpochs[key]? = some watermark ∧ sequence ≤ watermark) ∧
    (∀ (later : List ScheduleOp) (key : DeviceKey) (watermark sequence : SequenceNumber)
      (openedAt : MonotonicMs) (retryOffsetsMs : List Nat),
      (applyAll start ops).returnEpochs[key]? = some watermark →
      (∀ op ∈ later, forgets op key = false) → sequence ≤ watermark →
      scheduleDeviceReturnEpochAt key sequence openedAt retryOffsetsMs (applyAll start (ops ++ later)) =
        if (applyAll start (ops ++ later)).enabled = true ∧ validOffsets retryOffsetsMs = false then
          .error .invalidConfiguration (applyAll start (ops ++ later))
        else .ok () (applyAll start (ops ++ later))) ∧
    (∀ (key : DeviceKey) (epochSequence : SequenceNumber) (evidenceAt : MonotonicMs),
      Accelerated key (applyAll start ops)
        (final (accelerateDeviceReturnEpochAt key epochSequence evidenceAt) (applyAll start ops))) ∧
    ∀ (receiverId : ReceiverId) (generationId : GenerationId),
      Retired receiverId generationId (applyAll start ops)
        (retireGeneration receiverId generationId (applyAll start ops)) := by
  obtain ⟨hmaxTriggers, hmaxClaims, htriggers, hclaims⟩ := new_ok hnew
  have hrun : Regulated (fun _ => true) start (applyAll start ops) := by
    apply applyAll_regulated
    intro _ _ _ hkept
    cases hkept
  refine ⟨?_, ?_, ?_, ?_, ?_, ?_⟩
  · rw [← hmaxTriggers]
    exact hrun.triggers (by rw [htriggers]; exact Nat.zero_le _)
  · rw [← hmaxClaims]
    exact hrun.claims (by rw [hclaims]; exact Nat.zero_le _)
  · intro key sequence openedAt retryOffsetsMs accepted henabled haccepted
    exact holds_ok (scheduleDeviceReturnEpochAt_remembers key sequence openedAt retryOffsetsMs _)
      haccepted henabled
  · intro later key watermark sequence openedAt retryOffsetsMs hstored hlater hle
    obtain ⟨last, hlast, hgrown⟩ := applyAll_watermark hstored hlater
    have hruns : applyAll start (ops ++ later) = applyAll (applyAll start ops) later := List.foldl_append
    rw [hruns]
    exact scheduleDeviceReturnEpochAt_stale hlast (Nat.le_trans hle hgrown) openedAt retryOffsetsMs
  · intro key epochSequence evidenceAt
    exact (accelerateDeviceReturnEpochAt_accelerated key epochSequence evidenceAt).final _
  intro receiverId generationId
  exact retireGeneration_retired receiverId generationId _

section Samples

omit [TriggerDigests]

def consumedAnswers : TriggerAnswers where
  setEnabled := .ok ()
  effectReplay := .ok .notAvailable
  rebind := .ok 0
  priorRecords := .ok []
  planRestore := .ok .noStableIntents
  pendingRecords := .ok []

/-- An epoch is opened, and its first attempt finds nothing to restore. -/
def consumingOps : List ScheduleOp :=
  [.openEpoch sampleEpoch.key sampleEpoch.sequence (.lit 2000) sampleEpoch.offsets,
    .tick (.lit 2000) consumedAnswers []]

def consumedStart : RestorationScheduler := { emptySchedule with maxClaims := 16 }

theorem schedule_bounds_consumed :
    letI := attemptDigests
    (applyAll consumedStart consumingOps).triggers.size = 0 ∧
    (applyAll consumedStart consumingOps).claims.size ≤ 16 ∧
    scheduleDeviceReturnEpochAt sampleEpoch.key sampleEpoch.sequence (.lit 9000) [0, 250]
      (applyAll consumedStart (consumingOps ++ [])) =
      .ok () (applyAll consumedStart (consumingOps ++ [])) := by
  let _ := attemptDigests
  have hnew : new true (some ()) [] (.lit 1000) 2000 1000 1 8 16 = .ok consumedStart := rfl
  obtain ⟨_, hclaims, _, hstale, _⟩ := schedule_bounds hnew consumingOps
  have hstored : (applyAll consumedStart consumingOps).returnEpochs[sampleEpoch.key]? =
      some sampleEpoch.sequence := by
    decide +kernel
  refine ⟨by decide +kernel, hclaims, ?_⟩
  have hopened := hstale [] sampleEpoch.key sampleEpoch.sequence sampleEpoch.sequence
    (.lit 9000) [0, 250] hstored (fun _ hop => absurd hop List.not_mem_nil)
    (Nat.le_refl _)
  rw [if_neg (by decide)] at hopened
  exact hopened

end Samples

end RestorationScheduler

end HyperfluxNext
