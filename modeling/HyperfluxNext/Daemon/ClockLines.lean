import HyperfluxNext.Daemon.Timeline

namespace HyperfluxNext

open Procedure List

/-- The suspends of a machine: how many nanoseconds it had spent suspended when its monotonic clock,
which stops meanwhile, read a given instant. -/
structure ClockHistory where
  suspended : Nat → Nat
  monotone : Monotone suspended

namespace ClockHistory

def boottime (clocks : ClockHistory) (instant : Nat) : Nat := instant + clocks.suspended instant

def toMillis (nanoseconds : Nat) : MonotonicMs :=
  ⟨min (nanoseconds / 1000000) u64Max, Nat.zero_le _, Nat.min_le_right _ _⟩

def stamp (clocks : ClockHistory) (instant : Nat) : MonotonicMs := toMillis (clocks.boottime instant)

def now (_ : ClockHistory) (instant : Nat) : MonotonicMs := toMillis instant

end ClockHistory

structure ReturnEpoch where
  key : DeviceKey
  sequence : SequenceNumber
  observed : Nat
  offsets : List Nat

structure ReturnEvidence where
  key : DeviceKey
  sequence : SequenceNumber
  observed : Nat

inductive SchedulerCall where
  | openEpoch (epoch : ReturnEpoch)
  | accelerate (evidence : ReturnEvidence)
  | serviceStart (receiverId : ReceiverId) (generationId : GenerationId)
  | receiverGeneration (receiverId : ReceiverId) (generationId : GenerationId)
  | systemSuspend (receiverId : ReceiverId) (generationId : GenerationId)
  | systemResume (receiverId : ReceiverId) (generationId : GenerationId) (sequence : SequenceNumber)
  | retireGeneration (receiverId : ReceiverId) (generationId : GenerationId)
  | tick (instant : Nat) (trigger : RestorationScheduler.TriggerAnswers)
      (claims : List RestorationScheduler.ClaimAnswers)

structure ScheduleRun where
  scheduler : RestorationScheduler
  opened : List ReturnEpoch
  evidence : List ReturnEvidence

namespace RestorationScheduler

section Runs

variable [TriggerDigests]

def call (clocks : ClockHistory) : SchedulerCall → SchedulerM Unit
  | .openEpoch epoch =>
    scheduleDeviceReturnEpochAt epoch.key epoch.sequence (clocks.stamp epoch.observed) epoch.offsets
  | .accelerate evidence =>
    accelerateDeviceReturnEpochAt evidence.key evidence.sequence (clocks.stamp evidence.observed)
  | .serviceStart receiverId generationId => scheduleServiceStart receiverId generationId
  | .receiverGeneration receiverId generationId => scheduleReceiverGeneration receiverId generationId
  | .systemSuspend receiverId generationId => scheduleSystemSuspend receiverId generationId
  | .systemResume receiverId generationId sequence => scheduleSystemResume receiverId generationId sequence
  | .retireGeneration receiverId generationId => modify (retireGeneration receiverId generationId)
  | .tick instant trigger claims => tickAt (clocks.now instant) trigger claims

def perform (clocks : ClockHistory) (run : ScheduleRun) (step : SchedulerCall) : ScheduleRun where
  scheduler := final (call clocks step) run.scheduler
  opened := match step with
    | .openEpoch epoch => epoch :: run.opened
    | _ => run.opened
  evidence := match step with
    | .accelerate evidence => evidence :: run.evidence
    | _ => run.evidence

inductive ScheduleReach (clocks : ClockHistory) : ScheduleRun → Prop where
  | start (scheduler : RestorationScheduler) (h : scheduler.triggers = ∅) :
      ScheduleReach clocks ⟨scheduler, [], []⟩
  | step {run : ScheduleRun} (h : ScheduleReach clocks run) (step : SchedulerCall) :
      ScheduleReach clocks (perform clocks run step)

end Runs

/-- The scheduled trigger is the given attempt of the epoch's envelope. -/
structure AttemptOf (epoch : ReturnEpoch) (attempt offset : Nat) (scheduled : ScheduledTrigger) :
    Prop where
  device : returnOf epoch.key scheduled = true
  sequence : scheduled.sequence = some epoch.sequence
  purpose : scheduled.purpose = .returnAttempt attempt
  offset : epoch.offsets[attempt]? = some offset

/-- Evidence after the opening pulled the attempt forward to its own time. -/
def PulledTo (clocks : ClockHistory) (evidence : List ReturnEvidence) (epoch : ReturnEpoch)
    (offset : Nat) (scheduled : ScheduledTrigger) : Prop :=
  ∃ new ∈ evidence, new.key = epoch.key ∧ new.sequence = epoch.sequence ∧
    scheduled.due = clocks.stamp new.observed ∧
    scheduled.due.get < (clocks.stamp epoch.observed).get + offset

def Timed (clocks : ClockHistory) (run : ScheduleRun) (epoch : ReturnEpoch) (offset : Nat)
    (scheduled : ScheduledTrigger) : Prop :=
  scheduled.due.get = (clocks.stamp epoch.observed).get + offset ∨
    PulledTo clocks run.evidence epoch offset scheduled

/-- The offset has passed on the kernel's time line since the epoch was observed. -/
def Elapsed (clocks : ClockHistory) (epoch : ReturnEpoch) (offset instant : Nat) : Prop :=
  (clocks.stamp epoch.observed).get + offset ≤ (clocks.stamp instant).get

theorem dueAfter_get {now due : MonotonicMs} {delay : Nat} (h : dueAfter now delay = .ok due) :
    due.get = now.get + delay := by
  unfold dueAfter at h
  split at h
  · cases h
  next found hfound =>
    cases h
    exact Bounded.get_of_tryFrom hfound

theorem dueTimes_getElem? {openedAt : MonotonicMs} {offsets : List Nat} {dues : List MonotonicMs}
    (h : dueTimes openedAt offsets = .ok dues) {attempt : Nat} {due : MonotonicMs}
    (hdue : dues[attempt]? = some due) :
    ∃ offset, offsets[attempt]? = some offset ∧ due.get = openedAt.get + offset := by
  induction offsets generalizing dues attempt with
  | nil =>
    cases h
    cases hdue
  | cons offset offsets ih =>
    obtain ⟨first, hfirst, h⟩ := bind_eq_ok h
    obtain ⟨rest, hrest, h⟩ := bind_eq_ok h
    cases h
    cases attempt with
    | zero =>
      cases hdue
      exact ⟨offset, rfl, dueAfter_get hfirst⟩
    | succ attempt => exact ih hrest hdue

variable {scheduled : ScheduledTrigger} {triggers : Std.TreeMap RestoreTriggerId ScheduledTrigger}
  {id : RestoreTriggerId} {clocks : ClockHistory}

theorem stageAttempts_mem [TriggerDigests] {key : DeviceKey} {sequence : SequenceNumber} {first : Nat}
    {dues : List MonotonicMs} {staged : List ScheduledTrigger}
    (h : stageAttempts key sequence first dues = .ok staged) (hmem : scheduled ∈ staged) :
    returnOf key scheduled = true ∧ scheduled.sequence = some sequence ∧
      ∃ attempt, scheduled.purpose = .returnAttempt (first + attempt) ∧
        dues[attempt]? = some scheduled.due := by
  induction dues generalizing first staged with
  | nil =>
    cases h
    cases hmem
  | cons due dues ih =>
    obtain ⟨triggerId, _, h⟩ := bind_eq_ok h
    obtain ⟨rest, hrest, h⟩ := bind_eq_ok h
    cases h
    obtain hhead | htail := mem_cons.mp hmem
    · subst hhead
      exact ⟨by simp [returnOf, ofGeneration], rfl, 0, rfl, rfl⟩
    obtain ⟨hreturn, hsequence, attempt, hpurpose, hdue⟩ := ih hrest htail
    refine ⟨hreturn, hsequence, attempt + 1, ?_, hdue⟩
    rw [hpurpose, Nat.add_assoc, Nat.add_comm 1]

theorem getElem?_foldl_insert {staged : List ScheduledTrigger} (h : (staged.foldl (fun triggers scheduled =>
      triggers.insert scheduled.trigger.triggerId scheduled) triggers)[id]? = some scheduled) :
    scheduled ∈ staged ∨ triggers[id]? = some scheduled := by
  induction staged generalizing triggers with
  | nil => exact Or.inr h
  | cons first staged ih =>
    obtain hmem | hstored := ih h
    · exact Or.inl (mem_cons_of_mem _ hmem)
    rw [Std.TreeMap.getElem?_insert] at hstored
    split at hstored
    · cases hstored
      exact Or.inl mem_cons_self
    · exact Or.inr hstored

theorem earliest_mem {entries : List (RestoreTriggerId × ScheduledTrigger)}
    {best : RestoreTriggerId × ScheduledTrigger} (h : earliest entries = some best) :
    best ∈ entries := by
  induction entries with
  | nil => cases h
  | cons entry entries ih =>
    unfold earliest at h
    split at h
    · cases h
      exact mem_cons_self
    next found hfound =>
      split at h
      · cases h
        exact mem_cons_of_mem _ (ih hfound)
      cases h
      exact mem_cons_self

theorem getElem?_of_earliest {keep : RestoreTriggerId × ScheduledTrigger → Bool}
    (h : earliest (triggers.toList.filter keep) = some (id, scheduled)) :
    triggers[id]? = some scheduled ∧ keep (id, scheduled) = true := by
  obtain ⟨hmem, hkeep⟩ := mem_filter.mp (earliest_mem h)
  exact ⟨Std.TreeMap.mem_toList_iff_getElem?_eq_some.mp hmem, hkeep⟩

/-- What a tick takes is due. -/
theorem dueTriggerId_due {now : MonotonicMs} (h : dueTriggerId triggers now = some id)
    (hstored : triggers[id]? = some scheduled) :
    scheduled.due ≤ now := by
  unfold dueTriggerId at h
  obtain ⟨entry, hentry, hid⟩ := Option.map_eq_some_iff.mp h
  have hfound : triggers[entry.1]? = some entry.2 ∧ decide (entry.2.due ≤ now) = true :=
    getElem?_of_earliest hentry
  obtain ⟨found, hkeep⟩ := hfound
  rw [hid, hstored] at found
  cases found
  simpa using hkeep

def InstalledBy (epoch : ReturnEpoch) (openedAt : MonotonicMs) (scheduled : ScheduledTrigger) : Prop :=
  ∃ attempt offset, AttemptOf epoch attempt offset scheduled ∧ scheduled.due.get = openedAt.get + offset

theorem scheduleDeviceReturnEpochAt_attempts [TriggerDigests] (epoch : ReturnEpoch)
    (openedAt : MonotonicMs) (s : RestorationScheduler) :
    Holds (scheduleDeviceReturnEpochAt epoch.key epoch.sequence openedAt epoch.offsets) s
      (fun _ s' => ∀ (id : RestoreTriggerId) (scheduled : ScheduledTrigger),
        s'.triggers[id]? = some scheduled → scheduled.purpose ≠ .primary → s.triggers[id]? = some scheduled ∨ InstalledBy epoch openedAt scheduled)
      (fun _ s' => s' = s) := by
  unfold scheduleDeviceReturnEpochAt
  rw [holds_bind, holds_get]
  split
  · exact fun _ _ hs _ => Or.inl hs
  simp only [holds_do]
  refine ⟨fun _ => trivial, fun _ => ?_⟩
  split
  · exact fun _ _ hs _ => Or.inl hs
  simp only [holds_do]
  refine ⟨fun dues hdues => ⟨fun _ => trivial, fun _ =>
    ⟨fun staged hstaged => ?_, fun _ _ => trivial⟩⟩, fun _ _ => trivial⟩
  intro id scheduled hs _
  unfold wake at hs
  rw [retime_triggers] at hs
  obtain hmem | hold := getElem?_foldl_insert hs
  · obtain ⟨hdevice, hsequence, attempt, hpurpose, hdue⟩ := stageAttempts_mem hstaged hmem
    obtain ⟨offset, hoffset, hget⟩ := dueTimes_getElem? hdues hdue
    rw [Nat.zero_add] at hpurpose
    exact Or.inr ⟨attempt, offset, ⟨hdevice, hsequence, hpurpose, hoffset⟩, hget⟩
  · exact Or.inl (getElem?_of_filter hold)

def PulledBy (evidence : ReturnEvidence) (evidenceAt : MonotonicMs) (old scheduled : ScheduledTrigger) : Prop :=
  acceleratable evidence.key evidence.sequence evidenceAt old = true ∧
    scheduled = { old with due := evidenceAt }

theorem accelerateDeviceReturnEpochAt_attempts (evidence : ReturnEvidence) (evidenceAt : MonotonicMs)
    (s : RestorationScheduler) :
    Holds (accelerateDeviceReturnEpochAt evidence.key evidence.sequence evidenceAt) s
      (fun _ s' => ∀ (id : RestoreTriggerId) (scheduled : ScheduledTrigger),
        s'.triggers[id]? = some scheduled → s.triggers[id]? = some scheduled ∨
          ∃ old, s.triggers[id]? = some old ∧ PulledBy evidence evidenceAt old scheduled)
      (fun _ s' => s' = s) := by
  unfold accelerateDeviceReturnEpochAt
  rw [holds_bind, holds_get]
  split
  · exact fun _ _ hs => Or.inl hs
  rw [holds_set]
  intro id scheduled hs
  unfold wakeEarlier at hs
  rw [retime_triggers] at hs
  dsimp only at hs
  split at hs
  · exact Or.inl hs
  next triggerId old hold =>
    obtain ⟨hstored, hkeep⟩ := getElem?_of_earliest hold
    rw [Std.TreeMap.getElem?_insert] at hs
    split at hs
    next heq =>
      cases hs
      have hid : triggerId = id := Std.LawfulEqOrd.eq_of_compare heq
      rw [← hid]
      exact Or.inr ⟨old, hstored, hkeep, rfl⟩
    · exact Or.inl hs


def AttemptsTimed (clocks : ClockHistory) (run : ScheduleRun) : Prop :=
  ∀ (id : RestoreTriggerId) (scheduled : ScheduledTrigger),
    run.scheduler.triggers[id]? = some scheduled → scheduled.purpose ≠ .primary →
    ∃ epoch ∈ run.opened, ∃ attempt offset, AttemptOf epoch attempt offset scheduled ∧
      Timed clocks run epoch offset scheduled

theorem PulledTo.mono {evidence later : List ReturnEvidence} {epoch : ReturnEpoch} {offset : Nat}
    (hle : evidence ⊆ later) (h : PulledTo clocks evidence epoch offset scheduled) :
    PulledTo clocks later epoch offset scheduled := by
  obtain ⟨new, hnew, hrest⟩ := h
  exact ⟨new, hle hnew, hrest⟩

theorem returnOf_key {key other : DeviceKey} (h : returnOf key scheduled = true)
    (h' : returnOf other scheduled = true) : key = other := by
  simp only [returnOf, ofGeneration, decide_eq_true_eq] at h h'
  obtain ⟨⟨hreceiver, hgeneration⟩, _, hdevice⟩ := h
  obtain ⟨⟨hreceiver', hgeneration'⟩, _, hdevice'⟩ := h'
  cases key
  cases other
  simp_all

theorem AttemptsTimed.found {run later : ScheduleRun} (h : AttemptsTimed clocks run)
    (hopened : run.opened ⊆ later.opened) (hevidence : run.evidence ⊆ later.evidence)
    (hstored : run.scheduler.triggers[id]? = some scheduled) (hattempt : scheduled.purpose ≠ .primary) :
    ∃ epoch ∈ later.opened, ∃ attempt offset, AttemptOf epoch attempt offset scheduled ∧
      Timed clocks later epoch offset scheduled := by
  obtain ⟨epoch, hepoch, attempt, offset, hof, htimed⟩ := h id scheduled hstored hattempt
  refine ⟨epoch, hopened hepoch, attempt, offset, hof, ?_⟩
  obtain hinstalled | hpulled := htimed
  · exact Or.inl hinstalled
  · exact Or.inr (hpulled.mono hevidence)

theorem AttemptsTimed.keeping {run later : ScheduleRun} (h : AttemptsTimed clocks run)
    (hkeeps : KeepsAttempts run.scheduler later.scheduler) (hopened : run.opened ⊆ later.opened)
    (hevidence : run.evidence ⊆ later.evidence) :
    AttemptsTimed clocks later := by
  intro id scheduled hstored hattempt
  exact h.found hopened hevidence (hkeeps id scheduled hstored hattempt) hattempt

section Runs

variable [TriggerDigests]

theorem opened_subset_perform (clocks : ClockHistory) (run : ScheduleRun) (step : SchedulerCall) :
    run.opened ⊆ (perform clocks run step).opened := by
  unfold perform
  split
  · exact subset_cons_self _ _
  · exact List.Subset.refl _

theorem evidence_subset_perform (clocks : ClockHistory) (run : ScheduleRun) (step : SchedulerCall) :
    run.evidence ⊆ (perform clocks run step).evidence := by
  unfold perform
  dsimp only
  split
  · exact subset_cons_self _ _
  · exact List.Subset.refl _

variable {clocks : ClockHistory} {run : ScheduleRun}

theorem attemptsTimed_openEpoch (h : AttemptsTimed clocks run) (epoch : ReturnEpoch) :
    AttemptsTimed clocks (perform clocks run (.openEpoch epoch)) := by
  have hspec := scheduleDeviceReturnEpochAt_attempts epoch (clocks.stamp epoch.observed) run.scheduler
  have hattempts := holds_final (holds_mono hspec (fun _ _ hs => hs) (fun _ s' hs => by
    intro id scheduled hstored _
    rw [hs] at hstored
    exact Or.inl hstored))
  intro id scheduled hstored hattempt
  obtain hold | hnew := hattempts id scheduled hstored hattempt
  · exact h.found (opened_subset_perform _ _ _) (evidence_subset_perform _ _ _) hold hattempt
  obtain ⟨attempt, offset, hof, hdue⟩ := hnew
  exact ⟨epoch, mem_cons_self, attempt, offset, hof, Or.inl hdue⟩

theorem attemptsTimed_accelerate (h : AttemptsTimed clocks run) (evidence : ReturnEvidence) :
    AttemptsTimed clocks (perform clocks run (.accelerate evidence)) := by
  have hspec := accelerateDeviceReturnEpochAt_attempts evidence (clocks.stamp evidence.observed) run.scheduler
  have hattempts := holds_final (holds_mono hspec (fun _ _ hs => hs) (fun _ s' hs => by
    intro id scheduled hstored
    rw [hs] at hstored
    exact Or.inl hstored))
  intro id scheduled hstored hattempt
  obtain hold | ⟨old, hold, hpulled, hnew⟩ := hattempts id scheduled hstored
  · exact h.found (opened_subset_perform _ _ _) (evidence_subset_perform _ _ _) hold hattempt
  subst hnew
  obtain ⟨epoch, hepoch, attempt, offset, hof, htimed⟩ := h id old hold hattempt
  simp only [acceleratable, decide_eq_true_eq] at hpulled
  obtain ⟨hdevice, hsequence, _, hearlier⟩ := hpulled
  have hkey : evidence.key = epoch.key := returnOf_key hdevice hof.device
  have hsame : evidence.sequence = epoch.sequence := by
    rw [hof.sequence] at hsequence
    exact (Option.some.inj hsequence).symm
  have hbound : old.due.get ≤ (clocks.stamp epoch.observed).get + offset := by
    obtain hinstalled | ⟨_, _, _, _, _, hlt⟩ := htimed
    · exact Nat.le_of_eq hinstalled
    · exact Nat.le_of_lt hlt
  refine ⟨epoch, opened_subset_perform _ _ _ hepoch, attempt, offset,
    ⟨hof.device, hof.sequence, hof.purpose, hof.offset⟩, Or.inr ?_⟩
  exact ⟨evidence, mem_cons_self, hkey, hsame, rfl, Nat.lt_of_lt_of_le (Bounded.lt_iff.mp hearlier) hbound⟩

theorem attemptsTimed_perform (h : AttemptsTimed clocks run) (step : SchedulerCall) :
    AttemptsTimed clocks (perform clocks run step) := by
  have hkept : Steps KeepsAttempts (call clocks step) → AttemptsTimed clocks (perform clocks run step) :=
    fun hkeeping => h.keeping (hkeeping.final run.scheduler)
      (opened_subset_perform _ _ _) (evidence_subset_perform _ _ _)
  cases step with
  | openEpoch epoch => exact attemptsTimed_openEpoch h epoch
  | accelerate evidence => exact attemptsTimed_accelerate h evidence
  | serviceStart receiverId generationId =>
    exact hkept (scheduleBroad_steps .serviceStart receiverId generationId keepsAttempts_callStable none)
  | receiverGeneration receiverId generationId => exact hkept (scheduleReceiverGeneration_keeping _ _)
  | systemSuspend receiverId generationId => exact hkept (scheduleSystemSuspend_keeping _ _)
  | systemResume receiverId generationId sequence =>
    exact hkept (scheduleBroad_steps .systemResume receiverId generationId keepsAttempts_callStable (some sequence))
  | retireGeneration receiverId generationId => exact hkept (steps_modify fun _ => KeepsAttempts.filter rfl)
  | tick instant trigger claims => exact hkept (tickAt_keeping _ _ _)

theorem attemptsTimed_of_reach (h : ScheduleReach clocks run) : AttemptsTimed clocks run := by
  induction h with
  | start scheduler hempty =>
    intro id scheduled hstored _
    rw [hempty] at hstored
    simp at hstored
  | step _ step ih => exact attemptsTimed_perform ih step

/-- At a tick, every attempt in the schedule runs on the time line of the evidence: it is not taken
before its offset has passed, unless further evidence pulled it forward, and it is due once the
offset has passed. -/
def SharesTimeLine (clocks : ClockHistory) (run : ScheduleRun) (instant : Nat) : Prop :=
  ∀ (id : RestoreTriggerId) (scheduled : ScheduledTrigger),
    run.scheduler.triggers[id]? = some scheduled → scheduled.purpose ≠ .primary →
    ∃ epoch ∈ run.opened, ∃ attempt offset, AttemptOf epoch attempt offset scheduled ∧
      Timed clocks run epoch offset scheduled ∧
      (dueTriggerId run.scheduler.triggers (clocks.now instant) = some id →
        Elapsed clocks epoch offset instant ∨ PulledTo clocks run.evidence epoch offset scheduled) ∧
      (Elapsed clocks epoch offset instant → scheduled.due ≤ clocks.now instant)

theorem scheduleReach_sharesTimeLine {clocks : ClockHistory} {run : ScheduleRun}
    (hreach : ScheduleReach clocks run) (instant : Nat)
    (hawake : clocks.stamp instant = clocks.now instant) : SharesTimeLine clocks run instant := by
  intro id scheduled hstored hattempt
  obtain ⟨epoch, hepoch, attempt, offset, hof, htimed⟩ :=
    attemptsTimed_of_reach hreach id scheduled hstored hattempt
  refine ⟨epoch, hepoch, attempt, offset, hof, htimed, ?_, ?_⟩
  · intro htaken
    have hdue := Bounded.le_iff.mp (dueTriggerId_due htaken hstored)
    obtain hinstalled | hpulled := htimed
    · left
      unfold Elapsed
      rw [← hinstalled, hawake]
      exact hdue
    · exact Or.inr hpulled
  intro helapsed
  unfold Elapsed at helapsed
  rw [hawake] at helapsed
  rw [Bounded.le_iff]
  obtain hinstalled | ⟨_, _, _, _, _, hearlier⟩ := htimed
  · omega
  · omega

end Runs

section Samples

/-- Identities of the attempts of one epoch, by their number alone. -/
@[reducible] def attemptDigests : TriggerDigests where
  triggerId _ _ _ _ _ _ purpose := .ok (match purpose with
    | .primary => (.lit "primary")
    | .returnAttempt 0 => (.lit "first")
    | .returnAttempt _ => (.lit "later"))

def emptySchedule : RestorationScheduler where
  enabled := true
  processNonce := []
  retryIntervalMs := 1000
  claimsPerTick := 1
  maxTriggers := 8
  maxClaims := 8
  configuredReceivers := []
  readyDevices := ∅
  returnEpochs := ∅
  triggers := ∅
  claims := ∅

def sampleEpoch : ReturnEpoch where
  key := ⟨.lit "receiver", .lit 1, .lit "mouse"⟩
  sequence := .lit 7
  observed := 2000000000
  offsets := [0, 250]

def neverSuspended : ClockHistory := ⟨fun _ => 0, fun _ _ _ => le_refl 0⟩

/-- A machine that slept for an hour right after it was started. -/
def suspendedOnce : ClockHistory := ⟨fun _ => 3600000000000, fun _ _ _ => le_refl _⟩

def openedRun (clocks : ClockHistory) : ScheduleRun :=
  letI := attemptDigests
  perform clocks ⟨emptySchedule, [], []⟩ (.openEpoch sampleEpoch)

theorem openedRun_reach (clocks : ClockHistory) :
    letI := attemptDigests
    ScheduleReach clocks (openedRun clocks) := by
  let _ := attemptDigests
  exact .step (.start emptySchedule rfl) _

theorem scheduleReach_sharesTimeLine_awake :
    (openedRun neverSuspended).scheduler.triggers.size = 2 ∧
      SharesTimeLine neverSuspended (openedRun neverSuspended) 2250000000 := by
  let _ := attemptDigests
  exact ⟨by decide +kernel, scheduleReach_sharesTimeLine (openedRun_reach _) _ rfl⟩

/-- After a suspend the first attempt of an epoch is not due when the epoch is observed, although
its offset is zero. -/
theorem suspend_delays_attempt :
    letI := attemptDigests
    ¬ ∀ clocks run, ScheduleReach clocks run → ∀ instant, SharesTimeLine clocks run instant := by
  let _ := attemptDigests
  intro h
  have hshares := h suspendedOnce _ (openedRun_reach _) 2000000000
  have hstored : (openedRun suspendedOnce).scheduler.triggers[(Text.lit "first" : RestoreTriggerId)]? =
      some ⟨⟨.lit "first", .deviceReturn, sampleEpoch.key.receiverId,
        sampleEpoch.key.generationId, some sampleEpoch.key.deviceId⟩,
        .lit 3602000, some sampleEpoch.sequence, .returnAttempt 0⟩ := by
    decide +kernel
  obtain ⟨epoch, hepoch, attempt, offset, hof, _, _, hdue⟩ := hshares _ _ hstored (by decide)
  have hopened : epoch = sampleEpoch := by
    have hmem : epoch ∈ [sampleEpoch] := hepoch
    exact mem_singleton.mp hmem
  subst hopened
  have hattempt : attempt = 0 := by
    have hpurpose := hof.purpose
    cases hpurpose
    rfl
  subst hattempt
  have hoffset : offset = 0 := (Option.some.inj hof.offset).symm
  subst hoffset
  have helapsed : Elapsed suspendedOnce sampleEpoch 0 2000000000 := Nat.le_refl _
  exact absurd (hdue helapsed) (by decide +kernel)

end Samples

end RestorationScheduler

end HyperfluxNext
