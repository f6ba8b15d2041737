import HyperfluxNext.Bridge.GenerationSpec
import HyperfluxNext.Lifecycle.Retirements

namespace HyperfluxNext

open Procedure

section Staging

variable {T α : Type} {s : BridgeState T} {call : GenerationM T α} {P : α → BridgeState T → Prop}
  {isApplied : α → Bool}

/-- Nothing but the durable store is different. -/
def RolledBack (s s' : BridgeState T) : Prop := s' = { s with restoration := s'.restoration }

/-- A staged call leaves all of its work when it was applied, and otherwise none of it. -/
theorem staged_holds (hignored : ∀ outcome, isApplied outcome = false → P outcome s)
    (h : Holds call s (fun outcome next =>
      if isApplied outcome then P outcome next else next.restoration = s.restoration)
      (fun _ _ => True)) :
    Holds (staged isApplied call) s (fun outcome s' => P outcome s') (fun _ s' => RolledBack s s') := by
  unfold Holds at h ⊢
  unfold staged
  cases hcall : call s with
  | ok outcome next =>
    rw [hcall] at h
    dsimp only at h ⊢
    by_cases happlied : isApplied outcome = true
    · rw [if_pos happlied] at h ⊢
      exact h
    rw [if_neg happlied] at h ⊢
    rw [h]
    exact hignored outcome (by simpa using happlied)
  | error error next => exact rfl

end Staging

section Observations

variable {T : Type} [ReceiverTransport T] [RestorationDigests] {s : BridgeState T} {receiverId : ReceiverId}
  (observation : ReceiverDisconnectObservation)

def OthersKept (receiverId : ReceiverId) (s s' : BridgeState T) : Prop :=
  ∀ id, id ≠ receiverId → s'.receivers.receivers[id]? = s.receivers.receivers[id]?

omit [ReceiverTransport T] [RestorationDigests] in
theorem insert_othersKept {machine : ReceiverLifecycleMachine} {registry : ReceiverLifecycleRegistry}
    (h : registry.receivers = s.receivers.receivers.insert receiverId machine) {s' : BridgeState T}
    (hs' : s'.receivers = registry) : OthersKept receiverId s s' := by
  intro id hne
  rw [hs', h, Std.TreeMap.getElem?_insert]
  split
  next heq => exact absurd (Std.LawfulEqCmp.compare_eq_iff_eq.mp heq).symm hne
  · rfl

def BridgeState.latestGeneration (s : BridgeState T) (receiverId : ReceiverId) : Option GenerationId :=
  s.receivers.receivers[receiverId]?.bind (·.latestGeneration)

/-- The lifecycle step of an activation: it changes one machine and nothing else. -/
structure LifecycleStaged (receiverId : ReceiverId) (s s' : BridgeState T)
    (result : ApplyOutcome × Option GenerationId × Bool) : Prop where
  rest : s' = { s with receivers := s'.receivers }
  others : OthersKept receiverId s s'
  previous : result.2.1 = s.latestGeneration receiverId

omit [ReceiverTransport T] [RestorationDigests] in
theorem stageActivationLifecycle_staged {stamp : ObservationStamp} {limits : LifecycleLimits} :
    Holds (stageActivationLifecycle receiverId stamp limits) s
      (fun result s' => LifecycleStaged receiverId s s' result) (fun _ _ => True) := by
  have hsame : OthersKept receiverId s s := fun _ _ => rfl
  simp only [stageActivationLifecycle, holds_do]
  split
  next hnone =>
    have hprevious : none = s.latestGeneration receiverId := by
      unfold BridgeState.latestGeneration
      rw [hnone]
      rfl
    simp only [registerDiscovered, holds_do]
    split
    · simp only [holds_do]
      refine ⟨fun registry hregistry => ⟨rfl, ?_, hprevious⟩, fun _ _ => trivial⟩
      unfold ReceiverLifecycleRegistry.register at hregistry
      split at hregistry
      · cases hregistry
      split at hregistry
      · cases hregistry
      have hid : ((ReceiverLifecycleMachine.new receiverId limits).discover stamp).2.receiverId =
          receiverId := by
        unfold ReceiverLifecycleMachine.discover
        split
        · rfl
        split
        · rfl
        · split <;> rfl
      rw [hid] at hregistry
      cases hregistry
      exact insert_othersKept rfl rfl
    · exact ⟨rfl, hsame, hprevious⟩
  next machine hmachine =>
    have hprevious : machine.latestGeneration = s.latestGeneration receiverId := by
      unfold BridgeState.latestGeneration
      rw [hmachine]
      rfl
    simp only [holds_do]
    exact ⟨rfl, insert_othersKept rfl rfl, hprevious⟩

structure ActivationDone (observation : ReceiverGenerationObservation) (s s' : BridgeState T)
    (activation : GenerationActivation) : Prop where
  previous : activation.previousGeneration = s.latestGeneration observation.receiverId
  ended : ∀ generationId, activation.previousGeneration = some generationId →
    AuthorityEnded observation.receiverId generationId observation.stamp.observedAtMs s s'
  kept : activation.previousGeneration = none → s'.leases = s.leases ∧
    s'.core.coordinator = s.core.coordinator ∧ s'.restoration = s.restoration
  others : OthersKept observation.receiverId s s'

def Activates (observation : ReceiverGenerationObservation) (s s' : BridgeState T) :
    GenerationActivationOutcome → Prop
  | .applied activation => ActivationDone observation s s' activation
  | .ignored _ => s' = s

theorem activate_activates (observation : ReceiverGenerationObservation) (limits : LifecycleLimits)
    (hsound : StoreSound s.records) :
    Holds (activate observation limits) s (fun outcome s' => Activates observation s s' outcome)
      (fun _ s' => RolledBack s s') := by
  refine staged_holds ?_ ?_
  · intro outcome houtcome
    cases outcome with
    | applied => cases houtcome
    | ignored => exact rfl
  simp only [holds_do]
  refine ⟨fun _ => trivial, fun _ => ?_⟩
  refine holds_post stageActivationLifecycle_staged ?_
  intro result s₁ hstaged
  obtain ⟨hrest, hothers, hprevious⟩ := hstaged
  split
  · rw [hrest]
    exact rfl
  rw [hrest] at hothers ⊢
  refine holds_mono (activateApplied_ends hsound) ?_ (fun _ _ _ => trivial)
  intro outcome s' hends
  obtain ⟨⟨hreceivers, hended, hkept⟩, activation, rfl, hactivation⟩ := hends
  refine ⟨hactivation.trans hprevious, ?_, ?_, ?_⟩
  · intro generationId hgeneration
    have hboth := hended generationId (hactivation ▸ hgeneration)
    exact ⟨hboth.queue, hboth.leases, hboth.claims⟩
  · intro hnone
    have hboth := hkept (hactivation ▸ hnone)
    exact ⟨hboth.leases, hboth.coordinator, hboth.restoration⟩
  intro id hne
  rw [hreceivers]
  exact hothers id hne

structure DisconnectBegan (observation : ReceiverDisconnectObservation) (s s' : BridgeState T) :
    Prop where
  current : ∃ machine current, s.receivers.receivers[observation.receiverId]? = some machine ∧
    machine.current = some current ∧ current.generationId = observation.stamp.generationId
  ended : AuthorityEnded observation.receiverId observation.stamp.generationId
    observation.stamp.observedAtMs s s'
  others : OthersKept observation.receiverId s s'

def BeginsDisconnect (observation : ReceiverDisconnectObservation) (s s' : BridgeState T) :
    ReceiverDisconnectOutcome → Prop
  | .applied _ => DisconnectBegan observation s s'
  | .ignored _ => s' = s

omit [RestorationDigests] in
theorem refusePresent_same (receiverId : ReceiverId) :
    Holds (refusePresent receiverId) s (fun _ s' => s' = s) (fun _ _ => True) := by
  simp only [refusePresent, holds_do]
  split
  · exact rfl
  · trivial

theorem beginApplied_ends {observation : ReceiverDisconnectObservation} (hsound : StoreSound s.records) :
    Holds (beginApplied observation) s
      (fun outcome s' => (∃ began, outcome = .applied began) ∧ s'.receivers = s.receivers ∧
        AuthorityEnded observation.receiverId observation.stamp.generationId
          observation.stamp.observedAtMs s s') (fun _ _ => True) := by
  simp only [beginApplied, holds_do]
  refine holds_post (appendStaged_undisturbed _) ?_
  intro _ s₁ hs₁
  refine holds_post (revokeAuthority_revokes observation.receiverId observation.stamp.generationId) ?_
  intro revoked s₂ hs₂
  have hleases : s₂.leases = (s.leases.invalidateGeneration observation.receiverId
      observation.stamp.generationId).2 := by
    rw [hs₂.leases, hs₁.leases]
  have hqueue : QueueEnded observation.receiverId observation.stamp.generationId s.core s₂.core := by
    obtain ⟨hpending, htransport, houtcomes⟩ := hs₂.queue
    rw [hs₁.coordinator] at hpending houtcomes
    refine ⟨hpending, htransport.trans hs₁.transport, fun hopened => ?_⟩
    obtain ⟨hevicted, hretained⟩ := houtcomes hopened
    rw [hs₁.coordinator] at hevicted hretained
    exact ⟨hevicted, hretained⟩
  have hrevoked : Revokes observation.receiverId observation.stamp.generationId s s₂ :=
    ⟨hqueue, hleases, hs₂.restoration.trans hs₁.restoration, hs₂.receivers.trans hs₁.receivers⟩
  have hstored : StoreSound s₂.records := by
    have hrecords : s₂.records = s.records := congrArg RestorationRuntime.records hrevoked.restoration
    rw [hrecords]
    exact hsound
  refine holds_post (retireClaims_ends observation.receiverId observation.stamp.generationId
    observation.stamp.observedAtMs hstored) ?_
  intro retirement s₃ hs₃
  exact ⟨⟨_, rfl⟩, hs₃.receivers.trans hrevoked.receivers, hrevoked.ended hs₃⟩

theorem beginDisconnect_begins (hsound : StoreSound s.records) :
    Holds (beginDisconnect observation) s
      (fun outcome s' => BeginsDisconnect observation s s' outcome) (fun _ s' => RolledBack s s') := by
  refine staged_holds ?_ ?_
  · intro outcome houtcome
    cases outcome with
    | applied => cases houtcome
    | ignored => exact rfl
  simp only [holds_bind]
  refine holds_post (refusePresent_same observation.receiverId) ?_
  intro _ s₁ hs₁
  subst hs₁
  simp only [holds_get]
  split
  · exact rfl
  next machine hmachine =>
    split
    · exact rfl
    next current hcurrent =>
      split
      · exact rfl
      split
      · exact rfl
      next happlied =>
        have hgeneration : current.generationId = observation.stamp.generationId := by
          by_contra hne
          refine happlied ?_
          unfold ReceiverLifecycleMachine.transitionReceiver ReceiverLifecycleMachine.generationRejection
          rw [hcurrent]
          simp only [if_neg (Ne.symm hne)]
          trivial
        simp only [holds_do]
        refine holds_post (beginApplied_ends hsound) ?_
        intro outcome s' hends
        obtain ⟨⟨began, rfl⟩, hreceivers, hended⟩ := hends
        refine ⟨⟨machine, current, hmachine, hcurrent, hgeneration⟩, ?_, ?_⟩
        · exact ⟨hended.queue, hended.leases, hended.claims⟩
        · exact insert_othersKept rfl hreceivers

/-- An applied completion of a disconnect: the begin step did the rest. -/
structure DisconnectCompleted (observation : ReceiverDisconnectObservation) (s s' : BridgeState T) :
    Prop where
  rest : s' = { s with receivers := s'.receivers, profiles := s'.profiles }
  others : OthersKept observation.receiverId s s'

def CompletesDisconnect (observation : ReceiverDisconnectObservation) (s s' : BridgeState T) :
    ReceiverDisconnectCompletionOutcome → Prop
  | .applied _ => DisconnectCompleted observation s s'
  | .ignored _ => s' = s

omit [RestorationDigests] in
theorem completeDisconnect_completes :
    Holds (completeDisconnect observation) s
      (fun outcome s' => CompletesDisconnect observation s s' outcome)
      (fun _ s' => RolledBack s s') := by
  refine staged_holds ?_ ?_
  · intro outcome houtcome
    cases outcome with
    | applied => cases houtcome
    | ignored => exact rfl
  simp only [holds_bind]
  refine holds_post (refusePresent_same observation.receiverId) ?_
  intro _ s₁ hs₁
  subst hs₁
  simp only [holds_get]
  split
  · exact rfl
  next machine _ =>
    split
    · exact rfl
    · exact ⟨rfl, insert_othersKept rfl rfl⟩

end Observations

inductive BridgeOp (T : Type) where
  | leases (call : LeaseCall)
  | transactions (op : CoordinatorOp)
  | restoration (step : RestorationStep T)
  | announce (draft : EventDraft)
  | observe (receiverId : ReceiverId) (op : LifecycleOp) (stamp : ObservationStamp)
  | activate (observation : ReceiverGenerationObservation) (limits : LifecycleLimits)
  | beginDisconnect (observation : ReceiverDisconnectObservation)
  | completeDisconnect (observation : ReceiverDisconnectObservation)
  | transport (transport : T)
  | commits (outcomes : List (Except FilePersistenceError Unit))

section Runs

variable {T : Type} [ReceiverTransport T] [RestorationDigests]

def BridgeState.restore (s : BridgeState T) (step : RestorationStep T) : BridgeState T :=
  match s.restoration with
  | .disabled => s
  | .durable store =>
    let next := ({ step with events := s.core.events, leases := s.leases } : RestorationStep T).run
      ⟨s.core, s.leases, store⟩
    { s with core := next.core, leases := next.leases, restoration := .durable next.store }

def RestorationRuntime.scripted (outcomes : List (Except FilePersistenceError Unit)) :
    RestorationRuntime → RestorationRuntime
  | .disabled => .disabled
  | .durable store => .durable { store with commits := outcomes }

def BridgeOp.run (s : BridgeState T) : BridgeOp T → BridgeState T
  | .leases call => { s with leases := call.run s.leases }
  | .transactions op => { s with core := op.apply s.core }
  | .restoration step => s.restore step
  | .announce draft => final (appendStaged draft) s
  | .observe receiverId op stamp => { s with receivers := s.receivers.observe receiverId op stamp }
  | .activate observation limits => final (HyperfluxNext.activate observation limits) s
  | .beginDisconnect observation => final (HyperfluxNext.beginDisconnect observation) s
  | .completeDisconnect observation => final (HyperfluxNext.completeDisconnect observation) s
  | .transport moved => { s with core := { s.core with transport := moved } }
  | .commits outcomes => { s with restoration := s.restoration.scripted outcomes }

/-- A bridge that has just started on a store that can be loaded. -/
structure BridgeStart (s : BridgeState T) : Prop where
  receivers : ∃ capacity, ReceiverLifecycleRegistry.new capacity = .ok s.receivers
  profiles : ∃ catalog capacity, RuntimeProfileAuthority.new catalog capacity = .ok s.profiles
  leases : ∃ maxLeases maxHistory, LeaseManager.new maxLeases maxHistory = .ok s.leases
  coordinator : ∃ capacity, TransactionCoordinator.new capacity = .ok s.core.coordinator
  sound : StoreSound s.records

inductive BridgeReach : BridgeState T → Prop
  | start {s : BridgeState T} (h : BridgeStart s) : BridgeReach s
  | step {s : BridgeState T} (h : BridgeReach s) (op : BridgeOp T) : BridgeReach (op.run s)

/-- The call keeps a store sound, whether it returns or fails. -/
def Sounding {α : Type} (m : GenerationM T α) : Prop :=
  ∀ ⦃s : BridgeState T⦄, StoreSound s.records →
    Holds m s (fun _ s' => StoreSound s'.records) (fun _ s' => StoreSound s'.records)

section Sounding

variable {α β : Type}

section
omit [ReceiverTransport T] [RestorationDigests]

theorem sounding_pure (a : α) : Sounding (pure a : GenerationM T α) := fun _ h => h

theorem Sounding.bind {m : GenerationM T α} {f : α → GenerationM T β} (hm : Sounding m)
    (hf : ∀ a, Sounding (f a)) : Sounding (m >>= f) := by
  intro s hsound
  rw [holds_bind]
  exact holds_post (hm hsound) fun a _ hs => hf a hs

theorem Sounding.get {f : BridgeState T → GenerationM T α}
    (hf : ∀ state, StoreSound state.records → Holds (f state) state
      (fun _ s' => StoreSound s'.records) (fun _ s' => StoreSound s'.records)) :
    Sounding (get >>= f) := by
  intro s hsound
  rw [holds_bind]
  exact hf s hsound

theorem appendStaged_sounding (draft : EventDraft) : Sounding (T := T) (appendStaged draft) := by
  refine Sounding.get fun state hsound => ?_
  simp only [holds_do]
  exact ⟨fun _ _ => hsound, fun _ _ => hsound⟩

theorem revokeAuthority_sounding (receiverId : ReceiverId) (generationId : GenerationId) :
    Sounding (T := T) (revokeAuthority receiverId generationId) := by
  intro s hsound
  simp only [revokeAuthority, onTransactions, holds_do]
  refine holds_mono holds_any ?_ (fun _ _ _ => hsound)
  intro terminals core _
  refine holds_mono (holds_each (fun _ _ s' => StoreSound s'.records) ?_ hsound) (fun _ _ h => h)
    (fun _ _ h => h)
  intro grant todo done s₁ hs₁
  exact appendStaged_sounding _ hs₁

theorem stageActivationLifecycle_sounding (receiverId : ReceiverId) (stamp : ObservationStamp)
    (limits : LifecycleLimits) :
    Sounding (T := T) (stageActivationLifecycle receiverId stamp limits) := by
  refine Sounding.get fun state hsound => ?_
  split
  · simp only [registerDiscovered, holds_do]
    split
    · simp only [holds_do]
      exact ⟨fun _ _ => hsound, fun _ _ => hsound⟩
    · exact hsound
  simp only [holds_do]
  exact hsound

theorem stageQualification_sounding (receiverId : ReceiverId) (generationId : GenerationId)
    (vendorId : VendorId) (productId : ProductId) :
    Sounding (T := T) (stageQualification receiverId generationId vendorId productId) := by
  refine Sounding.get fun state hsound => ?_
  split
  · simp only [holds_do]
    split
    · exact hsound
    · exact hsound
  · exact hsound
  · exact hsound

theorem appendLifecycleIf_sounding (condition : Bool) (kind : EventKind) (receiverId : ReceiverId)
    (generationId : GenerationId) :
    Sounding (T := T) (appendLifecycleIf condition kind receiverId generationId) := by
  unfold appendLifecycleIf
  split
  · exact appendStaged_sounding _
  · exact sounding_pure _

end

theorem retireClaims_sounding (receiverId : ReceiverId) (generationId : GenerationId)
    (now : MonotonicMs) : Sounding (T := T) (retireClaims receiverId generationId now) := by
  refine Sounding.get fun state hsound => ?_
  split
  · exact hsound
  next store hdurable =>
    have hsound : StoreSound store.document.restoreRecords := by
      unfold BridgeState.records at hsound
      rw [hdurable] at hsound
      exact hsound
    rw [holds_zoom]
    have hevolves := retireGeneration_evolves receiverId generationId now
      (s := ⟨state.core, state.leases, store⟩) hsound
    exact holds_mono hevolves (fun _ _ h => h.sound) (fun _ _ h => h.sound)

theorem activateApplied_sounding (observation : ReceiverGenerationObservation)
    (previous : Option GenerationId) (wasAbsent : Bool) :
    Sounding (T := T) (activateApplied observation previous wasAbsent) := by
  have hprevious : Sounding (T := T) (stagePreviousAuthority observation.receiverId previous) := by
    cases previous with
    | none => exact sounding_pure _
    | some previous =>
      intro s hsound
      simp only [stagePreviousAuthority, holds_do]
      exact revokeAuthority_sounding _ _ hsound
  have hretirement : Sounding (T := T) (stageRetirement observation.receiverId
      observation.stamp.observedAtMs previous) := by
    cases previous with
    | none => exact sounding_pure _
    | some previous => exact (retireClaims_sounding _ _ _).bind fun _ => sounding_pure _
  unfold activateApplied announceActivation
  dsimp only
  refine hprevious.bind fun revoked => ?_
  refine (stageQualification_sounding _ _ _ _).bind fun qualification => ?_
  refine Sounding.bind ((appendLifecycleIf_sounding _ _ _ _).bind fun _ =>
    appendLifecycleIf_sounding _ _ _ _) fun _ => ?_
  exact hretirement.bind fun _ => sounding_pure _

omit [ReceiverTransport T] [RestorationDigests] in
/-- Rolling the copies back keeps what the durable store became. -/
theorem staged_sounding {isApplied : α → Bool} {call : GenerationM T α} (h : Sounding call) :
    Sounding (staged isApplied call) := by
  intro s hsound
  have hcall := h hsound
  unfold Holds at hcall ⊢
  unfold staged
  cases hresult : call s with
  | ok outcome next =>
    rw [hresult] at hcall
    dsimp only at hcall ⊢
    split
    · exact hcall
    · exact hcall
  | error error next =>
    rw [hresult] at hcall
    exact hcall

theorem activate_sounding (observation : ReceiverGenerationObservation) (limits : LifecycleLimits) :
    Sounding (T := T) (activate observation limits) := by
  refine staged_sounding (Sounding.get fun state hsound => ?_)
  simp only [holds_do]
  refine ⟨fun _ => hsound, fun _ => ?_⟩
  refine holds_post (stageActivationLifecycle_sounding _ _ _ hsound) ?_
  intro result s₁ hs₁
  split
  · exact hs₁
  · exact activateApplied_sounding _ _ _ hs₁

omit [RestorationDigests] in
theorem refusePresent_sounding (receiverId : ReceiverId) : Sounding (T := T) (refusePresent receiverId) := by
  refine Sounding.get fun state hsound => ?_
  split
  · exact hsound
  · exact hsound

theorem beginApplied_sounding (observation : ReceiverDisconnectObservation) :
    Sounding (T := T) (beginApplied observation) := by
  unfold beginApplied
  refine (appendStaged_sounding _).bind fun _ => ?_
  refine (revokeAuthority_sounding _ _).bind fun revoked => ?_
  exact (retireClaims_sounding _ _ _).bind fun _ => sounding_pure _

theorem beginDisconnect_sounding (observation : ReceiverDisconnectObservation) :
    Sounding (T := T) (beginDisconnect observation) := by
  refine staged_sounding ((refusePresent_sounding _).bind fun _ => Sounding.get fun state hsound => ?_)
  split
  · exact hsound
  next machine _ =>
    split
    · exact hsound
    next current _ =>
      split
      · exact hsound
      dsimp only
      split
      · exact hsound
      simp only [holds_do]
      exact beginApplied_sounding observation (s := state.setMachine observation.receiverId
        (machine.transitionReceiver .disconnecting observation.stamp).2) hsound

omit [RestorationDigests] in
theorem completeDisconnect_sounding (observation : ReceiverDisconnectObservation) :
    Sounding (T := T) (completeDisconnect observation) := by
  refine staged_sounding ((refusePresent_sounding _).bind fun _ => Sounding.get fun state hsound => ?_)
  split
  · exact hsound
  next machine _ =>
    dsimp only
    split
    · exact hsound
    simp only [holds_do]
    exact hsound

end Sounding

variable {s : BridgeState T}

theorem BridgeState.restore_sound (step : RestorationStep T)
    (hsound : StoreSound s.records) : StoreSound (s.restore step).records := by
  unfold BridgeState.restore
  split
  · exact hsound
  next store hdurable =>
    have hsound : StoreSound store.document.restoreRecords := by
      unfold BridgeState.records at hsound
      rw [hdurable] at hsound
      exact hsound
    exact (RestorationStep.run_evolves (s := ⟨s.core, s.leases, store⟩) _ hsound).sound

theorem BridgeOp.run_sound (op : BridgeOp T) (hsound : StoreSound s.records) :
    StoreSound (op.run s).records := by
  cases op with
  | leases call | transactions op => exact hsound
  | restoration step => exact BridgeState.restore_sound step hsound
  | announce draft => exact holds_final (appendStaged_sounding draft hsound)
  | observe receiverId op stamp => exact hsound
  | activate observation limits => exact holds_final (activate_sounding observation limits hsound)
  | beginDisconnect observation => exact holds_final (beginDisconnect_sounding observation hsound)
  | completeDisconnect observation => exact holds_final (completeDisconnect_sounding observation hsound)
  | transport moved => exact hsound
  | commits outcomes =>
    have hsame : (s.restoration.scripted outcomes).records = s.restoration.records := by
      cases s.restoration <;> rfl
    show StoreSound (s.restoration.scripted outcomes).records
    rw [hsame]
    exact hsound

theorem bridgeReach_sound (h : BridgeReach s) : StoreSound s.records := by
  induction h with
  | start hstart => exact hstart.sound
  | step _ op ih => exact op.run_sound ih

theorem bridgeReach_foldl (h : BridgeReach s) (ops : List (BridgeOp T)) :
    BridgeReach (ops.foldl BridgeOp.run s) := by
  induction ops generalizing s with
  | nil => exact h
  | cons op ops ih => exact ih (.step h op)

/-- In every state a run comes through: an applied observation leaves no authority of the generation
it ended and keeps everyone else's, and any other one changes nothing but the durable store. -/
theorem bridgeReach_generationChange {s : BridgeState T} (hreach : BridgeReach s) :
    (∀ observation limits, Holds (activate observation limits) s
      (fun outcome s' => Activates observation s s' outcome) (fun _ s' => RolledBack s s')) ∧
    (∀ observation, Holds (beginDisconnect observation) s
      (fun outcome s' => BeginsDisconnect observation s s' outcome) (fun _ s' => RolledBack s s')) ∧
    ∀ observation, Holds (completeDisconnect observation) s
      (fun outcome s' => CompletesDisconnect observation s s' outcome)
      (fun _ s' => RolledBack s s') := by
  have hsound : StoreSound s.records := bridgeReach_sound hreach
  exact ⟨fun observation limits => activate_activates observation limits hsound,
    fun observation => beginDisconnect_begins observation hsound,
    fun observation => completeDisconnect_completes observation⟩

end Runs

def startedBridge : BridgeState FixedTransport where
  receivers := ⟨2, ∅, by decide⟩
  profiles := ⟨⟨∅, fun _ _ => none⟩, 2, ∅⟩
  leases := ⟨4, 4, ∅, ∅, []⟩
  core := ⟨emptyCoordinator, sampleLog, sampleTransport⟩
  restoration := .durable ⟨1, ⟨[], [], []⟩, []⟩

def sampleSeen (generationId : GenerationId) (observedAtMs : MonotonicMs) : ReceiverGenerationObservation :=
  ⟨sampleResource.receiverId, .lit 1, .lit 1,
    sampleStamp generationId (.lit 1) observedAtMs⟩

def otherReceiver : ReceiverId := .lit "other-receiver"

def otherLease : LeaseId := .lit "lease-1"

def otherAcquire : LeaseCall :=
  .acquire ⟨.lit "request-1", .lit "client-1",
    [{ sampleResource with receiverId := otherReceiver }], .lit 1000⟩ otherLease
    (.lit 0)

/-- The sample receiver's claim is queued, the other receiver is leased, and the sample receiver comes
back with a new generation. -/
def busyBridge : BridgeState FixedTransport :=
  letI := sampleRestorationDigests
  List.foldl BridgeOp.run startedBridge
    [.activate (sampleSeen sampleGeneration (.lit 0)) sampleLimits,
      .restoration samplePlan, .restoration sampleAdvance, .leases otherAcquire,
      .transport { sampleTransport with generation := some (.lit 2) }]

def sampleReplaced : ReceiverGenerationObservation :=
  sampleSeen (.lit 2) (.lit 2000)

theorem busyBridge_reach :
    letI := sampleRestorationDigests
    BridgeReach busyBridge := by
  let _ := sampleRestorationDigests
  have hstart : BridgeStart startedBridge :=
    ⟨⟨2, rfl⟩, ⟨_, 2, rfl⟩, ⟨4, 4, rfl⟩, ⟨1, rfl⟩, ⟨List.nodup_nil, fun _ => Nat.zero_le _⟩⟩
  exact bridgeReach_foldl (.start hstart) _

theorem busyBridge_replaced :
    letI := sampleRestorationDigests
    ((answer (activate sampleReplaced sampleLimits) busyBridge).toOption.any
        GenerationActivationOutcome.isApplied) = true ∧
      busyBridge.leases.leases[otherLease]?.isSome = true ∧
      (final (activate sampleReplaced sampleLimits) busyBridge).leases.leases[otherLease]? = none := by
  decide +kernel

theorem bridgeReach_generationChange_busy :
    letI := sampleRestorationDigests
    ∃ activation, answer (activate sampleReplaced sampleLimits) busyBridge = .ok (.applied activation) ∧
      ActivationDone sampleReplaced busyBridge (final (activate sampleReplaced sampleLimits) busyBridge)
        activation := by
  let _ := sampleRestorationDigests
  have happlied := busyBridge_replaced.1
  have hreach : BridgeReach busyBridge := busyBridge_reach
  have hall := bridgeReach_generationChange hreach
  clear hreach
  generalize busyBridge = s at happlied hall ⊢
  have hcall := hall.1 sampleReplaced sampleLimits
  cases hanswer : answer (activate sampleReplaced sampleLimits) s with
  | error error =>
    rw [hanswer] at happlied
    cases happlied
  | ok outcome =>
    have hdone := holds_of_answer hcall hanswer
    rw [hanswer] at happlied
    cases outcome with
    | applied activation => exact ⟨activation, rfl, hdone⟩
    | ignored outcome => cases happlied

/-- The activation is applied, and the other receiver's lease is gone: ending the claim's attempt
dropped it because its time had elapsed. -/
theorem activation_drops_other_lease :
    letI := sampleRestorationDigests
    BridgeReach busyBridge ∧
      ((answer (activate sampleReplaced sampleLimits) busyBridge).toOption.any
        GenerationActivationOutcome.isApplied) = true ∧
      busyBridge.leases.leases[otherLease]?.isSome = true ∧
      (final (activate sampleReplaced sampleLimits) busyBridge).leases.leases[otherLease]? = none := by
  let _ := sampleRestorationDigests
  exact ⟨busyBridge_reach, busyBridge_replaced⟩

end HyperfluxNext
