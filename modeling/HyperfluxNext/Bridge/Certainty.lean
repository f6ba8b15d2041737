import HyperfluxNext.Bridge.ActorRuns

namespace HyperfluxNext

open NativeExchangeJournal List Procedure OrderedMaps

/-- Whether a result leaves open or says that the report was sent. -/
def NativeExchangeResult.sent : NativeExchangeResult → Bool
  | .notSent _ _ => false
  | .mayHaveBeenSent _ _ => true
  | .matchedResponse _ => true

def holdsToken (routeToken : NativeRouteToken) : Except RpcFailure (List NativeRoute) → Bool
  | .error _ => true
  | .ok current => current.any (·.routeToken = some routeToken)

def NativePorts.holdToken (ports : NativePorts) (routeToken : NativeRouteToken) : Bool :=
  holdsToken routeToken ports.tickRoutes && holdsToken routeToken ports.exchangeRoutes

section Journal

def NativeBackend.record (backend : NativeBackend) (key : NativeRequestKey) : Option NativeExchangeRecord :=
  backend.exchanges.records[key]?

variable {b b₁ b₂ : NativeBackend} {key : NativeRequestKey} {held : NativeRouteToken → Bool}

theorem withdrawRoute_record {current : List NativeRoute} {record : NativeExchangeRecord}
    (hrecord : b.record key = some record)
    (hheld : current.any (·.routeToken = some record.request.routeToken)) (route : NativeRoute) :
    (withdrawRoute current b route).record key = some record := by
  unfold withdrawRoute
  split
  · exact hrecord
  next routeToken _ =>
    split
    · exact hrecord
    next hgone =>
      have hother : record.request.routeToken ≠ routeToken := by
        intro heq
        exact hgone (heq ▸ hheld)
      unfold NativeBackend.record at hrecord ⊢
      simp only [invalidateRoute, Std.TreeMap.getElem?_map, hrecord,
        Option.map_some, ne_eq, hother, not_false_eq_true, if_true]

theorem withdrawRoutes_record {current : List NativeRoute} {record : NativeExchangeRecord}
    (hrecord : b.record key = some record)
    (hheld : current.any (·.routeToken = some record.request.routeToken)) (routes : List NativeRoute) :
    (routes.foldl (withdrawRoute current) b).record key = some record := by
  induction routes generalizing b with
  | nil => exact hrecord
  | cons route routes ih => exact ih (withdrawRoute_record hrecord hheld route)

def SameRecords (held : NativeRouteToken → Bool) (b b' : NativeBackend) : Prop :=
  ∀ key record, b.record key = some record → held record.request.routeToken → b'.record key = some record

theorem SameRecords.refl (held : NativeRouteToken → Bool) (b : NativeBackend) : SameRecords held b b :=
  fun _ _ hrecord _ => hrecord

theorem SameRecords.trans {b₃ : NativeBackend} (h : SameRecords held b₁ b₂) (h' : SameRecords held b₂ b₃)
    : SameRecords held b₁ b₃ :=
  fun key record hrecord hheld => h' key record (h key record hrecord hheld) hheld

theorem SameRecords.weaken {more : NativeRouteToken → Bool} {b' : NativeBackend} (h : SameRecords held b b')
    (hmore : ∀ routeToken, more routeToken → held routeToken) :
    SameRecords more b b' :=
  fun key record hrecord hheld => h key record hrecord (hmore _ hheld)

theorem synchronizeNativeRoutes_records (projected : Except RpcFailure (List NativeRoute)) (b : NativeBackend) :
    Holds (synchronizeNativeRoutes projected) b
      (fun _ b' => SameRecords (holdsToken · projected) b b') (fun _ b' => b' = b) := by
  simp only [synchronizeNativeRoutes, holds_do]
  refine ⟨fun current hcurrent => ?_, fun _ _ => trivial⟩
  have hprojected : projected = .ok current := hcurrent
  intro key record hrecord hheld
  rw [hprojected] at hheld
  exact withdrawRoutes_record (b := { b with
    routes := current, invalidations := current.foldl retireRoute b.invalidations }) hrecord hheld _

theorem tick_records (ports : NativePorts) (b : NativeBackend) :
    Holds (tick ports) b (fun _ b' => SameRecords (holdsToken · ports.tickRoutes) b b')
      (fun _ b' => b' = b) := by
  simp only [tick, holds_do]
  exact ⟨fun _ _ => synchronizeNativeRoutes_records ports.tickRoutes b, fun _ _ => trivial⟩

def KeepsRecords (held : NativeRouteToken → Bool) (b b' : NativeBackend) : Prop :=
  ∀ key record, b.record key = some record → held record.request.routeToken →
    b'.record key = some record ∨ b'.record key = none

theorem SameRecords.keeps {b' : NativeBackend} (h : SameRecords held b b') : KeepsRecords held b b' :=
  fun key record hrecord hheld => .inl (h key record hrecord hheld)

theorem SameRecords.trans_keeps {b₃ : NativeBackend} (h : SameRecords held b₁ b₂)
    (h' : KeepsRecords held b₂ b₃) : KeepsRecords held b₁ b₃ :=
  fun key record hrecord hheld => h' key record (h key record hrecord hheld) hheld

structure OutcomeOf (held : NativeRouteToken → Bool) (key : NativeRequestKey) (b : NativeBackend)
    (outcome : NativeExchangeOutcome) (b' : NativeBackend) : Prop where
  journaled : ∃ record, b'.record key = some record ∧ record.outcome = outcome
  retained : ∀ record, b.record key = some record → held record.request.routeToken → outcome = record.outcome

theorem OutcomeOf.after {outcome : NativeExchangeOutcome} (hsame : SameRecords held b b₁)
    (h : OutcomeOf held key b₁ outcome b₂) : OutcomeOf held key b outcome b₂ :=
  ⟨h.journaled, fun record hrecord hheld => h.retained record (hsame key record hrecord hheld) hheld⟩

theorem remember_record {journal journal' : NativeExchangeJournal} {request : NativeExchangeRequest}
    {outcome : NativeExchangeOutcome} (hnew : journal.records[request.key]? = none)
    (h : journal.remember request outcome = .ok journal') :
    journal'.records[request.key]? = some ⟨request, outcome⟩ ∧
      ∀ (key : NativeRequestKey) (record : NativeExchangeRecord), journal.records[key]? = some record →
        journal'.records[key]? = some record ∨ journal'.records[key]? = none := by
  simp only [remember, hnew] at h
  cases h
  refine ⟨?_, ?_⟩
  · rw [getElem?_insert_of, if_pos rfl]
  intro key record hrecord
  have hother : key ≠ request.key := by
    intro heq
    rw [heq, hnew] at hrecord
    cases hrecord
  rw [getElem?_insert_of, if_neg hother]
  unfold evictOldest
  split
  · split
    · exact .inl hrecord
    next expired order _ =>
      dsimp only
      rw [getElem?_erase_of]
      by_cases heq : key = expired
      · exact .inr (if_pos heq)
      rw [if_neg heq]
      exact .inl hrecord
  · exact .inl hrecord

theorem completeNativeExchange_certain (held : NativeRouteToken → Bool)
    (request : NativeExchangeRequest) (result : NativeExchangeResult) (b : NativeBackend) :
    Holds (completeNativeExchange request result) b
      (fun outcome b' => KeepsRecords held b b' ∧ OutcomeOf held request.key b outcome b')
      (fun _ b' => b' = b) := by
  simp only [completeNativeExchange, holds_do]
  refine ⟨fun found hfound => ?_, fun _ _ => trivial⟩
  unfold retained at hfound
  split at hfound
  next hnew =>
    cases hfound
    simp only [holds_do]
    refine ⟨fun journal hjournal => ?_, fun _ _ => trivial⟩
    obtain ⟨hmine, hothers⟩ := remember_record hnew hjournal
    refine ⟨fun key record hrecord _ => hothers key record hrecord, ⟨⟨_, hmine, rfl⟩, ?_⟩⟩
    intro record hrecord
    have hsome : b.exchanges.records[request.key]? = some record := hrecord
    rw [hnew] at hsome
    cases hsome
  next record hrecord =>
    split at hfound
    · cases hfound
    cases hfound
    refine ⟨(SameRecords.refl held b).keeps, ⟨record, hrecord, rfl⟩, ?_⟩
    intro other hother _
    have hsome : b.exchanges.records[request.key]? = some other := hother
    rw [hrecord] at hsome
    cases hsome
    rfl

/-- What a call does to the journal and says about its request. -/
def CertainCall (held : NativeRouteToken → Bool) (key : NativeRequestKey)
    (call : NativeM NativeExchangeOutcome) (b : NativeBackend) : Prop :=
  Holds call b
    (fun outcome b' => KeepsRecords held b b' ∧ OutcomeOf held key b outcome b')
    (fun _ b' => KeepsRecords held b b')

theorem completeNativeExchange_after {request : NativeExchangeRequest} (hsame : SameRecords held b b₁)
    (result : NativeExchangeResult) :
    Holds (completeNativeExchange request result) b₁
      (fun outcome b' => KeepsRecords held b b' ∧ OutcomeOf held request.key b outcome b')
      (fun _ b' => KeepsRecords held b b') := by
  refine holds_mono (completeNativeExchange_certain held request result b₁) ?_ ?_
  · intro outcome b' hcertain
    exact ⟨hsame.trans_keeps hcertain.1, hcertain.2.after hsame⟩
  intro _ b' hfailed
  rw [hfailed]
  exact hsame.keeps

theorem NativePorts.holdToken_iff {ports : NativePorts} {routeToken : NativeRouteToken} :
    ports.holdToken routeToken ↔
      holdsToken routeToken ports.tickRoutes ∧ holdsToken routeToken ports.exchangeRoutes := by
  unfold NativePorts.holdToken
  rw [Bool.and_eq_true]

theorem tick_held (ports : NativePorts) (b : NativeBackend) :
    Holds (tick ports) b (fun _ b' => SameRecords ports.holdToken b b') (fun _ b' => b' = b) := by
  refine holds_mono (tick_records ports b) ?_ (fun _ _ hfailed => hfailed)
  intro _ b' hsame
  exact hsame.weaken fun _ hheld => (NativePorts.holdToken_iff.mp hheld).1

theorem exchangeRoutes_held (ports : NativePorts) (b : NativeBackend) :
    Holds (synchronizeNativeRoutes ports.exchangeRoutes) b
      (fun _ b' => SameRecords ports.holdToken b b') (fun _ b' => b' = b) := by
  refine holds_mono (synchronizeNativeRoutes_records ports.exchangeRoutes b) ?_ (fun _ _ hfailed => hfailed)
  intro _ b' hsame
  exact hsame.weaken fun _ hheld => (NativePorts.holdToken_iff.mp hheld).2

theorem rejectNativeExchange_certain (ports : NativePorts) (session : AuthorizedSession)
    (request : NativeExchangeRequest) (rejection : NativeExchangeRejection) (b : NativeBackend) :
    CertainCall ports.holdToken request.key (rejectNativeExchange ports session request rejection) b := by
  unfold CertainCall rejectNativeExchange
  refine holds_authorized (fun _ => ?_) (fun _ _ => (SameRecords.refl _ b).keeps)
  simp only [holds_bind]
  refine holds_mono (tick_held ports b) ?_ ?_
  · intro _ b₁ hsame
    exact completeNativeExchange_after hsame _
  intro _ b₁ hfailed
  rw [hfailed]
  exact (SameRecords.refl _ b).keeps

theorem nativeTransact_certain (ports : NativePorts) (session : AuthorizedSession)
    (request : NativeExchangeRequest) (b : NativeBackend) :
    CertainCall ports.holdToken request.key (nativeTransact ports session request) b := by
  have hsent : ∀ (b₁ : NativeBackend) (dispatch : NativeTransportDispatch),
      SameRecords ports.holdToken b b₁ →
      SameRecords ports.holdToken b { b₁ with calls := b₁.calls ++ [dispatch] } :=
    fun b₁ dispatch hsame => hsame.trans fun _ _ hrecord _ => hrecord
  unfold CertainCall nativeTransact
  refine holds_authorized (fun _ => ?_) (fun _ _ => (SameRecords.refl _ b).keeps)
  simp only [holds_do]
  refine holds_mono (tick_held ports b) ?_ ?_
  · intro _ b₁ hticked
    split
    · exact completeNativeExchange_after hticked _
    simp only [holds_do]
    refine ⟨fun found hfound => ?_, fun _ _ => hticked.keeps⟩
    cases found with
    | some outcome =>
      unfold retained at hfound
      split at hfound
      · cases hfound
      next record hrecord =>
        split at hfound
        · cases hfound
        cases hfound
        refine ⟨hticked.keeps, .after hticked ⟨⟨record, hrecord, rfl⟩, ?_⟩⟩
        intro other hother _
        have hsome : b₁.exchanges.records[request.key]? = some other := hother
        rw [hrecord] at hsome
        cases hsome
        rfl
    | none =>
      simp only [holds_do]
      refine holds_mono (exchangeRoutes_held ports b₁) ?_ ?_
      · intro _ b₂ hreconciled
        have hsame := hticked.trans hreconciled
        split
        · exact completeNativeExchange_after hsame _
        simp only [holds_do]
        refine ⟨fun nonce _ => ⟨fun result _ => ?_, fun _ _ => ?_⟩, fun _ _ => hsame.keeps⟩
        · exact completeNativeExchange_after (hsent b₂ _ hsame) _
        · exact (hsent b₂ _ hsame).keeps
      intro _ b₂ hfailed
      rw [hfailed]
      exact hticked.keeps
  · intro _ b₁ hfailed
    rw [hfailed]
    exact (SameRecords.refl _ b).keeps

end Journal

/-- What a reply says is what the journal says, before and after, about its request. -/
structure AnsweredNative.Certain (answer : AnsweredNative) : Prop where
  keeps : KeepsRecords answer.ports.holdToken answer.before answer.after
  outcome : ∀ outcome, answer.reply = .success outcome →
    OutcomeOf answer.ports.holdToken answer.command.pending.request.key answer.before outcome answer.after

variable {b b' : NativeBackend} {log : List ActorEvent}

theorem dispatchPending_certain {command : NativeCommand} {ports : NativePorts}
    {call : AuthorizedSession → NativeM NativeExchangeOutcome}
    (hcall : ∀ session, CertainCall ports.holdToken command.pending.request.key (call session) b) :
    AnsweredNative.Certain ⟨command, ports, b, (dispatchPending ports command.pending call b).1,
      (dispatchPending ports command.pending call b).2⟩ := by
  have hnone : ∀ reply : NativeReply, (∀ outcome, reply ≠ .success outcome) →
      AnsweredNative.Certain ⟨command, ports, b, reply, b⟩ :=
    fun reply hreply => ⟨(SameRecords.refl _ b).keeps, fun outcome heq => absurd heq (hreply outcome)⟩
  unfold dispatchPending
  split
  · exact hnone _ fun _ heq => (by cases heq)
  · exact hnone _ fun _ heq => (by cases heq)
  next session _ =>
    split
    next outcome b' hok =>
      have hcertain := (holds_of_ok hok).mp (hcall session)
      refine ⟨hcertain.1, ?_⟩
      intro other heq
      cases heq
      exact hcertain.2
    next failure b' herror => exact ⟨(holds_of_error herror).mp (hcall session), fun _ heq => (by cases heq)⟩

/-- The log of a run as a chain of the backends it passed. -/
def Traced : NativeBackend → List ActorEvent → NativeBackend → Prop
  | b, [], b' => b'.exchanges = b.exchanges
  | b, .arrived _ :: log, b' => Traced b log b'
  | b, .answered answer :: log, b' =>
    answer.before.exchanges = b.exchanges ∧ answer.Certain ∧ Traced answer.after log b'
  | b, .synchronized projected before :: log, b' =>
    before.exchanges = b.exchanges ∧ Traced (final (synchronizeNativeRoutes projected) before) log b'

theorem Traced.start {b₁ b₂ : NativeBackend} (hsame : b₂.exchanges = b₁.exchanges) (h : Traced b₂ log b')
    : Traced b₁ log b' := by
  induction log with
  | nil => exact h.trans hsame
  | cons event log ih =>
    cases event with
    | arrived command => exact ih h
    | answered answer | synchronized projected before => exact ⟨h.1.trans hsame, h.2⟩

theorem Traced.append {b₁ b₂ b₃ : NativeBackend} {more : List ActorEvent} (h : Traced b₁ log b₂)
    (h' : Traced b₂ more b₃) : Traced b₁ (log ++ more) b₃ := by
  induction log generalizing b₁ with
  | nil => exact h'.start h
  | cons event log ih =>
    cases event with
    | arrived command => exact ih h
    | answered answer => exact ⟨h.1, h.2.1, ih h.2.2⟩
    | synchronized projected before => exact ⟨h.1, ih h.2⟩

/-- A step whose new events chain its backends. -/
def TracedStep (actor actor' : BridgeActor) : Prop :=
  ∃ more, actor'.log = actor.log ++ more ∧ Traced actor.backend more actor'.backend

theorem TracedStep.quiet {actor actor' : BridgeActor} (hlog : actor'.log = actor.log)
    (hsame : actor'.backend.exchanges = actor.backend.exchanges) : TracedStep actor actor' :=
  ⟨[], by rw [hlog, append_nil], hsame⟩

theorem TracedStep.trans {actor₁ actor₂ actor₃ : BridgeActor} (h : TracedStep actor₁ actor₂)
    (h' : TracedStep actor₂ actor₃) : TracedStep actor₁ actor₃ := by
  obtain ⟨log, hlog, htraced⟩ := h
  obtain ⟨more, hmore, htraced'⟩ := h'
  refine ⟨log ++ more, ?_, htraced.append htraced'⟩
  rw [hmore, hlog, append_assoc]

namespace BridgeActor

theorem receive_traced (actor : BridgeActor) (command : NativeCommand) :
    TracedStep actor (actor.receive command) :=
  ⟨[.arrived command], rfl, rfl⟩

theorem answer_traced {actor : BridgeActor} {command : NativeCommand} {ports : NativePorts}
    {result : NativeReply × NativeBackend}
    (h : AnsweredNative.Certain ⟨command, ports, actor.backend, result.1, result.2⟩) :
    TracedStep actor (actor.answer command ports result) :=
  ⟨[.answered ⟨command, ports, actor.backend, result.1, result.2⟩], rfl, rfl, h, rfl⟩

theorem refuse_traced {actor : BridgeActor} {command : NativeCommand} {ports : NativePorts}
    {reply : NativeReply} (h : ∀ outcome, reply ≠ .success outcome) :
    TracedStep actor (actor.answer command ports (reply, actor.backend)) :=
  answer_traced ⟨(SameRecords.refl _ _).keeps, fun outcome heq => absurd heq (h outcome)⟩

theorem rejectPendingNative_traced (ports : NativePorts) (actor : BridgeActor)
    (rejected : NativeCommand × NativeExchangeRejection) :
    TracedStep actor (rejectPendingNative ports actor rejected) :=
  answer_traced (dispatchPending_certain fun session => rejectNativeExchange_certain _ session _ _ _)

theorem rejectAll_traced (ports : Nat → NativePorts)
    (rejected : List (NativeCommand × NativeExchangeRejection)) (actor : BridgeActor) :
    TracedStep actor (rejectAll ports rejected actor) := by
  induction rejected generalizing actor with
  | nil => exact .quiet rfl rfl
  | cons first rejected ih => exact (rejectPendingNative_traced _ actor first).trans (ih _)

theorem processRequest_traced (actor : BridgeActor) (connectionId : Nat)
    (request : NativeExchangeRequest) (now : Nat) (ports : NativePorts) :
    TracedStep actor (actor.processRequest connectionId request now ports) := by
  unfold processRequest
  generalize NativeCommand.mk _ _ = command
  refine (receive_traced actor command).trans ?_
  dsimp only
  split
  · exact refuse_traced fun _ heq => (by cases heq)
  · exact refuse_traced fun _ heq => (by cases heq)
  split
  · exact .quiet rfl rfl
  · exact rejectPendingNative_traced _ _ _

theorem dispatchNextNative_traced (actor : BridgeActor) (now : Nat) (ports : NativePorts) :
    TracedStep actor (actor.dispatchNextNative now ports) := by
  unfold dispatchNextNative
  split
  · exact .quiet rfl rfl
  next command queue _ =>
    have htaken : TracedStep actor { actor with nativePending := queue } := .quiet rfl rfl
    dsimp only
    split
    · exact htaken.trans (rejectPendingNative_traced _ _ _)
    next timeoutMs _ =>
      refine htaken.trans (answer_traced (dispatchPending_certain fun session => ?_))
      exact nativeTransact_certain _ session { command.pending.request with timeoutMs := timeoutMs } _

theorem cancelInvalidatedNative_traced (actor : BridgeActor) (ports : Nat → NativePorts) :
    TracedStep actor (actor.cancelInvalidatedNative ports) := by
  unfold cancelInvalidatedNative
  generalize actor.backend.invalidations.takePending = taken
  obtain ⟨invalidations, journal⟩ := taken
  dsimp only
  split
  · exact .quiet rfl rfl
  have htaken : ∀ queue, TracedStep actor { actor with
      backend := { actor.backend with invalidations := journal }, nativePending := queue } :=
    fun queue => .quiet rfl rfl
  exact (htaken _).trans (rejectAll_traced _ _ _)

end BridgeActor

theorem ActorAction.run_traced (actor : BridgeActor) (action : ActorAction) :
    TracedStep actor (action.run actor) := by
  unfold ActorAction.run
  split
  · exact .quiet rfl rfl
  have hqueue : ∀ queue, TracedStep actor { actor with nativePending := queue } := fun queue => .quiet rfl rfl
  cases action with
  | openConnection =>
    dsimp only
    split
    next hopened =>
      unfold BridgeActor.openConnection at hopened
      split at hopened
      · cases hopened
      cases hopened
      exact .quiet rfl rfl
    · exact .quiet rfl rfl
  | request connectionId sent now ports => exact actor.processRequest_traced connectionId sent now ports
  | disconnect connectionId ports =>
    exact ((hqueue _).trans (BridgeActor.rejectAll_traced ports _ _)).trans (.quiet rfl rfl)
  | reconcile projected => exact ⟨[.synchronized projected actor.backend], rfl, rfl, rfl⟩
  | cancelInvalidated ports => exact actor.cancelInvalidatedNative_traced ports
  | dispatchNext now ports => exact actor.dispatchNextNative_traced now ports
  | cleanupAll ports => exact ((hqueue _).trans (BridgeActor.rejectAll_traced ports _ _)).trans (.quiet rfl rfl)

theorem actorRun_traced (start : BridgeActor) (actions : List ActorAction) :
    TracedStep start (actorRun start actions) := by
  unfold actorRun
  induction actions generalizing start with
  | nil => exact .quiet rfl rfl
  | cons action actions ih => exact (action.run_traced start).trans (ih _)

theorem Traced.split {more : List ActorEvent} (h : Traced b (log ++ more) b')
    : ∃ middle, Traced b log middle ∧ Traced middle more b' := by
  induction log generalizing b with
  | nil => exact ⟨b, rfl, h⟩
  | cons event log ih =>
    cases event with
    | arrived command => exact ih h
    | answered answer =>
      obtain ⟨middle, hlog, hmore⟩ := ih h.2.2
      exact ⟨middle, ⟨h.1, h.2.1, hlog⟩, hmore⟩
    | synchronized projected before =>
      obtain ⟨middle, hlog, hmore⟩ := ih h.2
      exact ⟨middle, ⟨h.1, hlog⟩, hmore⟩

/-- Whether every projection of the routes that an event may take over has the token. -/
def ActorEvent.holdsRoute (routeToken : NativeRouteToken) : ActorEvent → Bool
  | .arrived _ => true
  | .answered answer => answer.ports.holdToken routeToken
  | .synchronized projected _ => holdsToken routeToken projected

def ActorEvent.retains (key : NativeRequestKey) : ActorEvent → Bool
  | .arrived _ => true
  | .answered answer => (answer.before.record key).isSome
  | .synchronized _ before => (before.record key).isSome

theorem record_of_retained {before : NativeBackend} {key : NativeRequestKey} {record : NativeExchangeRecord}
    (hsame : before.exchanges = b.exchanges) (h : b.record key = some record ∨ b.record key = none)
    (hretains : (before.record key).isSome) :
    before.record key = some record := by
  have heq : before.record key = b.record key := by
    unfold NativeBackend.record
    rw [hsame]
  rw [heq] at hretains ⊢
  obtain hsome | hnone := h
  · exact hsome
  rw [hnone] at hretains
  cases hretains

/-- A record whose route is held and that is not evicted reaches every later reply. -/
theorem Traced.record {between rest : List ActorEvent} {later : AnsweredNative}
    (h : Traced b (between ++ .answered later :: rest) b') {key : NativeRequestKey}
    {record : NativeExchangeRecord} (hrecord : b.record key = some record ∨ b.record key = none)
    (hheld : ∀ event ∈ between ++ [.answered later],
      event.holdsRoute record.request.routeToken ∧ event.retains key) :
    later.before.record key = some record ∧ later.Certain := by
  induction between generalizing b with
  | nil =>
    have hretains := (hheld _ mem_cons_self).2
    exact ⟨record_of_retained h.1 hrecord hretains, h.2.1⟩
  | cons event between ih =>
    have htail : ∀ event ∈ between ++ [.answered later],
        event.holdsRoute record.request.routeToken ∧ event.retains key :=
      fun event hevent => hheld event (mem_cons_of_mem _ hevent)
    obtain ⟨hroute, hretains⟩ := hheld event mem_cons_self
    cases event with
    | arrived command => exact ih h hrecord htail
    | answered answer =>
      have hbefore := record_of_retained h.1 hrecord hretains
      exact ih h.2.2 (h.2.1.keeps key record hbefore hroute) htail
    | synchronized projected before =>
      have hbefore := record_of_retained h.1 hrecord hretains
      have hspec := synchronizeNativeRoutes_records projected before
      have hafter : (final (synchronizeNativeRoutes projected) before).record key = some record := by
        unfold final
        cases hresult : synchronizeNativeRoutes projected before with
        | ok _ backend => exact (holds_of_ok hresult).mp hspec key record hbefore hroute
        | error _ backend =>
          have hfailed : backend = before := (holds_of_error hresult).mp hspec
          dsimp only
          rw [hfailed]
          exact hbefore
      exact ih h.2 (.inl hafter) htail

/-- Over every run: a reply that a report may have been sent, or was, is journaled with the request;
and while such a record is not evicted and its route token is in every projection since, every later
reply to the same request identity repeats its outcome, whether the request is exchanged again,
rejected in the queue, cancelled by a disconnect or an invalidation or cut off by the shutdown. -/
theorem bridgeActor_keeps_certainty {start : BridgeActor} (h : ActorStart start) (actions : List ActorAction) :
    let last := actorRun start actions
    (∀ answer outcome, .answered answer ∈ last.log → answer.reply = .success outcome →
      ∃ record, answer.after.record answer.command.pending.request.key = some record ∧
        record.outcome = outcome) ∧
    ∀ earlier first between later rest key record,
      last.log = earlier ++ .answered first :: (between ++ .answered later :: rest) →
      first.after.record key = some record → record.outcome.result.sent →
      (∀ event ∈ between ++ [.answered later], event.holdsRoute record.request.routeToken ∧ event.retains key) →
      later.command.pending.request.key = key →
      ∀ outcome, later.reply = .success outcome → outcome = record.outcome ∧ outcome.result.sent := by
  intro last
  obtain ⟨more, hlog, htraced⟩ := actorRun_traced start actions
  rw [h.log, nil_append] at hlog
  refine ⟨?_, ?_⟩
  · intro answer outcome hanswer hreply
    obtain ⟨earlier, rest, hsplit⟩ := append_of_mem hanswer
    have hmore : more = earlier ++ .answered answer :: rest := hlog.symm.trans hsplit
    rw [hmore] at htraced
    obtain ⟨middle, _, hrest⟩ := htraced.split
    exact (hrest.2.1.outcome outcome hreply).journaled
  intro earlier first between later rest key record hsplit hrecord hsent hheld hkey outcome hreply
  have hmore : more = earlier ++ .answered first :: (between ++ .answered later :: rest) :=
    hlog.symm.trans hsplit
  rw [hmore] at htraced
  obtain ⟨middle, _, hrest⟩ := htraced.split
  obtain ⟨hbefore, hcertain⟩ := hrest.2.2.record (.inl hrecord) hheld
  have hroute := (hheld _ (mem_append_right _ mem_cons_self)).1
  have hsame := (hcertain.outcome outcome hreply).retained record (hkey ▸ hbefore) hroute
  exact ⟨hsame, hsame ▸ hsent⟩

/-- The sample request is exchanged and sent again by the same client. -/
def sampleRetries : BridgeActor :=
  actorRun sampleActor (sampleArrivals ++ List.replicate 2 (.dispatchNext 0 sampleNativePorts))

def NativeReply.succeeds : NativeReply → Bool
  | .success _ => true
  | _ => false

def ActorEvent.report : ActorEvent → Option AnsweredNative
  | .answered answer => some answer
  | _ => none

theorem ActorEvent.eq_answered {event : ActorEvent} (h : event.report.isSome = true) :
    ∃ answer, event = .answered answer := by
  cases event with
  | answered answer => exact ⟨answer, rfl⟩
  | arrived command | synchronized projected before => cases h

theorem two_answers (h : log.map (·.report.isSome) = [false, false, true, true]) :
    ∃ first second answer again,
      log = [first, second] ++ .answered answer :: ([] ++ .answered again :: []) := by
  obtain ⟨first, rest, rfl, _, h⟩ := map_eq_cons_iff.mp h
  obtain ⟨second, rest, rfl, _, h⟩ := map_eq_cons_iff.mp h
  obtain ⟨third, rest, rfl, hthird, h⟩ := map_eq_cons_iff.mp h
  obtain ⟨fourth, rest, rfl, hfourth, h⟩ := map_eq_cons_iff.mp h
  have hrest : rest = [] := map_eq_nil_iff.mp h
  obtain ⟨answer, rfl⟩ := third.eq_answered hthird
  obtain ⟨again, rfl⟩ := fourth.eq_answered hfourth
  exact ⟨first, second, answer, again, by rw [hrest]; rfl⟩

/-- The events of the run after the requests arrived. -/
def sampleAnswers : List ActorEvent := sampleRetries.log.drop 2

theorem bridgeActor_keeps_certainty_sample :
    ∃ first later record outcome, sampleAnswers = [.answered first, .answered later] ∧
      first.after.record sampleNativeRequest.key = some record ∧
      later.reply = .success outcome ∧ outcome = record.outcome ∧ outcome.result.sent := by
  obtain ⟨hshape, hjournaled, hheld, hreplied⟩ :
      sampleRetries.log.map (·.report.isSome) = [false, false, true, true] ∧
      (sampleAnswers.take 1).all (fun event => event.report.any fun answer =>
        (answer.after.record sampleNativeRequest.key).any fun record =>
          record.outcome.result.sent && record.request.routeToken == sampleToken) = true ∧
      (sampleAnswers.drop 1).all (fun event =>
        event.holdsRoute sampleToken && event.retains sampleNativeRequest.key) = true ∧
      (sampleAnswers.drop 1).all (fun event => event.report.any fun answer =>
        answer.command.pending.request.key == sampleNativeRequest.key && answer.reply.succeeds) = true := by
    decide +kernel
  obtain ⟨arrived, more, first, later, hlog⟩ := two_answers hshape
  have hanswers : sampleAnswers = [.answered first, .answered later] := by
    unfold sampleAnswers
    rw [hlog]
    rfl
  rw [hanswers] at hjournaled hheld hreplied
  have hfirst : (first.after.record sampleNativeRequest.key).any (fun record =>
      record.outcome.result.sent && record.request.routeToken == sampleToken) = true := by
    simpa [ActorEvent.report] using hjournaled
  obtain ⟨record, hrecord, hsent⟩ := (Option.any_eq_true _ _).mp hfirst
  obtain ⟨hsent, htoken⟩ := (Bool.and_eq_true _ _).mp hsent
  have hroute : ∀ event ∈ [] ++ [ActorEvent.answered later],
      event.holdsRoute record.request.routeToken ∧ event.retains sampleNativeRequest.key := by
    intro event hevent
    rw [nil_append] at hevent
    rw [mem_singleton.mp hevent, eq_of_beq htoken]
    simpa using hheld
  obtain ⟨hkey, hsucceeds⟩ : later.command.pending.request.key = sampleNativeRequest.key ∧
      later.reply.succeeds = true := by
    simpa [ActorEvent.report] using hreplied
  obtain ⟨outcome, hreply⟩ : ∃ outcome, later.reply = .success outcome := by
    cases hreply : later.reply with
    | success outcome => exact ⟨outcome, rfl⟩
    | unknownConnection | failure failure =>
      rw [hreply] at hsucceeds
      cases hsucceeds
  have hstart : ActorStart sampleActor := ⟨⟨2, rfl⟩, rfl, rfl, rfl, rfl⟩
  obtain ⟨_, hlater⟩ := bridgeActor_keeps_certainty hstart
    (sampleArrivals ++ List.replicate 2 (.dispatchNext 0 sampleNativePorts))
  obtain ⟨hsame, hstill⟩ := hlater [arrived, more] first [] later [] sampleNativeRequest.key record hlog
    hrecord hsent hroute hkey outcome hreply
  exact ⟨first, later, record, outcome, hanswers, hrecord, hreply, hsame, hstill⟩

/-- The session a reply went to, the identity of its request and what it said. -/
def AnsweredNative.summary (answer : AnsweredNative) :
    Option (Except RpcFailure AuthorizedSession) × NativeRequestKey × NativeReply :=
  (answer.ports.dispatcher answer.command.pending.connectionId, answer.command.pending.request.key,
    answer.reply)

def NativeReply.sent : NativeReply → Bool
  | .success outcome => outcome.result.sent
  | _ => false

def NativeReply.notSent : NativeReply → Bool
  | .success outcome => ! outcome.result.sent
  | _ => false

/-- No reply says that a request was not sent after one to the same request of the session said that
it was or may have been. -/
def NeverDowngraded (actor : BridgeActor) : Prop :=
  ((actor.log.filterMap (·.report)).map (·.summary)).Pairwise fun first later =>
    first.1 = later.1 → first.2.1 = later.2.1 → first.2.2.sent → ¬ later.2.2.notSent

def withdrawnRoute : List ActorAction :=
  [.openConnection, .request 1 sampleNativeRequest 0 sampleNativePorts, .dispatchNext 0 sampleNativePorts,
    .reconcile (.ok []), .request 1 sampleNativeRequest 0 { sampleNativePorts with tickRoutes := .ok [] },
    .dispatchNext 0 { sampleNativePorts with tickRoutes := .ok [] }]

/-- Another request pushes the record out before the request is sent again and comes too late. -/
def evictedRecord : List ActorAction :=
  [.openConnection, .request 1 sampleNativeRequest 0 sampleNativePorts, .dispatchNext 0 sampleNativePorts,
    .request 1 { sampleNativeRequest with requestId := .lit "another" } 0
      sampleNativePorts,
    .dispatchNext 0 sampleNativePorts, .request 1 sampleNativeRequest 0 sampleNativePorts,
    .dispatchNext (100 * nanosPerMilli) sampleNativePorts]

def oneRecord : BridgeActor :=
  { sampleActor with backend := { sampleActor.backend with exchanges := ⟨1, [], ∅⟩ } }

theorem certainty_downgraded :
    ActorStart sampleActor ∧ ¬ NeverDowngraded (actorRun sampleActor withdrawnRoute) ∧
      ActorStart oneRecord ∧ ¬ NeverDowngraded (actorRun oneRecord evictedRecord) := by
  refine ⟨⟨⟨2, rfl⟩, rfl, rfl, rfl, rfl⟩, ?_, ⟨⟨2, rfl⟩, rfl, rfl, rfl, rfl⟩, ?_⟩
  · unfold NeverDowngraded
    decide +kernel
  unfold NeverDowngraded
  decide +kernel

end HyperfluxNext
