import HyperfluxNext.Bridge.ActorLoop

namespace HyperfluxNext

open Procedure

def NativeBackend.retainedRequest (backend : NativeBackend) (key : NativeRequestKey) :
    Option NativeExchangeRequest :=
  (backend.exchanges.records[key]?).map (·.request)

/-- No request was retained anew or forgotten, and no exchange took place. -/
structure SameRequests (b b' : NativeBackend) : Prop where
  requests : ∀ key, b'.retainedRequest key = b.retainedRequest key
  calls : b'.calls = b.calls

theorem SameRequests.refl (b : NativeBackend) : SameRequests b b := ⟨fun _ => rfl, rfl⟩

theorem SameRequests.trans {b₁ b₂ b₃ : NativeBackend} (h : SameRequests b₁ b₂)
    (h' : SameRequests b₂ b₃) : SameRequests b₁ b₃ :=
  ⟨fun key => (h'.requests key).trans (h.requests key), h'.calls.trans h.calls⟩

theorem withdrawRoute_same (current : List NativeRoute) (b : NativeBackend) (route : NativeRoute) :
    SameRequests b (withdrawRoute current b route) := by
  unfold withdrawRoute
  split
  · exact .refl b
  next routeToken _ =>
    split
    · exact .refl b
    refine ⟨fun key => ?_, rfl⟩
    simp only [NativeBackend.retainedRequest, NativeExchangeJournal.invalidateRoute,
      Std.TreeMap.getElem?_map, Option.map_map]
    congr 1
    funext record
    simp only [Function.comp_apply]
    split
    · rfl
    · rfl

theorem withdrawRoutes_same (current : List NativeRoute) (b : NativeBackend)
    (routes : List NativeRoute) : SameRequests b (routes.foldl (withdrawRoute current) b) := by
  induction routes generalizing b with
  | nil => exact .refl b
  | cons route routes ih => exact (withdrawRoute_same current b route).trans (ih _)

theorem synchronizeNativeRoutes_spec (projected : Except RpcFailure (List NativeRoute)) (b : NativeBackend) :
    Holds (synchronizeNativeRoutes projected) b
      (fun _ b' => projected.isOk ∧ SameRequests b b')
      (fun _ b' => ¬ projected.isOk ∧ b' = b) := by
  simp only [synchronizeNativeRoutes, holds_do]
  cases projected with
  | error failure => simp [Except.isOk, Except.toBool]
  | ok current =>
    simp only [Except.ok.injEq, forall_eq', reduceCtorEq, false_implies, implies_true, and_true]
    refine ⟨rfl, ?_⟩
    have hstart : SameRequests b { b with
        routes := current, invalidations := current.foldl retireRoute b.invalidations } :=
      ⟨fun _ => rfl, rfl⟩
    exact hstart.trans (withdrawRoutes_same current _ b.routes)

/-- The lease expiry and the route projection of a tick both work out. -/
def NativePorts.Ticks (ports : NativePorts) : Prop := ports.expireLeases.isOk ∧ ports.tickRoutes.isOk

theorem tick_spec (ports : NativePorts) (b : NativeBackend) :
    Holds (tick ports) b (fun _ b' => ports.Ticks ∧ SameRequests b b')
      (fun _ b' => ¬ ports.Ticks ∧ b' = b) := by
  simp only [tick, holds_do, NativePorts.Ticks]
  refine ⟨fun _ hleases => ?_, fun failure hleases => ⟨fun hticks => ?_, trivial⟩⟩
  · refine holds_mono (synchronizeNativeRoutes_spec ports.tickRoutes b) ?_ ?_
    · rintro _ b' ⟨hroutes, hsame⟩
      exact ⟨⟨by rw [hleases]; rfl, hroutes⟩, hsame⟩
    rintro _ b' ⟨hroutes, hsame⟩
    exact ⟨fun hticks => hroutes hticks.2, hsame⟩
  rw [hleases] at hticks
  cases hticks.1

def NativePorts.Authorizes (ports : NativePorts) (session : AuthorizedSession) (clientId : ClientId) : Prop :=
  ports.authorizes session.sessionId session.authorizationEpoch ∧ session.clientId = clientId

variable {ports : NativePorts} {session : AuthorizedSession} {b : NativeBackend}
  {request original : NativeExchangeRequest}

theorem authorizeClient_eq_ok_iff {clientId : ClientId} :
    authorizeClient ports session clientId = .ok () ↔ ports.Authorizes session clientId := by
  unfold authorizeClient NativePorts.Authorizes reject
  by_cases hlive : ports.authorizes session.sessionId session.authorizationEpoch
  · by_cases hclient : session.clientId = clientId
    · simp [hlive, hclient, bind, Except.bind]
    · simp [hlive, hclient, bind, Except.bind]
  · simp [hlive, bind, Except.bind]

theorem holds_authorized {α : Type} {clientId : ClientId} {m : NativeM α} {Q : α → NativeBackend → Prop}
    {E : RpcFailure → NativeBackend → Prop} (hok : ports.Authorizes session clientId → Holds m b Q E)
    (herror : ∀ failure, ¬ ports.Authorizes session clientId → E failure b) :
    Holds (do lift id (authorizeClient ports session clientId); m) b Q E := by
  simp only [holds_do]
  refine ⟨fun _ hauthorized => hok (authorizeClient_eq_ok_iff.mp hauthorized), ?_⟩
  intro failure hrefused
  refine herror failure fun hauthorized => ?_
  rw [authorizeClient_eq_ok_iff.mpr hauthorized] at hrefused
  cases hrefused

theorem retained_eq {journal : NativeExchangeJournal} {record : NativeExchangeRecord}
    (h : journal.records[request.key]? = some record) :
    journal.retained request =
      if record.request ≠ request then .error .requestIdentityReused
      else .ok (some record.outcome) := by
  simp only [NativeExchangeJournal.retained, h]

/-- An outcome the journal holds under a key, given out without an exchange. -/
structure GivesRetained (key : NativeRequestKey) (b : NativeBackend)
    (outcome : NativeExchangeOutcome) (b' : NativeBackend) : Prop where
  retained : ∃ record, b'.exchanges.records[key]? = some record ∧ outcome = record.outcome
  calls : b'.calls = b.calls

theorem completeNativeExchange_spec {result : NativeExchangeResult}
    (h : b.retainedRequest request.key = some original) :
    Holds (completeNativeExchange request result) b
      (fun outcome b' => original = request ∧ GivesRetained request.key b outcome b')
      (fun _ b' => original ≠ request ∧ b'.calls = b.calls) := by
  obtain ⟨record, hrecord, rfl⟩ := Option.map_eq_some_iff.mp h
  simp only [completeNativeExchange, holds_do, retained_eq hrecord]
  by_cases hsame : record.request = request
  · simp only [hsame, ne_eq, not_true_eq_false, if_false, Except.ok.injEq, forall_eq', reduceCtorEq,
      false_implies, implies_true, and_true]
    exact ⟨trivial, ⟨record, hrecord, rfl⟩, rfl⟩
  · simp [hsame]

theorem nativeTransact_replay (h : b.retainedRequest request.key = some original) :
    Holds (nativeTransact ports session request) b
      (fun outcome b' => (ports.Authorizes session request.clientId ∧ ports.Ticks ∧
        original = request) ∧ GivesRetained request.key b outcome b')
      (fun _ _ => ¬ (ports.Authorizes session request.clientId ∧ ports.Ticks ∧ original = request)) := by
  unfold nativeTransact
  refine holds_authorized (fun hauthorized => ?_) (fun _ hnot hall => hnot hall.1)
  simp only [holds_do]
  refine holds_mono (tick_spec ports b) ?_ (fun _ _ hnot hall => hnot.1 hall.2.1)
  rintro _ b₁ ⟨hticks, hsame⟩
  have h₁ : b₁.retainedRequest request.key = some original := (hsame.requests _).trans h
  have hgives : ∀ outcome b', original = request ∧ GivesRetained request.key b₁ outcome b' →
      (ports.Authorizes session request.clientId ∧ ports.Ticks ∧ original = request) ∧
        GivesRetained request.key b outcome b' := by
    rintro outcome b' ⟨hrequest, hretained⟩
    exact ⟨⟨hauthorized, hticks, hrequest⟩, hretained.retained, hretained.calls.trans hsame.calls⟩
  split
  next rejection _ =>
    exact holds_mono (completeNativeExchange_spec h₁) hgives (fun _ _ hnot hall => hnot.1 hall.2.2)
  obtain ⟨record, hrecord, rfl⟩ := Option.map_eq_some_iff.mp h₁
  simp only [holds_do, retained_eq hrecord]
  by_cases hrequest : record.request = request
  · simp only [hrequest, ne_eq, not_true_eq_false, if_false, Except.ok.injEq, forall_eq',
      reduceCtorEq, false_implies, implies_true, and_true]
    exact ⟨⟨hauthorized, hticks⟩, ⟨record, hrecord, rfl⟩, hsame.calls⟩
  · simp [hrequest]

theorem rejectNativeExchange_replay {rejection : NativeExchangeRejection}
    (h : b.retainedRequest request.key = some original) :
    Holds (rejectNativeExchange ports session request rejection) b
      (fun outcome b' => (ports.Authorizes session request.clientId ∧ ports.Ticks ∧
        original = request) ∧ GivesRetained request.key b outcome b')
      (fun _ _ => ¬ (ports.Authorizes session request.clientId ∧ ports.Ticks ∧ original = request)) := by
  unfold rejectNativeExchange
  refine holds_authorized (fun hauthorized => ?_) (fun _ hnot hall => hnot hall.1)
  simp only [holds_bind]
  refine holds_mono (tick_spec ports b) ?_ (fun _ _ hnot hall => hnot.1 hall.2.1)
  rintro _ b₁ ⟨hticks, hsame⟩
  have h₁ : b₁.retainedRequest request.key = some original := (hsame.requests _).trans h
  refine holds_mono (completeNativeExchange_spec h₁) ?_ (fun _ _ hnot hall => hnot.1 hall.2.2)
  rintro outcome b' ⟨hrequest, hretained⟩
  exact ⟨⟨hauthorized, hticks, hrequest⟩, hretained.retained, hretained.calls.trans hsame.calls⟩

def NativePorts.Serves (ports : NativePorts) (pending : PendingNativeCommand) : Prop :=
  ∃ session, ports.dispatcher pending.connectionId = some (.ok session) ∧
    ports.Authorizes session pending.request.clientId

/-- The reply is the outcome the journal holds for the request, and nothing was exchanged. -/
def ReturnsRetained (key : NativeRequestKey) (b : NativeBackend) (answer : NativeReply × NativeBackend) : Prop :=
  ∃ outcome, answer.1 = .success outcome ∧ GivesRetained key b outcome answer.2

theorem dispatchPending_returns_iff {pending : PendingNativeCommand}
    {call : AuthorizedSession → NativeM NativeExchangeOutcome} {key : NativeRequestKey} {P : Prop}
    (hcall : ∀ session, Holds (call session) b
      (fun outcome b' => (ports.Authorizes session pending.request.clientId ∧ P) ∧
        GivesRetained key b outcome b')
      (fun _ _ => ¬ (ports.Authorizes session pending.request.clientId ∧ P))) :
    ReturnsRetained key b (dispatchPending ports pending call b) ↔ ports.Serves pending ∧ P := by
  unfold dispatchPending ReturnsRetained NativePorts.Serves
  split
  next hnone => simp [hnone]
  next failure hrefused => simp [hrefused]
  next session hsession =>
    have hspec := hcall session
    split
    next outcome b' hok =>
      have h := (holds_of_ok hok).mp hspec
      exact ⟨fun _ => ⟨⟨session, hsession, h.1.1⟩, h.1.2⟩, fun _ => ⟨outcome, rfl, h.2⟩⟩
    next failure b' herror =>
      have h := (holds_of_error herror).mp hspec
      refine ⟨?_, ?_⟩
      · rintro ⟨outcome, hreply, _⟩
        cases hreply
      rintro ⟨⟨found, hfound, hauthorized⟩, hp⟩
      rw [hsession] at hfound
      cases hfound
      exact absurd ⟨hauthorized, hp⟩ h

/-- The whole milliseconds, at most a second, that are left of a deadline. -/
def wholeMillis (deadline now : Nat) : Nat := min ((deadline - now) / nanosPerMilli) 1000

theorem remainingTimeout_of_le {deadline now : Nat} (h : nanosPerMilli ≤ deadline - now) :
    ∃ timeoutMs, remainingTimeout deadline now = some timeoutMs ∧ timeoutMs.get = wholeMillis deadline now := by
  unfold remainingTimeout
  rw [dif_neg (by omega)]
  exact ⟨_, rfl, rfl⟩

/-- One request the actor took out of its queue. -/
structure DispatchedNative where
  pending : PendingNativeCommand
  instant : Nat
  called : Bool

def DispatchedNative.copy (dispatched : DispatchedNative) : NativeExchangeRequest :=
  match remainingTimeout dispatched.pending.deadline dispatched.instant with
  | none => dispatched.pending.request
  | some timeoutMs => { dispatched.pending.request with timeoutMs := timeoutMs }

/-- The request that an action takes out of the queue, at most one. -/
def ActorAction.dispatched (actor : BridgeActor) : ActorAction → List DispatchedNative
  | .dispatchNext now ports =>
    (actor.nativePending.popNext).toList.map fun (command, _) =>
      ⟨command.pending, now, (actor.dispatchNextNative now ports).backend.calls ≠ actor.backend.calls⟩
  | _ => []

structure NativeRun where
  actor : BridgeActor
  history : List DispatchedNative

def NativeRun.step (run : NativeRun) (action : ActorAction) : NativeRun :=
  ⟨action.run run.actor, run.history ++ if run.actor.stopped then [] else action.dispatched run.actor⟩

inductive NativeReach (start : NativeRun) : NativeRun → Prop
  | start : NativeReach start start
  | step {run : NativeRun} (action : ActorAction) : NativeReach start run → NativeReach start (run.step action)

theorem completeNativeExchange_calls (request : NativeExchangeRequest)
    (result : NativeExchangeResult) (b : NativeBackend) :
    Ensures (completeNativeExchange request result) b (fun b' => b'.calls = b.calls) := by
  simp only [completeNativeExchange, holds_do]
  refine ⟨fun found _ => ?_, fun _ _ => trivial⟩
  cases found with
  | some outcome => exact rfl
  | none =>
    simp only [holds_do]
    exact ⟨fun _ _ => trivial, fun _ _ => trivial⟩

theorem rejectPendingNative_calls (ports : NativePorts) (pending : PendingNativeCommand)
    (rejection : NativeExchangeRejection) (b : NativeBackend) :
    (rejectPendingNative ports pending rejection b).2.calls = b.calls := by
  have hcall : ∀ session, Ensures (rejectNativeExchange ports session pending.request rejection) b
      (fun b' => b'.calls = b.calls) := by
    intro session
    unfold rejectNativeExchange
    refine holds_authorized (fun _ => ?_) (fun _ _ => rfl)
    simp only [holds_bind]
    refine holds_mono (tick_spec ports b) ?_ ?_
    · rintro _ b₁ ⟨_, hsame⟩
      have hcomplete := completeNativeExchange_calls pending.request
        (.notSent rejection.errorKind (nativeFinding rejection.errorKind false)) b₁
      rw [hsame.calls] at hcomplete
      exact hcomplete
    rintro _ b₁ ⟨_, rfl⟩
    rfl
  unfold rejectPendingNative dispatchPending
  split
  · rfl
  · rfl
  next session _ =>
    split
    next outcome b' hok => exact (holds_of_ok hok).mp (hcall session)
    next failure b' herror => exact (holds_of_error herror).mp (hcall session)

/-- An exchange is made only with a whole millisecond left of the deadline. -/
theorem NativeReach.called_in_time {start run : NativeRun} (hreach : NativeReach start run)
    (hempty : start.history = []) :
    ∀ first ∈ run.history, first.called → nanosPerMilli ≤ first.pending.deadline - first.instant := by
  induction hreach with
  | start =>
    intro first hfirst
    rw [hempty] at hfirst
    cases hfirst
  | @step run action _ ih =>
    intro first hfirst hcalled
    obtain hbefore | hnow := List.mem_append.mp hfirst
    · exact ih first hbefore hcalled
    cases action with
    | openConnection | request | disconnect | reconcile | cancelInvalidated | cleanupAll =>
      simp [ActorAction.dispatched] at hnow
    | dispatchNext now ports =>
      unfold ActorAction.dispatched at hnow
      cases hpop : run.actor.nativePending.popNext with
      | none => simp [hpop] at hnow
      | some popped =>
        obtain ⟨command, queue⟩ := popped
        have hdispatched : first = ⟨command.pending, now,
            (run.actor.dispatchNextNative now ports).backend.calls ≠ run.actor.backend.calls⟩ := by
          simp only [hpop] at hnow
          split at hnow
          · cases hnow
          · exact List.mem_singleton.mp hnow
        rw [hdispatched] at hcalled ⊢
        by_contra hlate
        have hnone : remainingTimeout command.pending.deadline now = none := by
          unfold remainingTimeout
          rw [dif_pos (by dsimp only at hlate; omega)]
        have hsame : (run.actor.dispatchNextNative now ports).backend.calls = run.actor.backend.calls := by
          unfold BridgeActor.dispatchNextNative
          simp only [hpop, hnone]
          exact rejectPendingNative_calls _ _ _ _
        exact of_decide_eq_true hcalled hsame

/-- The outcome of an exchange is still in the journal. -/
def DispatchedNative.Retained (first : DispatchedNative) (run : NativeRun) : Prop :=
  run.actor.backend.retainedRequest first.pending.request.key = some first.copy

/-- Over every run: when the outcome of an exchange is still retained and the client sends the same
request again, the copy that reaches the backend in time is answered with the retained outcome and
without a second exchange exactly when the session is live, the tick works out and as many whole
milliseconds are left of its deadline as were left of the first copy's. A copy that is rejected in
the queue is compared with its full timeout. -/
theorem nativeReach_retry_iff {start run : NativeRun} (hreach : NativeReach start run)
    (hempty : start.history = []) {first : DispatchedNative} (hfirst : first ∈ run.history)
    (hcalled : first.called) (hretained : first.Retained run) {again : NativeCommand}
    (hsame : again.pending.request = first.pending.request) (ports : NativePorts) :
    (∀ now queue, run.actor.nativePending.popNext = some (again, queue) →
      nanosPerMilli ≤ again.pending.deadline - now →
      ∃ answer, (run.actor.dispatchNextNative now ports).log = run.actor.log ++ [.answered answer] ∧
        answer.command = again ∧ answer.after = (run.actor.dispatchNextNative now ports).backend ∧
        (ReturnsRetained again.pending.request.key run.actor.backend (answer.reply, answer.after) ↔
          (run.actor.dispatcherPorts ports).Serves again.pending ∧ ports.Ticks ∧
            wholeMillis again.pending.deadline now = wholeMillis first.pending.deadline first.instant)) ∧
    ∀ rejection,
      (ReturnsRetained again.pending.request.key run.actor.backend
          (rejectPendingNative (run.actor.dispatcherPorts ports) again.pending rejection run.actor.backend) ↔
        (run.actor.dispatcherPorts ports).Serves again.pending ∧ ports.Ticks ∧
          again.pending.request.timeoutMs.get = wholeMillis first.pending.deadline first.instant) := by
  obtain ⟨timeoutMs, htimeout, hwhole⟩ :=
    remainingTimeout_of_le (hreach.called_in_time hempty first hfirst hcalled)
  have hcopy : first.copy = { again.pending.request with timeoutMs := timeoutMs } := by
    simp only [DispatchedNative.copy, htimeout, hsame]
  have hrequest : run.actor.backend.retainedRequest again.pending.request.key =
      some { again.pending.request with timeoutMs := timeoutMs } := by
    have hfound : run.actor.backend.retainedRequest first.pending.request.key = some first.copy := hretained
    rw [← hsame, hcopy] at hfound
    exact hfound
  have heq_iff : ∀ other : NativeExchangeTimeoutMs,
      ({ again.pending.request with timeoutMs := timeoutMs } : NativeExchangeRequest) =
        { again.pending.request with timeoutMs := other } ↔ other.get = timeoutMs.get := by
    intro other
    simp only [NativeExchangeRequest.mk.injEq, true_and]
    exact ⟨fun h => by rw [h], fun h => Bounded.ext_get h.symm⟩
  refine ⟨?_, ?_⟩
  · intro now queue hpop hleft
    obtain ⟨other, hother, hotherWhole⟩ := remainingTimeout_of_le hleft
    unfold BridgeActor.dispatchNextNative
    simp only [hpop, hother]
    refine ⟨_, rfl, rfl, rfl, ?_⟩
    rw [← hotherWhole, ← hwhole, ← heq_iff other]
    exact dispatchPending_returns_iff fun session => nativeTransact_replay hrequest
  intro rejection
  rw [← hwhole, ← heq_iff again.pending.request.timeoutMs]
  exact dispatchPending_returns_iff fun session => rejectNativeExchange_replay hrequest

def sampleToken : NativeRouteToken :=
  .lit "aaaaaaaaaaaaaaaaaaaaaaaaaaaaaaaaaaaaaaaaaaaaaaaaaaaaaaaaaaaaaaaa"

def sampleNativeRequest : NativeExchangeRequest where
  requestId := .lit "request"
  clientId := .lit "client"
  leaseId := .lit "lease"
  routeToken := sampleToken
  report := ⟨String.ofList (List.replicate 180 '0'), by decide +kernel, by decide +kernel⟩
  timeoutMs := .lit 100

def sampleRoute : NativeRoute where
  receiverId := .lit "receiver"
  generationId := .lit 1
  deviceId := .lit "mouse"
  endpointId := .lit "pointer"
  deviceKind := .mouse
  vendorId := .lit 5426
  productId := .lit 205
  routeState := .available
  access := .qualified
  protocolFamily := .lit "family"
  reportBytes := 90
  routeToken := some sampleToken
  resource := some ⟨.lit "receiver", .lit 1,
    .lit "mouse", .nativeControl⟩

/-- Every authority agrees and the transport answers that the report may have been sent. -/
def sampleNativePorts : NativePorts where
  dispatcher _ := some (.ok ⟨.lit "session", .lit 1,
    sampleNativeRequest.clientId⟩)
  authorizes _ _ := true
  expireLeases := .ok ()
  tickRoutes := .ok [sampleRoute]
  exchangeRoutes := .ok [sampleRoute]
  owns _ _ _ := true
  currentGeneration _ := some (.lit 1)
  nativeExchangeAvailable _ _ := true
  nativeProfile _ := .ok ()
  commandAllowed _ _ := true
  validatesRequest _ _ := true
  responseMatches _ _ _ := true
  routeTokenDigest _ := []
  dispatchNonce := .ok (.lit 1)
  nativeExchange dispatch := ⟨dispatch.dispatchNonce, dispatch.routeTokenDigest,
    .mayHaveBeenSent .transportFailure⟩

def sampleActor : BridgeActor where
  nativePending := ⟨2, 0, [], ∅⟩
  dispatchers := ∅
  connectionCapacity := 4
  nextConnectionId := 1
  nextChannel := 0
  backend := ⟨[sampleRoute], ⟨4, [], ∅⟩, ⟨4, [], ∅, ∅⟩, []⟩
  stopped := false
  log := []

def sampleNativeStart : NativeRun := ⟨sampleActor, []⟩

/-- The request is exchanged at once and sent again 10 ms later. -/
def sampleResent : NativeRun :=
  (((sampleNativeStart.step .openConnection).step (.request 1 sampleNativeRequest 0 sampleNativePorts)).step
    (.dispatchNext 0 sampleNativePorts)).step
    (.request 1 sampleNativeRequest (10 * nanosPerMilli) sampleNativePorts)

def ActorEvent.reply : ActorEvent → Option NativeReply
  | .answered answer => some answer.reply
  | _ => none

def sampleAgain : NativeCommand := ⟨⟨1, sampleToken, sampleNativeRequest, 110 * nanosPerMilli⟩, 1⟩

theorem sampleResent_reach : NativeReach sampleNativeStart sampleResent :=
  .step _ (.step _ (.step _ (.step _ .start)))

theorem sampleResent_waits : ∃ queue, sampleResent.actor.nativePending.popNext = some (sampleAgain, queue) := by
  have hnext : (sampleResent.actor.nativePending.popNext).map (·.1) = some sampleAgain := by
    decide +kernel
  obtain ⟨⟨pending, queue⟩, hpop, rfl⟩ := Option.map_eq_some_iff.mp hnext
  exact ⟨queue, hpop⟩

theorem sampleResent_retained : ∃ first ∈ sampleResent.history, first.called ∧
    first.Retained sampleResent ∧ sampleAgain.pending.request = first.pending.request ∧
    wholeMillis first.pending.deadline first.instant = 100 := by
  refine ⟨sampleResent.history.head (by decide +kernel), List.head_mem _, ?_⟩
  unfold DispatchedNative.Retained
  decide +kernel

theorem sampleNativePorts_serves (pending : PendingNativeCommand) (hconnection : pending.connectionId = 1)
    (hclient : pending.request.clientId = sampleNativeRequest.clientId) :
    (sampleResent.actor.dispatcherPorts sampleNativePorts).Serves pending := by
  have hopen : sampleResent.actor.dispatchers.contains 1 = true := by decide +kernel
  refine ⟨⟨.lit "session", .lit 1, sampleNativeRequest.clientId⟩, ?_, rfl, hclient.symm⟩
  rw [hconnection]
  exact (if_pos hopen : (if sampleResent.actor.dispatchers.contains 1 then _ else none) = _)

theorem nativeReach_retry_iff_sample :
    ∃ answer, (sampleResent.actor.dispatchNextNative (10 * nanosPerMilli) sampleNativePorts).log =
        sampleResent.actor.log ++ [.answered answer] ∧ answer.command = sampleAgain ∧
      ReturnsRetained sampleNativeRequest.key sampleResent.actor.backend (answer.reply, answer.after) := by
  obtain ⟨first, hfirst, hcalled, hretained, hsame, hwhole⟩ := sampleResent_retained
  obtain ⟨queue, hpop⟩ := sampleResent_waits
  obtain ⟨answer, hlog, hcommand, -, hreturns⟩ := (nativeReach_retry_iff sampleResent_reach rfl hfirst
    hcalled hretained hsame sampleNativePorts).1 (10 * nanosPerMilli) queue hpop (by decide)
  refine ⟨answer, hlog, hcommand, hreturns.mpr ⟨sampleNativePorts_serves _ rfl rfl, ⟨rfl, rfl⟩, ?_⟩⟩
  rw [hwhole]
  decide

/-- The second copy waits two milliseconds in the queue and is answered as a reused identity. -/
theorem native_retry_conflicts :
    ¬ ∀ run first (again : NativeCommand) queue now ports, NativeReach sampleNativeStart run →
      first ∈ run.history → first.called → first.Retained run →
      again.pending.request = first.pending.request →
      run.actor.nativePending.popNext = some (again, queue) → nanosPerMilli ≤ again.pending.deadline - now →
      (run.actor.dispatcherPorts ports).Serves again.pending → ports.Ticks →
      ∃ answer, (run.actor.dispatchNextNative now ports).log = run.actor.log ++ [.answered answer] ∧
        ReturnsRetained again.pending.request.key run.actor.backend (answer.reply, answer.after) := by
  intro h
  obtain ⟨first, hfirst, hcalled, hretained, hsame, _⟩ := sampleResent_retained
  obtain ⟨queue, hpop⟩ := sampleResent_waits
  obtain ⟨answer, hlog, outcome, hreply, _⟩ := h sampleResent first sampleAgain queue
    (12 * nanosPerMilli) sampleNativePorts sampleResent_reach hfirst hcalled hretained hsame hpop
    (by decide) (sampleNativePorts_serves _ rfl rfl) ⟨rfl, rfl⟩
  have hconflict : (sampleResent.actor.dispatchNextNative (12 * nanosPerMilli) sampleNativePorts).log.getLast?.bind
      ActorEvent.reply = some (.failure requestFailure) := by
    decide +kernel
  rw [hlog, List.getLast?_concat] at hconflict
  have hfailed : answer.reply = .failure requestFailure := Option.some.inj hconflict
  rw [hfailed] at hreply
  cases hreply

end HyperfluxNext
