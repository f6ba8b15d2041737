import HyperfluxNext.UhidRelay.PublicationGate

namespace HyperfluxNext

namespace UhidRelay

def maxKernelBindingRecoveries : Nat := 3

def uhidStartTimeout : Nat := 10 * 1000000000

inductive RelayRuntimeError where
  | catalog | bridge | supervisor | uhidOpen | uhidRead | uhidWrite | uhidCodec | endpoint | replyQueue
  | invalidBatchLimit | instanceExhausted | status

def endpointFailure : RelayRuntimeError → PublicationIdentityFailure
  | .uhidOpen => .uhidOpen
  | .uhidRead => .uhidRead
  | .uhidWrite => .uhidWrite
  | .uhidCodec | .endpoint | .replyQueue => .uhidProtocol
  | _ => .kernelBinding

inductive RunningEndpointStep where
  | running | retainedRouteDeparture

/-- What a route uses of its running endpoint. -/
structure RunningEndpoint (B E : Type) where
  step : E → Except RelayRuntimeError RunningEndpointStep × E
  state : E → FeatureEndpointState
  createdAt : E → Nat
  destroyIntoBridge : E → B

structure DirectRouteSnapshot (F : Type) where
  profiles : List String
  directMatches : List (String × F)

inductive DirectRouteTransition where
  | keep | expose | suppress

structure ManagedRoute (B E F : Type) where
  profileId : String
  serialFingerprint : Option F
  publication : PendingPublication B F
  endpoint : Option E
  kernelBindingRecoveries : Nat

variable {B E F : Type}

def RunningEndpoint.startTimedOut (running : RunningEndpoint B E) (endpoint : E) (now : Nat) : Bool :=
  running.state endpoint = .created ∧ now - running.createdAt endpoint ≥ uhidStartTimeout

/-- The failure that a step of the endpoint leaves to its route. -/
def RunningEndpoint.failure (running : RunningEndpoint B E) (now : Nat) :
    Except RelayRuntimeError RunningEndpointStep × E → Option PublicationIdentityFailure
  | (.ok .retainedRouteDeparture, _) => none
  | (.ok .running, endpoint) =>
    if running.startTimedOut endpoint now then some .uhidStartTimeout
    else if running.state endpoint = .stopped then some .kernelBinding
    else none
  | (.error error, _) => some (endpointFailure error)

namespace DirectRouteSnapshot

variable [DecidableEq F]

def suppresses (direct : DirectRouteSnapshot F) (profileId : String) (fingerprint : F) : Bool :=
  (profileId, fingerprint) ∈ direct.directMatches

def transition (direct : DirectRouteSnapshot F) (profileId : String) (fingerprint : Option F) (exposed : Bool) :
    DirectRouteTransition :=
  match exposed, fingerprint.any (direct.suppresses profileId) with
  | true, true => .suppress
  | false, false => .expose
  | true, false | false, true => .keep

end DirectRouteSnapshot

def takeInstance (nextInstance : Nat) : Except RelayRuntimeError (Nat × Nat) :=
  if nextInstance + 1 < 2 ^ 32 then .ok (nextInstance, nextInstance + 1) else .error .instanceExhausted

namespace ManagedRoute

def start (profileId : String) (bridge : B) (now : Nat) : ManagedRoute B E F :=
  ⟨profileId, none, .new bridge now, none, 0⟩

def recoverKernelBinding (route : ManagedRoute B E F) (bridge : B) (now : Nat) : ManagedRoute B E F :=
  { route with serialFingerprint := none, publication := .retrying bridge .kernelBinding now }

def recycleRetainedRoute (route : ManagedRoute B E F) (quiescenceMs : List Nat) (bridge : B) (now : Nat) :
    ManagedRoute B E F :=
  { route with serialFingerprint := none, publication := .retryingAfterDeparture quiescenceMs bridge now }

def step (route : ManagedRoute B E F) (quiescenceMs : List Nat) (running : RunningEndpoint B E) (now : Nat) :
    ManagedRoute B E F :=
  match route.endpoint with
  | none => route
  | some endpoint =>
    match running.step endpoint with
    | (.ok .retainedRouteDeparture, endpoint) =>
      { route with endpoint := none }.recycleRetainedRoute quiescenceMs (running.destroyIntoBridge endpoint) now
    | (outcome, endpoint) =>
      match running.failure now (outcome, endpoint) with
      | none => { route with endpoint := some endpoint }
      | some failure =>
        if failure = .kernelBinding ∧ route.kernelBindingRecoveries < maxKernelBindingRecoveries then
          { route with
            endpoint := none
            kernelBindingRecoveries := route.kernelBindingRecoveries + 1
            : ManagedRoute B E F }.recoverKernelBinding (running.destroyIntoBridge endpoint) now
        else
          { route with endpoint := none, publication := route.publication.block failure }

def freshEvidence (route : ManagedRoute B E F) (now : Nat) : ManagedRoute B E F :=
  if route.endpoint.isNone then { route with publication := route.publication.freshEvidence now } else route

def directScanFailed (route : ManagedRoute B E F) (now : Nat) : ManagedRoute B E F :=
  { route with publication := route.publication.directScanFailed now }

variable [DecidableEq F]

def probePublication (route : ManagedRoute B E F) (query : B → Except PublicationIdentityFailure F × B) (now : Nat) :
    ManagedRoute B E F :=
  if route.endpoint.isNone then { route with publication := route.publication.probe query now } else route

def completePublication (route : ManagedRoute B E F) (direct : DirectRouteSnapshot F)
    (create : B → Except RelayRuntimeError E) (now : Nat) : ManagedRoute B E F :=
  let publication := route.publication.complete (direct.suppresses route.profileId)
    (fun bridge => (create bridge).map (fun _ => ()) |>.mapError endpointFailure) now
  match route.publication.readyFingerprint, route.publication.bridge with
  | some fingerprint, some bridge =>
    { route with
      serialFingerprint := some fingerprint
      publication := publication
      endpoint := if direct.suppresses route.profileId fingerprint then route.endpoint
        else (create bridge).toOption.or route.endpoint }
  | _, _ => { route with publication := publication }

def refreshDirect (route : ManagedRoute B E F) (direct : DirectRouteSnapshot F)
    (connect : Nat → Except RelayRuntimeError B) (nextInstance now : Nat) :
    Except RelayRuntimeError Unit × ManagedRoute B E F × Nat :=
  match direct.transition route.profileId route.serialFingerprint route.endpoint.isSome with
  | .suppress =>
    (.ok (), { route with
      endpoint := none
      publication := { route.publication with directSuppressed := true } }, nextInstance)
  | .expose =>
    if route.publication.directSuppressed then
      match takeInstance nextInstance with
      | .error error => (.error error, route, nextInstance)
      | .ok (inst, nextInstance) =>
        match connect inst with
        | .error error => (.error error, route, nextInstance)
        | .ok bridge =>
          (.ok (), { route with publication := .new bridge now, serialFingerprint := none }, nextInstance)
    else (.ok (), route, nextInstance)
  | .keep => (.ok (), route, nextInstance)

end ManagedRoute

/-- A call on a route, with what its endpoint, its bridge and the scan answer. -/
inductive RouteCall (B E F : Type) where
  | step (running : RunningEndpoint B E)
  | probePublication (query : B → Except PublicationIdentityFailure F × B)
  | completePublication (direct : DirectRouteSnapshot F) (create : B → Except RelayRuntimeError E)
  | refreshDirect (direct : DirectRouteSnapshot F) (connect : Nat → Except RelayRuntimeError B) (nextInstance : Nat)
  | freshEvidence
  | directScanFailed

namespace ManagedRoute

variable [DecidableEq F]

def call (quiescenceMs : List Nat) (route : ManagedRoute B E F) : Nat × RouteCall B E F → ManagedRoute B E F
  | (now, .step running) => route.step quiescenceMs running now
  | (now, .probePublication query) => route.probePublication query now
  | (now, .completePublication direct create) => route.completePublication direct create now
  | (now, .refreshDirect direct connect nextInstance) => (route.refreshDirect direct connect nextInstance now).2.1
  | (now, .freshEvidence) => route.freshEvidence now
  | (now, .directScanFailed) => route.directScanFailed now

/-- Whether a call finds that the kernel binding of the endpoint failed, and arms the publication again. -/
def recovers (quiescenceMs : List Nat) (route : ManagedRoute B E F) : Nat × RouteCall B E F → Bool
  | (now, .step running) =>
    route.endpoint.any (fun endpoint => running.failure now (running.step endpoint) = some .kernelBinding) ∧
      (route.step quiescenceMs running now).publication.bridge.isSome
  | _ => false

def recoveries (quiescenceMs : List Nat) (route : ManagedRoute B E F) : List (Nat × RouteCall B E F) → Nat
  | [] => 0
  | event :: events =>
    (if route.recovers quiescenceMs event then 1 else 0) + recoveries quiescenceMs (route.call quiescenceMs event) events

end ManagedRoute

inductive RouteMode where
  | running | pending | directSuppressed | failed

/-- The mode of a route, by everything it is spread over. -/
def ManagedRoute.In (route : ManagedRoute B E F) : RouteMode → Prop
  | .running => route.endpoint.isSome ∧ route.publication.bridge = none ∧ route.publication.readyFingerprint = none ∧
      route.publication.directSuppressed = false ∧ route.publication.terminalFailure = none ∧
      route.serialFingerprint.isSome
  | .pending => route.endpoint = none ∧ route.publication.bridge.isSome ∧
      route.publication.directSuppressed = false ∧ route.publication.terminalFailure = none ∧
      route.serialFingerprint = none
  | .directSuppressed => route.endpoint = none ∧ route.publication.bridge = none ∧
      route.publication.readyFingerprint = none ∧ route.publication.directSuppressed = true ∧
      route.publication.terminalFailure = none ∧ route.serialFingerprint.isSome
  | .failed => route.endpoint = none ∧ route.publication.bridge = none ∧ route.publication.readyFingerprint = none ∧
      route.publication.directSuppressed = false ∧ route.publication.terminalFailure.isSome

namespace ManagedRoute

variable {route : ManagedRoute B E F} {mode : RouteMode} {quiescenceMs : List Nat} {now : Nat}

section

variable (h : route.In mode)
include h

theorem In.unique {other : RouteMode} (hother : route.In other) : mode = other := by
  cases mode <;> cases other <;> first
    | rfl
    | exfalso; simp only [In] at h hother; simp_all

theorem In.running_of {endpoint : E} (hendpoint : route.endpoint = some endpoint) :
    route.In .running := by
  cases mode with
  | running => exact h
  | pending | directSuppressed | failed => cases h.1.symm.trans hendpoint

/-- A ready publication has its bridge. -/
theorem In.pending_of {fingerprint : F}
    (hready : route.publication.readyFingerprint = some fingerprint) : route.In .pending := by
  cases mode with
  | pending => exact h
  | running | directSuppressed | failed => cases h.2.2.1.symm.trans hready

theorem In.step (running : RunningEndpoint B E) (now : Nat) :
    ∃ mode, (route.step quiescenceMs running now).In mode := by
  unfold ManagedRoute.step
  cases hendpoint : route.endpoint with
  | none => exact ⟨mode, h⟩
  | some endpoint =>
    obtain ⟨_, hbridge, hready, hsuppressed, hterminal, hserial⟩ := h.running_of hendpoint
    dsimp only
    split
    · exact ⟨.pending, rfl, rfl, rfl, rfl, rfl⟩
    split
    · exact ⟨.running, rfl, hbridge, hready, hsuppressed, hterminal, hserial⟩
    split
    · exact ⟨.pending, rfl, rfl, rfl, rfl, rfl⟩
    · exact ⟨.failed, rfl, rfl, rfl, rfl, rfl⟩

/-- A publication that keeps its bridge and its flags leaves the route in its mode. -/
theorem In.withPublication {publication : PendingPublication B F}
    (hpending : route.In .pending → publication.bridge.isSome = route.publication.bridge.isSome ∧
      publication.directSuppressed = route.publication.directSuppressed ∧
      publication.terminalFailure = route.publication.terminalFailure)
    (hother : ¬ route.In .pending → publication = route.publication) :
    { route with publication := publication }.In mode := by
  by_cases hin : route.In .pending
  · cases h.unique hin
    obtain ⟨hbridge, hsuppressed, hterminal⟩ := hpending hin
    obtain ⟨hendpoint, hopen, hexposed, hlive, hserial⟩ := hin
    exact ⟨hendpoint, hbridge.trans hopen, hsuppressed.trans hexposed, hterminal.trans hlive, hserial⟩
  rw [hother hin]
  exact h

theorem In.no_bridge (hnot : ¬ route.In .pending) :
    route.publication.bridge = none ∧ route.publication.readyFingerprint = none := by
  cases mode with
  | running | directSuppressed | failed => exact ⟨h.2.1, h.2.2.1⟩
  | pending => exact absurd h hnot

theorem In.freshEvidence : (route.freshEvidence now).In mode := by
  unfold ManagedRoute.freshEvidence
  split
  · refine h.withPublication (fun _ => ?_) fun hnot => ?_
    · unfold PendingPublication.freshEvidence
      split
      · exact ⟨rfl, rfl, rfl⟩
      · exact ⟨rfl, rfl, rfl⟩
    · simp [PendingPublication.freshEvidence, (h.no_bridge hnot).1]
  · exact h

theorem In.directScanFailed : (route.directScanFailed now).In mode := by
  refine h.withPublication (fun _ => ?_) fun hnot => ?_
  · unfold PendingPublication.directScanFailed
    split
    · exact ⟨rfl, rfl, rfl⟩
    · exact ⟨rfl, rfl, rfl⟩
  · simp [PendingPublication.directScanFailed, (h.no_bridge hnot).2]

end

variable [DecidableEq F]

theorem In.probePublication (h : route.In mode) (query : B → Except PublicationIdentityFailure F × B) :
    (route.probePublication query now).In mode := by
  unfold ManagedRoute.probePublication
  split
  · refine h.withPublication (fun _ => ?_) fun hnot => ?_
    · unfold PendingPublication.probe
      split
      · exact ⟨rfl, rfl, rfl⟩
      next hbridge =>
        split
        · exact ⟨by rw [hbridge]; rfl, rfl, rfl⟩
        · exact ⟨rfl, rfl, rfl⟩
    · simp [PendingPublication.probe, (h.no_bridge hnot).1]
  · exact h

theorem In.completePublication (h : route.In mode) (direct : DirectRouteSnapshot F)
    (create : B → Except RelayRuntimeError E) : ∃ mode, (route.completePublication direct create now).In mode := by
  unfold ManagedRoute.completePublication PendingPublication.complete
  cases hready : route.publication.readyFingerprint with
  | none => exact ⟨mode, h⟩
  | some fingerprint =>
    obtain ⟨hendpoint, hbridge, hexposed, hlive, _⟩ := h.pending_of hready
    obtain ⟨bridge, hbridge⟩ := Option.isSome_iff_exists.mp hbridge
    simp only [hbridge]
    cases direct.suppresses route.profileId fingerprint with
    | true => exact ⟨.directSuppressed, hendpoint, rfl, rfl, rfl, hlive, rfl⟩
    | false =>
      cases create bridge with
      | ok endpoint => exact ⟨.running, rfl, rfl, rfl, hexposed, hlive, rfl⟩
      | error error => exact ⟨.failed, hendpoint, rfl, rfl, hexposed, rfl⟩

/-- What a refresh does in each mode. -/
theorem In.refreshDirect (h : route.In mode) (direct : DirectRouteSnapshot F)
    (connect : Nat → Except RelayRuntimeError B) (nextInstance : Nat) :
    ∃ mode, (route.refreshDirect direct connect nextInstance now).2.1.In mode := by
  unfold ManagedRoute.refreshDirect DirectRouteSnapshot.transition
  cases hendpoint : route.endpoint with
  | some endpoint =>
    obtain ⟨_, hbridge, hready, _, hterminal, hserial⟩ := h.running_of hendpoint
    cases route.serialFingerprint.any (direct.suppresses route.profileId) with
    | true => exact ⟨.directSuppressed, rfl, hbridge, hready, rfl, hterminal, hserial⟩
    | false => exact ⟨mode, h⟩
  | none =>
    cases route.serialFingerprint.any (direct.suppresses route.profileId) with
    | true => exact ⟨mode, h⟩
    | false =>
      simp only [Option.isSome_none]
      split
      next hsuppressed =>
        cases mode with
        | running | pending | failed =>
          exfalso
          simp only [In, hsuppressed] at h
          simp at h
        | directSuppressed =>
          split
          · exact ⟨_, h⟩
          split
          · exact ⟨_, h⟩
          · exact ⟨.pending, rfl, rfl, rfl, rfl, rfl⟩
      · exact ⟨mode, h⟩

theorem In.call (h : route.In mode) (quiescenceMs : List Nat) (event : Nat × RouteCall B E F) :
    ∃ mode, (route.call quiescenceMs event).In mode := by
  obtain ⟨now, event⟩ := event
  cases event with
  | step running => exact h.step running now
  | probePublication query => exact ⟨mode, h.probePublication query⟩
  | completePublication direct create => exact h.completePublication direct create
  | refreshDirect direct connect nextInstance => exact h.refreshDirect direct connect nextInstance
  | freshEvidence => exact ⟨mode, h.freshEvidence⟩
  | directScanFailed => exact ⟨mode, h.directScanFailed⟩

theorem In.calls (h : route.In mode) (quiescenceMs : List Nat) (events : List (Nat × RouteCall B E F)) :
    ∃ mode, (events.foldl (ManagedRoute.call quiescenceMs) route).In mode := by
  induction events generalizing route mode with
  | nil => exact ⟨mode, h⟩
  | cons event events ih =>
    obtain ⟨mode, hnext⟩ := h.call quiescenceMs event
    exact ih hnext

/-- Nothing moves a failed route. -/
theorem call_failed (h : route.In .failed) (event : Nat × RouteCall B E F) : route.call quiescenceMs event = route := by
  obtain ⟨now, event⟩ := event
  obtain ⟨hendpoint, hbridge, hready, hsuppressed, hterminal⟩ := h
  cases event with
  | step running => simp [call, step, hendpoint]
  | probePublication query => simp [call, probePublication, PendingPublication.probe, hbridge]
  | completePublication direct create => simp [call, completePublication, PendingPublication.complete, hready]
  | refreshDirect direct connect nextInstance =>
    simp only [call, refreshDirect, DirectRouteSnapshot.transition, hendpoint, Option.isSome_none]
    cases route.serialFingerprint.any (direct.suppresses route.profileId) with
    | true => rfl
    | false => simp [hsuppressed]
  | freshEvidence => simp [call, freshEvidence, PendingPublication.freshEvidence, hbridge]
  | directScanFailed => simp [call, directScanFailed, PendingPublication.directScanFailed, hready]

theorem calls_failed (h : route.In .failed) (events : List (Nat × RouteCall B E F)) :
    events.foldl (call quiescenceMs) route = route := by
  induction events with
  | nil => rfl
  | cons event events ih => rw [List.foldl_cons, call_failed h event, ih]

omit [DecidableEq F] in
/-- A step recovers from a failed kernel binding, and takes one of the few recoveries for it, or takes none. -/
theorem step_recoveries {endpoint : E} (hendpoint : route.endpoint = some endpoint)
    (hbridge : route.publication.bridge = none) (quiescenceMs : List Nat) (running : RunningEndpoint B E) (now : Nat) :
    (running.failure now (running.step endpoint) = some .kernelBinding ∧
      route.kernelBindingRecoveries < maxKernelBindingRecoveries ∧
      (route.step quiescenceMs running now).publication.bridge.isSome ∧
      (route.step quiescenceMs running now).kernelBindingRecoveries = route.kernelBindingRecoveries + 1) ∨
    ((running.failure now (running.step endpoint) ≠ some .kernelBinding ∨
        (route.step quiescenceMs running now).publication.bridge = none) ∧
      (route.step quiescenceMs running now).kernelBindingRecoveries = route.kernelBindingRecoveries) := by
  unfold step
  rw [hendpoint]
  dsimp only
  generalize running.step endpoint = result
  split
  · exact .inr ⟨.inl nofun, rfl⟩
  split
  · exact .inr ⟨.inr hbridge, rfl⟩
  next failure hfailure =>
    split
    next hfew => exact .inl ⟨hfailure.trans (congrArg some hfew.1), hfew.2, rfl, rfl⟩
    · exact .inr ⟨.inr rfl, rfl⟩

theorem refreshDirect_recoveries (route : ManagedRoute B E F) (direct : DirectRouteSnapshot F)
    (connect : Nat → Except RelayRuntimeError B) (nextInstance now : Nat) :
    (route.refreshDirect direct connect nextInstance now).2.1.kernelBindingRecoveries =
      route.kernelBindingRecoveries := by
  unfold refreshDirect
  split
  · rfl
  · split
    · split
      · rfl
      split
      · rfl
      · rfl
    · rfl
  · rfl

theorem recoveries_call (h : route.In mode) (quiescenceMs : List Nat) (event : Nat × RouteCall B E F)
    (hfew : route.kernelBindingRecoveries ≤ maxKernelBindingRecoveries) :
    (route.call quiescenceMs event).kernelBindingRecoveries =
        route.kernelBindingRecoveries + (if route.recovers quiescenceMs event then 1 else 0) ∧
      (route.call quiescenceMs event).kernelBindingRecoveries ≤ maxKernelBindingRecoveries := by
  obtain ⟨now, event⟩ := event
  cases event with
  | step running =>
    unfold recovers call
    cases hendpoint : route.endpoint with
    | none => simp [step, hendpoint, hfew]
    | some endpoint =>
      obtain ⟨hfailure, hroom, hbridge, hafter⟩ | ⟨hnot, hafter⟩ :=
        step_recoveries hendpoint (h.running_of hendpoint).2.1 quiescenceMs running now
      · simp only [Option.any_some, hfailure, hbridge, hafter]
        simp
        omega
      have hnone : ¬ (running.failure now (running.step endpoint) = some .kernelBinding ∧
          (route.step quiescenceMs running now).publication.bridge.isSome = true) := by
        obtain hnot | hnot := hnot
        · exact fun hboth => hnot hboth.1
        · simp [hnot]
      simp [hafter, hnone, hfew]
  | probePublication query =>
    have hkept : (route.probePublication query now).kernelBindingRecoveries = route.kernelBindingRecoveries := by
      unfold ManagedRoute.probePublication
      split
      · rfl
      · rfl
    exact ⟨hkept, Nat.le_trans (Nat.le_of_eq hkept) hfew⟩
  | completePublication direct create =>
    have hkept : (route.completePublication direct create now).kernelBindingRecoveries =
        route.kernelBindingRecoveries := by
      unfold ManagedRoute.completePublication
      split
      · rfl
      · rfl
    exact ⟨hkept, Nat.le_trans (Nat.le_of_eq hkept) hfew⟩
  | refreshDirect direct connect nextInstance =>
    have hkept := route.refreshDirect_recoveries direct connect nextInstance now
    exact ⟨hkept, Nat.le_trans (Nat.le_of_eq hkept) hfew⟩
  | freshEvidence =>
    have hkept : (route.freshEvidence now).kernelBindingRecoveries = route.kernelBindingRecoveries := by
      unfold ManagedRoute.freshEvidence
      split
      · rfl
      · rfl
    exact ⟨hkept, Nat.le_trans (Nat.le_of_eq hkept) hfew⟩
  | directScanFailed => exact ⟨rfl, hfew⟩

theorem recoveries_le (h : route.In mode) (quiescenceMs : List Nat) (events : List (Nat × RouteCall B E F))
    (hfew : route.kernelBindingRecoveries ≤ maxKernelBindingRecoveries) :
    route.kernelBindingRecoveries + route.recoveries quiescenceMs events ≤ maxKernelBindingRecoveries := by
  induction events generalizing route mode with
  | nil => exact hfew
  | cons event events ih =>
    obtain ⟨mode, hnext⟩ := h.call quiescenceMs event
    obtain ⟨hcount, hafter⟩ := recoveries_call h quiescenceMs event hfew
    have hrest := ih hnext hafter
    rw [hcount] at hrest
    unfold recoveries
    omega

/-- A refresh in direct-suppressed mode that finds no direct device publishes the route again, unless it has no
instance left or the bridge refuses the connection. -/
theorem In.exposes (h : route.In .directSuppressed) {direct : DirectRouteSnapshot F}
    (hdirect : route.serialFingerprint.any (direct.suppresses route.profileId) = false)
    (connect : Nat → Except RelayRuntimeError B) (nextInstance : Nat) :
    (∃ inst later bridge, takeInstance nextInstance = .ok (inst, later) ∧ connect inst = .ok bridge ∧
      route.refreshDirect direct connect nextInstance now =
        (.ok (), { route with publication := .new bridge now, serialFingerprint := none }, later)) ∨
    ∃ error later, route.refreshDirect direct connect nextInstance now = (.error error, route, later) ∧
      (takeInstance nextInstance = .error error ∨
        ∃ inst later, takeInstance nextInstance = .ok (inst, later) ∧ connect inst = .error error) := by
  obtain ⟨hendpoint, _, _, hsuppressed, _⟩ := h
  unfold ManagedRoute.refreshDirect DirectRouteSnapshot.transition
  rw [hdirect, hendpoint]
  simp only [Option.isSome_none, hsuppressed, if_true]
  cases htake : takeInstance nextInstance with
  | error error => exact .inr ⟨error, nextInstance, rfl, .inl rfl⟩
  | ok taken =>
    obtain ⟨inst, later⟩ := taken
    dsimp only
    cases hconnect : connect inst with
    | error error => exact .inr ⟨error, later, rfl, .inr ⟨inst, later, rfl, hconnect⟩⟩
    | ok bridge => exact .inl ⟨inst, later, bridge, rfl, hconnect, rfl⟩

theorem refreshDirect_suppresses {direct : DirectRouteSnapshot F}
    (hdirect : route.serialFingerprint.any (direct.suppresses route.profileId) = true)
    (connect : Nat → Except RelayRuntimeError B) (nextInstance : Nat) :
    (route.refreshDirect direct connect nextInstance now).2.1.endpoint = none := by
  unfold refreshDirect DirectRouteSnapshot.transition
  rw [hdirect]
  cases hendpoint : route.endpoint with
  | none => exact hendpoint
  | some endpoint => rfl

end ManagedRoute

variable [DecidableEq F]

/-- A route that is started is in one mode after every run of calls. -/
theorem managed_route_modes (quiescenceMs : List Nat) (profileId : String) (bridge : B) (started : Nat)
    (events : List (Nat × RouteCall B E F)) :
    let first : ManagedRoute B E F := .start profileId bridge started
    let route := events.foldl (ManagedRoute.call quiescenceMs) first
    (∃ mode, route.In mode ∧ ∀ other, route.In other → other = mode) ∧
    (route.In .failed → ∀ later : List (Nat × RouteCall B E F),
      later.foldl (ManagedRoute.call quiescenceMs) route = route) ∧
    (∀ direct connect nextInstance now, route.serialFingerprint.any (direct.suppresses route.profileId) = true →
      (route.refreshDirect direct connect nextInstance now).2.1.endpoint = none) ∧
    (∀ direct connect nextInstance now, route.In .directSuppressed →
      route.serialFingerprint.any (direct.suppresses route.profileId) = false →
      match route.refreshDirect direct connect nextInstance now with
      | (.ok _, after, _) => ∃ bridge, after =
          { route with publication := .new bridge now, serialFingerprint := none } ∧ after.In .pending
      | (.error error, after, _) => after = route ∧ (takeInstance nextInstance = .error error ∨
          ∃ inst later, takeInstance nextInstance = .ok (inst, later) ∧ connect inst = .error error)) ∧
    first.recoveries quiescenceMs events ≤ maxKernelBindingRecoveries := by
  intro first route
  have hfirst : first.In .pending := ⟨rfl, rfl, rfl, rfl, rfl⟩
  obtain ⟨mode, hmode⟩ := hfirst.calls quiescenceMs events
  refine ⟨⟨mode, hmode, fun _ hother => hother.unique hmode⟩, ManagedRoute.calls_failed,
    fun _ connect nextInstance _ hdirect => ManagedRoute.refreshDirect_suppresses hdirect connect nextInstance,
    fun direct connect nextInstance now hin hdirect => ?_, ?_⟩
  · obtain ⟨_, _, bridge, _, _, hafter⟩ | ⟨_, _, hafter, herror⟩ := hin.exposes hdirect connect nextInstance
    · rw [hafter]
      exact ⟨bridge, rfl, hin.1, rfl, rfl, rfl, rfl⟩
    rw [hafter]
    exact ⟨rfl, herror⟩
  have hcount := ManagedRoute.recoveries_le hfirst quiescenceMs events (Nat.zero_le _)
  rwa [show first.kernelBindingRecoveries = 0 from rfl, Nat.zero_add] at hcount

def suppressedCalls : List (Nat × RouteCall Unit Unit Unit) :=
  [(0, .probePublication fun bridge => (.ok (), bridge)),
    (routeIdentityStabilityInterval, .probePublication fun bridge => (.ok (), bridge)),
    (routeIdentityStabilityInterval, .completePublication ⟨["mouse"], [("mouse", ())]⟩ fun _ => .ok ())]

theorem refused_connection_suppressed : ¬ ∀ (quiescenceMs : List Nat) (profileId : String) (started now : Nat)
    (events : List (Nat × RouteCall Unit Unit Unit)) (direct : DirectRouteSnapshot Unit)
    (connect : Nat → Except RelayRuntimeError Unit) (nextInstance : Nat),
    let route := events.foldl (ManagedRoute.call quiescenceMs) (.start profileId () started)
    route.In .directSuppressed → route.serialFingerprint.any (direct.suppresses route.profileId) = false →
      (route.refreshDirect direct connect nextInstance now).2.1.In .pending := by
  intro hall
  have hpending := hall [] "mouse" 0 routeIdentityStabilityInterval suppressedCalls ⟨[], []⟩ (fun _ => .error .bridge) 0
    ⟨rfl, rfl, rfl, rfl, rfl, rfl⟩ rfl
  exact absurd hpending.2.1 (by decide)

end UhidRelay

end HyperfluxNext
