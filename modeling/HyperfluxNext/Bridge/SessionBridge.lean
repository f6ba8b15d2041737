import HyperfluxNext.Bridge.Negotiations

namespace HyperfluxNext

open Procedure OrderedMaps List

namespace Sessions

variable {contract : ProtocolContract} {source : SessionIdentitySource}

/-- The connections ever accepted, with the registry and the identity source they share. -/
structure Bridge where
  connections : List ConnectionDispatcher
  sessions : SessionRegistry
  calls : Nat

inductive SessionEvent where
  | connect (config : BridgeSessionConfig)
  | request (connection : Nat) (request : RpcRequest)
  | disconnect (connection : Nat)

namespace Bridge

def start (capacity : Nat) : Bridge := ⟨[], .new capacity, 0⟩

def after (bridge : Bridge) (connection : Nat) (state : Dispatching) : Bridge :=
  ⟨bridge.connections.set connection state.dispatcher, state.sessions, state.calls⟩

def serve (contract : ProtocolContract) (source : SessionIdentitySource) (bridge : Bridge)
    (connection : Nat) (request : RpcRequest) :
    Option (Except DispatchFailure ConnectionDispatcher.Served) × Bridge :=
  match bridge.connections[connection]? with
  | none => (none, bridge)
  | some dispatcher =>
    match ConnectionDispatcher.dispatch contract source request ⟨dispatcher, bridge.sessions, bridge.calls⟩ with
    | .ok served state => (some (.ok served), bridge.after connection state)
    | .error failure state => (some (.error failure), bridge.after connection state)

def disconnect (bridge : Bridge) (connection : Nat) : Bridge :=
  match bridge.connections[connection]? with
  | none => bridge
  | some dispatcher =>
    let (dispatcher, sessions) := dispatcher.disconnect bridge.sessions
    bridge.after connection ⟨dispatcher, sessions, bridge.calls⟩

def step (contract : ProtocolContract) (source : SessionIdentitySource) (bridge : Bridge) :
    SessionEvent → Bridge
  | .connect config => { bridge with connections := bridge.connections ++ [.new config] }
  | .request connection request => (bridge.serve contract source connection request).2
  | .disconnect connection => bridge.disconnect connection

def run (contract : ProtocolContract) (source : SessionIdentitySource) (bridge : Bridge)
    (events : List SessionEvent) : Bridge :=
  events.foldl (step contract source) bridge

def Holder (bridge : Bridge) (connection : Nat) (negotiated : NegotiatedSession) : Prop :=
  ∃ dispatcher, bridge.connections[connection]? = some dispatcher ∧
    dispatcher.session.negotiated = some negotiated

/-- Connections and registry agree on the active sessions. -/
structure Registered (bridge : Bridge) : Prop where
  bijective : bridge.sessions.Bijective
  settled : ∀ (connection : Nat) (dispatcher : ConnectionDispatcher),
    bridge.connections[connection]? = some dispatcher → Settled bridge.sessions dispatcher
  owned : ∀ (sessionId : SessionId) (authorization : AuthorizedSession),
    bridge.sessions.sessions[sessionId]? = some authorization →
    ∃ (connection : Nat) (dispatcher : ConnectionDispatcher),
      bridge.connections[connection]? = some dispatcher ∧ dispatcher.registered = some authorization
  unique : ∀ (connection other : Nat) (left right : ConnectionDispatcher)
    (authorization : AuthorizedSession), bridge.connections[connection]? = some left →
    bridge.connections[other]? = some right → left.registered = some authorization →
    right.registered = some authorization → connection = other

structure Drawings (source : SessionIdentitySource) (bridge : Bridge) : Prop where
  drawn : ∀ connection negotiated, bridge.Holder connection negotiated →
    ∃ call, call + 3 < bridge.calls ∧ DrawnAt source call negotiated
  distinct : ∀ connection other left right, bridge.Holder connection left → bridge.Holder other right →
    connection ≠ other → ∃ call otherCall, call ≠ otherCall ∧ call + 3 < bridge.calls ∧
      otherCall + 3 < bridge.calls ∧ DrawnAt source call left ∧ DrawnAt source otherCall right

theorem registered_start (capacity : Nat) : (start capacity).Registered := by
  have hnothing : ∀ sessionId : SessionId, (start capacity).sessions.sessions[sessionId]? = none := by
    intro sessionId
    exact Std.TreeMap.getElem?_emptyc
  have hnobody : ∀ clientId : ClientId, (start capacity).sessions.clients[clientId]? = none := by
    intro clientId
    exact Std.TreeMap.getElem?_emptyc
  refine ⟨⟨?_, ?_⟩, ?_, ?_, ?_⟩
  · intro sessionId authorization h
    rw [hnothing] at h
    cases h
  · intro clientId sessionId h
    rw [hnobody] at h
    cases h
  · intro connection dispatcher h
    cases h
  · intro sessionId authorization h
    rw [hnothing] at h
    cases h
  intro connection other left right authorization h
  cases h

theorem drawings_start (capacity : Nat) : (start capacity).Drawings source := by
  constructor
  · intro connection negotiated h
    obtain ⟨dispatcher, h, _⟩ := h
    cases h
  intro connection other left right h
  obtain ⟨dispatcher, h, _⟩ := h
  cases h

theorem getElem?_after {bridge : Bridge} {connection : Nat} {dispatcher : ConnectionDispatcher}
    (h : bridge.connections[connection]? = some dispatcher) (state : Dispatching) (other : Nat) :
    (bridge.after connection state).connections[other]? =
      if other = connection then some state.dispatcher else bridge.connections[other]? := by
  obtain ⟨hbound, _⟩ := List.getElem?_eq_some_iff.mp h
  show (bridge.connections.set connection state.dispatcher)[other]? = _
  by_cases hsame : other = connection
  · rw [if_pos hsame, hsame, List.getElem?_set_self hbound]
  · rw [if_neg hsame, List.getElem?_set_ne (Ne.symm hsame)]

variable {bridge : Bridge} {connection : Nat} {dispatcher : ConnectionDispatcher} {state : Dispatching}

theorem after_same (h : bridge.connections[connection]? = some dispatcher)
    (hdispatcher : state.dispatcher = dispatcher) (hsessions : state.sessions = bridge.sessions) :
    bridge.after connection state = { bridge with calls := state.calls } := by
  obtain ⟨hbound, hat⟩ := List.getElem?_eq_some_iff.mp h
  unfold Bridge.after
  rw [hdispatcher, hsessions, ← hat, List.set_getElem_self]

variable {other : Nat} {negotiated : NegotiatedSession}

theorem holder_after (h : bridge.connections[connection]? = some dispatcher)
    (hholder : (bridge.after connection state).Holder other negotiated) :
    other = connection ∧ state.dispatcher.session.negotiated = some negotiated ∨
      other ≠ connection ∧ bridge.Holder other negotiated := by
  obtain ⟨found, hfound, hnegotiated⟩ := hholder
  rw [getElem?_after h] at hfound
  by_cases hsame : other = connection
  · rw [if_pos hsame] at hfound
    cases hfound
    exact .inl ⟨hsame, hnegotiated⟩
  rw [if_neg hsame] at hfound
  exact .inr ⟨hsame, found, hfound, hnegotiated⟩

theorem Drawings.calls (hdrawings : bridge.Drawings source) {calls : Nat} (h : bridge.calls ≤ calls) :
    Drawings source { bridge with calls := calls } := by
  constructor
  · intro other negotiated hholder
    obtain ⟨call, hcall, hdrawn⟩ := hdrawings.drawn other negotiated hholder
    exact ⟨call, Nat.lt_of_lt_of_le hcall h, hdrawn⟩
  intro first second left right hleft hright hne
  obtain ⟨call, otherCall, hcalls, hcall, hother, hdrawn⟩ :=
    hdrawings.distinct first second left right hleft hright hne
  exact ⟨call, otherCall, hcalls, Nat.lt_of_lt_of_le hcall h, Nat.lt_of_lt_of_le hother h, hdrawn⟩

theorem Drawings.create (hdrawings : bridge.Drawings source)
    (h : bridge.connections[connection]? = some dispatcher)
    (hnegotiated : state.dispatcher.session.negotiated = some negotiated)
    (hdrawn : DrawnAt source bridge.calls negotiated) (hcalls : state.calls = bridge.calls + 4) :
    (bridge.after connection state).Drawings source := by
  have hmore : (bridge.after connection state).calls = bridge.calls + 4 := hcalls
  constructor
  · intro other found hholder
    rw [hmore]
    obtain ⟨_, hfound⟩ | ⟨_, hfound⟩ := holder_after h hholder
    · rw [hnegotiated] at hfound
      cases hfound
      exact ⟨bridge.calls, by omega, hdrawn⟩
    obtain ⟨call, hcall, hfound⟩ := hdrawings.drawn other found hfound
    exact ⟨call, by omega, hfound⟩
  intro first second left right hleft hright hne
  rw [hmore]
  obtain ⟨hfirst, hleft⟩ | ⟨_, hleft⟩ := holder_after h hleft
  · obtain ⟨hsecond, hright⟩ | ⟨_, hright⟩ := holder_after h hright
    · exact absurd (hfirst.trans hsecond.symm) hne
    rw [hnegotiated] at hleft
    cases hleft
    obtain ⟨call, hcall, hfound⟩ := hdrawings.drawn second right hright
    exact ⟨bridge.calls, call, by omega, by omega, by omega, hdrawn, hfound⟩
  obtain ⟨hsecond, hright⟩ | ⟨_, hright⟩ := holder_after h hright
  · rw [hnegotiated] at hright
    cases hright
    obtain ⟨call, hcall, hfound⟩ := hdrawings.drawn first left hleft
    exact ⟨call, bridge.calls, by omega, by omega, by omega, hfound, hdrawn⟩
  obtain ⟨call, otherCall, hcalls, hcall, hother, hfound⟩ :=
    hdrawings.distinct first second left right hleft hright hne
  exact ⟨call, otherCall, hcalls, by omega, by omega, hfound⟩

/-- A session keeps its identities when it ends. -/
theorem holder_revoke (h : bridge.connections[connection]? = some dispatcher)
    (hsession : state.dispatcher.session = dispatcher.session.revoke)
    (hholder : (bridge.after connection state).Holder other negotiated) :
    ∃ before, bridge.Holder other before ∧ negotiated.hello = before.hello ∧
      negotiated.authorization = before.authorization := by
  obtain ⟨hsame, hfound⟩ | ⟨_, hfound⟩ := holder_after h hholder
  · rw [hsession] at hfound
    obtain ⟨before, hbefore, heq⟩ := Option.map_eq_some_iff.mp hfound
    refine ⟨before, ⟨dispatcher, by rw [hsame]; exact h, hbefore⟩, ?_, ?_⟩
    · rw [← heq]
    · rw [← heq]
  · exact ⟨negotiated, hfound, rfl, rfl⟩

theorem DrawnAt.congr {call : Nat} {left right : NegotiatedSession} (h : DrawnAt source call left)
    (hhello : right.hello = left.hello) (hauthorization : right.authorization = left.authorization) :
    DrawnAt source call right := by
  unfold DrawnAt at h ⊢
  rw [hhello, hauthorization]
  exact h

theorem Drawings.revoke (hdrawings : bridge.Drawings source)
    (h : bridge.connections[connection]? = some dispatcher)
    (hsession : state.dispatcher.session = dispatcher.session.revoke) (hcalls : state.calls = bridge.calls) :
    (bridge.after connection state).Drawings source := by
  have hsame : (bridge.after connection state).calls = bridge.calls := hcalls
  constructor
  · intro other found hholder
    obtain ⟨before, hbefore, hhello, hauthorization⟩ := holder_revoke h hsession hholder
    obtain ⟨call, hcall, hdrawn⟩ := hdrawings.drawn other before hbefore
    rw [hsame]
    exact ⟨call, hcall, DrawnAt.congr hdrawn hhello hauthorization⟩
  intro first second left right hleft hright hne
  obtain ⟨leftBefore, hleftBefore, hleftHello, hleftAuthorization⟩ := holder_revoke h hsession hleft
  obtain ⟨rightBefore, hrightBefore, hrightHello, hrightAuthorization⟩ := holder_revoke h hsession hright
  obtain ⟨call, otherCall, hcalls, hcall, hother, hleftDrawn, hrightDrawn⟩ :=
    hdrawings.distinct first second leftBefore rightBefore hleftBefore hrightBefore hne
  rw [hsame]
  exact ⟨call, otherCall, hcalls, hcall, hother,
    DrawnAt.congr hleftDrawn hleftHello hleftAuthorization,
    DrawnAt.congr hrightDrawn hrightHello hrightAuthorization⟩

theorem registered_after (h : bridge.connections[connection]? = some dispatcher)
    {found : ConnectionDispatcher} (hfound : (bridge.after connection state).connections[other]? = some found) :
    other = connection ∧ found = state.dispatcher ∨
      other ≠ connection ∧ bridge.connections[other]? = some found := by
  rw [getElem?_after h] at hfound
  by_cases hsame : other = connection
  · rw [if_pos hsame] at hfound
    exact .inl ⟨hsame, (Option.some.inj hfound).symm⟩
  rw [if_neg hsame] at hfound
  exact .inr ⟨hsame, hfound⟩

theorem getElem?_after_of_ne (h : bridge.connections[connection]? = some dispatcher) (hne : other ≠ connection) :
    (bridge.after connection state).connections[other]? = bridge.connections[other]? := by
  rw [getElem?_after h, if_neg hne]

/-- One connection's step keeps the registry and the connections in step when its own dispatcher and the others
are settled in the new registry, which holds nothing of the dispatcher that was replaced. -/
theorem Registered.after (hregistered : bridge.Registered) (h : bridge.connections[connection]? = some dispatcher)
    (hbijective : state.sessions.Bijective) (hsettled : Settled state.sessions state.dispatcher)
    (hothers : ∀ other found, other ≠ connection → bridge.connections[other]? = some found →
      Settled state.sessions found ∧ ∀ authorization, found.registered = some authorization →
        state.dispatcher.registered ≠ some authorization)
    (howned : ∀ (sessionId : SessionId) (authorization : AuthorizedSession),
      state.sessions.sessions[sessionId]? = some authorization →
      state.dispatcher.registered = some authorization ∨
        bridge.sessions.sessions[sessionId]? = some authorization ∧
          dispatcher.registered ≠ some authorization) : (bridge.after connection state).Registered := by
  refine ⟨hbijective, ?_, ?_, ?_⟩
  · intro other found hfound
    obtain ⟨_, rfl⟩ | ⟨hne, hfound⟩ := registered_after h hfound
    · exact hsettled
    · exact (hothers other found hne hfound).1
  · intro sessionId authorization hin
    obtain hmine | ⟨hin, hnot⟩ := howned sessionId authorization hin
    · exact ⟨connection, state.dispatcher, by rw [getElem?_after h, if_pos rfl], hmine⟩
    obtain ⟨other, found, hfound, howner⟩ := hregistered.owned sessionId authorization hin
    refine ⟨other, found, ?_, howner⟩
    rw [getElem?_after_of_ne h, hfound]
    intro heq
    rw [heq, h] at hfound
    cases hfound
    exact hnot howner
  intro first second left right authorization hleft hright hleftOwner hrightOwner
  obtain ⟨hfirst, rfl⟩ | ⟨hne, hleft⟩ := registered_after h hleft
  · obtain ⟨hsecond, rfl⟩ | ⟨hne, hright⟩ := registered_after h hright
    · exact hfirst.trans hsecond.symm
    · exact absurd hleftOwner ((hothers second right hne hright).2 authorization hrightOwner)
  obtain ⟨_, rfl⟩ | ⟨_, hright⟩ := registered_after h hright
  · exact absurd hrightOwner ((hothers first left hne hleft).2 authorization hleftOwner)
  · exact hregistered.unique first second left right authorization hleft hright hleftOwner hrightOwner

theorem settled_inactive {sessions : SessionRegistry} (hregistered : dispatcher.registered = none)
    (hinactive : ∀ negotiated, dispatcher.session.negotiated = some negotiated → negotiated.active = false) :
    Settled sessions dispatcher := by
  constructor
  · intro authorization hsome
    rw [hregistered] at hsome
    cases hsome
  · exact fun _ => hinactive

theorem Registered.idle (hregistered : bridge.Registered)
    (h : bridge.connections[connection]? = some dispatcher) (hbefore : dispatcher.registered = none)
    (hafter : state.dispatcher.registered = none)
    (hinactive : ∀ negotiated, state.dispatcher.session.negotiated = some negotiated →
      negotiated.active = false) (hsessions : state.sessions = bridge.sessions) :
    (bridge.after connection state).Registered := by
  refine hregistered.after h ?_ (settled_inactive hafter hinactive) ?_ ?_
  · rw [hsessions]
    exact hregistered.bijective
  · intro other found _ hfound
    rw [hsessions, hafter]
    exact ⟨hregistered.settled other found hfound, by simp⟩
  · intro sessionId authorization hin
    rw [hsessions] at hin
    rw [hbefore]
    exact .inr ⟨hin, by simp⟩

theorem Registered.create (hregistered : bridge.Registered)
    (h : bridge.connections[connection]? = some dispatcher) (hbefore : dispatcher.registered = none)
    (hactive : negotiated.active = true) (hnegotiated : state.dispatcher.session.negotiated = some negotiated)
    (hafter : state.dispatcher.registered = some negotiated.authorization)
    (hregister : bridge.sessions.register negotiated.authorization = .ok state.sessions) :
    (bridge.after connection state).Registered := by
  obtain ⟨hfree, _, hsessions, _⟩ := SessionRegistry.register_ok hregister
  have hold : ∀ authorization : AuthorizedSession,
      bridge.sessions.sessions[authorization.sessionId]? = some authorization →
      state.sessions.sessions[authorization.sessionId]? = some authorization := by
    intro authorization hin
    rw [hsessions, getElem?_insert_of, if_neg, hin]
    intro heq
    rw [heq, hfree] at hin
    cases hin
  have hnew : state.sessions.sessions[negotiated.authorization.sessionId]? = some negotiated.authorization := by
    rw [hsessions, getElem?_insert_of, if_pos rfl]
  refine hregistered.after h (hregistered.bijective.register hregister) ?_ ?_ ?_
  · constructor
    · intro authorization hsome
      rw [hafter] at hsome
      cases hsome
      exact ⟨negotiated, hnegotiated, hactive, rfl, hnew⟩
    intro hnone
    rw [hafter] at hnone
    cases hnone
  · intro other found _ hfound
    have hsettled := hregistered.settled other found hfound
    refine ⟨⟨?_, hsettled.unregistered⟩, ?_⟩
    · intro authorization hsome
      obtain ⟨before, hbefore, hon, hauthorization, hin⟩ := hsettled.registered authorization hsome
      exact ⟨before, hbefore, hon, hauthorization, hold authorization hin⟩
    intro authorization hsome hmine
    obtain ⟨_, _, _, _, hin⟩ := hsettled.registered authorization hsome
    rw [hafter] at hmine
    cases hmine
    rw [hfree] at hin
    cases hin
  · intro sessionId authorization hin
    rw [hsessions, getElem?_insert_of] at hin
    by_cases hmine : sessionId = negotiated.authorization.sessionId
    · rw [if_pos hmine] at hin
      cases hin
      exact .inl hafter
    rw [if_neg hmine] at hin
    rw [hbefore]
    exact .inr ⟨hin, by simp⟩

theorem Registered.revoke (hregistered : bridge.Registered)
    (h : bridge.connections[connection]? = some dispatcher) {authorization : AuthorizedSession}
    (hbefore : dispatcher.registered = some authorization) (hafter : state.dispatcher.registered = none)
    (hinactive : ∀ negotiated, state.dispatcher.session.negotiated = some negotiated →
      negotiated.active = false)
    (hsessions : state.sessions = bridge.sessions.revoke authorization.sessionId) :
    (bridge.after connection state).Registered := by
  obtain ⟨_, _, _, _, hmine⟩ := (hregistered.settled connection dispatcher h).registered _ hbefore
  refine hregistered.after h ?_ (settled_inactive hafter hinactive) ?_ ?_
  · rw [hsessions]
    exact hregistered.bijective.revoke authorization.sessionId
  · intro other found hne hfound
    have hsettled := hregistered.settled other found hfound
    rw [hsessions, hafter]
    refine ⟨⟨?_, hsettled.unregistered⟩, by simp⟩
    intro held hsome
    obtain ⟨before, hnegotiated, hon, hauthorization, hin⟩ := hsettled.registered held hsome
    refine ⟨before, hnegotiated, hon, hauthorization, ?_⟩
    rw [SessionRegistry.revoke_sessions, if_neg, hin]
    intro heq
    rw [heq, hmine] at hin
    cases hin
    exact hne (hregistered.unique other connection found dispatcher authorization hfound h hsome hbefore)
  · intro sessionId held hin
    rw [hsessions, SessionRegistry.revoke_sessions] at hin
    by_cases hgone : sessionId = authorization.sessionId
    · rw [if_pos hgone] at hin
      cases hin
    rw [if_neg hgone] at hin
    refine .inr ⟨hin, ?_⟩
    rw [hbefore]
    intro heq
    cases heq
    exact hgone (hregistered.bijective.forward sessionId authorization hin).1.symm

/-- Bridges that a run reaches. -/
structure Sound (source : SessionIdentitySource) (bridge : Bridge) : Prop where
  registered : bridge.Registered
  drawings : bridge.Drawings source

theorem dispatch_authorize {request : RpcRequest} (h : ∀ envelope, request ≠ .negotiate envelope)
    (state : Dispatching) :
    ConnectionDispatcher.dispatch contract source request state =
      match state.dispatcher.authorize state.sessions request with
      | .ok authorization => .ok (.authorized authorization) state
      | .error failure => .error failure state := by
  have hdispatch : ConnectionDispatcher.dispatch contract source request = (do
      let state ← get
      let authorization ← lift id (state.dispatcher.authorize state.sessions request)
      pure (.authorized authorization)) := by
    cases request with
    | negotiate envelope => exact absurd rfl (h envelope)
    | _ => rfl
  rw [hdispatch]
  show (EStateM.bind (lift id (state.dispatcher.authorize state.sessions request)) _) state = _
  unfold EStateM.bind
  cases state.dispatcher.authorize state.sessions request with
  | ok authorization | error failure => rfl

theorem dispatch_negotiate (envelope : NegotiationRequestEnvelope) (state : Dispatching) :
    ConnectionDispatcher.dispatch contract source (.negotiate envelope) state =
      match ConnectionDispatcher.dispatchNegotiation contract source (.negotiate envelope) state with
      | .ok hello state' => .ok (.negotiated hello) state'
      | .error failure state' => .error failure state' := by
  show (EStateM.bind (ConnectionDispatcher.dispatchNegotiation contract source (.negotiate envelope)) _)
    state = _
  unfold EStateM.bind
  cases ConnectionDispatcher.dispatchNegotiation contract source (.negotiate envelope) state with
  | ok hello state' | error failure state' => rfl

theorem Sound.negotiation (hsound : bridge.Sound source)
    (h : bridge.connections[connection]? = some dispatcher) {envelope : NegotiationRequestEnvelope}
    {answer : Except DispatchFailure ServerHello}
    (hnegotiation : Negotiation source envelope ⟨dispatcher, bridge.sessions, bridge.calls⟩ state answer) :
    (bridge.after connection state).Sound source := by
  cases hnegotiation with
  | replayed negotiated hexisting hactive hrequest heq =>
    rw [heq, after_same h rfl rfl]
    exact hsound
  | refused failure hdispatcher hsessions hcalls =>
    rw [after_same h hdispatcher hsessions]
    exact ⟨⟨hsound.registered.bijective, hsound.registered.settled, hsound.registered.owned,
      hsound.registered.unique⟩, hsound.drawings.calls hcalls⟩
  | created negotiated sessions hnone hunregistered hactive hrequest hdrawn hregister heq =>
    subst heq
    exact ⟨hsound.registered.create h hunregistered hactive rfl rfl hregister,
      hsound.drawings.create h rfl hdrawn rfl⟩
  | unregistered failure negotiated hnone hunregistered hinactive hdrawn heq =>
    subst heq
    refine ⟨hsound.registered.idle h hunregistered rfl ?_ rfl, hsound.drawings.create h rfl hdrawn rfl⟩
    intro found hfound
    cases hfound
    exact hinactive

theorem Sound.serve (hsound : bridge.Sound source) (connection : Nat) (request : RpcRequest) :
    (bridge.serve contract source connection request).2.Sound source := by
  unfold Bridge.serve
  cases h : bridge.connections[connection]? with
  | none => exact hsound
  | some dispatcher =>
    dsimp only
    by_cases hnegotiate : ∃ envelope, request = .negotiate envelope
    · obtain ⟨envelope, rfl⟩ := hnegotiate
      have hsettled := hsound.registered.settled connection dispatcher h
      have hholds : Holds (ConnectionDispatcher.dispatchNegotiation contract source (.negotiate envelope))
          ⟨dispatcher, bridge.sessions, bridge.calls⟩ _ _ := dispatchNegotiation_holds hsettled envelope
      rw [dispatch_negotiate]
      unfold Holds at hholds
      cases hresult : ConnectionDispatcher.dispatchNegotiation contract source (.negotiate envelope)
          ⟨dispatcher, bridge.sessions, bridge.calls⟩ with
      | ok hello state' =>
        rw [hresult] at hholds
        exact hsound.negotiation h hholds
      | error failure state' =>
        rw [hresult] at hholds
        exact hsound.negotiation h hholds
    have hother : ∀ envelope, request ≠ .negotiate envelope := by
      intro envelope heq
      exact hnegotiate ⟨envelope, heq⟩
    rw [dispatch_authorize hother]
    cases dispatcher.authorize bridge.sessions request with
    | ok authorization | error failure =>
      dsimp only
      rw [after_same h rfl rfl]
      exact hsound

theorem revoke_inactive {session : BridgeSession} (h : session.revoke.negotiated = some negotiated)
    : negotiated.active = false := by
  obtain ⟨before, _, heq⟩ := Option.map_eq_some_iff.mp h
  rw [← heq]

theorem Sound.disconnect (hsound : bridge.Sound source) (connection : Nat) :
    (bridge.disconnect connection).Sound source := by
  unfold Bridge.disconnect
  cases h : bridge.connections[connection]? with
  | none => exact hsound
  | some dispatcher =>
    dsimp only
    unfold ConnectionDispatcher.disconnect
    cases hregistered : dispatcher.registered with
    | none =>
      exact ⟨hsound.registered.idle h hregistered rfl (fun _ => revoke_inactive) rfl,
        hsound.drawings.revoke h rfl rfl⟩
    | some authorization =>
      exact ⟨hsound.registered.revoke h hregistered rfl (fun _ => revoke_inactive) rfl,
        hsound.drawings.revoke h rfl rfl⟩

theorem Sound.connect (hsound : bridge.Sound source) (config : BridgeSessionConfig) :
    Sound source { bridge with connections := bridge.connections ++ [.new config] } := by
  have hnew : ∀ (other : Nat) (found : ConnectionDispatcher),
      (bridge.connections ++ [ConnectionDispatcher.new config])[other]? = some found →
      bridge.connections[other]? = some found ∨ found = .new config := by
    intro other found hfound
    rw [List.getElem?_append] at hfound
    split at hfound
    · exact .inl hfound
    right
    obtain ⟨_, hfound⟩ := List.getElem?_eq_some_iff.mp hfound
    rw [← hfound, List.getElem_singleton]
  have hholder : ∀ other negotiated,
      Holder { bridge with connections := bridge.connections ++ [.new config] } other negotiated →
      bridge.Holder other negotiated := by
    intro other negotiated hholder
    obtain ⟨found, hfound, hnegotiated⟩ := hholder
    obtain hfound | rfl := hnew other found hfound
    · exact ⟨found, hfound, hnegotiated⟩
    · cases hnegotiated
  constructor
  · constructor
    · exact hsound.registered.bijective
    · intro other found hfound
      obtain hfound | rfl := hnew other found hfound
      · exact hsound.registered.settled other found hfound
      constructor
      · intro authorization hsome
        cases hsome
      intro _ negotiated hsome
      cases hsome
    · intro sessionId authorization hin
      obtain ⟨other, found, hfound, howner⟩ := hsound.registered.owned sessionId authorization hin
      refine ⟨other, found, ?_, howner⟩
      obtain ⟨hbound, _⟩ := List.getElem?_eq_some_iff.mp hfound
      exact (List.getElem?_append_left hbound).trans hfound
    intro first second left right authorization hleft hright hleftOwner hrightOwner
    obtain hleft | rfl := hnew first left hleft
    · obtain hright | rfl := hnew second right hright
      · exact hsound.registered.unique first second left right authorization hleft hright hleftOwner hrightOwner
      · cases hrightOwner
    · cases hleftOwner
  · constructor
    · intro other negotiated hheld
      exact hsound.drawings.drawn other negotiated (hholder other negotiated hheld)
    intro first second left right hleft hright hne
    exact hsound.drawings.distinct first second left right (hholder first left hleft)
      (hholder second right hright) hne

theorem Sound.step (hsound : bridge.Sound source) (event : SessionEvent) :
    (bridge.step contract source event).Sound source := by
  cases event with
  | connect config => exact hsound.connect config
  | request connection request => exact hsound.serve connection request
  | disconnect connection => exact hsound.disconnect connection

theorem Sound.run (hsound : bridge.Sound source) (events : List SessionEvent) :
    (bridge.run contract source events).Sound source := by
  induction events generalizing bridge with
  | nil => exact hsound
  | cons event events ih => exact ih (hsound.step event)

end Bridge

end Sessions

end HyperfluxNext
