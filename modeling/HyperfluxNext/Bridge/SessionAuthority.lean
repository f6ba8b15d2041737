import HyperfluxNext.Bridge.SessionBridge

namespace HyperfluxNext

open Procedure OrderedMaps

namespace Sessions

namespace Bridge

variable {contract : ProtocolContract} {source : SessionIdentitySource} {bridge : Bridge}
  {connection : Nat} {dispatcher : ConnectionDispatcher}

variable {held : NegotiatedSession}

theorem holder_disconnect (h : bridge.Holder connection held) :
    (bridge.disconnect connection).Holder connection { held with active := false } := by
  obtain ⟨dispatcher, hat, hheld⟩ := h
  have hsession : (dispatcher.disconnect bridge.sessions).1.session = dispatcher.session.revoke := by
    unfold ConnectionDispatcher.disconnect
    cases dispatcher.registered with
    | none | some authorization => rfl
  unfold Bridge.disconnect
  rw [hat]
  refine ⟨(dispatcher.disconnect bridge.sessions).1, ?_, ?_⟩
  · dsimp only
    rw [getElem?_after hat, if_pos rfl]
  · rw [hsession, revoke_negotiated hheld]

theorem holder_step (hsound : bridge.Sound source) (h : bridge.Holder connection held) (event : SessionEvent) :
    ∃ after, (bridge.step contract source event).Holder connection after ∧
      (after = held ∨ event = .disconnect connection ∧ after = { held with active := false }) := by
  obtain ⟨dispatcher, hat, hheld⟩ := h
  cases event with
  | connect config =>
    obtain ⟨hbound, _⟩ := List.getElem?_eq_some_iff.mp hat
    exact ⟨held, ⟨dispatcher, (List.getElem?_append_left hbound).trans hat, hheld⟩, .inl rfl⟩
  | disconnect other =>
    by_cases hsame : connection = other
    · subst hsame
      exact ⟨_, holder_disconnect ⟨dispatcher, hat, hheld⟩, .inr ⟨rfl, rfl⟩⟩
    refine ⟨held, ?_, .inl rfl⟩
    show (bridge.disconnect other).Holder connection held
    unfold Bridge.disconnect
    cases hother : bridge.connections[other]? with
    | none => exact ⟨dispatcher, hat, hheld⟩
    | some found =>
      refine ⟨dispatcher, ?_, hheld⟩
      dsimp only
      rw [getElem?_after_of_ne hother hsame, hat]
  | request other request =>
    refine ⟨held, ?_, .inl rfl⟩
    show (bridge.serve contract source other request).2.Holder connection held
    unfold Bridge.serve
    cases hother : bridge.connections[other]? with
    | none => exact ⟨dispatcher, hat, hheld⟩
    | some found =>
      dsimp only
      by_cases hsame : connection = other
      · subst hsame
        rw [hat] at hother
        cases hother
        have hstays : ∀ state : Dispatching, state = ⟨dispatcher, bridge.sessions, bridge.calls⟩ →
            (bridge.after connection state).Holder connection held := by
          intro state heq
          refine ⟨dispatcher, ?_, hheld⟩
          rw [getElem?_after hat, if_pos rfl, heq]
        by_cases hnegotiate : ∃ envelope, request = .negotiate envelope
        · obtain ⟨envelope, rfl⟩ := hnegotiate
          have hsettled : Settled bridge.sessions dispatcher :=
            hsound.registered.settled connection dispatcher hat
          have hresult : ConnectionDispatcher.dispatchNegotiation contract source (.negotiate envelope)
              ⟨dispatcher, bridge.sessions, bridge.calls⟩ = _ :=
            dispatchNegotiation_existing hsettled hheld envelope
          rw [dispatch_negotiate, hresult]
          by_cases hactive : held.active = false
          · rw [if_pos hactive]
            exact hstays _ rfl
          rw [if_neg hactive]
          by_cases hrequest : held.request = envelope
          · rw [if_pos hrequest]
            exact hstays _ rfl
          rw [if_neg hrequest]
          exact hstays _ rfl
        · have hplain : ∀ envelope, request ≠ .negotiate envelope := by
            intro envelope heq
            exact hnegotiate ⟨envelope, heq⟩
          rw [dispatch_authorize hplain]
          cases dispatcher.authorize bridge.sessions request with
          | ok authorization | error failure => exact hstays _ rfl
      · have hother' : ∀ state : Dispatching, (bridge.after other state).Holder connection held := by
          intro state
          refine ⟨dispatcher, ?_, hheld⟩
          rw [getElem?_after_of_ne hother hsame, hat]
        split
        · exact hother' _
        · exact hother' _

theorem holder_run (hsound : bridge.Sound source) (h : bridge.Holder connection held)
    (events : List SessionEvent) :
    ∃ after, (bridge.run contract source events).Holder connection after ∧
      (after = held ∨ .disconnect connection ∈ events ∧ after = { held with active := false }) := by
  induction events generalizing bridge held with
  | nil => exact ⟨held, h, .inl rfl⟩
  | cons event events ih =>
    obtain ⟨next, hnext, hcase⟩ := holder_step hsound h event
    obtain ⟨after, hafter, hlater⟩ := ih (hsound.step event) hnext
    refine ⟨after, hafter, ?_⟩
    obtain rfl | ⟨rfl, rfl⟩ := hcase
    · obtain rfl | ⟨hin, rfl⟩ := hlater
      · exact .inl rfl
      · exact .inr ⟨List.mem_cons_of_mem _ hin, rfl⟩
    obtain rfl | ⟨_, rfl⟩ := hlater
    · exact .inr ⟨List.mem_cons_self, rfl⟩
    · exact .inr ⟨List.mem_cons_self, rfl⟩

theorem serve_negotiated (hsound : bridge.Sound source) {envelope : NegotiationRequestEnvelope}
    {hello : ServerHello}
    (h : (bridge.serve contract source connection (.negotiate envelope)).1 = some (.ok (.negotiated hello))) :
    ∃ held, (bridge.serve contract source connection (.negotiate envelope)).2.Holder connection held ∧
      held.active = true ∧ held.request = envelope ∧ held.hello = hello := by
  unfold Bridge.serve at h ⊢
  cases hat : bridge.connections[connection]? with
  | none =>
    rw [hat] at h
    cases h
  | some dispatcher =>
    rw [hat] at h
    dsimp only at h ⊢
    rw [dispatch_negotiate] at h ⊢
    have hholds : Holds (ConnectionDispatcher.dispatchNegotiation contract source (.negotiate envelope))
        ⟨dispatcher, bridge.sessions, bridge.calls⟩ _ _ :=
      dispatchNegotiation_holds (hsound.registered.settled connection dispatcher hat) envelope
    unfold Holds at hholds
    cases hresult : ConnectionDispatcher.dispatchNegotiation contract source (.negotiate envelope)
        ⟨dispatcher, bridge.sessions, bridge.calls⟩ with
    | error failure state' =>
      rw [hresult] at h
      cases h
    | ok answer state' =>
      rw [hresult] at h hholds
      cases h
      dsimp only at hholds ⊢
      have hplace : (bridge.after connection state').connections[connection]? = some state'.dispatcher := by
        rw [getElem?_after hat, if_pos rfl]
      cases hholds with
      | replayed negotiated hexisting hactive hrequest heq =>
        refine ⟨negotiated, ⟨state'.dispatcher, hplace, ?_⟩, hactive, hrequest, rfl⟩
        rw [heq]
        exact hexisting
      | created negotiated sessions _ _ hactive hrequest _ _ heq =>
        refine ⟨negotiated, ⟨state'.dispatcher, hplace, ?_⟩, hactive, hrequest, rfl⟩
        rw [heq]

theorem serve_replay (hsound : bridge.Sound source) (h : bridge.Holder connection held) :
    bridge.serve contract source connection (.negotiate held.request) =
      (some (if held.active = false then .error (.session .sessionRevoked)
        else .ok (.negotiated held.hello)), bridge) := by
  obtain ⟨dispatcher, hat, hheld⟩ := h
  have hresult : ConnectionDispatcher.dispatchNegotiation contract source (.negotiate held.request)
      ⟨dispatcher, bridge.sessions, bridge.calls⟩ = _ :=
    dispatchNegotiation_existing (hsound.registered.settled connection dispatcher hat) hheld held.request
  have hstays : bridge.after connection ⟨dispatcher, bridge.sessions, bridge.calls⟩ = bridge :=
    after_same hat rfl rfl
  unfold Bridge.serve
  rw [hat]
  dsimp only
  rw [dispatch_negotiate, hresult]
  by_cases hactive : held.active = false
  · rw [if_pos hactive, if_pos hactive]
    dsimp only
    rw [hstays]
  rw [if_neg hactive, if_neg hactive, if_pos rfl]
  dsimp only
  rw [hstays]

theorem authorize_ok {sessions : SessionRegistry} {request : RpcRequest}
    {authorization : AuthorizedSession} (h : dispatcher.authorize sessions request = .ok authorization) :
    ∃ negotiated, dispatcher.session.negotiated = some negotiated ∧ negotiated.active = true ∧
      negotiated.authorization = authorization ∧
      request.sessionCredentials.map Prod.fst = some negotiated.hello.protocolSessionId := by
  unfold ConnectionDispatcher.authorize at h
  split at h
  · cases h
  next found hfound =>
    split at h
    · cases h
      unfold BridgeSession.authorizeRequest at hfound
      split at hfound
      · cases hfound
      next negotiated hnegotiated =>
        obtain ⟨_, hactive, hfound⟩ := bind_eq_ok hfound
        split at hfound
        · cases hfound
        next protocolSessionId token hcredentials =>
          obtain ⟨_, hprotocol, hfound⟩ := bind_eq_ok hfound
          obtain ⟨_, _, hfound⟩ := bind_eq_ok hfound
          obtain ⟨_, _, hfound⟩ := bind_eq_ok hfound
          obtain ⟨_, _, hfound⟩ := bind_eq_ok hfound
          obtain ⟨_, _, hfound⟩ := bind_eq_ok hfound
          have hactive : negotiated.active = true := by simpa using reject_eq_ok hactive
          have hprotocol := not_not.mp (reject_eq_ok hprotocol)
          refine ⟨negotiated, hnegotiated, hactive, Except.ok.inj hfound, ?_⟩
          rw [hcredentials, ← hprotocol]
          rfl
    · cases h

theorem holder_unique {other : NegotiatedSession} (h : bridge.Holder connection held)
    (h' : bridge.Holder connection other) : held = other := by
  obtain ⟨dispatcher, hat, hheld⟩ := h
  obtain ⟨found, hfound, hother⟩ := h'
  rw [hat] at hfound
  cases hfound
  rw [hheld] at hother
  exact Option.some.inj hother

theorem Sound.active (hsound : bridge.Sound source) (h : bridge.Holder connection held)
    (hactive : held.active = true) :
    ∃ dispatcher, bridge.connections[connection]? = some dispatcher ∧
      dispatcher.registered = some held.authorization ∧
      bridge.sessions.sessions[held.authorization.sessionId]? = some held.authorization := by
  obtain ⟨dispatcher, hat, hheld⟩ := h
  have hsettled := hsound.registered.settled connection dispatcher hat
  cases hregistered : dispatcher.registered with
  | none =>
    have hinactive := hsettled.unregistered hregistered held hheld
    exact absurd (hinactive.symm.trans hactive) Bool.false_ne_true
  | some authorization =>
    obtain ⟨found, hfound, _, hauthorization, hin⟩ := hsettled.registered authorization hregistered
    rw [hheld] at hfound
    cases hfound
    subst hauthorization
    exact ⟨dispatcher, hat, hregistered, hin⟩

theorem Sound.holder (hsound : bridge.Sound source) {sessionId : SessionId} {authorization : AuthorizedSession}
    (h : bridge.sessions.sessions[sessionId]? = some authorization) :
    ∃! other, ∃ held, bridge.Holder other held ∧ held.active = true ∧ held.authorization = authorization := by
  obtain ⟨other, found, hat, howner⟩ := hsound.registered.owned sessionId authorization h
  obtain ⟨held, hheld, hactive, hauthorization, _⟩ :=
    (hsound.registered.settled other found hat).registered authorization howner
  refine ⟨other, ⟨held, ⟨found, hat, hheld⟩, hactive, hauthorization⟩, ?_⟩
  intro second hsecond
  obtain ⟨again, hagain, hon, hsame⟩ := hsecond
  obtain ⟨dispatcher, hplace, hregistered, _⟩ := hsound.active hagain hon
  rw [hsame] at hregistered
  exact hsound.registered.unique second other dispatcher found authorization hplace hat hregistered howner

/-- Sessions of two connections differ in every identity. -/
theorem Sound.apart (hsound : bridge.Sound source) (hfresh : Fresh source bridge.calls) {other : Nat}
    {found : NegotiatedSession} (h : bridge.Holder connection held) (h' : bridge.Holder other found)
    (hinactive : held.active = false) (hactive : found.active = true) :
    held.hello.protocolSessionId ≠ found.hello.protocolSessionId ∧
      held.authorization.sessionId ≠ found.authorization.sessionId ∧
      held.authorization.authorizationEpoch ≠ found.authorization.authorizationEpoch := by
  have hne : connection ≠ other := by
    intro heq
    rw [heq] at h
    rw [holder_unique h h', hactive] at hinactive
    cases hinactive
  obtain ⟨call, otherCall, hcalls, hcall, hother, hdrawn, hfound⟩ :=
    hsound.drawings.distinct connection other held found h h' hne
  exact hdrawn.distinct hfresh hfound hcall hother hcalls

end Bridge

/-- One active session for each client and connection, the same session for a repeated negotiation,
and no authority in the name of a session whose connection ended. -/
theorem sessionAuthority (contract : ProtocolContract) (source : SessionIdentitySource)
    (capacity : Nat) (before : List SessionEvent) (connection : Nat) :
    let bridge := (Bridge.start capacity).run contract source before
    (bridge.sessions.Bijective ∧
      (∀ other held, bridge.Holder other held → held.active = true →
        bridge.sessions.sessions[held.authorization.sessionId]? = some held.authorization) ∧
      ∀ (sessionId : SessionId) (authorization : AuthorizedSession),
        bridge.sessions.sessions[sessionId]? = some authorization →
        ∃! other, ∃ held, bridge.Holder other held ∧ held.active = true ∧ held.authorization = authorization) ∧
    (∀ envelope hello later,
      (bridge.serve contract source connection (.negotiate envelope)).1 = some (.ok (.negotiated hello)) →
      let after := (bridge.serve contract source connection (.negotiate envelope)).2.run contract source later
      after.serve contract source connection (.negotiate envelope) = (some (.ok (.negotiated hello)), after) ∨
        .disconnect connection ∈ later ∧
          after.serve contract source connection (.negotiate envelope) =
            (some (.error (.session .sessionRevoked)), after)) ∧
    ∀ held later, bridge.Holder connection held →
      let after := (bridge.disconnect connection).run contract source later
      Fresh source after.calls →
      (∀ (other : Nat) (dispatcher : ConnectionDispatcher) (request : RpcRequest)
        (authorization : AuthorizedSession), after.connections[other]? = some dispatcher →
        dispatcher.authorize after.sessions request = .ok authorization →
          authorization.sessionId ≠ held.authorization.sessionId ∧
          authorization.authorizationEpoch ≠ held.authorization.authorizationEpoch ∧
          request.sessionCredentials.map Prod.fst ≠ some held.hello.protocolSessionId) ∧
      ∀ (sessionId : SessionId) (authorization : AuthorizedSession),
        after.sessions.sessions[sessionId]? = some authorization →
          sessionId ≠ held.authorization.sessionId ∧
          authorization.authorizationEpoch ≠ held.authorization.authorizationEpoch := by
  intro bridge
  have hstart : (Bridge.start capacity).Sound source :=
    ⟨Bridge.registered_start capacity, Bridge.drawings_start capacity⟩
  have hsound : bridge.Sound source := hstart.run before
  refine ⟨⟨hsound.registered.bijective, ?_, ?_⟩, ?_, ?_⟩
  · intro other held hholder hactive
    obtain ⟨_, _, _, hin⟩ := hsound.active hholder hactive
    exact hin
  · intro sessionId authorization hin
    exact hsound.holder hin
  · intro envelope hello later hserved after
    have hnext : (bridge.serve contract source connection (.negotiate envelope)).2.Sound source :=
      hsound.serve connection _
    obtain ⟨held, hholder, hactive, hrequest, hhello⟩ := Bridge.serve_negotiated hsound hserved
    obtain ⟨found, hfound, hcase⟩ := Bridge.holder_run hnext hholder later
    have hafter : after.Sound source := hnext.run later
    have hreplay : after.serve contract source connection (.negotiate found.request) = _ :=
      Bridge.serve_replay hafter hfound
    obtain rfl | ⟨hin, rfl⟩ := hcase
    · left
      rw [hrequest] at hreplay
      rw [hreplay, hactive, hhello]
      rfl
    right
    refine ⟨hin, ?_⟩
    rw [show ({ held with active := false } : NegotiatedSession).request = envelope from hrequest] at hreplay
    rw [hreplay]
    rfl
  · intro held later hholder after hfresh
    have hended : (bridge.disconnect connection).Sound source := hsound.disconnect connection
    have hafter : after.Sound source := hended.run later
    obtain ⟨last, hlast, hcase⟩ := Bridge.holder_run hended (Bridge.holder_disconnect hholder) later
    have hkept : last.active = false ∧ last.hello = held.hello ∧ last.authorization = held.authorization := by
      obtain rfl | ⟨_, rfl⟩ := hcase
      · exact ⟨rfl, rfl, rfl⟩
      · exact ⟨rfl, rfl, rfl⟩
    obtain ⟨hinactive, hhello, hauthorization⟩ := hkept
    constructor
    · intro other dispatcher request authorization hat hauthorized
      obtain ⟨found, hfound, hactive, hfoundAuthorization, hcredentials⟩ := Bridge.authorize_ok hauthorized
      obtain ⟨hprotocol, hsession, hepoch⟩ :=
        hafter.apart hfresh hlast ⟨dispatcher, hat, hfound⟩ hinactive hactive
      rw [hauthorization, hfoundAuthorization] at hsession hepoch
      rw [hhello] at hprotocol
      refine ⟨hsession.symm, hepoch.symm, ?_⟩
      rw [hcredentials]
      intro heq
      exact hprotocol (Option.some.inj heq).symm
    intro sessionId authorization hin
    obtain ⟨other, ⟨found, hfound, hactive, hfoundAuthorization⟩, _⟩ := hafter.holder hin
    obtain ⟨_, hsession, hepoch⟩ := hafter.apart hfresh hlast hfound hinactive hactive
    rw [hauthorization, hfoundAuthorization] at hsession hepoch
    have hid := (hafter.registered.bijective.forward sessionId authorization hin).1
    rw [hid] at hsession
    exact ⟨hsession.symm, hepoch.symm⟩

/-! A source that counts, for a run on fixed inputs. -/

def countingSource : SessionIdentitySource where
  fillBytes call count := .ok (ByteOrder.toBeBytes count (call + 1))
  filled := by
    intro call count bytes h
    cases h
    exact ByteOrder.toBeBytes_length count (call + 1)

theorem countingSource_fresh : Fresh countingSource 8 := by
  have hread : ∀ call count, call < 8 → 8 ≤ count →
      ByteOrder.fromBeBytes (ByteOrder.toBeBytes count (call + 1)) = call + 1 := by
    intro call count hcall hcount
    apply ByteOrder.fromBeBytes_toBeBytes
    calc call + 1 < 256 ^ 8 := by omega
      _ ≤ 256 ^ count := Nat.pow_le_pow_right (by decide) hcount
  constructor
  · intro i j bytes hi hj hleft hright
    have hsame := (Except.ok.inj hleft).trans (Except.ok.inj hright).symm
    have hvalues := congrArg ByteOrder.fromBeBytes hsame
    rw [hread i _ hi (by decide), hread j _ hj (by decide)] at hvalues
    omega
  intro i j left right hi hj hleft hright hsame
  rw [← Except.ok.inj hleft, ← Except.ok.inj hright] at hsame
  unfold epochValue at hsame
  rw [hread i _ hi (by decide), hread j _ hj (by decide)] at hsame
  omega

def sampleContract : ProtocolContract := ⟨[⟨8, ["ownership-leases"], ["ownership-leases"]⟩]⟩

def sampleHello : ClientHello where
  clientId := .lit "client"
  clientName := .lit "tool"
  minimumVersion := .lit 7
  maximumVersion := .lit 8
  requiredFeatures := []
  optionalFeatures := []

def sampleConfig : BridgeSessionConfig where
  serverInstanceId := .lit "server"
  bridgeVersion := .lit "1.0.0"
  eventBufferCapacity := 16

def sampleSessionEvents : List SessionEvent :=
  [.connect sampleConfig, .request 0 (.negotiate ⟨.lit "first", sampleHello⟩)]

/-- After the first client left a second one connects and negotiates. -/
def secondSessionEvents : List SessionEvent :=
  [.connect sampleConfig,
    .request 1 (.negotiate ⟨.lit "second", { sampleHello with clientId := .lit "other" }⟩)]

def snapshotOf (held : NegotiatedSession) : RpcRequest :=
  .snapshot ⟨.lit "third", held.hello.protocolSessionId, held.hello.negotiationToken, ()⟩

theorem sessionAuthority_sample :
    let bridge := (Bridge.start 4).run sampleContract countingSource sampleSessionEvents
    let after := (bridge.disconnect 0).run sampleContract countingSource secondSessionEvents
    ∃ held found dispatcher authorization, bridge.Holder 0 held ∧ after.Holder 1 found ∧
      after.connections[1]? = some dispatcher ∧
      dispatcher.authorize after.sessions (snapshotOf found) = .ok authorization ∧
      authorization.sessionId ≠ held.authorization.sessionId ∧
      authorization.authorizationEpoch ≠ held.authorization.authorizationEpoch ∧
      (snapshotOf found).sessionCredentials.map Prod.fst ≠ some held.hello.protocolSessionId := by
  intro bridge after
  have hnegotiated : (bridge.connections[0]?.bind (·.session.negotiated)).isSome = true := by
    decide +kernel
  have hasked : (after.connections[1]?.any fun dispatcher => dispatcher.session.negotiated.any fun found =>
      (dispatcher.authorize after.sessions (snapshotOf found)).isOk) = true := by
    decide +kernel
  have hcalls : after.calls = 8 := by
    decide +kernel
  obtain ⟨held, hheld⟩ := Option.isSome_iff_exists.mp hnegotiated
  obtain ⟨dispatcher, hat, hsession⟩ := Option.bind_eq_some_iff.mp hheld
  have hholder : bridge.Holder 0 held := ⟨dispatcher, hat, hsession⟩
  obtain ⟨second, hsecond, hanswers⟩ := (Option.any_eq_true ..).mp hasked
  obtain ⟨found, hfound, hok⟩ := (Option.any_eq_true ..).mp hanswers
  cases hauthorized : second.authorize after.sessions (snapshotOf found) with
  | error failure =>
    rw [hauthorized] at hok
    cases hok
  | ok authorization =>
    refine ⟨held, found, second, authorization, hholder, ⟨second, hsecond, hfound⟩, hsecond,
      hauthorized, ?_⟩
    exact ((sessionAuthority sampleContract countingSource 4 sampleSessionEvents 0).2.2 held
      secondSessionEvents hholder (by rw [hcalls]; exact countingSource_fresh)).1 1 second _ authorization
      hsecond hauthorized

end Sessions

end HyperfluxNext
