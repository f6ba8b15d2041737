import HyperfluxNext.Bridge.RuntimeIdentity
import HyperfluxNext.Bridge.Sessions

namespace HyperfluxNext

open Procedure OrderedMaps List

namespace Sessions

variable {contract : ProtocolContract} {source : SessionIdentitySource} {existing : NegotiatedSession}

theorem lowerHexPair_digits (byte : UInt8) :
    lowerHexPair byte = [hexDigit (byte.toNat / 16), hexDigit (byte.toNat % 16)] := by
  have hhigh : (byte >>> 4).toNat = byte.toNat / 16 := by
    rw [UInt8.toNat_shiftRight]
    exact Nat.shiftRight_eq_div_pow byte.toNat 4
  have hlow : (byte &&& 15).toNat = byte.toNat % 16 := by
    rw [UInt8.toNat_and]
    exact Nat.and_two_pow_sub_one_eq_mod byte.toNat 4
  unfold lowerHexPair lowerHexDigit
  rw [hhigh, hlow]
  rfl

theorem lowerHexPair_injective {a b : UInt8} (h : lowerHexPair a = lowerHexPair b) : a = b := by
  have ha := a.toNat_lt
  have hb := b.toNat_lt
  rw [lowerHexPair_digits, lowerHexPair_digits] at h
  obtain ⟨hhigh, hrest⟩ := List.cons.inj h
  obtain ⟨hlow, _⟩ := List.cons.inj hrest
  have hdiv := hexDigit_injective (by omega) (by omega) hhigh
  have hmod := hexDigit_injective (by omega) (by omega) hlow
  apply UInt8.toNat_inj.mp
  omega

theorem lowerHex_injective {left right : List UInt8}
    (h : left.flatMap lowerHexPair = right.flatMap lowerHexPair) : left = right := by
  induction left generalizing right with
  | nil =>
    cases right with
    | nil => rfl
    | cons byte right =>
      rw [flatMap_nil, flatMap_cons] at h
      cases h
  | cons byte left ih =>
    cases right with
    | nil =>
      rw [flatMap_nil, flatMap_cons] at h
      cases h
    | cons other right =>
      rw [flatMap_cons, flatMap_cons] at h
      have hparts := append_inj h rfl
      rw [lowerHexPair_injective hparts.1, ih hparts.2]

theorem identityText_injective {kind : String} {left right : List UInt8}
    (h : identityText kind left = identityText kind right) : left = right := by
  have hlists := congrArg String.toList h
  unfold identityText at hlists
  rw [String.toList_append, String.toList_append, String.toList_ofList, String.toList_ofList] at hlists
  exact lowerHex_injective (append_cancel_left hlists)

/-- The identities of a session came from the calls that start with this one. -/
def DrawnAt (source : SessionIdentitySource) (call : Nat) (negotiated : NegotiatedSession) : Prop :=
  ∃ protocolBytes sessionBytes epoch,
    source.fillBytes call shortIdBytes = .ok protocolBytes ∧
    source.fillBytes (call + 2) shortIdBytes = .ok sessionBytes ∧
    source.fillBytes (call + 3) epochBytes = .ok epoch ∧
    negotiated.hello.protocolSessionId.asStr = identityText "protocol-session-" protocolBytes ∧
    negotiated.authorization.sessionId.asStr = identityText "bridge-session-" sessionBytes ∧
    negotiated.authorization.authorizationEpoch.get = epochValue epoch

/-- The entropy of the first calls does not repeat itself. -/
structure Fresh (source : SessionIdentitySource) (calls : Nat) : Prop where
  identities : ∀ i j bytes, i < calls → j < calls → source.fillBytes i shortIdBytes = .ok bytes →
    source.fillBytes j shortIdBytes = .ok bytes → i = j
  epochs : ∀ i j left right, i < calls → j < calls → source.fillBytes i epochBytes = .ok left →
    source.fillBytes j epochBytes = .ok right → epochValue left = epochValue right → i = j

/-- Sessions of different calls share no identity. -/
theorem DrawnAt.distinct {call other calls : Nat} {left right : NegotiatedSession}
    (hfresh : Fresh source calls) (hleft : DrawnAt source call left) (hright : DrawnAt source other right)
    (hcall : call + 3 < calls) (hother : other + 3 < calls) (hne : call ≠ other) :
    left.hello.protocolSessionId ≠ right.hello.protocolSessionId ∧
      left.authorization.sessionId ≠ right.authorization.sessionId ∧
      left.authorization.authorizationEpoch ≠ right.authorization.authorizationEpoch := by
  obtain ⟨protocolBytes, sessionBytes, epoch, hprotocol, hsession, hepoch, hp, hs, he⟩ := hleft
  obtain ⟨protocolBytes', sessionBytes', epoch', hprotocol', hsession', hepoch', hp', hs', he'⟩ := hright
  refine ⟨?_, ?_, ?_⟩
  · intro heq
    rw [heq, hp'] at hp
    have hbytes := identityText_injective hp
    rw [← hbytes] at hprotocol
    exact hne (hfresh.identities call other _ (by omega) (by omega) hprotocol hprotocol')
  · intro heq
    rw [heq, hs'] at hs
    have hbytes := identityText_injective hs
    rw [← hbytes] at hsession
    have hcalls := hfresh.identities (call + 2) (other + 2) _ (by omega) (by omega) hsession hsession'
    omega
  intro heq
  rw [heq, he'] at he
  have hcalls := hfresh.epochs (call + 3) (other + 3) _ _ (by omega) (by omega) hepoch hepoch' he.symm
  omega

theorem fillBytes_holds (count calls : Nat) :
    Holds (fillBytes source count) calls
      (fun bytes calls' => source.fillBytes calls count = .ok bytes ∧ calls' = calls + 1)
      (fun _ calls' => calls' = calls + 1) := by
  unfold Holds fillBytes
  cases h : source.fillBytes calls count with
  | ok bytes => exact ⟨rfl, rfl⟩
  | error error => rfl

theorem generatedStringIdentity_holds (hi : Nat) (kind : String) (count calls : Nat) :
    Holds (generatedStringIdentity source hi kind count) calls
      (fun identity calls' => (∃ bytes, source.fillBytes calls count = .ok bytes ∧
        identity.asStr = identityText kind bytes) ∧ calls' = calls + 1)
      (fun _ calls' => calls' = calls + 1) := by
  unfold generatedStringIdentity
  rw [holds_bind]
  apply holds_post (fillBytes_holds count calls)
  intro bytes calls' hfilled
  split
  · exact hfilled.2
  next identity htext =>
    refine ⟨⟨bytes, hfilled.1, ?_⟩, hfilled.2⟩
    unfold Text.tryFrom at htext
    split at htext
    · cases htext
      rfl
    · cases htext

theorem generatedEpoch_holds (calls : Nat) :
    Holds (generatedEpoch source) calls
      (fun epoch calls' => (∃ bytes, source.fillBytes calls epochBytes = .ok bytes ∧
        epoch.get = epochValue bytes) ∧ calls' = calls + 1)
      (fun _ calls' => calls' = calls + 1) := by
  unfold generatedEpoch
  rw [holds_bind]
  apply holds_post (fillBytes_holds epochBytes calls)
  intro bytes calls' hfilled
  split
  · exact hfilled.2
  next epoch hepoch => exact ⟨⟨bytes, hfilled.1, Bounded.get_of_tryFrom hepoch⟩, hfilled.2⟩

theorem issueSession_holds (config : BridgeSessionConfig) (envelope : NegotiationRequestEnvelope) (calls : Nat) :
    Holds (issueSession contract source config envelope) calls
      (fun negotiated calls' => calls' = calls + 4 ∧ negotiated.active = true ∧
        negotiated.request = envelope ∧ DrawnAt source calls negotiated)
      (fun _ calls' => calls ≤ calls') := by
  unfold issueSession onIdentities
  rw [holds_bind, holds_zoom]
  apply holds_mono (generatedStringIdentity_holds 128 "protocol-session-" shortIdBytes calls)
  rotate_left
  · intro error calls' hcalls
    show calls ≤ calls'
    omega
  intro protocolSessionId first hprotocol
  obtain ⟨⟨protocolBytes, hdraw, htext⟩, hfirst⟩ := hprotocol
  rw [holds_bind, holds_zoom]
  apply holds_mono (generatedStringIdentity_holds 160 "negotiation-" tokenBytes first)
  rotate_left
  · intro error calls' hcalls
    show calls ≤ calls'
    omega
  intro token second htoken
  rw [holds_bind, holds_zoom]
  apply holds_mono (generatedStringIdentity_holds 128 "bridge-session-" shortIdBytes second)
  rotate_left
  · intro error calls' hcalls
    have := htoken.2
    show calls ≤ calls'
    omega
  intro sessionId third hsession
  obtain ⟨⟨sessionBytes, hsessionDraw, hsessionText⟩, hthird⟩ := hsession
  rw [holds_bind, holds_zoom]
  apply holds_mono (generatedEpoch_holds third)
  rotate_left
  · intro error calls' hcalls
    have := htoken.2
    show calls ≤ calls'
    omega
  intro epoch fourth hepoch
  obtain ⟨⟨epochBytes, hepochDraw, hepochValue⟩, hfourth⟩ := hepoch
  have hsecond := htoken.2
  rw [holds_bind, holds_lift]
  constructor
  · intro hello hhello
    have hidentities := negotiateWithContract_identities hhello
    have hat : second = calls + 2 := by omega
    have hat' : third = calls + 3 := by omega
    subst hat
    subst hat'
    refine ⟨?_, rfl, rfl, protocolBytes, sessionBytes, epochBytes, hdraw, hsessionDraw, hepochDraw, ?_,
      hsessionText, hepochValue⟩
    · show fourth = calls + 4
      omega
    show hello.protocolSessionId.asStr = _
    rw [hidentities.1]
    exact htext
  intro error herror
  show calls ≤ fourth
  omega

structure Settled (sessions : SessionRegistry) (dispatcher : ConnectionDispatcher) : Prop where
  registered : ∀ authorization, dispatcher.registered = some authorization →
    ∃ negotiated, dispatcher.session.negotiated = some negotiated ∧ negotiated.active = true ∧
      negotiated.authorization = authorization ∧
      sessions.sessions[authorization.sessionId]? = some authorization
  unregistered : dispatcher.registered = none →
    ∀ negotiated, dispatcher.session.negotiated = some negotiated → negotiated.active = false

theorem negotiateRequest_existing {state : Negotiating} (h : state.session.negotiated = some existing)
    (envelope : NegotiationRequestEnvelope) :
    BridgeSession.negotiateRequest contract source (.negotiate envelope) state =
      if existing.active = false then .error .sessionRevoked state
      else if existing.request = envelope then .ok existing.hello state
      else .error .conflictingNegotiation state := by
  unfold BridgeSession.negotiateRequest
  show EStateM.bind EStateM.get _ state = _
  simp only [EStateM.bind, get_apply, h]
  split
  · rfl
  split
  · rfl
  · rfl

theorem negotiateRequest_first {state : Negotiating} (h : state.session.negotiated = none)
    (envelope : NegotiationRequestEnvelope) :
    Holds (BridgeSession.negotiateRequest contract source (.negotiate envelope)) state
      (fun hello state' => ∃ negotiated : NegotiatedSession, negotiated.active = true ∧
        negotiated.request = envelope ∧ negotiated.hello = hello ∧
        DrawnAt source state.calls negotiated ∧
        state' = ⟨{ state.session with negotiated := some negotiated }, state.calls + 4⟩)
      (fun _ state' => state'.session = state.session ∧ state.calls ≤ state'.calls) := by
  unfold BridgeSession.negotiateRequest
  rw [holds_bind, holds_get, h]
  dsimp only
  rw [holds_bind, holds_zoom]
  apply holds_mono (issueSession_holds state.session.config envelope state.calls)
  · intro negotiated calls hissued
    obtain ⟨hcalls, hactive, hrequest, hdrawn⟩ := hissued
    rw [holds_bind, holds_modify, holds_pure]
    exact ⟨negotiated, hactive, hrequest, rfl, hdrawn, by rw [hcalls]⟩
  intro error calls hcalls
  exact ⟨rfl, hcalls⟩

variable {authorization : AuthorizedSession} {state : Dispatching} {registry registered : SessionRegistry}
  {negotiated : NegotiatedSession}

theorem authorizes_of_registered {sessions : SessionRegistry}
    (h : sessions.sessions[authorization.sessionId]? = some authorization) :
    sessions.authorizes authorization.sessionId authorization.authorizationEpoch = true := by
  unfold SessionRegistry.authorizes
  rw [h]
  exact decide_eq_true rfl

/-- What a negotiation changes: nothing, the calls it made, or a connection without a session. -/
inductive Negotiation (source : SessionIdentitySource) (envelope : NegotiationRequestEnvelope)
    (before after : Dispatching) : Except DispatchFailure ServerHello → Prop
  | replayed (negotiated : NegotiatedSession) :
    before.dispatcher.session.negotiated = some negotiated → negotiated.active = true →
    negotiated.request = envelope → after = before →
    Negotiation source envelope before after (.ok negotiated.hello)
  | refused (failure : DispatchFailure) : after.dispatcher = before.dispatcher →
    after.sessions = before.sessions → before.calls ≤ after.calls →
    Negotiation source envelope before after (.error failure)
  | created (negotiated : NegotiatedSession) (sessions : SessionRegistry) :
    before.dispatcher.session.negotiated = none → before.dispatcher.registered = none →
    negotiated.active = true → negotiated.request = envelope → DrawnAt source before.calls negotiated →
    before.sessions.register negotiated.authorization = .ok sessions →
    after = ⟨⟨{ before.dispatcher.session with negotiated := some negotiated },
      some negotiated.authorization⟩, sessions, before.calls + 4⟩ →
    Negotiation source envelope before after (.ok negotiated.hello)
  | unregistered (failure : DispatchFailure) (negotiated : NegotiatedSession) :
    before.dispatcher.session.negotiated = none → before.dispatcher.registered = none →
    negotiated.active = false → DrawnAt source before.calls negotiated →
    after = ⟨⟨{ before.dispatcher.session with negotiated := some negotiated }, none⟩,
      before.sessions, before.calls + 4⟩ →
    Negotiation source envelope before after (.error failure)

theorem registerSession_holds (hnegotiated : state.dispatcher.session.negotiated = some negotiated)
    (hactive : negotiated.active = true) :
    Holds ConnectionDispatcher.registerSession state
      (fun _ state' => ∃ sessions, state.sessions.register negotiated.authorization = .ok sessions ∧
        state' = { state with
          sessions := sessions
          dispatcher := { state.dispatcher with registered := some negotiated.authorization } })
      (fun _ state' => state' = { state with
        dispatcher := { state.dispatcher with session := state.dispatcher.session.revoke } }) := by
  have hauthorization : state.dispatcher.session.authorization = .ok negotiated.authorization := by
    unfold BridgeSession.authorization
    rw [hnegotiated]
    dsimp only
    rw [hactive]
    rfl
  unfold ConnectionDispatcher.registerSession
  rw [holds_bind, holds_get, holds_bind, hauthorization, holds_lift]
  constructor
  · intro authorization hok
    cases hok
    cases hregister : state.sessions.register negotiated.authorization with
    | error error => rfl
    | ok sessions => exact ⟨sessions, rfl, rfl⟩
  intro error herror
  cases herror

theorem revoke_negotiated {session : BridgeSession} (h : session.negotiated = some negotiated) :
    session.revoke = { session with negotiated := some { negotiated with active := false } } := by
  unfold BridgeSession.revoke
  rw [h]
  rfl

theorem dispatchNegotiation_existing (hsettled : Settled state.sessions state.dispatcher)
    (h : state.dispatcher.session.negotiated = some existing) (envelope : NegotiationRequestEnvelope) :
    ConnectionDispatcher.dispatchNegotiation contract source (.negotiate envelope) state =
      if existing.active = false then .error (.session .sessionRevoked) state
      else if existing.request = envelope then .ok existing.hello state
      else .error (.session .conflictingNegotiation) state := by
  have hnegotiate : BridgeSession.negotiateRequest contract source (.negotiate envelope)
      ⟨state.dispatcher.session, state.calls⟩ = _ :=
    negotiateRequest_existing h envelope
  by_cases hactive : existing.active = false
  · rw [if_pos hactive] at hnegotiate ⊢
    show (EStateM.bind (zoom _ _ _ _) _) state = _
    unfold EStateM.bind zoom
    rw [hnegotiate]
  rw [if_neg hactive] at hnegotiate ⊢
  by_cases hrequest : existing.request = envelope
  · rw [if_pos hrequest] at hnegotiate ⊢
    cases hregistered : state.dispatcher.registered with
    | none => exact absurd (hsettled.unregistered hregistered existing h) hactive
    | some authorization =>
      obtain ⟨_, _, _, _, hsession⟩ := hsettled.registered authorization hregistered
      show (EStateM.bind (zoom _ _ _ _) _) state = _
      unfold EStateM.bind zoom
      rw [hnegotiate]
      show EStateM.bind EStateM.get _ state = _
      simp only [EStateM.bind, get_apply, hregistered]
      rw [if_pos (authorizes_of_registered hsession)]
      rfl
  rw [if_neg hrequest] at hnegotiate ⊢
  show (EStateM.bind (zoom _ _ _ _) _) state = _
  unfold EStateM.bind zoom
  rw [hnegotiate]

theorem dispatchNegotiation_holds (hsettled : Settled state.sessions state.dispatcher)
    (envelope : NegotiationRequestEnvelope) :
    Holds (ConnectionDispatcher.dispatchNegotiation contract source (.negotiate envelope)) state
      (fun hello after => Negotiation source envelope state after (.ok hello))
      (fun failure after => Negotiation source envelope state after (.error failure)) := by
  cases hexisting : state.dispatcher.session.negotiated with
  | some existing =>
    have hresult : ConnectionDispatcher.dispatchNegotiation contract source (.negotiate envelope) state =
        _ := dispatchNegotiation_existing hsettled hexisting envelope
    unfold Holds
    rw [hresult]
    by_cases hactive : existing.active = false
    · rw [if_pos hactive]
      exact .refused _ rfl rfl (Nat.le_refl _)
    rw [if_neg hactive]
    by_cases hrequest : existing.request = envelope
    · rw [if_pos hrequest]
      have hactive : existing.active = true := by simpa using hactive
      exact .replayed existing hexisting hactive hrequest rfl
    rw [if_neg hrequest]
    exact .refused _ rfl rfl (Nat.le_refl _)
  | none =>
    have hunregistered : state.dispatcher.registered = none := by
      cases hregistered : state.dispatcher.registered with
      | none => rfl
      | some authorization =>
        obtain ⟨negotiated, hnegotiated, _⟩ := hsettled.registered authorization hregistered
        rw [hexisting] at hnegotiated
        cases hnegotiated
    have hfirst : Holds (BridgeSession.negotiateRequest contract source (.negotiate envelope))
        ⟨state.dispatcher.session, state.calls⟩ _ _ := negotiateRequest_first hexisting envelope
    unfold ConnectionDispatcher.dispatchNegotiation
    rw [holds_bind, holds_zoom]
    apply holds_mono hfirst
    · intro hello negotiating hmade
      obtain ⟨negotiated, hactive, hrequest, hhello, hdrawn, hstate⟩ := hmade
      rw [holds_bind, holds_get, hunregistered, hstate, ← hhello]
      dsimp only
      rw [holds_bind]
      apply holds_mono (registerSession_holds rfl hactive)
      · intro _ after hregistered
        obtain ⟨sessions, hregister, hafter⟩ := hregistered
        exact .created negotiated sessions hexisting hunregistered hactive hrequest hdrawn hregister hafter
      intro failure after hafter
      rw [revoke_negotiated rfl] at hafter
      have hrevoked : DrawnAt source state.calls { negotiated with active := false } := hdrawn
      refine .unregistered failure _ hexisting hunregistered rfl hrevoked ?_
      rw [hafter]
      dsimp only
      rw [hunregistered]
    · intro error negotiating hmade
      exact .refused _ (by rw [hmade.1]) rfl hmade.2

/-! The registry. -/

structure SessionRegistry.Bijective (registry : SessionRegistry) : Prop where
  forward : ∀ (sessionId : SessionId) (authorization : AuthorizedSession),
    registry.sessions[sessionId]? = some authorization →
      authorization.sessionId = sessionId ∧ registry.clients[authorization.clientId]? = some sessionId
  backward : ∀ (clientId : ClientId) (sessionId : SessionId), registry.clients[clientId]? = some sessionId →
    ∃ authorization, registry.sessions[sessionId]? = some authorization ∧ authorization.clientId = clientId

theorem SessionRegistry.register_ok (h : registry.register authorization = .ok registered) :
    registry.sessions[authorization.sessionId]? = none ∧
      registry.clients[authorization.clientId]? = none ∧
      registered.sessions = registry.sessions.insert authorization.sessionId authorization ∧
      registered.clients = registry.clients.insert authorization.clientId authorization.sessionId := by
  unfold SessionRegistry.register at h
  obtain ⟨_, hsession, h⟩ := bind_eq_ok h
  obtain ⟨_, hclient, h⟩ := bind_eq_ok h
  obtain ⟨_, _, h⟩ := bind_eq_ok h
  cases h
  exact ⟨Std.TreeMap.getElem?_eq_none (reject_eq_ok hsession),
    Std.TreeMap.getElem?_eq_none (reject_eq_ok hclient), rfl, rfl⟩

theorem SessionRegistry.Bijective.register (hbijective : registry.Bijective)
    (h : registry.register authorization = .ok registered) : registered.Bijective := by
  obtain ⟨hsession, hclient, hsessions, hclients⟩ := SessionRegistry.register_ok h
  constructor
  · intro sessionId found hfound
    rw [hsessions, getElem?_insert_of] at hfound
    rw [hclients, getElem?_insert_of]
    by_cases hsame : sessionId = authorization.sessionId
    · rw [if_pos hsame] at hfound
      cases hfound
      rw [if_pos rfl, hsame]
      exact ⟨rfl, rfl⟩
    rw [if_neg hsame] at hfound
    obtain ⟨hid, hname⟩ := hbijective.forward sessionId found hfound
    refine ⟨hid, ?_⟩
    rw [if_neg, hname]
    intro hother
    rw [hother, hclient] at hname
    cases hname
  intro clientId sessionId hfound
  rw [hclients, getElem?_insert_of] at hfound
  rw [hsessions]
  by_cases hsame : clientId = authorization.clientId
  · rw [if_pos hsame] at hfound
    cases hfound
    refine ⟨authorization, ?_, hsame.symm⟩
    rw [getElem?_insert_of, if_pos rfl]
  rw [if_neg hsame] at hfound
  obtain ⟨found, hin, hname⟩ := hbijective.backward clientId sessionId hfound
  refine ⟨found, ?_, hname⟩
  rw [getElem?_insert_of, if_neg, hin]
  intro hother
  rw [hother, hsession] at hin
  cases hin

theorem SessionRegistry.revoke_sessions (registry : SessionRegistry) (sessionId other : SessionId) :
    (registry.revoke sessionId).sessions[other]? =
      if other = sessionId then none else registry.sessions[other]? := by
  unfold SessionRegistry.revoke
  split
  next hnone =>
    by_cases hsame : other = sessionId
    · rw [if_pos hsame, hsame, hnone]
    · rw [if_neg hsame]
  next authorization hsome => exact getElem?_erase_of sessionId other

theorem SessionRegistry.Bijective.revoke (hbijective : registry.Bijective) (sessionId : SessionId)
    : (registry.revoke sessionId).Bijective := by
  cases hrevoked : registry.sessions[sessionId]? with
  | none =>
    have hsame : registry.revoke sessionId = registry := by
      unfold SessionRegistry.revoke
      rw [hrevoked]
    rw [hsame]
    exact hbijective
  | some authorization =>
    have hclients : (registry.revoke sessionId).clients = registry.clients.erase authorization.clientId := by
      unfold SessionRegistry.revoke
      rw [hrevoked]
    obtain ⟨hid, hname⟩ := hbijective.forward sessionId authorization hrevoked
    constructor
    · intro other found hfound
      rw [SessionRegistry.revoke_sessions] at hfound
      rw [hclients, getElem?_erase_of]
      by_cases hsame : other = sessionId
      · rw [if_pos hsame] at hfound
        cases hfound
      rw [if_neg hsame] at hfound
      obtain ⟨hotherId, hother⟩ := hbijective.forward other found hfound
      refine ⟨hotherId, ?_⟩
      rw [if_neg, hother]
      intro hclient
      rw [hclient, hname] at hother
      exact hsame (Option.some.inj hother).symm
    intro clientId other hfound
    rw [hclients, getElem?_erase_of] at hfound
    by_cases hsame : clientId = authorization.clientId
    · rw [if_pos hsame] at hfound
      cases hfound
    rw [if_neg hsame] at hfound
    obtain ⟨found, hin, hclient⟩ := hbijective.backward clientId other hfound
    refine ⟨found, ?_, hclient⟩
    rw [SessionRegistry.revoke_sessions, if_neg, hin]
    intro hother
    rw [hother, hrevoked] at hin
    cases hin
    exact hsame hclient.symm

end Sessions

end HyperfluxNext
