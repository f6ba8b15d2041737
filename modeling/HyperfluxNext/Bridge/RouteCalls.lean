import HyperfluxNext.Bridge.RouteReads
import HyperfluxNext.Bridge.RouteTokens

namespace HyperfluxNext

open Procedure OrderedMaps RuntimeIdentityIssuer NativeRouteJournal List

structure JournalState where
  journal : NativeRouteJournal
  identities : RuntimeIdentityIssuer

/-- A call to the journal, or an identity that the backend takes for something else. -/
inductive RouteCall where
  | synchronize (routes : List NativeRoute)
  | refresh (receiverId : ReceiverId) (generationId : GenerationId) (deviceId : LogicalDeviceId)
      (epoch : SequenceNumber)
  | issue

namespace RouteCall

/-- The caller keeps a promise about the routes it offers. -/
def Offers (promise : NativeRoute → Prop) : RouteCall → Prop
  | synchronize routes => ∀ route ∈ routes, promise route
  | refresh _ _ _ _ => True
  | issue => True

theorem offers_any (call : RouteCall) : call.Offers fun _ => True := by
  cases call with
  | synchronize => exact fun _ _ => trivial
  | refresh | issue => trivial

variable [RouteTokenDigest]

def run (state : JournalState) (call : RouteCall) : JournalState :=
  match call with
  | .synchronize routes =>
    match state.journal.synchronize state.identities routes with
    | .error _ => state
    | .ok (journal, identities) => ⟨journal, identities⟩
  | .refresh receiverId generationId deviceId epoch =>
    match state.journal.refreshForReturnEpoch receiverId generationId deviceId epoch with
    | .error _ => state
    | .ok (_, journal) => { state with journal := journal }
  | .issue => { state with identities := Procedure.final takeSequence state.identities }

end RouteCall

def NativeRoute.Unwithdrawn (route : NativeRoute) : Prop := route.routeState ≠ .withdrawn

def NativeRoute.FullReport (route : NativeRoute) : Prop := route.writable = true → route.reportBytes * 2 = 180

def routeRun [RouteTokenDigest] (start : JournalState) (calls : List RouteCall) : JournalState :=
  calls.foldl RouteCall.run start

theorem routeRun_append [RouteTokenDigest] (start : JournalState) (calls more : List RouteCall) :
    routeRun start (calls ++ more) = routeRun (routeRun start calls) more :=
  foldl_append

namespace NativeRouteJournal

/-- The authority of a route says what its access and its state say. -/
structure WellBound (route : NativeRoute) : Prop where
  token : route.routeToken.isSome = route.writable
  resource : route.resource = if route.writable then some (nativeResource route) else none

variable {route raw : NativeRoute} {journal' : NativeRouteJournal} {events : List NativeRouteEvent}
  {previous : Std.TreeMap NativeRouteKey NativeRoute}

theorem WellBound.valid (h : WellBound route) (hreport : route.FullReport) : validateNativeRoute route = .ok () := by
  have hresource := h.resource
  have htoken := h.token
  unfold validateNativeRoute
  cases hopen : route.writable with
  | false =>
    rw [hopen] at hresource htoken
    rw [hresource, htoken]
    rfl
  | true =>
    rw [hopen] at hresource htoken
    have hsize : ¬ (route.reportBytes * 2 ≠ 180) := not_not.mpr (hreport hopen)
    rw [hresource, htoken]
    simp [reject, nativeResource, hsize]
    rfl

theorem BoundTo.wellBound (h : BoundTo raw route) : WellBound route := by
  have hown : nativeResource route = nativeResource raw := by
    rw [h.same]
    rfl
  refine ⟨?_, ?_⟩
  · rw [h.token, h.writable]
  · rw [h.resource, h.writable, hown]

theorem BoundTo.unwithdrawn (h : BoundTo raw route) (hstate : raw.Unwithdrawn) : route.Unwithdrawn := by
  unfold NativeRoute.Unwithdrawn
  rw [h.same]
  exact hstate

theorem BoundTo.fullReport (h : BoundTo raw route) (hreport : raw.FullReport) : route.FullReport := by
  have hbytes : route.reportBytes = raw.reportBytes := by rw [h.same]
  unfold NativeRoute.FullReport
  rw [h.writable, hbytes]
  exact hreport

theorem withdrawnRoute_closed (old : NativeRoute) : (withdrawnRoute old).writable = false := by
  unfold NativeRoute.writable withdrawnRoute
  simp

theorem withdrawnRoute_wellBound (old : NativeRoute) : WellBound (withdrawnRoute old) := by
  refine ⟨?_, ?_⟩
  · rw [withdrawnRoute_closed]
    rfl
  · rw [withdrawnRoute_closed]
    rfl

theorem withdrawnRoute_fullReport (old : NativeRoute) : (withdrawnRoute old).FullReport := by
  intro hopen
  rw [withdrawnRoute_closed] at hopen
  cases hopen

theorem routeEventKind_matches (route : NativeRoute) :
    nativeEventMatchesRoute (routeEventKind route) route.routeState = true := by
  unfold routeEventKind
  cases route.routeState <;> rfl

theorem incomingEvent_matches {kind : NativeRouteEventKind} (h : incomingEvent previous route = some kind) :
    nativeEventMatchesRoute kind route.routeState = true := by
  unfold incomingEvent at h
  split at h
  · cases h
    exact routeEventKind_matches route
  split at h
  · cases h
    rfl
  split at h
  · cases h
    exact routeEventKind_matches route
  · cases h

theorem eventsSound_of_announces {announced : List (NativeRouteEventKind × NativeRoute)}
    (h : Announces events announced) (hsound : ∀ entry ∈ announced,
      nativeEventMatchesRoute entry.1 entry.2.routeState = true ∧ WellBound entry.2 ∧ entry.2.FullReport) :
    EventsSound events := by
  intro event hevent
  have hmem : (event.kind, event.route) ∈ announced := by
    have hannounced : events.map (fun event => (event.kind, event.route)) = announced := h
    rw [← hannounced]
    exact mem_map_of_mem hevent
  obtain ⟨hmatches, hbound, hreport⟩ := hsound _ hmem
  exact ⟨hmatches, hbound.valid hreport⟩

theorem EventsSound.append {history : List NativeRouteEvent} (h : EventsSound history) (h' : EventsSound events)
    : EventsSound (history ++ events) := by
  intro event hevent
  obtain hold | hnew := mem_append.mp hevent
  · exact h event hold
  · exact h' event hnew

/-- The routes and tokens of the journal are in order. It is what the events so far amount to when no
withdrawn route was offered, and the events are sound when the reports offered were. -/
structure RouteSound (processPrefix : String) [RouteTokenDigest] (promise : NativeRoute → Prop)
    (history : List NativeRouteEvent) (state : JournalState) : Prop where
  recorded : Recorded history state.journal
  replayed : (∀ route, promise route → route.Unwithdrawn) →
    ∀ key : NativeRouteKey, (replayRoutes ∅ history)[key]? = state.journal.current[key]?
  current : ∀ (key : NativeRouteKey) (route : NativeRoute), state.journal.current[key]? = some route →
    route.key = key ∧ ∃ raw, promise raw ∧ BoundTo raw route
  sound : (∀ route, promise route → route.FullReport) → EventsSound history
  held : TokensHeld state.journal state.identities
  issuer : state.identities.processPrefix = processPrefix

structure RouteStepped [RouteTokenDigest] (state state' : JournalState) : Prop where
  stream : state'.journal.streamId = state.journal.streamId ∧
    state'.journal.streamEpoch = state.journal.streamEpoch ∧
    state'.journal.projectionRevision = state.journal.projectionRevision
  advanced : RuntimeIdentityIssuer.Advanced state.identities state'.identities
  tokens : ∀ (key : NativeRouteKey) (route : NativeRoute) (token : NativeRouteToken),
    state'.journal.current[key]? = some route → route.routeToken = some token →
    (∃ previous, state.journal.current[key]? = some previous ∧
      previous.generationId = route.generationId ∧ previous.routeToken = some token) ∨
    IssuedIn state.identities.processPrefix state.identities.nextSequence state'.identities.nextSequence token

theorem RouteStepped.refl [RouteTokenDigest] (state : JournalState) : RouteStepped state state :=
  ⟨⟨rfl, rfl, rfl⟩, .refl _, fun _ route _ hroute htoken => .inl ⟨route, hroute, rfl, htoken⟩⟩

variable [RouteTokenDigest] {journal : NativeRouteJournal} {identities' : RuntimeIdentityIssuer}

/-- What a synchronize that went through did. -/
structure Synchronized (journal : NativeRouteJournal) (identities : RuntimeIdentityIssuer)
    (routes : List NativeRoute) (journal' : NativeRouteJournal) (identities' : RuntimeIdentityIssuer) :
    Prop where
  bound : Bound journal routes identities identities' journal'.current
  announced : Announced (incomingAnnounced journal.current (journal'.current.toList.map (·.2)) ++
    withdrawnAnnounced journal'.current journal.routes) journal { journal' with current := journal.current }

theorem synchronize_ok {identities : RuntimeIdentityIssuer} {routes : List NativeRoute}
    (hdiffer : TokensDiffer identities.processPrefix) (hheld : TokensHeld journal identities)
    (h : journal.synchronize identities routes = .ok (journal', identities')) :
    Synchronized journal identities routes journal' identities' := by
  unfold NativeRouteJournal.synchronize at h
  split at h
  · cases h
  have hbound := bindRoutes_bound hdiffer hheld routes (Bound.nothing journal identities)
  unfold Holds at hbound
  split at h
  · cases h
  next incoming issuer hbind =>
    rw [hbind] at hbound
    obtain ⟨arrived, harrived, hrest⟩ := bind_eq_ok h
    obtain ⟨announced, hannounced, hlast⟩ := bind_eq_ok hrest
    cases hlast
    have hwhole := (incoming_announced harrived).trans (withdrawn_announced hannounced)
    have hlater : Announced [] announced { announced with
        current := journal.current
        returnEpochs := announced.returnEpochs.filter fun key epoch =>
          incoming[key]?.any fun route => route.generationId = epoch.1 ∧ route.writable } := by
      apply Announced.nothing
      rw [← hwhole.current]
    have hall := hwhole.trans hlater
    rw [append_nil] at hall
    exact ⟨hbound, hall⟩

section
omit [RouteTokenDigest]

variable {routes incoming : Std.TreeMap NativeRouteKey NativeRoute}

theorem mem_values (h : route ∈ routes.toList.map (·.2))
    : ∃ key : NativeRouteKey, routes[key]? = some route := by
  obtain ⟨entry, hentry, heq⟩ := mem_map.mp h
  obtain ⟨key, found⟩ := entry
  rw [← heq]
  exact ⟨key, Std.TreeMap.mem_toList_iff_getElem?_eq_some.mp hentry⟩

theorem value_mem {key : NativeRouteKey} (h : routes[key]? = some route) : route ∈ routes.toList.map (·.2) :=
  mem_map.mpr ⟨(key, route), Std.TreeMap.mem_toList_iff_getElem?_eq_some.mpr h, rfl⟩

/-- Announcing what came and what went turns the earlier routes into the incoming ones. -/
theorem replay_synchronized (hprevious : ∀ (key : NativeRouteKey) (route : NativeRoute),
      journal.current[key]? = some route → route.key = key)
    (hincoming : ∀ (key : NativeRouteKey) (route : NativeRoute), incoming[key]? = some route →
      route.key = key ∧ route.routeState ≠ .withdrawn)
    (h : Announces events (incomingAnnounced journal.current (incoming.toList.map (·.2)) ++
      withdrawnAnnounced incoming journal.routes))
    (hroutes : ∀ key : NativeRouteKey, routes[key]? = journal.current[key]?) (key : NativeRouteKey) :
    (replayRoutes routes events)[key]? = incoming[key]? := by
  obtain ⟨arrivals, departures, hevents, harrivals, hdepartures⟩ := h.append
  have hannounced : ∀ route ∈ incoming.toList.map (·.2),
      incoming[route.key]? = some route ∧ route.routeState ≠ .withdrawn := by
    intro route hroute
    obtain ⟨own, hown⟩ := mem_values hroute
    obtain ⟨hkey, hstate⟩ := hincoming own route hown
    rw [hkey]
    exact ⟨hown, hstate⟩
  have hbetween : Between journal.current incoming routes := fun key => .inl (hroutes key)
  obtain ⟨hbetween', _, harrived⟩ := replay_incoming harrivals hannounced hbetween
  obtain ⟨hlast, hkeeps, hgone⟩ := replay_withdrawn hdepartures hbetween'
  rw [hevents, replayRoutes_append]
  cases hkey : incoming[key]? with
  | some route =>
    have hown := (hincoming key route hkey).1
    have hhere := harrived route (value_mem hkey)
    rw [hown] at hhere
    rw [hkeeps key hhere, hkey]
  | none =>
    cases hold : journal.current[key]? with
    | some old =>
      have hown := hprevious key old hold
      have hnot : old.key ∉ incoming := by
        rw [hown, Std.TreeMap.mem_iff_isSome_getElem?, hkey]
        exact Bool.false_ne_true
      have hhere := hgone old (value_mem hold) hnot
      rw [hown, hkey] at hhere
      exact hhere
    | none =>
      obtain hsame | hsame := hlast key
      · rw [hsame, hold]
      · rw [hsame, hkey]

theorem incomingAnnounced_sound {routes : List NativeRoute}
    (hbound : ∀ route ∈ routes, WellBound route ∧ route.FullReport) :
    ∀ entry ∈ incomingAnnounced previous routes,
      nativeEventMatchesRoute entry.1 entry.2.routeState = true ∧ WellBound entry.2 ∧ entry.2.FullReport := by
  intro entry hentry
  obtain ⟨route, hroute, hevent⟩ := mem_filterMap.mp hentry
  obtain ⟨kind, hkind, heq⟩ := Option.map_eq_some_iff.mp hevent
  rw [← heq]
  exact ⟨incomingEvent_matches hkind, hbound route hroute⟩

theorem withdrawnAnnounced_sound {olds : List NativeRoute} : ∀ entry ∈ withdrawnAnnounced incoming olds,
      nativeEventMatchesRoute entry.1 entry.2.routeState = true ∧ WellBound entry.2 ∧ entry.2.FullReport := by
  intro entry hentry
  obtain ⟨old, _, hevent⟩ := mem_filterMap.mp hentry
  split at hevent
  · cases hevent
  cases hevent
  exact ⟨rfl, withdrawnRoute_wellBound old, withdrawnRoute_fullReport old⟩

end

variable {processPrefix : String} {promise : NativeRoute → Prop} {history : List NativeRouteEvent} {state : JournalState}
  {receiverId : ReceiverId} {generationId : GenerationId} {deviceId : LogicalDeviceId} {epoch : SequenceNumber}
  {count : Nat}

theorem Synchronized.step (hsound : RouteSound processPrefix promise history state) {routes : List NativeRoute}
    (hoffers : (RouteCall.synchronize routes).Offers promise)
    (h : Synchronized state.journal state.identities routes journal' identities') :
    (∃ events, RouteSound processPrefix promise (history ++ events) ⟨journal', identities'⟩) ∧
      RouteStepped state ⟨journal', identities'⟩ := by
  obtain ⟨events, hannounces, hrecorded⟩ := h.announced.recorded history hsound.recorded
  have hcurrent : ∀ (key : NativeRouteKey) (route : NativeRoute),
      journal'.current[key]? = some route → route.key = key ∧ ∃ raw, promise raw ∧ BoundTo raw route := by
    intro key route hroute
    obtain ⟨hkey, raw, hraw, hboundTo⟩ := h.bound.bound key route hroute
    exact ⟨hkey, raw, hoffers raw hraw, hboundTo⟩
  have htokens : ∀ (key : NativeRouteKey) (route : NativeRoute) (token : NativeRouteToken),
      journal'.current[key]? = some route → route.routeToken = some token →
      (∃ previous, state.journal.current[key]? = some previous ∧
        previous.generationId = route.generationId ∧ previous.routeToken = some token) ∨
      IssuedIn state.identities.processPrefix state.identities.nextSequence identities'.nextSequence token := by
    intro key route token hroute htoken
    obtain hkept | hfresh := h.bound.tokens key route token hroute htoken
    · obtain ⟨previous, hprevious, hgeneration, _, hsame⟩ := keptToken_current hkept
      rw [(hcurrent key route hroute).1] at hprevious
      exact .inl ⟨previous, hprevious, hgeneration, hsame⟩
    · exact .inr hfresh
  have hissued : ∀ (key : NativeRouteKey) (route : NativeRoute) (token : NativeRouteToken),
      journal'.current[key]? = some route → route.routeToken = some token →
      IssuedIn identities'.processPrefix 0 identities'.nextSequence token := by
    intro key route token hroute htoken
    rw [h.bound.advanced.processPrefix]
    obtain ⟨previous, hprevious, _, hsame⟩ | hfresh := htokens key route token hroute htoken
    · exact (hsound.held.issued key previous token hprevious hsame).mono (Nat.le_refl _) h.bound.advanced.later
    · exact hfresh.mono (Nat.zero_le _) (Nat.le_refl _)
  refine ⟨⟨events, ?_, ?_, hcurrent, ?_, ⟨hissued, h.bound.apart⟩, ?_⟩,
    h.announced.stream, h.bound.advanced, htokens⟩
  · exact ⟨hrecorded.window, hrecorded.latest, hrecorded.held, hrecorded.roomy⟩
  · intro hunwithdrawn key
    rw [replayRoutes_append]
    refine replay_synchronized (fun key route hroute => (hsound.current key route hroute).1) ?_
      hannounces (hsound.replayed hunwithdrawn) key
    intro key route hroute
    obtain ⟨hkey, raw, hraw, hboundTo⟩ := hcurrent key route hroute
    exact ⟨hkey, hboundTo.unwithdrawn (hunwithdrawn raw hraw)⟩
  · intro hreports
    apply (hsound.sound hreports).append
    apply eventsSound_of_announces hannounces
    intro entry hentry
    obtain harrived | hgone := mem_append.mp hentry
    · refine incomingAnnounced_sound ?_ entry harrived
      intro route hroute
      obtain ⟨key, hkey⟩ := mem_values hroute
      obtain ⟨_, raw, hraw, hboundTo⟩ := hcurrent key route hkey
      exact ⟨hboundTo.wellBound, hboundTo.fullReport (hreports raw hraw)⟩
    · exact withdrawnAnnounced_sound entry hgone
  · exact h.bound.advanced.processPrefix.trans hsound.issuer

section
omit [RouteTokenDigest]

theorem replay_again {current : Std.TreeMap NativeRouteKey NativeRoute} {again : List NativeRoute}
    (hagain : ∀ route ∈ again, current[route.key]? = some route)
    (h : Announces events (again.map (.available, ·))) {routes : Std.TreeMap NativeRouteKey NativeRoute}
    (hroutes : ∀ key : NativeRouteKey, routes[key]? = current[key]?) (key : NativeRouteKey) :
    (replayRoutes routes events)[key]? = current[key]? := by
  induction again generalizing events routes with
  | nil =>
    have hnil : events = [] := map_eq_nil_iff.mp h
    rw [hnil]
    exact hroutes key
  | cons route again ih =>
    obtain ⟨event, rest, hevents, hkind, hroute, hrest⟩ := Announces.cons h
    have hnext : ∀ key : NativeRouteKey, (event.applyTo routes)[key]? = current[key]? := by
      intro key
      rw [applyTo_lookup, hroute, hkind]
      by_cases hkey : key = route.key
      · rw [if_pos hkey, hkey, hagain route mem_cons_self]
        rfl
      · rw [if_neg hkey, hroutes key]
    rw [hevents]
    exact ih (fun other hother => hagain other (mem_cons_of_mem _ hother)) hrest hnext

/-- What is announced again are current routes that are available. -/
theorem refreshForReturnEpoch_ok {journal' : NativeRouteJournal}
    (h : journal.refreshForReturnEpoch receiverId generationId deviceId epoch = .ok (count, journal')) :
    ∃ again : List NativeRoute,
      (∀ route ∈ again, route.writable = true ∧ ∃ key : NativeRouteKey, journal.current[key]? = some route) ∧
      Announced (again.map (.available, ·)) journal journal' := by
  obtain ⟨again, hsubset, hannounced⟩ := refresh_announced h
  refine ⟨again, ?_, hannounced⟩
  intro route hroute
  obtain ⟨entry, hentry, heq⟩ := mem_map.mp (hsubset hroute)
  obtain ⟨hmem, hchosen⟩ := mem_filter.mp hentry
  obtain ⟨_, _, _, hopen⟩ := of_decide_eq_true hchosen
  rw [← heq]
  exact ⟨hopen, entry.1, Std.TreeMap.mem_toList_iff_getElem?_eq_some.mp hmem⟩

end

theorem refreshed_step (hsound : RouteSound processPrefix promise history state)
    (h : state.journal.refreshForReturnEpoch receiverId generationId deviceId epoch = .ok (count, journal')) :
    (∃ events, RouteSound processPrefix promise (history ++ events) { state with journal := journal' }) ∧
      RouteStepped state { state with journal := journal' } := by
  obtain ⟨again, hagain, hannounced⟩ := refreshForReturnEpoch_ok h
  obtain ⟨events, hannounces, hrecorded⟩ := hannounced.recorded history hsound.recorded
  have hsame := hannounced.current
  have hlookup : ∀ key : NativeRouteKey, journal'.current[key]? = state.journal.current[key]? := by
    intro key
    rw [hsame]
  refine ⟨⟨events, hrecorded, ?_, ?_, ?_, ⟨?_, ?_⟩, hsound.issuer⟩, hannounced.stream, .refl _, ?_⟩
  · intro hunwithdrawn key
    rw [replayRoutes_append, hlookup]
    refine replay_again ?_ hannounces (hsound.replayed hunwithdrawn) key
    intro route hroute
    obtain ⟨_, own, hown⟩ := hagain route hroute
    rw [(hsound.current own route hown).1, hown]
  · intro key route hroute
    rw [hlookup] at hroute
    exact hsound.current key route hroute
  · intro hreports
    apply (hsound.sound hreports).append
    apply eventsSound_of_announces hannounces
    intro entry hentry
    obtain ⟨route, hroute, heq⟩ := mem_map.mp hentry
    obtain ⟨hopen, own, hown⟩ := hagain route hroute
    have hstate : route.routeState = .available := by
      unfold NativeRoute.writable at hopen
      exact (of_decide_eq_true hopen).2
    obtain ⟨_, raw, hraw, hboundTo⟩ := hsound.current own route hown
    rw [← heq]
    refine ⟨?_, hboundTo.wellBound, hboundTo.fullReport (hreports raw hraw)⟩
    rw [hstate]
    rfl
  · intro key route token hroute htoken
    rw [hlookup] at hroute
    exact hsound.held.issued key route token hroute htoken
  · intro key other route found token hroute hfound
    rw [hlookup] at hroute hfound
    exact hsound.held.apart key other route found token hroute hfound
  intro key route token hroute htoken
  rw [hlookup] at hroute
  exact .inl ⟨route, hroute, rfl, htoken⟩

theorem issued_step (hsound : RouteSound processPrefix promise history state) :
    RouteSound processPrefix promise history
        { state with identities := Procedure.final takeSequence state.identities } ∧
      RouteStepped state { state with identities := Procedure.final takeSequence state.identities } := by
  have hadvanced : RuntimeIdentityIssuer.Advanced state.identities (Procedure.final takeSequence state.identities) := by
    apply holds_final
    refine holds_mono takeSequence_advanced ?_ ?_
    · intro _ after hafter
      exact ⟨hafter.2.1, by omega⟩
    intro _ after hafter
    rw [hafter]
    exact .refl _
  refine ⟨⟨hsound.recorded, hsound.replayed, hsound.current, hsound.sound, ⟨?_, hsound.held.apart⟩,
    hadvanced.processPrefix.trans hsound.issuer⟩, ⟨rfl, rfl, rfl⟩, hadvanced, ?_⟩
  · intro key route token hroute htoken
    have hissued := hsound.held.issued key route token hroute htoken
    rw [← hadvanced.processPrefix] at hissued
    exact hissued.mono (Nat.le_refl _) hadvanced.later
  intro key route token hroute htoken
  exact .inl ⟨route, hroute, rfl, htoken⟩

theorem routeCall_step (hdiffer : TokensDiffer processPrefix)
    (hsound : RouteSound processPrefix promise history state) {call : RouteCall} (hoffers : call.Offers promise) :
    (∃ events, RouteSound processPrefix promise (history ++ events) (call.run state)) ∧
      RouteStepped state (call.run state) := by
  have hunchanged : (∃ events, RouteSound processPrefix promise (history ++ events) state) ∧
      RouteStepped state state := by
    refine ⟨⟨[], ?_⟩, .refl state⟩
    rw [append_nil]
    exact hsound
  cases call with
  | synchronize routes =>
    unfold RouteCall.run
    dsimp only
    split
    · exact hunchanged
    next journal identities hok =>
      rw [← hsound.issuer] at hdiffer
      exact (synchronize_ok hdiffer hsound.held hok).step hsound hoffers
  | refresh receiverId generationId deviceId epoch =>
    unfold RouteCall.run
    dsimp only
    split
    · exact hunchanged
    next count journal hok => exact refreshed_step hsound hok
  | issue =>
    obtain ⟨hissued, hstepped⟩ := issued_step hsound
    refine ⟨⟨[], ?_⟩, hstepped⟩
    rw [append_nil]
    exact hissued

end NativeRouteJournal

end HyperfluxNext
