import HyperfluxNext.Bridge.RouteCalls

namespace HyperfluxNext

open Procedure OrderedMaps RuntimeIdentityIssuer NativeRouteJournal List

variable {calls : List RouteCall}

namespace NativeRouteJournal

variable [RouteTokenDigest]

variable {processPrefix : String} {promise : NativeRoute → Prop} {history : List NativeRouteEvent} {state : JournalState}
  {baseStreamId : StreamId} {streamEpoch : StreamEpoch} {projectionRevision : ProjectionRevision}
  {capacity : Nat} {journal : NativeRouteJournal}

theorem routeRun_sound (hdiffer : TokensDiffer processPrefix) (hsound : RouteSound processPrefix promise history state)
    (hoffers : ∀ call ∈ calls, call.Offers promise) :
    ∃ events, RouteSound processPrefix promise (history ++ events) (routeRun state calls) := by
  induction calls generalizing history state with
  | nil =>
    refine ⟨[], ?_⟩
    rw [append_nil]
    exact hsound
  | cons call calls ih =>
    obtain ⟨⟨events, hnext⟩, _⟩ := routeCall_step hdiffer hsound (hoffers call mem_cons_self)
    obtain ⟨more, hlast⟩ := ih hnext fun other hother => hoffers other (mem_cons_of_mem _ hother)
    refine ⟨events ++ more, ?_⟩
    rw [← append_assoc]
    exact hlast

omit [RouteTokenDigest] in
theorem new_recorded [RouteStreamDigest]
    (h : new baseStreamId streamEpoch projectionRevision capacity = .ok journal) :
    Recorded [] journal ∧ journal.current = ∅ := by
  unfold NativeRouteJournal.new at h
  split at h
  · cases h
  next hcapacity =>
    split at h
    · cases h
    cases h
    exact ⟨⟨.nil, rfl, (Nat.min_zero _).symm, (not_not.mp hcapacity).1⟩, rfl⟩

theorem new_sound [RouteStreamDigest]
    (h : new baseStreamId streamEpoch projectionRevision capacity = .ok journal)
    (identities : RuntimeIdentityIssuer) :
    RouteSound identities.processPrefix promise [] ⟨journal, identities⟩ := by
  obtain ⟨hrecorded, hempty⟩ := new_recorded h
  have hnone : ∀ (key : NativeRouteKey) (route : NativeRoute), journal.current[key]? = some route → False := by
    intro key route hroute
    rw [hempty, Std.TreeMap.getElem?_emptyc] at hroute
    cases hroute
  refine ⟨hrecorded, ?_, fun key route hroute => (hnone key route hroute).elim, ?_,
    ⟨fun key route _ hroute => (hnone key route hroute).elim,
      fun key _ route _ _ hroute => (hnone key route hroute).elim⟩, rfl⟩
  · intro _ key
    rw [hempty]
    rfl
  intro _ event hevent
  cases hevent

end NativeRouteJournal

def NativeRouteInventory.byKey (inventory : NativeRouteInventory) : Std.TreeMap NativeRouteKey NativeRoute :=
  Std.TreeMap.ofList (inventory.routes.map fun route => (route.key, route))

/-- A client that takes the inventory at one time, follows the events from its cursor while calls go
on, and meets no gap. -/
inductive Watches [RouteTokenDigest] (start : JournalState) :
    List RouteCall → EventCursor → Std.TreeMap NativeRouteKey NativeRoute → Prop where
  | inventory (calls : List RouteCall) :
      Watches start calls (routeRun start calls).journal.inventory.cursor
        (routeRun start calls).journal.inventory.byKey
  | call {calls : List RouteCall} {cursor : EventCursor}
      {routes : Std.TreeMap NativeRouteKey NativeRoute} (call : RouteCall) :
      Watches start calls cursor routes → Watches start (calls ++ [call]) cursor routes
  | read {calls : List RouteCall} {cursor : EventCursor}
      {routes : Std.TreeMap NativeRouteKey NativeRoute} {subscriptionId : SubscriptionId}
      {request : SubscriptionRequest} {batch : NativeRouteEventBatch} :
      Watches start calls cursor routes → request.expectedCursor = some cursor →
      (routeRun start calls).journal.read subscriptionId request = .ok batch →
      batch.cursorGap = false →
      Watches start calls batch.nextCursor (replayRoutes routes batch.events)

variable {cursor : EventCursor} {routes : Std.TreeMap NativeRouteKey NativeRoute}

namespace NativeRouteJournal

variable [RouteTokenDigest]

variable {processPrefix : String} {promise : NativeRoute → Prop} {start : JournalState}

structure Follows (history : List NativeRouteEvent) (journal : NativeRouteJournal) (cursor : EventCursor)
    (routes : Std.TreeMap NativeRouteKey NativeRoute) : Prop where
  stream : cursor.streamId = journal.streamId ∧ cursor.streamEpoch = journal.streamEpoch ∧
    cursor.projectionRevision = journal.projectionRevision
  inside : cursor.sequence.get ≤ history.length
  routes : ∀ key : NativeRouteKey, routes[key]? = (replayRoutes ∅ (history.take cursor.sequence.get))[key]?

omit [RouteTokenDigest] in
theorem byKey_lookup {journal : NativeRouteJournal}
    (hkeyed : ∀ (key : NativeRouteKey) (route : NativeRoute),
      journal.current[key]? = some route → route.key = key) (key : NativeRouteKey) :
    journal.inventory.byKey[key]? = journal.current[key]? := by
  have hentries : journal.inventory.routes.map (fun route => (route.key, route)) = journal.current.toList := by
    show (journal.current.toList.map (·.2)).map (fun route => (route.key, route)) = journal.current.toList
    rw [map_map]
    refine (map_congr_left ?_).trans (map_id _)
    intro entry hentry
    have hfound : journal.current[entry.1]? = some entry.2 :=
      Std.TreeMap.mem_toList_iff_getElem?_eq_some.mp hentry
    exact Prod.ext (hkeyed entry.1 entry.2 hfound) rfl
  unfold NativeRouteInventory.byKey
  rw [hentries]
  exact getElem?_ofList_toList journal.current key

theorem watches_follows (hdiffer : TokensDiffer processPrefix) (hstart : RouteSound processPrefix promise [] start)
    (hunwithdrawn : ∀ route, promise route → route.Unwithdrawn)
    (h : Watches start calls cursor routes) (hoffers : ∀ call ∈ calls, call.Offers promise) :
    ∃ history, RouteSound processPrefix promise history (routeRun start calls) ∧
      Follows history (routeRun start calls).journal cursor routes := by
  induction h with
  | inventory calls =>
    obtain ⟨history, hsound⟩ := routeRun_sound hdiffer hstart hoffers
    rw [nil_append] at hsound
    have hlatest := hsound.recorded.latest
    refine ⟨history, hsound, ⟨rfl, rfl, rfl⟩, Nat.le_of_eq hlatest, ?_⟩
    intro key
    have hcursor : (routeRun start calls).journal.inventory.cursor.sequence.get = history.length := hlatest
    rw [hcursor, take_length, hsound.replayed hunwithdrawn,
      byKey_lookup fun key route hroute => (hsound.current key route hroute).1]
  | @call calls cursor routes call h ih =>
    obtain ⟨history, hsound, hfollows⟩ := ih fun other hother => hoffers other (mem_append_left _ hother)
    have hlast := hoffers call (mem_append_right _ mem_cons_self)
    obtain ⟨⟨events, hnext⟩, hstepped⟩ := routeCall_step hdiffer hsound hlast
    rw [routeRun_append]
    obtain ⟨hstreamId, hstreamEpoch, hrevision⟩ := hstepped.stream
    obtain ⟨hsameId, hsameEpoch, hsameRevision⟩ := hfollows.stream
    have hinside := hfollows.inside
    refine ⟨history ++ events, hnext, ⟨hsameId.trans hstreamId.symm, hsameEpoch.trans hstreamEpoch.symm,
      hsameRevision.trans hrevision.symm⟩, ?_, ?_⟩
    · rw [length_append]
      omega
    intro key
    rw [take_append_of_le_length hinside]
    exact hfollows.routes key
  | @read calls cursor routes subscriptionId request batch h hcursor hread hgap ih =>
    obtain ⟨history, hsound, hfollows⟩ := ih hoffers
    have hof := read_of hread
    have hnone : (routeRun start calls).journal.cursorGap request = false := by
      rw [← hof.gap]
      exact hgap
    have hrequested : requested request = cursor.sequence.get := by
      unfold requested
      rw [hcursor]
    have hnext := hsound.recorded.next hof hnone
    have hevents := hof.events.trans (hsound.recorded.batch_eq hnone)
    have hinside := hfollows.inside
    rw [hrequested] at hnext hevents
    refine ⟨history, hsound, hof.stream, by omega, ?_⟩
    intro key
    have htake : history.take batch.nextCursor.sequence.get =
        history.take cursor.sequence.get ++ batch.events := by
      rw [hnext, take_add, hevents]
      congr 1
      rw [take_eq_take_iff, length_drop]
      omega
    rw [htake, replayRoutes_append]
    exact replayRoutes_congr hfollows.routes batch.events key

end NativeRouteJournal

def TokenOn (state : JournalState) (key : NativeRouteKey) (generationId : GenerationId)
    (token : NativeRouteToken) : Prop :=
  ∃ route ∈ state.journal.inventory.routes,
    route.key = key ∧ route.generationId = generationId ∧ route.routeToken = some token

namespace NativeRouteJournal

variable [RouteTokenDigest]

variable {processPrefix : String} {promise : NativeRoute → Prop} {history : List NativeRouteEvent} {state : JournalState}
  {key : NativeRouteKey} {generationId : GenerationId} {token : NativeRouteToken} {route : NativeRoute}

theorem RouteSound.mem_inventory (h : RouteSound processPrefix promise history state) :
    route ∈ state.journal.inventory.routes ↔ state.journal.current[route.key]? = some route := by
  constructor
  · intro hmem
    obtain ⟨own, hown⟩ := mem_values hmem
    rw [(h.current own route hown).1]
    exact hown
  intro hfound
  exact value_mem hfound

theorem RouteSound.tokenOn_iff (h : RouteSound processPrefix promise history state) :
    TokenOn state key generationId token ↔ ∃ route, state.journal.current[key]? = some route ∧
      route.generationId = generationId ∧ route.routeToken = some token := by
  constructor
  · intro hthere
    obtain ⟨route, hmem, hkey, hgeneration, htoken⟩ := hthere
    rw [h.mem_inventory, hkey] at hmem
    exact ⟨route, hmem, hgeneration, htoken⟩
  intro hfound
  obtain ⟨route, hroute, hgeneration, htoken⟩ := hfound
  exact ⟨route, value_mem hroute, (h.current key route hroute).1, hgeneration, htoken⟩

section

variable (hdiffer : TokensDiffer processPrefix)
include hdiffer

theorem routeRun_advanced
    (hsound : RouteSound processPrefix promise history state) (hoffers : ∀ call ∈ calls, call.Offers promise) :
    RuntimeIdentityIssuer.Advanced state.identities (routeRun state calls).identities := by
  induction calls generalizing history state with
  | nil => exact .refl _
  | cons call calls ih =>
    obtain ⟨⟨events, hnext⟩, hstepped⟩ := routeCall_step hdiffer hsound (hoffers call mem_cons_self)
    have hrest := ih hnext fun other hother => hoffers other (mem_cons_of_mem _ hother)
    exact hstepped.advanced.trans hrest

theorem tokenOn_earlier (hsound : RouteSound processPrefix promise history state)
    (hoffers : ∀ call ∈ calls, call.Offers promise) (h : TokenOn (routeRun state calls) key generationId token) :
    TokenOn state key generationId token ∨ IssuedIn processPrefix state.identities.nextSequence
      (routeRun state calls).identities.nextSequence token := by
  induction calls generalizing history state with
  | nil => exact .inl h
  | cons call calls ih =>
    obtain ⟨⟨events, hnext⟩, hstepped⟩ := routeCall_step hdiffer hsound (hoffers call mem_cons_self)
    have hrest : ∀ other ∈ calls, other.Offers promise := fun other hother => hoffers other (mem_cons_of_mem _ hother)
    have hlater := (routeRun_advanced hdiffer hnext hrest).later
    obtain hthere | hissued := ih hnext hrest h
    · obtain ⟨route, hroute, hgeneration, htoken⟩ := hnext.tokenOn_iff.mp hthere
      obtain ⟨previous, hprevious, hsame, hprevToken⟩ | hissued := hstepped.tokens key route token hroute htoken
      · exact .inl (hsound.tokenOn_iff.mpr ⟨previous, hprevious, hsame.trans hgeneration, hprevToken⟩)
      rw [hsound.issuer] at hissued
      exact .inr (hissued.mono (Nat.le_refl _) hlater)
    · exact .inr (hissued.mono hstepped.advanced.later (Nat.le_refl _))

theorem tokenOn_between (hsound : RouteSound processPrefix promise history state)
    {more : List RouteCall} (hoffers : ∀ call ∈ calls ++ more, call.Offers promise)
    (h : TokenOn state key generationId token) {key' : NativeRouteKey} {generationId' : GenerationId}
    (h' : TokenOn (routeRun state (calls ++ more)) key' generationId' token) :
    key' = key ∧ generationId' = generationId ∧ TokenOn (routeRun state calls) key generationId token := by
  have hfirst : ∀ call ∈ calls, call.Offers promise := fun call hcall => hoffers call (mem_append_left _ hcall)
  have hrest : ∀ call ∈ more, call.Offers promise := fun call hcall => hoffers call (mem_append_right _ hcall)
  obtain ⟨events, hmiddle⟩ := routeRun_sound hdiffer hsound hfirst
  obtain ⟨route, hroute, hgeneration, htoken⟩ := hsound.tokenOn_iff.mp h
  have hold := hsound.held.issued key route token hroute htoken
  rw [hsound.issuer] at hold
  have hlater := (routeRun_advanced hdiffer hsound hfirst).later
  rw [routeRun_append] at h'
  have hbound := (routeRun (routeRun state calls) more).identities.representable
  obtain hthere | hfresh := tokenOn_earlier hdiffer hmiddle hrest h'
  · obtain hhere | hfresh := tokenOn_earlier hdiffer hsound hfirst hthere
    · obtain ⟨found, hfound, hsame, hfoundToken⟩ := hsound.tokenOn_iff.mp hhere
      have hkey : key' = key := hsound.held.apart key' key found route token hfound hroute hfoundToken htoken
      rw [hkey, hroute] at hfound
      have hgeneration' : generationId' = generationId := by
        rw [← hsame, ← hgeneration, Option.some.inj hfound]
      rw [hkey, hgeneration'] at hthere
      exact ⟨hkey, hgeneration', hthere⟩
    have hmiddleBound := (routeRun state calls).identities.representable
    exact (hold.apart hdiffer (Nat.le_refl _) hmiddleBound hfresh).elim
  · exact (hold.apart hdiffer hlater hbound hfresh).elim

/-- The token stays when a route is offered again that still may be written. -/
theorem synchronize_keeps
    (hsound : RouteSound processPrefix promise history state) {routes : List NativeRoute}
    (hoffers : (RouteCall.synchronize routes).Offers promise) {previous : NativeRoute} (hroute : route ∈ routes)
    (hopen : route.writable = true) (hprevious : previous ∈ state.journal.inventory.routes)
    (hkey : previous.key = route.key) (hgeneration : previous.generationId = route.generationId)
    (hwritable : previous.writable = true) (htoken : previous.routeToken = some token) :
    TokenOn (RouteCall.run state (.synchronize routes)) route.key route.generationId token := by
  obtain ⟨⟨events, hnext⟩, _⟩ := routeCall_step hdiffer hsound hoffers
  have hcurrent := hsound.mem_inventory.mp hprevious
  rw [hkey] at hcurrent
  rw [hnext.tokenOn_iff]
  unfold RouteCall.run
  dsimp only
  split
  · exact ⟨previous, hcurrent, hgeneration, htoken⟩
  next journal identities hok =>
    rw [← hsound.issuer] at hdiffer
    have hbound := (synchronize_ok hdiffer hsound.held hok).bound
    obtain ⟨bound, hfound, hboundTo⟩ := hbound.all route hroute
    have hkept : state.journal.keptToken bound = some token := by
      rw [hboundTo.keptToken, keptToken_of_current hcurrent hgeneration hwritable, htoken]
    have hboundOpen : bound.writable = true := hboundTo.writable.trans hopen
    refine ⟨bound, hfound, ?_, hbound.kept _ bound token hfound hboundOpen hkept⟩
    rw [hboundTo.same]

end

end NativeRouteJournal

/-- The events are numbered without a hole, a route has a token exactly when it is qualified and
available, and every read of the own subscription gives a batch. -/
structure RoutesInOrder (journal : NativeRouteJournal) : Prop where
  contiguous : journal.events.map (·.sequence.get) =
    List.range' (journal.latest.get - journal.events.length + 1) journal.events.length
  tokens : ∀ route ∈ journal.inventory.routes, (∃ token, route.routeToken = some token) ↔
    route.access = .qualified ∧ route.routeState = .available
  reads : ∀ subscriptionId request,
    (∀ expected, request.subscriptionId = some expected → expected = subscriptionId) →
    ∃ batch, journal.read subscriptionId request = .ok batch

/-- Every batch passes the check of the wire. -/
def BatchesValid (journal : NativeRouteJournal) : Prop :=
  ∀ subscriptionId request batch, journal.read subscriptionId request = .ok batch →
    validateNativeRouteEventBatch batch = .ok ()

/-- A client that has caught up has the inventory, and meets a gap only when an event that it has not
read was dropped. -/
def FollowsExactly (journal : NativeRouteJournal) (cursor : EventCursor)
    (routes : Std.TreeMap NativeRouteKey NativeRoute) : Prop :=
  ∀ subscriptionId request batch, request.expectedCursor = some cursor →
    journal.read subscriptionId request = .ok batch →
    (batch.cursorGap = true ↔ cursor.sequence.get < journal.oldest.get - 1) ∧
    (batch.cursorGap = false → batch.hasMore = false →
      (replayRoutes routes batch.events).toList.map (·.2) = journal.inventory.routes)

structure TokensKept [RouteTokenDigest] (state : JournalState) : Prop where
  synchronize : ∀ routes, ∀ route ∈ routes, ∀ previous ∈ state.journal.inventory.routes, previous.key = route.key →
    previous.generationId = route.generationId → previous.writable = true → route.writable = true →
    ∀ token, previous.routeToken = some token →
      TokenOn (RouteCall.run state (.synchronize routes)) route.key route.generationId token
  refresh : ∀ receiverId generationId deviceId epoch,
    (RouteCall.run state (.refresh receiverId generationId deviceId epoch)).journal.inventory.routes =
      state.journal.inventory.routes

namespace NativeRouteJournal

section

variable {history : List NativeRouteEvent} {journal : NativeRouteJournal} {request : SubscriptionRequest}

theorem read_total {subscriptionId : SubscriptionId}
    (h : ∀ expected, request.subscriptionId = some expected → expected = subscriptionId) :
    ∃ batch, journal.read subscriptionId request = .ok batch := by
  have hmatches : ¬ (request.subscriptionId.any (· ≠ subscriptionId)) = true := by
    intro hany
    obtain ⟨expected, hexpected, hdifferent⟩ := (Option.any_eq_true _ _).mp hany
    exact of_decide_eq_true hdifferent (h expected hexpected)
  have hrequested : requested request ≤ u64Max := by
    unfold requested
    split
    · exact Nat.zero_le _
    next cursor _ => exact cursor.sequence.upper
  have hnext : (((journal.batchEvents request).getLast?.map (·.sequence.get)).getD
      (requested request)) ≤ u64Max := by
    cases (journal.batchEvents request).getLast? with
    | none => exact hrequested
    | some event => exact event.sequence.upper
  unfold NativeRouteJournal.read
  rw [if_neg hmatches]
  dsimp only
  rw [Bounded.tryFrom, dif_pos ⟨Nat.zero_le _, hnext⟩]
  exact ⟨_, rfl⟩

theorem Recorded.contiguous (h : Recorded history journal) : journal.events.map (·.sequence.get) =
    List.range' (journal.latest.get - journal.events.length + 1) journal.events.length := by
  rw [h.latest]
  exact h.window.window_numbers

end

variable [RouteTokenDigest]

variable {processPrefix : String} {promise : NativeRoute → Prop} {history : List NativeRouteEvent} {state : JournalState}

theorem RouteSound.inOrder (h : RouteSound processPrefix promise history state) : RoutesInOrder state.journal := by
  refine ⟨h.recorded.contiguous, ?_, fun _ _ => read_total⟩
  intro route hroute
  obtain ⟨_, _, _, hbound⟩ := h.current route.key route (h.mem_inventory.mp hroute)
  rw [← Option.isSome_iff_exists, hbound.wellBound.token]
  exact decide_eq_true_iff

theorem RouteSound.batchesValid (h : RouteSound processPrefix promise history state)
    (hreports : ∀ route, promise route → route.FullReport) : BatchesValid state.journal :=
  fun _ _ _ hread => h.recorded.batch_valid (h.sound hreports) hread

theorem Follows.exactly (h : RouteSound processPrefix promise history state)
    (hunwithdrawn : ∀ route, promise route → route.Unwithdrawn)
    (hfollows : Follows history state.journal cursor routes) :
    FollowsExactly state.journal cursor routes := by
  intro subscriptionId request batch hcursor hread
  have hof := read_of hread
  have hinside := hfollows.inside
  have hrequested : requested request = cursor.sequence.get := by
    unfold requested
    rw [hcursor]
  have hmatches : state.journal.streamMismatch request = false := by
    unfold streamMismatch
    rw [hcursor]
    simp [hfollows.stream]
  refine ⟨?_, ?_⟩
  · rw [hof.gap, h.recorded.gap_iff, h.recorded.oldest_pred, hmatches, hrequested]
    constructor
    · intro hgap
      obtain hgap | hgap | hgap := hgap
      · cases hgap
      · exact hgap
      · omega
    intro hdropped
    exact .inr (.inl hdropped)
  intro hgap hmore
  have hnone : state.journal.cursorGap request = false := by
    rw [← hof.gap]
    exact hgap
  have hnext := h.recorded.next hof hnone
  have hlatest := h.recorded.latest
  have hevents := hof.events.trans (h.recorded.batch_eq hnone)
  rw [hof.more, hnone] at hmore
  simp only [Bool.not_false, Bool.true_and, decide_eq_false_iff_not] at hmore
  rw [hrequested] at hnext hevents
  -- The batch goes up to the latest event.
  have hwhole : history.take cursor.sequence.get ++ batch.events = history := by
    have hall : batch.events = history.drop cursor.sequence.get := by
      rw [hevents]
      apply take_of_length_le
      rw [length_drop]
      omega
    rw [hall]
    exact take_append_drop _ _
  have hlookup : ∀ key : NativeRouteKey,
      (replayRoutes routes batch.events)[key]? = state.journal.current[key]? := by
    intro key
    rw [replayRoutes_congr hfollows.routes, ← replayRoutes_append, hwhole]
    exact h.replayed hunwithdrawn key
  rw [toList_eq_of_lookup hlookup]
  rfl

theorem RouteSound.kept (hdiffer : TokensDiffer processPrefix)
    (h : RouteSound processPrefix (fun _ => True) history state) : TokensKept state := by
  refine ⟨?_, ?_⟩
  · intro routes route hroute previous hprevious hkey hgeneration hwritable hopen token htoken
    exact synchronize_keeps hdiffer h (RouteCall.offers_any _) hroute hopen hprevious hkey hgeneration
      hwritable htoken
  intro receiverId generationId deviceId epoch
  unfold RouteCall.run
  dsimp only
  split
  · rfl
  next count journal hok =>
    obtain ⟨again, _, hannounced⟩ := refreshForReturnEpoch_ok hok
    have hsame : journal.current = state.journal.current := hannounced.current
    show journal.current.toList.map (·.2) = state.journal.current.toList.map (·.2)
    rw [hsame]

end NativeRouteJournal

/-- Whatever the calls, the journal is in order, and a token that is there at two times was on the same
route and generation all along. Its batches are valid when the writable routes offered have full reports,
and a client's replay is the inventory when no withdrawn route was offered. -/
theorem nativeRouteJournal_run [RouteStreamDigest] [RouteTokenDigest] {baseStreamId : StreamId}
    {streamEpoch : StreamEpoch} {projectionRevision : ProjectionRevision} {capacity : Nat}
    {journal : NativeRouteJournal} {identities : RuntimeIdentityIssuer}
    (hnew : NativeRouteJournal.new baseStreamId streamEpoch projectionRevision capacity = .ok journal)
    (hdiffer : TokensDiffer identities.processPrefix) :
    (∀ calls,
      RoutesInOrder (routeRun ⟨journal, identities⟩ calls).journal ∧
      TokensKept (routeRun ⟨journal, identities⟩ calls) ∧
      ((∀ call ∈ calls, call.Offers NativeRoute.FullReport) →
        BatchesValid (routeRun ⟨journal, identities⟩ calls).journal) ∧
      ((∀ call ∈ calls, call.Offers NativeRoute.Unwithdrawn) →
        ∀ cursor routes, Watches ⟨journal, identities⟩ calls cursor routes →
          FollowsExactly (routeRun ⟨journal, identities⟩ calls).journal cursor routes)) ∧
    ∀ before between after key generationId token key' generationId',
      TokenOn (routeRun ⟨journal, identities⟩ before) key generationId token →
      TokenOn (routeRun ⟨journal, identities⟩ (before ++ between ++ after)) key' generationId' token →
      key' = key ∧ generationId' = generationId ∧
        TokenOn (routeRun ⟨journal, identities⟩ (before ++ between)) key generationId token := by
  have hany : ∀ calls : List RouteCall, ∀ call ∈ calls, call.Offers fun _ => True :=
    fun _ call _ => call.offers_any
  constructor
  · intro calls
    obtain ⟨history, hsound⟩ := routeRun_sound hdiffer (new_sound hnew identities) (hany calls)
    refine ⟨hsound.inOrder, hsound.kept hdiffer, ?_, ?_⟩
    · intro hreports
      obtain ⟨reported, hreported⟩ := routeRun_sound hdiffer (new_sound hnew identities) hreports
      exact hreported.batchesValid fun _ => id
    intro hunwithdrawn cursor routes hwatches
    obtain ⟨followed, hfollowed, hfollows⟩ :=
      watches_follows hdiffer (new_sound hnew identities) (fun _ => id) hwatches hunwithdrawn
    exact hfollows.exactly hfollowed fun _ => id
  intro before between after key generationId token key' generationId' hearly hlate
  obtain ⟨history, hsound⟩ := routeRun_sound hdiffer (new_sound hnew identities) (hany before)
  rw [append_assoc, routeRun_append] at hlate
  rw [routeRun_append]
  exact tokenOn_between hdiffer hsound (hany _) hearly hlate

abbrev sampleTokenDigest : RouteTokenDigest := ⟨fun _ sequence => sampleDigits sequence⟩

abbrev sampleStreamDigest : RouteStreamDigest := ⟨fun _ => String.ofList (hexDigits 64 0)⟩

theorem sampleTokenDigest_differ (processPrefix : String) : @TokensDiffer sampleTokenDigest processPrefix :=
  fun _ _ ha hb h => sampleDigits_injective ha hb h

def sampleOffered : NativeRoute where
  receiverId := .lit "receiver"
  generationId := .lit 1
  deviceId := .lit "mouse"
  endpointId := .lit "pointer"
  deviceKind := .mouse
  vendorId := .lit 5426
  productId := .lit 205
  routeState := .available
  access := .qualified
  protocolFamily := .lit "family"
  reportBytes := 90
  routeToken := none
  resource := none

def sampleJournal : NativeRouteJournal :=
  ⟨⟨"native-routes-" ++ String.ofList (hexDigits 64 0), by decide +kernel, by decide +kernel⟩,
    .lit 1, .lit 1, 2, ∅, [], .lit 0,
    .lit 0, ∅⟩

def sampleRouteStart : JournalState := ⟨sampleJournal, RuntimeIdentityIssuer.new (List.replicate 16 0)⟩

theorem sampleJournal_new : @NativeRouteJournal.new sampleStreamDigest (.lit "events")
    (.lit 1) (.lit 1) 2 = .ok sampleJournal := by
  rfl

def sampleRouteCalls : List RouteCall :=
  [.synchronize [sampleOffered],
    .refresh sampleOffered.receiverId sampleOffered.generationId sampleOffered.deviceId
      (.lit 5),
    .synchronize [{ sampleOffered with routeState := .temporarilyUnavailable }], .issue,
    .synchronize [sampleOffered]]

/-- A route is offered, announced again, unavailable and offered once more, in a journal of two
events. -/
theorem nativeRouteJournal_run_sample :
    let _ := sampleTokenDigest
    (BatchesValid (routeRun sampleRouteStart sampleRouteCalls).journal ∧
      FollowsExactly (routeRun sampleRouteStart sampleRouteCalls).journal
        (routeRun sampleRouteStart (sampleRouteCalls.take 2)).journal.inventory.cursor
        (routeRun sampleRouteStart (sampleRouteCalls.take 2)).journal.inventory.byKey) ∧
    TokenOn (routeRun sampleRouteStart (sampleRouteCalls.take 1)) sampleOffered.key
      sampleOffered.generationId (sampleDigits 1) ∧
    ¬ TokenOn (routeRun sampleRouteStart sampleRouteCalls) sampleOffered.key
      sampleOffered.generationId (sampleDigits 1) := by
  let _ := sampleTokenDigest
  have hrun := @nativeRouteJournal_run sampleStreamDigest sampleTokenDigest _ _ _ _ _
    sampleRouteStart.identities sampleJournal_new (sampleTokenDigest_differ _)
  have hoffers : ∀ call ∈ sampleRouteCalls,
      call.Offers NativeRoute.FullReport ∧ call.Offers NativeRoute.Unwithdrawn := by
    intro call hcall
    simp only [sampleRouteCalls, mem_cons, not_mem_nil, or_false] at hcall
    obtain hcall | hcall | hcall | hcall | hcall := hcall
    all_goals
      rw [hcall]
      unfold RouteCall.Offers NativeRoute.FullReport NativeRoute.Unwithdrawn
      decide +kernel
  have hthere : TokenOn (routeRun sampleRouteStart (sampleRouteCalls.take 1)) sampleOffered.key
        sampleOffered.generationId (sampleDigits 1) ∧
      ¬ TokenOn (routeRun sampleRouteStart (sampleRouteCalls.take 4)) sampleOffered.key
        sampleOffered.generationId (sampleDigits 1) := by
    unfold TokenOn
    decide +kernel
  obtain ⟨_, _, hvalid, hfollows⟩ := hrun.1 sampleRouteCalls
  refine ⟨⟨hvalid fun call hcall => (hoffers call hcall).1, ?_⟩, hthere.1, ?_⟩
  · have hwatches : Watches sampleRouteStart (sampleRouteCalls.take 2) _ _ := .inventory _
    exact hfollows (fun call hcall => (hoffers call hcall).2) _ _ (.call _ (.call _ (.call _ hwatches)))
  intro hlast
  exact hthere.2 (hrun.2 (sampleRouteCalls.take 1) ((sampleRouteCalls.take 4).drop 1)
    (sampleRouteCalls.drop 4) _ _ _ _ _ hthere.1 hlast).2.2

def withdrawnCall : RouteCall := .synchronize [{ sampleOffered with routeState := .withdrawn }]

def shortCall : RouteCall := .synchronize [{ sampleOffered with reportBytes := 64 }]

def firstRead : SubscriptionRequest := ⟨.lit "client", none, some sampleJournal.cursor, .lit 1⟩

/-- A route that is offered as withdrawn is in the inventory, although its event removes it, and the
event of a writable route with a shorter report is refused by the check of the wire. -/
theorem withdrawn_offer_not_replayed :
    let _ := sampleTokenDigest
    (¬ ∀ calls cursor routes, Watches sampleRouteStart calls cursor routes →
      FollowsExactly (routeRun sampleRouteStart calls).journal cursor routes) ∧
    ¬ ∀ calls, BatchesValid (routeRun sampleRouteStart calls).journal := by
  let _ := sampleTokenDigest
  constructor
  · intro h
    have hwatches : Watches sampleRouteStart ([] ++ [withdrawnCall]) _ _ := .call _ (.inventory [])
    have hread : ∃ batch, (routeRun sampleRouteStart [withdrawnCall]).journal.read (.lit "events") firstRead =
        .ok batch ∧ batch.cursorGap = false ∧ batch.hasMore = false ∧
        (replayRoutes sampleJournal.inventory.byKey batch.events).toList.map (·.2) ≠
          (routeRun sampleRouteStart [withdrawnCall]).journal.inventory.routes := by
      refine ⟨_, rfl, ?_⟩
      decide +kernel
    obtain ⟨batch, hbatch, hgap, hmore, hdiffer⟩ := hread
    exact hdiffer ((h _ _ _ hwatches (.lit "events") firstRead batch rfl hbatch).2 hgap hmore)
  intro h
  have hread : ∃ batch, (routeRun sampleRouteStart [shortCall]).journal.read (.lit "events") firstRead =
      .ok batch ∧ validateNativeRouteEventBatch batch ≠ .ok () := by
    refine ⟨_, rfl, ?_⟩
    decide +kernel
  obtain ⟨batch, hbatch, hinvalid⟩ := hread
  exact hinvalid (h [shortCall] _ _ _ hbatch)

end HyperfluxNext
