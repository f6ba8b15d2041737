import HyperfluxNext.Bridge.NativeRoutes
import HyperfluxNext.Library.NumberedLog
import HyperfluxNext.Library.OrderedMaps

namespace HyperfluxNext

open Procedure OrderedMaps NumberedLog List

/-- What a client makes of an event: a withdrawn route goes, any other is put in its place. -/
def NativeRouteEvent.applyTo (routes : Std.TreeMap NativeRouteKey NativeRoute)
    (event : NativeRouteEvent) : Std.TreeMap NativeRouteKey NativeRoute :=
  match event.kind with
  | .withdrawn => routes.erase event.route.key
  | _ => routes.insert event.route.key event.route

def replayRoutes (routes : Std.TreeMap NativeRouteKey NativeRoute) (events : List NativeRouteEvent) :
    Std.TreeMap NativeRouteKey NativeRoute :=
  events.foldl NativeRouteEvent.applyTo routes

theorem replayRoutes_append (routes : Std.TreeMap NativeRouteKey NativeRoute)
    (events more : List NativeRouteEvent) :
    replayRoutes routes (events ++ more) = replayRoutes (replayRoutes routes events) more :=
  foldl_append

theorem applyTo_lookup (routes : Std.TreeMap NativeRouteKey NativeRoute) (event : NativeRouteEvent)
    (key : NativeRouteKey) :
    (event.applyTo routes)[key]? = if key = event.route.key then
      (if event.kind = .withdrawn then none else some event.route) else routes[key]? := by
  unfold NativeRouteEvent.applyTo
  split
  next hkind => rw [getElem?_erase_of, if_pos hkind]
  next hkind => rw [getElem?_insert_of, if_neg hkind]

variable {routes : Std.TreeMap NativeRouteKey NativeRoute}

/-- The same start gives the same end. -/
theorem replayRoutes_congr {other : Std.TreeMap NativeRouteKey NativeRoute}
    (h : ∀ key : NativeRouteKey, routes[key]? = other[key]?) (events : List NativeRouteEvent)
    (key : NativeRouteKey) :
    (replayRoutes routes events)[key]? = (replayRoutes other events)[key]? := by
  induction events generalizing routes other with
  | nil => exact h key
  | cons event events ih =>
    refine ih ?_
    intro key
    rw [applyTo_lookup, applyTo_lookup, h key]

variable {announced more : List (NativeRouteEventKind × NativeRoute)} {kind : NativeRouteEventKind}
  {olds : List NativeRoute}

namespace NativeRouteJournal

/-- The events so far are numbered without a hole, and the journal holds the newest of them. -/
structure Recorded (history : List NativeRouteEvent) (journal : NativeRouteJournal) : Prop where
  window : Window (·.sequence.get) history journal.events
  latest : journal.latest.get = history.length
  held : journal.events.length = min journal.capacity history.length
  roomy : 1 ≤ journal.capacity

structure Announced (announced : List (NativeRouteEventKind × NativeRoute))
    (journal journal' : NativeRouteJournal) : Prop where
  stream : journal'.streamId = journal.streamId ∧ journal'.streamEpoch = journal.streamEpoch ∧
    journal'.projectionRevision = journal.projectionRevision
  current : journal'.current = journal.current
  recorded : ∀ history, Recorded history journal → ∃ events,
    events.map (fun event => (event.kind, event.route)) = announced ∧ Recorded (history ++ events) journal'

variable {journal journal' : NativeRouteJournal}

theorem Announced.nothing (h : journal' = { journal with returnEpochs := journal'.returnEpochs }) :
    Announced [] journal journal' := by
  rw [h]
  refine ⟨⟨rfl, rfl, rfl⟩, rfl, ?_⟩
  intro history hrecorded
  refine ⟨[], rfl, ?_⟩
  rw [append_nil]
  exact ⟨hrecorded.window, hrecorded.latest, hrecorded.held, hrecorded.roomy⟩

theorem Announced.trans {journal₁ journal₂ journal₃ : NativeRouteJournal}
    (h : Announced announced journal₁ journal₂) (h' : Announced more journal₂ journal₃)
    : Announced (announced ++ more) journal₁ journal₃ := by
  refine ⟨⟨h'.stream.1.trans h.stream.1, h'.stream.2.1.trans h.stream.2.1,
    h'.stream.2.2.trans h.stream.2.2⟩, h'.current.trans h.current, ?_⟩
  intro history hrecorded
  obtain ⟨events, hevents, hnext⟩ := h.recorded history hrecorded
  obtain ⟨events', hevents', hlast⟩ := h'.recorded _ hnext
  refine ⟨events ++ events', ?_, ?_⟩
  · rw [map_append, hevents, hevents']
  rw [← append_assoc]
  exact hlast

theorem append_announced {route : NativeRoute} (h : journal.append kind route = .ok journal') :
    Announced [(kind, route)] journal journal' := by
  unfold append at h
  split at h
  · cases h
  next sequence hsequence =>
    have hnumber := Bounded.get_of_tryFrom hsequence
    split at h
    next hfull =>
      split at h
      · cases h
      cases h
      refine ⟨⟨rfl, rfl, rfl⟩, rfl, ?_⟩
      intro history hrecorded
      have helement : sequence.get = history.length + 1 := by rw [hnumber, hrecorded.latest]
      have hheld := hrecorded.held
      have hroomy := hrecorded.roomy
      refine ⟨[⟨sequence, kind, route⟩], rfl, ?_, ?_, ?_, hrecorded.roomy⟩
      · exact hrecorded.window.push_drop helement
      · rw [length_append]
        exact helement
      simp only [length_append, length_drop, length_singleton]
      omega
    next hroom =>
      cases h
      refine ⟨⟨rfl, rfl, rfl⟩, rfl, ?_⟩
      intro history hrecorded
      have helement : sequence.get = history.length + 1 := by rw [hnumber, hrecorded.latest]
      have hheld := hrecorded.held
      refine ⟨[⟨sequence, kind, route⟩], rfl, ?_, ?_, ?_, hrecorded.roomy⟩
      · exact hrecorded.window.push helement
      · rw [length_append]
        exact helement
      simp only [length_append, length_singleton]
      omega

def incomingAnnounced (previous : Std.TreeMap NativeRouteKey NativeRoute) (routes : List NativeRoute) :
    List (NativeRouteEventKind × NativeRoute) :=
  routes.filterMap fun route => (incomingEvent previous route).map (·, route)

def withdrawnRoute (old : NativeRoute) : NativeRoute :=
  { old with routeState := .withdrawn, routeToken := none, resource := none }

def withdrawnAnnounced (incoming : Std.TreeMap NativeRouteKey NativeRoute) (olds : List NativeRoute) :
    List (NativeRouteEventKind × NativeRoute) :=
  olds.filterMap fun old => if old.key ∈ incoming then none else some (.withdrawn, withdrawnRoute old)

theorem incoming_announced {previous : Std.TreeMap NativeRouteKey NativeRoute} {routes : List NativeRoute}
    (h : routes.foldlM (appendIncoming previous) journal = .ok journal') :
    Announced (incomingAnnounced previous routes) journal journal' := by
  induction routes generalizing journal with
  | nil =>
    cases h
    exact .nothing rfl
  | cons route routes ih =>
    obtain ⟨next, hnext, hrest⟩ := bind_eq_ok h
    have htail := ih hrest
    unfold appendIncoming at hnext
    unfold incomingAnnounced
    rw [filterMap_cons]
    split at hnext
    next hnone =>
      cases hnext
      rw [hnone]
      exact htail
    next kind hkind =>
      rw [hkind]
      exact (append_announced hnext).trans htail

theorem withdrawn_announced {incoming : Std.TreeMap NativeRouteKey NativeRoute}
    (h : olds.foldlM (appendWithdrawn incoming) journal = .ok journal') :
    Announced (withdrawnAnnounced incoming olds) journal journal' := by
  induction olds generalizing journal with
  | nil =>
    cases h
    exact .nothing rfl
  | cons old olds ih =>
    obtain ⟨next, hnext, hrest⟩ := bind_eq_ok h
    have htail := ih hrest
    unfold appendWithdrawn at hnext
    unfold withdrawnAnnounced
    rw [filterMap_cons]
    split at hnext
    next hstays =>
      cases hnext
      rw [if_pos hstays]
      exact htail
    next hgone =>
      rw [if_neg hgone]
      exact (append_announced hnext).trans htail

theorem refresh_announced {generationId : GenerationId} {epoch : SequenceNumber}
    {entries : List (NativeRouteKey × NativeRoute)} {refreshed refreshed' : Nat × NativeRouteJournal}
    (h : entries.foldlM (refreshRoute generationId epoch) refreshed = .ok refreshed') :
    ∃ again : List NativeRoute, again ⊆ entries.map (·.2) ∧
      Announced (again.map (.available, ·)) refreshed.2 refreshed'.2 := by
  induction entries generalizing refreshed with
  | nil =>
    cases h
    exact ⟨[], List.Subset.refl _, .nothing rfl⟩
  | cons entry entries ih =>
    obtain ⟨next, hnext, hrest⟩ := bind_eq_ok h
    obtain ⟨again, hsubset, hannounced⟩ := ih hrest
    have hlater : again ⊆ (entry :: entries).map (·.2) := fun route hroute => mem_cons_of_mem _ (hsubset hroute)
    unfold refreshRoute at hnext
    dsimp only at hnext
    split at hnext
    · cases hnext
      exact ⟨again, hlater, hannounced⟩
    obtain ⟨journal, happend, hcount⟩ := bind_eq_ok hnext
    cases hcount
    have hremembered : Announced [] refreshed.2 { refreshed.2 with
      returnEpochs := refreshed.2.returnEpochs.insert entry.1 (generationId, epoch) } := .nothing rfl
    refine ⟨entry.2 :: again, ?_, (hremembered.trans (append_announced happend)).trans hannounced⟩
    intro route hroute
    obtain hsame | hrest := mem_cons.mp hroute
    · rw [hsame]
      exact mem_cons_self
    · exact hlater hrest

end NativeRouteJournal

section Replay

open NativeRouteJournal

/-- The events of a list of announcements, whatever their numbers. -/
def Announces (events : List NativeRouteEvent) (announced : List (NativeRouteEventKind × NativeRoute)) : Prop :=
  events.map (fun event => (event.kind, event.route)) = announced

variable {events : List NativeRouteEvent} {route : NativeRoute}

theorem Announces.cons (h : Announces events ((kind, route) :: announced)) :
    ∃ event rest, events = event :: rest ∧ event.kind = kind ∧ event.route = route ∧
      Announces rest announced := by
  obtain ⟨event, rest, hevents, hhead, hrest⟩ := map_eq_cons_iff.mp h
  exact ⟨event, rest, hevents, congrArg (·.1) hhead, congrArg (·.2) hhead, hrest⟩

theorem Announces.append (h : Announces events (announced ++ more)) :
    ∃ first second, events = first ++ second ∧ Announces first announced ∧ Announces second more := by
  obtain ⟨first, second, hevents, hfirst, hsecond⟩ := map_eq_append_iff.mp h
  exact ⟨first, second, hevents, hfirst, hsecond⟩

variable {previous incoming : Std.TreeMap NativeRouteKey NativeRoute}

theorem incomingEvent_none (h : incomingEvent previous route = none) : previous[route.key]? = some route := by
  unfold incomingEvent at h
  split at h
  · cases h
  next old hold =>
    split at h
    · cases h
    split at h
    · cases h
    next hsame =>
      rw [hold]
      exact congrArg some (not_not.mp hsame)

theorem incomingEvent_ne_withdrawn (h : incomingEvent previous route = some kind)
    (hstate : route.routeState ≠ .withdrawn) :
    kind ≠ .withdrawn := by
  have hown : routeEventKind route ≠ .withdrawn := by
    unfold routeEventKind
    cases hroute : route.routeState with
    | available | temporarilyUnavailable => exact fun heq => (by cases heq)
    | withdrawn => exact absurd hroute hstate
  unfold incomingEvent at h
  split at h
  · cases h
    exact hown
  split at h
  · cases h
    exact fun heq => (by cases heq)
  split at h
  · cases h
    exact hown
  · cases h

def Between (previous incoming routes : Std.TreeMap NativeRouteKey NativeRoute) : Prop :=
  ∀ key : NativeRouteKey, routes[key]? = previous[key]? ∨ routes[key]? = incoming[key]?

/-- The announcements of incoming routes bring them in and nothing else. -/
theorem replay_incoming {announcing : List NativeRoute}
    (h : Announces events (incomingAnnounced previous announcing))
    (hincoming : ∀ route ∈ announcing, incoming[route.key]? = some route ∧ route.routeState ≠ .withdrawn)
    (hbetween : Between previous incoming routes) :
    Between previous incoming (replayRoutes routes events) ∧
      (∀ key : NativeRouteKey, routes[key]? = incoming[key]? →
        (replayRoutes routes events)[key]? = incoming[key]?) ∧
      ∀ route ∈ announcing, (replayRoutes routes events)[route.key]? = incoming[route.key]? := by
  induction announcing generalizing events routes with
  | nil =>
    have hnil : events = [] := map_eq_nil_iff.mp h
    rw [hnil]
    exact ⟨hbetween, fun _ hkey => hkey, fun _ hmem => (by cases hmem)⟩
  | cons route announcing ih =>
    obtain ⟨hroute, hstate⟩ := hincoming route mem_cons_self
    have hrest : ∀ other ∈ announcing, incoming[other.key]? = some other ∧ other.routeState ≠ .withdrawn :=
      fun other hother => hincoming other (mem_cons_of_mem _ hother)
    have hstep : ∀ (later : List NativeRouteEvent) (next : Std.TreeMap NativeRouteKey NativeRoute),
        Announces later (incomingAnnounced previous announcing) → Between previous incoming next →
        (∀ key : NativeRouteKey, routes[key]? = incoming[key]? → next[key]? = incoming[key]?) →
        next[route.key]? = incoming[route.key]? →
        Between previous incoming (replayRoutes next later) ∧
          (∀ key : NativeRouteKey, routes[key]? = incoming[key]? →
            (replayRoutes next later)[key]? = incoming[key]?) ∧
          ∀ other ∈ route :: announcing, (replayRoutes next later)[other.key]? = incoming[other.key]? := by
      intro later next hlater hnext hkept hhere
      obtain ⟨hlast, hkeeps, hall⟩ := ih hlater hrest hnext
      refine ⟨hlast, fun key hkey => hkeeps key (hkept key hkey), ?_⟩
      intro other hother
      obtain hsame | hmem := mem_cons.mp hother
      · rw [hsame]
        exact hkeeps route.key hhere
      · exact hall other hmem
    unfold incomingAnnounced at h
    rw [filterMap_cons] at h
    cases hevent : incomingEvent previous route with
    | none =>
      rw [hevent] at h
      refine hstep events routes h hbetween (fun _ hkey => hkey) ?_
      have hold := incomingEvent_none hevent
      obtain hsame | hsame := hbetween route.key
      · rw [hsame, hold, hroute]
      · exact hsame
    | some kind =>
      rw [hevent] at h
      obtain ⟨event, later, hevents, hkind, heventRoute, hlater⟩ := h.cons
      have hupsert : ∀ key : NativeRouteKey, (event.applyTo routes)[key]? =
          if key = route.key then some route else routes[key]? := by
        intro key
        rw [applyTo_lookup, heventRoute, hkind, if_neg (incomingEvent_ne_withdrawn hevent hstate)]
      rw [hevents]
      refine hstep later (event.applyTo routes) hlater ?_ ?_ ?_
      · intro key
        rw [hupsert]
        by_cases hkey : key = route.key
        · rw [if_pos hkey, hkey, hroute]
          exact .inr rfl
        rw [if_neg hkey]
        exact hbetween key
      · intro key hsame
        rw [hupsert]
        by_cases hkey : key = route.key
        · rw [if_pos hkey, hkey, hroute]
        rw [if_neg hkey]
        exact hsame
      · rw [hupsert, if_pos rfl, hroute]

/-- The announcements of vanished routes take them out and nothing else. -/
theorem replay_withdrawn (h : Announces events (withdrawnAnnounced incoming olds))
    (hbetween : Between previous incoming routes) :
    Between previous incoming (replayRoutes routes events) ∧
      (∀ key : NativeRouteKey, routes[key]? = incoming[key]? →
        (replayRoutes routes events)[key]? = incoming[key]?) ∧
      ∀ old ∈ olds, old.key ∉ incoming → (replayRoutes routes events)[old.key]? = incoming[old.key]? := by
  induction olds generalizing events routes with
  | nil =>
    have hnil : events = [] := map_eq_nil_iff.mp h
    rw [hnil]
    exact ⟨hbetween, fun _ hkey => hkey, fun _ hmem => (by cases hmem)⟩
  | cons old olds ih =>
    unfold withdrawnAnnounced at h
    rw [filterMap_cons] at h
    by_cases hstays : old.key ∈ incoming
    · rw [if_pos hstays] at h
      obtain ⟨hlast, hkeeps, hall⟩ := ih h hbetween
      refine ⟨hlast, hkeeps, ?_⟩
      intro other hother hgone
      obtain hsame | hmem := mem_cons.mp hother
      · rw [hsame] at hgone
        exact absurd hstays hgone
      · exact hall other hmem hgone
    rw [if_neg hstays] at h
    obtain ⟨event, later, hevents, hkind, hroute, hlater⟩ := Announces.cons h
    have hkey : event.route.key = old.key := by
      rw [hroute]
      rfl
    have hnone : incoming[old.key]? = none := Std.TreeMap.getElem?_eq_none hstays
    have herase : ∀ key : NativeRouteKey, (event.applyTo routes)[key]? =
        if key = old.key then none else routes[key]? := by
      intro key
      rw [applyTo_lookup, hkey, hkind, if_pos rfl]
    have hnext : Between previous incoming (event.applyTo routes) := by
      intro key
      rw [herase]
      by_cases heq : key = old.key
      · rw [if_pos heq, heq, hnone]
        exact .inr rfl
      rw [if_neg heq]
      exact hbetween key
    have hkept : ∀ key : NativeRouteKey, routes[key]? = incoming[key]? →
        (event.applyTo routes)[key]? = incoming[key]? := by
      intro key hsame
      rw [herase]
      by_cases heq : key = old.key
      · rw [if_pos heq, heq, hnone]
      rw [if_neg heq]
      exact hsame
    have hhere : (event.applyTo routes)[old.key]? = incoming[old.key]? := by
      rw [herase, if_pos rfl, hnone]
    obtain ⟨hlast, hkeeps, hall⟩ := ih hlater hnext
    rw [hevents]
    refine ⟨hlast, fun key hsame => hkeeps key (hkept key hsame), ?_⟩
    intro other hother hgone
    obtain hsame | hmem := mem_cons.mp hother
    · rw [hsame]
      exact hkeeps old.key hhere
    · exact hall other hmem hgone

end Replay

end HyperfluxNext
