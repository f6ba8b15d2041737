import HyperfluxNext.Bridge.RouteReplay

namespace HyperfluxNext

open Procedure NumberedLog List

namespace NativeRouteJournal

section Reads

variable {history : List NativeRouteEvent} {journal : NativeRouteJournal} {request : SubscriptionRequest}
  {subscriptionId : SubscriptionId} {batch : NativeRouteEventBatch}

section

variable (h : Recorded history journal)
include h

/-- The oldest event that is left comes right after the dropped ones. -/
theorem Recorded.oldest_pred : journal.oldest.get - 1 = history.length - journal.events.length := by
  have hheld := h.held
  have hroomy := h.roomy
  have hnumbers := h.window.window_numbers
  have hlatest := h.latest
  unfold oldest
  cases hevents : journal.events with
  | nil =>
    rw [hevents, length_nil] at hheld
    simp only [head?_nil, length_nil]
    omega
  | cons event rest =>
    rw [hevents, map_cons, length_cons, List.range'_succ] at hnumbers
    obtain ⟨hnumber, _⟩ := List.cons.inj hnumbers
    simp only [head?_cons, length_cons]
    omega

theorem Recorded.oldest_le : journal.oldest.get ≤ journal.latest.get := by
  have hheld := h.held
  have hroomy := h.roomy
  have hpred := h.oldest_pred
  have hlatest := h.latest
  by_cases hempty : history.length = 0
  · have hnil : journal.events = [] := eq_nil_of_length_eq_zero (by omega)
    unfold oldest
    rw [hnil]
    exact Nat.le_refl _
  · omega

theorem Recorded.gap_iff :
    journal.cursorGap request = true ↔
    journal.streamMismatch request = true ∨
      requested request < history.length - journal.events.length ∨
      history.length < requested request := by
  unfold cursorGap
  rw [decide_eq_true_iff, h.oldest_pred, h.latest]

theorem Recorded.inside (hgap : journal.cursorGap request = false) :
    history.length - journal.events.length ≤ requested request ∧ requested request ≤ history.length := by
  have hnot : ¬ (journal.streamMismatch request = true ∨
      requested request < history.length - journal.events.length ∨
      history.length < requested request) := by
    rw [← h.gap_iff, hgap]
    exact Bool.false_ne_true
  omega

theorem Recorded.batch_eq (hgap : journal.cursorGap request = false) :
    journal.batchEvents request = (history.drop (requested request)).take request.maxEvents.get := by
  unfold batchEvents
  rw [if_neg (Bool.not_eq_true _ ▸ hgap), h.window.after (h.inside hgap).1]

end

/-- What a read returns, field by field. -/
structure ReadOf (journal : NativeRouteJournal) (request : SubscriptionRequest)
    (batch : NativeRouteEventBatch) : Prop where
  events : batch.events = journal.batchEvents request
  gap : batch.cursorGap = journal.cursorGap request
  oldest : batch.oldestAvailable = journal.oldest
  latest : batch.latestAvailable = journal.latest
  next : batch.nextCursor.sequence.get = (batch.events.getLast?.map (·.sequence.get)).getD (requested request)
  more : batch.hasMore = (!journal.cursorGap request &&
    decide (batch.nextCursor.sequence.get < journal.latest.get))
  stream : batch.nextCursor.streamId = journal.streamId ∧
    batch.nextCursor.streamEpoch = journal.streamEpoch ∧
    batch.nextCursor.projectionRevision = journal.projectionRevision

theorem read_of (h : journal.read subscriptionId request = .ok batch) : ReadOf journal request batch := by
  unfold NativeRouteJournal.read at h
  split at h
  · cases h
  dsimp only at h
  split at h
  · cases h
  next next hnext =>
    cases h
    exact ⟨rfl, rfl, rfl, rfl, Bounded.get_of_tryFrom hnext, rfl, rfl, rfl, rfl⟩

theorem Recorded.next (h : Recorded history journal) (hread : ReadOf journal request batch)
    (hgap : journal.cursorGap request = false) : batch.nextCursor.sequence.get =
      requested request + min request.maxEvents.get (history.length - requested request) := by
  rw [hread.next, hread.events, h.batch_eq hgap]
  exact h.window.last_after (requested request) request.maxEvents.get

/-- The announced routes fit their events and are well formed. -/
def EventsSound (history : List NativeRouteEvent) : Prop :=
  ∀ event ∈ history, nativeEventMatchesRoute event.kind event.route.routeState = true ∧
    validateNativeRoute event.route = .ok ()

theorem validateRoutes_ok {events : List NativeRouteEvent}
    (h : ∀ event ∈ events, validateNativeRoute event.route = .ok ()) :
    (events.forM fun event => validateNativeRoute event.route) = .ok () := by
  induction events with
  | nil => rfl
  | cons event events ih =>
    have hrest := ih fun other hother => h other (mem_cons_of_mem _ hother)
    show (validateNativeRoute event.route >>= fun _ =>
      events.forM fun event => validateNativeRoute event.route) = .ok ()
    rw [h event mem_cons_self]
    exact hrest

theorem anyWindowUnordered_of_pairwise {numbers : List SequenceNumber}
    (h : numbers.Pairwise fun left right => left.get < right.get) :
    anyWindowUnordered numbers = false := by
  induction numbers with
  | nil => rfl
  | cons first rest ih =>
    obtain ⟨hfirst, hrest⟩ := pairwise_cons.mp h
    have htail := ih hrest
    cases rest with
    | nil => rfl
    | cons second rest =>
      have hless : compare first second = .lt := by
        show compare first.get second.get = .lt
        exact Nat.compare_eq_lt.mpr (hfirst second mem_cons_self)
      unfold anyWindowUnordered
      rw [hless, htail]
      rfl

theorem reject_then {ε : Type} {c : Prop} [Decidable c] {e : ε} {m : Except ε Unit} (h : ¬ c)
    (hm : m = .ok ()) : (do reject c e; m) = .ok () := by
  rw [reject_of_not h]
  exact hm

theorem Recorded.batch_valid (h : Recorded history journal) (hsound : EventsSound history)
    (hread : journal.read subscriptionId request = .ok batch) :
    validateNativeRouteEventBatch batch = .ok () := by
  have hof := read_of hread
  have hle := h.oldest_le
  unfold validateNativeRouteEventBatch
  cases hcursor : journal.cursorGap request with
  | true =>
    have hnil : batch.events = [] := by
      rw [hof.events]
      unfold batchEvents
      rw [if_pos hcursor]
    have hnone : batch.hasMore = false := by
      rw [hof.more, hcursor]
      rfl
    refine reject_then ?_ ?_
    · rw [hnil, hnone, hof.oldest, hof.latest, Bounded.lt_iff]
      simp only [length_nil, map_nil, anyWindowUnordered, any_nil, getLast?_nil,
        Option.any_none, Bool.false_eq_true, ne_eq, not_true_eq_false, or_self, and_false, false_and,
        or_false]
      omega
    rw [hnil]
    rfl
  | false =>
    have hbatch := h.batch_eq hcursor
    have hnext := h.next hof hcursor
    obtain ⟨hlow, hhigh⟩ := h.inside hcursor
    have hlatest := h.latest
    have hdropped := h.oldest_pred
    have hevents : batch.events = (history.drop (requested request)).take request.maxEvents.get :=
      hof.events.trans hbatch
    have hnumbers := h.window.numbers_after (requested request) request.maxEvents.get
    rw [← hevents] at hnumbers
    have hmember : ∀ event ∈ batch.events, event ∈ history := by
      intro event hevent
      rw [hevents] at hevent
      exact mem_of_mem_drop (mem_of_mem_take hevent)
    refine reject_then ?_ ?_
    · intro hbad
      obtain hbad | hbad | hbad | hbad | hbad | hbad | hbad := hbad
      · have hlimit := request.maxEvents.upper
        rw [hevents, length_take] at hbad
        omega
      · rw [hof.oldest, hof.latest, Bounded.lt_iff] at hbad
        omega
      · have hordered : anyWindowUnordered (batch.events.map (·.sequence)) = false := by
          apply anyWindowUnordered_of_pairwise
          rw [pairwise_map, hevents]
          exact h.window.pairwise_lt (requested request) request.maxEvents.get
        rw [hordered] at hbad
        cases hbad
      · obtain ⟨event, hmem, hout⟩ := any_eq_true.mp hbad
        have hnumber : event.sequence.get ∈ List.range' (requested request + 1)
            (min request.maxEvents.get (history.length - requested request)) := by
          rw [← hnumbers]
          exact mem_map_of_mem hmem
        obtain ⟨hafter, hbefore⟩ := mem_range'_1.mp hnumber
        rw [decide_eq_true_iff, hof.oldest, hof.latest, Bounded.lt_iff, Bounded.lt_iff] at hout
        obtain hout | hout | hout := hout
        · omega
        · omega
        rw [(hsound event (hmember event hmem)).1] at hout
        cases hout
      · obtain ⟨event, hlast, hdifferent⟩ := (Option.any_eq_true _ _).mp hbad
        apply of_decide_eq_true hdifferent
        apply Bounded.ext_get
        rw [hof.next, hlast]
        rfl
      · rw [hof.gap, hcursor] at hbad
        cases hbad.1
      rw [hof.more, hcursor, hof.latest, Bounded.le_iff] at hbad
      simp only [Bool.not_false, Bool.true_and, decide_eq_true_iff] at hbad
      omega
    · exact validateRoutes_ok fun event hevent => (hsound event (hmember event hevent)).2

end Reads

end NativeRouteJournal

end HyperfluxNext
