import HyperfluxNext.Core.EventLog
import HyperfluxNext.Protocol.Subscriptions

namespace HyperfluxNext

open BoundedEventLog List Procedure

namespace BoundedEventLog

def oldest (log : BoundedEventLog) : SequenceNumber :=
  match log.events.head? with
  | none => log.latest
  | some event => event.sequence

def streamMismatch (log : BoundedEventLog) (request : SubscriptionRequest) : Bool :=
  request.expectedCursor.any fun cursor =>
    cursor.streamId ≠ log.streamId ∨ cursor.streamEpoch ≠ log.streamEpoch ∨
      cursor.projectionRevision ≠ log.projectionRevision

/-- A request without a cursor starts before the first event. -/
def requestedSequence (request : SubscriptionRequest) : Nat :=
  match request.expectedCursor with
  | none => 0
  | some cursor => cursor.sequence.get

def cursorGap (log : BoundedEventLog) (request : SubscriptionRequest) : Bool :=
  log.streamMismatch request ∨ requestedSequence request < log.oldest.get - 1 ∨
    log.latest.get < requestedSequence request

def batchEvents (log : BoundedEventLog) (request : SubscriptionRequest) : List BridgeEvent :=
  if log.cursorGap request then [] else
    (log.events.filter fun event => requestedSequence request < event.sequence.get).take request.maxEvents.get

def nextSequence (log : BoundedEventLog) (request : SubscriptionRequest) : Nat :=
  match (log.batchEvents request).getLast? with
  | none => requestedSequence request
  | some event => event.sequence.get

def read (log : BoundedEventLog) (subscriptionId : SubscriptionId) (request : SubscriptionRequest) :
    Except EventLogError EventBatch :=
  if request.subscriptionId.any (· ≠ subscriptionId) then .error .subscriptionMismatch else
    match Bounded.tryFrom 0 u64Max (log.nextSequence request) with
    | none => .error .sequenceExhausted
    | some nextSequence => .ok {
        subscriptionId := subscriptionId
        nextCursor := ⟨log.streamId, log.streamEpoch, log.projectionRevision, nextSequence⟩
        events := log.batchEvents request
        oldestAvailable := log.oldest
        latestAvailable := log.latest
        droppedEvents := log.dropped
        cursorGap := log.cursorGap request
        hasMore := !log.cursorGap request && decide (nextSequence < log.latest) }

end BoundedEventLog

inductive LogReach (streamId : StreamId) (streamEpoch : StreamEpoch)
    (projectionRevision : ProjectionRevision) (capacity : Nat) :
    List BridgeEvent → BoundedEventLog → Prop
  | start {log : BoundedEventLog} :
      new streamId streamEpoch projectionRevision capacity = .ok log →
      LogReach streamId streamEpoch projectionRevision capacity [] log
  | append {history : List BridgeEvent} {log log' : BoundedEventLog} {draft : EventDraft}
      {event : BridgeEvent} : LogReach streamId streamEpoch projectionRevision capacity history log →
      log.append draft = .ok (event, log') →
      LogReach streamId streamEpoch projectionRevision capacity (history ++ [event]) log'

/-- The client that follows the cursor of each batch as long as there is more. -/
inductive ReadsAll (log : BoundedEventLog) (subscriptionId : SubscriptionId) :
    SubscriptionRequest → List EventBatch → Prop
  | last {request : SubscriptionRequest} {batch : EventBatch} :
      log.read subscriptionId request = .ok batch → batch.hasMore = false →
      ReadsAll log subscriptionId request [batch]
  | more {request : SubscriptionRequest} {batch : EventBatch} {batches : List EventBatch} :
      log.read subscriptionId request = .ok batch → batch.hasMore = true →
      ReadsAll log subscriptionId { request with expectedCursor := some batch.nextCursor } batches →
      ReadsAll log subscriptionId request (batch :: batches)

/-- The events are numbered from one without a hole, and the log holds the newest of them. -/
structure Numbered (history : List BridgeEvent) (log : BoundedEventLog) : Prop where
  numbers : history.map (·.sequence.get) = List.range' 1 history.length
  latest : log.latest.get = history.length
  held : log.events.length = min log.capacity history.length
  retained : log.events = history.drop (history.length - log.events.length)

variable {streamId : StreamId} {streamEpoch : StreamEpoch} {projectionRevision : ProjectionRevision}
  {capacity : Nat}

theorem new_numbered {log : BoundedEventLog}
    (h : new streamId streamEpoch projectionRevision capacity = .ok log) :
    Numbered [] log := by
  unfold new at h
  split at h
  · cases h
    exact ⟨rfl, rfl, by simp, rfl⟩
  · cases h

theorem append_numbered {history : List BridgeEvent} {log log' : BoundedEventLog} {draft : EventDraft}
    {event : BridgeEvent} (h : Numbered history log) (happend : log.append draft = .ok (event, log')) :
    Numbered (history ++ [event]) log' := by
  unfold append at happend
  split at happend
  · cases happend
  next sequence hsequence =>
    have hnumber : sequence.get = history.length + 1 := by
      rw [Bounded.get_of_tryFrom hsequence, h.latest]
    have hnumbers : ((history ++ [draft.toEvent sequence]).map (·.sequence.get)) =
        List.range' 1 (history ++ [draft.toEvent sequence]).length := by
      rw [map_append, h.numbers, length_append, List.range'_append_1.symm]
      simp only [map_cons, map_nil, length_cons, length_nil, EventDraft.toEvent, hnumber]
      simp [List.range'_succ, Nat.add_comm]
    have hheld := h.held
    have hretained := h.retained
    have hrange := log.inRange
    dsimp only at happend
    split at happend
    next hfull =>
      split at happend
      · cases happend
      cases happend
      refine ⟨hnumbers, ?_, ?_, ?_⟩
      · simpa using hnumber
      · simp only [length_append, length_drop, length_cons, length_nil]
        omega
      simp only [length_append, length_drop, length_cons, length_nil]
      rw [hretained, drop_drop, drop_append_of_le_length (by omega)]
      congr 2
      simp only [length_drop]
      omega
    next hroom =>
      cases happend
      refine ⟨hnumbers, ?_, ?_, ?_⟩
      · simpa using hnumber
      · simp only [length_append, length_cons, length_nil]
        omega
      simp only [length_append, length_cons, length_nil]
      rw [show history.length + (0 + 1) - (log.events.length + (0 + 1)) =
        history.length - log.events.length by omega,
        drop_append_of_le_length (by omega), ← hretained]

theorem logReach_numbered {history : List BridgeEvent} {log : BoundedEventLog}
    (h : LogReach streamId streamEpoch projectionRevision capacity history log) :
    Numbered history log := by
  induction h with
  | start hnew => exact new_numbered hnew
  | append _ happend ih => exact append_numbered ih happend

theorem filter_numbered {α : Type} (number : α → Nat) (r : Nat) :
    ∀ (elements : List α) (start : Nat), elements.map number = List.range' start elements.length →
      (elements.filter fun element => r < number element) = elements.drop (r + 1 - start) := by
  intro elements
  induction elements with
  | nil =>
    intro start _
    simp
  | cons element elements ih =>
    intro start h
    rw [map_cons, length_cons, List.range'_succ] at h
    obtain ⟨hnumber, hrest⟩ := List.cons.inj h
    have htail := ih (start + 1) hrest
    by_cases hafter : r < number element
    · have hwhole : r + 1 - (start + 1) = 0 := by omega
      rw [hwhole, drop_zero] at htail
      rw [filter_cons_of_pos (by simpa using hafter), htail,
        show r + 1 - start = 0 by omega, drop_zero]
    rw [filter_cons_of_neg (by simpa using hafter), htail,
      show r + 1 - start = (r + 1 - (start + 1)) + 1 by omega, drop_succ_cons]

open BoundedEventLog in
theorem nextSequence_le (log : BoundedEventLog) (request : SubscriptionRequest) :
    log.nextSequence request ≤ u64Max := by
  unfold nextSequence
  split
  · unfold requestedSequence
    split
    · exact Nat.zero_le _
    next cursor _ => exact cursor.sequence.upper
  next event _ => exact event.sequence.upper

section Reads

variable {history : List BridgeEvent} {log : BoundedEventLog} (h : Numbered history log)
  {request : SubscriptionRequest} {subscriptionId : SubscriptionId}

open BoundedEventLog

include h

theorem Numbered.after (r : Nat) : (history.filter fun event => r < event.sequence.get) = history.drop r :=
  filter_numbered (·.sequence.get) r history 1 h.numbers

theorem Numbered.retained_numbers :
    log.events.map (·.sequence.get) =
      List.range' (log.latest.get - log.events.length + 1) log.events.length := by
  have hretained := h.retained
  have hheld := h.held
  rw [h.latest]
  have hmap : (history.drop (history.length - log.events.length)).map (·.sequence.get) =
      (List.range' 1 history.length).drop (history.length - log.events.length) := by
    rw [← h.numbers, map_drop]
  rw [← hretained, drop_range'] at hmap
  rw [hmap]
  congr 1 <;> omega

/-- The oldest event that is left comes right after the dropped ones. -/
theorem Numbered.oldest_pred : log.oldest.get - 1 = history.length - log.events.length := by
  have hheld := h.held
  have hrange := log.inRange
  have hnumbers := h.retained_numbers
  have hlatest := h.latest
  unfold oldest
  cases hevents : log.events with
  | nil =>
    rw [hevents, length_nil] at hheld
    simp only [head?_nil, length_nil]
    omega
  | cons event rest =>
    rw [hevents, map_cons, length_cons, List.range'_succ] at hnumbers
    obtain ⟨hnumber, -⟩ := List.cons.inj hnumbers
    simp only [head?_cons, length_cons]
    omega

theorem Numbered.oldest_le : log.oldest.get ≤ log.latest.get := by
  have hheld := h.held
  have hrange := log.inRange
  have hpred := h.oldest_pred
  have hlatest := h.latest
  by_cases hempty : history.length = 0
  · have hnil : log.events = [] := eq_nil_of_length_eq_zero (by omega)
    unfold oldest
    rw [hnil]
    exact Nat.le_refl _
  · omega

theorem Numbered.gap_iff : log.cursorGap request = true ↔ log.streamMismatch request = true ∨
    requestedSequence request < history.length - log.events.length ∨
    history.length < requestedSequence request := by
  unfold cursorGap
  rw [decide_eq_true_iff, h.oldest_pred, h.latest]

section

variable (hgap : log.cursorGap request = false)
include hgap

theorem Numbered.batch :
    log.batchEvents request = (history.drop (requestedSequence request)).take request.maxEvents.get := by
  have hnot : ¬ (log.streamMismatch request = true ∨
      requestedSequence request < history.length - log.events.length ∨
      history.length < requestedSequence request) := by
    rw [← h.gap_iff, hgap]
    decide
  have hwindow := filter_numbered (·.sequence.get) (requestedSequence request) log.events _ h.retained_numbers
  have hretained := h.retained
  have hlatest := h.latest
  unfold batchEvents
  rw [if_neg (by rw [hgap]; decide), hwindow]
  congr 1
  rw [hretained, drop_drop, ← hretained]
  congr 1
  omega

theorem Numbered.batch_length :
    (log.batchEvents request).length =
      min request.maxEvents.get (history.length - requestedSequence request) := by
  rw [h.batch hgap, length_take, length_drop]

theorem Numbered.batch_numbers :
    (log.batchEvents request).map (·.sequence.get) =
      List.range' (requestedSequence request + 1) (log.batchEvents request).length := by
  rw [h.batch_length hgap, h.batch hgap, map_take, map_drop, h.numbers]
  apply ext_getElem
  · simp only [length_take, length_drop, length_range']
  intro index hleft hright
  simp only [getElem_take, getElem_drop, getElem_range']
  omega

theorem Numbered.next :
    log.nextSequence request = requestedSequence request + (log.batchEvents request).length := by
  have hnumbers := h.batch_numbers hgap
  unfold nextSequence
  split
  next hnone => rw [getLast?_eq_none_iff.mp hnone, length_nil, Nat.add_zero]
  next event hlast =>
    have hmap : ((log.batchEvents request).map (·.sequence.get)).getLast? = some event.sequence.get := by
      rw [getLast?_map, hlast]
      rfl
    rw [hnumbers, getLast?_range'] at hmap
    split at hmap
    · cases hmap
    next hnonempty =>
      have hvalue := Option.some.inj hmap
      omega

end

end Reads

theorem anyWindowUnordered_range' : ∀ (numbers : List SequenceNumber) (start : Nat),
    numbers.map (·.get) = List.range' start numbers.length → anyWindowUnordered numbers = false := by
  intro numbers
  induction numbers with
  | nil =>
    intro start _
    rfl
  | cons first rest ih =>
    intro start h
    rw [map_cons, length_cons, List.range'_succ] at h
    obtain ⟨hfirst, hrest⟩ := List.cons.inj h
    have htail := ih (start + 1) hrest
    cases rest with
    | nil => rfl
    | cons second rest =>
      rw [map_cons, length_cons, List.range'_succ] at hrest
      obtain ⟨hsecond, -⟩ := List.cons.inj hrest
      have horder : compare first second = .lt := by
        show compare first.get second.get = .lt
        rw [Nat.compare_eq_lt]
        omega
      unfold anyWindowUnordered
      rw [horder, htail]
      rfl

section Batches

variable {history : List BridgeEvent} {log : BoundedEventLog} {request : SubscriptionRequest}
  {subscriptionId : SubscriptionId} {batch : EventBatch}

open BoundedEventLog

/-- What a read returns, field by field. -/
theorem read_ok (h : log.read subscriptionId request = .ok batch) :
    batch.events = log.batchEvents request ∧ batch.cursorGap = log.cursorGap request ∧
    batch.oldestAvailable = log.oldest ∧ batch.latestAvailable = log.latest ∧
    batch.nextCursor.sequence.get = log.nextSequence request ∧
    batch.hasMore = (!log.cursorGap request && decide (log.nextSequence request < log.latest.get)) ∧
    batch.nextCursor.streamId = log.streamId ∧ batch.nextCursor.streamEpoch = log.streamEpoch ∧
    batch.nextCursor.projectionRevision = log.projectionRevision := by
  unfold BoundedEventLog.read at h
  split at h
  · cases h
  split at h
  · cases h
  next next hnext =>
    cases h
    have hvalue := Bounded.get_of_tryFrom hnext
    refine ⟨rfl, rfl, rfl, rfl, hvalue, ?_, rfl, rfl, rfl⟩
    rw [← hvalue]
    rfl

/-- Only another subscription's identity is refused. -/
theorem read_isOk (log : BoundedEventLog)
    (hsubscription : ∀ other, request.subscriptionId = some other → other = subscriptionId) :
    ∃ batch, log.read subscriptionId request = .ok batch := by
  have hmatch : request.subscriptionId.any (· ≠ subscriptionId) = false := by
    cases hrequest : request.subscriptionId with
    | none => rfl
    | some other => simpa using hsubscription other hrequest
  unfold BoundedEventLog.read
  rw [if_neg (by rw [hmatch]; decide), Bounded.tryFrom_of_mem (Nat.zero_le _) (nextSequence_le log request)]
  exact ⟨_, rfl⟩

theorem Numbered.read_valid (h : Numbered history log)
    (hread : log.read subscriptionId request = .ok batch) : validateEventBatch batch = .ok () := by
  obtain ⟨hevents, hgap, holdest, hlatest, hnext, hmore, -, -, -⟩ := read_ok hread
  have hle := h.oldest_le
  unfold validateEventBatch
  cases hcursor : log.cursorGap request with
  | true =>
    have hnil : batch.events = [] := by
      rw [hevents]
      unfold batchEvents
      rw [if_pos hcursor]
    have hnone : batch.hasMore = false := by
      rw [hmore, hcursor]
      rfl
    have hlength : ¬ batch.events.length > 256 := by
      rw [hnil]
      decide
    rw [reject_of_not hlength]
    apply reject_of_not
    rw [hnil, hnone, holdest, hlatest, Bounded.lt_iff]
    simp only [map_nil, anyWindowUnordered, any_nil, getLast?_nil, Option.any_none,
      Bool.false_eq_true, ne_eq, not_true_eq_false, or_self, and_false, false_and, or_false]
    omega
  | false =>
    have hlength : ¬ batch.events.length > 256 := by
      have hbound := h.batch_length hcursor
      have hlimit := request.maxEvents.upper
      rw [hevents]
      omega
    rw [reject_of_not hlength]
    apply reject_of_not
    have hnumbers := h.batch_numbers hcursor
    have hstep := h.next hcursor
    have hsize := h.batch_length hcursor
    have hnewest := h.latest
    have hdropped := h.oldest_pred
    have hinside : ¬ (log.streamMismatch request = true ∨
        requestedSequence request < history.length - log.events.length ∨
        history.length < requestedSequence request) := by
      rw [← h.gap_iff, hcursor]
      decide
    intro hbad
    obtain hbad | hbad | hbad | hbad | hbad | hbad := hbad
    · rw [holdest, hlatest, Bounded.lt_iff] at hbad
      omega
    · have hordered : anyWindowUnordered (batch.events.map (·.sequence)) = false := by
        apply anyWindowUnordered_range' _ (requestedSequence request + 1)
        rw [hevents, map_map, length_map]
        exact hnumbers
      rw [hordered] at hbad
      cases hbad
    · obtain ⟨event, hmem, hout⟩ := any_eq_true.mp hbad
      have hnumber : event.sequence.get ∈ List.range' (requestedSequence request + 1)
          (log.batchEvents request).length := by
        rw [← hnumbers, ← hevents]
        exact mem_map_of_mem hmem
      obtain ⟨hlow, hhigh⟩ := mem_range'_1.mp hnumber
      rw [decide_eq_true_iff, holdest, hlatest, Bounded.lt_iff, Bounded.lt_iff] at hout
      omega
    · rw [Option.any_eq_true] at hbad
      obtain ⟨event, hlast, hdifferent⟩ := hbad
      rw [decide_eq_true_iff] at hdifferent
      apply hdifferent
      apply Bounded.ext_get
      rw [hnext]
      unfold nextSequence
      rw [← hevents, hlast]
    · rw [hgap, hcursor] at hbad
      cases hbad.1
    rw [hmore, hcursor, hlatest, Bounded.le_iff, hnext] at hbad
    simp only [Bool.not_false, Bool.true_and, decide_eq_true_iff] at hbad
    omega

theorem requestedSequence_follow (hread : log.read subscriptionId request = .ok batch) :
    requestedSequence { request with expectedCursor := some batch.nextCursor } = log.nextSequence request := by
  obtain ⟨-, -, -, -, hnext, -⟩ := read_ok hread
  exact hnext

theorem Numbered.follow_inside (h : Numbered history log) (hgap : log.cursorGap request = false)
    (hread : log.read subscriptionId request = .ok batch) :
    log.cursorGap { request with expectedCursor := some batch.nextCursor } = false := by
  obtain ⟨-, -, -, -, hnext, -, hstream, hepoch, hrevision⟩ := read_ok hread
  have hinside : ¬ (log.streamMismatch request = true ∨
      requestedSequence request < history.length - log.events.length ∨
      history.length < requestedSequence request) := by
    rw [← h.gap_iff, hgap]
    decide
  have hstep := h.next hgap
  have hsize := h.batch_length hgap
  have hfollow := requestedSequence_follow hread
  apply Bool.eq_false_iff.mpr
  intro hbad
  obtain hbad | hbad := h.gap_iff.mp hbad
  · unfold streamMismatch at hbad
    simp only [Option.any_some, hstream, hepoch, hrevision, ne_eq, not_true_eq_false, or_self,
      decide_false, Bool.false_eq_true] at hbad
  rw [hfollow] at hbad
  omega

/-- A client inside the log gets every event after its cursor, in batches that pass the check. -/
theorem Numbered.reads (h : Numbered history log) : ∀ (left : Nat) (request : SubscriptionRequest),
    history.length - requestedSequence request = left → log.cursorGap request = false →
    (∀ other, request.subscriptionId = some other → other = subscriptionId) →
    ∃ batches, ReadsAll log subscriptionId request batches ∧
      (batches.flatMap (·.events)) = history.drop (requestedSequence request) ∧
      ∀ batch ∈ batches, batch.cursorGap = false ∧ validateEventBatch batch = .ok () := by
  intro left
  induction left using Nat.strongRecOn with
  | ind left ih =>
    intro request hleft hgap hsubscription
    obtain ⟨batch, hread⟩ := read_isOk log hsubscription
    obtain ⟨hevents, hcursor, -, -, -, hmore, -⟩ := read_ok hread
    have hvalid : batch.cursorGap = false ∧ validateEventBatch batch = .ok () :=
      ⟨hcursor.trans hgap, h.read_valid hread⟩
    have hstep := h.next hgap
    have hsize := h.batch_length hgap
    have hlimit := request.maxEvents.lower
    have hbatch := h.batch hgap
    have hlatest := h.latest
    rw [hgap, hlatest] at hmore
    by_cases hend : log.nextSequence request < history.length
    · have htrue : batch.hasMore = true := by
        rw [hmore, decide_eq_true hend]
        rfl
      have hfollow := requestedSequence_follow hread
      obtain ⟨batches, hreads, hall, hgood⟩ := ih
        (history.length - log.nextSequence request) (by omega)
        { request with expectedCursor := some batch.nextCursor }
        (by rw [hfollow]) (h.follow_inside hgap hread) hsubscription
      refine ⟨batch :: batches, .more hread htrue hreads, ?_, ?_⟩
      · rw [flatMap_cons, hall, hfollow, hevents, hbatch, hstep, hsize,
          show min request.maxEvents.get (history.length - requestedSequence request) =
            request.maxEvents.get by omega, ← drop_drop, take_append_drop]
      intro other hother
      obtain hsame | hrest := mem_cons.mp hother
      · rw [hsame]
        exact hvalid
      · exact hgood other hrest
    · have hfalse : batch.hasMore = false := by
        rw [hmore, decide_eq_false hend]
        rfl
      refine ⟨[batch], .last hread hfalse, ?_, ?_⟩
      · rw [flatMap_cons, flatMap_nil, append_nil, hevents, hbatch]
        apply take_of_length_le
        rw [length_drop]
        omega
      intro other hother
      rw [mem_singleton.mp hother]
      exact hvalid

/-- The batches a client gets are determined by the log and its first request. -/
theorem ReadsAll.unique {request : SubscriptionRequest} {batches other : List EventBatch}
    (h : ReadsAll log subscriptionId request batches) (h' : ReadsAll log subscriptionId request other) :
    other = batches := by
  induction h generalizing other with
  | last hread hmore =>
    cases h' with
    | last hread' _ =>
      rw [hread] at hread'
      cases hread'
      rfl
    | more hread' hmore' _ =>
      rw [hread] at hread'
      cases hread'
      rw [hmore] at hmore'
      cases hmore'
  | more hread hmore _ ih =>
    cases h' with
    | last hread' hmore' =>
      rw [hread] at hread'
      cases hread'
      rw [hmore] at hmore'
      cases hmore'
    | more hread' _ hrest =>
      rw [hread] at hread'
      cases hread'
      rw [ih hrest]

def CursorLost (history : List BridgeEvent) (log : BoundedEventLog) (request : SubscriptionRequest) : Prop :=
  log.streamMismatch request = true ∨ log.latest.get < requestedSequence request ∨
    ∃ event ∈ history, requestedSequence request < event.sequence.get ∧ event ∉ log.events

theorem Numbered.dropped_iff (h : Numbered history log) (r : Nat) :
    r < history.length - log.events.length ↔
      ∃ event ∈ history, r < event.sequence.get ∧ event ∉ log.events := by
  have hnumber : ∀ (index : Nat) (hindex : index < history.length),
      history[index].sequence.get = index + 1 := by
    intro index hindex
    have hmap : (history.map (·.sequence.get))[index]? = some (history[index].sequence.get) := by
      rw [getElem?_map, getElem?_eq_getElem hindex]
      rfl
    rw [h.numbers, getElem?_eq_getElem (by simpa using hindex), getElem_range'] at hmap
    have hvalue := Option.some.inj hmap
    omega
  constructor
  · intro hdropped
    have hindex : r < history.length := by omega
    refine ⟨history[r], getElem_mem hindex, ?_, ?_⟩
    · rw [hnumber r hindex]
      omega
    intro hmem
    have hin : history[r].sequence.get ∈
        List.range' (log.latest.get - log.events.length + 1) log.events.length := by
      rw [← h.retained_numbers]
      exact mem_map_of_mem hmem
    have hlow := (mem_range'_1.mp hin).1
    rw [hnumber r hindex, h.latest] at hlow
    omega
  intro hlost
  obtain ⟨event, hmem, hafter, hgone⟩ := hlost
  obtain ⟨index, hindex, hevent⟩ := getElem_of_mem hmem
  have hvalue := hnumber index hindex
  rw [hevent] at hvalue
  by_contra hnot
  apply hgone
  rw [h.retained, ← hevent]
  exact mem_drop_iff_getElem.mpr ⟨index - (history.length - log.events.length), by omega, by congr 1; omega⟩

theorem Numbered.cursorLost_iff (h : Numbered history log) :
    log.cursorGap request = true ↔ CursorLost history log request := by
  rw [h.gap_iff, h.dropped_iff, CursorLost, h.latest]
  constructor
  · intro hgap
    obtain hgap | hgap | hgap := hgap
    · exact .inl hgap
    · exact .inr (.inr hgap)
    · exact .inr (.inl hgap)
  intro hlost
  obtain hlost | hlost | hlost := hlost
  · exact .inl hlost
  · exact .inr (.inr hlost)
  · exact .inr (.inl hlost)

end Batches

/-- The log holds the newest events without a hole. A client that follows the cursors either gets each event after
its first cursor once and in order, or is told of the gap, and every batch passes the check of the wire. -/
theorem logReach_reads {streamId : StreamId} {streamEpoch : StreamEpoch}
    {projectionRevision : ProjectionRevision} {capacity : Nat} {history : List BridgeEvent}
    {log : BoundedEventLog} (h : LogReach streamId streamEpoch projectionRevision capacity history log) :
    log.events.map (·.sequence.get) = List.range' (log.latest.get - log.events.length + 1) log.events.length ∧
    ∀ (subscriptionId : SubscriptionId) (request : SubscriptionRequest),
      ((∃ other, request.subscriptionId = some other ∧ other ≠ subscriptionId) →
        log.read subscriptionId request = .error .subscriptionMismatch) ∧
      ((∀ other, request.subscriptionId = some other → other = subscriptionId) →
        ∃ batches, ReadsAll log subscriptionId request batches ∧
          (∀ other, ReadsAll log subscriptionId request other → other = batches) ∧
          (∀ batch ∈ batches, validateEventBatch batch = .ok ()) ∧
          (CursorLost history log request → ∃ batch, batches = [batch] ∧ batch.cursorGap = true ∧
            batch.events = []) ∧
          (¬ CursorLost history log request → (∀ batch ∈ batches, batch.cursorGap = false) ∧
            (batches.flatMap (·.events)) = history.filter fun event =>
              BoundedEventLog.requestedSequence request < event.sequence.get)) := by
  have hnumbered := logReach_numbered h
  refine ⟨hnumbered.retained_numbers, ?_⟩
  intro subscriptionId request
  refine ⟨?_, ?_⟩
  · intro hother
    obtain ⟨other, hrequest, hdifferent⟩ := hother
    unfold BoundedEventLog.read
    rw [hrequest, if_pos (by simpa using hdifferent)]
  intro hsubscription
  by_cases hgap : log.cursorGap request = true
  · obtain ⟨batch, hread⟩ := read_isOk log hsubscription
    obtain ⟨hevents, hcursor, -, -, -, hmore, -⟩ := read_ok hread
    have hlast : ReadsAll log subscriptionId request [batch] := by
      refine .last hread ?_
      rw [hmore, hgap]
      rfl
    have hnil : batch.events = [] := by
      rw [hevents]
      unfold BoundedEventLog.batchEvents
      rw [if_pos hgap]
    refine ⟨[batch], hlast, fun other hother => hlast.unique hother, ?_, ?_, ?_⟩
    · intro other hother
      rw [mem_singleton.mp hother]
      exact hnumbered.read_valid hread
    · intro _
      exact ⟨batch, rfl, hcursor.trans hgap, hnil⟩
    intro hnot
    exact absurd (hnumbered.cursorLost_iff.mp hgap) hnot
  · obtain ⟨batches, hreads, hall, hgood⟩ := hnumbered.reads _ request rfl
      (Bool.eq_false_iff.mpr hgap) hsubscription
    refine ⟨batches, hreads, fun other hother => hreads.unique hother,
      fun batch hbatch => (hgood batch hbatch).2, ?_, ?_⟩
    · intro hlost
      exact absurd (hnumbered.cursorLost_iff.mpr hlost) hgap
    intro _
    refine ⟨fun batch hbatch => (hgood batch hbatch).1, ?_⟩
    rw [hall, hnumbered.after]

section Samples

def ownershipDraft : EventDraft := ⟨.ownershipChanged, none, none, none, none, none, none⟩

def readStream : StreamId := .lit "stream"

def readSubscription : SubscriptionId := .lit "subscription"

def onePlace : Nat := 1

def onePlaceLog : BoundedEventLog :=
  ⟨readStream, .lit 1, .lit 1, onePlace, [], .lit 0, .lit 0, by decide, by decide⟩

def ownershipEvent (sequence : SequenceNumber) : BridgeEvent := ownershipDraft.toEvent sequence

def onePlaceLogLater : BoundedEventLog :=
  { onePlaceLog with
    events := [ownershipEvent (.lit 2)], latest := .lit 2,
    dropped := .lit 1, bounded := by decide }

theorem onePlaceLogLater_reach : LogReach readStream (.lit 1) (.lit 1) 1
    [ownershipEvent (.lit 1), ownershipEvent (.lit 2)] onePlaceLogLater := by
  have hempty : LogReach readStream (.lit 1) (.lit 1) 1 [] onePlaceLog :=
    .start rfl
  have hone := hempty.append (show onePlaceLog.append ownershipDraft = .ok
    (ownershipEvent (.lit 1), { onePlaceLog with
      events := [ownershipEvent (.lit 1)], latest := .lit 1,
      bounded := by decide }) from rfl)
  exact hone.append rfl

def readRequest (expectedCursor : Option EventCursor) : SubscriptionRequest :=
  ⟨.lit "client", none, expectedCursor, .lit 1⟩

def readCursor : EventCursor :=
  ⟨readStream, .lit 1, .lit 1, .lit 1⟩

/-- A client without a cursor has lost the first event; one that has seen it reads the second. -/
theorem logReach_reads_sample :
    onePlaceLogLater.events.map (·.sequence.get) = [2] ∧
    CursorLost [ownershipEvent (.lit 1), ownershipEvent (.lit 2)] onePlaceLogLater
      (readRequest none) ∧
    ∃ batches, ReadsAll onePlaceLogLater readSubscription (readRequest (some readCursor)) batches ∧
      ∀ batch ∈ batches, validateEventBatch batch = .ok () := by
  obtain ⟨hnumbers, hreads⟩ := logReach_reads onePlaceLogLater_reach
  refine ⟨hnumbers, .inr (.inr ⟨ownershipEvent (.lit 1), by decide, by decide, by decide⟩), ?_⟩
  obtain ⟨batches, hall, -, hvalid, -⟩ := (hreads readSubscription (readRequest (some readCursor))).2
    (fun other hother => by cases hother)
  exact ⟨batches, hall, hvalid⟩

end Samples

end HyperfluxNext
