import HyperfluxNext.Qualification.Checkpoints

namespace HyperfluxNext

open Procedure List

/-- The complete cursor reflected by the current bridge projection. -/
def BoundedEventLog.cursor (log : BoundedEventLog) : EventCursor :=
  ⟨log.streamId, log.streamEpoch, log.projectionRevision, log.latest⟩

/-- All events the log still holds, as a reader that follows the cursors gathers them. -/
def BoundedEventLog.retainedEvents (log : BoundedEventLog) (subscriptionId : SubscriptionId) : EventBatch :=
  { subscriptionId := subscriptionId
    nextCursor := log.cursor
    events := log.events
    oldestAvailable := log.oldest
    latestAvailable := log.latest
    droppedEvents := log.dropped
    cursorGap := false
    hasMore := false }

theorem append_stream {log log' : BoundedEventLog} {draft : EventDraft} {event : BridgeEvent}
    (h : log.append draft = .ok (event, log')) :
    log'.streamId = log.streamId ∧ log'.streamEpoch = log.streamEpoch ∧
      log'.projectionRevision = log.projectionRevision := by
  unfold BoundedEventLog.append at h
  split at h
  · cases h
  dsimp only at h
  split at h
  · split at h
    · cases h
    cases h
    exact ⟨rfl, rfl, rfl⟩
  cases h
  exact ⟨rfl, rfl, rfl⟩

section Reach

variable {streamId : StreamId} {streamEpoch : StreamEpoch} {projectionRevision : ProjectionRevision}
  {capacity : Nat}

theorem logReach_stream {history : List BridgeEvent} {log : BoundedEventLog}
    (h : LogReach streamId streamEpoch projectionRevision capacity history log) :
    log.streamId = streamId ∧ log.streamEpoch = streamEpoch ∧ log.projectionRevision = projectionRevision := by
  induction h with
  | start hnew =>
    unfold BoundedEventLog.new at hnew
    split at hnew
    · cases hnew
      exact ⟨rfl, rfl, rfl⟩
    · cases hnew
  | append _ happend ih =>
    obtain ⟨hid, hepoch, hrevision⟩ := append_stream happend
    exact ⟨hid.trans ih.1, hepoch.trans ih.2.1, hrevision.trans ih.2.2⟩

theorem logReach_cursor {history history' : List BridgeEvent} {log log' : BoundedEventLog}
    (h : LogReach streamId streamEpoch projectionRevision capacity history log)
    (h' : LogReach streamId streamEpoch projectionRevision capacity history' log') :
    log.cursor = { log'.cursor with sequence := log.latest } := by
  obtain ⟨hid, hepoch, hrevision⟩ := logReach_stream h
  obtain ⟨hid', hepoch', hrevision'⟩ := logReach_stream h'
  unfold BoundedEventLog.cursor
  rw [hid, hepoch, hrevision, hid', hepoch', hrevision']

end Reach

namespace Qualification

def DepartsAt (event : BridgeEvent) : Prop := event.kind = .deviceSleeping ∨ event.kind = .deviceUnavailable

instance (event : BridgeEvent) : Decidable (DepartsAt event) := inferInstanceAs (Decidable (_ ∨ _))

/-- A restore is completed before the device leaves again. -/
def RestoredIn (events : List BridgeEvent) : Prop :=
  ∃ before restore after, events = before ++ restore :: after ∧
    (∀ event ∈ before, ¬ DepartsAt event) ∧ completesRestore restore = true

def ReturnedIn (events : List BridgeEvent) : Prop :=
  ∃ before back after, events = before ++ back :: after ∧ back.kind = .deviceAvailable ∧ RestoredIn after

/-- The device leaves, and a return with its restore follows. -/
def DepartedIn (events : List BridgeEvent) : Prop :=
  ∃ before gone after, events = before ++ gone :: after ∧ DepartsAt gone ∧ ReturnedIn after

theorem not_restoredIn_nil : ¬ RestoredIn [] := by
  rintro ⟨before, restore, after, hsplit, -, -⟩
  cases before <;> cases hsplit

variable {event : BridgeEvent} {events : List BridgeEvent}

theorem restoredIn_cons :
    RestoredIn (event :: events) ↔ completesRestore event = true ∨ (¬ DepartsAt event ∧ RestoredIn events) := by
  constructor
  · intro h
    obtain ⟨before, restore, after, hsplit, hbefore, hrestore⟩ := h
    cases before with
    | nil =>
      obtain ⟨rfl, -⟩ := List.cons.inj hsplit
      exact .inl hrestore
    | cons first before =>
      obtain ⟨rfl, hrest⟩ := List.cons.inj hsplit
      have hfirst := hbefore event mem_cons_self
      have hothers : ∀ other ∈ before, ¬ DepartsAt other := by
        intro other hother
        exact hbefore other (mem_cons_of_mem _ hother)
      exact .inr ⟨hfirst, before, restore, after, hrest, hothers, hrestore⟩
  intro h
  obtain hrestore | ⟨hstays, before, restore, after, rfl, hbefore, hrestore⟩ := h
  · exact ⟨[], event, events, rfl, by simp, hrestore⟩
  refine ⟨event :: before, restore, after, rfl, ?_, hrestore⟩
  intro other hother
  obtain rfl | hother := mem_cons.mp hother
  · exact hstays
  · exact hbefore other hother

theorem not_returnedIn_nil : ¬ ReturnedIn [] := by
  rintro ⟨before, back, after, hsplit, -, -⟩
  cases before <;> cases hsplit

/-- Where an event of a kind is followed by events of a kind: it is the first one, or it comes later. -/
theorem split_cons {α : Type} {first : α} {rest : List α} {P : α → Prop} {Q : List α → Prop} :
    (∃ before x after, first :: rest = before ++ x :: after ∧ P x ∧ Q after) ↔
      (P first ∧ Q rest) ∨ ∃ before x after, rest = before ++ x :: after ∧ P x ∧ Q after := by
  constructor
  · intro h
    obtain ⟨before, x, after, hsplit, hx, hafter⟩ := h
    cases before with
    | nil =>
      obtain ⟨rfl, rfl⟩ := List.cons.inj hsplit
      exact .inl ⟨hx, hafter⟩
    | cons other before =>
      obtain ⟨rfl, hrest⟩ := List.cons.inj hsplit
      exact .inr ⟨before, x, after, hrest, hx, hafter⟩
  intro h
  obtain ⟨hx, hafter⟩ | ⟨before, x, after, rfl, hx, hafter⟩ := h
  · exact ⟨[], first, rest, rfl, hx, hafter⟩
  · exact ⟨first :: before, x, after, rfl, hx, hafter⟩

theorem returnedIn_cons : ReturnedIn (event :: events) ↔
    (event.kind = .deviceAvailable ∧ RestoredIn events) ∨ ReturnedIn events :=
  split_cons

theorem not_departedIn_nil : ¬ DepartedIn [] := by
  rintro ⟨before, gone, after, hsplit, -, -⟩
  cases before <;> cases hsplit

theorem departedIn_cons :
    DepartedIn (event :: events) ↔ (DepartsAt event ∧ ReturnedIn events) ∨ DepartedIn events :=
  split_cons

theorem ReturnedIn.append (h : ReturnedIn events) (earlier : List BridgeEvent)
    : ReturnedIn (earlier ++ events) := by
  obtain ⟨before, back, after, rfl, hback, hrestored⟩ := h
  exact ⟨earlier ++ before, back, after, by rw [append_assoc], hback, hrestored⟩

theorem DepartedIn.append (h : DepartedIn events) (earlier : List BridgeEvent)
    : DepartedIn (earlier ++ events) := by
  obtain ⟨before, gone, after, rfl, hgone, hreturned⟩ := h
  exact ⟨earlier ++ before, gone, after, by rw [append_assoc], hgone, hreturned⟩

theorem completesRestore_kind (h : completesRestore event = true) : event.kind = .restoreCompleted := by
  unfold completesRestore at h
  exact (of_decide_eq_true h).1

section Walk

variable {deviceId : String}

/-- What a walk in the receiver-transition mode still has to see. -/
def Awaits (walk : ReturnWalk) (events : List BridgeEvent) : Prop :=
  match walk.departed, walk.returned with
  | false, _ => DepartedIn events
  | true, false => ReturnedIn events
  | true, true => RestoredIn events ∨ ReturnedIn events

variable {events : List BridgeEvent} {event : BridgeEvent}

theorem DepartedIn.returned (h : DepartedIn events) : ReturnedIn events := by
  obtain ⟨before, gone, after, rfl, -, hreturned⟩ := h
  rw [← singleton_append, ← append_assoc]
  exact hreturned.append _

omit deviceId in
theorem not_awaits_nil (walk : ReturnWalk) : ¬ Awaits walk [] := by
  unfold Awaits
  split
  · exact not_departedIn_nil
  · exact not_returnedIn_nil
  intro h
  exact h.elim not_restoredIn_nil not_returnedIn_nil

theorem awaits_gone {walk : ReturnWalk} (hgone : DepartsAt event)
    : Awaits walk (event :: events) ↔ Awaits ⟨true, false⟩ events := by
  have hnotback : event.kind ≠ .deviceAvailable := by
    intro hback
    rw [DepartsAt, hback] at hgone
    obtain h | h := hgone <;> cases h
  have hnotrestore : completesRestore event ≠ true := by
    intro hrestore
    rw [DepartsAt, completesRestore_kind hrestore] at hgone
    obtain h | h := hgone <;> cases h
  have hlater : DepartedIn events → ReturnedIn events := DepartedIn.returned
  obtain ⟨departed, returned⟩ := walk
  cases departed with
  | false =>
    simp only [Awaits, departedIn_cons, hgone, true_and]
    exact ⟨fun h => h.elim id hlater, .inl⟩
  | true =>
    cases returned with
    | false => simp only [Awaits, returnedIn_cons, hnotback, false_and, false_or]
    | true =>
      simp only [Awaits, restoredIn_cons, returnedIn_cons, hnotback, hnotrestore, hgone,
        Bool.false_eq_true, not_true_eq_false, false_and, or_self, false_or]

theorem awaits_back {returned : Bool} (hback : event.kind = .deviceAvailable) :
    Awaits ⟨true, returned⟩ (event :: events) ↔ Awaits ⟨true, true⟩ events := by
  have hstays : ¬ DepartsAt event := by
    intro hgone
    rw [DepartsAt, hback] at hgone
    obtain h | h := hgone <;> cases h
  have hnotrestore : completesRestore event ≠ true := by
    intro hrestore
    have hkind := hback.symm.trans (completesRestore_kind hrestore)
    cases hkind
  cases returned with
  | false => simp only [Awaits, returnedIn_cons, hback, true_and]
  | true =>
    simp only [Awaits, restoredIn_cons, returnedIn_cons, hback, hstays, hnotrestore,
      Bool.false_eq_true, not_false_eq_true, true_and, false_or]
    exact ⟨fun h => h.elim .inl id, .inr⟩

theorem awaits_other {walk : ReturnWalk} (hstays : ¬ DepartsAt event)
    (hback : ¬ (event.kind = .deviceAvailable ∧ walk.departed = true))
    (hrestore : ¬ (completesRestore event = true ∧ walk.returned = true)) :
    Awaits walk (event :: events) ↔ Awaits walk events := by
  obtain ⟨departed, returned⟩ := walk
  cases departed with
  | false => simp only [Awaits, departedIn_cons, hstays, false_and, false_or]
  | true =>
    have hnotback : event.kind ≠ .deviceAvailable := fun h => hback ⟨h, rfl⟩
    cases returned with
    | false => simp only [Awaits, returnedIn_cons, hnotback, false_and, false_or]
    | true =>
      have hnotrestore : completesRestore event ≠ true := fun h => hrestore ⟨h, rfl⟩
      simp only [Awaits, restoredIn_cons, returnedIn_cons, hnotback, hnotrestore, hstays,
        Bool.false_eq_true, not_false_eq_true, true_and, false_and, false_or]

/-- Without a retained route, the walk looks for a departure, a return and its restore. -/
theorem walkReturn_transition : ∀ (events : List BridgeEvent) (walk : ReturnWalk),
    (walk.returned = true → walk.departed = true) →
    ((∃ evidence, walkReturn .receiverTransition deviceId walk events = .ok evidence) ↔
      Awaits walk events) := by
  intro events
  induction events with
  | nil =>
    intro walk _
    simp only [not_awaits_nil, iff_false]
    intro h
    obtain ⟨evidence, h⟩ := h
    cases h
  | cons event events ih =>
    intro walk hwalk
    simp only [walkReturn, reduceCtorEq, false_and, ↓reduceIte]
    split
    next hgone => rw [ih ⟨true, false⟩ (fun h => by cases h), awaits_gone hgone]
    next hstays =>
      split
      next hback =>
        obtain ⟨departed, returned⟩ := walk
        obtain ⟨hkind, hdeparted⟩ := hback
        dsimp only at hdeparted
        subst hdeparted
        rw [ih ⟨true, true⟩ (fun _ => rfl), awaits_back hkind]
      next hback =>
        split
        next hrestore =>
          obtain ⟨departed, returned⟩ := walk
          obtain ⟨hcompletes, hreturned⟩ := hrestore
          have hdeparted := hwalk hreturned
          dsimp only at hreturned hdeparted
          subst hreturned hdeparted
          have hawaits : Awaits ⟨true, true⟩ (event :: events) := .inl (restoredIn_cons.mpr (.inl hcompletes))
          exact ⟨fun _ => hawaits, fun _ => ⟨_, rfl⟩⟩
        next hrestore => rw [ih walk hwalk, awaits_other hstays hback hrestore]

theorem walkReturn_retained : ∀ (events : List BridgeEvent) (walk : ReturnWalk),
    ((∃ evidence, walkReturn .watchedRetainedRoute deviceId walk events = .ok evidence) ↔
      ∃ event ∈ events, completesRestore event = true) := by
  intro events
  induction events with
  | nil =>
    intro walk
    simp [walkReturn]
  | cons event events ih =>
    intro walk
    by_cases hrestore : completesRestore event = true
    · simp [walkReturn, hrestore]
    simp only [walkReturn, hrestore, Bool.false_eq_true, and_false, false_and, ↓reduceIte,
      mem_cons, exists_eq_or_imp, false_or]
    split
    · exact ih _
    split
    · exact ih _
    · exact ih _

end Walk

section Anchor

variable [CursorDigest]

/-- No two positions of the stream so far have the same cursor digest. -/
def DistinctCursors (log : BoundedEventLog) : Prop :=
  ∀ sequence other : SequenceNumber, sequence ≤ log.latest → other ≤ log.latest →
    CursorDigest.cursorSha256 { log.cursor with sequence := sequence } =
      CursorDigest.cursorSha256 { log.cursor with sequence := other } → sequence = other

variable {log : BoundedEventLog} (subscriptionId : SubscriptionId)

theorem anchorOf_iff (hdistinct : DistinctCursors log) {sequence : SequenceNumber}
    (hpast : sequence ≤ log.latest) (number : Nat) :
    anchorOf (log.retainedEvents subscriptionId)
        (cursorEvidence { log.cursor with sequence := sequence }) = some number ↔
      number = sequence.get ∧ log.oldest.get - 1 ≤ sequence.get := by
  have hcandidate : ∀ candidate : Nat, candidate ≤ log.latest.get →
      ((cursorAt log.cursor candidate).any fun cursor =>
        decide (cursorEvidence cursor = cursorEvidence { log.cursor with sequence := sequence })) =
      decide (candidate = sequence.get) := by
    intro candidate hcandidate
    have hupper := log.latest.upper
    rw [cursorAt, Bounded.tryFrom_of_mem (Nat.zero_le _) (by omega), Option.map_some, Option.any_some]
    by_cases hsame : candidate = sequence.get
    · have hequal : (⟨candidate, Nat.zero_le _, by omega⟩ : SequenceNumber) = sequence := Bounded.ext_get hsame
      rw [hequal, decide_eq_true rfl, decide_eq_true hsame]
    rw [decide_eq_false hsame, decide_eq_false_iff_not]
    intro hdigest
    have hequal := hdistinct ⟨candidate, Nat.zero_le _, by omega⟩ sequence hcandidate hpast
      (EvidenceRef.bridgeCursor.inj hdigest)
    exact hsame (congrArg Bounded.get hequal)
  have hpast' : sequence.get ≤ log.latest.get := hpast
  simp only [anchorOf, BoundedEventLog.retainedEvents]
  rw [find?_range'_eq_some]
  constructor
  · intro h
    obtain ⟨hfound, hmem, -⟩ := h
    rw [mem_range'_1] at hmem
    rw [hcandidate number (by omega), decide_eq_true_iff] at hfound
    exact ⟨hfound, by omega⟩
  intro h
  obtain ⟨rfl, hkept⟩ := h
  refine ⟨?_, mem_range'_1.mpr (by omega), ?_⟩
  · rw [hcandidate _ hpast', decide_eq_true rfl]
  intro earlier hlower hearlier
  rw [hcandidate earlier (by omega), Bool.not_eq_true', decide_eq_false_iff_not]
  omega

end Anchor

end Qualification

end HyperfluxNext
