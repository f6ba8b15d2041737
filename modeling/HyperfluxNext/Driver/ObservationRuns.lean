import HyperfluxNext.KernelTransport.Io

namespace HyperfluxNext

open HfxUapiObservation List Procedure NumberedLog

/-- What the append stores: nothing once the numbers are used up. -/
def recorded (receiver : ObservationRing) (report : ObservationReport) : List HfxUapiObservation :=
  if receiver.nextObservationSequence = u64Max then []
  else [report.numbered (receiver.nextObservationSequence + 1)]

/-- The ring holds the newest of the observations ever stored, numbered from one. -/
structure RingRetains (receiver : ObservationRing) (appended : List HfxUapiObservation) : Prop where
  window : Window sequence appended receiver.observationRing.contents
  next : receiver.nextObservationSequence = appended.length
  count : receiver.observationRing.count = min appended.length hfxObservationCapacity

theorem RingRetains.empty (generation : Nat) : RingRetains (.empty generation) [] := ⟨.nil, rfl, rfl⟩

variable {receiver : ObservationRing} {appended : List HfxUapiObservation}
  {reader : ObservationReader}

theorem RingRetains.append (h : RingRetains receiver appended) (report : ObservationReport) :
    RingRetains (hfxObservationAppendLocked receiver report) (appended ++ recorded receiver report) := by
  unfold hfxObservationAppendLocked recorded
  by_cases hfull : receiver.nextObservationSequence = u64Max
  · rw [if_pos hfull, if_pos hfull, append_nil]
    exact h
  rw [if_neg hfull, if_neg hfull]
  have hnumber : (report.numbered (receiver.nextObservationSequence + 1)).sequence = appended.length + 1 := by
    rw [← h.next]
    rfl
  constructor
  · show Window _ _ (receiver.observationRing.push _).contents
    rw [RingBuffer.push_contents]
    by_cases hroom : receiver.observationRing.count < hfxObservationCapacity
    · rw [if_pos hroom, drop_zero]
      exact h.window.push hnumber
    rw [if_neg hroom]
    exact h.window.push_drop hnumber
  · rw [length_append, length_singleton, ← h.next]
  have hcount := h.count
  rw [length_append, length_singleton]
  show (if receiver.observationRing.count < hfxObservationCapacity then _ else _) = _
  split <;> omega

/-- The loop adds the wanted observations of the offsets behind those already in the batch. -/
theorem collectObservations_batch (ring : RingBuffer HfxUapiObservation hfxObservationCapacity)
    (offsets : List Nat) (query : HfxUapiReadObservations)
    (hlength : query.observations.length = hfxUapiMaxObservations)
    (hcount : query.count ≤ hfxUapiMaxObservations) :
    (collectObservations ring offsets query).observations.take (collectObservations ring offsets query).count =
      query.observations.take query.count ++
        (((offsets.map fun offset => ring.slot (ring.start + offset)).filter fun observation =>
          query.afterSequence < observation.sequence).take (hfxUapiMaxObservations - query.count)) ∧
    (collectObservations ring offsets query).count ≤ hfxUapiMaxObservations ∧
    (collectObservations ring offsets query).observations.length = hfxUapiMaxObservations := by
  induction offsets generalizing query with
  | nil =>
    refine ⟨?_, hcount, hlength⟩
    rw [map_nil, filter_nil, take_nil, append_nil]
    rfl
  | cons offset offsets ih =>
    unfold collectObservations
    by_cases hroom : query.count < hfxUapiMaxObservations
    · rw [if_pos hroom, map_cons]
      dsimp only
      by_cases hold : (ring.slot (ring.start + offset)).sequence ≤ query.afterSequence
      · rw [if_pos hold, filter_cons_of_neg (by simpa using hold)]
        exact ih query hlength hcount
      have hbound : query.count < query.observations.length := by omega
      have hnext := ih
        { query with
          count := query.count + 1
          observations := query.observations.set query.count (ring.slot (ring.start + offset)) }
        (by rw [length_set, hlength]) hroom
      rw [if_neg hold, filter_cons_of_pos (by simpa using hold)]
      refine ⟨?_, hnext.2⟩
      rw [hnext.1]
      have htake : (query.observations.set query.count (ring.slot (ring.start + offset))).take
          (query.count + 1) = query.observations.take query.count ++ [ring.slot (ring.start + offset)] := by
        rw [take_add_one, getElem?_set_self hbound, take_set_of_le (Nat.le_refl _)]
        rfl
      have hrest : hfxUapiMaxObservations - query.count = hfxUapiMaxObservations - (query.count + 1) + 1 := by
        omega
      rw [htake, hrest, take_succ_cons, append_assoc]
      rfl
    · have hnone : hfxUapiMaxObservations - query.count = 0 := by omega
      rw [if_neg hroom, hnone, take_zero, append_nil]
      exact ⟨rfl, hcount, hlength⟩

theorem collectObservations_keeps (ring : RingBuffer HfxUapiObservation hfxObservationCapacity)
    (offsets : List Nat) (query : HfxUapiReadObservations) :
    (collectObservations ring offsets query).version = query.version ∧
      (collectObservations ring offsets query).size = query.size ∧
      (collectObservations ring offsets query).receiverGeneration = query.receiverGeneration ∧
      (collectObservations ring offsets query).flags = query.flags := by
  induction offsets generalizing query with
  | nil => exact ⟨rfl, rfl, rfl, rfl⟩
  | cons offset offsets ih =>
    unfold collectObservations
    split
    · dsimp only
      split
      · exact ih query
      · exact ih _
    · exact ⟨rfl, rfl, rfl, rfl⟩

/-- What a read answers, for the observations the ring still holds. -/
structure ReadBatch (appended kept : List HfxUapiObservation) (query batch : HfxUapiReadObservations) :
    Prop where
  version : batch.version = hfxUapiAbiVersion
  size : batch.size = hfxUapiReadObservationsBytes
  generation : batch.receiverGeneration = query.receiverGeneration
  after_le : query.afterSequence ≤ appended.length
  observations : batch.observations.take batch.count =
    (kept.filter fun observation => query.afterSequence < observation.sequence).take hfxUapiMaxObservations
  count_le : batch.count ≤ hfxUapiMaxObservations
  length : batch.observations.length = hfxUapiMaxObservations
  oldest : batch.oldestSequence = if kept = [] then 0 else appended.length - kept.length + 1
  latest : batch.latestSequence = appended.length
  flags : batch.flags = if query.afterSequence ≠ 0 ∧
    query.afterSequence < appended.length - kept.length then hfxUapiObservationBatchFlagCursorGap else 0

theorem RingRetains.oldest
    (h : RingRetains receiver appended) (hcount : receiver.observationRing.count ≠ 0) :
    (receiver.observationRing.slot receiver.observationRing.start).sequence =
      appended.length - receiver.observationRing.contents.length + 1 := by
  have hpositive : 0 < receiver.observationRing.contents.length := by
    rw [RingBuffer.contents_length]
    omega
  have hnumbers := h.window.window_numbers
  have hfirst := congrArg (fun numbers => numbers[0]?) hnumbers
  simp only [getElem?_map, getElem?_eq_getElem hpositive, RingBuffer.contents_getElem,
    Nat.add_zero, Option.map_some, getElem?_range' hpositive, Nat.mul_zero] at hfirst
  exact Option.some.inj hfirst

theorem hfxObservationRead_batch
    (h : RingRetains receiver appended) {query batch : HfxUapiReadObservations}
    (hread : hfxObservationRead receiver query = .ok batch) :
    ReadBatch appended receiver.observationRing.contents query batch := by
  unfold hfxObservationRead at hread
  split at hread
  · cases hread
  next hheader =>
  split at hread
  · cases hread
  next hgeneration =>
  split at hread
  · cases hread
  next hclean =>
  split at hread
  · cases hread
  next hafter =>
  obtain ⟨hversion, hsize⟩ := not_or.mp hheader
  obtain ⟨_, hclean⟩ := not_or.mp hclean
  obtain ⟨_, hclean⟩ := not_or.mp hclean
  obtain ⟨hflags, hclean⟩ := not_or.mp hclean
  obtain ⟨hcount, hobservations⟩ := not_or.mp hclean
  have hflags : query.flags = 0 := not_not.mp hflags
  have hcount : query.count = 0 := not_not.mp hcount
  have hlength : query.observations.length = hfxUapiMaxObservations := by
    rw [not_not.mp hobservations, length_replicate]
  have hafter : query.afterSequence ≤ appended.length := by
    rw [← h.next]
    exact Nat.not_lt.mp hafter
  have hkept := RingBuffer.contents_length receiver.observationRing
  dsimp only at hread
  by_cases hempty : receiver.observationRing.count = 0
  · rw [if_pos hempty] at hread
    have hnothing : receiver.observationRing.contents = [] := by
      apply eq_nil_of_length_eq_zero
      rw [hkept, hempty]
    have hnever : appended.length = 0 := by
      have := h.count
      have : 0 < hfxObservationCapacity := by decide
      omega
    cases hread
    refine ⟨not_not.mp hversion, not_not.mp hsize, rfl, hafter, ?_, ?_, hlength, ?_, h.next, ?_⟩
    · rw [hnothing]
      show query.observations.take query.count = _
      rw [hcount, take_zero, filter_nil, take_nil]
    · show query.count ≤ _
      omega
    · rw [hnothing]
      rfl
    rw [if_neg (by omega)]
    exact hflags
  · rw [if_neg hempty, h.oldest hempty] at hread
    have hsome : receiver.observationRing.contents ≠ [] := by
      intro hnothing
      rw [hnothing] at hkept
      exact hempty hkept.symm
    have hfits := h.window.length_le
    have hgap : (query.afterSequence ≠ 0 ∧
        query.afterSequence < appended.length - receiver.observationRing.contents.length + 1 ∧
        1 < appended.length - receiver.observationRing.contents.length + 1 - query.afterSequence) ↔
        (query.afterSequence ≠ 0 ∧
          query.afterSequence < appended.length - receiver.observationRing.contents.length) := by
      omega
    have hflagged : ∃ flagged : HfxUapiReadObservations,
        (if query.afterSequence ≠ 0 ∧
            query.afterSequence < appended.length - receiver.observationRing.contents.length + 1 ∧
            1 < appended.length - receiver.observationRing.contents.length + 1 - query.afterSequence then
          { query with flags := query.flags ||| hfxUapiObservationBatchFlagCursorGap }
        else query) = flagged ∧
        flagged = { query with flags := if query.afterSequence ≠ 0 ∧
          query.afterSequence < appended.length - receiver.observationRing.contents.length then
            hfxUapiObservationBatchFlagCursorGap else 0 } := by
      by_cases hmissing : query.afterSequence ≠ 0 ∧
          query.afterSequence < appended.length - receiver.observationRing.contents.length
      · refine ⟨_, if_pos (hgap.mpr hmissing), ?_⟩
        rw [if_pos hmissing, hflags]
        rfl
      refine ⟨_, if_neg (fun hbad => hmissing (hgap.mp hbad)), ?_⟩
      rw [if_neg hmissing, ← hflags]
    obtain ⟨flagged, hite, hflagged⟩ := hflagged
    rw [hite] at hread
    have hbatch := collectObservations_batch receiver.observationRing
      (List.range receiver.observationRing.count) flagged (by rw [hflagged]; exact hlength)
      (by rw [hflagged]; show query.count ≤ _; omega)
    have hkeeps := collectObservations_keeps receiver.observationRing
      (List.range receiver.observationRing.count) flagged
    cases hread
    refine ⟨?_, ?_, ?_, hafter, ?_, hbatch.2.1, hbatch.2.2, ?_, h.next, ?_⟩
    · exact hkeeps.1.trans (by rw [hflagged]; exact not_not.mp hversion)
    · exact hkeeps.2.1.trans (by rw [hflagged]; exact not_not.mp hsize)
    · exact hkeeps.2.2.1.trans (by rw [hflagged])
    · refine hbatch.1.trans ?_
      rw [hflagged]
      show query.observations.take query.count ++ List.take (_ - query.count) _ = _
      rw [hcount, take_zero, nil_append]
      rfl
    · rw [if_neg hsome]
    · exact hkeeps.2.2.2.trans (by rw [hflagged])

variable {appended kept : List HfxUapiObservation} {query batch : HfxUapiReadObservations}

def HfxUapiReadObservations.cursorGap (batch : HfxUapiReadObservations) : Prop :=
  batch.flags &&& hfxUapiObservationBatchFlagCursorGap ≠ 0

instance : Decidable batch.cursorGap :=
  inferInstanceAs (Decidable (batch.flags &&& hfxUapiObservationBatchFlagCursorGap ≠ 0))

theorem ReadBatch.cursorGap_iff (h : ReadBatch appended kept query batch) :
    batch.cursorGap ↔ query.afterSequence ≠ 0 ∧ query.afterSequence < appended.length - kept.length := by
  unfold HfxUapiReadObservations.cursorGap
  rw [h.flags]
  by_cases hgap : query.afterSequence ≠ 0 ∧ query.afterSequence < appended.length - kept.length
  · rw [if_pos hgap]
    exact iff_of_true (by decide) hgap
  rw [if_neg hgap]
  exact iff_of_false (by decide) hgap

theorem sequence_at (hwindow : Window sequence appended kept) {position : Nat}
    (h : position < appended.length) : appended[position].sequence = position + 1 := by
  have hnumbers := congrArg (fun numbers => numbers[position]?) hwindow.numbers
  simp only [getElem?_map, getElem?_eq_getElem h, Option.map_some, getElem?_range' h, Nat.one_mul] at hnumbers
  have hsequence := Option.some.inj hnumbers
  omega

/-- An observation has left the ring exactly when its number is before the kept ones. -/
theorem overwritten_iff (hwindow : Window sequence appended kept)
    {observation : HfxUapiObservation} (h : observation ∈ appended) :
    observation ∉ kept ↔ observation.sequence ≤ appended.length - kept.length := by
  obtain ⟨position, hposition, heq⟩ := mem_iff_getElem.mp h
  have hsequence := sequence_at hwindow hposition
  rw [heq] at hsequence
  constructor
  · intro hlost
    by_contra hlate
    apply hlost
    rw [hwindow.eq_drop, mem_iff_getElem]
    refine ⟨position - (appended.length - kept.length), ?_, ?_⟩
    · rw [length_drop]
      omega
    rw [getElem_drop]
    refine Eq.trans ?_ heq
    congr 1
    omega
  intro hearly hkept
  rw [hwindow.eq_drop] at hkept
  obtain ⟨index, hindex, hat⟩ := mem_iff_getElem.mp hkept
  rw [length_drop] at hindex
  rw [getElem_drop] at hat
  have hposition : appended.length - kept.length + index < appended.length := by omega
  have hlate := sequence_at hwindow hposition
  rw [hat] at hlate
  omega

theorem ReadBatch.gap_overwritten (h : ReadBatch appended kept query batch)
    (hwindow : Window sequence appended kept) (hafter : 1 ≤ query.afterSequence) :
    batch.cursorGap ↔ ∃ observation ∈ appended,
      query.afterSequence < observation.sequence ∧ observation ∉ kept := by
  rw [h.cursorGap_iff]
  constructor
  · intro hgap
    have hposition : query.afterSequence < appended.length := by omega
    have hsequence := sequence_at hwindow hposition
    refine ⟨appended[query.afterSequence], getElem_mem hposition, by omega, ?_⟩
    rw [overwritten_iff hwindow (getElem_mem hposition), hsequence]
    omega
  intro hlost
  obtain ⟨observation, hmem, hlater, hlost⟩ := hlost
  rw [overwritten_iff hwindow hmem] at hlost
  omega

theorem ReadBatch.next (h : ReadBatch appended kept query batch)
    (hwindow : Window sequence appended kept) (hafter : 1 ≤ query.afterSequence)
    (hgap : ¬ batch.cursorGap) : batch.observations.take batch.count =
      (appended.drop query.afterSequence).take hfxUapiMaxObservations := by
  rw [h.cursorGap_iff] at hgap
  rw [h.observations, hwindow.after (by omega)]

theorem ReadBatch.empty (h : ReadBatch appended kept query batch)
    (hwindow : Window sequence appended kept) (hafter : 1 ≤ query.afterSequence)
    (hgap : ¬ batch.cursorGap) (hempty : batch.count = 0) :
    ∀ observation ∈ appended, observation.sequence ≤ query.afterSequence := by
  have hnext := h.next hwindow hafter hgap
  rw [hempty, take_zero] at hnext
  have hlength := congrArg List.length hnext
  rw [length_take, length_drop, length_nil] at hlength
  have hcapacity : 0 < hfxUapiMaxObservations := by decide
  intro observation hmem
  obtain ⟨position, hposition, heq⟩ := mem_iff_getElem.mp hmem
  have hsequence := sequence_at hwindow hposition
  rw [heq] at hsequence
  omega

theorem unordered_of_pairwise {observations : List HfxUapiObservation}
    (h : observations.Pairwise fun first second => first.sequence < second.sequence) :
    unordered observations = false := by
  induction observations with
  | nil => rfl
  | cons first rest ih =>
    cases rest with
    | nil => rfl
    | cons second rest =>
      obtain ⟨hfirst, hrest⟩ := pairwise_cons.mp h
      have hlt := hfirst second mem_cons_self
      unfold unordered
      rw [ih hrest, Bool.or_false, decide_eq_false_iff_not]
      omega

/-- The decoder accepts what the kernel answers, and reads the same batch in it. -/
theorem decodeObservations_accepts (h : ReadBatch appended kept query batch)
    (hwindow : Window sequence appended kept) :
    ∃ decoded, decodeObservations query.receiverGeneration query.afterSequence batch = .ok decoded ∧
      decoded.observations = batch.observations.take batch.count ∧
      (decoded.cursorGap = true ↔ batch.cursorGap) := by
  have hflags : batch.flags &&& ~~~hfxUapiObservationBatchFlagCursorGap = 0 := by
    rw [h.flags]
    split <;> decide
  have hmem : ∀ item ∈ batch.observations.take batch.count,
      query.afterSequence < item.sequence ∧ item ∈ kept := by
    intro item hitem
    rw [h.observations] at hitem
    obtain ⟨hkept, hafter⟩ := mem_filter.mp (mem_of_mem_take hitem)
    exact ⟨of_decide_eq_true hafter, hkept⟩
  have hordered : unordered (batch.observations.take batch.count) = false := by
    apply unordered_of_pairwise
    have hkept : kept.Pairwise fun first second => first.sequence < second.sequence := by
      rw [← pairwise_map (f := sequence), hwindow.window_numbers]
      exact pairwise_lt_range'
    rw [h.observations]
    exact (hkept.sublist filter_sublist).sublist (take_sublist _ _)
  have hbounds : ∀ item ∈ kept, batch.oldestSequence ≤ item.sequence ∧
      item.sequence ≤ batch.latestSequence := by
    intro item hitem
    have hsome : kept ≠ [] := ne_nil_of_mem hitem
    have hin : item ∈ appended := hwindow.suffix.subset hitem
    have hearly := mt (overwritten_iff hwindow hin).mpr (not_not.mpr hitem)
    obtain ⟨position, hposition, heq⟩ := mem_iff_getElem.mp hin
    have hsequence := sequence_at hwindow hposition
    rw [heq] at hsequence
    rw [h.oldest, h.latest, if_neg hsome]
    omega
  have hrange : batch.oldestSequence ≤ batch.latestSequence := by
    by_cases hnone : kept = []
    · rw [h.oldest, if_pos hnone]
      exact Nat.zero_le _
    obtain ⟨item, hitem⟩ := exists_mem_of_ne_nil kept hnone
    have := hbounds item hitem
    omega
  refine ⟨⟨query.receiverGeneration, batch.oldestSequence, batch.latestSequence,
    batch.flags &&& hfxUapiObservationBatchFlagCursorGap ≠ 0,
    batch.observations.take batch.count⟩, ?_, rfl, decide_eq_true_iff⟩
  unfold decodeObservations
  rw [reject_of_not (not_or.mpr ⟨not_not.mpr h.version, not_not.mpr h.size⟩),
    reject_of_not (not_not.mpr h.generation),
    reject_of_not (not_or.mpr ⟨Nat.not_lt.mpr h.count_le, not_not.mpr hflags⟩)]
  show (reject _ _ >>= _) = _
  rw [reject_of_not]
  · rfl
  intro hbad
  obtain hbad | hbad | hbad | hbad := hbad
  · obtain ⟨item, hitem, hle⟩ := any_eq_true.mp hbad
    have hle := of_decide_eq_true hle
    have := (hmem item hitem).1
    omega
  · exact Bool.false_ne_true (hordered.symm.trans hbad)
  · obtain ⟨item, hitem, hout⟩ := any_eq_true.mp hbad
    have hout := of_decide_eq_true hout
    have := hbounds item (hmem item hitem).2
    omega
  · omega

/-! A reader that presents the last sequence it received, between the appends. -/

structure ObservationReader where
  receiver : ObservationRing
  appended : List HfxUapiObservation
  cursor : Nat
  received : List HfxUapiObservation
  flagged : Bool

inductive ObservationEvent where
  | append (report : ObservationReport)
  | read

def observationRequest (generation cursor : Nat) : HfxUapiReadObservations where
  version := hfxUapiAbiVersion
  size := hfxUapiReadObservationsBytes
  receiverGeneration := generation
  afterSequence := cursor

def ObservationReader.start (generation cursor : Nat) : ObservationReader where
  receiver := .empty generation
  appended := []
  cursor := cursor
  received := []
  flagged := false

def ObservationReader.step (reader : ObservationReader) : ObservationEvent → ObservationReader
  | .append report =>
    { reader with
      receiver := hfxObservationAppendLocked reader.receiver report
      appended := reader.appended ++ recorded reader.receiver report }
  | .read =>
    match hfxObservationRead reader.receiver (observationRequest reader.receiver.generation reader.cursor) with
    | .error _ => reader
    | .ok batch =>
      let observations := batch.observations.take batch.count
      { reader with
        cursor := (observations.getLast?.map sequence).getD reader.cursor
        received := reader.received ++ observations
        flagged := reader.flagged || batch.cursorGap }

def ObservationReader.run (reader : ObservationReader) (events : List ObservationEvent) : ObservationReader :=
  events.foldl ObservationReader.step reader

structure ReaderInvariant (start : Nat) (reader : ObservationReader) : Prop where
  retains : RingRetains reader.receiver reader.appended
  start_le : start ≤ reader.cursor
  cursor_le : reader.cursor = start ∨ reader.cursor ≤ reader.appended.length
  received : reader.flagged = false →
    reader.received = (reader.appended.drop start).take (reader.cursor - start)

theorem ReaderInvariant.start (generation cursor : Nat) : ReaderInvariant cursor (.start generation cursor) :=
  ⟨.empty generation, Nat.le_refl _, .inl rfl, fun _ => by simp [ObservationReader.start]⟩

theorem ReaderInvariant.append {start : Nat}
    (h : ReaderInvariant start reader) (report : ObservationReport) :
    ReaderInvariant start (reader.step (.append report)) := by
  constructor
  · exact h.retains.append report
  · exact h.start_le
  · obtain hsame | hle := h.cursor_le
    · exact .inl hsame
    right
    show reader.cursor ≤ (reader.appended ++ _).length
    rw [length_append]
    omega
  intro hflagged
  show reader.received = ((reader.appended ++ _).drop start).take (reader.cursor - start)
  rw [h.received hflagged]
  obtain hsame | hle := h.cursor_le
  · rw [hsame, Nat.sub_self, take_zero, take_zero]
  have hstart := h.start_le
  rw [drop_append_of_le_length (by omega), take_append_of_le_length]
  rw [length_drop]
  omega

theorem ReadBatch.cursor_le (h : ReadBatch appended kept query batch)
    (hwindow : Window sequence appended kept) :
    query.afterSequence ≤ (((batch.observations.take batch.count).getLast?.map
        sequence).getD query.afterSequence) ∧
      (((batch.observations.take batch.count).getLast?.map
        sequence).getD query.afterSequence) ≤ appended.length := by
  cases hlast : (batch.observations.take batch.count).getLast? with
  | none => exact ⟨Nat.le_refl _, h.after_le⟩
  | some observation =>
    have hmem := mem_of_getLast? hlast
    rw [h.observations] at hmem
    obtain ⟨hkept, hafter⟩ := mem_filter.mp (mem_of_mem_take hmem)
    have hafter := of_decide_eq_true hafter
    obtain ⟨position, hposition, heq⟩ := mem_iff_getElem.mp (hwindow.suffix.subset hkept)
    have hsequence := sequence_at hwindow hposition
    rw [heq] at hsequence
    show query.afterSequence ≤ observation.sequence ∧ observation.sequence ≤ appended.length
    omega

theorem ReaderInvariant.read {start : Nat} (hstart : 1 ≤ start)
    (h : ReaderInvariant start reader) : ReaderInvariant start (reader.step .read) := by
  unfold ObservationReader.step
  dsimp only
  split
  · exact h
  next batch hread =>
    have hbatch := hfxObservationRead_batch h.retains hread
    have hwindow := h.retains.window
    have hcursor : (observationRequest reader.receiver.generation reader.cursor).afterSequence =
        reader.cursor := rfl
    have hbounds := hbatch.cursor_le hwindow
    have hle := h.start_le
    have hafter := hbatch.after_le
    rw [hcursor] at hbounds hafter
    constructor
    · exact h.retains
    · exact Nat.le_trans hle hbounds.1
    · exact .inr hbounds.2
    intro hflagged
    obtain ⟨hbefore, hflag⟩ := Bool.or_eq_false_iff.mp hflagged
    have hgap : ¬ batch.cursorGap := of_decide_eq_false hflag
    have hnext := hbatch.next hwindow (by omega) hgap
    rw [hcursor] at hnext
    show reader.received ++ _ = (reader.appended.drop start).take (_ - start)
    rw [h.received hbefore, hnext, hwindow.last_after]
    have hsplit : reader.cursor + min hfxUapiMaxObservations (reader.appended.length - reader.cursor) -
        start = (reader.cursor - start) +
          min hfxUapiMaxObservations (reader.appended.length - reader.cursor) := by
      omega
    rw [hsplit, take_add, drop_drop]
    have hdrop : start + (reader.cursor - start) = reader.cursor := by omega
    rw [hdrop]
    congr 1
    rw [← length_drop, ← take_eq_take_min]

theorem ReaderInvariant.run {start : Nat} (hstart : 1 ≤ start)
    (h : ReaderInvariant start reader) (events : List ObservationEvent) :
    ReaderInvariant start (reader.run events) := by
  induction events generalizing reader with
  | nil => exact h
  | cons event events ih =>
    apply ih
    cases event with
    | append report => exact h.append report
    | read => exact h.read hstart

/-- A well-formed read is answered unless it claims more than there ever was. -/
theorem hfxObservationRead_ok (receiver : ObservationRing) (after : Nat) :
    (∃ batch, hfxObservationRead receiver (observationRequest receiver.generation after) = .ok batch) ↔
      after ≤ receiver.nextObservationSequence := by
  unfold hfxObservationRead observationRequest
  rw [if_neg (by simp), if_neg (by simp), if_neg (by simp)]
  dsimp only
  by_cases hafter : receiver.nextObservationSequence < after
  · rw [if_pos hafter]
    refine iff_of_false (fun hread => ?_) (by omega)
    obtain ⟨_, hread⟩ := hread
    cases hread
  · rw [if_neg hafter]
    refine iff_of_true ?_ (by omega)
    split
    · exact ⟨_, rfl⟩
    · exact ⟨_, rfl⟩

/-- A reader is answered, is told of every loss, misses nothing while it is told of none, and its decoder
takes whatever the ring answers. -/
theorem observationRing_reads (generation start : Nat) (hstart : 1 ≤ start) (events : List ObservationEvent) :
    let reader := (ObservationReader.start generation start).run events
    reader.appended.map sequence = List.range' 1 reader.appended.length ∧
    (∀ after, (∃ batch, hfxObservationRead reader.receiver
        (observationRequest reader.receiver.generation after) = .ok batch) ↔ after ≤ reader.appended.length) ∧
    (reader.flagged = false → reader.received = (reader.appended.drop start).take (reader.cursor - start)) ∧
    (∀ batch, hfxObservationRead reader.receiver
        (observationRequest reader.receiver.generation reader.cursor) = .ok batch →
      (batch.cursorGap ↔ ∃ observation ∈ reader.appended, reader.cursor < observation.sequence ∧
        observation ∉ reader.receiver.observationRing.contents) ∧
      (¬ batch.cursorGap → batch.count = 0 →
        ∀ observation ∈ reader.appended, observation.sequence ≤ reader.cursor)) ∧
    ∀ query batch, hfxObservationRead reader.receiver query = .ok batch →
      ∃ decoded, decodeObservations query.receiverGeneration query.afterSequence batch = .ok decoded ∧
        decoded.observations = batch.observations.take batch.count ∧
        (decoded.cursorGap = true ↔ batch.cursorGap) := by
  intro reader
  have h : ReaderInvariant start reader := (ReaderInvariant.start generation start).run hstart events
  have hwindow := h.retains.window
  have hcursor : 1 ≤ reader.cursor := Nat.le_trans hstart h.start_le
  refine ⟨hwindow.numbers, fun after => ?_, h.received, ?_, ?_⟩
  · rw [← h.retains.next]
    exact hfxObservationRead_ok reader.receiver after
  · intro batch hread
    have hbatch := hfxObservationRead_batch h.retains hread
    exact ⟨hbatch.gap_overwritten hwindow hcursor, hbatch.empty hwindow hcursor⟩
  intro query batch hread
  exact decodeObservations_accepts (hfxObservationRead_batch h.retains hread) hwindow

def sampleObservations : List ObservationEvent :=
  [.append ⟨5, 1, 1, 1, 1, 1, 0⟩, .append ⟨6, 1, 2, 1, 1, 1, 0⟩, .read, .append ⟨7, 1, 1, 1, 1, 0, 0⟩]

/-- The reader has received the second observation, and its next read will be answered with the third. -/
theorem observationRing_reads_sample :
    let reader := (ObservationReader.start 7 1).run sampleObservations
    reader.flagged = false ∧ reader.cursor = 2 ∧ reader.received = (reader.appended.drop 1).take 1 ∧
      ∃ batch, hfxObservationRead reader.receiver (observationRequest reader.receiver.generation 2) = .ok batch := by
  intro reader
  obtain ⟨-, hanswered, hreceived, -⟩ := observationRing_reads 7 1 (by decide) sampleObservations
  have hflagged : reader.flagged = false := by decide +kernel
  have hcursor : reader.cursor = 2 := by decide +kernel
  refine ⟨hflagged, hcursor, ?_, (hanswered 2).mpr (by decide +kernel)⟩
  have hsame := hreceived hflagged
  rw [show ((ObservationReader.start 7 1).run sampleObservations).cursor = 2 from hcursor] at hsame
  exact hsame

end HyperfluxNext
