import HyperfluxNext.OpenRgb.QueueFacts

namespace HyperfluxNext

namespace DispatchQueue

open EffectRequest DispatchQueue List

variable {queue queue' taken : DispatchQueue} {frame : QueuedLightingFrame} {stableId key : String}
  {nowMs sequence : Nat} {frames : List QueuedLightingFrame}

def framesOf (requests : List EffectRequest) : List QueuedLightingFrame := requests.flatMap (·.frames)

def queuedEffects (queue : DispatchQueue) : List QueuedLightingFrame := framesOf queue.effects

/-- How many sequences have been given out, counted from zero. -/
def issued (queue : DispatchQueue) : Nat :=
  if queue.sequenceExhausted then u64Max + 1 else queue.nextSequence

structure Sound (queue : DispatchQueue) : Prop where
  stable : ∀ request ∈ queue.stable, request.Sound
  effects : ∀ request ∈ queue.effects, request.Sound
  single : (queue.queuedEffects.map (·.stableId)).Nodup
  counted : queue.effectTargetSize = queue.queuedEffects.length
  bounded : queue.effectTargetSize ≤ queue.config.effectTargetCapacity ∧
    queue.effectTargetSize ≤ queueCapacityMaximum
  sequence : queue.nextSequence ≤ u64Max
  ordered : (queue.stable.map (·.sequence)).Pairwise (· < ·)
  distinct : (queue.stable.map (·.sequence) ++ queue.effects.map (·.sequence)).Nodup
  below : ∀ sequence ∈ queue.stable.map (·.sequence) ++ queue.effects.map (·.sequence), sequence < queue.issued

theorem new_sound (config : DispatchQueueConfig) (initialSequence : SequenceNumber) :
    (new config initialSequence.get).Sound :=
  ⟨fun _ h => absurd h not_mem_nil, fun _ h => absurd h not_mem_nil, nodup_nil, rfl,
    ⟨Nat.zero_le _, Nat.zero_le _⟩, initialSequence.upper, List.Pairwise.nil, nodup_nil,
    fun _ h => absurd h not_mem_nil⟩

theorem takeSequence_some (hsequence : queue.nextSequence ≤ u64Max)
    (h : queue.takeSequence = some (sequence, taken)) :
    sequence = queue.issued ∧ taken.issued = queue.issued + 1 ∧ taken.nextSequence ≤ u64Max ∧
      taken.config = queue.config ∧ taken.stable = queue.stable ∧ taken.effects = queue.effects ∧
      taken.effectTargetSize = queue.effectTargetSize ∧ taken.lastReceiverKey = queue.lastReceiverKey := by
  unfold takeSequence at h
  split at h
  · cases h
  next hopen =>
    have hissued : queue.issued = queue.nextSequence := by
      unfold issued
      rw [if_neg hopen]
    split at h
    next hlast =>
      cases h
      refine ⟨hissued.symm, ?_, hsequence, rfl, rfl, rfl, rfl, rfl⟩
      rw [hissued, hlast]
      rfl
    next hmore =>
      cases h
      refine ⟨hissued.symm, ?_, ?_, rfl, rfl, rfl, rfl, rfl⟩
      · rw [hissued]
        unfold issued
        rw [if_neg hopen]
      show queue.nextSequence + 1 ≤ u64Max
      omega

section Lists

variable {requests requests' : List EffectRequest} {disposition : EnqueueDisposition} (request : EffectRequest)

theorem framesOf_append (requests requests' : List EffectRequest) :
    framesOf (requests ++ requests') = framesOf requests ++ framesOf requests' := by
  unfold framesOf
  exact flatMap_append

theorem framesOf_cons (requests : List EffectRequest) :
    framesOf (request :: requests) = request.frames ++ framesOf requests := by
  unfold framesOf
  exact flatMap_cons

theorem coalesce_none (hsound : ∀ request ∈ requests, request.Sound) (h : coalesce frame requests = none) :
    frame.stableId ∉ (framesOf requests).map (·.stableId) := by
  induction requests with
  | nil => exact not_mem_nil
  | cons request requests ih =>
    unfold coalesce at h
    split at h
    · split at h <;> cases h
    next hnone =>
      have hrest := ih (fun other hother => hsound other (mem_cons_of_mem _ hother))
        (Option.map_eq_none_iff.mp h)
      have hfirst := (hsound request mem_cons_self).toGrouped.holder_none hnone
      rw [framesOf_cons, map_append, mem_append, not_or]
      exact ⟨hfirst, hrest⟩

/-- A frame that is not new is another receiver's, or takes the place of the one before it. -/
theorem coalesce_some (h : coalesce frame requests = some (disposition, requests')) :
    (disposition = .rejectedInvalid ∧ requests' = requests ∧
        ∃ request ∈ requests, ∃ key group old, request.receiverFrames[key]? = some group ∧
          group[frame.stableId]? = some old ∧ key ≠ frame.key) ∨
      disposition = .coalesced ∧ ∃ earlier request later old, requests = earlier ++ request :: later ∧
        requests' = earlier ++ request.replace frame.key frame :: later ∧
        (request.group frame.key)[frame.stableId]? = some old := by
  induction requests generalizing requests' with
  | nil => cases h
  | cons request requests ih =>
    unfold coalesce at h
    split at h
    next key hkey =>
      obtain ⟨group, old, hgroup, hold⟩ := holder_some hkey
      split at h
      next hother =>
        cases h
        exact .inl ⟨rfl, rfl, request, mem_cons_self, key, group, old, hgroup, hold, hother⟩
      next hown =>
        cases h
        have hsame : key = frame.key := Decidable.not_not.mp hown
        refine .inr ⟨rfl, [], request, requests, old, rfl, by rw [hsame]; rfl, ?_⟩
        rw [← hsame, group_of_getElem? hgroup]
        exact hold
    obtain ⟨⟨answer, rest⟩, hcoalesced, hresult⟩ := Option.map_eq_some_iff.mp h
    cases hresult
    obtain ⟨hinvalid, hsame, other, hother, hfound⟩ | ⟨hdone, earlier, found, later, old, hbefore, hafter, hold⟩ :=
      ih hcoalesced
    · refine .inl ⟨hinvalid, ?_, other, mem_cons_of_mem _ hother, hfound⟩
      rw [hsame]
    refine .inr ⟨hdone, request :: earlier, found, later, old, ?_, ?_, hold⟩
    · rw [hbefore]
      rfl
    show request :: rest = request :: earlier ++ found.replace frame.key frame :: later
    rw [hafter]
    rfl

/-- What stays of a request that something was taken out of. -/
def remains (request : EffectRequest) : List EffectRequest :=
  if request.receiverFrames.isEmpty then [] else [request]

theorem remains_sound {request : EffectRequest} (h : request.Grouped) : ∀ other ∈ remains request, other.Sound := by
  unfold remains
  split
  · exact fun other hother => absurd hother not_mem_nil
  next hfilled =>
    intro other hother
    rw [mem_singleton.mp hother]
    exact ⟨h, eq_false_of_ne_true hfilled⟩

theorem framesOf_remains : framesOf (remains request) = request.frames := by
  unfold remains
  split
  next hempty =>
    have hnone : request.frames = [] := by
      apply eq_nil_iff_forall_not_mem.mpr
      intro frame hframe
      obtain ⟨key, group, -, hgroup, -⟩ := mem_frames.mp hframe
      rw [OrderedMaps.isEmpty_eq_false.mpr ⟨key, group, hgroup⟩] at hempty
      cases hempty
    rw [hnone]
    rfl
  unfold framesOf
  rw [flatMap_singleton]

theorem withoutEffect_some (h : withoutEffect stableId requests = some requests') :
    ∃ earlier request later key old, requests = earlier ++ request :: later ∧
      requests' = earlier ++ (remains (request.without key stableId) ++ later) ∧
      (request.group key)[stableId]? = some old := by
  induction requests generalizing requests' with
  | nil => cases h
  | cons request requests ih =>
    unfold withoutEffect at h
    split at h
    · obtain ⟨rest, hrest, hresult⟩ := Option.map_eq_some_iff.mp h
      obtain ⟨earlier, found, later, key, old, hbefore, hafter, hold⟩ := ih hrest
      refine ⟨request :: earlier, found, later, key, old, ?_, ?_, hold⟩
      · rw [hbefore]
        rfl
      rw [← hresult, hafter]
      rfl
    next key hkey =>
      obtain ⟨group, old, hgroup, hold⟩ := holder_some hkey
      refine ⟨[], request, requests, key, old, rfl, ?_, ?_⟩
      · rw [nil_append]
        unfold remains
        split at h
        next hempty =>
          cases h
          rw [if_pos hempty]
          rfl
        next hfilled =>
          cases h
          rw [if_neg hfilled]
          rfl
      rw [group_of_getElem? hgroup]
      exact hold

end Lists

section Removal

/-- What an operation that only takes frames out of a queue leaves. -/
structure Removes (queue queue' : DispatchQueue) : Prop where
  config : queue'.config = queue.config
  issued : queue'.nextSequence = queue.nextSequence ∧ queue'.sequenceExhausted = queue.sequenceExhausted
  stable : ∀ request ∈ queue'.stable, request.Sound
  stableSequences : (queue'.stable.map (·.sequence)).Sublist (queue.stable.map (·.sequence))
  effects : ∀ request ∈ queue'.effects, request.Sound
  effectSequences : (queue'.effects.map (·.sequence)).Sublist (queue.effects.map (·.sequence))
  frames : ∃ gone, queue.queuedEffects.Perm (gone ++ queue'.queuedEffects)
  counted : queue'.effectTargetSize = queue'.queuedEffects.length

theorem Sound.refl_removes (h : queue.Sound) : Removes queue queue :=
  ⟨rfl, ⟨rfl, rfl⟩, h.stable, List.Sublist.refl _, h.effects, List.Sublist.refl _, ⟨[], .refl _⟩, h.counted⟩

theorem Removes.trans {queue'' : DispatchQueue} (h : Removes queue queue') (h' : Removes queue' queue'') :
    Removes queue queue'' := by
  obtain ⟨gone, hgone⟩ := h.frames
  obtain ⟨gone', hgone'⟩ := h'.frames
  refine ⟨h'.config.trans h.config, ⟨h'.issued.1.trans h.issued.1, h'.issued.2.trans h.issued.2⟩, h'.stable,
    h'.stableSequences.trans h.stableSequences, h'.effects, h'.effectSequences.trans h.effectSequences,
    ⟨gone ++ gone', ?_⟩, h'.counted⟩
  rw [append_assoc]
  exact hgone.trans (hgone'.append_left gone)

theorem Removes.issued_eq (h : Removes queue queue') : queue'.issued = queue.issued := by
  unfold DispatchQueue.issued
  rw [h.issued.1, h.issued.2]

theorem Sound.removes (h : queue.Sound) (hremoves : Removes queue queue') : queue'.Sound := by
  obtain ⟨gone, hgone⟩ := hremoves.frames
  have hlength : queue'.effectTargetSize ≤ queue.effectTargetSize := by
    have hsum := hgone.length_eq
    rw [length_append] at hsum
    rw [h.counted, hremoves.counted]
    omega
  have hnames := hgone.map (·.stableId)
  rw [map_append] at hnames
  have hsequences := hremoves.stableSequences.append hremoves.effectSequences
  refine ⟨hremoves.stable, hremoves.effects, ?_, hremoves.counted, ?_, ?_, ?_, ?_, ?_⟩
  · exact (nodup_append.mp (hnames.nodup_iff.mp h.single)).2.1
  · rw [hremoves.config]
    exact ⟨hlength.trans h.bounded.1, hlength.trans h.bounded.2⟩
  · rw [hremoves.issued.1]
    exact h.sequence
  · exact h.ordered.sublist hremoves.stableSequences
  · exact h.distinct.sublist hsequences
  intro sequence hsequence
  rw [hremoves.issued_eq]
  exact h.below sequence (hsequences.subset hsequence)

variable {gone : List QueuedLightingFrame}

theorem Sound.size_sub (h : queue.Sound) {kept : List QueuedLightingFrame}
    (hframes : queue.queuedEffects.Perm (gone ++ kept)) :
    sizeSub queue.effectTargetSize gone.length = kept.length := by
  have hsum := hframes.length_eq
  rw [length_append, ← h.counted] at hsum
  have hbound := h.bounded.2
  rw [sizeSub_of_le (by omega) (hbound.trans (by decide))]
  omega

variable {request : EffectRequest}

theorem Sound.withdraw (h : queue.Sound) {earlier later kept : List EffectRequest} {size : Nat}
    (hsize : size = sizeSub queue.effectTargetSize gone.length) (last : Option String)
    (hbefore : queue.effects = earlier ++ request :: later) (hkept : ∀ request ∈ kept, request.Sound)
    (hsequences : (kept.map (·.sequence)).Sublist [request.sequence])
    (hframes : request.frames.Perm (gone ++ framesOf kept)) :
    Removes queue { queue with
      effects := earlier ++ (kept ++ later)
      effectTargetSize := size
      lastReceiverKey := last } := by
  have hsplit : queue.queuedEffects.Perm (gone ++ framesOf (earlier ++ (kept ++ later))) := by
    unfold queuedEffects
    rw [hbefore, framesOf_append, framesOf_cons, framesOf_append, framesOf_append, ← append_assoc]
    refine ((hframes.append_left _).append_right _).trans ?_
    rw [← append_assoc, ← append_assoc, ← append_assoc]
    have hcomm : (framesOf earlier ++ gone).Perm (gone ++ framesOf earlier) := perm_append_comm
    exact (hcomm.append_right _).append_right _
  refine ⟨rfl, ⟨rfl, rfl⟩, h.stable, List.Sublist.refl _, ?_, ?_, ⟨gone, hsplit⟩, hsize.trans (h.size_sub hsplit)⟩
  · intro other hother
    obtain hearlier | hrest := mem_append.mp hother
    · exact h.effects other (by rw [hbefore]; exact mem_append_left _ hearlier)
    obtain hself | hlater := mem_append.mp hrest
    · exact hkept other hself
    exact h.effects other (by
      rw [hbefore]
      exact mem_append_right _ (mem_cons_of_mem _ hlater))
  show ((earlier ++ (kept ++ later)).map (·.sequence)).Sublist (queue.effects.map (·.sequence))
  rw [hbefore, map_append, map_append, map_append]
  apply List.Sublist.append_left
  exact hsequences.append_right (later.map (·.sequence))

theorem remains_sequence (request : EffectRequest) :
    ((remains request).map (·.sequence)).Sublist [request.sequence] := by
  unfold remains
  split
  · exact nil_sublist _
  · exact List.Sublist.refl _

theorem Sound.single_of_mem (h : queue.Sound) (hmem : request ∈ queue.effects) :
    (request.frames.map (·.stableId)).Nodup := by
  obtain ⟨earlier, later, hsplit⟩ := append_of_mem hmem
  have hnames := h.single
  unfold queuedEffects at hnames
  rw [hsplit, framesOf_append, framesOf_cons, map_append, map_append] at hnames
  exact (nodup_append.mp (nodup_append.mp hnames).2.1).1

theorem Sound.eraseEffectTarget (h : queue.Sound) (stableId : String) :
    Removes queue (queue.eraseEffectTarget stableId) := by
  unfold DispatchQueue.eraseEffectTarget
  split
  · exact h.refl_removes
  next requests hwithout =>
    obtain ⟨earlier, request, later, key, old, hbefore, hafter, hold⟩ := withoutEffect_some hwithout
    have hmem : request ∈ queue.effects := by
      rw [hbefore]
      exact mem_append_right _ mem_cons_self
    rw [hafter]
    have hframes : request.frames.Perm ([old] ++ framesOf (remains (request.without key stableId))) := by
      rw [framesOf_remains]
      exact EffectRequest.without_frames hold
    have hsize : sizeSub queue.effectTargetSize 1 = sizeSub queue.effectTargetSize [old].length := by
      rw [length_singleton]
    exact h.withdraw hsize queue.lastReceiverKey hbefore
      (remains_sound ((h.effects request hmem).without hold (h.single_of_mem hmem)))
      (remains_sequence (request.without key stableId)) hframes

theorem Sound.restable (h : queue.Sound) {stable : List StableRequest} (last : Option String)
    (hsound : ∀ request ∈ stable, request.Sound)
    (hsequences : (stable.map (·.sequence)).Sublist (queue.stable.map (·.sequence))) :
    Removes queue { queue with stable := stable, lastReceiverKey := last } :=
  ⟨rfl, ⟨rfl, rfl⟩, hsound, hsequences, h.effects, List.Sublist.refl _, ⟨[], .refl _⟩, h.counted⟩

variable {requests : List StableRequest}

theorem findStable_none (h : findStable key requests = none) :
    ∀ request ∈ requests, request.receiverFrames[key]? = none := by
  induction requests with
  | nil => exact fun _ hmem => absurd hmem not_mem_nil
  | cons request requests ih =>
    unfold findStable at h
    split at h
    · cases h
    next hnone =>
      intro other hother
      obtain hsame | hrest := mem_cons.mp hother
      · rw [hsame]
        exact hnone
      · exact ih h other hrest

theorem findStable_some {request : StableRequest} (h : findStable key requests = some (request, frames)) :
    ∃ earlier later, requests = earlier ++ request :: later ∧
      (∀ other ∈ earlier, other.receiverFrames[key]? = none) ∧ request.receiverFrames[key]? = some frames ∧
      popStable key requests = earlier ++
        ((if (request.withoutGroup key).receiverFrames.isEmpty then [] else [request.withoutGroup key]) ++ later) := by
  induction requests with
  | nil => cases h
  | cons first requests ih =>
    unfold findStable at h
    split at h
    next group hgroup =>
      cases h
      refine ⟨[], requests, rfl, fun _ hmem => absurd hmem not_mem_nil, hgroup, ?_⟩
      unfold popStable
      rw [if_pos (Std.TreeMap.mem_iff_isSome_getElem?.mpr (by rw [hgroup]; rfl))]
      split <;> rfl
    next hnone =>
      obtain ⟨earlier, later, hsplit, hothers, hgroup, hpop⟩ := ih h
      refine ⟨first :: earlier, later, by rw [hsplit]; rfl, ?_, hgroup, ?_⟩
      · intro other hother
        obtain hsame | hrest := mem_cons.mp hother
        · rw [hsame]
          exact hnone
        · exact hothers other hrest
      have hnot : key ∉ first.receiverFrames := by
        rw [Std.TreeMap.mem_iff_isSome_getElem?, hnone]
        exact Bool.false_ne_true
      unfold popStable
      rw [if_neg hnot, hpop]
      rfl

theorem findEffect_some {requests : List EffectRequest} {group : EffectGroup}
    (h : findEffect key nowMs requests = some (request, group)) :
    ∃ earlier later, requests = earlier ++ request :: later ∧ request.receiverFrames[key]? = some group ∧
      popEffect key nowMs requests =
        earlier ++ (remains { request.withoutGroup key with started := true } ++ later) := by
  induction requests with
  | nil => cases h
  | cons first requests ih =>
    have hskip : findEffect key nowMs requests = some (request, group) →
        ¬ (key ∈ first.receiverFrames ∧ ¬ nowMs < first.dueMs) →
        ∃ earlier later, first :: requests = earlier ++ request :: later ∧
          request.receiverFrames[key]? = some group ∧ popEffect key nowMs (first :: requests) =
            earlier ++ (remains { request.withoutGroup key with started := true } ++ later) := by
      intro hlater hnot
      obtain ⟨earlier, later, hsplit, hgroup, hpop⟩ := ih hlater
      refine ⟨first :: earlier, later, by rw [hsplit]; rfl, hgroup, ?_⟩
      unfold popEffect
      rw [if_neg hnot, hpop]
      rfl
    unfold findEffect at h
    split at h
    next found hfound =>
      split at h
      next hearly => exact hskip h fun hboth => hboth.2 hearly
      next hdue =>
        cases h
        refine ⟨[], requests, rfl, hfound, ?_⟩
        have hmem : key ∈ request.receiverFrames :=
          Std.TreeMap.mem_iff_isSome_getElem?.mpr (by rw [hfound]; rfl)
        unfold popEffect
        rw [if_pos ⟨hmem, hdue⟩, nil_append]
        unfold remains
        split <;> rfl
    next hnone =>
      refine hskip h fun hboth => ?_
      rw [Std.TreeMap.mem_iff_isSome_getElem?, hnone] at hboth
      exact Bool.false_ne_true hboth.1

theorem Sound.popReadyFor (h : queue.Sound) (receiverId : ReceiverId) (nowMs : Nat) :
    Removes queue (queue.popReadyFor receiverId nowMs).2 := by
  unfold DispatchQueue.popReadyFor
  dsimp only
  split
  next request frames hfound =>
    obtain ⟨earlier, later, hsplit, -, -, hpop⟩ := findStable_some hfound
    have hmem : request ∈ queue.stable := by
      rw [hsplit]
      exact mem_append_right _ mem_cons_self
    apply h.restable
    · intro other hother
      rw [hpop] at hother
      obtain hearlier | hrest := mem_append.mp hother
      · exact h.stable other (by rw [hsplit]; exact mem_append_left _ hearlier)
      obtain hself | hlater := mem_append.mp hrest
      · split at hself
        · exact absurd hself not_mem_nil
        next hfilled =>
          rw [mem_singleton.mp hself]
          exact ⟨StableRequest.withoutGroup_grouped (h.stable request hmem).toGrouped _,
            eq_false_of_ne_true hfilled⟩
      exact h.stable other (by
        rw [hsplit]
        exact mem_append_right _ (mem_cons_of_mem _ hlater))
    rw [hpop, hsplit, map_append, map_append, map_append]
    apply List.Sublist.append_left
    split
    · exact sublist_cons_self _ _
    · exact List.Sublist.refl _
  · split
    next request group hfound =>
      obtain ⟨earlier, later, hsplit, hgroup, hpop⟩ := findEffect_some hfound
      have hmem : request ∈ queue.effects := by
        rw [hsplit]
        exact mem_append_right _ mem_cons_self
      have hrest := EffectRequest.withoutGroup_grouped (h.effects request hmem).toGrouped (receiverKey receiverId)
      have hframes := request.frames_split (receiverKey receiverId)
      rw [EffectRequest.group_of_getElem? hgroup] at hframes
      rw [hpop]
      refine h.withdraw (by rw [OrderedMaps.size_eq_length_values]) _ hsplit
        (remains_sound ⟨hrest.filled, hrest.named⟩) (remains_sequence _) ?_
      rw [framesOf_remains]
      exact hframes
    · exact h.refl_removes

theorem foldl_sizeSub (groups : List EffectGroup) (size : Nat) (hsize : size ≤ u64Max)
    (hframes : (groups.flatMap (·.values)).length ≤ size) :
    groups.foldl (fun size group => sizeSub size group.size) size = size - (groups.flatMap (·.values)).length := by
  induction groups generalizing size with
  | nil => rfl
  | cons group groups ih =>
    rw [flatMap_cons, length_append] at hframes ⊢
    rw [foldl_cons, OrderedMaps.size_eq_length_values, sizeSub_of_le (by omega) hsize, ih _ (by omega) (by omega)]
    omega

theorem Sound.discardRequest (h : queue.Sound) (sequence : Nat) :
    Removes queue (queue.discardRequest sequence).2 := by
  unfold DispatchQueue.discardRequest
  split
  next request hfound =>
    exact h.restable queue.lastReceiverKey (fun other hother => h.stable other (mem_of_mem_eraseP hother))
      (eraseP_sublist.map _)
  split
  next request hfound =>
    obtain ⟨hsame, earlier, later, hsplit, hothers⟩ := find?_eq_some_iff_append.mp hfound
    have herase : queue.effects.eraseP (·.sequence = sequence) = earlier ++ ([] ++ later) := by
      rw [hsplit, eraseP_append_right _ (fun other hother => by simpa using hothers other hother),
        eraseP_cons_of_pos (p := fun other : EffectRequest => decide (other.sequence = sequence)) hsame, nil_append]
    have hcount : request.frames.length ≤ queue.effectTargetSize := by
      rw [h.counted]
      unfold queuedEffects
      rw [hsplit, framesOf_append, framesOf_cons, length_append, length_append]
      omega
    have hsize : queue.effectTargetSize ≤ u64Max := h.bounded.2.trans (by decide)
    have hgone : request.receiverFrames.values.foldl (fun size group => sizeSub size group.size)
        queue.effectTargetSize = sizeSub queue.effectTargetSize request.frames.length := by
      rw [foldl_sizeSub _ _ hsize hcount, sizeSub_of_le hcount hsize]
      rfl
    rw [herase]
    refine h.withdraw hgone queue.lastReceiverKey hsplit (fun _ hnot => absurd hnot not_mem_nil)
      (nil_sublist _) ?_
    show request.frames.Perm (request.frames ++ [])
    rw [append_nil]
  · exact h.refl_removes

theorem clear_removes (queue : DispatchQueue) : Removes queue queue.clear :=
  ⟨rfl, ⟨rfl, rfl⟩, fun _ h => absurd h not_mem_nil, nil_sublist _, fun _ h => absurd h not_mem_nil,
    nil_sublist _, ⟨queue.queuedEffects, by rw [show queue.clear.queuedEffects = [] from rfl, append_nil]⟩,
    rfl⟩

theorem Sound.discardController (h : queue.Sound) (stableId : String) :
    Removes queue (queue.discardController stableId) := by
  have herased := h.eraseEffectTarget stableId
  refine herased.trans ((h.removes herased).restable _ ?_ ?_)
  · intro request hrequest
    obtain ⟨hmapped, hfilled⟩ := mem_filter.mp hrequest
    obtain ⟨old, hold, hwithout⟩ := mem_map.mp hmapped
    rw [← hwithout] at hfilled ⊢
    exact ⟨((h.removes herased).stable old hold).toGrouped.without stableId, of_decide_eq_true hfilled⟩
  have hmap : ((queue.eraseEffectTarget stableId).stable.map (·.without stableId)).map (·.sequence) =
      (queue.eraseEffectTarget stableId).stable.map (·.sequence) := by
    rw [map_map]
    rfl
  rw [← hmap]
  exact filter_sublist.map _

end Removal

section Growth

/-- A queue with a last effect request that a frame can be added to. -/
structure Opens (queue opened : DispatchQueue) : Prop where
  config : opened.config = queue.config
  stable : opened.stable = queue.stable
  size : opened.effectTargetSize = queue.effectTargetSize
  last : opened.lastReceiverKey = queue.lastReceiverKey
  sequence : opened.nextSequence ≤ u64Max
  issued : queue.issued ≤ opened.issued ∧ opened.issued ≤ queue.issued + 1
  effects : ∃ earlier request, opened.effects = earlier ++ [request] ∧ (∀ other ∈ earlier, other.Sound) ∧
    request.Grouped ∧ queue.queuedEffects = framesOf (earlier ++ [request])
  sequences : opened.effects.map (·.sequence) = queue.effects.map (·.sequence) ∨
    opened.effects.map (·.sequence) = queue.effects.map (·.sequence) ++ [queue.issued] ∧
      opened.issued = queue.issued + 1

theorem empty_grouped (sequence dueMs : Nat) : (⟨sequence, ∅, [], dueMs, false⟩ : EffectRequest).Grouped := by
  constructor
  · intro key group hgroup
    have hgroup : (∅ : Std.TreeMap String EffectGroup)[key]? = some group := hgroup
    rw [Std.TreeMap.getElem?_emptyc] at hgroup
    cases hgroup
  intro key group hgroup
  have hgroup : (∅ : Std.TreeMap String EffectGroup)[key]? = some group := hgroup
  rw [Std.TreeMap.getElem?_emptyc] at hgroup
  cases hgroup

variable {opened : DispatchQueue}

theorem Sound.openEffect (h : queue.Sound) (hopened : queue.openEffect nowMs = some opened) :
    Opens queue opened := by
  unfold DispatchQueue.openEffect at hopened
  split at hopened
  · obtain ⟨⟨sequence, taken⟩, htaken, hresult⟩ := Option.map_eq_some_iff.mp hopened
    obtain ⟨hsequence, hissued, hnext, hconfig, hstable, heffects, hsize, hlast⟩ := takeSequence_some h.sequence htaken
    have hrequests : opened.effects =
        queue.effects ++ [⟨sequence, ∅, [], dueAt nowMs queue.config.effectWindowMs, false⟩] := by
      rw [← hresult, ← heffects]
    have hopenedIssued : opened.issued = queue.issued + 1 := by
      rw [← hissued, ← hresult]
      rfl
    refine ⟨?_, ?_, ?_, ?_, ?_, ⟨by omega, by omega⟩,
      ⟨queue.effects, _, hrequests, h.effects, empty_grouped _ _, ?_⟩, .inr ⟨?_, hopenedIssued⟩⟩
    · rw [← hresult]
      exact hconfig
    · rw [← hresult]
      exact hstable
    · rw [← hresult]
      exact hsize
    · rw [← hresult]
      exact hlast
    · rw [← hresult]
      exact hnext
    · unfold queuedEffects
      rw [framesOf_append]
      exact (append_nil _).symm
    rw [hrequests, map_append, hsequence]
    rfl
  next hlast =>
    cases hopened
    obtain ⟨request, hrequest⟩ : ∃ request, queue.effects.getLast? = some request := by
      apply Option.ne_none_iff_exists'.mp
      intro hnone
      rw [hnone] at hlast
      exact hlast rfl
    obtain ⟨earlier, hsplit⟩ := getLast?_eq_some_iff.mp hrequest
    refine ⟨rfl, rfl, rfl, rfl, h.sequence, ⟨le_refl _, Nat.le_succ _⟩, ⟨earlier, request, hsplit, ?_, ?_, ?_⟩, .inl rfl⟩
    · exact fun other hother => h.effects other (by rw [hsplit]; exact mem_append_left _ hother)
    · exact (h.effects request (by rw [hsplit]; exact mem_append_right _ mem_cons_self)).toGrouped
    unfold queuedEffects
    rw [hsplit]

theorem Sound.coalesce (h : queue.Sound) {disposition : EnqueueDisposition} {effects : List EffectRequest}
    (hcoalesced : coalesce frame queue.effects = some (disposition, effects)) :
    { queue with effects := effects }.Sound := by
  obtain ⟨-, hsame, -⟩ | ⟨-, earlier, request, later, old, hbefore, hafter, hold⟩ := coalesce_some hcoalesced
  · rw [hsame]
    exact h
  have hmem : request ∈ queue.effects := by
    rw [hbefore]
    exact mem_append_right _ mem_cons_self
  have hsound := h.effects request hmem
  obtain ⟨rest, hhere, hthere⟩ := replace_frames hold
  have hsplit : queue.queuedEffects.Perm (old :: (framesOf earlier ++ (rest ++ framesOf later))) := by
    unfold queuedEffects
    rw [hbefore, framesOf_append, framesOf_cons]
    exact ((hhere.append_right _).append_left _).trans perm_middle
  have hsplit' : (framesOf effects).Perm (frame :: (framesOf earlier ++ (rest ++ framesOf later))) := by
    rw [hafter, framesOf_append, framesOf_cons]
    exact ((hthere.append_right _).append_left _).trans perm_middle
  have hname := (hsound.group_named hold).1
  have hsequences : effects.map (·.sequence) = queue.effects.map (·.sequence) := by
    rw [hbefore, hafter, map_append, map_append]
    rfl
  refine ⟨h.stable, ?_, ?_, ?_, h.bounded, h.sequence, h.ordered, ?_, ?_⟩
  · intro other hother
    have hother : other ∈ effects := hother
    rw [hafter] at hother
    obtain hearlier | hrest := mem_append.mp hother
    · exact h.effects other (by rw [hbefore]; exact mem_append_left _ hearlier)
    obtain hself | hlater := mem_cons.mp hrest
    · rw [hself]
      exact hsound.replace rfl hold (h.single_of_mem hmem)
    exact h.effects other (by
      rw [hbefore]
      exact mem_append_right _ (mem_cons_of_mem _ hlater))
  · have hnames := (hsplit.map (·.stableId)).nodup_iff.mp h.single
    rw [map_cons, hname, ← map_cons (f := QueuedLightingFrame.stableId)] at hnames
    exact (hsplit'.map (·.stableId)).nodup_iff.mpr hnames
  · show queue.effectTargetSize = (framesOf effects).length
    rw [hsplit'.length_eq, h.counted, hsplit.length_eq]
    rfl
  · show (queue.stable.map (·.sequence) ++ effects.map (·.sequence)).Nodup
    rw [hsequences]
    exact h.distinct
  show ∀ sequence ∈ queue.stable.map (·.sequence) ++ effects.map (·.sequence), sequence < queue.issued
  rw [hsequences]
  exact h.below

variable {earlier : List EffectRequest} {request : EffectRequest}

theorem last_free (hgrouped : request.Grouped)
    (hnew : frame.stableId ∉ (framesOf (earlier ++ [request])).map (·.stableId)) :
    (request.group frame.key)[frame.stableId]? = none := by
  by_contra hsome
  obtain ⟨old, hold⟩ := Option.ne_none_iff_exists'.mp hsome
  apply hnew
  apply mem_map.mpr
  refine ⟨old, ?_, (hgrouped.group_named hold).1⟩
  rw [framesOf_append, framesOf_cons]
  apply mem_append_right
  apply mem_append_left
  exact (request.frames_split frame.key).mem_iff.mpr
    (mem_append_left _ (OrderedMaps.mem_values.mpr ⟨frame.stableId, hold⟩))

theorem last_frames (hfree : (request.group frame.key)[frame.stableId]? = none) :
    (framesOf (earlier ++ [request.add frame])).Perm (frame :: framesOf (earlier ++ [request])) := by
  rw [framesOf_append, framesOf_append, framesOf_cons, framesOf_cons]
  refine (((add_frames hfree).append_right _).append_left _).trans ?_
  exact perm_middle

theorem Opens.grow (hopens : Opens queue opened) (h : queue.Sound)
    (hsplit : opened.effects = earlier ++ [request]) (hearlier : ∀ other ∈ earlier, other.Sound)
    (hgrouped : request.Grouped) (hqueued : queue.queuedEffects = framesOf (earlier ++ [request]))
    (hnew : frame.stableId ∉ (framesOf (earlier ++ [request])).map (·.stableId))
    (hroom : queue.effectTargetSize < queue.config.effectTargetCapacity)
    (hcapacity : queue.config.effectTargetCapacity ≤ queueCapacityMaximum) :
    { opened with
      effects := earlier ++ [request.add frame]
      effectTargetSize := opened.effectTargetSize + 1 }.Sound := by
  have hfree := last_free hgrouped hnew
  have hframes : (framesOf (earlier ++ [request.add frame])).Perm (frame :: queue.queuedEffects) := by
    rw [hqueued]
    exact last_frames hfree
  have hsequences : (earlier ++ [request.add frame]).map (·.sequence) = opened.effects.map (·.sequence) := by
    rw [hsplit, map_append, map_append]
    rfl
  have hall : queue.stable.map (·.sequence) ++ opened.effects.map (·.sequence) =
        queue.stable.map (·.sequence) ++ queue.effects.map (·.sequence) ∨
      queue.stable.map (·.sequence) ++ opened.effects.map (·.sequence) =
        (queue.stable.map (·.sequence) ++ queue.effects.map (·.sequence)) ++ [queue.issued] ∧
          opened.issued = queue.issued + 1 := by
    obtain hsame | ⟨hmore, hissued⟩ := hopens.sequences
    · rw [hsame]
      exact .inl rfl
    rw [hmore, append_assoc]
    exact .inr ⟨rfl, hissued⟩
  refine ⟨?_, ?_, ?_, ?_, ⟨?_, ?_⟩, hopens.sequence, ?_, ?_, ?_⟩
  · show ∀ request ∈ opened.stable, request.Sound
    rw [hopens.stable]
    exact h.stable
  · intro other hother
    obtain hold | hlast := mem_append.mp hother
    · exact hearlier other hold
    rw [mem_singleton.mp hlast]
    exact hgrouped.add hfree
  · apply (hframes.map (·.stableId)).nodup_iff.mpr
    rw [map_cons, nodup_cons, hqueued]
    refine ⟨hnew, ?_⟩
    rw [← hqueued]
    exact h.single
  · show opened.effectTargetSize + 1 = (framesOf (earlier ++ [request.add frame])).length
    rw [hframes.length_eq, length_cons, hopens.size, h.counted]
  · show opened.effectTargetSize + 1 ≤ opened.config.effectTargetCapacity
    rw [hopens.size, hopens.config]
    exact hroom
  · show opened.effectTargetSize + 1 ≤ queueCapacityMaximum
    rw [hopens.size]
    exact hroom.trans_le hcapacity
  · show (opened.stable.map (·.sequence)).Pairwise (· < ·)
    rw [hopens.stable]
    exact h.ordered
  · show (opened.stable.map (·.sequence) ++ (earlier ++ [request.add frame]).map (·.sequence)).Nodup
    rw [hsequences, hopens.stable]
    obtain hsame | ⟨hmore, -⟩ := hall
    · rw [hsame]
      exact h.distinct
    rw [hmore]
    apply h.distinct.append (nodup_singleton _)
    intro sequence hold hlast
    have hbelow := h.below sequence hold
    rw [mem_singleton.mp hlast] at hbelow
    exact lt_irrefl _ hbelow
  show ∀ sequence ∈ opened.stable.map (·.sequence) ++ (earlier ++ [request.add frame]).map (·.sequence),
    sequence < opened.issued
  rw [hsequences, hopens.stable]
  obtain hsame | ⟨hmore, hissued⟩ := hall
  · rw [hsame]
    exact fun sequence hmem => (h.below sequence hmem).trans_le hopens.issued.1
  rw [hmore, hissued]
  intro sequence hmem
  obtain hold | hlast := mem_append.mp hmem
  · exact (h.below sequence hold).trans (Nat.lt_succ_self _)
  rw [mem_singleton.mp hlast]
  exact Nat.lt_succ_self _

theorem Sound.enqueueEffect (h : queue.Sound) (frame : QueuedLightingFrame) (nowMs : Nat) :
    (queue.enqueueEffect frame nowMs).2.Sound := by
  unfold DispatchQueue.enqueueEffect
  split
  · exact h
  next hadmissible =>
    split
    next disposition effects hcoalesced => exact h.coalesce hcoalesced
    next hnone =>
      split
      · exact h
      next hroom =>
        split
        · exact h
        next opened hopened =>
          have hopens := h.openEffect hopened
          obtain ⟨earlier, request, hsplit, hearlier, hgrouped, hqueued⟩ := hopens.effects
          have hnew : frame.stableId ∉ (framesOf (earlier ++ [request])).map (·.stableId) := by
            rw [← hqueued]
            exact coalesce_none h.effects hnone
          have hroomy : queue.effectTargetSize < queue.config.effectTargetCapacity := not_le.mp hroom
          have hcapacity : queue.config.effectTargetCapacity ≤ queueCapacityMaximum :=
            not_lt.mp fun hover => hadmissible (.inr (.inr (.inl hover)))
          have hgrown : opened.effects.dropLast ++ opened.effects.getLast?.toList.map (·.add frame) =
              earlier ++ [request.add frame] := by
            rw [hsplit, dropLast_concat, getLast?_concat]
            rfl
          rw [hgrown]
          exact hopens.grow h hsplit hearlier hgrouped hqueued hnew hroomy hcapacity

theorem foldl_eraseEffectTarget (frames : List QueuedLightingFrame) (h : queue.Sound) :
    Removes queue (frames.foldl (fun queue frame => queue.eraseEffectTarget frame.stableId) queue) := by
  induction frames generalizing queue with
  | nil => exact h.refl_removes
  | cons frame frames ih =>
    have hfirst := h.eraseEffectTarget frame.stableId
    exact hfirst.trans (ih (h.removes hfirst))

theorem eraseEffectTarget_stable (queue : DispatchQueue) (stableId : String) :
    (queue.eraseEffectTarget stableId).stable = queue.stable := by
  unfold eraseEffectTarget
  split <;> rfl

theorem eraseEffectTarget_last (queue : DispatchQueue) (stableId : String) :
    (queue.eraseEffectTarget stableId).lastReceiverKey = queue.lastReceiverKey := by
  unfold eraseEffectTarget
  split <;> rfl

theorem foldl_eraseEffectTarget_last (frames : List QueuedLightingFrame) (queue : DispatchQueue) :
    (frames.foldl (fun queue frame => queue.eraseEffectTarget frame.stableId) queue).lastReceiverKey =
      queue.lastReceiverKey := by
  induction frames generalizing queue with
  | nil => rfl
  | cons frame frames ih => rw [foldl_cons, ih, eraseEffectTarget_last]

theorem foldl_eraseEffectTarget_stable (frames : List QueuedLightingFrame) (queue : DispatchQueue) :
    (frames.foldl (fun queue frame => queue.eraseEffectTarget frame.stableId) queue).stable = queue.stable := by
  induction frames generalizing queue with
  | nil => rfl
  | cons frame frames ih => rw [foldl_cons, ih, eraseEffectTarget_stable]

theorem taken_sound (h : queue.Sound) (htaken : queue.takeSequence = some (sequence, taken)) : taken.Sound := by
  obtain ⟨-, hissued, hnext, hconfig, hstable, heffects, hsize, -⟩ := takeSequence_some h.sequence htaken
  have hqueued : taken.queuedEffects = queue.queuedEffects := by
    unfold queuedEffects
    rw [heffects]
  refine ⟨?_, ?_, ?_, ?_, ?_, hnext, ?_, ?_, ?_⟩
  · rw [hstable]
    exact h.stable
  · rw [heffects]
    exact h.effects
  · rw [hqueued]
    exact h.single
  · rw [hsize, hqueued]
    exact h.counted
  · rw [hsize, hconfig]
    exact h.bounded
  · rw [hstable]
    exact h.ordered
  · rw [hstable, heffects]
    exact h.distinct
  rw [hstable, heffects, hissued]
  exact fun other hother => (h.below other hother).trans (Nat.lt_succ_self _)

def stableRequest (sequence : Nat) (intent : LightingIntent) (frames : List QueuedLightingFrame) : StableRequest :=
  ⟨sequence, intent, groupByReceiver frames,
    sortTargets ((groupByReceiver frames).values.flatten.map (·.target))⟩

theorem stableRequest_sound {intent : LightingIntent} (sequence : Nat)
    (hintent : intent = .static ∨ intent = .off) (hframes : frames ≠ []) :
    (stableRequest sequence intent frames).Sound := by
  refine ⟨⟨?_, ?_, ?_⟩, ?_⟩
  · show intent ≠ .effectFrame
    intro heffect
    rw [heffect] at hintent
    obtain hstatic | hoff := hintent
    · cases hstatic
    · cases hoff
  · intro key group hgroup
    exact ((getElem?_groupByReceiver key group).mp hgroup).2
  · intro key group hgroup frame hframe
    have hgroup : (groupByReceiver frames)[key]? = some group := hgroup
    have hown := hframe
    rw [((getElem?_groupByReceiver key group).mp hgroup).1] at hown
    refine ⟨of_decide_eq_true (mem_filter.mp hown).2, ?_⟩
    apply mem_sortTargets.mpr
    apply mem_map.mpr
    exact ⟨frame, mem_flatten.mpr ⟨group, OrderedMaps.mem_values.mpr ⟨key, hgroup⟩, hframe⟩, rfl⟩
  obtain ⟨frame, hframe⟩ := exists_mem_of_ne_nil _ hframes
  apply OrderedMaps.isEmpty_eq_false.mpr
  refine ⟨frame.key, frames.filter (·.key = frame.key), ?_⟩
  apply (getElem?_groupByReceiver _ _).mpr
  refine ⟨rfl, ?_⟩
  exact ne_nil_of_mem (mem_filter.mpr ⟨hframe, decide_eq_true rfl⟩)

theorem enqueueStable_cases (intent : LightingIntent) (frames : List QueuedLightingFrame) (h : queue.Sound) :
    ((queue.enqueueStable intent frames).1 ≠ .accepted ∧ (queue.enqueueStable intent frames).2 = queue) ∨
      ∃ erased : DispatchQueue, (intent = .static ∨ intent = .off) ∧ frames ≠ [] ∧ erased.Sound ∧
        erased.stable = queue.stable ∧ (erased.effects.map (·.sequence)).Sublist (queue.effects.map (·.sequence)) ∧
        erased.issued = queue.issued + 1 ∧ erased.config = queue.config ∧
        (∃ gone, queue.queuedEffects.Perm (gone ++ erased.queuedEffects)) ∧ queue.enqueueStable intent frames =
          (.accepted, { erased with stable := erased.stable ++ [stableRequest queue.issued intent frames] }) := by
  unfold enqueueStable
  split
  · left
    refine ⟨?_, rfl⟩
    dsimp only
    split
    · exact fun h => by cases h
    · exact fun h => by cases h
  next hadmissible =>
    split
    · exact .inl ⟨(fun h => by cases h), rfl⟩
    split
    · exact .inl ⟨(fun h => by cases h), rfl⟩
    next sequence taken htaken =>
      right
      obtain ⟨hsequence, hissued, -, hconfig, hstable, heffects, -⟩ := takeSequence_some h.sequence htaken
      have htakenSound := taken_sound h htaken
      have hremoves := foldl_eraseEffectTarget frames htakenSound
      refine ⟨_, ?_, ?_, htakenSound.removes hremoves, ?_, ?_, ?_, hremoves.config.trans hconfig, ?_, ?_⟩
      · by_contra hintent
        exact hadmissible (.inl (not_or.mp hintent))
      · exact fun hempty => hadmissible (.inr (.inl hempty))
      · rw [foldl_eraseEffectTarget_stable, hstable]
      · rw [← heffects]
        exact hremoves.effectSequences
      · rw [hremoves.issued_eq, hissued]
      · have hqueued : taken.queuedEffects = queue.queuedEffects := by
          unfold queuedEffects
          rw [heffects]
        rw [← hqueued]
        exact hremoves.frames
      rw [← hsequence]
      rfl

theorem Sound.enqueueStable (h : queue.Sound) (intent : LightingIntent) (frames : List QueuedLightingFrame) :
    (queue.enqueueStable intent frames).2.Sound := by
  obtain ⟨-, hsame⟩ | ⟨erased, hintent, hframes, hsound, hstable, heffects, hissued, -, -, hresult⟩ :=
    enqueueStable_cases intent frames h
  · rw [hsame]
    exact h
  rw [hresult]
  have hbelow : ∀ sequence ∈ erased.stable.map (·.sequence) ++ erased.effects.map (·.sequence),
      sequence < queue.issued := by
    intro sequence hmem
    rw [hstable] at hmem
    exact h.below sequence (((List.Sublist.refl _).append heffects).subset hmem)
  have hsequences : (erased.stable ++ [stableRequest queue.issued intent frames]).map (·.sequence) =
      erased.stable.map (·.sequence) ++ [queue.issued] := by
    rw [map_append]
    rfl
  refine ⟨?_, hsound.effects, hsound.single, hsound.counted, hsound.bounded, hsound.sequence, ?_, ?_, ?_⟩
  · intro request hrequest
    obtain hold | hlast := mem_append.mp hrequest
    · exact hsound.stable request hold
    rw [mem_singleton.mp hlast]
    exact stableRequest_sound queue.issued hintent hframes
  · dsimp only
    rw [hsequences]
    apply pairwise_append.mpr
    refine ⟨hsound.ordered, pairwise_singleton _ _, ?_⟩
    intro sequence hold last hlast
    rw [mem_singleton.mp hlast]
    exact hbelow sequence (mem_append_left _ hold)
  · dsimp only
    rw [hsequences, append_assoc]
    apply (perm_middle.nodup_iff).mpr
    rw [nodup_cons]
    refine ⟨?_, hsound.distinct⟩
    intro hmem
    exact lt_irrefl _ (hbelow _ hmem)
  show ∀ sequence ∈ (erased.stable ++ [stableRequest queue.issued intent frames]).map (·.sequence) ++
    erased.effects.map (·.sequence), sequence < erased.issued
  rw [hsequences, append_assoc, hissued]
  intro sequence hmem
  obtain hnew | hold := mem_cons.mp (perm_middle.mem_iff.mp hmem)
  · rw [hnew]
    exact Nat.lt_succ_self _
  · exact (hbelow sequence hold).trans (Nat.lt_succ_self _)

theorem enqueueStable_last (h : queue.Sound) (intent : LightingIntent) (frames : List QueuedLightingFrame) :
    (queue.enqueueStable intent frames).2.lastReceiverKey = queue.lastReceiverKey := by
  unfold enqueueStable
  split
  · rfl
  split
  · rfl
  split
  · rfl
  next sequence taken htaken =>
    obtain ⟨-, -, -, -, -, -, -, hlast⟩ := takeSequence_some h.sequence htaken
    show (frames.foldl (fun queue frame => queue.eraseEffectTarget frame.stableId) taken).lastReceiverKey = _
    rw [foldl_eraseEffectTarget_last, hlast]

end Growth

end DispatchQueue

end HyperfluxNext
