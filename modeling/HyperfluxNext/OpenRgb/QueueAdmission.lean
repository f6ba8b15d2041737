import HyperfluxNext.OpenRgb.QueueInvariant

namespace HyperfluxNext

namespace DispatchQueue

open List

variable {queue : DispatchQueue} {frame : QueuedLightingFrame} {nowMs : Nat}

theorem takeSequence_isSome (h : queue.issued ≤ u64Max) :
    ∃ sequence taken, queue.takeSequence = some (sequence, taken) := by
  unfold takeSequence
  have hopen : ¬ queue.sequenceExhausted = true := by
    intro hexhausted
    unfold issued at h
    rw [if_pos hexhausted] at h
    omega
  rw [if_neg hopen]
  exact ⟨_, _, rfl⟩

/-- What a stable request needs to be accepted. -/
structure AdmitsStable (queue : DispatchQueue) (intent : LightingIntent) (frames : List QueuedLightingFrame) : Prop where
  kind : intent = .static ∨ intent = .off
  filled : frames ≠ []
  few : frames.length ≤ frameCountMaximum
  capacity : queue.config.stableCapacity ≤ queueCapacityMaximum
  room : queue.stable.length < queue.config.stableCapacity
  valid : frames.all (·.valid) = true
  single : (frames.map (·.stableId)).Nodup
  sequence : queue.issued ≤ u64Max

theorem AdmitsStable.accepted {intent : LightingIntent} {frames : List QueuedLightingFrame}
    (h : queue.AdmitsStable intent frames) : (queue.enqueueStable intent frames).1 = .accepted := by
  have hshape : ¬ ((intent ≠ .static ∧ intent ≠ .off) ∨ frames = [] ∨ frames.length > frameCountMaximum ∨
      queue.config.stableCapacity = 0 ∨ queue.config.stableCapacity > queueCapacityMaximum ∨
      queue.stable.length ≥ queue.config.stableCapacity) := by
    intro hbad
    obtain hintent | hempty | hmany | hzero | hlarge | hfull := hbad
    · obtain hstatic | hoff := h.kind
      · exact hintent.1 hstatic
      · exact hintent.2 hoff
    · exact h.filled hempty
    · exact absurd h.few (not_le.mpr hmany)
    · have hroom := h.room
      omega
    · exact absurd h.capacity (not_le.mpr hlarge)
    · exact absurd h.room (not_lt.mpr hfull)
  have hframes : ¬ (frames.all (·.valid) = false ∨ ¬ (frames.map (·.stableId)).Nodup) := by
    intro hbad
    obtain hinvalid | hrepeated := hbad
    · rw [h.valid] at hinvalid
      cases hinvalid
    · exact hrepeated h.single
  obtain ⟨sequence, taken, htaken⟩ := takeSequence_isSome h.sequence
  unfold DispatchQueue.enqueueStable
  rw [if_neg hshape, if_neg hframes, htaken]

/-- What an effect needs to be accepted or to take the place of the one before it. -/
structure AdmitsEffect (queue : DispatchQueue) (frame : QueuedLightingFrame) : Prop where
  valid : frame.valid = true
  positive : 0 < queue.config.effectTargetCapacity
  capacity : queue.config.effectTargetCapacity ≤ queueCapacityMaximum
  window : 0 < queue.config.effectWindowMs
  receiver : ∀ old ∈ queue.queuedEffects, old.stableId = frame.stableId → old.key = frame.key
  room : frame.stableId ∉ queue.queuedEffects.map (·.stableId) →
    queue.effectTargetSize < queue.config.effectTargetCapacity
  sequence : queue.issued ≤ u64Max

theorem openEffect_isSome (nowMs : Nat) (h : queue.issued ≤ u64Max) :
    ∃ opened, queue.openEffect nowMs = some opened := by
  unfold DispatchQueue.openEffect
  obtain ⟨sequence, taken, htaken⟩ := takeSequence_isSome h
  split
  · rw [htaken]
    exact ⟨_, rfl⟩
  · exact ⟨queue, rfl⟩

theorem mem_queuedEffects {request : EffectRequest} {key stableId : String} {group : EffectGroup}
    (hmem : request ∈ queue.effects) (hgroup : request.receiverFrames[key]? = some group)
    (hframe : group[stableId]? = some frame) : frame ∈ queue.queuedEffects := by
  unfold queuedEffects framesOf
  exact mem_flatMap.mpr ⟨request, hmem, EffectRequest.mem_frames.mpr ⟨key, group, stableId, hgroup, hframe⟩⟩

theorem AdmitsEffect.accepted (hsound : queue.Sound) (h : queue.AdmitsEffect frame) (nowMs : Nat) :
    (queue.enqueueEffect frame nowMs).1 = .accepted ∨ (queue.enqueueEffect frame nowMs).1 = .coalesced := by
  have hshape : ¬ (frame.valid = false ∨ queue.config.effectTargetCapacity = 0 ∨
      queue.config.effectTargetCapacity > queueCapacityMaximum ∨ queue.config.effectWindowMs = 0) := by
    intro hbad
    have hpositive := h.positive
    have hwindow := h.window
    obtain hinvalid | hzero | hlarge | hnone := hbad
    · rw [h.valid] at hinvalid
      cases hinvalid
    · omega
    · exact absurd h.capacity (not_le.mpr hlarge)
    · omega
  unfold DispatchQueue.enqueueEffect
  rw [if_neg hshape]
  split
  next disposition effects hcoalesced =>
    obtain ⟨-, -, request, hmem, key, group, old, hgroup, hold, hother⟩ | ⟨hdone, -⟩ := coalesce_some hcoalesced
    · have hnamed := (hsound.effects request hmem).named key group hgroup frame.stableId old hold
      exact absurd (hnamed.2.1.symm.trans (h.receiver old (mem_queuedEffects hmem hgroup hold) hnamed.1)) hother
    · exact .inr hdone
  next hnone =>
    have hroom := h.room (coalesce_none hsound.effects hnone)
    obtain ⟨opened, hopened⟩ := openEffect_isSome nowMs h.sequence
    rw [if_neg (not_le.mpr hroom), hopened]
    exact .inl rfl

theorem enqueueEffect_leaves (hsound : queue.Sound) (frame : QueuedLightingFrame) (nowMs : Nat) :
    let left := (queue.enqueueEffect frame nowMs).2
    left.issued ≤ queue.issued + 1 ∧ left.stable = queue.stable ∧
      ∀ other ∈ left.queuedEffects, other = frame ∨ other ∈ queue.queuedEffects := by
  intro left
  have hleft : left = (queue.enqueueEffect frame nowMs).2 := rfl
  have hsame : queue.issued ≤ queue.issued + 1 ∧ queue.stable = queue.stable ∧
      ∀ other ∈ queue.queuedEffects, other = frame ∨ other ∈ queue.queuedEffects :=
    ⟨Nat.le_succ _, rfl, fun _ hother => .inr hother⟩
  unfold DispatchQueue.enqueueEffect at hleft
  split at hleft
  · rw [hleft]
    exact hsame
  split at hleft
  next disposition effects hcoalesced =>
    rw [hleft]
    refine ⟨Nat.le_succ _, rfl, ?_⟩
    obtain ⟨-, heffects, -⟩ | ⟨-, earlier, request, later, old, hbefore, hafter, hold⟩ := coalesce_some hcoalesced
    · intro other hother
      have hother : other ∈ framesOf effects := hother
      rw [heffects] at hother
      exact .inr hother
    obtain ⟨rest, hhere, hthere⟩ := EffectRequest.replace_frames hold
    intro other hother
    have hother : other ∈ framesOf effects := hother
    unfold queuedEffects
    rw [hafter, framesOf_append, framesOf_cons] at hother
    rw [hbefore, framesOf_append, framesOf_cons]
    obtain hearlier | hrest := mem_append.mp hother
    · exact .inr (mem_append_left _ hearlier)
    obtain hself | hlater := mem_append.mp hrest
    · obtain hnew | hkept := mem_cons.mp (hthere.mem_iff.mp hself)
      · exact .inl hnew
      have hback : other ∈ request.frames := hhere.mem_iff.mpr (mem_cons_of_mem _ hkept)
      exact .inr (mem_append_right _ (mem_append_left _ hback))
    · exact .inr (mem_append_right _ (mem_append_right _ hlater))
  next hnone =>
    split at hleft
    · rw [hleft]
      exact hsame
    split at hleft
    · rw [hleft]
      exact hsame
    next opened hopened =>
      have hopens := hsound.openEffect hopened
      obtain ⟨earlier, request, hsplit, hearlier, hgrouped, hqueued⟩ := hopens.effects
      rw [hleft]
      refine ⟨?_, hopens.stable, ?_⟩
      · exact hopens.issued.2
      intro other hother
      have hnew : frame.stableId ∉ queue.queuedEffects.map (·.stableId) := coalesce_none hsound.effects hnone
      rw [hqueued] at hnew ⊢
      have hother : other ∈ framesOf (opened.effects.dropLast ++ opened.effects.getLast?.toList.map (·.add frame)) :=
        hother
      rw [hsplit, dropLast_concat, getLast?_concat] at hother
      exact mem_cons.mp ((last_frames (last_free hgrouped hnew)).mem_iff.mp hother)

end DispatchQueue

end HyperfluxNext
