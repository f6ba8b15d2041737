import HyperfluxNext.OpenRgb.DispatchQueue

namespace HyperfluxNext

open OrderedMaps EffectRequest List Std.TreeMap

variable {target : DispatchTarget} {targets : List DispatchTarget}

theorem mem_sortTargets : target ∈ sortTargets targets ↔ target ∈ targets := by
  unfold sortTargets
  exact mem_mergeSort

theorem mem_withoutTarget {stableId : String} :
    target ∈ withoutTarget stableId targets ↔ target ∈ targets ∧ target.stableId ≠ stableId := by
  unfold withoutTarget
  rw [mem_filter]
  simp

theorem sizeSub_of_le {size count : Nat} (hcount : count ≤ size) (hsize : size ≤ u64Max) :
    sizeSub size count = size - count := by
  unfold sizeSub
  have hsplit : size + (u64Max + 1) - count = (size - count) + (u64Max + 1) := by omega
  rw [hsplit, Nat.add_mod_right, Nat.mod_eq_of_lt (by omega)]

namespace EffectRequest

variable {request : EffectRequest} {key stableId other : String} {group : EffectGroup}
  {frame : QueuedLightingFrame}

def frames (request : EffectRequest) : List QueuedLightingFrame :=
  request.receiverFrames.values.flatMap (·.values)

structure Grouped (request : EffectRequest) : Prop where
  filled : ∀ (key : String) (group : EffectGroup), request.receiverFrames[key]? = some group →
    group.isEmpty = false
  named : ∀ (key : String) (group : EffectGroup), request.receiverFrames[key]? = some group →
    ∀ (stableId : String) (frame : QueuedLightingFrame), group[stableId]? = some frame →
      frame.stableId = stableId ∧ frame.key = key ∧ frame.target ∈ request.targets

/-- A request that is worth its place in the queue. -/
structure Sound (request : EffectRequest) : Prop extends Grouped request where
  nonempty : request.receiverFrames.isEmpty = false

theorem mem_frames : frame ∈ request.frames ↔ ∃ (key : String) (group : EffectGroup) (stableId : String),
    request.receiverFrames[key]? = some group ∧ group[stableId]? = some frame := by
  unfold frames
  rw [mem_flatMap]
  constructor
  · intro ⟨group, hgroup, hframe⟩
    obtain ⟨key, hkey⟩ := OrderedMaps.mem_values.mp hgroup
    obtain ⟨stableId, hid⟩ := OrderedMaps.mem_values.mp hframe
    exact ⟨key, group, stableId, hkey, hid⟩
  intro ⟨key, group, stableId, hkey, hid⟩
  exact ⟨group, OrderedMaps.mem_values.mpr ⟨key, hkey⟩, OrderedMaps.mem_values.mpr ⟨stableId, hid⟩⟩

theorem group_of_getElem? (h : request.receiverFrames[key]? = some group) : request.group key = group := by
  unfold EffectRequest.group
  rw [getD_eq_getD_getElem?, h]
  rfl

theorem group_of_none (h : request.receiverFrames[key]? = none) : request.group key = ∅ := by
  unfold group
  rw [getD_eq_getD_getElem?, h]
  rfl

theorem Grouped.group_named (h : request.Grouped) (hframe : (request.group key)[stableId]? = some frame) :
    frame.stableId = stableId ∧ frame.key = key ∧ frame.target ∈ request.targets := by
  cases hkey : request.receiverFrames[key]? with
  | some group =>
    rw [group_of_getElem? hkey] at hframe
    exact h.named key group hkey stableId frame hframe
  | none =>
    rw [group_of_none hkey, getElem?_emptyc] at hframe
    cases hframe

theorem holder_some (h : request.holder stableId = some key) : ∃ (group : EffectGroup) (frame : QueuedLightingFrame),
    request.receiverFrames[key]? = some group ∧ group[stableId]? = some frame := by
  unfold holder at h
  obtain ⟨entry, hfound, hkey⟩ := Option.map_eq_some_iff.mp h
  have hmem := mem_toList_iff_getElem?_eq_some.mp (mem_of_find?_eq_some hfound)
  have hcontains := find?_some hfound
  rw [hkey] at hmem
  obtain ⟨frame, hframe⟩ := Option.isSome_iff_exists.mp (mem_iff_isSome_getElem?.mp hcontains)
  exact ⟨entry.2, frame, hmem, hframe⟩

theorem holder_none (h : request.holder stableId = none) (hgroup : request.receiverFrames[other]? = some group)
    : group[stableId]? = none := by
  unfold holder at h
  rw [Option.map_eq_none_iff, find?_eq_none] at h
  have hnot := h (other, group) (mem_toList_iff_getElem?_eq_some.mpr hgroup)
  exact getElem?_eq_none hnot

theorem Grouped.holder_none (h : request.Grouped) (hnone : request.holder stableId = none) :
    stableId ∉ request.frames.map (·.stableId) := by
  intro hmem
  obtain ⟨frame, hframe, hname⟩ := mem_map.mp hmem
  obtain ⟨key, group, other, hkey, hother⟩ := mem_frames.mp hframe
  have hnamed := (h.named key group hkey other frame hother).1
  rw [← hnamed, hname, EffectRequest.holder_none hnone hkey] at hother
  cases hother

theorem frames_split (request : EffectRequest) (key : String) :
    request.frames.Perm ((request.group key).values ++ (request.withoutGroup key).frames) := by
  unfold frames withoutGroup
  dsimp only
  cases hkey : request.receiverFrames[key]? with
  | some group =>
    rw [group_of_getElem? hkey]
    exact (values_perm_erase hkey).flatMap_right _
  | none =>
    rw [group_of_none hkey]
    exact (erase_values_perm hkey).flatMap_right _

theorem frames_insert (request : EffectRequest) (key : String) (group : EffectGroup) (targets : List DispatchTarget) :
    frames { request with receiverFrames := request.receiverFrames.insert key group, targets := targets } |>.Perm
      (group.values ++ (request.withoutGroup key).frames) := by
  unfold frames withoutGroup
  exact (insert_values_perm _ key group).flatMap_right _

theorem group_values_perm (hframe : (request.group key)[stableId]? = some frame) :
    (request.group key).values.Perm (frame :: ((request.group key).erase stableId).values) :=
  values_perm_erase hframe

theorem insertIfNew_getElem? (h : group[stableId]? = none) (other : String) :
    (group.insertIfNew stableId frame)[other]? = if other = stableId then some frame else group[other]? := by
  rw [getElem?_insertIfNew]
  have hnot : stableId ∉ group := by
    rw [mem_iff_isSome_getElem?, h]
    exact Bool.false_ne_true
  by_cases hsame : other = stableId
  · rw [if_pos hsame, if_pos ⟨by rw [hsame]; exact Std.ReflCmp.compare_self, hnot⟩]
  rw [if_neg hsame, if_neg]
  intro hequal
  exact hsame (Std.LawfulEqCmp.compare_eq_iff_eq.mp hequal.1).symm

theorem insertIfNew_values (h : group[stableId]? = none) :
    (group.insertIfNew stableId frame).values.Perm (frame :: group.values) := by
  have hinsert : (group.insertIfNew stableId frame).values = (group.insert stableId frame).values := by
    rw [values_eq_map_toList, values_eq_map_toList]
    congr 1
    apply toList_eq_of_lookup
    intro other
    rw [insertIfNew_getElem? h, getElem?_insert_of]
  rw [hinsert]
  exact (insert_values_perm _ _ _).trans ((erase_values_perm h).symm.cons frame)

theorem isEmpty_insertIfNew (h : group[stableId]? = none) :
    (group.insertIfNew stableId frame).isEmpty = false := by
  apply isEmpty_eq_false.mpr
  refine ⟨stableId, frame, ?_⟩
  rw [insertIfNew_getElem? h, if_pos rfl]

section Replace

variable {old : QueuedLightingFrame} {α : Type}

theorem replace_frames (hold : (request.group key)[frame.stableId]? = some old) :
    ∃ rest, request.frames.Perm (old :: rest) ∧ (request.replace key frame).frames.Perm (frame :: rest) := by
  refine ⟨((request.group key).erase frame.stableId).values ++ (request.withoutGroup key).frames, ?_, ?_⟩
  · exact (request.frames_split key).trans ((group_values_perm hold).append_right _)
  unfold replace
  refine (request.frames_insert key _ _).trans ?_
  exact (insert_values_perm _ frame.stableId frame).append_right _

theorem mem_set_of_ne {values : List α} {index : Nat} {value other old : α} (hmem : other ∈ values)
    (hindex : values[index]? = some old) (hne : other ≠ old) : other ∈ values.set index value := by
  obtain ⟨position, hposition⟩ := mem_iff_getElem?.mp hmem
  have hapart : index ≠ position := by
    intro hsame
    rw [hsame, hposition] at hindex
    exact hne (Option.some.inj hindex)
  apply mem_of_getElem? (i := position)
  rw [getElem?_set_ne hapart]
  exact hposition

theorem frames_apart {other : QueuedLightingFrame} (hsingle : (request.frames.map (·.stableId)).Nodup)
    (hframe : (request.group key)[stableId]? = some frame) (hother : other ∈ (request.withoutGroup key).frames) :
    other.stableId ≠ frame.stableId := by
  have hsplit := (request.frames_split key).map (·.stableId)
  rw [map_append] at hsplit
  have hdisjoint := (nodup_append.mp (hsplit.nodup_iff.mp hsingle)).2.2
  have hmem : frame ∈ (request.group key).values := OrderedMaps.mem_values.mpr ⟨stableId, hframe⟩
  exact (hdisjoint _ (mem_map.mpr ⟨frame, hmem, rfl⟩) _ (mem_map.mpr ⟨other, hother, rfl⟩)).symm

theorem mem_withoutGroup (hne : other ≠ key) (hgroup : request.receiverFrames[other]? = some group)
    (hframe : group[stableId]? = some frame) :
    frame ∈ (request.withoutGroup key).frames := by
  apply mem_frames.mpr
  refine ⟨other, group, stableId, ?_, hframe⟩
  unfold withoutGroup
  dsimp only
  rw [getElem?_erase_of, if_neg hne]
  exact hgroup

theorem insert_filled (h : request.Grouped) {inserted : EffectGroup} (hinserted : inserted.isEmpty = false)
    (hgroup : (request.receiverFrames.insert key inserted)[other]? = some group) :
    group.isEmpty = false := by
  rw [getElem?_insert_of] at hgroup
  split at hgroup
  · cases hgroup
    exact hinserted
  · exact h.filled other group hgroup

theorem isEmpty_insert {β : Type} [Ord α] [Std.TransOrd α] [Std.LawfulEqOrd α] [DecidableEq α]
    (map : Std.TreeMap α β) (key : α) (value : β) : (map.insert key value).isEmpty = false := by
  apply isEmpty_eq_false.mpr
  refine ⟨key, value, ?_⟩
  rw [getElem?_insert_of, if_pos rfl]

theorem Sound.replace (h : request.Sound) (hkey : frame.key = key)
    (hold : (request.group key)[frame.stableId]? = some old)
    (hsingle : (request.frames.map (·.stableId)).Nodup) : (request.replace key frame).Sound := by
  obtain ⟨hname, -, hknown⟩ := h.group_named hold
  -- the controller's target is there to be replaced, and the others' are left
  obtain ⟨index, hindex⟩ : ∃ index, request.targets.findIdx? (·.stableId = frame.stableId) = some index := by
    apply Option.ne_none_iff_exists'.mp
    intro hnone
    have hnot := findIdx?_eq_none_iff.mp hnone old.target hknown
    exact ne_true_of_eq_false hnot (decide_eq_true hname)
  obtain ⟨hbound, hfound, -⟩ := findIdx?_eq_some_iff_getElem.mp hindex
  have hlater : ∀ target ∈ request.targets, target.stableId ≠ frame.stableId →
      target ∈ (request.replace key frame).targets := by
    intro target htarget hother
    unfold EffectRequest.replace
    rw [hindex]
    dsimp only
    rw [mem_sortTargets]
    refine mem_set_of_ne htarget (getElem?_eq_getElem hbound) ?_
    intro hsame
    rw [hsame] at hother
    exact hother (of_decide_eq_true hfound)
  have hself : frame.target ∈ (request.replace key frame).targets := by
    unfold EffectRequest.replace
    rw [hindex]
    dsimp only
    rw [mem_sortTargets]
    exact mem_set hbound frame.target
  refine ⟨⟨?_, ?_⟩, isEmpty_insert _ _ _⟩
  · intro other group hgroup
    exact insert_filled h.toGrouped (isEmpty_insert _ _ _) hgroup
  intro other group hgroup stableId found hfound
  have hgroup : (request.receiverFrames.insert key
      ((request.group key).insert frame.stableId frame))[other]? = some group := hgroup
  rw [OrderedMaps.getElem?_insert_of] at hgroup
  split at hgroup
  next hsame =>
    cases hgroup
    rw [OrderedMaps.getElem?_insert_of] at hfound
    split at hfound
    next hid =>
      cases hfound
      exact ⟨hid.symm, hkey.trans hsame.symm, hself⟩
    next hid =>
      obtain ⟨hnamed, hown, htarget⟩ := h.group_named hfound
      refine ⟨hnamed, hown.trans hsame.symm, hlater _ htarget ?_⟩
      show found.stableId ≠ frame.stableId
      rw [hnamed]
      exact hid
  next hne =>
    obtain ⟨hnamed, hown, htarget⟩ := h.named other group hgroup stableId found hfound
    refine ⟨hnamed, hown, hlater _ htarget ?_⟩
    have hapart := frames_apart hsingle hold (mem_withoutGroup hne hgroup hfound)
    rw [hname] at hapart
    exact hapart

end Replace

section Add

theorem add_frames (hnone : (request.group frame.key)[frame.stableId]? = none) :
    (request.add frame).frames.Perm (frame :: request.frames) := by
  unfold add
  refine (request.frames_insert frame.key _ _).trans ?_
  refine ((insertIfNew_values hnone).append_right _).trans ?_
  exact (request.frames_split frame.key).symm.cons frame

theorem Grouped.add (h : request.Grouped) (hnone : (request.group frame.key)[frame.stableId]? = none) :
    (request.add frame).Sound := by
  have hlater : ∀ target, target ∈ (request.add frame).targets ↔ target ∈ request.targets ∨ target = frame.target := by
    intro target
    unfold EffectRequest.add
    dsimp only
    rw [mem_sortTargets, mem_append, mem_singleton]
  refine ⟨⟨?_, ?_⟩, isEmpty_insert _ _ _⟩
  · intro other group hgroup
    exact insert_filled h (isEmpty_insertIfNew hnone) hgroup
  intro other group hgroup stableId found hfound
  have hgroup : (request.receiverFrames.insert frame.key
      ((request.group frame.key).insertIfNew frame.stableId frame))[other]? = some group := hgroup
  rw [OrderedMaps.getElem?_insert_of] at hgroup
  split at hgroup
  next hsame =>
    cases hgroup
    rw [insertIfNew_getElem? hnone] at hfound
    split at hfound
    next hid =>
      cases hfound
      exact ⟨hid.symm, hsame.symm, (hlater _).mpr (.inr rfl)⟩
    obtain ⟨hnamed, hown, htarget⟩ := h.group_named hfound
    exact ⟨hnamed, hown.trans hsame.symm, (hlater _).mpr (.inl htarget)⟩
  obtain ⟨hnamed, hown, htarget⟩ := h.named other group hgroup stableId found hfound
  exact ⟨hnamed, hown, (hlater _).mpr (.inl htarget)⟩

end Add

section Remove

theorem withoutGroup_grouped (h : request.Grouped) (key : String) : (request.withoutGroup key).Grouped := by
  have hback : ∀ (other : String) (group : EffectGroup),
      (request.withoutGroup key).receiverFrames[other]? = some group →
        request.receiverFrames[other]? = some group := by
    intro other group hgroup
    unfold withoutGroup at hgroup
    dsimp only at hgroup
    rw [getElem?_erase_of] at hgroup
    split at hgroup
    · cases hgroup
    · exact hgroup
  constructor
  · intro other group hgroup
    exact h.filled other group (hback other group hgroup)
  intro other group hgroup
  exact h.named other group (hback other group hgroup)

theorem values_of_isEmpty (h : group.isEmpty = true) : group.values = [] := by
  apply eq_nil_iff_forall_not_mem.mpr
  intro frame hframe
  obtain ⟨stableId, hid⟩ := OrderedMaps.mem_values.mp hframe
  rw [isEmpty_eq_false.mpr ⟨stableId, frame, hid⟩] at h
  cases h

theorem without_frames (hframe : (request.group key)[stableId]? = some frame) :
    request.frames.Perm (frame :: (request.without key stableId).frames) := by
  refine (request.frames_split key).trans ?_
  refine ((group_values_perm hframe).append_right _).trans ?_
  rw [cons_append]
  apply List.Perm.cons
  unfold without
  dsimp only
  split
  next hempty =>
    rw [values_of_isEmpty hempty]
    exact .refl _
  · exact (request.frames_insert key _ _).symm

/-- A request that a frame was taken out of is worth its place, while it has frames left. -/
theorem Sound.without (h : request.Sound) (hframe : (request.group key)[stableId]? = some frame)
    (hsingle : (request.frames.map (·.stableId)).Nodup) : (request.without key stableId).Grouped := by
  have hname := (h.group_named hframe).1
  have hlater : ∀ target ∈ request.targets, target.stableId ≠ stableId →
      target ∈ (request.without key stableId).targets :=
    fun target htarget hother => mem_withoutTarget.mpr ⟨htarget, hother⟩
  have hback : ∀ (other : String) (group : EffectGroup),
      (request.without key stableId).receiverFrames[other]? = some group →
        (other = key ∧ group = (request.group key).erase stableId ∧ group.isEmpty = false) ∨
          (other ≠ key ∧ request.receiverFrames[other]? = some group) := by
    intro other group hgroup
    unfold EffectRequest.without at hgroup
    dsimp only at hgroup
    split at hgroup
    · rw [OrderedMaps.getElem?_erase_of] at hgroup
      split at hgroup
      · cases hgroup
      next hne => exact .inr ⟨hne, hgroup⟩
    next hfilled =>
      rw [OrderedMaps.getElem?_insert_of] at hgroup
      split at hgroup
      next hsame =>
        cases hgroup
        exact .inl ⟨hsame, rfl, eq_false_of_ne_true hfilled⟩
      next hne => exact .inr ⟨hne, hgroup⟩
  constructor
  · intro other group hgroup
    obtain ⟨-, -, hfilled⟩ | ⟨-, hold⟩ := hback other group hgroup
    · exact hfilled
    · exact h.filled other group hold
  intro other group hgroup id found hfound
  obtain ⟨hsame, hgroup, -⟩ | ⟨hne, hold⟩ := hback other group hgroup
  · rw [hgroup, OrderedMaps.getElem?_erase_of] at hfound
    split at hfound
    · cases hfound
    next hid =>
      obtain ⟨hnamed, hown, htarget⟩ := h.group_named hfound
      refine ⟨hnamed, hown.trans hsame.symm, hlater _ htarget ?_⟩
      show found.stableId ≠ stableId
      rw [hnamed]
      exact hid
  obtain ⟨hnamed, hown, htarget⟩ := h.named other group hold id found hfound
  refine ⟨hnamed, hown, hlater _ htarget ?_⟩
  have hapart := frames_apart hsingle hframe (mem_withoutGroup hne hold hfound)
  rw [hname] at hapart
  exact hapart

end Remove

end EffectRequest

namespace StableRequest

variable {request : StableRequest} {key stableId : String} {frames : List QueuedLightingFrame}

structure Grouped (request : StableRequest) : Prop where
  intent : request.intent ≠ .effectFrame
  filled : ∀ (key : String) (frames : List QueuedLightingFrame), request.receiverFrames[key]? = some frames →
    frames ≠ []
  named : ∀ (key : String) (frames : List QueuedLightingFrame), request.receiverFrames[key]? = some frames →
    ∀ frame ∈ frames, frame.key = key ∧ frame.target ∈ request.targets

structure Sound (request : StableRequest) : Prop extends Grouped request where
  nonempty : request.receiverFrames.isEmpty = false

theorem withoutGroup_grouped (h : request.Grouped) (key : String) : (request.withoutGroup key).Grouped := by
  have hback : ∀ (other : String) (frames : List QueuedLightingFrame),
      (request.withoutGroup key).receiverFrames[other]? = some frames →
        request.receiverFrames[other]? = some frames := by
    intro other frames hframes
    unfold withoutGroup at hframes
    dsimp only at hframes
    rw [getElem?_erase_of] at hframes
    split at hframes
    · cases hframes
    · exact hframes
  constructor
  · exact h.intent
  · intro other frames hframes
    exact h.filled other frames (hback other frames hframes)
  intro other frames hframes
  exact h.named other frames (hback other frames hframes)

theorem without_lookup (hframes : (request.without stableId).receiverFrames[key]? = some frames) :
    frames ≠ [] ∧ ∃ old, request.receiverFrames[key]? = some old ∧ frames = old.filter (·.stableId ≠ stableId) := by
  unfold without at hframes
  dsimp only at hframes
  rw [Std.TreeMap.getElem?_filter', Option.filter_eq_some_iff, Std.TreeMap.getElem?_map] at hframes
  obtain ⟨hmapped, hkept⟩ := hframes
  obtain ⟨old, hold, hsame⟩ := Option.map_eq_some_iff.mp hmapped
  exact ⟨of_decide_eq_true hkept, old, hold, hsame.symm⟩

theorem Grouped.without (h : request.Grouped) (stableId : String) : (request.without stableId).Grouped := by
  constructor
  · exact h.intent
  · intro key frames hframes
    exact (without_lookup hframes).1
  intro key frames hframes frame hframe
  obtain ⟨-, old, hold, hkept⟩ := without_lookup hframes
  rw [hkept, mem_filter] at hframe
  obtain ⟨hown, htarget⟩ := h.named key old hold frame hframe.1
  exact ⟨hown, mem_withoutTarget.mpr ⟨htarget, of_decide_eq_true hframe.2⟩⟩

end StableRequest

section Grouping

variable {frames : List QueuedLightingFrame}

theorem getD_groupByReceiver (frames : List QueuedLightingFrame) (groups : Std.TreeMap String (List QueuedLightingFrame))
    (key : String) :
    (frames.foldl (fun groups frame => groups.insert frame.key (groups.getD frame.key [] ++ [frame])) groups).getD
      key [] = groups.getD key [] ++ frames.filter (·.key = key) := by
  induction frames generalizing groups with
  | nil => rw [foldl_nil, filter_nil, append_nil]
  | cons frame frames ih =>
    rw [foldl_cons, ih, getD_insert]
    by_cases hsame : frame.key = key
    · have hfilter : (frame :: frames).filter (·.key = key) = frame :: frames.filter (·.key = key) :=
        filter_cons_of_pos (decide_eq_true hsame)
      rw [hfilter, hsame, if_pos Std.ReflCmp.compare_self, append_assoc]
      rfl
    have hfilter : (frame :: frames).filter (·.key = key) = frames.filter (·.key = key) :=
      filter_cons_of_neg (by simpa using hsame)
    rw [hfilter, if_neg]
    intro hequal
    exact hsame (Std.LawfulEqCmp.compare_eq_iff_eq.mp hequal)

theorem mem_groupByReceiver (frames : List QueuedLightingFrame) (groups : Std.TreeMap String (List QueuedLightingFrame))
    (key : String) :
    key ∈ frames.foldl (fun groups frame => groups.insert frame.key (groups.getD frame.key [] ++ [frame])) groups ↔
      key ∈ groups ∨ ∃ frame ∈ frames, frame.key = key := by
  induction frames generalizing groups with
  | nil => simp
  | cons frame frames ih =>
    rw [foldl_cons, ih, mem_insert, exists_mem_cons_iff, Std.LawfulEqCmp.compare_eq_iff_eq]
    tauto

/-- A receiver's group holds its frames in the order that they came in. -/
theorem getElem?_groupByReceiver (key : String) (group : List QueuedLightingFrame) :
    (groupByReceiver frames)[key]? = some group ↔ group = frames.filter (·.key = key) ∧ group ≠ [] := by
  have hgroup : (groupByReceiver frames).getD key [] = frames.filter (·.key = key) := by
    unfold groupByReceiver
    rw [getD_groupByReceiver]
    rfl
  have hmem : key ∈ groupByReceiver frames ↔ ∃ frame ∈ frames, frame.key = key := by
    unfold groupByReceiver
    rw [mem_groupByReceiver]
    simp
  rw [getD_eq_getD_getElem?] at hgroup
  rw [mem_iff_isSome_getElem?] at hmem
  constructor
  · intro hfound
    rw [hfound] at hgroup hmem
    obtain ⟨frame, hframe, hkey⟩ := hmem.mp rfl
    refine ⟨hgroup, ?_⟩
    rw [show group = _ from hgroup]
    intro hnone
    exact absurd (decide_eq_true hkey) (filter_eq_nil_iff.mp hnone frame hframe)
  intro ⟨hsame, hfilled⟩
  rw [hsame] at hfilled ⊢
  obtain ⟨frame, hframe⟩ := exists_mem_of_ne_nil _ hfilled
  obtain ⟨hin, hkey⟩ := mem_filter.mp hframe
  obtain ⟨found, hfound⟩ := Option.isSome_iff_exists.mp (hmem.mpr ⟨frame, hin, of_decide_eq_true hkey⟩)
  rw [hfound] at hgroup ⊢
  rw [← hgroup]
  rfl

end Grouping

end HyperfluxNext
