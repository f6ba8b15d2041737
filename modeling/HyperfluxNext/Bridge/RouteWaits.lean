import HyperfluxNext.Bridge.FairRotation

namespace HyperfluxNext.FairRouteQueue

open List

variable {K T : Type} [Ord K] [Std.TransOrd K] [Std.LawfulEqOrd K] [DecidableEq K]

variable {queue queue' : FairRouteQueue K T} {route : K} {item : T} {bound : Nat}

theorem drainLoop_parts (rounds : Nat) (hwell : queue.WellFormed) :
    (queue.drainLoop rounds).2.WellFormed ∧ (queue.pending.map Prod.snd).Perm
      ((queue.drainLoop rounds).1 ++ (queue.drainLoop rounds).2.pending.map Prod.snd) := by
  induction rounds generalizing queue with
  | zero => exact ⟨hwell, List.Perm.refl _⟩
  | succ rounds ih =>
    unfold drainLoop
    cases hrotation : queue.rotation with
    | nil =>
      have hpop : queue.popNext = none := by
        unfold popNext
        rw [hrotation]
      rw [hpop]
      exact ⟨hwell, List.Perm.refl _⟩
    | cons route rest =>
      obtain ⟨item, next, hpop, hnext, hpopped⟩ := popNext_popped hwell hrotation
      obtain ⟨hlast, hparts⟩ := ih hnext
      simp only [hpop]
      refine ⟨hlast, ?_⟩
      exact (hpopped.pending.map Prod.snd).trans (hparts.cons item)

theorem drain_parts (hwell : queue.WellFormed) :
    queue.drain.2.WellFormed ∧ queue.drain.2.pending = [] ∧
      (queue.pending.map Prod.snd).Perm queue.drain.1 := by
  obtain ⟨hlast, hparts⟩ := drainLoop_parts (queue.len + 1) hwell
  have hlen := drainLoop_empties (queue.len + 1) hwell (Nat.lt_succ_self _)
  rw [hlast.length_pending] at hlen
  have hempty := length_eq_zero_iff.mp hlen
  rw [hempty, map_nil, append_nil] at hparts
  exact ⟨hlast, hempty, hparts⟩

section
omit [Std.TransOrd K] [Std.LawfulEqOrd K] [DecidableEq K]

theorem admitItem_capacity (h : queue.admitItem route item = some queue') : queue'.capacity = queue.capacity := by
  unfold admitItem at h
  split at h
  · cases h
  · rw [← Option.some.inj h]

theorem popNext_capacity (h : queue.popNext = some (item, queue')) : queue'.capacity = queue.capacity := by
  unfold popNext at h
  split at h
  · cases h
  split at h
  · cases h
  · cases h
  cases h
  rfl

end

theorem WellFormed.lane_length_le (h : queue.WellFormed) (route : K) : (queue.lane route).length ≤ queue.len := by
  have hparts := (lanesPending_perm queue.lanes route).length_eq
  have hlen := h.length_pending
  rw [length_append, length_map] at hparts
  unfold pending at hlen
  unfold lane
  omega

theorem WellFormed.rotation_length_le (h : queue.WellFormed) : queue.rotation.length ≤ queue.len := by
  have hsubset : queue.rotation ⊆ queue.pending.map Prod.fst := by
    intro route hroute
    obtain ⟨item, rest, hlane⟩ := exists_cons_of_ne_nil ((h.rotated route).mp hroute)
    have hmem : (route, item) ∈ queue.pending := by
      refine (lanesPending_perm queue.lanes route).mem_iff.mpr (mem_append_left _ ?_)
      refine mem_map_of_mem ?_
      show item ∈ queue.lane route
      rw [hlane]
      exact mem_cons_self
    exact mem_map_of_mem hmem
  have hle := (subperm_of_subset h.once hsubset).length_le
  rw [length_map, ← h.length_pending] at hle
  exact hle

omit [DecidableEq K] in
theorem mem_lane_of_pending (h : (route, item) ∈ queue.pending) : item ∈ queue.lane route := by
  obtain ⟨entry, hentry, hitem⟩ := mem_flatMap.mp h
  obtain ⟨found, hfound, heq⟩ := mem_map.mp hitem
  cases heq
  have hlane : queue.lanes[entry.1]? = some entry.2 := Std.TreeMap.mem_toList_iff_getElem?_eq_some.mp hentry
  unfold lane
  rw [hlane]
  exact hfound

/-- At most so many pops are left before the turn of an item: the items ahead of it in its lane take
a whole rotation each, the routes ahead of its own a pop each. -/
def Within (route : K) (item : T) (bound : Nat) (queue : FairRouteQueue K T) : Prop :=
  ∃ ahead behind front back, queue.lane route = ahead ++ item :: behind ∧
    queue.rotation = front ++ route :: back ∧
    ahead.length * queue.capacity + front.length < bound

omit [Std.TransOrd K] [Std.LawfulEqOrd K] [DecidableEq K] in
theorem Within.mono {more : Nat} (h : Within route item bound queue) (hle : bound ≤ more)
    : Within route item more queue := by
  obtain ⟨ahead, behind, front, back, hlane, hrotation, hless⟩ := h
  exact ⟨ahead, behind, front, back, hlane, hrotation, Nat.lt_of_lt_of_le hless hle⟩

/-- Whatever waits has its turn within a rotation for each place in the queue. -/
theorem WellFormed.within (h : queue.WellFormed) (hitem : item ∈ queue.lane route) :
    Within route item (queue.capacity * queue.capacity) queue := by
  obtain ⟨ahead, behind, hlane⟩ := append_of_mem hitem
  have hrotated : route ∈ queue.rotation := (h.rotated route).mpr (ne_nil_of_mem hitem)
  obtain ⟨front, back, hrotation⟩ := append_of_mem hrotated
  refine ⟨ahead, behind, front, back, hlane, hrotation, ?_⟩
  have hahead := h.lane_length_le route
  have hfront := h.rotation_length_le
  have hbound := h.bounded
  rw [hlane, length_append, length_cons] at hahead
  rw [hrotation, length_append, length_cons] at hfront
  have hplaces : ahead.length + 1 ≤ queue.capacity := by omega
  have hturns : front.length < queue.capacity := by omega
  calc ahead.length * queue.capacity + front.length
      < ahead.length * queue.capacity + queue.capacity := Nat.add_lt_add_left hturns _
    _ = (ahead.length + 1) * queue.capacity := (Nat.succ_mul _ _).symm
    _ ≤ queue.capacity * queue.capacity := Nat.mul_le_mul_right _ hplaces

theorem Within.push {other : K} {added : T} (hwell : queue.WellFormed) (h : Within route item bound queue)
    (hpush : queue.admitItem other added = some queue') : Within route item bound queue' := by
  obtain ⟨ahead, behind, front, back, hlane, hrotation, hless⟩ := h
  obtain ⟨_, hadmitted⟩ := admitItem_admitted hwell hpush
  rw [← admitItem_capacity hpush] at hless
  have hlane' : ∃ behind, queue'.lane route = ahead ++ item :: behind := by
    rw [hadmitted.lanes route, hlane]
    split
    · exact ⟨behind ++ [added], by rw [append_assoc, cons_append]⟩
    · exact ⟨behind, rfl⟩
  have hrotation' : ∃ back, queue'.rotation = front ++ route :: back := by
    obtain hsame | ⟨_, hmore⟩ := hadmitted.rotation
    · exact ⟨back, hsame.trans hrotation⟩
    · exact ⟨back ++ [other], by rw [hmore, hrotation, append_assoc, cons_append]⟩
  obtain ⟨behind, hlane'⟩ := hlane'
  obtain ⟨back, hrotation'⟩ := hrotation'
  exact ⟨ahead, behind, front, back, hlane', hrotation', hless⟩

omit [DecidableEq K] in
theorem Within.remove (hwell : queue.WellFormed) (h : Within route item bound queue) {predicate : T → Bool}
    (hkept : predicate item = false) : Within route item bound (queue.removeWhere predicate).2 := by
  obtain ⟨ahead, behind, front, back, hlane, hrotation, hless⟩ := h
  obtain ⟨_, _, hremoved⟩ := removeWhere_removed hwell predicate
  have hlane' : (queue.removeWhere predicate).2.lane route =
      ahead.filter (! predicate ·) ++ item :: behind.filter (! predicate ·) := by
    rw [hremoved.lanes, hlane, filter_append, filter_cons, hkept]
    rfl
  have hne : (queue.removeWhere predicate).2.lane route ≠ [] := by
    rw [hlane']
    exact append_ne_nil_of_right_ne_nil _ (cons_ne_nil _ _)
  refine ⟨_, _, front.filter fun route => (queue.removeWhere predicate).2.lane route ≠ [],
    back.filter fun route => (queue.removeWhere predicate).2.lane route ≠ [], hlane', ?_, ?_⟩
  · rw [hremoved.rotation, hrotation, filter_append, filter_cons]
    simp [hne]
  have hahead := length_filter_le (! predicate ·) ahead
  have hfront := length_filter_le (fun route => decide ((queue.removeWhere predicate).2.lane route ≠ [])) front
  have hplaces := Nat.mul_le_mul_right queue.capacity hahead
  have hcapacity : (queue.removeWhere predicate).2.capacity = queue.capacity := rfl
  rw [hcapacity]
  omega

theorem Within.pop {popped : T} (hwell : queue.WellFormed) (h : Within route item (bound + 1) queue)
    (hpop : queue.popNext = some (popped, queue')) :
    popped = item ∨ Within route item bound queue' := by
  obtain ⟨ahead, behind, front, back, hlane, hrotation, hless⟩ := h
  have hcapacity := popNext_capacity hpop
  have honce := hwell.once
  cases front with
  | nil =>
    obtain ⟨served, next, hnext, hwell', hpopped⟩ := popNext_popped hwell hrotation
    rw [hpop] at hnext
    cases hnext
    have hhead := hpopped.lanes route
    rw [if_pos rfl, hlane] at hhead
    cases ahead with
    | nil => exact .inl (List.cons.inj hhead).1.symm
    | cons first ahead =>
      have hlane' : queue'.lane route = ahead ++ item :: behind := (List.cons.inj hhead).2.symm
      obtain ⟨rest, hrest, hturn⟩ := hpopped.rotation
      have hne : queue'.lane route ≠ [] := by
        rw [hlane']
        exact append_ne_nil_of_right_ne_nil _ (cons_ne_nil _ _)
      obtain ⟨hgone, _⟩ | ⟨_, hrotation'⟩ := hturn
      · exact absurd hgone hne
      refine .inr ⟨ahead, behind, rest, [], hlane', hrotation', ?_⟩
      have hrotated := hwell'.rotation_length_le
      have hbound := hwell'.bounded
      rw [hrotation', length_append, length_singleton] at hrotated
      rw [length_cons, length_nil, Nat.succ_mul, Nat.add_zero] at hless
      rw [hcapacity] at hbound ⊢
      omega
  | cons first front =>
    obtain ⟨served, next, hnext, _, hpopped⟩ := popNext_popped hwell hrotation
    rw [hpop] at hnext
    cases hnext
    right
    have hne : route ≠ first := by
      rw [hrotation, cons_append, nodup_cons] at honce
      intro heq
      exact honce.1 (heq ▸ mem_append_right _ mem_cons_self)
    have hlane' := hpopped.lanes route
    rw [if_neg hne, hlane] at hlane'
    obtain ⟨rest, hrest, hturn⟩ := hpopped.rotation
    have heq : rest = front ++ route :: back := by
      rw [hrotation] at hrest
      exact (List.cons.inj hrest).2.symm
    have hrotation' : ∃ back, queue'.rotation = front ++ route :: back := by
      obtain ⟨_, hsame⟩ | ⟨_, hmore⟩ := hturn
      · exact ⟨back, hsame.trans heq⟩
      · exact ⟨back ++ [first], by rw [hmore, heq, append_assoc, cons_append]⟩
    obtain ⟨back', hrotation'⟩ := hrotation'
    refine ⟨ahead, behind, front, back', hlane'.symm, hrotation', ?_⟩
    rw [length_cons] at hless
    rw [hcapacity]
    omega

end HyperfluxNext.FairRouteQueue
