import HyperfluxNext.Bridge.NativeExchange
import HyperfluxNext.Library.OrderedMaps

namespace HyperfluxNext

open OrderedMaps List Std.TreeMap

inductive FairRouteQueueError where
  | invalidCapacity | full

namespace FairRouteQueue

variable {K T : Type} [Ord K]

def new (capacity : Nat) : Except FairRouteQueueError (FairRouteQueue K T) :=
  if 1 ≤ capacity ∧ capacity ≤ 4096 then .ok ⟨capacity, 0, [], ∅⟩ else .error .invalidCapacity

def drainLoop : Nat → FairRouteQueue K T → List T × FairRouteQueue K T
  | 0, queue => ([], queue)
  | rounds + 1, queue =>
    match queue.popNext with
    | none => ([], queue)
    | some (item, queue) =>
      let (drained, queue) := drainLoop rounds queue
      (item :: drained, queue)

/-- Pops until nothing is left; the recorded length bounds the rounds. -/
def drain (queue : FairRouteQueue K T) : List T × FairRouteQueue K T := drainLoop (queue.len + 1) queue

def lane (queue : FairRouteQueue K T) (route : K) : List T := (queue.lanes[route]?).getD []

/-- Every queued item with its route, lane by lane. -/
def lanesPending (lanes : Std.TreeMap K (List T)) : List (K × T) :=
  lanes.toList.flatMap fun entry => entry.2.map (entry.1, ·)

def pending (queue : FairRouteQueue K T) : List (K × T) := lanesPending queue.lanes

structure WellFormed (queue : FairRouteQueue K T) : Prop where
  once : queue.rotation.Nodup
  rotated : ∀ route, route ∈ queue.rotation ↔ queue.lane route ≠ []
  nonempty : ∀ (route : K) (items : List T), queue.lanes[route]? = some items → items ≠ []
  length : queue.len = (queue.lanes.toList.map (·.2.length)).sum
  bounded : queue.len ≤ queue.capacity

theorem length_lanesPending (lanes : Std.TreeMap K (List T)) :
    (lanesPending lanes).length = (lanes.toList.map (·.2.length)).sum := by
  unfold lanesPending
  rw [length_flatMap]
  simp only [length_map]

variable {queue : FairRouteQueue K T}

theorem WellFormed.length_pending (h : queue.WellFormed) : queue.len = queue.pending.length :=
  h.length.trans (length_lanesPending queue.lanes).symm

variable [Std.TransOrd K] [Std.LawfulEqOrd K] [DecidableEq K]

omit [Std.LawfulEqOrd K] [DecidableEq K] in
theorem new_wellFormed {capacity : Nat} (h : new capacity = .ok queue) :
    queue.WellFormed ∧ queue.pending = [] ∧ ∀ route, queue.lane route = [] := by
  unfold new at h
  split at h
  · cases h
    have hnone : ∀ route : K, (∅ : Std.TreeMap K (List T))[route]? = none := fun _ => getElem?_emptyc
    refine ⟨⟨nodup_nil, ?_, ?_, rfl, Nat.zero_le _⟩, rfl, ?_⟩
    · intro route
      simp [lane]
    · intro route items hfound
      rw [hnone] at hfound
      cases hfound
    intro route
    simp [lane]
  · cases h

theorem lanesPending_perm (lanes : Std.TreeMap K (List T)) (route : K) :
    (lanesPending lanes).Perm
      (((lanes[route]?).getD []).map (route, ·) ++ lanesPending (lanes.erase route)) := by
  unfold lanesPending
  cases hlane : lanes[route]? with
  | none => exact (erase_toList_perm hlane).flatMap_right _
  | some items => exact (toList_perm_erase hlane).flatMap_right _

theorem lanesPending_insert (lanes : Std.TreeMap K (List T)) (route : K) (items : List T) :
    (lanesPending (lanes.insert route items)).Perm (items.map (route, ·) ++ lanesPending (lanes.erase route)) :=
  (insert_toList_perm lanes route items).flatMap_right _

/-- What a push changes. -/
structure Admitted (route : K) (item : T) (queue queue' : FairRouteQueue K T) : Prop where
  lanes : ∀ other, queue'.lane other = if other = route then queue.lane other ++ [item] else queue.lane other
  pending : queue'.pending.Perm (queue.pending ++ [(route, item)])
  rotation : queue'.rotation = queue.rotation ∨
    (route ∉ queue.rotation ∧ queue'.rotation = queue.rotation ++ [route])

theorem admitItem_admitted {route : K} {item : T} {queue' : FairRouteQueue K T} (hwell : queue.WellFormed)
    (h : queue.admitItem route item = some queue') :
    queue'.WellFormed ∧ Admitted route item queue queue' := by
  unfold admitItem at h
  split at h
  · cases h
  next hroom =>
    have hqueue' := Option.some.inj h
    have hlane : ∀ other, queue'.lane other =
        if other = route then queue.lane other ++ [item] else queue.lane other := by
      intro other
      rw [← hqueue']
      unfold lane
      rw [getElem?_insert_of]
      by_cases heq : other = route
      · simp [heq]
      · simp [heq]
    have hpending : queue'.pending.Perm (queue.pending ++ [(route, item)]) := by
      rw [← hqueue']
      unfold pending
      refine (lanesPending_insert _ _ _).trans ?_
      refine List.Perm.trans ?_ ((lanesPending_perm queue.lanes route).append_right _).symm
      rw [map_append, append_assoc, append_assoc]
      exact perm_append_comm.append_left _
    have hrotation : queue'.rotation = queue.rotation ∨
        (route ∉ queue.rotation ∧ queue'.rotation = queue.rotation ++ [route]) := by
      rw [← hqueue']
      by_cases hempty : queue.lane route = []
      · right
        have hout : route ∉ queue.rotation := fun hin => (hwell.rotated route).mp hin hempty
        refine ⟨hout, ?_⟩
        unfold lane at hempty
        simp [hempty]
      left
      unfold lane at hempty
      simp [hempty]
    have hmem : ∀ other, other ∈ queue'.rotation ↔ other ∈ queue.rotation ∨ other = route := by
      intro other
      obtain hsame | ⟨_, hmore⟩ := hrotation
      · rw [hsame]
        constructor
        · exact .inl
        intro hin
        obtain hin | heq := hin
        · exact hin
        subst heq
        rw [hwell.rotated]
        intro hempty
        have hlost := congrArg List.length hsame
        rw [← hqueue'] at hlost
        unfold lane at hempty
        simp [hempty] at hlost
      · rw [hmore, mem_append, mem_singleton]
    refine ⟨⟨?_, ?_, ?_, ?_, ?_⟩, ⟨hlane, hpending, hrotation⟩⟩
    · obtain hsame | ⟨hout, hmore⟩ := hrotation
      · rw [hsame]
        exact hwell.once
      rw [hmore, nodup_append]
      refine ⟨hwell.once, nodup_singleton route, ?_⟩
      intro other hin another hlast heq
      rw [mem_singleton.mp hlast] at heq
      exact hout (heq ▸ hin)
    · intro other
      rw [hmem, hlane, hwell.rotated]
      by_cases heq : other = route
      · simp [heq]
      · simp [heq]
    · intro other items hfound
      rw [← hqueue', getElem?_insert_of] at hfound
      split at hfound
      · cases hfound
        simp
      · exact hwell.nonempty other items hfound
    · have hcount := hpending.length_eq
      have hlen : queue'.len = queue.len + 1 := by rw [← hqueue']
      have hold := hwell.length_pending
      rw [← length_lanesPending]
      unfold pending at hcount hold
      simp only [length_append, length_singleton] at hcount
      omega
    have hbound := hwell.bounded
    have hlen : queue'.len = queue.len + 1 := by rw [← hqueue']
    have hcapacity : queue'.capacity = queue.capacity := by rw [← hqueue']
    omega

/-- What a pop changes. -/
structure Popped (route : K) (item : T) (queue queue' : FairRouteQueue K T) : Prop where
  lanes : ∀ other, queue.lane other = if other = route then item :: queue'.lane other else queue'.lane other
  pending : queue.pending.Perm ((route, item) :: queue'.pending)
  rotation : ∃ rest, queue.rotation = route :: rest ∧
    ((queue'.lane route = [] ∧ queue'.rotation = rest) ∨
      (queue'.lane route ≠ [] ∧ queue'.rotation = rest ++ [route]))

theorem popNext_popped {route : K} {rest : List K} (hwell : queue.WellFormed)
    (hrotation : queue.rotation = route :: rest) :
    ∃ item queue', queue.popNext = some (item, queue') ∧ queue'.WellFormed ∧
      Popped route item queue queue' := by
  have hhead : route ∈ queue.rotation := hrotation ▸ mem_cons_self
  have honce : route ∉ rest ∧ rest.Nodup := by
    have hnodup := hwell.once
    rw [hrotation] at hnodup
    exact nodup_cons.mp hnodup
  have hsome : queue.lane route ≠ [] := (hwell.rotated route).mp hhead
  obtain ⟨item, tail, hlane⟩ := exists_cons_of_ne_nil hsome
  have hfound : queue.lanes[route]? = some (item :: tail) := by
    unfold lane at hlane
    cases hget : queue.lanes[route]? with
    | none =>
      rw [hget] at hlane
      cases hlane
    | some items =>
      rw [hget] at hlane
      exact congrArg some hlane
  let queue' : FairRouteQueue K T := { queue with
    len := queue.len - 1
    rotation := if tail.isEmpty then rest else rest ++ [route]
    lanes := if tail.isEmpty then queue.lanes.erase route else queue.lanes.insert route tail }
  have hpop : queue.popNext = some (item, queue') := by
    unfold popNext
    rw [hrotation]
    simp only [hfound]
    rfl
  have hlane' : ∀ other, queue'.lane other = if other = route then tail else queue.lane other := by
    intro other
    unfold lane
    by_cases hempty : tail.isEmpty = true
    · simp only [queue', hempty, if_true, getElem?_erase_of]
      by_cases heq : other = route
      · simp [heq, isEmpty_iff.mp hempty]
      · simp [heq]
    simp only [queue', hempty, Bool.false_eq_true, if_false, getElem?_insert_of]
    by_cases heq : other = route
    · simp [heq]
    · simp [heq]
  have hlanes : ∀ other, queue.lane other =
      if other = route then item :: queue'.lane other else queue'.lane other := by
    intro other
    rw [hlane']
    by_cases heq : other = route
    · simp [heq, hlane]
    · simp [heq]
  have hpending : queue.pending.Perm ((route, item) :: queue'.pending) := by
    have hbefore := lanesPending_perm queue.lanes route
    rw [hfound] at hbefore
    have hafter : (lanesPending queue'.lanes).Perm
        (tail.map (route, ·) ++ lanesPending (queue.lanes.erase route)) := by
      by_cases hempty : tail.isEmpty = true
      · have hnil := isEmpty_iff.mp hempty
        simp only [queue', hnil, isEmpty_nil, if_true, map_nil, nil_append]
        exact List.Perm.refl _
      simp only [queue', hempty, Bool.false_eq_true, if_false]
      exact lanesPending_insert queue.lanes route tail
    refine hbefore.trans (List.Perm.cons _ hafter.symm)
  have hturn : (queue'.lane route = [] ∧ queue'.rotation = rest) ∨
      (queue'.lane route ≠ [] ∧ queue'.rotation = rest ++ [route]) := by
    rw [hlane', if_pos rfl]
    by_cases hempty : tail.isEmpty = true
    · exact .inl ⟨isEmpty_iff.mp hempty, by simp only [queue', hempty, if_true]⟩
    refine .inr ⟨fun hnil => hempty (isEmpty_iff.mpr hnil), ?_⟩
    simp only [queue', hempty, Bool.false_eq_true, if_false]
  refine ⟨item, queue', hpop, ⟨?_, ?_, ?_, ?_, ?_⟩, ⟨hlanes, hpending, rest, hrotation, hturn⟩⟩
  · obtain ⟨_, hsame⟩ | ⟨_, hmore⟩ := hturn
    · rw [hsame]
      exact honce.2
    rw [hmore, nodup_append]
    refine ⟨honce.2, nodup_singleton route, ?_⟩
    intro other hin another hlast heq
    rw [mem_singleton.mp hlast] at heq
    exact honce.1 (heq ▸ hin)
  · intro other
    have hold := hwell.rotated other
    rw [hrotation, mem_cons, hlanes] at hold
    by_cases heq : other = route
    · subst heq
      obtain ⟨hgone, hsame⟩ | ⟨hleft, hmore⟩ := hturn
      · rw [hsame]
        exact ⟨fun hin => absurd hin honce.1, fun hne => absurd hgone hne⟩
      rw [hmore]
      exact ⟨fun _ => hleft, fun _ => mem_append_right _ mem_cons_self⟩
    simp only [heq, false_or, if_false] at hold
    obtain ⟨_, hsame⟩ | ⟨_, hmore⟩ := hturn
    · rw [hsame]
      exact hold
    rw [hmore, mem_append, mem_singleton]
    simp only [heq, or_false]
    exact hold
  · intro other items hget
    by_cases hempty : tail.isEmpty = true
    · simp only [queue', hempty, if_true, getElem?_erase_of] at hget
      split at hget
      · cases hget
      · exact hwell.nonempty other items hget
    simp only [queue', hempty, Bool.false_eq_true, if_false, getElem?_insert_of] at hget
    split at hget
    · cases hget
      exact fun hnil => hempty (isEmpty_iff.mpr hnil)
    · exact hwell.nonempty other items hget
  · have hcount := hpending.length_eq
    have hlen : queue'.len = queue.len - 1 := rfl
    have hold := hwell.length_pending
    rw [← length_lanesPending]
    unfold pending at hcount hold
    rw [length_cons] at hcount
    omega
  · have hbound := hwell.bounded
    have hlen : queue'.len = queue.len - 1 := rfl
    have hcapacity : queue'.capacity = queue.capacity := rfl
    omega

/-- What a removal by predicate changes. -/
structure Removed (predicate : T → Bool) (queue queue' : FairRouteQueue K T) : Prop where
  lanes : ∀ other, queue'.lane other = (queue.lane other).filter (! predicate ·)
  pending : queue'.pending = queue.pending.filter (! predicate ·.2)
  rotation : queue'.rotation = queue.rotation.filter fun route => queue'.lane route ≠ []

omit [Ord K] [Std.TransOrd K] [Std.LawfulEqOrd K] [DecidableEq K] in
theorem flatMap_filter_lanes (predicate : T → Bool) (entries : List (K × List T)) :
    ((entries.map fun entry => (entry.1, entry.2.filter (! predicate ·))).filter
      fun entry => ! entry.2.isEmpty).flatMap (fun entry => entry.2.map (entry.1, ·)) =
    (entries.flatMap fun entry => entry.2.map (entry.1, ·)).filter (! predicate ·.2) := by
  induction entries with
  | nil => rfl
  | cons entry entries ih =>
    have hhead : (entry.2.map (entry.1, ·)).filter (! predicate ·.2) =
        (entry.2.filter (! predicate ·)).map (entry.1, ·) := by
      rw [filter_map]
      rfl
    rw [map_cons, flatMap_cons, filter_append, hhead, ← ih, filter_cons]
    by_cases hempty : (entry.2.filter (! predicate ·)).isEmpty = true
    · simp [isEmpty_iff.mp hempty]
    · simp [hempty]

omit [DecidableEq K] in
theorem removeWhere_removed (hwell : queue.WellFormed) (predicate : T → Bool) :
    (queue.removeWhere predicate).1 = (queue.pending.filter (predicate ·.2)).map (·.2) ∧
      (queue.removeWhere predicate).2.WellFormed ∧
      Removed predicate queue (queue.removeWhere predicate).2 := by
  have hanswer : (queue.removeWhere predicate).1 = (queue.pending.filter (predicate ·.2)).map (·.2) := by
    show queue.lanes.values.flatten.filter predicate = _
    have hitems : queue.pending.map (·.2) = queue.lanes.values.flatten := by
      unfold pending lanesPending
      rw [values_eq_map_toList, List.map_flatMap, List.flatMap_def]
      simp [Function.comp_def]
    rw [← hitems, List.filter_map]
    rfl
  have hlane : ∀ other, (queue.removeWhere predicate).2.lane other =
      (queue.lane other).filter (! predicate ·) := by
    intro other
    show (((queue.lanes.map fun _ lane => lane.filter (! predicate ·)).filter
      fun _ lane => ! lane.isEmpty)[other]?).getD [] = ((queue.lanes[other]?).getD []).filter _
    rw [Std.TreeMap.getElem?_filter', Std.TreeMap.getElem?_map]
    cases queue.lanes[other]? with
    | none => rfl
    | some items =>
      by_cases hempty : (items.filter (! predicate ·)).isEmpty = true
      · simp [Option.filter, List.isEmpty_iff.mp hempty]
      · simp [Option.filter, hempty]
  have hpending : (queue.removeWhere predicate).2.pending = queue.pending.filter (! predicate ·.2) := by
    show lanesPending ((queue.lanes.map fun _ lane => lane.filter (! predicate ·)).filter
      fun _ lane => ! lane.isEmpty) = _
    unfold lanesPending
    rw [Std.TreeMap.toList_filter, Std.TreeMap.toList_map]
    exact flatMap_filter_lanes predicate queue.lanes.toList
  have hnonempty : ∀ (route : K) (items : List T),
      (queue.removeWhere predicate).2.lanes[route]? = some items → items ≠ [] := by
    intro route items hget
    have hfiltered : ((queue.lanes.map fun _ lane => lane.filter (! predicate ·)).filter
        fun _ lane => ! lane.isEmpty)[route]? = some items := hget
    rw [Std.TreeMap.getElem?_filter', Option.filter_eq_some_iff] at hfiltered
    have hkept := hfiltered.2
    intro hnil
    subst hnil
    simp at hkept
  have hrotation : (queue.removeWhere predicate).2.rotation =
      queue.rotation.filter fun route => (queue.removeWhere predicate).2.lane route ≠ [] := by
    show queue.rotation.filter (queue.removeWhere predicate).2.lanes.contains = _
    refine List.filter_congr ?_
    intro route _
    rw [Std.TreeMap.contains_eq_isSome_getElem?]
    unfold lane
    cases hget : (queue.removeWhere predicate).2.lanes[route]? with
    | none => simp
    | some items => simp [hnonempty route items hget]
  refine ⟨hanswer, ⟨?_, ?_, hnonempty, ?_, ?_⟩, ⟨hlane, hpending, hrotation⟩⟩
  · rw [hrotation]
    exact hwell.once.filter _
  · intro route
    rw [hrotation, List.mem_filter, hwell.rotated, decide_eq_true_iff]
    constructor
    · exact And.right
    intro hleft
    refine ⟨?_, hleft⟩
    intro hnil
    rw [hlane, hnil] at hleft
    exact hleft rfl
  · have hsplit := congrArg List.length hpending
    have hold := hwell.length_pending
    have hremoved := congrArg List.length hanswer
    have hparts := List.length_eq_countP_add_countP (p := fun entry => predicate entry.2) (l := queue.pending)
    have hlen : (queue.removeWhere predicate).2.len = queue.len - (queue.removeWhere predicate).1.length := rfl
    rw [← length_lanesPending]
    unfold pending at hsplit hold hremoved hparts
    rw [List.length_map, ← List.countP_eq_length_filter] at hremoved
    rw [← List.countP_eq_length_filter] at hsplit
    simp only [Bool.not_eq_true, Bool.decide_eq_false] at hparts
    omega
  have hbound := hwell.bounded
  have hlen : (queue.removeWhere predicate).2.len ≤ queue.len := Nat.sub_le _ _
  exact Nat.le_trans hlen hbound

end FairRouteQueue

end HyperfluxNext
