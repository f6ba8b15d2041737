import HyperfluxNext.Bridge.NativeScheduler

namespace HyperfluxNext

open OrderedMaps FairRouteQueue List

/-- What one elementary change of the queue does to its items. -/
inductive RouteEvent (K T : Type) where
  | admitted (route : K) (item : T)
  | popped (route : K) (item : T)
  | removed (items : List (K × T))

open RouteEvent

namespace RouteEvent

variable {K T : Type}

def arrivals : RouteEvent K T → List (K × T)
  | .admitted route item => [(route, item)]
  | _ => []

def departures : RouteEvent K T → List (K × T)
  | .admitted _ _ => []
  | .popped route item => [(route, item)]
  | .removed items => items

def pops : RouteEvent K T → List (K × T)
  | .popped route item => [(route, item)]
  | _ => []

def popsRoute [DecidableEq K] (route : K) : RouteEvent K T → Bool
  | .popped other _ => other = route
  | _ => false

@[simp] theorem arrivals_admitted (route : K) (item : T) :
    (admitted route item).arrivals = [(route, item)] := rfl

@[simp] theorem arrivals_popped (route : K) (item : T) : (popped route item).arrivals = [] := rfl

@[simp] theorem arrivals_removed (items : List (K × T)) : (removed items).arrivals = [] := rfl

@[simp] theorem departures_admitted (route : K) (item : T) : (admitted route item).departures = [] := rfl

@[simp] theorem departures_popped (route : K) (item : T) :
    (popped route item).departures = [(route, item)] := rfl

@[simp] theorem departures_removed (items : List (K × T)) : (removed items).departures = items := rfl

@[simp] theorem pops_admitted (route : K) (item : T) : (admitted route item).pops = [] := rfl

@[simp] theorem pops_popped (route : K) (item : T) : (popped route item).pops = [(route, item)] := rfl

@[simp] theorem pops_removed (items : List (K × T)) : (removed items).pops = [] := rfl

end RouteEvent

inductive RouteOp (K T : Type) where
  | push (route : K) (item : T)
  | popNext
  | removeWhere (predicate : T → Bool)
  | drain

/-- Elementary changes, each with the queue it leaves behind. -/
abbrev RouteHistory (K T : Type) [Ord K] := List (RouteEvent K T × FairRouteQueue K T)

section History

variable {K T : Type} [Ord K]

/-- The elementary changes of several pops. -/
def popHistory : Nat → FairRouteQueue K T → RouteHistory K T
  | 0, _ => []
  | rounds + 1, queue =>
    match queue.rotation.head?, queue.popNext with
    | some route, some (item, queue) => (.popped route item, queue) :: popHistory rounds queue
    | _, _ => []

namespace RouteOp

def run (queue : FairRouteQueue K T) : RouteOp K T → FairRouteQueue K T
  | .push route item => (queue.admitItem route item).getD queue
  | .popNext =>
    match queue.popNext with
    | none => queue
    | some (_, queue) => queue
  | .removeWhere predicate => (queue.removeWhere predicate).2
  | .drain => queue.drain.2

/-- The elementary changes that a call makes. -/
def history (queue : FairRouteQueue K T) : RouteOp K T → RouteHistory K T
  | .push route item =>
    match queue.admitItem route item with
    | none => []
    | some queue => [(.admitted route item, queue)]
  | .popNext => popHistory 1 queue
  | .removeWhere predicate =>
    [(.removed (queue.pending.filter (predicate ·.2)), (queue.removeWhere predicate).2)]
  | .drain => popHistory (queue.len + 1) queue

end RouteOp

def runHistory (queue : FairRouteQueue K T) : List (RouteOp K T) → RouteHistory K T
  | [] => []
  | op :: ops => op.history queue ++ runHistory (op.run queue) ops

/-- One elementary change. -/
inductive RouteStep : FairRouteQueue K T → RouteEvent K T → FairRouteQueue K T → Prop
  | push {queue queue' : FairRouteQueue K T} {route : K} {item : T}
      (h : queue.admitItem route item = some queue') : RouteStep queue (.admitted route item) queue'
  | pop {queue queue' : FairRouteQueue K T} {route : K} {rest : List K} {item : T}
      (hrotation : queue.rotation = route :: rest) (h : queue.popNext = some (item, queue')) :
      RouteStep queue (.popped route item) queue'
  | remove (queue : FairRouteQueue K T) (predicate : T → Bool) :
      RouteStep queue (.removed (queue.pending.filter (predicate ·.2))) (queue.removeWhere predicate).2

/-- A chain of elementary changes. -/
inductive RouteSteps : FairRouteQueue K T → RouteHistory K T → FairRouteQueue K T → Prop
  | nil (queue : FairRouteQueue K T) : RouteSteps queue [] queue
  | cons {first next last : FairRouteQueue K T} {event : RouteEvent K T} {history : RouteHistory K T}
      (h : RouteStep first event next) (hrest : RouteSteps next history last) :
      RouteSteps first ((event, next) :: history) last

variable {first last queue queue' : FairRouteQueue K T} {history : RouteHistory K T} {route other : K}
  {event : RouteEvent K T}

theorem RouteSteps.append {middle : FairRouteQueue K T} {later : RouteHistory K T}
    (h : RouteSteps first history middle) (h' : RouteSteps middle later last) :
    RouteSteps first (history ++ later) last := by
  induction h with
  | nil => exact h'
  | cons hstep _ ih => exact .cons hstep (ih h')

theorem RouteSteps.split {later : RouteHistory K T} (h : RouteSteps first (history ++ later) last) :
    ∃ middle, RouteSteps first history middle ∧ RouteSteps middle later last := by
  induction history generalizing first with
  | nil => exact ⟨first, .nil first, h⟩
  | cons entry history ih =>
    cases h with
    | cons hstep hrest =>
      obtain ⟨middle, hhistory, hlater⟩ := ih hrest
      exact ⟨middle, .cons hstep hhistory, hlater⟩

variable [Std.TransOrd K] [Std.LawfulEqOrd K] [DecidableEq K]

def itemsOf (route : K) (entries : List (K × T)) : List T := (entries.filter (·.1 = route)).map (·.2)

section
omit [Ord K] [Std.TransOrd K] [Std.LawfulEqOrd K]

theorem itemsOf_append (route : K) (entries more : List (K × T)) :
    itemsOf route (entries ++ more) = itemsOf route entries ++ itemsOf route more := by
  simp [itemsOf]

theorem itemsOf_single (route other : K) (item : T) :
    itemsOf route [(other, item)] = if other = route then [item] else [] := by
  by_cases heq : other = route <;> simp [itemsOf, heq]

end

omit [DecidableEq K] in
/-- The predicate-free reading of an elementary change of a well-formed queue. -/
theorem RouteStep.popped_spec [DecidableEq K] {item : T} (hwell : queue.WellFormed)
    (h : RouteStep queue (.popped route item) queue') :
    queue'.WellFormed ∧ Popped route item queue queue' := by
  cases h with
  | pop hrotation hpop =>
    obtain ⟨found, next, hnext, hwell', hpopped⟩ := popNext_popped hwell hrotation
    rw [hpop] at hnext
    cases hnext
    exact ⟨hwell', hpopped⟩

theorem RouteStep.wellFormed (hwell : queue.WellFormed) (h : RouteStep queue event queue')
    : queue'.WellFormed := by
  cases h with
  | push hadmit => exact (admitItem_admitted hwell hadmit).1
  | pop hrotation hpop => exact (RouteStep.popped_spec hwell (.pop hrotation hpop)).1
  | remove predicate => exact (removeWhere_removed hwell predicate).2.1

theorem RouteSteps.wellFormed (hwell : first.WellFormed) (h : RouteSteps first history last) :
    last.WellFormed ∧ ∀ entry ∈ history, entry.2.WellFormed := by
  induction h with
  | nil => exact ⟨hwell, by simp⟩
  | cons hstep _ ih =>
    have hnext := hstep.wellFormed hwell
    obtain ⟨hlast, hall⟩ := ih hnext
    refine ⟨hlast, ?_⟩
    intro entry hentry
    obtain heq | hlater := mem_cons.mp hentry
    · rw [heq]
      exact hnext
    · exact hall entry hlater

/-- Every item that arrived is still queued or has left, and none of them twice. -/
theorem RouteSteps.conserves (hwell : first.WellFormed) (h : RouteSteps first history last) :
    (first.pending ++ history.flatMap (·.1.arrivals)).Perm
      (history.flatMap (·.1.departures) ++ last.pending) := by
  induction h with
  | nil => simp
  | @cons first next last event history hstep hrest ih =>
    have htail := ih (hstep.wellFormed hwell)
    rw [flatMap_cons, flatMap_cons]
    cases hstep with
    | push hadmit =>
      have hpending := (admitItem_admitted hwell hadmit).2.pending
      simp only [arrivals_admitted, departures_admitted, nil_append]
      rw [← append_assoc]
      exact (hpending.symm.append_right _).trans htail
    | pop hrotation hpop =>
      have hpending := (RouteStep.popped_spec hwell (.pop hrotation hpop)).2.pending
      simp only [arrivals_popped, departures_popped, nil_append, cons_append]
      exact (hpending.append_right _).trans (List.Perm.cons _ htail)
    | remove predicate =>
      have hpending := (removeWhere_removed hwell predicate).2.2.pending
      simp only [arrivals_removed, departures_removed, nil_append, append_assoc]
      rw [hpending] at htail
      have hparts := (filter_append_perm (predicate ·.2) first.pending).symm
      refine (hparts.append_right _).trans ?_
      rw [append_assoc]
      exact htail.append_left _

theorem RouteSteps.inOrder (hwell : first.WellFormed) (h : RouteSteps first history last) (route : K) :
    (itemsOf route (history.flatMap (·.1.pops)) ++ last.lane route).Sublist
      (first.lane route ++ itemsOf route (history.flatMap (·.1.arrivals))) := by
  induction h with
  | nil => simp [itemsOf]
  | @cons first next last event history hstep hrest ih =>
    have htail := ih (hstep.wellFormed hwell)
    rw [flatMap_cons, flatMap_cons, itemsOf_append, itemsOf_append]
    cases hstep with
    | @push _ other item hadmit =>
      rw [(admitItem_admitted hwell hadmit).2.lanes route] at htail
      rw [pops_admitted, arrivals_admitted, itemsOf_single]
      by_cases heq : route = other
      · rw [if_pos heq] at htail
        rw [if_pos heq.symm, ← append_assoc]
        exact htail
      rw [if_neg heq] at htail
      rw [if_neg (Ne.symm heq)]
      exact htail
    | @pop _ other rest item hrotation hpop =>
      rw [(RouteStep.popped_spec hwell (.pop hrotation hpop)).2.lanes route]
      rw [pops_popped, arrivals_popped, itemsOf_single]
      by_cases heq : route = other
      · rw [if_pos heq, if_pos heq.symm]
        exact htail.cons_cons item
      rw [if_neg heq, if_neg (Ne.symm heq)]
      exact htail
    | remove predicate =>
      rw [(removeWhere_removed hwell predicate).2.2.lanes route] at htail
      have hkept : ((first.lane route).filter (! predicate ·)).Sublist (first.lane route) := filter_sublist
      exact htail.trans (hkept.append_right _)

/-- Two nonempty routes keep their order while the first of them is not served. -/
theorem RouteStep.keepsOrder (hwell : queue.WellFormed) (h : RouteStep queue event queue')
    (horder : [route, other].Sublist queue.rotation) (hnot : event.popsRoute route = false)
    (hroute : queue'.lane route ≠ []) (hother : queue'.lane other ≠ [])
    : [route, other].Sublist queue'.rotation := by
  cases h with
  | push hadmit =>
    obtain hsame | ⟨_, hmore⟩ := (admitItem_admitted hwell hadmit).2.rotation
    · rw [hsame]
      exact horder
    rw [hmore]
    exact horder.trans (sublist_append_left _ _)
  | @pop _ served _ item hrotation hpop =>
    have hserved : served ≠ route := by simpa [popsRoute] using hnot
    obtain ⟨rest, hqueue, hturn⟩ := (RouteStep.popped_spec hwell (.pop hrotation hpop)).2.rotation
    rw [hqueue] at horder
    have hrest : [route, other].Sublist rest := by
      cases horder with
      | cons _ hrest => exact hrest
      | cons_cons _ _ => exact absurd rfl hserved
    obtain ⟨_, hsame⟩ | ⟨_, hmore⟩ := hturn
    · rw [hsame]
      exact hrest
    rw [hmore]
    exact hrest.trans (sublist_append_left _ _)
  | remove predicate =>
    rw [(removeWhere_removed hwell predicate).2.2.rotation]
    have hkept := horder.filter fun route => (queue.removeWhere predicate).2.lane route ≠ []
    simpa [hroute, hother] using hkept

/-- A route that is served and still nonempty falls behind every other. -/
theorem RouteStep.swapsOrder {item : T} (hwell : queue.WellFormed)
    (h : RouteStep queue (.popped route item) queue') (hne : route ≠ other) (hother : other ∈ queue.rotation)
    (hroute : queue'.lane route ≠ []) :
    [other, route].Sublist queue'.rotation := by
  obtain ⟨rest, hqueue, hturn⟩ := (RouteStep.popped_spec hwell h).2.rotation
  have hrest : other ∈ rest := by
    rw [hqueue, mem_cons] at hother
    exact hother.resolve_left hne.symm
  obtain ⟨hgone, _⟩ | ⟨_, hmore⟩ := hturn
  · exact absurd hgone hroute
  rw [hmore]
  exact (singleton_sublist.mpr hrest).append (List.Sublist.refl [route])

theorem RouteStep.keepsBehind (hwell : queue.WellFormed) (h : RouteStep queue event queue')
    (hout : route ∉ queue.rotation) (hother : other ∈ queue.rotation) :
    route ∉ queue'.rotation ∨ [other, route].Sublist queue'.rotation := by
  cases h with
  | @push _ arrived item hadmit =>
    obtain hsame | ⟨_, hmore⟩ := (admitItem_admitted hwell hadmit).2.rotation
    · left
      rw [hsame]
      exact hout
    rw [hmore]
    by_cases heq : arrived = route
    · right
      rw [heq]
      exact (singleton_sublist.mpr hother).append (List.Sublist.refl [route])
    left
    intro hin
    obtain hin | hlast := mem_append.mp hin
    · exact hout hin
    · exact heq (mem_singleton.mp hlast).symm
  | pop hrotation hpop =>
    left
    obtain ⟨rest, hqueue, hturn⟩ := (RouteStep.popped_spec hwell (.pop hrotation hpop)).2.rotation
    rw [hqueue, mem_cons, not_or] at hout
    obtain ⟨_, hsame⟩ | ⟨_, hmore⟩ := hturn
    · rw [hsame]
      exact hout.2
    rw [hmore, mem_append, mem_singleton, not_or]
    exact ⟨hout.2, hout.1⟩
  | remove predicate =>
    left
    rw [(removeWhere_removed hwell predicate).2.2.rotation]
    intro hin
    exact hout (mem_of_mem_filter hin)

def servings (route : K) (history : RouteHistory K T) : Nat := history.countP (·.1.popsRoute route)

omit [Std.TransOrd K] [Std.LawfulEqOrd K] in
theorem servings_cons (route : K) (entry : RouteEvent K T × FairRouteQueue K T) (history : RouteHistory K T) :
    servings route (entry :: history) =
      (if entry.1.popsRoute route then 1 else 0) + servings route history := by
  unfold servings
  rw [countP_cons, Nat.add_comm]

/-- While a route is not served, a nonempty one that is not served either stays before it. -/
theorem RouteSteps.staysBehind {between : RouteHistory K T} (hwell : first.WellFormed)
    (h : RouteSteps first between last)
    (hbehind : route ∉ first.rotation ∨ [other, route].Sublist first.rotation)
    (hother : first.lane other ≠ []) (hstays : ∀ entry ∈ between, entry.2.lane other ≠ [])
    (hnone : servings other between = 0) :
    route ∉ last.rotation ∨ [other, route].Sublist last.rotation := by
  induction h with
  | nil => exact hbehind
  | @cons first next last event history hstep hrest ih =>
    rw [servings_cons] at hnone
    have hnot : event.popsRoute other = false := by
      by_contra hserved
      rw [Bool.not_eq_false] at hserved
      rw [hserved, if_pos rfl] at hnone
      omega
    have hnext := hstays (event, next) mem_cons_self
    have hin : other ∈ first.rotation := (hwell.rotated other).mpr hother
    have hbehind' : route ∉ next.rotation ∨ [other, route].Sublist next.rotation := by
      obtain hout | horder := hbehind
      · exact hstep.keepsBehind hwell hout hin
      by_cases hgone : next.lane route = []
      · left
        intro hback
        exact ((hstep.wellFormed hwell).rotated route).mp hback hgone
      right
      exact hstep.keepsOrder hwell horder hnot hnext hgone
    refine ih (hstep.wellFormed hwell) hbehind' hnext ?_ ?_
    · intro entry hentry
      exact hstays entry (mem_cons_of_mem _ hentry)
    · omega

/-- Of two routes that stay nonempty, the one before the other is served at most once before it. -/
theorem RouteSteps.servesOnce {between : RouteHistory K T} (hne : route ≠ other) (hwell : first.WellFormed)
    (h : RouteSteps first between last) (hroute : first.lane route ≠ []) (hother : first.lane other ≠ [])
    (hstays : ∀ entry ∈ between, entry.2.lane route ≠ [] ∧ entry.2.lane other ≠ [])
    (hnone : servings route between = 0) :
    ([other, route].Sublist first.rotation →
      (servings other between = 0 ∧ [other, route].Sublist last.rotation) ∨
        (servings other between = 1 ∧ [route, other].Sublist last.rotation)) ∧
    ([route, other].Sublist first.rotation →
      servings other between = 0 ∧ [route, other].Sublist last.rotation) := by
  induction h with
  | nil => exact ⟨fun horder => .inl ⟨rfl, horder⟩, fun horder => ⟨rfl, horder⟩⟩
  | @cons first next last event history hstep hrest ih =>
    rw [servings_cons] at hnone ⊢
    have hnot : event.popsRoute route = false := by
      by_contra hserved
      rw [Bool.not_eq_false] at hserved
      rw [hserved, if_pos rfl] at hnone
      omega
    obtain ⟨hroute', hother'⟩ := hstays (event, next) mem_cons_self
    obtain ⟨hbefore, hafter⟩ := ih (hstep.wellFormed hwell) hroute' hother'
      (fun entry hentry => hstays entry (mem_cons_of_mem _ hentry)) (by omega)
    constructor
    · intro horder
      by_cases hserved : event.popsRoute other = true
      · have hswapped : [route, other].Sublist next.rotation := by
          cases event with
          | admitted _ _ | removed _ => cases hserved
          | popped served item =>
            have heq : served = other := by simpa [popsRoute] using hserved
            subst heq
            exact hstep.swapsOrder hwell hne.symm ((hwell.rotated route).mpr hroute) hother'
        obtain ⟨hcount, hlast⟩ := hafter hswapped
        right
        rw [hserved, if_pos rfl, hcount]
        exact ⟨rfl, hlast⟩
      rw [Bool.not_eq_true] at hserved
      rw [hserved]
      simpa using hbefore (hstep.keepsOrder hwell horder hserved hother' hroute')
    · intro horder
      have hserved : event.popsRoute other = false := by
        by_contra hserved
        rw [Bool.not_eq_false] at hserved
        cases hstep with
        | push _ | remove _ => cases hserved
        | @pop _ served rest item hrotation hpop =>
          have heq : served = other := by simpa [popsRoute] using hserved
          have honce := hwell.once
          rw [hrotation, heq] at horder honce
          have hlater : [route, other].Sublist rest := by
            cases horder with
            | cons _ hlater => exact hlater
            | cons_cons _ _ => exact absurd rfl hne
          exact (nodup_cons.mp honce).1 (hlater.subset (by simp))
      rw [hserved]
      simpa using hafter (hstep.keepsOrder hwell horder hnot hroute' hother')

omit [DecidableEq K] in
theorem popHistory_steps (rounds : Nat) (hwell : queue.WellFormed) :
    RouteSteps queue (popHistory rounds queue) (drainLoop rounds queue).2 ∧
      ((popHistory rounds queue).flatMap (·.1.departures)).map (·.2) = (drainLoop rounds queue).1 := by
  classical
  induction rounds generalizing queue with
  | zero => exact ⟨.nil queue, rfl⟩
  | succ rounds ih =>
    unfold popHistory drainLoop
    cases hrotation : queue.rotation with
    | nil =>
      have hpop : queue.popNext = none := by
        unfold popNext
        rw [hrotation]
      simp only [head?_nil, hpop]
      exact ⟨.nil queue, rfl⟩
    | cons route rest =>
      obtain ⟨item, next, hpop, hnext, _⟩ := popNext_popped hwell hrotation
      obtain ⟨hsteps, hitems⟩ := ih hnext
      simp only [head?_cons, hpop]
      refine ⟨.cons (.pop hrotation hpop) hsteps, ?_⟩
      rw [flatMap_cons, map_append, hitems]
      rfl

theorem drainLoop_empties (rounds : Nat) (hwell : queue.WellFormed) (h : queue.len < rounds)
    : (drainLoop rounds queue).2.len = 0 := by
  induction rounds generalizing queue with
  | zero => omega
  | succ rounds ih =>
    unfold drainLoop
    cases hrotation : queue.rotation with
    | nil =>
      have hpop : queue.popNext = none := by
        unfold popNext
        rw [hrotation]
      have hlanes : ∀ entry ∈ queue.lanes.toList, False := by
        intro entry hentry
        have hfound : queue.lanes[entry.1]? = some entry.2 :=
          Std.TreeMap.mem_toList_iff_getElem?_eq_some.mp hentry
        have hlane : queue.lane entry.1 = entry.2 := by
          unfold lane
          rw [hfound]
          rfl
        have hin := (hwell.rotated entry.1).mpr (hlane ▸ hwell.nonempty entry.1 entry.2 hfound)
        rw [hrotation] at hin
        cases hin
      have hnil := eq_nil_iff_forall_not_mem.mpr hlanes
      have hlen := hwell.length
      rw [hnil] at hlen
      simp only [hpop]
      exact hlen
    | cons route rest =>
      obtain ⟨item, next, hpop, hnext, hpopped⟩ := popNext_popped hwell hrotation
      have hcount := hpopped.pending.length_eq
      rw [length_cons, ← hwell.length_pending, ← hnext.length_pending] at hcount
      simp only [hpop]
      exact ih hnext (by omega)

namespace RouteOp

/-- The items that a call hands back. -/
def returned (queue : FairRouteQueue K T) : RouteOp K T → List T
  | .push _ _ => []
  | .popNext => (queue.popNext.map (·.1)).toList
  | .removeWhere predicate => (queue.removeWhere predicate).1
  | .drain => queue.drain.1

omit [DecidableEq K] in
theorem history_steps {queue : FairRouteQueue K T} (hwell : queue.WellFormed) (op : RouteOp K T) :
    RouteSteps queue (op.history queue) (op.run queue) ∧
      ((op.history queue).flatMap (·.1.departures)).map (·.2) = op.returned queue := by
  cases op with
  | push route item =>
    simp only [history, run, returned]
    cases hadmit : queue.admitItem route item with
    | none => exact ⟨.nil queue, rfl⟩
    | some next => exact ⟨.cons (.push hadmit) (.nil next), rfl⟩
  | popNext =>
    obtain ⟨hsteps, hitems⟩ := popHistory_steps 1 hwell
    have hone : drainLoop 1 queue = ((queue.popNext.map (·.1)).toList, run queue .popNext) := by
      unfold drainLoop run
      cases queue.popNext with
      | none | some popped => rfl
    rw [hone] at hsteps hitems
    exact ⟨hsteps, hitems⟩
  | removeWhere predicate =>
    refine ⟨.cons (.remove queue predicate) (.nil _), ?_⟩
    simp only [returned]
    rw [(removeWhere_removed hwell predicate).1]
    simp [history]
  | drain => exact popHistory_steps (queue.len + 1) hwell

end RouteOp

theorem runHistory_steps (hwell : queue.WellFormed) (ops : List (RouteOp K T)) :
    RouteSteps queue (runHistory queue ops) (ops.foldl RouteOp.run queue) := by
  induction ops generalizing queue with
  | nil => exact .nil queue
  | cons op ops ih =>
    obtain ⟨hsteps, _⟩ := op.history_steps hwell
    exact hsteps.append (ih (hsteps.wellFormed hwell).1)

/-- The entries of a history from one index up to another. -/
def span (history : RouteHistory K T) (first second : Nat) : RouteHistory K T :=
  (history.drop first).take (second - first)

structure ConsecutivePops (route : K) (history : RouteHistory K T) (first second : Nat) : Prop where
  ordered : first < second
  atFirst : (history[first]?).any (·.1.popsRoute route) = true
  atSecond : (history[second]?).any (·.1.popsRoute route) = true
  between : servings route (span history (first + 1) second) = 0

def StaysQueued (route : K) (history : RouteHistory K T) (first second : Nat) : Prop :=
  ∀ entry ∈ span history first second, entry.2.lane route ≠ []

section
omit [Std.TransOrd K] [Std.LawfulEqOrd K]

theorem entry_of_popsRoute {index : Nat} (h : (history[index]?).any (·.1.popsRoute route) = true) :
    ∃ item queue, history.drop index = (.popped route item, queue) :: history.drop (index + 1) := by
  cases hentry : history[index]? with
  | none =>
    rw [hentry] at h
    cases h
  | some entry =>
    rw [hentry, Option.any_some] at h
    obtain ⟨hindex, hget⟩ := List.getElem?_eq_some_iff.mp hentry
    obtain ⟨event, queue⟩ := entry
    cases event with
    | admitted _ _ | removed _ => cases h
    | popped served item =>
      have heq : served = route := by simpa [popsRoute] using h
      refine ⟨item, queue, ?_⟩
      rw [List.drop_eq_getElem_cons hindex, hget, heq]

theorem ConsecutivePops.split {first second : Nat} (h : ConsecutivePops route history first second) :
    ∃ item start item' queue', history = history.take first ++ (.popped route item, start) ::
        (span history (first + 1) second ++ (.popped route item', queue') :: history.drop (second + 1)) ∧
      span history first second = (.popped route item, start) :: span history (first + 1) second := by
  obtain ⟨item, start, hfirst⟩ := entry_of_popsRoute h.atFirst
  obtain ⟨item', queue', hsecond⟩ := entry_of_popsRoute h.atSecond
  have hordered := h.ordered
  have hrest : history.drop (first + 1) = span history (first + 1) second ++ history.drop second := by
    unfold span
    have hdrop : history.drop second = (history.drop (first + 1)).drop (second - (first + 1)) := by
      rw [drop_drop]
      congr 1
      omega
    rw [hdrop, take_append_drop]
  refine ⟨item, start, item', queue', ?_, ?_⟩
  · rw [← hsecond, ← hrest, ← hfirst, take_append_drop]
  have hlength : second - first = (second - (first + 1)) + 1 := by omega
  unfold span
  rw [hfirst, hlength, take_succ_cons]

end

theorem RouteSteps.servesOthers {first second : Nat} (hwell : queue.WellFormed)
    (h : RouteSteps queue history last) (hne : other ≠ route)
    (hpops : ConsecutivePops route history first second) (hstays : StaysQueued other history first second) :
    1 ≤ servings other (span history (first + 1) second) ∧
      (StaysQueued route history first second → servings other (span history (first + 1) second) = 1) := by
  obtain ⟨item, start, item', queue', hsplit, hspan⟩ := hpops.split
  have hnone := hpops.between
  unfold StaysQueued at hstays ⊢
  rw [hspan] at hstays ⊢
  rw [hsplit] at h
  generalize span history (first + 1) second = between at *
  generalize history.take first = before at h
  generalize history.drop (second + 1) = after at h
  obtain ⟨middle, hbefore, hrest⟩ := h.split
  have hmiddle := (hbefore.wellFormed hwell).1
  cases hrest with
  | cons hpop hrest =>
    have hstart := hpop.wellFormed hmiddle
    obtain ⟨final, hbetween, hlast⟩ := hrest.split
    have hfinal := (hbetween.wellFormed hstart).1
    cases hlast with
    | cons hpop' _ =>
      obtain ⟨rest, hrotation, _⟩ := (hpop'.popped_spec hfinal).2.rotation
      have hnotBehind : ¬ (route ∉ final.rotation ∨ [other, route].Sublist final.rotation) := by
        rw [hrotation]
        intro hbehind
        obtain hout | horder := hbehind
        · exact hout mem_cons_self
        have honce := hfinal.once
        rw [hrotation] at honce
        cases horder with
        | cons _ hlater => exact (nodup_cons.mp honce).1 (hlater.subset (by simp))
        | cons_cons _ _ => exact hne rfl
      have hother := hstays _ mem_cons_self
      have hin : other ∈ start.rotation := (hstart.rotated other).mpr hother
      have hbefore : other ∈ middle.rotation := by
        have hlane := (hpop.popped_spec hmiddle).2.lanes other
        rw [if_neg hne] at hlane
        rw [hmiddle.rotated, hlane]
        exact hother
      have hlater : ∀ entry ∈ between, entry.2.lane other ≠ [] :=
        fun entry hentry => hstays entry (mem_cons_of_mem _ hentry)
      have hbehind : route ∉ start.rotation ∨ [other, route].Sublist start.rotation := by
        by_cases hgone : start.lane route = []
        · left
          intro hback
          exact (hstart.rotated route).mp hback hgone
        right
        exact hpop.swapsOrder hmiddle hne.symm hbefore hgone
      constructor
      · by_contra hzero
        exact hnotBehind (hbetween.staysBehind hstart hbehind hother hlater (by omega))
      intro hroutes
      have hroute := hroutes _ mem_cons_self
      have horder := hpop.swapsOrder hmiddle hne.symm hbefore hroute
      have hboth : ∀ entry ∈ between, entry.2.lane route ≠ [] ∧ entry.2.lane other ≠ [] :=
        fun entry hentry => ⟨hroutes entry (mem_cons_of_mem _ hentry), hlater entry hentry⟩
      obtain ⟨hzero, hbehind'⟩ | ⟨hone, _⟩ :=
        (hbetween.servesOnce hne.symm hstart hroute hother hboth hnone).1 horder
      · exact absurd (.inr hbehind') hnotBehind
      · exact hone

omit [DecidableEq K] in
theorem popNext_eq_none (hwell : queue.WellFormed) (h : queue.popNext = none) : queue.rotation = [] := by
  classical
  cases hrotation : queue.rotation with
  | nil => rfl
  | cons route rest =>
    obtain ⟨item, next, hpop, _⟩ := popNext_popped hwell hrotation
    rw [h] at hpop
    cases hpop

/-- Every run of the queue keeps its lanes, its rotation and its length in step; the items of a route
leave in the order of their arrival, none is lost and none leaves twice; and between two pops of one
route every other route that stays nonempty has its turn, exactly once if both stay nonempty. -/
theorem fairRouteQueue_run {capacity : Nat} {queue : FairRouteQueue K T}
    (hnew : FairRouteQueue.new capacity = .ok queue) (ops : List (RouteOp K T)) :
    let history := runHistory queue ops
    let last := ops.foldl RouteOp.run queue
    (∀ entry ∈ (history.map (·.2)) ++ [last], entry.WellFormed ∧ (entry.popNext = none → entry.rotation = [])) ∧
    (∀ op : RouteOp K T, ((op.history last).flatMap (·.1.departures)).map (·.2) = op.returned last) ∧
    (history.flatMap (·.1.arrivals)).Perm (history.flatMap (·.1.departures) ++ last.pending) ∧
    (∀ route, (itemsOf route (history.flatMap (·.1.pops)) ++ last.lane route).Sublist
      (itemsOf route (history.flatMap (·.1.arrivals)))) ∧
    (RouteOp.drain.run last).len = 0 ∧
    ∀ (route other : K) (first second : Nat), other ≠ route →
      ConsecutivePops route history first second → StaysQueued other history first second →
      1 ≤ servings other (span history (first + 1) second) ∧
        (StaysQueued route history first second → servings other (span history (first + 1) second) = 1) := by
  intro history last
  obtain ⟨hwell, hempty, hlanes⟩ := new_wellFormed hnew
  have hsteps : RouteSteps queue history last := runHistory_steps hwell ops
  obtain ⟨hlast, hall⟩ := hsteps.wellFormed hwell
  refine ⟨?_, ?_, ?_, ?_, ?_, ?_⟩
  · intro entry hentry
    have hentry' : entry.WellFormed := by
      obtain hin | hsame := mem_append.mp hentry
      · obtain ⟨change, hchange, heq⟩ := mem_map.mp hin
        rw [← heq]
        exact hall change hchange
      rw [mem_singleton.mp hsame]
      exact hlast
    exact ⟨hentry', popNext_eq_none hentry'⟩
  · intro op
    exact (op.history_steps hlast).2
  · have hconserved := hsteps.conserves hwell
    rw [hempty, nil_append] at hconserved
    exact hconserved
  · intro route
    have horder := hsteps.inOrder hwell route
    rw [hlanes route, nil_append] at horder
    exact horder
  · exact drainLoop_empties (last.len + 1) hlast (Nat.lt_succ_self _)
  intro route other first second hne hpops hstays
  exact hsteps.servesOthers hwell hne hpops hstays

end History

/-- Two busy routes that take turns. -/
def busyRoutes : List (RouteOp Nat Nat) :=
  [.push 0 10, .push 0 11, .push 1 20, .push 1 21, .push 1 22, .popNext, .popNext, .popNext,
    .removeWhere (· = 22), .drain]

theorem fairRouteQueue_run_busyRoutes :
    (busyRoutes.foldl RouteOp.run (⟨8, 0, [], ∅⟩ : FairRouteQueue Nat Nat)).WellFormed ∧
      servings 1 (span (runHistory (⟨8, 0, [], ∅⟩ : FairRouteQueue Nat Nat) busyRoutes) (5 + 1) 7) = 1 := by
  have hnew : FairRouteQueue.new 8 = .ok (⟨8, 0, [], ∅⟩ : FairRouteQueue Nat Nat) := rfl
  obtain ⟨hall, _, _, _, _, hturns⟩ := fairRouteQueue_run hnew busyRoutes
  have hpops : ConsecutivePops 0 (runHistory ⟨8, 0, [], ∅⟩ busyRoutes) 5 7 :=
    ⟨by decide, by decide +kernel, by decide +kernel, by decide +kernel⟩
  have hstays : ∀ route ∈ [0, 1], StaysQueued route (runHistory ⟨8, 0, [], ∅⟩ busyRoutes) 5 7 := by
    unfold StaysQueued
    decide +kernel
  have hone := (hturns 0 1 5 7 (by decide) hpops (hstays 1 (by simp))).2 (hstays 0 (by simp))
  exact ⟨(hall _ (mem_append_right _ mem_cons_self)).1, hone⟩

/-- One route whose work runs out between two of its turns, and a busy one. -/
def twoRoutes : List (RouteOp Nat Nat) :=
  [.push 0 10, .push 1 20, .push 1 21, .push 1 22, .push 1 23, .popNext, .popNext, .popNext,
    .push 0 11, .popNext, .popNext, .removeWhere (· = 23)]

/-- A route that stays nonempty can have several turns while another one comes back. -/
theorem servings_twoRoutes :
    ¬ ∀ (queue : FairRouteQueue Nat Nat) (ops : List (RouteOp Nat Nat)) (route other first second : Nat),
      FairRouteQueue.new 8 = .ok queue → other ≠ route →
      ConsecutivePops route (runHistory queue ops) first second →
      StaysQueued other (runHistory queue ops) first second →
      servings other (span (runHistory queue ops) (first + 1) second) = 1 := by
  intro h
  have hpops : ConsecutivePops 0 (runHistory ⟨8, 0, [], ∅⟩ twoRoutes) 5 10 :=
    ⟨by decide, by decide +kernel, by decide +kernel, by decide +kernel⟩
  have hstays : StaysQueued 1 (runHistory ⟨8, 0, [], ∅⟩ twoRoutes) 5 10 := by
    unfold StaysQueued
    decide +kernel
  have honce := h ⟨8, 0, [], ∅⟩ twoRoutes 0 1 5 10 rfl (by decide) hpops hstays
  have hthree : servings 1 (span (runHistory ⟨8, 0, [], ∅⟩ twoRoutes) (5 + 1) 10) = 3 := by
    decide +kernel
  omega

end HyperfluxNext
