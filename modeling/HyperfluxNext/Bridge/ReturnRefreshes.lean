import HyperfluxNext.Bridge.RouteRuns

namespace HyperfluxNext

open Procedure OrderedMaps NativeRouteJournal List

namespace NativeRouteJournal

def returnDue (journal : NativeRouteJournal) (receiverId : ReceiverId) (generationId : GenerationId)
    (deviceId : LogicalDeviceId) (epoch : SequenceNumber) : List (NativeRouteKey × NativeRoute) :=
  (journal.current.toList.filter fun entry => entry.2.receiverId = receiverId ∧
    entry.2.generationId = generationId ∧ entry.2.deviceId = deviceId ∧ entry.2.writable).filter
      fun entry => ! journal.returnEpochs[entry.1]?.any fun last =>
        last.1 = generationId ∧ epoch.get ≤ last.2.get

variable {journal journal' : NativeRouteJournal} {routes : List NativeRoute} {generationId : GenerationId}
  {epoch : SequenceNumber}

theorem append_returnEpochs {kind : NativeRouteEventKind} {route : NativeRoute}
    (h : journal.append kind route = .ok journal') :
    journal'.returnEpochs = journal.returnEpochs := by
  unfold append at h
  split at h
  · cases h
  split at h
  · split at h
    · cases h
    cases h
    rfl
  cases h
  rfl

theorem foldlM_returnEpochs
    {announce : NativeRouteJournal → NativeRoute → Except NativeRouteJournalError NativeRouteJournal}
    (hannounce : ∀ {journal journal' : NativeRouteJournal} {route : NativeRoute},
      announce journal route = .ok journal' → journal'.returnEpochs = journal.returnEpochs)
    (h : routes.foldlM announce journal = .ok journal') : journal'.returnEpochs = journal.returnEpochs := by
  induction routes generalizing journal with
  | nil =>
    cases h
    rfl
  | cons route routes ih =>
    obtain ⟨next, hnext, hrest⟩ := bind_eq_ok h
    exact (ih hrest).trans (hannounce hnext)

/-- What the loop over the candidates announces and remembers. -/
theorem refreshRoute_foldlM {entries : List (NativeRouteKey × NativeRoute)}
    {refreshed refreshed' : Nat × NativeRouteJournal} (hkeys : (entries.map (·.1)).Nodup)
    (h : entries.foldlM (refreshRoute generationId epoch) refreshed = .ok refreshed') :
    ∃ due, due = entries.filter (fun entry => ! refreshed.2.returnEpochs[entry.1]?.any fun last =>
        last.1 = generationId ∧ epoch.get ≤ last.2.get) ∧
      refreshed'.1 = refreshed.1 + due.length ∧
      Announced (due.map fun entry => (.available, entry.2)) refreshed.2 refreshed'.2 ∧
      ∀ key : NativeRouteKey, refreshed'.2.returnEpochs[key]? =
        if key ∈ due.map (·.1) then some (generationId, epoch) else refreshed.2.returnEpochs[key]? := by
  induction entries generalizing refreshed with
  | nil =>
    cases h
    exact ⟨[], rfl, rfl, .nothing rfl, fun key => by simp⟩
  | cons entry entries ih =>
    obtain ⟨next, hnext, hrest⟩ := bind_eq_ok h
    rw [map_cons, nodup_cons] at hkeys
    obtain ⟨hother, hnodup⟩ := hkeys
    obtain ⟨due, hdue, hcount, hannounced, hepochs⟩ := ih hnodup hrest
    unfold refreshRoute at hnext
    dsimp only at hnext
    by_cases hlast : refreshed.2.returnEpochs[entry.1]?.any (fun last =>
        last.1 = generationId ∧ epoch.get ≤ last.2.get) = true
    · rw [if_pos hlast] at hnext
      cases hnext
      refine ⟨due, ?_, hcount, hannounced, hepochs⟩
      rw [filter_cons_of_neg (by rw [hlast]; exact Bool.false_ne_true)]
      exact hdue
    rw [if_neg hlast] at hnext
    obtain ⟨journal, happend, hnew⟩ := bind_eq_ok hnext
    cases hnew
    have hremembered : Announced [] refreshed.2 { refreshed.2 with
      returnEpochs := refreshed.2.returnEpochs.insert entry.1 (generationId, epoch) } := .nothing rfl
    have hinserted : ∀ key : NativeRouteKey, journal.returnEpochs[key]? =
        if key = entry.1 then some (generationId, epoch) else refreshed.2.returnEpochs[key]? := by
      intro key
      rw [append_returnEpochs happend, getElem?_insert_of]
    refine ⟨entry :: due, ?_, ?_, (hremembered.trans (append_announced happend)).trans hannounced, ?_⟩
    · rw [filter_cons_of_pos (by simpa using hlast), hdue]
      congr 1
      apply filter_congr
      intro later hlater
      have hne : later.1 ≠ entry.1 := by
        intro hsame
        rw [← hsame] at hother
        exact hother (mem_map_of_mem hlater)
      dsimp only
      rw [hinserted, if_neg hne]
    · rw [hcount, length_cons]
      dsimp only
      omega
    intro key
    rw [hepochs, map_cons]
    dsimp only
    rw [hinserted]
    by_cases hkey : key = entry.1
    · simp [hkey]
    rw [if_neg hkey]
    simp only [mem_cons, hkey, false_or]

theorem keys_nodup (routes : Std.TreeMap NativeRouteKey NativeRoute) : (routes.toList.map (·.1)).Nodup := by
  rw [Std.TreeMap.map_fst_toList_eq_keys]
  exact Std.TreeMap.nodup_keys

theorem refreshForReturnEpoch_due {receiverId : ReceiverId} {deviceId : LogicalDeviceId} {count : Nat}
    (h : journal.refreshForReturnEpoch receiverId generationId deviceId epoch = .ok (count, journal')) :
    count = (journal.returnDue receiverId generationId deviceId epoch).length ∧
      Announced ((journal.returnDue receiverId generationId deviceId epoch).map
        fun entry => (.available, entry.2)) journal journal' ∧
      ∀ key : NativeRouteKey, journal'.returnEpochs[key]? =
        if key ∈ (journal.returnDue receiverId generationId deviceId epoch).map (·.1) then
          some (generationId, epoch) else journal.returnEpochs[key]? := by
  have hkeys : ((journal.current.toList.filter fun entry => entry.2.receiverId = receiverId ∧
      entry.2.generationId = generationId ∧ entry.2.deviceId = deviceId ∧
      entry.2.writable).map (·.1)).Nodup :=
    (keys_nodup journal.current).sublist (filter_sublist.map _)
  obtain ⟨due, hdue, hcount, hannounced, hepochs⟩ := refreshRoute_foldlM hkeys h
  have hsame : due = journal.returnDue receiverId generationId deviceId epoch := hdue
  rw [hsame] at hcount hannounced hepochs
  exact ⟨hcount.trans (Nat.zero_add _), hannounced, hepochs⟩

theorem synchronize_returnEpochs [RouteTokenDigest] {identities identities' : RuntimeIdentityIssuer}
    (h : journal.synchronize identities routes = .ok (journal', identities')) (key : NativeRouteKey) :
    journal'.returnEpochs[key]? = journal.returnEpochs[key]?.filter fun last =>
      journal'.current[key]?.any fun route => route.generationId = last.1 ∧ route.writable := by
  unfold synchronize at h
  split at h
  · cases h
  split at h
  · cases h
  obtain ⟨announced, hincoming, h⟩ := bind_eq_ok h
  obtain ⟨withdrawn, hwithdrawn, h⟩ := bind_eq_ok h
  cases h
  have hfirst : announced.returnEpochs = journal.returnEpochs := by
    apply foldlM_returnEpochs _ hincoming
    intro before after route hannounce
    unfold appendIncoming at hannounce
    split at hannounce
    · cases hannounce
      rfl
    · exact append_returnEpochs hannounce
  have hsecond : withdrawn.returnEpochs = announced.returnEpochs := by
    apply foldlM_returnEpochs _ hwithdrawn
    intro before after route hannounce
    unfold appendWithdrawn at hannounce
    split at hannounce
    · cases hannounce
      rfl
    · exact append_returnEpochs hannounce
  dsimp only
  rw [Std.TreeMap.getElem?_filter', hsecond, hfirst]

end NativeRouteJournal

section Refreshes

variable [RouteTokenDigest]

def RouteCall.refreshes (state : JournalState) : RouteCall → List (NativeRouteKey × GenerationId × SequenceNumber)
  | .refresh receiverId generationId deviceId epoch =>
    match state.journal.refreshForReturnEpoch receiverId generationId deviceId epoch with
    | .error _ => []
    | .ok _ => (state.journal.returnDue receiverId generationId deviceId epoch).map
        fun entry => (entry.1, generationId, epoch)
  | _ => []

def OpenIn (state : JournalState) (key : NativeRouteKey) (generationId : GenerationId) : Prop :=
  ∃ route, state.journal.current[key]? = some route ∧ route.generationId = generationId ∧ route.writable = true

def RefreshRemembered (state : JournalState) (key : NativeRouteKey) (generationId : GenerationId)
    (epoch : SequenceNumber) : Prop :=
  OpenIn state key generationId ∧
    ∃ last, state.journal.returnEpochs[key]? = some (generationId, last) ∧ epoch.get ≤ last.get

variable {state : JournalState} {key : NativeRouteKey} {generationId : GenerationId} {epoch : SequenceNumber}

theorem of_mem_refreshes {call : RouteCall} (h : (key, generationId, epoch) ∈ call.refreshes state) :
    (∀ last, state.journal.returnEpochs[key]? = some (generationId, last) → last.get < epoch.get) ∧
      (call.run state).journal.returnEpochs[key]? = some (generationId, epoch) := by
  cases call with
  | synchronize _ | issue => cases h
  | refresh receiverId generation deviceId number =>
    unfold RouteCall.refreshes at h
    unfold RouteCall.run
    dsimp only at h ⊢
    cases hresult : state.journal.refreshForReturnEpoch receiverId generation deviceId number with
    | error _ =>
      rw [hresult] at h
      cases h
    | ok refreshed =>
      rw [hresult] at h
      obtain ⟨entry, hentry, hsame⟩ := mem_map.mp h
      cases hsame
      obtain ⟨-, -, hepochs⟩ := refreshForReturnEpoch_due hresult
      constructor
      · intro last hlast
        have hnewer := (mem_filter.mp hentry).2
        rw [hlast] at hnewer
        simpa using hnewer
      · rw [hepochs, if_pos (mem_map_of_mem hentry)]

theorem remembers_step (hremembers : RefreshRemembered state key generationId epoch) (call : RouteCall)
    (hopen : OpenIn (call.run state) key generationId) : RefreshRemembered (call.run state) key generationId epoch := by
  refine ⟨hopen, ?_⟩
  obtain ⟨⟨route, hroute, hgeneration, -⟩, last, hlast, hle⟩ := hremembers
  cases call with
  | issue => exact ⟨last, hlast, hle⟩
  | synchronize routes =>
    unfold RouteCall.run at hopen ⊢
    dsimp only at hopen ⊢
    split at hopen
    · exact ⟨last, hlast, hle⟩
    obtain ⟨current, hcurrent, hsame, hwritable⟩ := hopen
    next hok =>
      refine ⟨last, ?_, hle⟩
      dsimp only at hcurrent ⊢
      rw [synchronize_returnEpochs hok, hlast, hcurrent]
      simp [hsame, hwritable]
  | refresh receiverId generation deviceId number =>
    unfold RouteCall.run
    dsimp only
    split
    · exact ⟨last, hlast, hle⟩
    next hok =>
    dsimp only
    obtain ⟨-, -, hepochs⟩ := refreshForReturnEpoch_due hok
    by_cases hdue : key ∈ (state.journal.returnDue receiverId generation deviceId number).map (·.1)
    · obtain ⟨entry, hentry, hkey⟩ := mem_map.mp hdue
      obtain ⟨hcandidate, hnewer⟩ := mem_filter.mp hentry
      obtain ⟨hmem, hchosen⟩ := mem_filter.mp hcandidate
      have hown := Std.TreeMap.mem_toList_iff_getElem?_eq_some.mp hmem
      rw [hkey, hroute, Option.some.injEq] at hown
      have hsame : generation = generationId := by
        rw [← hgeneration, hown]
        exact (of_decide_eq_true hchosen).2.1.symm
      subst hsame
      rw [hkey, hlast] at hnewer
      refine ⟨number, by rw [hepochs, if_pos hdue], ?_⟩
      have hlater : last.get < number.get := by simpa using hnewer
      omega
    · exact ⟨last, by rw [hepochs, if_neg hdue, hlast], hle⟩

theorem remembers_run (hremembers : RefreshRemembered state key generationId epoch) (calls : List RouteCall)
    (hopen : ∀ count, OpenIn (routeRun state (calls.take count)) key generationId) :
    RefreshRemembered (routeRun state calls) key generationId epoch := by
  induction calls generalizing state with
  | nil => exact hremembers
  | cons call calls ih =>
    apply ih (remembers_step hremembers call (hopen 1))
    intro count
    exact hopen (count + 1)

/-- A return epoch that is acted on announces each due route once, and of two that are acted on for a route
that stays available in its generation the later one is newer. -/
theorem return_refresh_once (start : JournalState) (before : List RouteCall) (first : RouteCall) :
    ((first.refreshes (routeRun start before)).map (·.1)).Nodup ∧
    (∀ receiverId generationId deviceId epoch count journal',
      (routeRun start before).journal.refreshForReturnEpoch receiverId generationId deviceId epoch =
        .ok (count, journal') →
      ∃ entries : List (NativeRouteKey × NativeRoute),
        RouteCall.refreshes (routeRun start before) (.refresh receiverId generationId deviceId epoch) =
          entries.map (fun entry => (entry.1, generationId, epoch)) ∧
        (∀ entry ∈ entries, (routeRun start before).journal.current[entry.1]? = some entry.2) ∧
        count = entries.length ∧
        Announced (entries.map fun entry => (.available, entry.2)) (routeRun start before).journal journal') ∧
    ∀ (between : List RouteCall) (second : RouteCall) (key : NativeRouteKey) (generationId : GenerationId)
      (epoch later : SequenceNumber),
      (key, generationId, epoch) ∈ first.refreshes (routeRun start before) →
      (∀ count, OpenIn (routeRun start (before ++ first :: between.take count)) key generationId) →
      (key, generationId, later) ∈ second.refreshes (routeRun start (before ++ first :: between)) →
      epoch.get < later.get := by
  refine ⟨?_, ?_, ?_⟩
  · cases first with
    | synchronize _ | issue => exact nodup_nil
    | refresh receiverId generationId deviceId epoch =>
      unfold RouteCall.refreshes
      dsimp only
      split
      · exact nodup_nil
      rw [map_map]
      exact ((keys_nodup _).sublist (filter_sublist.map _)).sublist (filter_sublist.map _)
  · intro receiverId generationId deviceId epoch count journal' h
    obtain ⟨hcount, hannounced, -⟩ := refreshForReturnEpoch_due h
    refine ⟨_, ?_, ?_, hcount, hannounced⟩
    · unfold RouteCall.refreshes
      dsimp only
      rw [h]
    intro entry hentry
    exact Std.TreeMap.mem_toList_iff_getElem?_eq_some.mp (mem_of_mem_filter (mem_of_mem_filter hentry))
  intro between second key generationId epoch later hfirst hopen hsecond
  have hrun : ∀ rest, routeRun start (before ++ first :: rest) =
      routeRun (first.run (routeRun start before)) rest := by
    intro rest
    rw [routeRun_append]
    rfl
  have hstart : RefreshRemembered (first.run (routeRun start before)) key generationId epoch :=
    ⟨by simpa [hrun, routeRun] using hopen 0, epoch, (of_mem_refreshes hfirst).2, Nat.le_refl _⟩
  rw [hrun] at hsecond
  obtain ⟨-, last, hlast, hle⟩ := remembers_run hstart between fun count => by
    rw [← hrun]
    exact hopen count
  have hnewer := (of_mem_refreshes hsecond).1 last hlast
  omega

end Refreshes

/-- A route that was away for a while is announced again for the same epoch. -/
theorem same_epoch_refreshed_again :
    let _ := sampleTokenDigest
    let epoch : SequenceNumber := .lit 5
    let refresh : RouteCall := .refresh sampleOffered.receiverId sampleOffered.generationId sampleOffered.deviceId epoch
    (sampleOffered.key, sampleOffered.generationId, epoch) ∈
        refresh.refreshes (routeRun sampleRouteStart (sampleRouteCalls.take 1)) ∧
      (sampleOffered.key, sampleOffered.generationId, epoch) ∈
        refresh.refreshes (routeRun sampleRouteStart sampleRouteCalls) := by
  decide +kernel

/-- The route is offered unchanged between two return epochs: only an epoch after the fifth is acted on. -/
theorem return_refresh_once_sample :
    let _ := sampleTokenDigest
    let refresh (epoch : SequenceNumber) : RouteCall :=
      .refresh sampleOffered.receiverId sampleOffered.generationId sampleOffered.deviceId epoch
    let kept := routeRun sampleRouteStart (sampleRouteCalls.take 1 ++
      refresh (.lit 5) :: [.synchronize [sampleOffered]])
    (∀ epoch, (sampleOffered.key, sampleOffered.generationId, epoch) ∈ (refresh epoch).refreshes kept →
      5 < epoch.get) ∧
    (sampleOffered.key, sampleOffered.generationId, .lit 6) ∈ (refresh (.lit 6)).refreshes kept := by
  intro _ refresh kept
  have hopened : ∀ state : JournalState, (state.journal.current[sampleOffered.key]?.any fun route =>
      route.generationId = sampleOffered.generationId ∧ route.writable = true) = true →
      OpenIn state sampleOffered.key sampleOffered.generationId := by
    intro state h
    obtain ⟨route, hat, hroute⟩ := (Option.any_eq_true ..).mp h
    exact ⟨route, hat, of_decide_eq_true hroute⟩
  have hopen : ∀ count, OpenIn (routeRun sampleRouteStart (sampleRouteCalls.take 1 ++
      refresh (.lit 5) :: [.synchronize [sampleOffered]].take count)) sampleOffered.key
      sampleOffered.generationId := by
    intro count
    cases count with
    | zero => exact hopened _ (by decide +kernel)
    | succ count =>
      rw [take_succ_cons, take_nil]
      exact hopened _ (by decide +kernel)
  refine ⟨fun epoch hrefreshed => ?_, by decide +kernel⟩
  exact (return_refresh_once sampleRouteStart (sampleRouteCalls.take 1) (refresh (.lit 5))).2.2
    [.synchronize [sampleOffered]] (refresh epoch) sampleOffered.key sampleOffered.generationId (.lit 5)
    epoch (by decide +kernel) hopen hrefreshed

end HyperfluxNext
