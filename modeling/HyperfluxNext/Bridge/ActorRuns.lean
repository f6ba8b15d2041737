import HyperfluxNext.Bridge.NativeRetry
import HyperfluxNext.Bridge.RouteWaits

namespace HyperfluxNext

open Procedure List FairRouteQueue

def ActorEvent.calls : ActorEvent → List NativeTransportDispatch
  | .answered answer => answer.after.calls.drop answer.before.calls.length
  | _ => []

/-- The request an event takes in. -/
def ActorEvent.arrival : ActorEvent → Option NativeCommand
  | .arrived command => some command
  | _ => none

def ActorEvent.answer : ActorEvent → Option NativeCommand
  | .answered answer => some answer.command
  | _ => none

def arrivals (log : List ActorEvent) : List NativeCommand := log.filterMap (·.arrival)

def answers (log : List ActorEvent) : List NativeCommand := log.filterMap (·.answer)

/-- How often a channel got a reply. -/
def repliesOn (channel : Nat) (log : List ActorEvent) : Nat := (answers log).countP (·.channel = channel)

/-- The requests that wait in the queue. -/
def BridgeActor.waiting (actor : BridgeActor) : List NativeCommand := actor.nativePending.pending.map (·.2)

open BridgeActor

theorem arrivals_append (log more : List ActorEvent) : arrivals (log ++ more) = arrivals log ++ arrivals more :=
  filterMap_append

theorem answers_append (log more : List ActorEvent) : answers (log ++ more) = answers log ++ answers more :=
  filterMap_append

variable (sent : List AnsweredNative)

theorem arrivals_answered : arrivals (sent.map .answered) = [] := by
  unfold arrivals
  rw [filterMap_map, filterMap_eq_nil_iff]
  intro answer _
  rfl

theorem answers_answered : answers (sent.map .answered) = sent.map (·.command) := by
  unfold answers
  rw [filterMap_map]
  exact congrFun filterMap_eq_map sent

variable {ports : NativePorts} {log : List ActorEvent}

section Calls

def CallsFor (ports : NativePorts) (routeToken : NativeRouteToken) (b b' : NativeBackend) : Prop :=
  ∃ made, made.length ≤ 1 ∧ b'.calls = b.calls ++ made ∧
    ∀ dispatch ∈ made, dispatch.routeTokenDigest = ports.routeTokenDigest routeToken

variable {routeToken : NativeRouteToken}

theorem CallsFor.none {b b' : NativeBackend} (h : b'.calls = b.calls) : CallsFor ports routeToken b b' :=
  ⟨[], Nat.zero_le 1, h.trans (append_nil _).symm, fun _ hmem => (by cases hmem)⟩

theorem CallsFor.same {b b₁ b₂ : NativeBackend} (h : CallsFor ports routeToken b b₁)
    (hsame : b₂.calls = b₁.calls) :
    CallsFor ports routeToken b b₂ := by
  obtain ⟨made, hone, hcalls, hroute⟩ := h
  exact ⟨made, hone, hsame.trans hcalls, hroute⟩

theorem nativeTransact_calls (ports : NativePorts) (session : AuthorizedSession)
    (request : NativeExchangeRequest) (b : NativeBackend) :
    Ensures (nativeTransact ports session request) b (CallsFor ports request.routeToken b) := by
  have hcomplete : ∀ (b₁ : NativeBackend) (result : NativeExchangeResult),
      CallsFor ports request.routeToken b b₁ →
      Ensures (completeNativeExchange request result) b₁ (CallsFor ports request.routeToken b) := by
    intro b₁ result hcalls
    refine holds_mono (completeNativeExchange_calls request result b₁) ?_ ?_
    · intro _ b' hsame
      exact hcalls.same hsame
    intro _ b' hsame
    exact hcalls.same hsame
  have hreject : ∀ (b₁ : NativeBackend) (errorKind : ProtocolErrorKind), b₁.calls = b.calls →
      Ensures (rejectNativeBeforeSet request errorKind) b₁ (CallsFor ports request.routeToken b) :=
    fun b₁ _ hsame => hcomplete b₁ _ (.none hsame)
  unfold nativeTransact
  refine holds_authorized (fun _ => ?_) (fun _ _ => .none rfl)
  simp only [holds_do]
  refine holds_mono (tick_spec ports b) ?_ ?_
  · intro _ b₁ hticked
    have hsame := hticked.2.calls
    split
    · exact hreject b₁ _ hsame
    simp only [holds_do]
    refine ⟨fun found _ => ?_, fun _ _ => .none hsame⟩
    cases found with
    | some outcome => exact .none hsame
    | none =>
      simp only [holds_do]
      refine holds_mono (synchronizeNativeRoutes_spec ports.exchangeRoutes b₁) ?_ ?_
      · intro _ b₂ hreconciled
        have hsame₂ := hreconciled.2.calls.trans hsame
        split
        · exact hreject b₂ _ hsame₂
        simp only [holds_do]
        have hmade : ∀ (b₃ : NativeBackend) (dispatch : NativeTransportDispatch),
            b₃.calls = b₂.calls ++ [dispatch] →
            dispatch.routeTokenDigest = ports.routeTokenDigest request.routeToken →
            CallsFor ports request.routeToken b b₃ := by
          intro b₃ dispatch hcalls hroute
          refine ⟨[dispatch], Nat.le_refl 1, hcalls.trans (congrArg (· ++ _) hsame₂), ?_⟩
          intro made hmem
          rw [mem_singleton.mp hmem]
          exact hroute
        refine ⟨fun nonce _ => ⟨fun result _ => ?_, fun _ _ => ?_⟩, fun _ _ => .none hsame₂⟩
        · exact hcomplete _ _ (hmade _ _ rfl rfl)
        · exact hmade _ _ rfl rfl
      · intro _ b₂ hfailed
        rw [hfailed.2]
        exact .none hsame
  · intro _ b₁ hfailed
    rw [hfailed.2]
    exact .none rfl

theorem dispatchPending_calls {pending : PendingNativeCommand} (request : NativeExchangeRequest)
    (b : NativeBackend) :
    CallsFor ports request.routeToken b
      (dispatchPending ports pending (nativeTransact ports · request) b).2 := by
  unfold dispatchPending
  split
  · exact .none rfl
  · exact .none rfl
  next session _ =>
    split
    next outcome b' hok => exact (holds_of_ok hok).mp (nativeTransact_calls ports session request b)
    next failure b' herror => exact (holds_of_error herror).mp (nativeTransact_calls ports session request b)

/-- The call that a reply reports reached the transport at most once, for the route of its command. -/
def AnsweredNative.OwnCall (answer : AnsweredNative) : Prop :=
  CallsFor answer.ports answer.command.pending.request.routeToken answer.before answer.after

def OwnCalls (log : List ActorEvent) : Prop := ∀ answer, .answered answer ∈ log → answer.OwnCall

theorem OwnCalls.append {more : List ActorEvent} (h : OwnCalls log) (h' : OwnCalls more) :
    OwnCalls (log ++ more) := by
  intro answer hanswer
  obtain hfirst | hsecond := mem_append.mp hanswer
  · exact h answer hfirst
  · exact h' answer hsecond

theorem OwnCalls.arrived (command : NativeCommand) : OwnCalls [.arrived command] := by
  intro answer hanswer
  cases mem_singleton.mp hanswer

end Calls

/-- The replies a step sends: to these commands, in this order, each about one backend call. -/
structure Replies (commands : List NativeCommand) (actor actor' : BridgeActor) : Prop where
  queue : actor'.nativePending = actor.nativePending
  channels : actor'.nextChannel = actor.nextChannel
  stopped : actor'.stopped = actor.stopped
  log : ∃ sent : List AnsweredNative, actor'.log = actor.log ++ sent.map .answered ∧
    sent.map (·.command) = commands ∧ ∀ answer ∈ sent, answer.OwnCall
  calls : actor.backend.calls = actor.log.flatMap (·.calls) →
    actor'.backend.calls = actor'.log.flatMap (·.calls)

theorem Replies.refl (actor : BridgeActor) : Replies [] actor actor :=
  ⟨rfl, rfl, rfl, ⟨[], (append_nil _).symm, rfl, fun _ hmem => (by cases hmem)⟩, id⟩

variable {commands : List NativeCommand} {actor actor' : BridgeActor}
  {queue : FairRouteQueue NativeRouteToken NativeCommand} {command : NativeCommand} {bound : Nat}
  {predicate : NativeCommand → Bool}

theorem Replies.trans {more : List NativeCommand} {actor₁ actor₂ actor₃ : BridgeActor}
    (h : Replies commands actor₁ actor₂) (h' : Replies more actor₂ actor₃) :
    Replies (commands ++ more) actor₁ actor₃ := by
  obtain ⟨sent, hlog, hcommands, hown⟩ := h.log
  obtain ⟨sent', hlog', hcommands', hown'⟩ := h'.log
  refine ⟨h'.queue.trans h.queue, h'.channels.trans h.channels, h'.stopped.trans h.stopped,
    ⟨sent ++ sent', ?_, ?_, ?_⟩, fun hcalls => h'.calls (h.calls hcalls)⟩
  · rw [hlog', hlog, map_append, append_assoc]
  · rw [map_append, hcommands, hcommands']
  intro answer hanswer
  obtain hfirst | hsecond := mem_append.mp hanswer
  · exact hown answer hfirst
  · exact hown' answer hsecond

theorem Replies.answers (h : Replies commands actor actor') :
    answers actor'.log = answers actor.log ++ commands ∧ arrivals actor'.log = arrivals actor.log := by
  obtain ⟨sent, hlog, hcommands, _⟩ := h.log
  rw [hlog, answers_append, answers_answered, hcommands, arrivals_append, arrivals_answered, append_nil]
  exact ⟨rfl, rfl⟩

theorem Replies.own (h : Replies commands actor actor') (hown : OwnCalls actor.log) : OwnCalls actor'.log := by
  obtain ⟨sent, hlog, _, hsent⟩ := h.log
  rw [hlog]
  refine hown.append ?_
  intro answer hanswer
  obtain ⟨reply, hreply, heq⟩ := mem_map.mp hanswer
  cases heq
  exact hsent _ hreply

namespace BridgeActor

theorem answer_replies {actor : BridgeActor} {command : NativeCommand} {result : NativeReply × NativeBackend}
    (h : CallsFor ports command.pending.request.routeToken actor.backend result.2) :
    Replies [command] actor (actor.answer command ports result) := by
  obtain ⟨made, hone, hmade, hroute⟩ := h
  refine ⟨rfl, rfl, rfl, ⟨[⟨command, ports, actor.backend, result.1, result.2⟩], rfl, rfl, ?_⟩, ?_⟩
  · intro answer hanswer
    rw [mem_singleton.mp hanswer]
    exact ⟨made, hone, hmade, hroute⟩
  intro hcalls
  show result.2.calls = (actor.log ++ [ActorEvent.answered ⟨command, ports, actor.backend, result.1,
    result.2⟩]).flatMap (·.calls)
  rw [flatMap_append, ← hcalls, hmade]
  simp [ActorEvent.calls, hmade]

theorem rejectPendingNative_replies (ports : NativePorts) (actor : BridgeActor)
    (command : NativeCommand) (rejection : NativeExchangeRejection) :
    Replies [command] actor (rejectPendingNative ports actor (command, rejection)) := by
  exact answer_replies (.none (rejectPendingNative_calls _ _ _ _))

theorem rejectAll_replies (ports : Nat → NativePorts)
    (rejected : List (NativeCommand × NativeExchangeRejection)) (actor : BridgeActor) :
    Replies (rejected.map (·.1)) actor (rejectAll ports rejected actor) := by
  induction rejected generalizing actor with
  | nil => exact .refl actor
  | cons first rejected ih => exact (rejectPendingNative_replies _ actor first.1 first.2).trans (ih _)

end BridgeActor

/-- Every request so far has one reply, or waits in the queue under its route and has none. -/
structure ActorAccounted (actor : BridgeActor) : Prop where
  well : actor.nativePending.WellFormed
  keyed : ∀ entry ∈ actor.nativePending.pending, entry.2.pending.routeToken = entry.1
  channels : (arrivals actor.log).map (·.channel) = List.range actor.nextChannel
  parts : (arrivals actor.log).Perm (answers actor.log ++ actor.waiting)
  calls : actor.backend.calls = actor.log.flatMap (·.calls)
  own : OwnCalls actor.log
  stopped : actor.stopped = true → actor.waiting = []

theorem ActorAccounted.start (h : ActorStart actor) : ActorAccounted actor := by
  obtain ⟨capacity, hnew⟩ := h.queue
  obtain ⟨hwell, hempty, _⟩ := new_wellFormed hnew
  have hwaiting : actor.waiting = [] := by
    unfold waiting
    rw [hempty]
    rfl
  refine ⟨hwell, ?_, ?_, ?_, ?_, ?_, fun _ => hwaiting⟩
  · rw [hempty]
    exact fun _ hmem => (by cases hmem)
  · rw [h.log, h.channels]
    rfl
  · rw [h.log, hwaiting]
    exact List.Perm.refl _
  · rw [h.calls, h.log]
    rfl
  rw [h.log]
  exact fun _ hmem => (by cases hmem)

/-- Each channel has one reply or one waiting request, never both. -/
theorem ActorAccounted.once (h : ActorAccounted actor) (channel : Nat) :
    repliesOn channel actor.log + actor.waiting.countP (·.channel = channel) =
      if channel < actor.nextChannel then 1 else 0 := by
  have hcount := h.parts.countP_eq (·.channel = channel)
  rw [countP_append] at hcount
  unfold repliesOn
  rw [← hcount]
  have hmapped : (arrivals actor.log).countP (·.channel = channel) =
      ((arrivals actor.log).map (·.channel)).count channel := by
    rw [count_eq_countP, countP_map]
    exact countP_congr fun _ _ => by simp
  rw [hmapped, h.channels, nodup_range.count]
  simp only [mem_range]

theorem ActorAccounted.withBackend (h : ActorAccounted actor) {backend : NativeBackend}
    (hcalls : backend.calls = actor.backend.calls) :
    ActorAccounted { actor with backend := backend } :=
  ⟨h.well, h.keyed, h.channels, h.parts, hcalls.trans h.calls, h.own, h.stopped⟩

theorem ActorAccounted.settle (h : ActorAccounted actor) (hwell : queue.WellFormed)
    (hparts : actor.waiting.Perm (commands ++ queue.pending.map (·.2)))
    (hkept : ∀ entry ∈ queue.pending, entry ∈ actor.nativePending.pending)
    (hreplies : Replies commands { actor with nativePending := queue } actor') : ActorAccounted actor' := by
  obtain ⟨hanswers, harrivals⟩ := hreplies.answers
  have hqueue : actor'.nativePending = queue := hreplies.queue
  have hwaiting : actor'.waiting = queue.pending.map (·.2) := by
    unfold waiting
    rw [hqueue]
  refine ⟨hqueue ▸ hwell, ?_, ?_, ?_, hreplies.calls h.calls, hreplies.own h.own, ?_⟩
  · rw [hqueue]
    intro entry hentry
    exact h.keyed entry (hkept entry hentry)
  · rw [harrivals, hreplies.channels]
    exact h.channels
  · rw [harrivals, hanswers, hwaiting, append_assoc]
    exact h.parts.trans (hparts.append_left _)
  intro hstopped
  rw [hreplies.stopped] at hstopped
  have hnone := h.stopped hstopped
  rw [hnone] at hparts
  have hnil := nil_perm.mp hparts
  rw [hwaiting]
  exact (append_eq_nil_iff.mp hnil).2

theorem receive_log (actor : BridgeActor) (command : NativeCommand) :
    (actor.receive command).log = actor.log ++ [.arrived command] := rfl

/-- A request that is answered as it arrives keeps the account. -/
theorem ActorAccounted.turnDown (h : ActorAccounted actor) (hchannel : command.channel = actor.nextChannel)
    (hreplies : Replies [command] (actor.receive command) actor') : ActorAccounted actor' := by
  obtain ⟨hanswers, harrivals⟩ := hreplies.answers
  have hqueue : actor'.nativePending = actor.nativePending := hreplies.queue
  have hwaiting : actor'.waiting = actor.waiting := by
    unfold waiting
    rw [hqueue]
  have harrived : arrivals actor'.log = arrivals actor.log ++ [command] := by
    rw [harrivals, receive_log, arrivals_append]
    rfl
  have hanswered : answers actor'.log = answers actor.log ++ [command] := by
    rw [hanswers, receive_log, answers_append]
    show answers actor.log ++ [] ++ [command] = _
    rw [append_nil]
  have hown : OwnCalls (actor.receive command).log := h.own.append (.arrived command)
  refine ⟨hqueue ▸ h.well, hqueue ▸ h.keyed, ?_, ?_, hreplies.calls ?_, hreplies.own hown, ?_⟩
  · have hnext : (actor.receive command).nextChannel = actor.nextChannel + 1 := rfl
    rw [harrived, hreplies.channels, hnext, map_append, h.channels, range_succ, ← hchannel]
    rfl
  · rw [harrived, hanswered, hwaiting, append_assoc]
    refine (h.parts.append_right _).trans ?_
    rw [append_assoc]
    exact perm_append_comm.append_left _
  · rw [receive_log, flatMap_append, ← h.calls]
    exact (append_nil _).symm
  rw [hreplies.stopped, hwaiting]
  exact h.stopped

namespace BridgeActor

variable {actor : BridgeActor}

theorem processRequest_accounted (h : ActorAccounted actor) (hrunning : actor.stopped = false)
    (connectionId : Nat) (request : NativeExchangeRequest) (now : Nat) (ports : NativePorts) :
    ActorAccounted (actor.processRequest connectionId request now ports) := by
  unfold processRequest
  generalize hcommand : NativeCommand.mk _ _ = command
  have hchannel : command.channel = actor.nextChannel := by rw [← hcommand]
  have hroute : command.pending.routeToken = request.routeToken := by rw [← hcommand]
  have hsame : ∀ result : NativeReply, ActorAccounted ((actor.receive command).answer command ports
      (result, (actor.receive command).backend)) :=
    fun result => h.turnDown hchannel (answer_replies (.none rfl))
  dsimp only
  split
  · exact hsame _
  · exact hsame _
  split
  next queue hpush =>
    obtain ⟨hwell, hadmitted⟩ := admitItem_admitted h.well hpush
    have hwaiting : (queue.pending.map (·.2)).Perm (actor.waiting ++ [command]) := by
      have hmapped := hadmitted.pending.map (·.2)
      rw [map_append] at hmapped
      exact hmapped
    refine ⟨hwell, ?_, ?_, ?_, ?_, h.own.append (.arrived command), ?_⟩
    · intro entry hentry
      have hold := hadmitted.pending.mem_iff.mp hentry
      obtain hbefore | hnew := mem_append.mp hold
      · exact h.keyed entry hbefore
      rw [mem_singleton.mp hnew]
      exact hroute
    · show (arrivals (actor.receive command).log).map _ = List.range (actor.nextChannel + 1)
      rw [receive_log, arrivals_append, map_append, h.channels, range_succ, ← hchannel]
      rfl
    · show (arrivals (actor.receive command).log).Perm
        (answers (actor.receive command).log ++ queue.pending.map (·.2))
      rw [receive_log, arrivals_append, answers_append]
      show (arrivals actor.log ++ [command]).Perm (answers actor.log ++ [] ++ queue.pending.map (·.2))
      rw [append_nil]
      refine (h.parts.append_right _).trans ?_
      rw [append_assoc]
      exact hwaiting.symm.append_left _
    · show actor.backend.calls = (actor.receive command).log.flatMap (·.calls)
      rw [receive_log, flatMap_append, ← h.calls]
      exact (append_nil _).symm
    intro hstopped
    have hrunning' : actor.stopped = true := hstopped
    rw [hrunning] at hrunning'
    cases hrunning'
  · exact h.turnDown hchannel (rejectPendingNative_replies _ _ _ _)

theorem dispatchNextNative_accounted (h : ActorAccounted actor) (now : Nat) (ports : NativePorts)
    : ActorAccounted (actor.dispatchNextNative now ports) := by
  unfold dispatchNextNative
  cases hrotation : actor.nativePending.rotation with
  | nil =>
    have hpop : actor.nativePending.popNext = none := by
      unfold popNext
      rw [hrotation]
    rw [hpop]
    exact h
  | cons route rest =>
    obtain ⟨command, queue, hpop, hwell, hpopped⟩ := popNext_popped h.well hrotation
    have hparts : actor.waiting.Perm ([command] ++ queue.pending.map (·.2)) := hpopped.pending.map Prod.snd
    have hkept : ∀ entry ∈ queue.pending, entry ∈ actor.nativePending.pending := by
      intro entry hentry
      exact hpopped.pending.mem_iff.mpr (mem_cons_of_mem _ hentry)
    simp only [hpop]
    split
    · exact h.settle hwell hparts hkept (rejectPendingNative_replies _ _ _ _)
    next timeoutMs _ =>
      refine h.settle hwell hparts hkept (answer_replies ?_)
      exact dispatchPending_calls { command.pending.request with timeoutMs := timeoutMs } _

theorem rejections_commands (commands : List NativeCommand) (rejection : NativeExchangeRejection) :
    (commands.map (·, rejection)).map (·.1) = commands := by
  rw [map_map]
  exact map_id commands

theorem removeWhere_accounted {actor' : BridgeActor} (predicate : NativeCommand → Bool)
    (h : ActorAccounted actor) (hreplies : Replies (actor.nativePending.removeWhere predicate).1
      { actor with nativePending := (actor.nativePending.removeWhere predicate).2 } actor') :
    ActorAccounted actor' := by
  obtain ⟨htaken, hwell, hremoved⟩ := removeWhere_removed h.well predicate
  refine h.settle hwell ?_ ?_ hreplies
  · rw [htaken, hremoved.pending, ← map_append]
    exact (filter_append_perm (fun entry => predicate entry.2) _).symm.map Prod.snd
  intro entry hentry
  rw [hremoved.pending] at hentry
  exact (mem_filter.mp hentry).1

theorem cancelConnectionNative_accounted (h : ActorAccounted actor) (connectionId : Nat)
    (ports : Nat → NativePorts) :
    ActorAccounted (actor.cancelConnectionNative connectionId ports) := by
  refine removeWhere_accounted (·.pending.connectionId = connectionId) h ?_
  have hreplies := rejectAll_replies ports ((actor.nativePending.removeWhere
    (·.pending.connectionId = connectionId)).1.map (·, .sessionEnded))
    { actor with nativePending := (actor.nativePending.removeWhere (·.pending.connectionId = connectionId)).2 }
  rw [rejections_commands] at hreplies
  exact hreplies

theorem invalidated_commands (invalidations : List (NativeRouteToken × NativeExchangeRejection))
    (commands : List NativeCommand) (h : ∀ command ∈ commands, (invalidation invalidations command).isSome) :
    (commands.filterMap fun command =>
      (invalidation invalidations command).map (command, ·)).map (·.1) = commands := by
  induction commands with
  | nil => rfl
  | cons command commands ih =>
    have htail := ih fun other hother => h other (mem_cons_of_mem _ hother)
    obtain ⟨rejection, hrejection⟩ := Option.isSome_iff_exists.mp (h command mem_cons_self)
    rw [filterMap_cons, hrejection]
    exact congrArg (command :: ·) htail

theorem removed_satisfies (hwell : queue.WellFormed) :
    ∀ command ∈ (queue.removeWhere predicate).1, predicate command := by
  intro command hcommand
  rw [(removeWhere_removed hwell predicate).1, mem_map] at hcommand
  obtain ⟨entry, hentry, heq⟩ := hcommand
  rw [← heq]
  exact (mem_filter.mp hentry).2

theorem cancelInvalidatedNative_accounted (h : ActorAccounted actor) (ports : Nat → NativePorts)
    : ActorAccounted (actor.cancelInvalidatedNative ports) := by
  unfold cancelInvalidatedNative
  generalize actor.backend.invalidations.takePending = taken
  obtain ⟨invalidations, journal⟩ := taken
  have htaken : ActorAccounted { actor with backend := { actor.backend with invalidations := journal } } :=
    h.withBackend rfl
  dsimp only
  split
  · exact htaken
  refine removeWhere_accounted (fun command => (invalidation invalidations command).isSome) htaken ?_
  have hreplies := rejectAll_replies ports ((actor.nativePending.removeWhere fun command =>
    (invalidation invalidations command).isSome).1.filterMap fun command =>
      (invalidation invalidations command).map (command, ·))
    { actor with
      backend := { actor.backend with invalidations := journal }
      nativePending := (actor.nativePending.removeWhere fun command =>
        (invalidation invalidations command).isSome).2 }
  rw [invalidated_commands _ _ (removed_satisfies h.well)] at hreplies
  exact hreplies

theorem cancelAllNative_accounted (h : ActorAccounted actor) (ports : Nat → NativePorts) :
    ActorAccounted (actor.cancelAllNative ports) ∧ (actor.cancelAllNative ports).waiting = [] := by
  have hreplies := rejectAll_replies ports (actor.nativePending.drain.1.map (·, .sessionEnded))
    { actor with nativePending := actor.nativePending.drain.2 }
  rw [rejections_commands] at hreplies
  obtain ⟨hwell, hempty, hparts⟩ := drain_parts h.well
  refine ⟨h.settle hwell ?_ ?_ hreplies, ?_⟩
  · rw [hempty, map_nil, append_nil]
    exact hparts
  · rw [hempty]
    exact fun _ hmem => (by cases hmem)
  have hqueue : (actor.cancelAllNative ports).nativePending = actor.nativePending.drain.2 := hreplies.queue
  unfold waiting
  rw [hqueue, hempty]
  rfl

theorem reconcile_accounted (h : ActorAccounted actor) (projected : Except RpcFailure (List NativeRoute))
    : ActorAccounted (actor.reconcile projected) := by
  have hcalls : (final (synchronizeNativeRoutes projected) actor.backend).calls = actor.backend.calls := by
    have hspec := synchronizeNativeRoutes_spec projected actor.backend
    unfold final
    cases hresult : synchronizeNativeRoutes projected actor.backend with
    | ok _ backend => exact ((holds_of_ok hresult).mp hspec).2.calls
    | error _ backend => rw [((holds_of_error hresult).mp hspec).2]
  have harrivals : arrivals (actor.reconcile projected).log = arrivals actor.log := by
    show arrivals (actor.log ++ [.synchronized projected actor.backend]) = _
    rw [arrivals_append]
    exact append_nil _
  have hanswers : answers (actor.reconcile projected).log = answers actor.log := by
    show answers (actor.log ++ [.synchronized projected actor.backend]) = _
    rw [answers_append]
    exact append_nil _
  have hown : OwnCalls [.synchronized projected actor.backend] := by
    intro answer hanswer
    cases mem_singleton.mp hanswer
  refine ⟨h.well, h.keyed, ?_, ?_, ?_, h.own.append hown, h.stopped⟩
  · rw [harrivals]
    exact h.channels
  · rw [harrivals, hanswers]
    exact h.parts
  show _ = (actor.log ++ [ActorEvent.synchronized projected actor.backend]).flatMap (·.calls)
  rw [flatMap_append, ← h.calls]
  exact hcalls.trans (append_nil _).symm

end BridgeActor

theorem ActorAction.run_accounted (h : ActorAccounted actor) (action : ActorAction) :
    ActorAccounted (action.run actor) := by
  unfold ActorAction.run
  split
  · exact h
  next hrunning =>
    cases action with
    | openConnection =>
      dsimp only
      split
      next hopened =>
        unfold BridgeActor.openConnection at hopened
        split at hopened
        · cases hopened
        cases hopened
        exact ⟨h.well, h.keyed, h.channels, h.parts, h.calls, h.own, h.stopped⟩
      · exact h
    | request connectionId sent now ports =>
      exact BridgeActor.processRequest_accounted h (Bool.eq_false_iff.mpr hrunning) _ _ _ _
    | disconnect connectionId ports =>
      obtain ⟨hwell, hkeyed, hchannels, hparts, hcalls, hown, hstopped⟩ :=
        BridgeActor.cancelConnectionNative_accounted h connectionId ports
      exact ⟨hwell, hkeyed, hchannels, hparts, hcalls, hown, hstopped⟩
    | reconcile projected => exact BridgeActor.reconcile_accounted h projected
    | cancelInvalidated ports => exact BridgeActor.cancelInvalidatedNative_accounted h ports
    | dispatchNext now ports => exact BridgeActor.dispatchNextNative_accounted h now ports
    | cleanupAll ports =>
      obtain ⟨⟨hwell, hkeyed, hchannels, hparts, hcalls, hown, _⟩, hempty⟩ :=
        BridgeActor.cancelAllNative_accounted h ports
      exact ⟨hwell, hkeyed, hchannels, hparts, hcalls, hown, fun _ => hempty⟩

theorem actorRun_accounted {start : BridgeActor} (h : ActorAccounted start) (actions : List ActorAction) :
    ActorAccounted (actorRun start actions) := by
  unfold actorRun
  induction actions generalizing start with
  | nil => exact h
  | cons action actions ih => exact ih (action.run_accounted h)

theorem BridgeActor.rejectAll_log {ports : Nat → NativePorts}
    {rejected : List (NativeCommand × NativeExchangeRejection)} (h : actor.log = log)
    : log <+: (rejectAll ports rejected actor).log := by
  obtain ⟨sent, hlog, _⟩ := (rejectAll_replies ports rejected actor).log
  rw [hlog, h]
  exact prefix_append _ _

theorem ActorAction.run_log (actor : BridgeActor) (action : ActorAction) :
    actor.log <+: (action.run actor).log := by
  unfold ActorAction.run
  split
  · exact prefix_refl _
  cases action with
  | openConnection =>
    dsimp only
    split
    next hopened =>
      unfold BridgeActor.openConnection at hopened
      split at hopened
      · cases hopened
      cases hopened
      exact prefix_refl _
    · exact prefix_refl _
  | request connectionId sent now ports =>
    unfold BridgeActor.processRequest
    dsimp only
    split
    · exact (prefix_append _ _).trans (prefix_append _ _)
    · exact (prefix_append _ _).trans (prefix_append _ _)
    split
    · exact prefix_append _ _
    · exact (prefix_append _ _).trans (prefix_append _ _)
  | disconnect connectionId ports => exact BridgeActor.rejectAll_log rfl
  | reconcile projected => exact prefix_append _ _
  | cancelInvalidated ports =>
    unfold BridgeActor.cancelInvalidatedNative
    dsimp only
    split
    · exact prefix_refl _
    · exact BridgeActor.rejectAll_log rfl
  | dispatchNext now ports =>
    show actor.log <+: (actor.dispatchNextNative now ports).log
    unfold BridgeActor.dispatchNextNative
    split
    · exact prefix_refl _
    dsimp only
    split
    · exact prefix_append _ _
    · exact prefix_append _ _
  | cleanupAll ports => exact BridgeActor.rejectAll_log rfl

/-- Whether an action takes the next command out of the queue. -/
def ActorAction.dispatches : ActorAction → Bool
  | .dispatchNext _ _ => true
  | _ => false

def dispatchCount (actions : List ActorAction) : Nat := actions.countP (·.dispatches)

/-- A request that was answered, or has its turn within so many dispatches. -/
def Due (command : NativeCommand) (bound : Nat) (actor : BridgeActor) : Prop :=
  command ∈ answers actor.log ∨
    FairRouteQueue.Within command.pending.routeToken command bound actor.nativePending

theorem ActorAccounted.due (h : ActorAccounted actor) (harrived : command ∈ arrivals actor.log) :
    Due command (actor.nativePending.capacity * actor.nativePending.capacity) actor := by
  obtain hanswered | hwaits := mem_append.mp (h.parts.mem_iff.mp harrived)
  · exact .inl hanswered
  obtain ⟨entry, hentry, heq⟩ := mem_map.mp hwaits
  have hroute := h.keyed entry hentry
  rw [heq] at hroute
  have hmem : (command.pending.routeToken, command) ∈ actor.nativePending.pending := by
    rw [hroute, ← heq]
    exact hentry
  exact .inr (h.well.within (mem_lane_of_pending hmem))

theorem Due.of_queue (hqueue : actor.nativePending = queue)
    (h : FairRouteQueue.Within command.pending.routeToken command bound queue) :
    Due command bound actor := by
  right
  rw [hqueue]
  exact h

theorem kept_of_waiting (hwell : queue.WellFormed)
    (h : command ∈ (queue.removeWhere predicate).2.pending.map (·.2)) : predicate command = false := by
  obtain ⟨_, _, hremoved⟩ := removeWhere_removed hwell predicate
  rw [hremoved.pending] at h
  obtain ⟨entry, hentry, heq⟩ := mem_map.mp h
  have hkept := (mem_filter.mp hentry).2
  rw [← heq]
  simpa using hkept

namespace BridgeActor

theorem processRequest_queue (actor : BridgeActor) (connectionId : Nat)
    (request : NativeExchangeRequest) (now : Nat) (ports : NativePorts) :
    (actor.processRequest connectionId request now ports).nativePending = actor.nativePending ∨
      ∃ added, actor.nativePending.admitItem request.routeToken added =
        some (actor.processRequest connectionId request now ports).nativePending := by
  unfold processRequest
  dsimp only
  split
  · exact .inl rfl
  · exact .inl rfl
  split
  next queue hpush => exact .inr ⟨_, hpush⟩
  · exact .inl rfl

theorem dispatchNextNative_served {actor : BridgeActor} (now : Nat) (ports : NativePorts)
    {served : NativeCommand} (hpop : actor.nativePending.popNext = some (served, queue)) :
    (actor.dispatchNextNative now ports).nativePending = queue ∧
      answers (actor.dispatchNextNative now ports).log = answers actor.log ++ [served] := by
  unfold dispatchNextNative
  simp only [hpop]
  split
  · have hreplies := rejectPendingNative_replies ports { actor with nativePending := queue } served
      .deadlineExceeded
    exact ⟨hreplies.queue, hreplies.answers.1⟩
  · exact ⟨rfl, answers_append _ _⟩

theorem cancelConnectionNative_queue (actor : BridgeActor) (connectionId : Nat) (ports : Nat → NativePorts) :
    (actor.cancelConnectionNative connectionId ports).nativePending =
      (actor.nativePending.removeWhere (·.pending.connectionId = connectionId)).2 :=
  (rejectAll_replies ports _ _).queue

theorem cancelInvalidatedNative_queue (actor : BridgeActor) (ports : Nat → NativePorts) :
    (actor.cancelInvalidatedNative ports).nativePending = actor.nativePending ∨
      ∃ predicate, (actor.cancelInvalidatedNative ports).nativePending =
        (actor.nativePending.removeWhere predicate).2 := by
  unfold cancelInvalidatedNative
  dsimp only
  split
  · exact .inl rfl
  · exact .inr ⟨_, (rejectAll_replies ports _ _).queue⟩

end BridgeActor

/-- Each dispatch brings a waiting request nearer to its turn, and nothing puts it back. -/
theorem ActorAction.run_due (h : ActorAccounted actor) (action : ActorAction)
    (harrived : command ∈ arrivals actor.log) (hdue : Due command (bound + dispatchCount [action]) actor)
    : Due command bound (action.run actor) := by
  obtain ⟨more, hlog⟩ := action.run_log actor
  have hafter := action.run_accounted h
  have harrived' : command ∈ arrivals (action.run actor).log := by
    rw [← hlog, arrivals_append]
    exact mem_append_left _ harrived
  obtain hanswered | hwaits := mem_append.mp (hafter.parts.mem_iff.mp harrived')
  · exact .inl hanswered
  have hstart : command ∈ answers actor.log ∨ FairRouteQueue.Within command.pending.routeToken command
      (bound + dispatchCount [action]) actor.nativePending := hdue
  obtain hanswered | hwithin := hstart
  · left
    rw [← hlog, answers_append]
    exact mem_append_left _ hanswered
  unfold BridgeActor.waiting at hwaits
  unfold ActorAction.run at hwaits hafter ⊢
  split at hwaits
  next hstopped =>
    rw [if_pos hstopped] at hafter
    have hnone : actor.nativePending.pending.map (·.2) = [] := h.stopped hstopped
    rw [hnone] at hwaits
    cases hwaits
  next hrunning =>
    rw [if_neg hrunning]
    cases action with
    | openConnection =>
      dsimp only
      split
      next hopened =>
        unfold BridgeActor.openConnection at hopened
        split at hopened
        · cases hopened
        cases hopened
        exact .inr hwithin
      · exact .inr hwithin
    | request connectionId sent now ports =>
      have hqueue := BridgeActor.processRequest_queue actor connectionId sent now ports
      dsimp only
      obtain hsame | ⟨added, hpush⟩ := hqueue
      · exact .of_queue hsame hwithin
      · exact .inr (FairRouteQueue.Within.push h.well hwithin hpush)
    | disconnect connectionId ports =>
      have hqueue := BridgeActor.cancelConnectionNative_queue actor connectionId ports
      have hclosed : (actor.close connectionId ports).nativePending =
          (actor.nativePending.removeWhere (·.pending.connectionId = connectionId)).2 := hqueue
      dsimp only at hwaits ⊢
      rw [hclosed] at hwaits
      have hkept := kept_of_waiting h.well hwaits
      exact .of_queue hclosed (FairRouteQueue.Within.remove h.well hwithin hkept)
    | reconcile projected => exact .inr hwithin
    | cancelInvalidated ports =>
      have hqueue := BridgeActor.cancelInvalidatedNative_queue actor ports
      dsimp only at hwaits ⊢
      obtain hsame | ⟨predicate, hremoved⟩ := hqueue
      · exact .of_queue hsame hwithin
      rw [hremoved] at hwaits
      have hkept := kept_of_waiting h.well hwaits
      exact .of_queue hremoved (FairRouteQueue.Within.remove h.well hwithin hkept)
    | dispatchNext now ports =>
      have hnext : FairRouteQueue.Within command.pending.routeToken command (bound + 1)
          actor.nativePending := hwithin
      dsimp only
      cases hpop : actor.nativePending.popNext with
      | none =>
        obtain ⟨_, _, front, _, _, hrotation, _⟩ := hnext
        rw [popNext_eq_none h.well hpop] at hrotation
        exact absurd hrotation.symm (append_ne_nil_of_right_ne_nil front (cons_ne_nil _ _))
      | some popped =>
        obtain ⟨served, queue⟩ := popped
        obtain ⟨hqueue, hserved⟩ := BridgeActor.dispatchNextNative_served now ports hpop
        obtain hturn | hnearer := FairRouteQueue.Within.pop h.well hnext hpop
        · left
          rw [hserved, hturn]
          exact mem_append_right _ mem_cons_self
        · exact .of_queue hqueue hnearer
    | cleanupAll ports =>
      have hnone : (actor.cleanupAll ports).waiting = [] := (BridgeActor.cancelAllNative_accounted h ports).2
      unfold BridgeActor.waiting at hnone
      dsimp only at hwaits
      rw [hnone] at hwaits
      cases hwaits

theorem actorRun_due (h : ActorAccounted actor) (harrived : command ∈ arrivals actor.log)
    (later : List ActorAction) (hdue : Due command (bound + dispatchCount later) actor) :
    Due command bound (actorRun actor later) := by
  unfold actorRun
  induction later generalizing actor with
  | nil => exact hdue
  | cons action later ih =>
    have hcount : dispatchCount (action :: later) = dispatchCount later + dispatchCount [action] := by
      unfold dispatchCount
      rw [countP_cons, countP_cons, countP_nil, Nat.zero_add]
    rw [hcount, ← Nat.add_assoc] at hdue
    obtain ⟨more, hlog⟩ := action.run_log actor
    refine ih (action.run_accounted h) ?_ (action.run_due h harrived hdue)
    rw [← hlog, arrivals_append]
    exact mem_append_left _ harrived

/-- Enough dispatches answer every request that arrived. -/
theorem actorRun_answers (h : ActorAccounted actor) {later : List ActorAction}
    (hturns : actor.nativePending.capacity * actor.nativePending.capacity ≤ dispatchCount later) :
    ∀ command ∈ arrivals actor.log, command ∈ answers (actorRun actor later).log := by
  intro command harrived
  have hdue : Due command (0 + dispatchCount later) actor := by
    rw [Nat.zero_add]
    obtain hanswered | hwithin := h.due harrived
    · exact .inl hanswered
    · exact .inr (hwithin.mono hturns)
  obtain hanswered | hwithin := actorRun_due h harrived later hdue
  · exact hanswered
  obtain ⟨_, _, _, _, _, _, hless⟩ := hwithin
  exact absurd hless (Nat.not_lt_zero _)

/-- A step that answers the waiting requests of a kind and leaves the others where they are. -/
structure TakesOut (predicate : NativeCommand → Bool) (actor actor' : BridgeActor) : Prop where
  answers : answers actor'.log = answers actor.log ++ actor.waiting.filter predicate
  lanes : ∀ route, actor'.nativePending.lane route = (actor.nativePending.lane route).filter (! predicate ·)
  rotation : actor'.nativePending.rotation =
    actor.nativePending.rotation.filter fun route => actor'.nativePending.lane route ≠ []

theorem TakesOut.of_replies {taken : BridgeActor} (hwell : actor.nativePending.WellFormed)
    (hreplies : Replies (actor.nativePending.removeWhere predicate).1 taken actor')
    (hlog : taken.log = actor.log)
    (hqueue : taken.nativePending = (actor.nativePending.removeWhere predicate).2) :
    TakesOut predicate actor actor' := by
  obtain ⟨htaken, _, hremoved⟩ := removeWhere_removed hwell predicate
  have hqueue' := hreplies.queue.trans hqueue
  refine ⟨?_, ?_, ?_⟩
  · rw [hreplies.answers.1, hlog, htaken]
    unfold waiting
    rw [filter_map]
    rfl
  · rw [hqueue']
    exact hremoved.lanes
  rw [hqueue']
  exact hremoved.rotation

theorem TakesOut.none (hwell : actor.nativePending.WellFormed) (hlog : actor'.log = actor.log)
    (hqueue : actor'.nativePending = actor.nativePending) :
    TakesOut (fun _ => false) actor actor' := by
  refine ⟨?_, ?_, ?_⟩
  · rw [hlog, filter_false, append_nil]
  · intro route
    rw [hqueue]
    exact (filter_eq_self.mpr fun _ _ => rfl).symm
  rw [hqueue]
  refine (filter_eq_self.mpr ?_).symm
  intro route hroute
  exact decide_eq_true ((hwell.rotated route).mp hroute)

namespace BridgeActor

theorem cancelConnectionNative_takesOut (h : ActorAccounted actor) (connectionId : Nat)
    (ports : Nat → NativePorts) :
    TakesOut (·.pending.connectionId = connectionId) actor
      (actor.cancelConnectionNative connectionId ports) := by
  have hreplies := rejectAll_replies ports ((actor.nativePending.removeWhere
    (·.pending.connectionId = connectionId)).1.map (·, .sessionEnded))
    { actor with nativePending := (actor.nativePending.removeWhere (·.pending.connectionId = connectionId)).2 }
  rw [rejections_commands] at hreplies
  exact .of_replies h.well hreplies rfl rfl

def invalidated (actor : BridgeActor) (command : NativeCommand) : Bool :=
  (invalidation actor.backend.invalidations.takePending.1 command).isSome

theorem cancelInvalidatedNative_takesOut (h : ActorAccounted actor) (ports : Nat → NativePorts) :
    TakesOut actor.invalidated actor (actor.cancelInvalidatedNative ports) := by
  unfold cancelInvalidatedNative invalidated
  generalize actor.backend.invalidations.takePending = taken
  obtain ⟨invalidations, journal⟩ := taken
  dsimp only
  split
  next hnone =>
    subst hnone
    exact .none h.well rfl rfl
  have hreplies := rejectAll_replies ports ((actor.nativePending.removeWhere fun command =>
    (invalidation invalidations command).isSome).1.filterMap fun command =>
      (invalidation invalidations command).map (command, ·))
    { actor with
      backend := { actor.backend with invalidations := journal }
      nativePending := (actor.nativePending.removeWhere fun command =>
        (invalidation invalidations command).isSome).2 }
  rw [invalidated_commands _ _ (removed_satisfies h.well)] at hreplies
  exact .of_replies h.well hreplies rfl rfl

end BridgeActor

/-- Over every run of the actor, whatever the order of requests, dispatches, disconnects, route
changes and cleanup: each request that arrived has one reply or still waits, and none waits in a
stopped actor; every transport call is made within the one reply of its command; a disconnect and an
invalidation answer the commands of that connection or route and leave the others in their places;
and a command that waits is answered once the actor dispatched often enough. -/
theorem bridgeActor_run {start : BridgeActor} (h : ActorStart start) (actions : List ActorAction) :
    let last := actorRun start actions
    (arrivals last.log).map (·.channel) = List.range last.nextChannel ∧
    (arrivals last.log).Perm (answers last.log ++ last.waiting) ∧
    (∀ channel, repliesOn channel last.log + last.waiting.countP (·.channel = channel) =
      if channel < last.nextChannel then 1 else 0) ∧
    (last.stopped = true → last.waiting = []) ∧
    last.backend.calls = last.log.flatMap (·.calls) ∧
    (∀ before answer after, last.log = before ++ .answered answer :: after →
      answer.OwnCall ∧ repliesOn answer.command.channel before = 0 ∧
        repliesOn answer.command.channel after = 0) ∧
    (last.stopped = false → ∀ connectionId ports, TakesOut (·.pending.connectionId = connectionId) last
      ((ActorAction.disconnect connectionId ports).run last)) ∧
    (last.stopped = false → ∀ ports, TakesOut last.invalidated last
      ((ActorAction.cancelInvalidated ports).run last)) ∧
    (last.stopped = false → ∀ now ports served queue,
      last.nativePending.popNext = some (served, queue) →
      ((ActorAction.dispatchNext now ports).run last).nativePending = queue ∧
        answers ((ActorAction.dispatchNext now ports).run last).log = answers last.log ++ [served]) ∧
    ∀ later, last.nativePending.capacity * last.nativePending.capacity ≤ dispatchCount later →
      ∀ command ∈ arrivals last.log, repliesOn command.channel (actorRun last later).log = 1 := by
  intro last
  have hlast : ActorAccounted last := actorRun_accounted (.start h) actions
  refine ⟨hlast.channels, hlast.parts, hlast.once, hlast.stopped, hlast.calls, ?_, ?_, ?_, ?_, ?_⟩
  · intro before answer after hlog
    have hmem : .answered answer ∈ last.log := by
      rw [hlog]
      exact mem_append_right _ mem_cons_self
    have honce := hlast.once answer.command.channel
    have hparts : repliesOn answer.command.channel last.log =
        repliesOn answer.command.channel before + (repliesOn answer.command.channel after + 1) := by
      unfold repliesOn
      rw [hlog, answers_append, countP_append]
      show _ + (answer.command :: answers after).countP _ = _
      rw [countP_cons, if_pos (decide_eq_true rfl)]
    have hatMost : repliesOn answer.command.channel last.log ≤ 1 := by
      split at honce
      · omega
      · omega
    exact ⟨hlast.own answer hmem, by omega, by omega⟩
  · intro hrunning connectionId ports
    have hrun : (ActorAction.disconnect connectionId ports).run last = last.close connectionId ports := by
      unfold ActorAction.run
      rw [if_neg (Bool.eq_false_iff.mp hrunning)]
    rw [hrun]
    obtain ⟨hanswers, hlanes, hrotation⟩ := cancelConnectionNative_takesOut hlast connectionId ports
    exact ⟨hanswers, hlanes, hrotation⟩
  · intro hrunning ports
    have hrun : (ActorAction.cancelInvalidated ports).run last = last.cancelInvalidatedNative ports := by
      unfold ActorAction.run
      rw [if_neg (Bool.eq_false_iff.mp hrunning)]
    rw [hrun]
    exact cancelInvalidatedNative_takesOut hlast ports
  · intro hrunning now ports served queue hpop
    have hrun : (ActorAction.dispatchNext now ports).run last = last.dispatchNextNative now ports := by
      unfold ActorAction.run
      rw [if_neg (Bool.eq_false_iff.mp hrunning)]
    rw [hrun]
    exact dispatchNextNative_served now ports hpop
  · intro later hturns command harrived
    have hanswered := actorRun_answers hlast hturns command harrived
    have honce := (actorRun_accounted hlast later).once command.channel
    have hpositive : 0 < repliesOn command.channel (actorRun last later).log :=
      countP_pos_iff.mpr ⟨command, hanswered, decide_eq_true rfl⟩
    split at honce
    · omega
    · omega

/-- Two requests of a connection wait for the same route. -/
def sampleArrivals : List ActorAction :=
  [.openConnection, .request 1 sampleNativeRequest 0 sampleNativePorts,
    .request 1 sampleNativeRequest 0 sampleNativePorts]

theorem bridgeActor_run_sample :
    (actorRun sampleActor sampleArrivals).waiting.length = 2 ∧
      ∀ command ∈ arrivals (actorRun sampleActor sampleArrivals).log, repliesOn command.channel
        (actorRun (actorRun sampleActor sampleArrivals)
          (List.replicate 4 (.dispatchNext 0 sampleNativePorts))).log = 1 := by
  obtain ⟨_, _, _, _, _, _, _, _, _, hanswered⟩ :=
    bridgeActor_run (⟨⟨2, rfl⟩, rfl, rfl, rfl, rfl⟩ : ActorStart sampleActor) sampleArrivals
  exact ⟨by decide +kernel, hanswered _ (by decide +kernel)⟩

end HyperfluxNext
