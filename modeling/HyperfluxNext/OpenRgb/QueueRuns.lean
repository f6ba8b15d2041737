import HyperfluxNext.OpenRgb.QueueInvariant

namespace HyperfluxNext

open DispatchQueue RoundRobin List Std.TreeMap

inductive DispatchOp where
  | enqueueEffect (frame : QueuedLightingFrame) (nowMs : Nat)
  | enqueueStable (intent : LightingIntent) (frames : List QueuedLightingFrame)
  | popReadyFor (receiverId : ReceiverId) (nowMs : Nat)
  | discardRequest (sequence : Nat)
  | clear
  | discardController (stableId : String)

/-- What a caller sees of stable requests and of batches. -/
inductive DispatchEvent where
  | accepted (sequence : Nat) (intent : LightingIntent) (frames : List QueuedLightingFrame)
  | popped (batch : DispatchBatch)

namespace DispatchQueue

/-- An accepted stable request is known by the sequence that its batches will have. -/
def acceptance (intent : LightingIntent) (frames : List QueuedLightingFrame)
    (answer : EnqueueDisposition × DispatchQueue) : List DispatchEvent :=
  if answer.1 = .accepted then
    answer.2.stable.getLast?.toList.map fun request => .accepted request.sequence intent frames
  else []

def perform (queue : DispatchQueue) : DispatchOp → List DispatchEvent × DispatchQueue
  | .enqueueEffect frame nowMs => ([], (queue.enqueueEffect frame nowMs).2)
  | .enqueueStable intent frames =>
    (acceptance intent frames (queue.enqueueStable intent frames), (queue.enqueueStable intent frames).2)
  | .popReadyFor receiverId nowMs =>
    ((queue.popReadyFor receiverId nowMs).1.toList.map .popped, (queue.popReadyFor receiverId nowMs).2)
  | .discardRequest sequence => ([], (queue.discardRequest sequence).2)
  | .clear => ([], queue.clear)
  | .discardController stableId => ([], queue.discardController stableId)

def performAll (queue : DispatchQueue) (ops : List DispatchOp) : List DispatchEvent × DispatchQueue :=
  ops.foldl (fun state op => (state.1 ++ (state.2.perform op).1, (state.2.perform op).2)) ([], queue)

variable {queue queue' : DispatchQueue} {key : String} {nowMs : Nat} {blocked : Finset String}
  {batch : DispatchBatch} {request : StableRequest} {requests : List StableRequest}

theorem Sound.perform (h : queue.Sound) (op : DispatchOp) : (queue.perform op).2.Sound := by
  cases op with
  | enqueueEffect frame nowMs => exact h.enqueueEffect frame nowMs
  | enqueueStable intent frames => exact h.enqueueStable intent frames
  | popReadyFor receiverId nowMs => exact h.removes (h.popReadyFor receiverId nowMs)
  | discardRequest sequence => exact h.removes (h.discardRequest sequence)
  | clear => exact h.removes (clear_removes queue)
  | discardController stableId => exact h.removes (h.discardController stableId)

section Answers

/-- What a receiver has ready. -/
def answerFor (queue : DispatchQueue) (key : String) (nowMs : Nat) : Option DispatchBatch :=
  match findStable key queue.stable with
  | some (request, frames) => request.batch frames
  | none =>
    match findEffect key nowMs queue.effects with
    | some (request, group) => request.batch group
    | none => none

theorem previewReady_eq :
    queue.previewReady nowMs blocked = (queue.selectReadyReceiver nowMs blocked).bind (queue.answerFor · nowMs) := by
  unfold previewReady
  split
  next hnone =>
    rw [hnone]
    rfl
  next key hkey =>
    rw [hkey]
    rfl

theorem popReadyFor_fst (receiverId : ReceiverId) :
    (queue.popReadyFor receiverId nowMs).1 = queue.answerFor (receiverKey receiverId) nowMs := by
  unfold popReadyFor answerFor
  dsimp only
  cases findStable (receiverKey receiverId) queue.stable with
  | some found => rfl
  | none =>
    dsimp only
    cases findEffect (receiverKey receiverId) nowMs queue.effects with
    | some found | none => rfl

theorem stableBatch {frames : List QueuedLightingFrame} (h : request.Grouped)
    (hframes : request.receiverFrames[key]? = some frames)
    : ∃ first ∈ frames, receiverKey first.receiverId = key ∧
      request.batch frames = some ⟨request.sequence, first.receiverId, request.intent, frames, request.targets⟩ := by
  obtain ⟨first, rest, hcons⟩ := exists_cons_of_ne_nil (h.filled key frames hframes)
  refine ⟨first, ?_, ?_, ?_⟩
  · rw [hcons]
    exact mem_cons_self
  · exact (h.named key frames hframes first (by rw [hcons]; exact mem_cons_self)).1
  unfold StableRequest.batch
  rw [hcons]
  rfl

theorem effectBatch {request : EffectRequest} {group : EffectGroup} (h : request.Grouped)
    (hgroup : request.receiverFrames[key]? = some group) : ∃ first ∈ group.values, receiverKey first.receiverId = key ∧
      request.batch group = some ⟨request.sequence, first.receiverId, .effectFrame, group.values, request.targets⟩ := by
  obtain ⟨stableId, frame, hframe⟩ := OrderedMaps.isEmpty_eq_false.mp (h.filled key group hgroup)
  have hfilled : group.values ≠ [] := ne_nil_of_mem (OrderedMaps.mem_values.mpr ⟨stableId, hframe⟩)
  obtain ⟨first, rest, hcons⟩ := exists_cons_of_ne_nil hfilled
  have hmem : first ∈ group.values := by
    rw [hcons]
    exact mem_cons_self
  obtain ⟨other, hother⟩ := OrderedMaps.mem_values.mp hmem
  refine ⟨first, hmem, (h.named key group hgroup other first hother).2.1, ?_⟩
  unfold EffectRequest.batch
  rw [hcons]
  rfl

theorem answerFor_some (h : queue.Sound) (hanswer : queue.answerFor key nowMs = some batch) :
    receiverKey batch.receiverId = key ∧
      ((∃ request, findStable key queue.stable = some (request, batch.frames) ∧ batch.intent = request.intent ∧
          batch.sequence = request.sequence) ∨
        (∀ request ∈ queue.stable, request.receiverFrames[key]? = none) ∧ batch.intent = .effectFrame) := by
  unfold answerFor at hanswer
  split at hanswer
  next request frames hfound =>
    obtain ⟨earlier, later, hsplit, -, hframes, -⟩ := findStable_some hfound
    have hmem : request ∈ queue.stable := by
      rw [hsplit]
      exact mem_append_right _ mem_cons_self
    obtain ⟨first, -, hkey, hbatch⟩ := stableBatch (h.stable request hmem).toGrouped hframes
    rw [hbatch] at hanswer
    cases hanswer
    exact ⟨hkey, .inl ⟨request, hfound, rfl, rfl⟩⟩
  next hstable =>
    split at hanswer
    next request group hfound =>
      obtain ⟨earlier, later, hsplit, hgroup, -⟩ := findEffect_some hfound
      have hmem : request ∈ queue.effects := by
        rw [hsplit]
        exact mem_append_right _ mem_cons_self
      obtain ⟨first, -, hkey, hbatch⟩ := effectBatch (h.effects request hmem).toGrouped hgroup
      rw [hbatch] at hanswer
      cases hanswer
      exact ⟨hkey, .inr ⟨findStable_none hstable, rfl⟩⟩
    · cases hanswer

theorem preview_popped (h : queue.Sound) (hpreview : queue.previewReady nowMs blocked = some batch) :
    (queue.popReadyFor batch.receiverId nowMs).1 = some batch := by
  rw [previewReady_eq] at hpreview
  obtain ⟨key, -, hanswer⟩ := Option.bind_eq_some_iff.mp hpreview
  rw [popReadyFor_fst, (answerFor_some h hanswer).1]
  exact hanswer

theorem mem_stableReceivers :
    key ∈ queue.stableReceivers ↔ ∃ request ∈ queue.stable, key ∈ request.receiverFrames := by
  unfold stableReceivers
  rw [mem_toFinset, mem_flatMap]
  simp only [Std.TreeMap.mem_keys]

theorem findStable_isSome (hmem : request ∈ requests) (hkey : key ∈ request.receiverFrames)
    : findStable key requests ≠ none := by
  intro hnone
  rw [mem_iff_isSome_getElem?, findStable_none hnone request hmem] at hkey
  exact Bool.false_ne_true hkey

theorem findEffect_isSome {requests : List EffectRequest} {request : EffectRequest} (hmem : request ∈ requests)
    (hkey : key ∈ request.receiverFrames) (hdue : request.dueMs ≤ nowMs) : findEffect key nowMs requests ≠ none := by
  induction requests with
  | nil => exact absurd hmem not_mem_nil
  | cons first requests ih =>
    unfold findEffect
    obtain hsame | hrest := mem_cons.mp hmem
    · rw [← hsame]
      obtain ⟨group, hgroup⟩ := Option.isSome_iff_exists.mp (mem_iff_isSome_getElem?.mp hkey)
      rw [hgroup]
      dsimp only
      rw [if_neg (not_lt.mpr hdue)]
      exact Option.some_ne_none _
    split
    · split
      · exact ih hrest
      · exact Option.some_ne_none _
    · exact ih hrest

theorem answerFor_ready (h : queue.Sound) (hready : key ∈ queue.readyReceivers nowMs blocked) :
    ∃ batch, queue.answerFor key nowMs = some batch := by
  unfold answerFor
  split
  next request frames hfound =>
    obtain ⟨earlier, later, hsplit, -, hframes, -⟩ := findStable_some hfound
    have hmem : request ∈ queue.stable := by
      rw [hsplit]
      exact mem_append_right _ mem_cons_self
    obtain ⟨first, -, -, hbatch⟩ := stableBatch (h.stable request hmem).toGrouped hframes
    exact ⟨_, hbatch⟩
  next hstable =>
    have hnot : key ∉ queue.stableReceivers := by
      intro hmem
      obtain ⟨request, hrequest, hkey⟩ := mem_stableReceivers.mp hmem
      exact findStable_isSome hrequest hkey hstable
    unfold readyReceivers at hready
    obtain hin | hin := Finset.mem_union.mp hready
    · exact absurd (Finset.mem_sdiff.mp hin).1 hnot
    have hdue := (Finset.mem_sdiff.mp (Finset.mem_sdiff.mp hin).1).1
    obtain ⟨request, hrequest, hkey⟩ := mem_flatMap.mp (mem_toFinset.mp hdue)
    obtain ⟨hqueued, hnow⟩ := mem_filter.mp hrequest
    have hsome := findEffect_isSome hqueued (Std.TreeMap.mem_keys.mp hkey) (of_decide_eq_true hnow)
    split
    next found group hfound =>
      obtain ⟨earlier, later, hsplit, hgroup, -⟩ := findEffect_some hfound
      have hmem : found ∈ queue.effects := by
        rw [hsplit]
        exact mem_append_right _ mem_cons_self
      obtain ⟨first, -, -, hbatch⟩ := effectBatch (h.effects found hmem).toGrouped hgroup
      exact ⟨_, hbatch⟩
    next hnone => exact absurd hnone hsome

theorem previewReady_isSome (h : queue.Sound) :
    (queue.previewReady nowMs blocked).isSome ↔ (queue.readyReceivers nowMs blocked).Nonempty := by
  rw [previewReady_eq]
  unfold selectReadyReceiver
  constructor
  · intro hsome
    obtain ⟨batch, hbatch⟩ := Option.isSome_iff_exists.mp hsome
    obtain ⟨key, hkey, -⟩ := Option.bind_eq_some_iff.mp hbatch
    exact ⟨key, nextTurn_mem hkey⟩
  intro hready
  obtain ⟨key, hkey⟩ := Option.ne_none_iff_exists'.mp fun hnone =>
    hready.ne_empty ((nextTurn_isSome _).mp hnone)
  obtain ⟨batch, hbatch⟩ := answerFor_ready h (nextTurn_mem hkey)
  rw [hkey, Option.bind_some, hbatch]
  rfl

end Answers

section Turns

variable {ready : Finset String} {keys : List String}

/-- An operation that serves no receiver. After `clear` no receiver is ready. -/
def Quiet : DispatchOp → Prop
  | .popReadyFor _ _ => False
  | .clear => False
  | _ => True

/-- A stretch of a run, in which the same receivers are ready whenever one of them is served. -/
inductive Turns (ready : Finset String) : DispatchQueue → List String → DispatchQueue → Prop where
  | done (queue : DispatchQueue) : Turns ready queue [] queue
  | other {queue queue' : DispatchQueue} {keys : List String} {op : DispatchOp} (hquiet : Quiet op)
      (h : Turns ready (queue.perform op).2 keys queue') : Turns ready queue keys queue'
  | pop {queue queue' : DispatchQueue} {keys : List String} {nowMs : Nat} {blocked : Finset String}
      {batch : DispatchBatch} (hready : queue.readyReceivers nowMs blocked = ready)
      (hpreview : queue.previewReady nowMs blocked = some batch)
      (h : Turns ready (queue.popReadyFor batch.receiverId nowMs).2 keys queue') :
      Turns ready queue (receiverKey batch.receiverId :: keys) queue'

theorem quiet_last {op : DispatchOp} (h : queue.Sound) (hquiet : Quiet op) :
    (queue.perform op).2.lastReceiverKey = queue.lastReceiverKey := by
  cases op with
  | enqueueEffect frame nowMs =>
    show (queue.enqueueEffect frame nowMs).2.lastReceiverKey = _
    unfold enqueueEffect
    split
    · rfl
    split
    · rfl
    split
    · rfl
    split
    · rfl
    next opened hopened => exact (h.openEffect hopened).last
  | enqueueStable intent frames => exact enqueueStable_last h intent frames
  | popReadyFor receiverId nowMs => exact hquiet.elim
  | discardRequest sequence =>
    show (queue.discardRequest sequence).2.lastReceiverKey = _
    unfold discardRequest
    split
    · rfl
    · split <;> rfl
  | clear => exact hquiet.elim
  | discardController stableId => exact eraseEffectTarget_last queue stableId

theorem pop_last (h : queue.Sound) (hpreview : queue.previewReady nowMs blocked = some batch) :
    nextTurn (queue.readyReceivers nowMs blocked) queue.lastReceiverKey = some (receiverKey batch.receiverId) ∧
      (queue.popReadyFor batch.receiverId nowMs).2.lastReceiverKey = some (receiverKey batch.receiverId) := by
  have hpopped := preview_popped h hpreview
  rw [previewReady_eq] at hpreview
  obtain ⟨key, hkey, hanswer⟩ := Option.bind_eq_some_iff.mp hpreview
  refine ⟨?_, ?_⟩
  · rw [(answerFor_some h hanswer).1]
    exact hkey
  unfold popReadyFor at hpopped ⊢
  dsimp only at hpopped ⊢
  split
  · rfl
  next hstable =>
    rw [hstable] at hpopped
    dsimp only at hpopped
    split
    · rfl
    next hnone =>
      rw [hnone] at hpopped
      cases hpopped

theorem turns_chain (h : queue.Sound) (hturns : Turns ready queue keys queue') :
    (∀ key ∈ keys, key ∈ ready) ∧
      (keys.IsChain fun key next => nextTurn ready (some key) = some next) ∧
        ∀ key ∈ keys.head?, nextTurn ready queue.lastReceiverKey = some key := by
  induction hturns with
  | done queue => exact ⟨fun _ hmem => absurd hmem not_mem_nil, List.IsChain.nil, fun _ hmem => by cases hmem⟩
  | other hquiet hrest ih =>
    obtain ⟨hmem, hchain, hhead⟩ := ih (h.perform _)
    rw [quiet_last h hquiet] at hhead
    exact ⟨hmem, hchain, hhead⟩
  | @pop queue queue' keys nowMs blocked batch hready hpreview hrest ih =>
    obtain ⟨hmem, hchain, hhead⟩ := ih (h.removes (h.popReadyFor _ _))
    obtain ⟨hturn, hlast⟩ := pop_last h hpreview
    rw [hlast] at hhead
    rw [hready] at hturn
    have hnext : ((receiverKey batch.receiverId) :: keys).IsChain
        fun key next => nextTurn ready (some key) = some next := by
      cases keys with
      | nil => exact List.IsChain.singleton _
      | cons next keys => exact List.IsChain.cons_cons (hhead next rfl) hchain
    refine ⟨?_, hnext, ?_⟩
    · intro key hkey
      obtain hself | hlater := mem_cons.mp hkey
      · rw [hself]
        exact nextTurn_mem hturn
      · exact hmem key hlater
    intro key hkey
    cases hkey
    exact hturn

/-- No receiver is served twice before each of them was served. -/
theorem turns_fair (h : queue.Sound) (hturns : Turns ready queue keys queue') :
    (keys.length ≤ ready.card → keys.Nodup) ∧ (keys.length = ready.card → ∀ key ∈ ready, key ∈ keys) := by
  obtain ⟨hmem, hchain, -⟩ := turns_chain h hturns
  exact ⟨turns_nodup hmem hchain, turns_complete hmem hchain⟩

end Turns

section Chronicle

variable {history : List DispatchEvent}

/-- The stable requests that were accepted, in their order. -/
def acceptedIn (history : List DispatchEvent) : List Nat :=
  history.filterMap fun
    | .accepted sequence _ _ => some sequence
    | .popped _ => none

/-- A stable batch has frames that its request was accepted with, of its receiver, in their order. -/
def Delivers (history : List DispatchEvent) (batch : DispatchBatch) : Prop :=
  ∃ frames, .accepted batch.sequence batch.intent frames ∈ history ∧
    batch.frames.Sublist (frames.filter (·.key = receiverKey batch.receiverId))

/-- What may follow a batch of the same receiver: stable requests accepted after it, if it is a stable one,
and after everything that was accepted when it left, if it is an effect. -/
def Precedes (before : List DispatchEvent) (batch : DispatchBatch) (sequence : Nat) : Prop :=
  (batch.intent ≠ .effectFrame → batch.sequence < sequence) ∧
    (batch.intent = .effectFrame → ∀ other ∈ acceptedIn before, other < sequence)

structure Chronological (history : List DispatchEvent) : Prop where
  accepted : (acceptedIn history).Pairwise (· < ·)
  delivers : ∀ before batch after, history = before ++ .popped batch :: after → batch.intent ≠ .effectFrame →
    Delivers before batch
  ordered : ∀ before batch after, history = before ++ .popped batch :: after → ∀ later, .popped later ∈ after →
    later.intent ≠ .effectFrame → receiverKey later.receiverId = receiverKey batch.receiverId →
      Precedes before batch later.sequence

structure Chronicled (history : List DispatchEvent) (queue : DispatchQueue) : Prop extends Chronological history where
  below : ∀ sequence ∈ acceptedIn history, sequence < queue.issued
  queued : ∀ request ∈ queue.stable, ∃ frames, .accepted request.sequence request.intent frames ∈ history ∧
    ∀ (key : String) (group : List QueuedLightingFrame), request.receiverFrames[key]? = some group →
      group.Sublist (frames.filter (·.key = key))
  waiting : ∀ before batch after, history = before ++ .popped batch :: after → ∀ request ∈ queue.stable,
    receiverKey batch.receiverId ∈ request.receiverFrames → Precedes before batch request.sequence

structure Thins (queue queue' : DispatchQueue) : Prop where
  issued : queue.issued ≤ queue'.issued
  stable : ∀ request' ∈ queue'.stable, ∃ request ∈ queue.stable, request'.sequence = request.sequence ∧
    request'.intent = request.intent ∧ ∀ (key : String) (group : List QueuedLightingFrame),
      request'.receiverFrames[key]? = some group →
        ∃ old, request.receiverFrames[key]? = some old ∧ group.Sublist old

theorem Thins.holds (h : Thins queue queue') {request' : StableRequest} (hmem : request' ∈ queue'.stable)
    (hkey : key ∈ request'.receiverFrames) :
    ∃ request ∈ queue.stable, request'.sequence = request.sequence ∧ key ∈ request.receiverFrames := by
  obtain ⟨request, hold, hsequence, -, hgroups⟩ := h.stable request' hmem
  obtain ⟨group, hgroup⟩ := Option.isSome_iff_exists.mp (mem_iff_isSome_getElem?.mp hkey)
  obtain ⟨old, hfound, -⟩ := hgroups key group hgroup
  refine ⟨request, hold, hsequence, mem_iff_isSome_getElem?.mpr ?_⟩
  rw [hfound]
  rfl

theorem thins_of_subset (hissued : queue.issued ≤ queue'.issued) (h : queue'.stable ⊆ queue.stable) :
    Thins queue queue' :=
  ⟨hissued, fun request hmem => ⟨request, h hmem, rfl, rfl, fun _ group hgroup => ⟨group, hgroup, List.Sublist.refl _⟩⟩⟩

theorem Chronicled.thins (h : Chronicled history queue) (hthins : Thins queue queue') :
    Chronicled history queue' := by
  refine ⟨h.toChronological, fun sequence hmem => (h.below sequence hmem).trans_le hthins.issued, ?_, ?_⟩
  · intro request' hmem
    obtain ⟨request, hold, hsequence, hintent, hgroups⟩ := hthins.stable request' hmem
    obtain ⟨frames, haccepted, hframes⟩ := h.queued request hold
    refine ⟨frames, by rw [hsequence, hintent]; exact haccepted, ?_⟩
    intro key group hgroup
    obtain ⟨old, hfound, hsub⟩ := hgroups key group hgroup
    exact hsub.trans (hframes key old hfound)
  intro before batch after hsplit request' hmem hkey
  obtain ⟨request, hold, hsequence, hheld⟩ := hthins.holds hmem hkey
  rw [hsequence]
  exact h.waiting before batch after hsplit request hold hheld

theorem split_concat {event popped : DispatchEvent} {before after : List DispatchEvent}
    (h : history ++ [event] = before ++ popped :: after) :
    (after = [] ∧ history = before ∧ event = popped) ∨
      ∃ rest, after = rest ++ [event] ∧ history = before ++ popped :: rest := by
  obtain hnil | ⟨rest, last, hconcat⟩ := eq_nil_or_concat after
  · rw [hnil] at h
    obtain ⟨hsame, hevent⟩ := append_inj' h rfl
    exact .inl ⟨hnil, hsame, singleton_inj.mp hevent⟩
  rw [hconcat, concat_eq_append, ← cons_append, ← append_assoc] at h
  obtain ⟨hsame, hevent⟩ := append_inj' h rfl
  refine .inr ⟨rest, ?_, hsame⟩
  rw [hconcat, concat_eq_append, singleton_inj.mp hevent]

variable {frames : List QueuedLightingFrame} {intent : LightingIntent} (config : DispatchQueueConfig)

theorem mem_acceptedIn {sequence : Nat} (h : .accepted sequence intent frames ∈ history)
    : sequence ∈ acceptedIn history :=
  mem_filterMap.mpr ⟨_, h, rfl⟩

theorem Delivers.below (h : Chronicled history queue) {before after : List DispatchEvent}
    (hsplit : history = before ++ after) (hdelivers : Delivers before batch) : batch.sequence < queue.issued := by
  obtain ⟨frames, haccepted, -⟩ := hdelivers
  apply h.below
  rw [hsplit]
  exact mem_acceptedIn (mem_append_left _ haccepted)

theorem Chronicled.accept (h : Chronicled history queue)
    (hstable : queue'.stable = queue.stable ++ [stableRequest queue.issued intent frames])
    (hissued : queue'.issued = queue.issued + 1) :
    Chronicled (history ++ [.accepted queue.issued intent frames]) queue' := by
  have haccepted : acceptedIn (history ++ [.accepted queue.issued intent frames]) =
      acceptedIn history ++ [queue.issued] := by
    unfold acceptedIn
    rw [filterMap_append]
    rfl
  have hpopped : ∀ before batch after,
      history ++ [.accepted queue.issued intent frames] = before ++ .popped batch :: after →
        ∃ rest, after = rest ++ [.accepted queue.issued intent frames] ∧ history = before ++ .popped batch :: rest := by
    intro before batch after hsplit
    obtain ⟨-, -, hevent⟩ | hrest := split_concat hsplit
    · cases hevent
    · exact hrest
  refine ⟨⟨?_, ?_, ?_⟩, ?_, ?_, ?_⟩
  · rw [haccepted]
    apply pairwise_append.mpr
    refine ⟨h.accepted, pairwise_singleton _ _, ?_⟩
    intro sequence hold last hlast
    rw [mem_singleton.mp hlast]
    exact h.below sequence hold
  · intro before batch after hsplit hintent
    obtain ⟨rest, -, hhistory⟩ := hpopped before batch after hsplit
    exact h.delivers before batch rest hhistory hintent
  · intro before batch after hsplit later hlater hintent hsame
    obtain ⟨rest, hafter, hhistory⟩ := hpopped before batch after hsplit
    rw [hafter] at hlater
    obtain hold | hlast := mem_append.mp hlater
    · exact h.ordered before batch rest hhistory later hold hintent hsame
    · cases mem_singleton.mp hlast
  · rw [haccepted, hissued]
    intro sequence hmem
    obtain hold | hlast := mem_append.mp hmem
    · exact (h.below sequence hold).trans (Nat.lt_succ_self _)
    rw [mem_singleton.mp hlast]
    exact Nat.lt_succ_self _
  · rw [hstable]
    intro request hmem
    obtain hold | hlast := mem_append.mp hmem
    · obtain ⟨known, hknown, hgroups⟩ := h.queued request hold
      exact ⟨known, mem_append_left _ hknown, hgroups⟩
    rw [mem_singleton.mp hlast]
    refine ⟨frames, mem_append_right _ mem_cons_self, ?_⟩
    intro key group hgroup
    rw [((getElem?_groupByReceiver key group).mp hgroup).1]
  rw [hstable]
  intro before batch after hsplit request hmem hkey
  obtain ⟨rest, -, hhistory⟩ := hpopped before batch after hsplit
  obtain hold | hlast := mem_append.mp hmem
  · exact h.waiting before batch rest hhistory request hold hkey
  rw [mem_singleton.mp hlast]
  constructor
  · intro hintent
    exact (h.delivers before batch rest hhistory hintent).below h hhistory
  intro _ other hother
  apply h.below
  rw [hhistory]
  unfold acceptedIn at hother ⊢
  rw [filterMap_append]
  exact mem_append_left _ hother

theorem Chronicled.pop (h : Chronicled history queue) (hthins : Thins queue queue')
    (hdelivers : batch.intent ≠ .effectFrame → Delivers history batch ∧
      ∀ request ∈ queue'.stable, receiverKey batch.receiverId ∈ request.receiverFrames →
        batch.sequence < request.sequence)
    (hfirst : batch.intent ≠ .effectFrame → ∃ request ∈ queue.stable, request.sequence = batch.sequence ∧
      receiverKey batch.receiverId ∈ request.receiverFrames)
    (heffect : batch.intent = .effectFrame → ∀ request ∈ queue.stable,
      receiverKey batch.receiverId ∉ request.receiverFrames) :
    Chronicled (history ++ [.popped batch]) queue' := by
  have hkept := h.thins hthins
  have haccepted : acceptedIn (history ++ [.popped batch]) = acceptedIn history := by
    unfold acceptedIn
    rw [filterMap_append]
    exact append_nil _
  refine ⟨⟨?_, ?_, ?_⟩, ?_, ?_, ?_⟩
  · rw [haccepted]
    exact h.accepted
  · intro before popped after hsplit hintent
    obtain ⟨-, hbefore, hevent⟩ | ⟨rest, -, hhistory⟩ := split_concat hsplit
    · cases hevent
      rw [← hbefore]
      exact (hdelivers hintent).1
    · exact h.delivers before popped rest hhistory hintent
  · intro before popped after hsplit later hlater hintent hsame
    obtain ⟨hnil, -, -⟩ | ⟨rest, hafter, hhistory⟩ := split_concat hsplit
    · rw [hnil] at hlater
      exact absurd hlater not_mem_nil
    rw [hafter] at hlater
    obtain hold | hlast := mem_append.mp hlater
    · exact h.ordered before popped rest hhistory later hold hintent hsame
    cases mem_singleton.mp hlast
    obtain ⟨request, hrequest, hsequence, hkey⟩ := hfirst hintent
    rw [hsame] at hkey
    rw [← hsequence]
    exact h.waiting before popped rest hhistory request hrequest hkey
  · rw [haccepted]
    exact hkept.below
  · intro request hmem
    obtain ⟨frames, hknown, hgroups⟩ := hkept.queued request hmem
    exact ⟨frames, mem_append_left _ hknown, hgroups⟩
  intro before popped after hsplit request hmem hkey
  obtain ⟨-, hbefore, hevent⟩ | ⟨rest, -, hhistory⟩ := split_concat hsplit
  · cases hevent
    refine ⟨fun hintent => (hdelivers hintent).2 request hmem hkey, ?_⟩
    intro hintent
    obtain ⟨old, hold, -, hheld⟩ := hthins.holds hmem hkey
    exact absurd hheld (heffect hintent old hold)
  · exact hkept.waiting before popped rest hhistory request hmem hkey

theorem enqueueEffect_thins (h : queue.Sound) (frame : QueuedLightingFrame) (nowMs : Nat) :
    Thins queue (queue.enqueueEffect frame nowMs).2 := by
  have hsame : Thins queue queue := thins_of_subset (le_refl _) (List.Subset.refl _)
  unfold enqueueEffect
  split
  · exact hsame
  split
  · exact thins_of_subset (le_refl _) (List.Subset.refl _)
  split
  · exact hsame
  split
  · exact hsame
  next opened hopened =>
    have hopens := h.openEffect hopened
    apply thins_of_subset
    · exact hopens.issued.1
    show opened.stable ⊆ queue.stable
    rw [hopens.stable]
    exact List.Subset.refl _

theorem withoutGroup_lookup {other : String} {group : List QueuedLightingFrame}
    (h : (request.withoutGroup key).receiverFrames[other]? = some group) :
    other ≠ key ∧ request.receiverFrames[other]? = some group := by
  unfold StableRequest.withoutGroup at h
  dsimp only at h
  rw [OrderedMaps.getElem?_erase_of] at h
  split at h
  · cases h
  next hne => exact ⟨hne, h⟩

theorem mem_popStable {other : StableRequest} (hordered : (requests.map (·.sequence)).Pairwise (· < ·))
    (hfound : findStable key requests = some (request, frames)) (hmem : other ∈ popStable key requests) :
    other ∈ requests ∧ (key ∈ other.receiverFrames → request.sequence < other.sequence) ∨
      other = request.withoutGroup key := by
  obtain ⟨earlier, later, hsplit, hothers, -, hpop⟩ := findStable_some hfound
  rw [hpop] at hmem
  obtain hearlier | hrest := mem_append.mp hmem
  · left
    refine ⟨by rw [hsplit]; exact mem_append_left _ hearlier, ?_⟩
    intro hkey
    rw [mem_iff_isSome_getElem?, hothers other hearlier] at hkey
    exact absurd hkey Bool.false_ne_true
  obtain hself | hlater := mem_append.mp hrest
  · split at hself
    · exact absurd hself not_mem_nil
    · exact .inr (mem_singleton.mp hself)
  left
  refine ⟨by rw [hsplit]; exact mem_append_right _ (mem_cons_of_mem _ hlater), ?_⟩
  intro _
  rw [hsplit, map_append, map_cons] at hordered
  have htail := (pairwise_append.mp hordered).2.1
  exact (pairwise_cons.mp htail).1 other.sequence (mem_map.mpr ⟨other, hlater, rfl⟩)

theorem popReadyFor_thins (h : queue.Sound) (receiverId : ReceiverId) : Thins queue (queue.popReadyFor receiverId nowMs).2 := by
  unfold popReadyFor
  dsimp only
  split
  next request frames hfound =>
    refine ⟨le_refl _, ?_⟩
    intro other hmem
    obtain ⟨hold, -⟩ | hrest := mem_popStable h.ordered hfound hmem
    · exact ⟨other, hold, rfl, rfl, fun _ group hgroup => ⟨group, hgroup, List.Sublist.refl _⟩⟩
    obtain ⟨earlier, later, hsplit, -⟩ := findStable_some hfound
    refine ⟨request, ?_, ?_, ?_, ?_⟩
    · rw [hsplit]
      exact mem_append_right _ mem_cons_self
    · rw [hrest]
      rfl
    · rw [hrest]
      rfl
    intro key group hgroup
    rw [hrest] at hgroup
    exact ⟨group, (withoutGroup_lookup hgroup).2, List.Sublist.refl _⟩
  · split
    · exact thins_of_subset (le_refl _) (List.Subset.refl _)
    · exact thins_of_subset (le_refl _) (List.Subset.refl _)

theorem discardRequest_thins (queue : DispatchQueue) (sequence : Nat) :
    Thins queue (queue.discardRequest sequence).2 := by
  unfold discardRequest
  split
  · exact thins_of_subset (le_refl _) eraseP_subset
  · split <;> exact thins_of_subset (le_refl _) (List.Subset.refl _)

theorem discardController_thins (h : queue.Sound) (stableId : String) :
    Thins queue (queue.discardController stableId) := by
  refine ⟨le_of_eq (h.discardController stableId).issued_eq.symm, ?_⟩
  intro other hmem
  obtain ⟨request, hrequest, hwithout⟩ := mem_map.mp (mem_of_mem_filter hmem)
  rw [eraseEffectTarget_stable] at hrequest
  refine ⟨request, hrequest, ?_, ?_, ?_⟩
  · rw [← hwithout]
    rfl
  · rw [← hwithout]
    rfl
  intro key group hgroup
  rw [← hwithout] at hgroup
  obtain ⟨-, old, hold, hkept⟩ := StableRequest.without_lookup hgroup
  refine ⟨old, hold, ?_⟩
  rw [hkept]
  exact filter_sublist

theorem Chronicled.popReadyFor (hsound : queue.Sound) (h : Chronicled history queue) (receiverId : ReceiverId) :
    Chronicled (history ++ (queue.perform (.popReadyFor receiverId nowMs)).1)
      (queue.perform (.popReadyFor receiverId nowMs)).2 := by
  show Chronicled (history ++ (queue.popReadyFor receiverId nowMs).1.toList.map .popped)
    (queue.popReadyFor receiverId nowMs).2
  have hthins : Thins queue (queue.popReadyFor receiverId nowMs).2 := popReadyFor_thins hsound receiverId
  cases hbatch : (queue.popReadyFor receiverId nowMs).1 with
  | none =>
    show Chronicled (history ++ []) _
    rw [append_nil]
    exact h.thins hthins
  | some batch =>
    have hanswer := hbatch
    rw [popReadyFor_fst] at hanswer
    obtain ⟨hkey, ⟨request, hfound, hintent, hsequence⟩ | ⟨hnone, heffect⟩⟩ := answerFor_some hsound hanswer
    · obtain ⟨earlier, later, hsplit, hothers, hframes, hpop⟩ := findStable_some hfound
      have hmem : request ∈ queue.stable := by
        rw [hsplit]
        exact mem_append_right _ mem_cons_self
      have hstable : (queue.popReadyFor receiverId nowMs).2.stable = popStable (receiverKey receiverId) queue.stable := by
        unfold DispatchQueue.popReadyFor
        dsimp only
        rw [hfound]
      apply h.pop hthins
      · intro _
        obtain ⟨frames, hknown, hgroups⟩ := h.queued request hmem
        refine ⟨⟨frames, ?_, ?_⟩, ?_⟩
        · rw [hintent, hsequence]
          exact hknown
        · rw [hkey]
          exact hgroups _ _ hframes
        rw [hstable, hkey, hsequence]
        intro other hother hheld
        obtain ⟨-, hlater⟩ | hrest := mem_popStable hsound.ordered hfound hother
        · exact hlater hheld
        rw [hrest] at hheld
        obtain ⟨group, hgroup⟩ := Option.isSome_iff_exists.mp (mem_iff_isSome_getElem?.mp hheld)
        exact absurd rfl (withoutGroup_lookup hgroup).1
      · intro _
        refine ⟨request, hmem, hsequence.symm, ?_⟩
        rw [hkey, mem_iff_isSome_getElem?, hframes]
        rfl
      intro heffect
      exact absurd (hintent.symm.trans heffect) (hsound.stable request hmem).intent
    · apply h.pop hthins
      · exact fun hstable => absurd heffect hstable
      · exact fun hstable => absurd heffect hstable
      intro _ request hmem hheld
      rw [hkey, mem_iff_isSome_getElem?, hnone request hmem] at hheld
      exact Bool.false_ne_true hheld

theorem Chronicled.enqueueStable (hsound : queue.Sound) (h : Chronicled history queue) (intent : LightingIntent)
    (frames : List QueuedLightingFrame) :
    Chronicled (history ++ (queue.perform (.enqueueStable intent frames)).1)
      (queue.perform (.enqueueStable intent frames)).2 := by
  show Chronicled (history ++ acceptance intent frames (queue.enqueueStable intent frames))
    (queue.enqueueStable intent frames).2
  obtain ⟨hrefused, hsame⟩ | ⟨erased, hintent, hframes, hsoundErased, hstable, -, hissued, -, -, hresult⟩ :=
    enqueueStable_cases intent frames hsound
  · unfold acceptance
    rw [if_neg hrefused, hsame, append_nil]
    exact h
  rw [hresult]
  have hevents : acceptance intent frames (.accepted,
      { erased with stable := erased.stable ++ [stableRequest queue.issued intent frames] }) =
        [.accepted queue.issued intent frames] := by
    unfold acceptance
    rw [if_pos rfl, getLast?_concat]
    rfl
  rw [hevents]
  apply h.accept
  · show erased.stable ++ _ = _
    rw [hstable]
  · exact hissued

theorem Chronicled.perform (hsound : queue.Sound) (h : Chronicled history queue) (op : DispatchOp) :
    Chronicled (history ++ (queue.perform op).1) (queue.perform op).2 := by
  have hunseen : ∀ {left : DispatchQueue}, Thins queue left → Chronicled (history ++ []) left := by
    intro left hthins
    rw [append_nil]
    exact h.thins hthins
  cases op with
  | enqueueEffect frame nowMs => exact hunseen (enqueueEffect_thins hsound frame nowMs)
  | enqueueStable intent frames => exact h.enqueueStable hsound intent frames
  | popReadyFor receiverId nowMs => exact h.popReadyFor hsound receiverId
  | discardRequest sequence => exact hunseen (discardRequest_thins queue sequence)
  | clear => exact hunseen (thins_of_subset (le_refl _) (nil_subset _))
  | discardController stableId => exact hunseen (discardController_thins hsound stableId)

theorem new_chronicled (initialSequence : Nat) :
    Chronicled [] (new config initialSequence) := by
  have hnothing : ∀ {before after : List DispatchEvent} {event : DispatchEvent}, [] ≠ before ++ event :: after :=
    fun h => by
      have hlength := congrArg List.length h
      rw [length_append, length_cons] at hlength
      exact absurd hlength (by rw [length_nil]; omega)
  exact ⟨⟨List.Pairwise.nil, fun _ _ _ h => absurd h hnothing, fun _ _ _ h => absurd h hnothing⟩,
    fun _ h => absurd h not_mem_nil, fun _ h => absurd h not_mem_nil, fun _ _ _ h => absurd h hnothing⟩

theorem run_chronicled (ops : List DispatchOp) (hsound : queue.Sound) (h : Chronicled history queue) :
    let state := ops.foldl (fun state op => (state.1 ++ (state.2.perform op).1, (state.2.perform op).2)) (history, queue)
    state.2.Sound ∧ Chronicled state.1 state.2 := by
  induction ops generalizing history queue with
  | nil => exact ⟨hsound, h⟩
  | cons op ops ih => exact ih (hsound.perform op) (h.perform hsound op)

theorem performAll_chronicled (initialSequence : SequenceNumber) (ops : List DispatchOp) :
    ((new config initialSequence.get).performAll ops).2.Sound ∧
      Chronicled ((new config initialSequence.get).performAll ops).1 ((new config initialSequence.get).performAll ops).2 :=
  run_chronicled ops (new_sound config initialSequence) (new_chronicled config initialSequence.get)

end Chronicle

theorem perform_config (h : queue.Sound) (op : DispatchOp) : (queue.perform op).2.config = queue.config := by
  cases op with
  | enqueueEffect frame nowMs =>
    show (queue.enqueueEffect frame nowMs).2.config = _
    unfold enqueueEffect
    split
    · rfl
    split
    · rfl
    split
    · rfl
    split
    · rfl
    next opened hopened => exact (h.openEffect hopened).config
  | enqueueStable intent frames =>
    show (queue.enqueueStable intent frames).2.config = _
    obtain ⟨-, hsame⟩ | ⟨erased, -, -, -, -, -, -, hconfig, -, hresult⟩ := enqueueStable_cases intent frames h
    · rw [hsame]
    rw [hresult]
    exact hconfig
  | popReadyFor receiverId nowMs => exact (h.popReadyFor receiverId nowMs).config
  | discardRequest sequence => exact (h.discardRequest sequence).config
  | clear => rfl
  | discardController stableId => exact (h.discardController stableId).config

theorem run_config (ops : List DispatchOp) (h : queue.Sound) (history : List DispatchEvent) :
    (ops.foldl (fun state op => (state.1 ++ (state.2.perform op).1, (state.2.perform op).2))
      (history, queue)).2.config = queue.config := by
  induction ops generalizing history queue with
  | nil => rfl
  | cons op ops ih => exact (ih (h.perform op) _).trans (perform_config h op)

theorem queue_dependable (config : DispatchQueueConfig) (initialSequence : SequenceNumber) (ops : List DispatchOp) :
    let history := ((new config initialSequence.get).performAll ops).1
    let queue := ((new config initialSequence.get).performAll ops).2
    ((queue.queuedEffects.map (·.stableId)).Nodup ∧ queue.effectTargetSize = queue.queuedEffects.length ∧
        queue.effectTargetSize ≤ config.effectTargetCapacity) ∧
      ((∀ request ∈ queue.stable, request.Sound) ∧ ∀ request ∈ queue.effects, request.Sound) ∧
      (∀ nowMs blocked, ((queue.previewReady nowMs blocked).isSome ↔ (queue.readyReceivers nowMs blocked).Nonempty) ∧
        ∀ batch, queue.previewReady nowMs blocked = some batch →
          (queue.popReadyFor batch.receiverId nowMs).1 = some batch) ∧
      Chronological history ∧
      ∀ ready keys queue', Turns ready queue keys queue' →
        (keys.length ≤ ready.card → keys.Nodup) ∧ (keys.length = ready.card → ∀ key ∈ ready, key ∈ keys) := by
  intro history queue
  obtain ⟨hsound, hchronicled⟩ := performAll_chronicled config initialSequence ops
  have hconfig : queue.config = config := run_config ops (new_sound config initialSequence) []
  have hcapacity := hsound.bounded.1
  rw [hconfig] at hcapacity
  refine ⟨⟨hsound.single, hsound.counted, hcapacity⟩, ⟨hsound.stable, hsound.effects⟩, ?_, ?_, ?_⟩
  · intro nowMs blocked
    exact ⟨previewReady_isSome hsound, fun batch hpreview => preview_popped hsound hpreview⟩
  · exact hchronicled.toChronological
  intro ready keys queue' hturns
  exact turns_fair hsound hturns

end DispatchQueue

end HyperfluxNext
