import HyperfluxNext.OpenRgb.QueueAdmission
import HyperfluxNext.OpenRgb.WorkerOrder

namespace HyperfluxNext

open Mailbox List

structure Stocked (config : WorkerConfig) (box : Mailbox) (elsewhere : Nat) : Prop where
  valid : ∀ content ∈ contents box.stableCommands, validStable content.1 content.2 = true
  counted : box.stableCommands.length + elsewhere ≤ box.stableReservations
  room : box.stableReservations ≤ config.dispatchQueue.stableCapacity

variable {intent : LightingIntent} {command : EffectCommand}

section Mailbox

variable {config : WorkerConfig} {box : Mailbox} {elsewhere : Nat} {frames : List MailedFrame}
  {commands : Std.TreeMap String EffectCommand} {mailed : MailedFrame}

theorem length_contents (commands : List StableCommand) : (contents commands).length = commands.length := by
  unfold contents
  rw [length_map]

theorem Stocked.of_contents (h : Stocked config box elsewhere) {box' : Mailbox}
    (hcontents : contents box'.stableCommands = contents box.stableCommands)
    (hreservations : box'.stableReservations = box.stableReservations) : Stocked config box' elsewhere := by
  have hlength := congrArg List.length hcontents
  rw [length_contents, length_contents] at hlength
  refine ⟨?_, ?_, ?_⟩
  · rw [hcontents]
    exact h.valid
  · rw [hlength, hreservations]
    exact h.counted
  rw [hreservations]
  exact h.room

theorem validStable_iff :
    validStable intent frames = true ↔ (intent = .static ∨ intent = .off) ∧ frames ≠ [] ∧
      frames.length ≤ frameCountMaximum ∧ frames.all (·.frame.valid) = true ∧ (frames.map (·.stableId)).Nodup := by
  unfold validStable
  exact decide_eq_true_iff

/-- Frames that were merged make a well formed command. -/
theorem validStable_merge {frames' : List MailedFrame} (h : validStable intent frames = true)
    (h' : validStable intent frames' = true) (hdisjoint : disjointFrames frames frames' = true)
    (hfew : frames.length ≤ frameCountMaximum - frames'.length) :
    validStable intent (frames ++ frames') = true := by
  obtain ⟨hintent, hfilled, -, hvalid, hnodup⟩ := validStable_iff.mp h
  obtain ⟨-, -, hmany', hvalid', hnodup'⟩ := validStable_iff.mp h'
  refine validStable_iff.mpr ⟨hintent, ?_, ?_, ?_, ?_⟩
  · exact fun hempty => hfilled (append_eq_nil_iff.mp hempty).1
  · rw [length_append]
    omega
  · rw [all_append, hvalid, hvalid']
    rfl
  rw [map_append]
  apply hnodup.append hnodup'
  intro name hname hname'
  obtain ⟨candidate, hcandidate, hsame⟩ := mem_map.mp hname
  obtain ⟨value, hvalue, hsame'⟩ := mem_map.mp hname'
  unfold disjointFrames at hdisjoint
  have hapart := all_eq_true.mp (all_eq_true.mp hdisjoint candidate hcandidate) value hvalue
  exact of_decide_eq_true hapart (hsame'.trans hsame.symm)

theorem Stocked.enqueueEffect (h : Stocked config box elsewhere) (mailed : MailedFrame) (nowMs stableNow : Nat) :
    Stocked config (box.enqueueEffect config mailed nowMs stableNow).2 elsewhere := by
  obtain ⟨hcontents, hreservations, -⟩ := enqueueEffect_cases config box mailed nowMs stableNow
  exact h.of_contents hcontents hreservations

theorem Stocked.enqueueStable (h : Stocked config box elsewhere) (intent : LightingIntent) (frames : List MailedFrame)
    (now : Nat) : Stocked config (box.enqueueStable config intent frames now).2 elsewhere := by
  unfold Mailbox.enqueueStable
  split
  · exact h
  next hvalid =>
    have hvalid : Mailbox.validStable intent frames = true := eq_true_of_ne_false hvalid
    split
    · exact h
    next hroom =>
      split
      next hmerge =>
        unfold Mailbox.mergeable at hmerge
        obtain ⟨command, hlast, hfits⟩ := (Option.any_eq_true _ _).mp hmerge
        obtain ⟨hintent, -, hdisjoint, hfew⟩ := of_decide_eq_true hfits
        obtain ⟨earlier, hsplit⟩ := getLast?_eq_some_iff.mp hlast
        have hmerged : box.mergeLast frames = earlier ++ [{ command with frames := command.frames ++ frames }] := by
          unfold Mailbox.mergeLast
          rw [hsplit, dropLast_concat, getLast?_concat]
          rfl
        have hcommand : (command.intent, command.frames) ∈ contents box.stableCommands := by
          rw [hsplit]
          unfold contents
          rw [map_append]
          exact mem_append_right _ mem_cons_self
        have hcounted := h.counted
        refine ⟨?_, ?_, h.room⟩
        · dsimp only
          rw [hmerged]
          unfold contents
          rw [map_append]
          intro content hcontent
          obtain hold | hnew := mem_append.mp hcontent
          · apply h.valid
            rw [hsplit]
            unfold contents
            rw [map_append]
            exact mem_append_left _ hold
          rw [mem_singleton.mp hnew]
          have hold := h.valid _ hcommand
          dsimp only at hold ⊢
          rw [hintent] at hold ⊢
          exact validStable_merge hold hvalid hdisjoint hfew
        · dsimp only
          rw [hmerged, length_append, length_singleton]
          rw [hsplit, length_append, length_singleton] at hcounted
          exact hcounted
      next hapart =>
        have hspace : box.stableReservations < config.dispatchQueue.stableCapacity :=
          not_le.mp fun hfull => hroom ⟨eq_false_of_ne_true hapart, hfull⟩
        have hcounted := h.counted
        refine ⟨?_, ?_, ?_⟩
        · dsimp only
          unfold contents
          rw [map_append]
          intro content hcontent
          obtain hold | hnew := mem_append.mp hcontent
          · exact h.valid content hold
          rw [mem_singleton.mp hnew]
          exact hvalid
        · dsimp only
          rw [length_append, length_singleton]
          omega
        · exact hspace

theorem mem_effectFrames_insert {key : String} (h : mailed ∈ effectFrames (commands.insert key command)) :
    mailed = command.frame ∨ mailed ∈ effectFrames commands := by
  obtain ⟨other, found, hfound, hframe⟩ := mem_effectFrames.mp h
  rw [OrderedMaps.getElem?_insert_of] at hfound
  split at hfound
  · cases hfound
    exact .inl hframe.symm
  · exact .inr (mem_effectFrames.mpr ⟨other, found, hfound, hframe⟩)

theorem length_effectFrames_insert (commands : Std.TreeMap String EffectCommand) (key : String)
    (command : EffectCommand) :
    (effectFrames (commands.insert key command)).length ≤ (effectFrames commands).length + 1 := by
  unfold effectFrames
  rw [length_map, length_map, ← OrderedMaps.size_eq_length_values, ← OrderedMaps.size_eq_length_values]
  exact Std.TreeMap.size_insert_le

theorem mem_effectFrames_erase
    (h : mailed ∈ effectFrames (frames.foldl (fun commands mailed => commands.erase mailed.stableId) commands))
    :
    mailed ∈ effectFrames commands := by
  obtain ⟨key, found, hfound, hframe⟩ := mem_effectFrames.mp h
  rw [foldl_erase_lookup] at hfound
  split at hfound
  · cases hfound
  · exact mem_effectFrames.mpr ⟨key, found, hfound, hframe⟩

theorem length_effectFrames_erase (frames : List MailedFrame) (commands : Std.TreeMap String EffectCommand) :
    (effectFrames (frames.foldl (fun commands mailed => commands.erase mailed.stableId) commands)).length ≤
      (effectFrames commands).length := by
  induction frames generalizing commands with
  | nil => exact le_refl _
  | cons mailed frames ih =>
    refine (ih _).trans ?_
    unfold effectFrames
    rw [length_map, length_map, ← OrderedMaps.size_eq_length_values, ← OrderedMaps.size_eq_length_values]
    exact Std.TreeMap.size_erase_le

end Mailbox

namespace RuntimeWorker

variable {worker worker' next : RuntimeWorker} {stableNow : Nat} {core : DispatchQueue}
  {rest : List StableCommand}

/-- The effect frames that have left the mailbox and are not dispatched yet. -/
def sentFrames (worker : RuntimeWorker) : List QueuedLightingFrame :=
  worker.effects.map (·.frame.frame) ++ worker.core.queuedEffects

def pendingFrames (worker : RuntimeWorker) : List QueuedLightingFrame :=
  (effectFrames worker.mailbox.effectCommands).map (·.frame) ++ worker.sentFrames

/-- The controllers with an effect in the mailbox, on its way or in the core's queue. -/
def pendingIds (worker : RuntimeWorker) : Finset String := (worker.pendingFrames.map (·.stableId)).toFinset

/-- What is in front of the core and has room in it. -/
structure Admissible (worker : RuntimeWorker) : Prop where
  sound : worker.core.Sound
  config : worker.core.config = worker.config.dispatchQueue.toDispatchQueueConfig
  keyed : Keyed worker.mailbox.effectCommands
  stocked : Stocked worker.config worker.mailbox (worker.stable.length + worker.core.stable.length)
  sent : ∀ command ∈ worker.stable, validStable command.intent command.frames = true
  valid : ∀ mailed ∈ effectFrames worker.mailbox.effectCommands ++ worker.effects.map (·.frame),
    mailed.frame.valid = true
  pending : worker.pendingIds.card ≤ worker.config.dispatchQueue.effectTargetCapacity
  receiver : ∀ frame ∈ worker.pendingFrames, ∀ other ∈ worker.sentFrames, other.stableId = frame.stableId →
    other.key = frame.key
  numbered : worker.core.issued + (worker.stable.length + worker.effects.length) +
    (worker.mailbox.stableCommands.length + (effectFrames worker.mailbox.effectCommands).length) ≤ worker.accepted + 1
  countable : worker.accepted ≤ u64Max
  unrefused : worker.refused = 0 ∧ worker.mode ≠ .failed

theorem mem_pendingIds {stableId : String} :
    stableId ∈ worker.pendingIds ↔ ∃ frame ∈ worker.pendingFrames, frame.stableId = stableId := by
  unfold pendingIds
  rw [mem_toFinset, mem_map]

theorem pendingIds_subset (h : ∀ frame ∈ worker'.pendingFrames, frame ∈ worker.pendingFrames) :
    worker'.pendingIds ⊆ worker.pendingIds := by
  intro stableId hmem
  obtain ⟨frame, hframe, hname⟩ := mem_pendingIds.mp hmem
  exact mem_pendingIds.mpr ⟨frame, h frame hframe, hname⟩

theorem new_admissible (config : WorkerConfig) : (new config).Admissible := by
  refine ⟨DispatchQueue.new_sound config.dispatchQueue.toDispatchQueueConfig (.lit 1), rfl,
    keyed_empty, ⟨fun _ h => absurd h not_mem_nil, le_refl _, Nat.zero_le _⟩,
    fun _ h => absurd h not_mem_nil, fun _ h => absurd h not_mem_nil, Nat.zero_le _,
    fun _ h => absurd h not_mem_nil, le_refl _, Nat.zero_le _, rfl, ?_⟩
  show WorkerMode.running ≠ .failed
  decide

/-- A call for an effect finds a slot that the core's queue will have, and names the receiver that the
effects of its controller on their way to it name. -/
def Reserved (worker : RuntimeWorker) : WorkerOp → Prop
  | .enqueueEffect frame _ _ => Mailbox.AdmitsEffect worker.config worker.mailbox frame →
    worker.accepted < u64Max ∧
      (frame.stableId ∉ worker.pendingIds →
        worker.pendingIds.card < worker.config.dispatchQueue.effectTargetCapacity) ∧
      ∀ other ∈ worker.sentFrames, other.stableId = frame.stableId → other.key = frame.key
  | .enqueueStable _ _ _ => worker.accepted < u64Max
  | _ => True

section

variable (h : worker.Admissible)
include h

theorem Admissible.enqueueEffect {frame : QueuedLightingFrame} {nowMs : Nat}
    (hreserved : worker.Reserved (.enqueueEffect frame nowMs stableNow)) :
    (worker.answer (worker.mailbox.enqueueEffect worker.config ⟨frame, worker.accepted⟩ nowMs stableNow)).Admissible := by
  have hkeyed := keyed_enqueueEffect h.keyed worker.config ⟨frame, worker.accepted⟩ nowMs stableNow
  have hstocked := h.stocked.enqueueEffect ⟨frame, worker.accepted⟩ nowMs stableNow
  obtain ⟨hcontents, -, hcases⟩ := enqueueEffect_cases worker.config worker.mailbox
    ⟨frame, worker.accepted⟩ nowMs stableNow
  have hlength := congrArg List.length hcontents
  rw [length_contents, length_contents] at hlength
  have hnumbered := h.numbered
  obtain ⟨heffects, hnot⟩ | ⟨⟨command, hcommand, heffects⟩, hdone, hadmits⟩ := hcases
  · have hframes : (worker.answer (worker.mailbox.enqueueEffect worker.config ⟨frame, worker.accepted⟩ nowMs
        stableNow)).pendingFrames = worker.pendingFrames := by
      unfold pendingFrames answer
      dsimp only
      rw [heffects]
      rfl
    refine ⟨h.sound, h.config, hkeyed, hstocked, h.sent, ?_, ?_, ?_, ?_, ?_, h.unrefused⟩
    · unfold answer
      dsimp only
      rw [heffects]
      exact h.valid
    · unfold pendingIds
      rw [hframes]
      exact h.pending
    · rw [hframes]
      exact h.receiver
    · unfold answer
      dsimp only
      rw [heffects, hlength, if_neg hnot]
      exact hnumbered
    unfold answer
    dsimp only
    rw [if_neg hnot]
    exact h.countable
  · obtain ⟨hcountable, hroom, hreceiver⟩ := hreserved hadmits
    have hframes : ∀ other ∈ (worker.answer (worker.mailbox.enqueueEffect worker.config ⟨frame, worker.accepted⟩
        nowMs stableNow)).pendingFrames, other = frame ∨ other ∈ worker.pendingFrames := by
      intro other hother
      unfold pendingFrames answer at hother
      dsimp only at hother
      rw [heffects] at hother
      obtain hmailed | hsent := mem_append.mp hother
      · obtain ⟨mailed, hmem, hsame⟩ := mem_map.mp hmailed
        obtain hnew | hold := mem_effectFrames_insert hmem
        · left
          rw [← hsame, hnew, hcommand]
        right
        exact mem_append_left _ (mem_map.mpr ⟨mailed, hold, hsame⟩)
      · exact .inr (mem_append_right _ hsent)
    refine ⟨h.sound, h.config, hkeyed, hstocked, h.sent, ?_, ?_, ?_, ?_, ?_, h.unrefused⟩
    · unfold answer
      dsimp only
      rw [heffects]
      intro mailed hmem
      obtain hmailed | hsent := mem_append.mp hmem
      · obtain hnew | hold := mem_effectFrames_insert hmailed
        · rw [hnew, hcommand]
          exact hadmits.1
        · exact h.valid mailed (mem_append_left _ hold)
      · exact h.valid mailed (mem_append_right _ hsent)
    · have hsubset : (worker.answer (worker.mailbox.enqueueEffect worker.config ⟨frame, worker.accepted⟩ nowMs
          stableNow)).pendingIds ⊆ insert frame.stableId worker.pendingIds := by
        intro stableId hmem
        obtain ⟨other, hother, hname⟩ := mem_pendingIds.mp hmem
        apply Finset.mem_insert.mpr
        obtain hnew | hold := hframes other hother
        · left
          rw [← hname, hnew]
        · exact .inr (mem_pendingIds.mpr ⟨other, hold, hname⟩)
      refine (Finset.card_le_card hsubset).trans ?_
      by_cases hknown : frame.stableId ∈ worker.pendingIds
      · rw [Finset.insert_eq_of_mem hknown]
        exact h.pending
      rw [Finset.card_insert_of_notMem hknown]
      exact hroom hknown
    · intro known hknown other hother hname
      obtain hnew | hold := hframes known hknown
      · rw [hnew] at hname ⊢
        exact hreceiver other hother hname
      · exact h.receiver known hold other hother hname
    · unfold answer
      dsimp only
      rw [heffects, hlength, if_pos hdone]
      have hmore := length_effectFrames_insert worker.mailbox.effectCommands
        (MailedFrame.stableId ⟨frame, worker.accepted⟩) command
      omega
    unfold answer
    dsimp only
    rw [if_pos hdone]
    exact hcountable

theorem Admissible.enqueueStable {frames : List QueuedLightingFrame} {now : Nat}
    (hcountable : worker.accepted < u64Max) :
    (worker.answer (worker.mailbox.enqueueStable worker.config intent
      (frames.map (⟨·, worker.accepted⟩)) now)).Admissible := by
  have hkeyed := keyed_enqueueStable h.keyed worker.config intent (frames.map (⟨·, worker.accepted⟩)) now
  have hstocked := h.stocked.enqueueStable intent (frames.map (⟨·, worker.accepted⟩)) now
  have hnumbered := h.numbered
  obtain ⟨hsame, hnot⟩ | ⟨-, -, hlength, heffects, hdone⟩ :=
    enqueueStable_cases worker.config worker.mailbox intent (frames.map (⟨·, worker.accepted⟩)) now
  · unfold answer
    rw [if_neg hnot, hsame]
    exact h
  have hmailed : ∀ mailed ∈ effectFrames (worker.mailbox.enqueueStable worker.config intent
      (frames.map (⟨·, worker.accepted⟩)) now).2.effectCommands, mailed ∈ effectFrames worker.mailbox.effectCommands := by
    rw [heffects]
    exact fun mailed hmem => mem_effectFrames_erase hmem
  have hfewer : (effectFrames (worker.mailbox.enqueueStable worker.config intent
      (frames.map (⟨·, worker.accepted⟩)) now).2.effectCommands).length ≤
        (effectFrames worker.mailbox.effectCommands).length := by
    rw [heffects]
    exact length_effectFrames_erase _ _
  have hframes : ∀ frame ∈ (worker.answer (worker.mailbox.enqueueStable worker.config intent
      (frames.map (⟨·, worker.accepted⟩)) now)).pendingFrames, frame ∈ worker.pendingFrames := by
    intro frame hframe
    obtain hbox | hsent := mem_append.mp hframe
    · obtain ⟨mailed, hmem, hsame⟩ := mem_map.mp hbox
      exact mem_append_left _ (mem_map.mpr ⟨mailed, hmailed mailed hmem, hsame⟩)
    · exact mem_append_right _ hsent
  refine ⟨h.sound, h.config, hkeyed, hstocked, h.sent, ?_, ?_, ?_, ?_, ?_, h.unrefused⟩
  · intro mailed hmem
    obtain hbox | hsent := mem_append.mp hmem
    · exact h.valid mailed (mem_append_left _ (hmailed mailed hbox))
    · exact h.valid mailed (mem_append_right _ hsent)
  · exact (Finset.card_le_card (pendingIds_subset hframes)).trans h.pending
  · exact fun frame hframe => h.receiver frame (hframes frame hframe)
  · unfold answer
    dsimp only
    rw [if_pos hdone]
    omega
  unfold answer
  dsimp only
  rw [if_pos hdone]
  exact hcountable

/-- Before a drain the frames of each controller name one receiver, wherever they are. -/
theorem Admissible.agree :
    ∀ frame ∈ worker.pendingFrames, ∀ other ∈ worker.pendingFrames, other.stableId = frame.stableId →
      other.key = frame.key := by
  intro frame hframe other hother hname
  obtain hbox | hsent := mem_append.mp hother
  · obtain hbox' | hsent' := mem_append.mp hframe
    · obtain ⟨mailed, hmailed, hsame⟩ := mem_map.mp hbox
      obtain ⟨mailed', hmailed', hsame'⟩ := mem_map.mp hbox'
      obtain ⟨key, command, hcommand, hheld⟩ := mem_effectFrames.mp hmailed
      obtain ⟨key', command', hcommand', hheld'⟩ := mem_effectFrames.mp hmailed'
      have hkey : key = key' := by
        rw [← h.keyed key command hcommand, ← h.keyed key' command' hcommand', hheld, hheld']
        unfold MailedFrame.stableId
        rw [hsame, hsame']
        exact hname
      rw [hkey, hcommand'] at hcommand
      cases hcommand
      rw [← hsame, ← hsame', ← hheld, ← hheld']
    · exact (h.receiver other hother frame hsent' hname.symm).symm
  · exact h.receiver frame hframe other hsent hname

theorem Admissible.transfer (hidle : worker.idle = true) {taken kept : List StableCommand}
    (hsplit : worker.mailbox.stableCommands = taken ++ kept) {mode : WorkerMode} (hmode : mode ≠ .failed) :
    { worker with
      stable := taken
      effects := worker.mailbox.effectCommands.values
      mailbox := { worker.mailbox with stableCommands := kept, effectCommands := ∅ }
      mode := mode }.Admissible := by
  obtain ⟨hstable, heffects⟩ := idle_empty hidle
  have hagree := h.agree
  have hnumbered := h.numbered
  have hcounted := h.stocked.counted
  have hvalid := h.stocked.valid
  rw [hstable, heffects, hsplit, length_append, length_nil] at hnumbered
  rw [hstable, hsplit, length_append, length_nil] at hcounted
  unfold contents at hvalid
  rw [hsplit, map_append] at hvalid
  have hpending : worker.pendingFrames =
      worker.mailbox.effectCommands.values.map (·.frame.frame) ++ worker.core.queuedEffects := by
    unfold pendingFrames sentFrames effectFrames
    rw [heffects, map_map]
    rfl
  have hnone : effectFrames ∅ = [] := rfl
  refine ⟨h.sound, h.config, keyed_empty, ⟨?_, ?_, h.stocked.room⟩, ?_, ?_, ?_, ?_, ?_, h.countable,
    h.unrefused.1, hmode⟩
  · exact fun content hcontent => hvalid content (mem_append_right _ hcontent)
  · dsimp only
    omega
  · intro command hcommand
    exact hvalid (command.intent, command.frames) (mem_append_left _ (mem_map.mpr ⟨command, hcommand, rfl⟩))
  · intro mailed hmailed
    exact h.valid mailed (mem_append_left _ hmailed)
  · apply (Finset.card_le_card (pendingIds_subset ?_)).trans h.pending
    intro frame hframe
    rw [hpending]
    exact hframe
  · rw [hpending] at hagree
    exact fun frame hframe other hother => hagree frame hframe other hother
  have hlength : (effectFrames worker.mailbox.effectCommands).length =
      worker.mailbox.effectCommands.values.length := length_map _
  dsimp only
  rw [hnone, length_nil]
  omega

theorem Admissible.drain (hidle : worker.idle = true) :
    (worker.drain stableNow).Admissible :=
  h.transfer hidle takeWhile_append_dropWhile.symm h.unrefused.2

theorem Admissible.terminalizeMailbox (hidle : worker.idle = true) :
    worker.terminalizeMailbox.Admissible := by
  have hmode : WorkerMode.terminal ≠ .failed := by decide
  exact h.transfer hidle (append_nil _).symm hmode

theorem Admissible.refreshReservations (hidle : worker.idle = true) :
    worker.refreshReservations.Admissible := by
  obtain ⟨hstable, -⟩ := idle_empty hidle
  have hcounted := h.stocked.counted
  rw [hstable, length_nil, Nat.zero_add] at hcounted
  refine ⟨h.sound, h.config, h.keyed, ⟨h.stocked.valid, ?_, hcounted.trans h.stocked.room⟩, h.sent, h.valid, h.pending,
    h.receiver, h.numbered, h.countable, h.unrefused⟩
  show worker.mailbox.stableCommands.length + (worker.stable.length + worker.core.stable.length) ≤
    worker.mailbox.stableCommands.length + worker.core.stable.length
  rw [hstable, length_nil, Nat.zero_add]

/-- The core's queue takes less room. -/
theorem Admissible.recore (hsound : core.Sound)
    (hconfig : core.config = worker.core.config) (hstable : core.stable.length ≤ worker.core.stable.length)
    (hissued : core.issued ≤ worker.core.issued)
    (hframes : ∀ frame ∈ core.queuedEffects, frame ∈ worker.core.queuedEffects) :
    { worker with core := core }.Admissible := by
  have hcounted := h.stocked.counted
  have hnumbered := h.numbered
  have hsent : ∀ frame ∈ { worker with core := core }.sentFrames, frame ∈ worker.sentFrames := by
    intro frame hframe
    obtain htransit | hqueued := mem_append.mp hframe
    · exact mem_append_left _ htransit
    · exact mem_append_right _ (hframes frame hqueued)
  have hpending : ∀ frame ∈ { worker with core := core }.pendingFrames, frame ∈ worker.pendingFrames := by
    intro frame hframe
    obtain hbox | hout := mem_append.mp hframe
    · exact mem_append_left _ hbox
    · exact mem_append_right _ (hsent frame hout)
  refine ⟨hsound, hconfig.trans h.config, h.keyed, ⟨h.stocked.valid, ?_, h.stocked.room⟩, h.sent, h.valid,
    (Finset.card_le_card (pendingIds_subset hpending)).trans h.pending, ?_, ?_, h.countable, h.unrefused⟩
  · dsimp only
    omega
  · exact fun frame hframe other hother => h.receiver frame (hpending frame hframe) other (hsent other hother)
  dsimp only
  omega

theorem Admissible.removes (hremoves : worker.core.Removes core) :
    { worker with core := core }.Admissible := by
  obtain ⟨gone, hgone⟩ := hremoves.frames
  have hlength := hremoves.stableSequences.length_le
  rw [length_map, length_map] at hlength
  exact h.recore (h.sound.removes hremoves) hremoves.config hlength (le_of_eq hremoves.issued_eq)
    fun frame hframe => hgone.mem_iff.mpr (mem_append_right _ hframe)

theorem Admissible.admitsStable {command : StableCommand}
    (hstable : worker.stable = command :: rest) :
    worker.core.AdmitsStable command.intent (command.frames.map (·.frame)) := by
  have hcounted := h.stocked.counted
  have hroom := h.stocked.room
  have hnumbered := h.numbered
  have hcountable := h.countable
  have hlimit := worker.config.dispatchQueue.stableCapacity_le
  obtain ⟨hintent, hfilled, hfew, hvalid, hsingle⟩ := validStable_iff.mp (h.sent command (by
    rw [hstable]
    exact mem_cons_self))
  rw [hstable, length_cons] at hcounted hnumbered
  refine ⟨hintent, ?_, ?_, ?_, ?_, ?_, ?_, ?_⟩
  · exact fun hempty => hfilled (map_eq_nil_iff.mp hempty)
  · rw [length_map]
    exact hfew
  · rw [h.config]
    exact hlimit
  · rw [h.config]
    omega
  · rw [all_map]
    exact hvalid
  · rw [map_map]
    exact hsingle
  · omega

theorem Admissible.handStable {command : StableCommand}
    (hstable : worker.stable = command :: rest) : (worker.handStable command rest).Admissible := by
  have haccepted := (h.admitsStable hstable).accepted
  have hconfig := DispatchQueue.perform_config h.sound (.enqueueStable command.intent (command.frames.map (·.frame)))
  have hsound := h.sound.enqueueStable command.intent (command.frames.map (·.frame))
  have hcounted := h.stocked.counted
  have hnumbered := h.numbered
  rw [hstable, length_cons] at hcounted hnumbered
  obtain ⟨hrefused, -⟩ | ⟨erased, -, -, -, herasedStable, -, hissued, -, ⟨gone, hgone⟩, hresult⟩ :=
    DispatchQueue.enqueueStable_cases command.intent (command.frames.map (·.frame)) h.sound
  · exact absurd haccepted hrefused
  have hleft : (worker.core.enqueueStable command.intent (command.frames.map (·.frame))).2.queuedEffects =
      erased.queuedEffects := by
    rw [hresult]
    rfl
  have hsent : ∀ frame ∈ worker.effects.map (·.frame.frame) ++
      (worker.core.enqueueStable command.intent (command.frames.map (·.frame))).2.queuedEffects,
        frame ∈ worker.sentFrames := by
    intro frame hframe
    rw [hleft] at hframe
    obtain htransit | hqueued := mem_append.mp hframe
    · exact mem_append_left _ htransit
    · exact mem_append_right _ (hgone.mem_iff.mpr (mem_append_right _ hqueued))
  have hpending : ∀ frame ∈ (effectFrames worker.mailbox.effectCommands).map (·.frame) ++
      (worker.effects.map (·.frame.frame) ++
        (worker.core.enqueueStable command.intent (command.frames.map (·.frame))).2.queuedEffects),
          frame ∈ worker.pendingFrames := by
    intro frame hframe
    obtain hbox | hout := mem_append.mp hframe
    · exact mem_append_left _ hbox
    · exact mem_append_right _ (hsent frame hout)
  unfold RuntimeWorker.handStable settle
  dsimp only
  rw [if_pos (decide_eq_false (not_not.mpr haccepted))]
  refine ⟨hsound, hconfig.trans h.config, h.keyed, ⟨h.stocked.valid, ?_, h.stocked.room⟩, ?_, h.valid,
    ?_, ?_, ?_, h.countable, h.unrefused⟩
  · rw [hresult]
    dsimp only
    rw [length_append, length_singleton, herasedStable]
    omega
  · exact fun other hother => h.sent other (by
      rw [hstable]
      exact mem_cons_of_mem _ hother)
  · apply (Finset.card_le_card (pendingIds_subset ?_)).trans h.pending
    exact hpending
  · exact fun frame hframe other hother => h.receiver frame (hpending frame hframe) other (hsent other hother)
  rw [hresult]
  have hissued' : ({ erased with stable := erased.stable ++ [DispatchQueue.stableRequest worker.core.issued
      command.intent (command.frames.map (·.frame))] } : DispatchQueue).issued = worker.core.issued + 1 := hissued
  dsimp only
  rw [hissued']
  omega

theorem Admissible.admitsEffect {rest : List EffectCommand}
    (heffects : worker.effects = command :: rest) : worker.core.AdmitsEffect command.frame.frame := by
  have hnumbered := h.numbered
  have hcountable := h.countable
  have hpending := h.pending
  have hself : command.frame.frame ∈ worker.pendingFrames := by
    unfold pendingFrames sentFrames
    rw [heffects]
    exact mem_append_right _ (mem_append_left _ mem_cons_self)
  rw [heffects, length_cons] at hnumbered
  refine ⟨?_, ?_, ?_, ?_, ?_, ?_, ?_⟩
  · apply h.valid
    rw [heffects]
    exact mem_append_right _ mem_cons_self
  · rw [h.config]
    exact worker.config.dispatchQueue.effectTargetCapacity_pos
  · rw [h.config]
    exact worker.config.dispatchQueue.effectTargetCapacity_le
  · rw [h.config]
    exact worker.config.dispatchQueue.effectWindowMs_pos
  · exact fun old hold hname => h.receiver _ hself old (mem_append_right _ hold) hname
  · intro hnew
    rw [h.config, h.sound.counted]
    -- the queue's controllers and this one all have an effect pending
    have hsubset : insert command.frame.frame.stableId (worker.core.queuedEffects.map (·.stableId)).toFinset ⊆
        worker.pendingIds := by
      intro stableId hmem
      obtain hsame | hold := Finset.mem_insert.mp hmem
      · rw [hsame]
        exact mem_pendingIds.mpr ⟨_, hself, rfl⟩
      obtain ⟨frame, hframe, hname⟩ := mem_map.mp (mem_toFinset.mp hold)
      exact mem_pendingIds.mpr ⟨frame, mem_append_right _ (mem_append_right _ hframe), hname⟩
    have hcard := Finset.card_le_card hsubset
    rw [Finset.card_insert_of_notMem (fun hmem => hnew (mem_toFinset.mp hmem)),
      toFinset_card_of_nodup h.sound.single, length_map] at hcard
    exact (Nat.lt_of_succ_le hcard).trans_le hpending
  · omega

theorem Admissible.handEffect {rest : List EffectCommand}
    (heffects : worker.effects = command :: rest) :
    (worker.handEffect command rest).Admissible := by
  have haccepted := (h.admitsEffect heffects).accepted h.sound command.firstEnqueuedMs
  have hconfig := DispatchQueue.perform_config h.sound (.enqueueEffect command.frame.frame command.firstEnqueuedMs)
  have hsound := h.sound.enqueueEffect command.frame.frame command.firstEnqueuedMs
  obtain ⟨hissued, hkept, hframes⟩ :=
    DispatchQueue.enqueueEffect_leaves h.sound command.frame.frame command.firstEnqueuedMs
  have hcounted := h.stocked.counted
  have hnumbered := h.numbered
  have hreceiver := h.receiver
  rw [heffects, length_cons] at hnumbered
  have hself : command.frame.frame ∈ worker.sentFrames := by
    unfold sentFrames
    rw [heffects]
    exact mem_append_left _ mem_cons_self
  have hsent : ∀ frame ∈ rest.map (·.frame.frame) ++
      (worker.core.enqueueEffect command.frame.frame command.firstEnqueuedMs).2.queuedEffects,
        frame ∈ worker.sentFrames := by
    intro frame hframe
    obtain htransit | hqueued := mem_append.mp hframe
    · unfold sentFrames
      rw [heffects]
      exact mem_append_left _ (mem_cons_of_mem _ htransit)
    obtain hnew | hold := hframes frame hqueued
    · rw [hnew]
      exact hself
    · exact mem_append_right _ hold
  have hpending : ∀ frame ∈ (effectFrames worker.mailbox.effectCommands).map (·.frame) ++
      (rest.map (·.frame.frame) ++
        (worker.core.enqueueEffect command.frame.frame command.firstEnqueuedMs).2.queuedEffects),
          frame ∈ worker.pendingFrames := by
    intro frame hframe
    obtain hbox | hout := mem_append.mp hframe
    · exact mem_append_left _ hbox
    · exact mem_append_right _ (hsent frame hout)
  unfold RuntimeWorker.handEffect settle
  dsimp only
  rw [if_pos (decide_eq_false (by rw [← not_or, not_not]; exact haccepted))]
  refine ⟨hsound, hconfig.trans h.config, h.keyed, ⟨h.stocked.valid, ?_, h.stocked.room⟩, h.sent, ?_,
    ?_, ?_, ?_, h.countable, h.unrefused⟩
  · dsimp only
    rw [hkept]
    exact hcounted
  · intro mailed hmailed
    apply h.valid
    rw [heffects]
    obtain hbox | htransit := mem_append.mp hmailed
    · exact mem_append_left _ hbox
    · exact mem_append_right _ (mem_cons_of_mem _ htransit)
  · apply (Finset.card_le_card (pendingIds_subset ?_)).trans h.pending
    exact hpending
  · exact fun frame hframe other hother => hreceiver frame (hpending frame hframe) other (hsent other hother)
  dsimp only
  omega

theorem Admissible.hand (hhand : worker.hand = some next) : next.Admissible := by
  unfold RuntimeWorker.hand at hhand
  cases hstable : worker.stable with
  | cons command rest =>
    rw [hstable] at hhand
    cases hhand
    exact h.handStable hstable
  | nil =>
    rw [hstable] at hhand
    cases heffects : worker.effects with
    | nil =>
      rw [heffects] at hhand
      cases hhand
    | cons command rest =>
      rw [heffects] at hhand
      cases hhand
      exact h.handEffect heffects

theorem Admissible.perform {op : WorkerOp} (hreserved : worker.Reserved op)
    (hperform : worker.perform op = some next) : next.Admissible := by
  unfold RuntimeWorker.perform at hperform
  split at hperform
  next frame nowMs stableNow =>
    obtain ⟨-, hresult⟩ := Option.ite_none_right_eq_some.mp hperform
    cases hresult
    exact h.enqueueEffect hreserved
  next intent frames now =>
    obtain ⟨-, hresult⟩ := Option.ite_none_right_eq_some.mp hperform
    cases hresult
    exact h.enqueueStable hreserved
  next stableNow =>
    obtain ⟨hmay, hresult⟩ := Option.ite_none_right_eq_some.mp hperform
    cases hresult
    exact h.drain hmay.2
  · exact h.hand hperform
  · obtain ⟨hidle, hresult⟩ := Option.ite_none_right_eq_some.mp hperform
    cases hresult
    exact h.refreshReservations hidle
  next receiverId nowMs =>
    obtain ⟨-, hresult⟩ := Option.ite_none_right_eq_some.mp hperform
    cases hresult
    exact h.removes (h.sound.popReadyFor receiverId nowMs)
  next sequence =>
    obtain ⟨-, hresult⟩ := Option.ite_none_right_eq_some.mp hperform
    cases hresult
    exact h.removes (h.sound.discardRequest sequence)
  next stableId =>
    obtain ⟨-, hresult⟩ := Option.ite_none_right_eq_some.mp hperform
    cases hresult
    exact h.removes (h.sound.discardController stableId)
  obtain ⟨hmay, hresult⟩ := Option.ite_none_right_eq_some.mp hperform
  cases hresult
  exact h.terminalizeMailbox hmay.2

end

/-- No command that the mailbox accepted is refused by the core's queue. -/
theorem accepted_admitted (config : WorkerConfig) (ops : List WorkerOp)
    (hrun : (new config).performAll ops = some worker) (hreserved : Heeds Reserved (new config) ops) :
    worker.refused = 0 ∧ worker.mode ≠ .failed :=
  (heeds_run (fun h hcondition hperform => Admissible.perform h hcondition hperform) ops (new_admissible config)
    hreserved hrun).unrefused

instance (config : WorkerConfig) (box : Mailbox) (frame : QueuedLightingFrame) :
    Decidable (Mailbox.AdmitsEffect config box frame) :=
  inferInstanceAs (Decidable (_ ∧ (_ ∨ _ ∨ _)))

instance (worker : RuntimeWorker) : ∀ op : WorkerOp, Decidable (worker.Reserved op)
  | .enqueueEffect _ _ _ => inferInstanceAs (Decidable (_ → _ ∧ (_ → _) ∧ ∀ other ∈ worker.sentFrames, _ → _))
  | .enqueueStable _ _ _ => inferInstanceAs (Decidable (_ < _))
  | .drain _ => isTrue trivial
  | .hand => isTrue trivial
  | .refreshReservations => isTrue trivial
  | .popReadyFor _ _ => isTrue trivial
  | .discardRequest _ => isTrue trivial
  | .discardController _ => isTrue trivial
  | .terminalizeMailbox => isTrue trivial

theorem accepted_admitted_together : ∃ worker,
    (new (queueConfig 1 (by decide))).performAll orderedOps = some worker ∧ worker.refused = 0 ∧
      worker.mode ≠ .failed := by
  have hsome : ((new (queueConfig 1 (by decide))).performAll orderedOps).isSome = true := by decide +kernel
  obtain ⟨worker, hrun⟩ := Option.isSome_iff_exists.mp hsome
  exact ⟨worker, hrun, accepted_admitted _ orderedOps hrun (by decide +kernel)⟩

/-- A stable command frees the slot that its controller's effect still has in the queue, and another effect takes it. -/
def freedOps : List WorkerOp :=
  [.enqueueEffect (queuedFrame "mouse") 0 0, .drain 0, .hand, .refreshReservations,
    .enqueueStable .static [queuedFrame "mouse"] 1000000, .enqueueEffect (queuedFrame "keyboard") 1 1000000,
    .drain 1000000, .hand]

theorem accepted_refused : ¬ ∀ (config : WorkerConfig) (ops : List WorkerOp) (worker : RuntimeWorker),
    (new config).performAll ops = some worker → worker.refused = 0 ∧ worker.mode ≠ .failed := by
  intro h
  have hrefused : ((new (queueConfig 1 (by decide))).performAll freedOps).map
      (fun worker => (worker.accepted, worker.refused, worker.mode)) = some (3, 1, .failed) := by decide +kernel
  obtain ⟨worker, hrun, hresult⟩ := Option.map_eq_some_iff.mp hrefused
  have hmode : worker.mode = .failed := congrArg (fun result => result.2.2) hresult
  exact (h _ freedOps worker hrun).2 hmode

end RuntimeWorker

end HyperfluxNext
