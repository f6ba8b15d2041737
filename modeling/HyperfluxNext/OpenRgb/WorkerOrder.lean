import HyperfluxNext.OpenRgb.RuntimeWorker

namespace HyperfluxNext

open OrderedMaps List

def numbersOf (stableId : String) (frames : List MailedFrame) : List Nat :=
  (frames.filter (·.stableId = stableId)).map (·.number)

variable {mailed : MailedFrame}

section Numbers

variable {stableId : String} {frames frames' : List MailedFrame}

theorem numbersOf_append (frames frames' : List MailedFrame) :
    numbersOf stableId (frames ++ frames') = numbersOf stableId frames ++ numbersOf stableId frames' := by
  unfold numbersOf
  rw [filter_append, map_append]

theorem numbersOf_eq_nil (h : ∀ mailed ∈ frames, mailed.stableId ≠ stableId) : numbersOf stableId frames = [] := by
  unfold numbersOf
  rw [map_eq_nil_iff, filter_eq_nil_iff]
  intro mailed hmem hsame
  exact h mailed hmem (of_decide_eq_true hsame)

theorem numbersOf_singleton (h : mailed.stableId = stableId) :
    numbersOf stableId [mailed] = [mailed.number] := by
  simp [numbersOf, h]

theorem mem_numbersOf (h : mailed ∈ frames) (hname : mailed.stableId = stableId) :
    mailed.number ∈ numbersOf stableId frames :=
  mem_map_of_mem (mem_filter.mpr ⟨h, decide_eq_true hname⟩)

theorem numbersOf_stamped (stableId : String) (stamped : List QueuedLightingFrame) (number : Nat)
    (hnodup : (stamped.map (·.stableId)).Nodup) :
    numbersOf stableId (stamped.map (⟨·, number⟩)) = [] ∨
      numbersOf stableId (stamped.map (⟨·, number⟩)) = [number] := by
  induction stamped with
  | nil => exact .inl rfl
  | cons frame stamped ih =>
    rw [map_cons, nodup_cons] at hnodup
    have hsplit : numbersOf stableId ((frame :: stamped).map (⟨·, number⟩)) =
        numbersOf stableId [⟨frame, number⟩] ++ numbersOf stableId (stamped.map (⟨·, number⟩)) := by
      rw [← numbersOf_append]
      rfl
    rw [hsplit]
    by_cases hsame : frame.stableId = stableId
    · right
      have hfirst : numbersOf stableId [⟨frame, number⟩] = [number] := numbersOf_singleton hsame
      have hrest : numbersOf stableId (stamped.map (⟨·, number⟩)) = [] := by
        apply numbersOf_eq_nil
        intro mailed hmem hname
        obtain ⟨other, hother, hmailed⟩ := mem_map.mp hmem
        apply hnodup.1
        rw [hsame, ← hname, ← hmailed]
        exact mem_map_of_mem hother
      rw [hfirst, hrest]
      rfl
    have hfirst : numbersOf stableId [⟨frame, number⟩] = [] := by
      apply numbersOf_eq_nil
      intro mailed hmem
      rw [mem_singleton.mp hmem]
      exact hsame
    rw [hfirst]
    exact ih hnodup.2

end Numbers

def effectFrames (commands : Std.TreeMap String EffectCommand) : List MailedFrame := commands.values.map (·.frame)

def stableFrames (commands : List StableCommand) : List MailedFrame := commands.flatMap (·.frames)

def contents (commands : List StableCommand) : List (LightingIntent × List MailedFrame) :=
  commands.map fun command => (command.intent, command.frames)

/-- Effect commands are kept under the name of their controller. -/
def Keyed (commands : Std.TreeMap String EffectCommand) : Prop :=
  ∀ (key : String) (command : EffectCommand), commands[key]? = some command → command.frame.stableId = key

section Effects

variable {commands : Std.TreeMap String EffectCommand} {stableId : String} {command : EffectCommand}

theorem stableFrames_append (commands commands' : List StableCommand) :
    stableFrames (commands ++ commands') = stableFrames commands ++ stableFrames commands' := by
  unfold stableFrames
  exact flatMap_append

theorem stableFrames_of_contents {commands commands' : List StableCommand}
    (h : contents commands = contents commands') : stableFrames commands = stableFrames commands' := by
  have hflat : ∀ commands : List StableCommand, stableFrames commands = (contents commands).flatMap (·.2) := by
    intro commands
    unfold stableFrames contents
    rw [flatMap_map]
  rw [hflat, hflat, h]

theorem Keyed.erase (h : Keyed commands) (stableId : String) : Keyed (commands.erase stableId) := by
  intro key command hcommand
  rw [getElem?_erase_of] at hcommand
  split at hcommand
  · cases hcommand
  · exact h key command hcommand

theorem Keyed.insert (h : Keyed commands) (hname : command.frame.stableId = stableId) :
    Keyed (commands.insert stableId command) := by
  intro key other hother
  rw [getElem?_insert_of] at hother
  split at hother
  next hsame =>
    cases hother
    exact hname.trans hsame.symm
  · exact h key other hother

theorem mem_effectFrames :
    mailed ∈ effectFrames commands ↔ ∃ (key : String) (command : EffectCommand), commands[key]? = some command ∧
      command.frame = mailed := by
  unfold effectFrames
  rw [mem_map]
  constructor
  · intro ⟨command, hcommand, hframe⟩
    obtain ⟨key, hkey⟩ := OrderedMaps.mem_values.mp hcommand
    exact ⟨key, command, hkey, hframe⟩
  intro ⟨key, command, hkey, hframe⟩
  exact ⟨command, OrderedMaps.mem_values.mpr ⟨key, hkey⟩, hframe⟩

theorem numbersOf_none (h : Keyed commands) (hnone : commands[stableId]? = none) :
    numbersOf stableId (effectFrames commands) = [] := by
  apply numbersOf_eq_nil
  intro mailed hmem hname
  obtain ⟨key, command, hcommand, hframe⟩ := mem_effectFrames.mp hmem
  rw [← hframe, h key command hcommand] at hname
  rw [hname, hnone] at hcommand
  cases hcommand

/-- A controller has one effect in the mailbox at most. -/
theorem numbersOf_some (h : Keyed commands) (hsome : commands[stableId]? = some command) :
    numbersOf stableId (effectFrames commands) = [command.frame.number] := by
  have hperm := ((values_perm_erase hsome).map (·.frame)).filter (·.stableId = stableId) |>.map (·.number)
  have hrest : numbersOf stableId (effectFrames (commands.erase stableId)) = [] := by
    apply numbersOf_none (h.erase stableId)
    rw [getElem?_erase_of, if_pos rfl]
  have hself := numbersOf_singleton (h stableId command hsome)
  have hsplit : numbersOf stableId (command.frame :: effectFrames (commands.erase stableId)) =
      [command.frame.number] := by
    rw [← singleton_append, numbersOf_append, hself, hrest]
    rfl
  have hall : (numbersOf stableId (effectFrames commands)).Perm
      (numbersOf stableId (command.frame :: effectFrames (commands.erase stableId))) := hperm
  rw [hsplit] at hall
  exact perm_singleton.mp hall

theorem numbersOf_effects (h : Keyed commands) (stableId : String) :
    numbersOf stableId (effectFrames commands) = (commands[stableId]?.map (·.frame.number)).toList := by
  cases hfound : commands[stableId]? with
  | none => exact numbersOf_none h hfound
  | some command => exact numbersOf_some h hfound

end Effects

namespace Mailbox

variable {box : Mailbox} {stableId : String} (frames : List MailedFrame)

theorem pullForward_contents (stableNow : Nat) (commands : List StableCommand) :
    contents (pullForward stableId stableNow commands) = contents commands := by
  induction commands with
  | nil => rfl
  | cons command commands ih =>
    unfold pullForward
    split
    · rfl
    show (command.intent, command.frames) :: contents (pullForward stableId stableNow commands) = _
    rw [ih]
    rfl

/-- The mailbox takes an effect whose controller has one in it, or a reservation, or finds room for one. -/
def AdmitsEffect (config : WorkerConfig) (box : Mailbox) (frame : QueuedLightingFrame) : Prop :=
  frame.valid = true ∧ (frame.stableId ∈ box.effectCommands ∨ frame.stableId ∈ box.effectReservations ∨
    box.effectReservations.card < config.dispatchQueue.effectTargetCapacity)

theorem unsuccessful {disposition : EnqueueDisposition}
    (h : disposition = .rejectedInvalid ∨ disposition = .rejectedCapacity) :
    ¬ (disposition = .accepted ∨ disposition = .coalesced) := by
  obtain hinvalid | hcapacity := h
  · rw [hinvalid]
    decide
  rw [hcapacity]
  decide

theorem enqueueEffect_cases (config : WorkerConfig) (box : Mailbox) (mailed : MailedFrame) (nowMs stableNow : Nat) :
    let answered := box.enqueueEffect config mailed nowMs stableNow
    contents answered.2.stableCommands = contents box.stableCommands ∧
      answered.2.stableReservations = box.stableReservations ∧
      (answered.2.effectCommands = box.effectCommands ∧ ¬ (answered.1 = .accepted ∨ answered.1 = .coalesced) ∨
        (∃ command, command.frame = mailed ∧
          answered.2.effectCommands = box.effectCommands.insert mailed.stableId command) ∧
            (answered.1 = .accepted ∨ answered.1 = .coalesced) ∧ AdmitsEffect config box mailed.frame) := by
  intro answered
  have hanswered : answered = box.enqueueEffect config mailed nowMs stableNow := rfl
  unfold Mailbox.enqueueEffect at hanswered
  split at hanswered
  · rw [hanswered]
    exact ⟨rfl, rfl, .inl ⟨rfl, unsuccessful (.inl rfl)⟩⟩
  next hvalid =>
    have hvalid : mailed.frame.valid = true := eq_true_of_ne_false hvalid
    dsimp only at hanswered
    split at hanswered
    next existing hexisting =>
      rw [hanswered]
      have hmem : mailed.stableId ∈ box.effectCommands := by
        rw [Std.TreeMap.mem_iff_isSome_getElem?, hexisting]
        rfl
      exact ⟨pullForward_contents _ _, rfl, .inr ⟨⟨_, rfl, rfl⟩, .inr rfl, hvalid, .inl hmem⟩⟩
    split at hanswered
    · rw [hanswered]
      exact ⟨pullForward_contents _ _, rfl, .inl ⟨rfl, unsuccessful (.inr rfl)⟩⟩
    next hroom =>
      rw [hanswered]
      refine ⟨pullForward_contents _ _, rfl, .inr ⟨⟨_, rfl, rfl⟩, ?_, hvalid, .inr ?_⟩⟩
      · dsimp only
        split
        · exact .inr rfl
        · exact .inl rfl
      by_cases hreserved : mailed.stableId ∈ box.effectReservations
      · exact .inl hreserved
      · exact .inr (not_le.mp fun hfull => hroom ⟨hreserved, hfull⟩)

theorem foldl_erase_lookup (commands : Std.TreeMap String EffectCommand) :
    (frames.foldl (fun commands mailed => commands.erase mailed.stableId) commands)[stableId]? =
      if stableId ∈ frames.map (·.stableId) then none else commands[stableId]? := by
  induction frames generalizing commands with
  | nil => rfl
  | cons mailed frames ih =>
    rw [foldl_cons, ih, getElem?_erase_of, map_cons]
    by_cases hlater : stableId ∈ frames.map (·.stableId)
    · rw [if_pos hlater, if_pos (mem_cons_of_mem _ hlater)]
    rw [if_neg hlater]
    by_cases hself : stableId = mailed.stableId
    · rw [if_pos hself, if_pos (by rw [hself]; exact mem_cons_self)]
    · rw [if_neg hself, if_neg (by rw [mem_cons, not_or]; exact ⟨hself, hlater⟩)]

theorem mergeLast_frames {intent : LightingIntent} {frames : List MailedFrame} {now : Nat}
    (h : box.mergeable intent frames now = true) :
    stableFrames (box.mergeLast frames) = stableFrames box.stableCommands ++ frames := by
  unfold mergeable at h
  obtain ⟨command, hlast, -⟩ := (Option.any_eq_true _ _).mp h
  obtain ⟨earlier, hsplit⟩ := getLast?_eq_some_iff.mp hlast
  unfold mergeLast
  rw [hsplit, dropLast_concat, getLast?_concat, stableFrames_append, stableFrames_append, append_assoc]
  congr 1
  show (command.frames ++ frames) ++ [] = (command.frames ++ []) ++ frames
  rw [append_nil, append_nil]

theorem mergeLast_length : (box.mergeLast frames).length ≤ box.stableCommands.length + 1 := by
  have hlast : box.stableCommands.getLast?.toList.length ≤ 1 := by
    cases box.stableCommands.getLast? with
    | none => exact Nat.zero_le _
    | some command => exact le_refl _
  unfold mergeLast
  rw [length_append, length_dropLast, length_map]
  omega

theorem keyed_enqueueEffect (h : Keyed box.effectCommands) (config : WorkerConfig) (mailed : MailedFrame)
    (nowMs stableNow : Nat) : Keyed (box.enqueueEffect config mailed nowMs stableNow).2.effectCommands := by
  obtain ⟨-, -, ⟨heffects, -⟩ | ⟨⟨command, hcommand, heffects⟩, -⟩⟩ :=
    enqueueEffect_cases config box mailed nowMs stableNow
  · rw [heffects]
    exact h
  rw [heffects]
  exact h.insert (by rw [hcommand])

theorem keyed_withoutEffects (h : Keyed box.effectCommands) (frames : List MailedFrame) :
    Keyed (box.withoutEffects frames).effectCommands := by
  intro key command hcommand
  have hcommand : (frames.foldl (fun commands mailed => commands.erase mailed.stableId) box.effectCommands)[key]? =
    some command := hcommand
  rw [foldl_erase_lookup] at hcommand
  split at hcommand
  · cases hcommand
  · exact h key command hcommand

theorem enqueueStable_cases (config : WorkerConfig) (box : Mailbox) (intent : LightingIntent)
    (frames : List MailedFrame) (now : Nat) :
    let answered := box.enqueueStable config intent frames now
    answered.2 = box ∧ ¬ (answered.1 = .accepted ∨ answered.1 = .coalesced) ∨
      validStable intent frames = true ∧
        stableFrames answered.2.stableCommands = stableFrames box.stableCommands ++ frames ∧
          answered.2.stableCommands.length ≤ box.stableCommands.length + 1 ∧
            answered.2.effectCommands = (box.withoutEffects frames).effectCommands ∧
              (answered.1 = .accepted ∨ answered.1 = .coalesced) := by
  intro answered
  have hanswered : answered = box.enqueueStable config intent frames now := rfl
  unfold Mailbox.enqueueStable at hanswered
  split at hanswered
  · rw [hanswered]
    exact .inl ⟨rfl, unsuccessful (.inl rfl)⟩
  next hvalid =>
    have hvalid : validStable intent frames = true := eq_true_of_ne_false hvalid
    split at hanswered
    · rw [hanswered]
      exact .inl ⟨rfl, unsuccessful (.inr rfl)⟩
    split at hanswered
    next hmerge =>
      rw [hanswered]
      exact .inr ⟨hvalid, mergeLast_frames hmerge, mergeLast_length frames, rfl, .inr rfl⟩
    rw [hanswered]
    refine .inr ⟨hvalid, ?_, le_of_eq length_append, rfl, .inl rfl⟩
    dsimp only
    rw [stableFrames_append]
    congr 1
    exact append_nil _

theorem keyed_enqueueStable (h : Keyed box.effectCommands) (config : WorkerConfig) (intent : LightingIntent)
    (frames : List MailedFrame) (now : Nat) :
    Keyed (box.enqueueStable config intent frames now).2.effectCommands := by
  obtain ⟨hsame, -⟩ | ⟨-, -, -, heffects, -⟩ := enqueueStable_cases config box intent frames now
  · rw [hsame]
    exact h
  rw [heffects]
  exact keyed_withoutEffects h frames

end Mailbox

namespace RuntimeWorker

variable {worker worker' next : RuntimeWorker} {stableId : String} {stableNow count : Nat}

/-- Every frame that was accepted and is still to be handed over. -/
def behind (worker : RuntimeWorker) : List MailedFrame :=
  stableFrames worker.stable ++ (worker.effects.map (·.frame) ++
    (stableFrames worker.mailbox.stableCommands ++ effectFrames worker.mailbox.effectCommands))

/-- Every frame, in the order in which they go to the core. -/
def line (worker : RuntimeWorker) : List MailedFrame := worker.handed ++ worker.behind

def Ascending (numbers : List Nat) (count : Nat) : Prop :=
  numbers.Pairwise (· < ·) ∧ ∀ number ∈ numbers, number < count

structure InLine (worker : RuntimeWorker) : Prop where
  keyed : Keyed worker.mailbox.effectCommands
  ascending : ∀ stableId, Ascending (numbersOf stableId worker.line) worker.accepted

/-- The commands of each controller reached the core in the order they were accepted, and none of them was
passed over by one accepted later. -/
structure InOrder (worker : RuntimeWorker) : Prop where
  handed : ∀ stableId, (numbersOf stableId worker.handed).Pairwise (· < ·)
  behind : ∀ first ∈ worker.handed, ∀ later ∈ worker.behind, later.stableId = first.stableId →
    first.number < later.number

theorem Ascending.sublist {numbers numbers' : List Nat} (h : Ascending numbers count)
    (hsub : numbers'.Sublist numbers) : Ascending numbers' count :=
  ⟨h.1.sublist hsub, fun number hmem => h.2 number (hsub.subset hmem)⟩

theorem Ascending.concat {numbers numbers' : List Nat} (h : Ascending numbers count)
    (hsub : numbers'.Sublist (numbers ++ [count])) : Ascending numbers' (count + 1) := by
  have hall : Ascending (numbers ++ [count]) (count + 1) := by
    constructor
    · apply pairwise_append.mpr
      refine ⟨h.1, pairwise_singleton _ _, ?_⟩
      intro number hmem last hlast
      rw [mem_singleton.mp hlast]
      exact h.2 number hmem
    intro number hmem
    obtain hold | hlast := mem_append.mp hmem
    · have := h.2 number hold
      omega
    rw [mem_singleton.mp hlast]
    omega
  exact hall.sublist hsub

theorem InLine.inOrder (h : worker.InLine) : worker.InOrder := by
  have hall : ∀ stableId, (numbersOf stableId worker.handed ++ numbersOf stableId worker.behind).Pairwise (· < ·) := by
    intro stableId
    rw [← numbersOf_append]
    exact (h.ascending stableId).1
  constructor
  · exact fun stableId => (pairwise_append.mp (hall stableId)).1
  intro first hfirst later hlater hsame
  apply (pairwise_append.mp (hall first.stableId)).2.2
  · exact mem_numbersOf hfirst rfl
  · exact mem_numbersOf hlater hsame

theorem numbersOf_line (worker : RuntimeWorker) (stableId : String) :
    numbersOf stableId worker.line = numbersOf stableId worker.handed ++ (numbersOf stableId (stableFrames worker.stable) ++
      (numbersOf stableId (worker.effects.map (·.frame)) ++ (numbersOf stableId (stableFrames worker.mailbox.stableCommands) ++
        numbersOf stableId (effectFrames worker.mailbox.effectCommands)))) := by
  unfold line behind
  rw [numbersOf_append, numbersOf_append, numbersOf_append, numbersOf_append]

theorem new_inLine (config : WorkerConfig) : (new config).InLine := by
  constructor
  · intro key command hcommand
    have hcommand : (∅ : Std.TreeMap String EffectCommand)[key]? = some command := hcommand
    rw [Std.TreeMap.getElem?_emptyc] at hcommand
    cases hcommand
  intro stableId
  exact ⟨List.Pairwise.nil, fun _ hmem => absurd hmem not_mem_nil⟩

theorem InLine.enqueueEffect (h : worker.InLine) (frame : QueuedLightingFrame) (nowMs stableNow : Nat) :
    (worker.answer (worker.mailbox.enqueueEffect worker.config ⟨frame, worker.accepted⟩ nowMs stableNow)).InLine := by
  have hkeyed := Mailbox.keyed_enqueueEffect h.keyed worker.config ⟨frame, worker.accepted⟩ nowMs stableNow
  refine ⟨hkeyed, ?_⟩
  intro stableId
  have hold := h.ascending stableId
  obtain ⟨hcontents, -, hcases⟩ := Mailbox.enqueueEffect_cases worker.config worker.mailbox
    ⟨frame, worker.accepted⟩ nowMs stableNow
  have hstable := stableFrames_of_contents hcontents
  rw [numbersOf_line] at hold ⊢
  unfold answer
  dsimp only
  obtain ⟨heffects, hnot⟩ | ⟨⟨command, hcommand, heffects⟩, hdone, -⟩ := hcases
  · rw [if_neg hnot, hstable, heffects]
    exact hold
  rw [if_pos hdone, hstable, numbersOf_effects hkeyed, heffects, getElem?_insert_of]
  rw [numbersOf_effects h.keyed] at hold
  apply hold.concat
  split
  · rw [Option.map_some, hcommand, append_assoc, append_assoc, append_assoc, append_assoc]
    apply List.Sublist.append_left
    apply List.Sublist.append_left
    apply List.Sublist.append_left
    apply List.Sublist.append_left
    exact sublist_append_right _ _
  · exact sublist_append_left _ _

theorem InLine.enqueueStable (h : worker.InLine) (intent : LightingIntent) (frames : List QueuedLightingFrame)
    (now : Nat) :
    (worker.answer (worker.mailbox.enqueueStable worker.config intent
      (frames.map (⟨·, worker.accepted⟩)) now)).InLine := by
  have hkeyed := Mailbox.keyed_enqueueStable h.keyed worker.config intent (frames.map (⟨·, worker.accepted⟩)) now
  refine ⟨hkeyed, ?_⟩
  intro stableId
  have hold := h.ascending stableId
  obtain ⟨hsame, hnot⟩ | ⟨hvalid, hstable, -, heffects, hdone⟩ :=
    Mailbox.enqueueStable_cases worker.config worker.mailbox intent (frames.map (⟨·, worker.accepted⟩)) now
  · unfold answer
    rw [if_neg hnot, hsame]
    exact hold
  have hnodup : (frames.map (·.stableId)).Nodup := by
    unfold Mailbox.validStable at hvalid
    have hnames := (of_decide_eq_true hvalid).2.2.2.2
    rw [map_map] at hnames
    exact hnames
  have hlookup : (worker.mailbox.withoutEffects (frames.map (⟨·, worker.accepted⟩))).effectCommands[stableId]? =
      if stableId ∈ (frames.map (⟨·, worker.accepted⟩ : QueuedLightingFrame → MailedFrame)).map (·.stableId) then none
      else worker.mailbox.effectCommands[stableId]? := Mailbox.foldl_erase_lookup _ _
  rw [numbersOf_line] at hold ⊢
  unfold answer
  dsimp only
  rw [if_pos hdone, hstable, numbersOf_append, numbersOf_effects hkeyed, heffects, hlookup]
  rw [numbersOf_effects h.keyed] at hold
  apply hold.concat
  rw [append_assoc, append_assoc, append_assoc, append_assoc, append_assoc]
  apply List.Sublist.append_left
  apply List.Sublist.append_left
  apply List.Sublist.append_left
  apply List.Sublist.append_left
  split
  next =>
    -- the controllers that the command names have lost their effects
    rw [Option.map_none, Option.toList_none, append_nil]
    obtain hnone | hone := numbersOf_stamped stableId frames worker.accepted hnodup
    · rw [hnone]
      exact nil_sublist _
    rw [hone]
    exact sublist_append_right _ _
  next hother =>
    have hnone : numbersOf stableId (frames.map (⟨·, worker.accepted⟩)) = [] := by
      apply numbersOf_eq_nil
      intro mailed hmem hname
      exact hother (mem_map.mpr ⟨mailed, hmem, hname⟩)
    rw [hnone, nil_append]
    exact sublist_append_left _ _

/-- Every stable command up to the last one that names a controller with a waiting effect is due. -/
def DrainsWhole (worker : RuntimeWorker) (stableNow : Nat) : Prop :=
  ∀ earlier command later, worker.mailbox.stableCommands = earlier ++ command :: later →
    (∃ mailed ∈ command.frames, mailed.stableId ∈ worker.mailbox.effectCommands) →
      ∀ other ∈ earlier ++ [command], other.dueAt ≤ stableNow

theorem DrainsWhole.waiting (h : worker.DrainsWhole stableNow) :
    ∀ mailed ∈ stableFrames (worker.mailbox.waiting stableNow), mailed.stableId ∉ worker.mailbox.effectCommands := by
  intro mailed hmem heffect
  obtain ⟨command, hcommand, hframe⟩ := mem_flatMap.mp hmem
  obtain ⟨earlier, later, hsplit⟩ := append_of_mem hcommand
  have hall : worker.mailbox.stableCommands =
      (worker.mailbox.due stableNow ++ earlier) ++ command :: later := by
    rw [append_assoc, ← hsplit]
    exact takeWhile_append_dropWhile.symm
  have hdue := h _ command later hall ⟨mailed, hframe, heffect⟩
  -- the first that waits is not due
  obtain ⟨first, rest, hfirst⟩ := exists_cons_of_ne_nil (ne_nil_of_mem hcommand)
  have hlate := head?_dropWhile_not (fun command : StableCommand => decide (command.dueAt ≤ stableNow))
    worker.mailbox.stableCommands
  have hwaiting : worker.mailbox.stableCommands.dropWhile (·.dueAt ≤ stableNow) = first :: rest := hfirst
  rw [hwaiting, head?_cons] at hlate
  have hnot : ¬ first.dueAt ≤ stableNow := by simpa using hlate
  apply hnot
  apply hdue
  rw [append_assoc]
  apply mem_append_right
  have hhead : earlier ++ [command] ++ later = first :: rest := by
    rw [append_assoc]
    exact hsplit.symm.trans hfirst
  cases earlier with
  | nil =>
    rw [nil_append, singleton_append] at hhead
    rw [(List.cons.inj hhead).1]
    exact mem_cons_self
  | cons other earlier =>
    rw [cons_append, cons_append] at hhead
    rw [(List.cons.inj hhead).1]
    exact mem_cons_self

theorem drainsWhole_iff : worker.DrainsWhole stableNow ↔
    ∀ mailed ∈ stableFrames (worker.mailbox.waiting stableNow), mailed.stableId ∉ worker.mailbox.effectCommands := by
  constructor
  · exact DrainsWhole.waiting
  intro h earlier command later hsplit hnamed other hother
  obtain ⟨mailed, hframe, heffect⟩ := hnamed
  have hnot : command ∉ worker.mailbox.waiting stableNow :=
    fun hcommand => h mailed (mem_flatMap.mpr ⟨command, hcommand, hframe⟩) heffect
  have hall : earlier ++ command :: later = worker.mailbox.due stableNow ++ worker.mailbox.waiting stableNow :=
    hsplit.symm.trans takeWhile_append_dropWhile.symm
  have hdue : other ∈ worker.mailbox.due stableNow := by
    obtain ⟨rest, hdue, hrest⟩ | ⟨rest, -, hwaiting⟩ := append_eq_append_iff.mp hall
    · cases rest with
      | nil =>
        rw [nil_append] at hrest
        rw [← hrest] at hnot
        exact absurd mem_cons_self hnot
      | cons first rest =>
        rw [cons_append] at hrest
        rw [hdue, (List.cons.inj hrest).1.symm]
        obtain hbefore | hself := mem_append.mp hother
        · exact mem_append_left _ hbefore
        rw [mem_singleton.mp hself]
        exact mem_append_right _ mem_cons_self
    rw [hwaiting] at hnot
    exact absurd (mem_append_right _ mem_cons_self) hnot
  exact of_decide_eq_true (all_eq_true.mp all_takeWhile other hdue)

instance (worker : RuntimeWorker) (stableNow : Nat) : Decidable (worker.DrainsWhole stableNow) :=
  decidable_of_iff _ drainsWhole_iff.symm

theorem idle_empty (h : worker.idle = true) : worker.stable = [] ∧ worker.effects = [] := by
  unfold idle at h
  rw [Bool.and_eq_true, List.isEmpty_iff, List.isEmpty_iff] at h
  exact h

theorem keyed_empty : Keyed ∅ := by
  intro key command hcommand
  rw [Std.TreeMap.getElem?_emptyc] at hcommand
  cases hcommand

theorem InLine.drain (h : worker.InLine) (hidle : worker.idle = true) (hwhole : worker.DrainsWhole stableNow)
    : (worker.drain stableNow).InLine := by
  obtain ⟨hstable, heffects⟩ := idle_empty hidle
  refine ⟨keyed_empty, ?_⟩
  intro stableId
  have hold := h.ascending stableId
  have hsplit : worker.mailbox.stableCommands = worker.mailbox.due stableNow ++ worker.mailbox.waiting stableNow :=
    takeWhile_append_dropWhile.symm
  rw [numbersOf_line, hstable, heffects, hsplit, stableFrames_append, numbersOf_append] at hold
  rw [numbersOf_line]
  show Ascending (numbersOf stableId worker.handed ++ (numbersOf stableId (stableFrames (worker.mailbox.due stableNow)) ++
    (numbersOf stableId (effectFrames worker.mailbox.effectCommands) ++
      (numbersOf stableId (stableFrames (worker.mailbox.waiting stableNow)) ++ [])))) worker.accepted
  rw [append_nil]
  apply hold.sublist
  apply List.Sublist.append_left
  show (_ : List Nat).Sublist ([] ++ ([] ++ _))
  rw [nil_append, nil_append, append_assoc]
  apply List.Sublist.append_left
  -- no frame of the controller waits behind its effect
  by_cases heffect : stableId ∈ worker.mailbox.effectCommands
  · have hnone : numbersOf stableId (stableFrames (worker.mailbox.waiting stableNow)) = [] := by
      apply numbersOf_eq_nil
      intro mailed hmem hname
      rw [← hname] at heffect
      exact hwhole.waiting mailed hmem heffect
    rw [hnone, append_nil, nil_append]
  · rw [numbersOf_none h.keyed (Std.TreeMap.getElem?_eq_none heffect), append_nil, nil_append]

theorem InLine.settle (h : worker.InLine) (refused : Bool) : (worker.settle refused).InLine := by
  unfold RuntimeWorker.settle
  split
  · exact h
  split
  · refine ⟨h.keyed, ?_⟩
    intro stableId
    have hold := h.ascending stableId
    rw [numbersOf_line] at hold ⊢
    apply hold.sublist
    apply List.Sublist.append_left
    show (([] : List Nat) ++ ([] ++ _)).Sublist _
    rw [nil_append, nil_append]
    exact (sublist_append_right _ _).trans (sublist_append_right _ _)
  · exact ⟨h.keyed, h.ascending⟩

theorem InLine.hand (h : worker.InLine) (hhand : worker.hand = some next) : next.InLine := by
  unfold RuntimeWorker.hand at hhand
  cases hstable : worker.stable with
  | cons command rest =>
    rw [hstable] at hhand
    cases hhand
    apply InLine.settle
    refine ⟨h.keyed, ?_⟩
    intro stableId
    have hold := h.ascending stableId
    rw [numbersOf_line, hstable] at hold
    rw [numbersOf_line]
    show Ascending (numbersOf stableId (worker.handed ++ command.frames) ++
      (numbersOf stableId (stableFrames rest) ++ _)) _
    have hfirst : stableFrames (command :: rest) = command.frames ++ stableFrames rest := rfl
    rw [hfirst, numbersOf_append, append_assoc, ← append_assoc, ← numbersOf_append] at hold
    exact hold
  | nil =>
    rw [hstable] at hhand
    cases heffects : worker.effects with
    | nil =>
      rw [heffects] at hhand
      cases hhand
    | cons command rest =>
      rw [heffects] at hhand
      cases hhand
      apply InLine.settle
      refine ⟨h.keyed, ?_⟩
      intro stableId
      have hold := h.ascending stableId
      rw [numbersOf_line, hstable, heffects] at hold
      rw [numbersOf_line]
      show Ascending (numbersOf stableId (worker.handed ++ [command.frame]) ++
        (numbersOf stableId (stableFrames worker.stable) ++ (numbersOf stableId (rest.map (·.frame)) ++ _))) _
      have hfirst : (command :: rest).map (·.frame) = [command.frame] ++ rest.map (·.frame) := rfl
      rw [hfirst, numbersOf_append, append_assoc] at hold
      rw [hstable, numbersOf_append, append_assoc]
      exact hold

theorem InLine.terminalizeMailbox (h : worker.InLine) (hidle : worker.idle = true) :
    worker.terminalizeMailbox.InLine := by
  obtain ⟨hstable, heffects⟩ := idle_empty hidle
  refine ⟨keyed_empty, ?_⟩
  intro stableId
  have hold := h.ascending stableId
  rw [numbersOf_line, hstable, heffects] at hold
  rw [numbersOf_line]
  show Ascending (numbersOf stableId worker.handed ++ (numbersOf stableId (stableFrames worker.mailbox.stableCommands) ++
    (numbersOf stableId (effectFrames worker.mailbox.effectCommands) ++ ([] ++ [])))) worker.accepted
  rw [append_nil, append_nil]
  exact hold

/-- A drain is timely if it leaves nothing behind that was accepted before an effect it takes. -/
def Timely (worker : RuntimeWorker) : WorkerOp → Prop
  | .drain stableNow => worker.DrainsWhole stableNow
  | _ => True

instance (worker : RuntimeWorker) (op : WorkerOp) : Decidable (worker.Timely op) := by
  cases op <;> unfold Timely <;> infer_instance

theorem InLine.perform (h : worker.InLine) {op : WorkerOp} (htimely : worker.Timely op)
    (hperform : worker.perform op = some next) : next.InLine := by
  unfold RuntimeWorker.perform at hperform
  split at hperform
  next frame nowMs stableNow =>
    obtain ⟨-, hresult⟩ := Option.ite_none_right_eq_some.mp hperform
    cases hresult
    exact h.enqueueEffect frame nowMs stableNow
  next intent frames now =>
    obtain ⟨-, hresult⟩ := Option.ite_none_right_eq_some.mp hperform
    cases hresult
    exact h.enqueueStable intent frames now
  next stableNow =>
    obtain ⟨hmay, hresult⟩ := Option.ite_none_right_eq_some.mp hperform
    cases hresult
    exact h.drain hmay.2 htimely
  · exact h.hand hperform
  · obtain ⟨-, hresult⟩ := Option.ite_none_right_eq_some.mp hperform
    cases hresult
    exact ⟨h.keyed, h.ascending⟩
  · obtain ⟨-, hresult⟩ := Option.ite_none_right_eq_some.mp hperform
    cases hresult
    exact ⟨h.keyed, h.ascending⟩
  · obtain ⟨-, hresult⟩ := Option.ite_none_right_eq_some.mp hperform
    cases hresult
    exact ⟨h.keyed, h.ascending⟩
  · obtain ⟨-, hresult⟩ := Option.ite_none_right_eq_some.mp hperform
    cases hresult
    exact ⟨h.keyed, h.ascending⟩
  obtain ⟨hmay, hresult⟩ := Option.ite_none_right_eq_some.mp hperform
  cases hresult
  exact h.terminalizeMailbox hmay.2

/-- A condition holds at each step of a run. -/
def Heeds (condition : RuntimeWorker → WorkerOp → Prop) (worker : RuntimeWorker) : List WorkerOp → Prop
  | [] => True
  | op :: ops => condition worker op ∧ ∀ next ∈ worker.perform op, Heeds condition next ops

instance decidableHeeds (condition : RuntimeWorker → WorkerOp → Prop)
    [∀ worker op, Decidable (condition worker op)] : ∀ (ops : List WorkerOp) (worker : RuntimeWorker),
      Decidable (Heeds condition worker ops)
  | [], _ => isTrue trivial
  | op :: ops, worker =>
    let _ : DecidablePred fun next => Heeds condition next ops := decidableHeeds condition ops
    inferInstanceAs (Decidable (_ ∧ ∀ next ∈ worker.perform op, Heeds condition next ops))

theorem heeds_run {condition : RuntimeWorker → WorkerOp → Prop} {invariant : RuntimeWorker → Prop}
    (hstep : ∀ {worker next : RuntimeWorker} {op : WorkerOp}, invariant worker → condition worker op →
      worker.perform op = some next → invariant next) (ops : List WorkerOp) (h : invariant worker)
    (hheeds : Heeds condition worker ops) (hrun : worker.performAll ops = some worker') : invariant worker' := by
  induction ops generalizing worker with
  | nil =>
    cases hrun
    exact h
  | cons op ops ih =>
    obtain ⟨hcondition, hrest⟩ := hheeds
    obtain ⟨next, hperform, hlater⟩ := Option.bind_eq_some_iff.mp (show (worker.perform op).bind
      (fun next => next.performAll ops) = some worker' from hrun)
    exact ih (hstep h hcondition hperform) (hrest next hperform) hlater

theorem commands_in_order (config : WorkerConfig) (ops : List WorkerOp) (hrun : (new config).performAll ops = some worker)
    (htimely : Heeds Timely (new config) ops) : worker.InOrder :=
  (heeds_run (fun h hcondition hperform => InLine.perform h hcondition hperform) ops (new_inLine config) htimely
    hrun).inOrder

def queueConfig (effectTargetCapacity : Nat)
    (h : 0 < effectTargetCapacity ∧ effectTargetCapacity ≤ queueCapacityMaximum) : WorkerConfig :=
  ⟨⟨⟨64, effectTargetCapacity, 4⟩, Nat.zero_lt_succ 63, (by decide : 64 ≤ queueCapacityMaximum), h.1, h.2,
    Nat.zero_lt_succ 3⟩, 4⟩

def queuedFrame (stableId : String) : QueuedLightingFrame :=
  ⟨.lit "receiver-1", .lit 1, stableId, 1,
    [⟨.lit 0, .lit 0, .lit 0⟩]⟩

def orderedOps : List WorkerOp :=
  [.enqueueStable .static [queuedFrame "mouse"] 0, .enqueueEffect (queuedFrame "mouse") 2 2000000,
    .drain 2000000, .hand, .hand]

theorem commands_in_order_together : ∃ worker,
    (new (queueConfig 32 (by decide))).performAll orderedOps = some worker ∧ worker.InOrder := by
  have hsome : ((new (queueConfig 32 (by decide))).performAll orderedOps).isSome = true := by decide +kernel
  obtain ⟨worker, hrun⟩ := Option.isSome_iff_exists.mp hsome
  exact ⟨worker, hrun, commands_in_order _ orderedOps hrun (by decide +kernel)⟩

/-- Two stable commands and an effect of one controller inside one window. -/
def overtakingOps : List WorkerOp :=
  [.enqueueStable .static [queuedFrame "mouse"] 0, .enqueueStable .static [queuedFrame "mouse"] 1000000,
    .enqueueEffect (queuedFrame "mouse") 2 2000000, .drain 2000000, .hand, .hand, .refreshReservations,
    .drain 5000000, .hand]

theorem effect_overtakes : ¬ ∀ (config : WorkerConfig) (ops : List WorkerOp) (worker : RuntimeWorker),
    (new config).performAll ops = some worker → worker.InOrder := by
  intro h
  have hnumbers : ((new (queueConfig 32 (by decide))).performAll overtakingOps).map
      (fun worker => numbersOf "mouse" worker.handed) = some [0, 2, 1] := by decide +kernel
  obtain ⟨worker, hrun, hhanded⟩ := Option.map_eq_some_iff.mp hnumbers
  have hordered := (h _ overtakingOps worker hrun).handed "mouse"
  rw [hhanded] at hordered
  exact absurd hordered (by decide)

end RuntimeWorker

end HyperfluxNext
