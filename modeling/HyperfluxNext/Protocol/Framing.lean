import HyperfluxNext.Library.ByteOrder
import HyperfluxNext.Library.ChunkedReader
import HyperfluxNext.Library.Procedure
import HyperfluxNext.Domain.Values

namespace HyperfluxNext

open Procedure ByteOrder ChunkedReader List

def maxWireMessageBytes : Nat := 1048576

def frameLengthBytes : Nat := 4

inductive FrameIoStage where
  | readLength | readPayload | writeLength | writePayload | flush

inductive FrameError (Kind : Type) where
  | io (stage : FrameIoStage) (kind : Kind)
  | truncatedLength (received : Nat)
  | emptyPayload
  | payloadTooLarge (declared maximum : Nat)
  | truncatedPayload (declared received : Nat)

variable {Kind : Type}

/-- A message that the bounded encoder lets through: it is not empty and fits the limit. -/
structure FramePayload where
  bytes : List UInt8
  nonempty : bytes ≠ []
  fits : bytes.length ≤ maxWireMessageBytes

section Write

/-- A writer with what it has taken; at some stage it may take only a part and fail. -/
structure FrameSink (Kind : Type) where
  written : List UInt8
  failure : FrameIoStage → Option (Nat × Kind)

def writeAllAt (bytes : List UInt8) (stage : FrameIoStage) : EStateM (FrameError Kind) (FrameSink Kind) Unit := do
  let sink ← get
  match sink.failure stage with
  | none => set { sink with written := sink.written ++ bytes }
  | some (taken, kind) => do
    set { sink with written := sink.written ++ bytes.take taken }
    throw (.io stage kind)

def writeRpcPayload (encoded : List UInt8) : EStateM (FrameError Kind) (FrameSink Kind) Unit := do
  refuse (u32Max < encoded.length) (.payloadTooLarge encoded.length maxWireMessageBytes)
  writeAllAt (toBeBytes frameLengthBytes encoded.length) .writeLength
  writeAllAt encoded .writePayload
  writeAllAt [] .flush

end Write

section Read

def readAt (stage : FrameIoStage) (room : Nat) :
    EStateM (FrameError Kind) (List (Arrival Kind)) (List UInt8) := fun source =>
  match readInto room source with
  | (.ok bytes, rest) => .ok bytes rest
  | (.error kind, rest) => .error (.io stage kind) rest

def readRpcPayload : EStateM (FrameError Kind) (List (Arrival Kind)) (Option (List UInt8)) := do
  let lengthBytes ← readAt .readLength frameLengthBytes
  if lengthBytes = [] then
    pure none
  else do
    refuse (lengthBytes.length ≠ frameLengthBytes) (.truncatedLength lengthBytes.length)
    refuse (fromBeBytes lengthBytes = 0) .emptyPayload
    refuse (maxWireMessageBytes < fromBeBytes lengthBytes)
      (.payloadTooLarge (fromBeBytes lengthBytes) maxWireMessageBytes)
    let payload ← readAt .readPayload (fromBeBytes lengthBytes)
    refuse (payload.length ≠ fromBeBytes lengthBytes)
      (.truncatedPayload (fromBeBytes lengthBytes) payload.length)
    pure (some payload)

/-- Reads messages until the stream ends, and at most so many. -/
def readFrames : Nat → EStateM (FrameError Kind) (List (Arrival Kind)) (List (List UInt8))
  | 0 => pure []
  | count + 1 => do
    let payload ← readRpcPayload
    match payload with
    | none => pure []
    | some payload => do
      let payloads ← readFrames count
      pure (payload :: payloads)

end Read

/-- One message as it is written. -/
def FramePayload.frame (payload : FramePayload) : List UInt8 :=
  toBeBytes frameLengthBytes payload.bytes.length ++ payload.bytes

def frameStream (payloads : List FramePayload) : List UInt8 := payloads.flatMap FramePayload.frame

/-- What the next bytes of a stream amount to, with the bytes after them. -/
def parseFrame (bytes : List UInt8) : Except (FrameError Kind) (Option (List UInt8)) × List UInt8 :=
  if bytes = [] then (.ok none, [])
  else if bytes.length < frameLengthBytes then (.error (.truncatedLength bytes.length), [])
  else
    let declared := fromBeBytes (bytes.take frameLengthBytes)
    let rest := bytes.drop frameLengthBytes
    if declared = 0 then (.error .emptyPayload, rest)
    else if maxWireMessageBytes < declared then
      (.error (.payloadTooLarge declared maxWireMessageBytes), rest)
    else if rest.length < declared then (.error (.truncatedPayload declared rest.length), [])
    else (.ok (some (rest.take declared)), rest.drop declared)

def Parses {α : Type} (call : EStateM (FrameError Kind) (List (Arrival Kind)) α)
    (source : List (Arrival Kind)) (answer : Except (FrameError Kind) α) (left : List UInt8) : Prop :=
  ∃ last, Steady last ∧ pending last = left ∧
    call source = match answer with
      | .ok result => .ok result last
      | .error error => .error error last

variable {source : List (Arrival Kind)} {α β : Type} {bytes last : List UInt8} {c : Prop}
  {payload : FramePayload}

theorem Parses.bind {call : EStateM (FrameError Kind) (List (Arrival Kind)) α}
    {next : α → EStateM (FrameError Kind) (List (Arrival Kind)) β} {result : α}
    {answer : Except (FrameError Kind) β} {left : List UInt8} (h : Parses call source (.ok result) left)
    (hnext : ∀ rest, Steady rest → pending rest = left → Parses (next result) rest answer last) :
    Parses (call >>= next) source answer last := by
  obtain ⟨rest, hsteady, hpending, hcall⟩ := h
  obtain ⟨final, hfinal, hlast, hanswer⟩ := hnext rest hsteady hpending
  refine ⟨final, hfinal, hlast, ?_⟩
  show EStateM.bind call next source = _
  unfold EStateM.bind
  rw [hcall]
  exact hanswer

theorem parses_pure {left : List UInt8} (hsteady : Steady source) (hpending : pending source = left)
    (result : α) : Parses (pure result) source (.ok result) left :=
  ⟨source, hsteady, hpending, rfl⟩

theorem parses_pass [Decidable c] {error : FrameError Kind}
    {next : EStateM (FrameError Kind) (List (Arrival Kind)) β} {answer : Except (FrameError Kind) β} (hc : ¬ c)
    (hnext : Parses next source answer last) :
    Parses (refuse c error >>= fun _ => next) source answer last := by
  have hpass : refuse c error = (pure () : EStateM (FrameError Kind) (List (Arrival Kind)) Unit) := if_neg hc
  rw [hpass, pure_bind]
  exact hnext

theorem parses_stop [Decidable c] {error : FrameError Kind} {left : List UInt8}
    {next : EStateM (FrameError Kind) (List (Arrival Kind)) β} (hsteady : Steady source)
    (hpending : pending source = left) (hc : c) :
    Parses (refuse c error >>= fun _ => next) source (.error error) left := by
  have hstop : refuse c error = (throw error : EStateM (FrameError Kind) (List (Arrival Kind)) Unit) :=
    if_pos hc
  rw [hstop]
  exact ⟨source, hsteady, hpending, rfl⟩

theorem readAt_steady (hsteady : Steady source) (stage : FrameIoStage) (room : Nat) :
    Parses (readAt stage room) source (.ok ((pending source).take room)) ((pending source).drop room) := by
  obtain ⟨hread, hpending, hlast⟩ := readInto_steady room source hsteady
  refine ⟨(readInto room source).2, hlast, hpending, ?_⟩
  have hpair : readInto room source = (.ok ((pending source).take room), (readInto room source).2) :=
    Prod.ext hread rfl
  unfold readAt
  rw [hpair]

/-- Reading a message parses the bytes that arrive, however they arrive. -/
theorem readRpcPayload_parses (hsteady : Steady source) :
    Parses readRpcPayload source (parseFrame (pending source)).1
      (parseFrame (pending source) : Except (FrameError Kind) _ × _).2 := by
  unfold readRpcPayload
  refine (readAt_steady hsteady .readLength frameLengthBytes).bind ?_
  intro rest hrest hpending
  unfold parseFrame
  by_cases hnone : pending source = []
  · rw [if_pos hnone, hnone, take_nil, if_pos rfl]
    rw [hnone, drop_nil] at hpending
    exact parses_pure hrest hpending none
  have hsome : (pending source).take frameLengthBytes ≠ [] := by
    intro hempty
    obtain hzero | hempty := take_eq_nil_iff.mp hempty
    · cases hzero
    · exact hnone hempty
  rw [if_neg hnone, if_neg hsome]
  by_cases hshort : (pending source).length < frameLengthBytes
  · rw [if_pos hshort]
    have hdrop : (pending source).drop frameLengthBytes = [] := drop_eq_nil_of_le (by omega)
    have htake : (pending source).take frameLengthBytes = pending source := take_of_length_le (by omega)
    have hdiffers : (pending source).length ≠ frameLengthBytes := by omega
    rw [htake]
    exact parses_stop hrest (hpending.trans hdrop) hdiffers
  rw [if_neg hshort]
  have hlength : ((pending source).take frameLengthBytes).length = frameLengthBytes := by
    rw [length_take]
    omega
  refine parses_pass (not_not.mpr hlength) ?_
  dsimp only
  by_cases hzero : fromBeBytes ((pending source).take frameLengthBytes) = 0
  · rw [if_pos hzero]
    exact parses_stop hrest hpending hzero
  rw [if_neg hzero]
  refine parses_pass hzero ?_
  by_cases hlarge : maxWireMessageBytes < fromBeBytes ((pending source).take frameLengthBytes)
  · rw [if_pos hlarge]
    exact parses_stop hrest hpending hlarge
  rw [if_neg hlarge]
  refine parses_pass hlarge ?_
  refine (readAt_steady hrest .readPayload _).bind ?_
  intro last hlast hleft
  rw [hpending] at hleft ⊢
  by_cases htorn : ((pending source).drop frameLengthBytes).length <
      fromBeBytes ((pending source).take frameLengthBytes)
  · rw [if_pos htorn]
    rw [drop_eq_nil_of_le (Nat.le_of_lt htorn)] at hleft
    rw [take_of_length_le (Nat.le_of_lt htorn)]
    exact parses_stop hlast hleft (Nat.ne_of_lt htorn)
  rw [if_neg htorn]
  refine parses_pass ?_ (parses_pure hlast hleft _)
  rw [length_take]
  omega

section Frames

theorem FramePayload.declared (payload : FramePayload) (rest : List UInt8) :
    fromBeBytes ((payload.frame ++ rest).take frameLengthBytes) = payload.bytes.length := by
  have hfits := payload.fits
  have hlength : (toBeBytes frameLengthBytes payload.bytes.length).length = frameLengthBytes :=
    toBeBytes_length _ _
  unfold FramePayload.frame
  rw [append_assoc, take_append_of_le_length (Nat.le_of_eq hlength.symm),
    take_of_length_le (Nat.le_of_eq hlength)]
  apply fromBeBytes_toBeBytes
  unfold maxWireMessageBytes at hfits
  unfold frameLengthBytes
  omega

theorem FramePayload.frame_length (payload : FramePayload) :
    payload.frame.length = frameLengthBytes + payload.bytes.length := by
  unfold FramePayload.frame
  rw [length_append, toBeBytes_length]

theorem FramePayload.frame_drop (payload : FramePayload) (rest : List UInt8) :
    (payload.frame ++ rest).drop frameLengthBytes = payload.bytes ++ rest := by
  have hlength : (toBeBytes frameLengthBytes payload.bytes.length).length = frameLengthBytes :=
    toBeBytes_length _ _
  unfold FramePayload.frame
  rw [append_assoc, drop_append_of_le_length (Nat.le_of_eq hlength.symm),
    drop_of_length_le (Nat.le_of_eq hlength), nil_append]

theorem parseFrame_frame (payload : FramePayload) (rest : List UInt8) :
    (parseFrame (payload.frame ++ rest) : Except (FrameError Kind) _ × _) =
      (.ok (some payload.bytes), rest) := by
  have hpos := length_pos_iff.mpr payload.nonempty
  have hlength := payload.frame_length
  have hfits := payload.fits
  have hsome : payload.frame ++ rest ≠ [] := by
    intro hempty
    have hzero := congrArg List.length hempty
    rw [length_append, length_nil] at hzero
    omega
  have hlong : ¬ (payload.frame ++ rest).length < frameLengthBytes := by
    rw [length_append]
    omega
  unfold parseFrame
  rw [if_neg hsome, if_neg hlong]
  dsimp only
  rw [payload.declared, payload.frame_drop, if_neg (by omega), if_neg (by omega), if_neg, take_left, drop_left]
  rw [length_append]
  omega

/-- The error says that the stream ended inside a frame. -/
def FrameError.Torn : FrameError Kind → Prop
  | .truncatedLength _ => True
  | .truncatedPayload _ _ => True
  | .io _ _ => False
  | .emptyPayload => False
  | .payloadTooLarge _ _ => False

variable {taken : Nat}

theorem parseFrame_torn (payload : FramePayload) (hpos : 0 < taken) (hinside : taken < payload.frame.length)
    : ∃ error : FrameError Kind, error.Torn ∧
      parseFrame (payload.frame.take taken) = (.error error, []) := by
  have hfits := payload.fits
  have hlength := payload.frame_length
  have htaken : (payload.frame.take taken).length = taken := by
    rw [length_take]
    omega
  have hsome : payload.frame.take taken ≠ [] := by
    intro hempty
    rw [hempty, length_nil] at htaken
    omega
  unfold parseFrame
  rw [if_neg hsome]
  by_cases hshort : taken < frameLengthBytes
  · rw [htaken, if_pos hshort]
    exact ⟨.truncatedLength _, trivial, rfl⟩
  have hheader : (payload.frame.take taken).take frameLengthBytes =
      (payload.frame ++ []).take frameLengthBytes := by
    rw [append_nil, take_take, Nat.min_eq_left (by omega)]
  have hpos' := length_pos_iff.mpr payload.nonempty
  rw [htaken, if_neg hshort]
  dsimp only
  rw [hheader, payload.declared, if_neg (by omega), if_neg (by omega), if_pos]
  · exact ⟨.truncatedPayload _ _, trivial, rfl⟩
  rw [length_drop, htaken]
  omega

variable {count : Nat} {left rest : List UInt8}

theorem readFrames_succ (hsteady : Steady source) (hpending : pending source = payload.frame ++ rest)
    {answer : Except (FrameError Kind) (List (List UInt8))}
    (hrest : ∀ next, Steady next → pending next = rest → Parses (readFrames count) next answer left) :
    Parses (readFrames (count + 1)) source (answer.map (payload.bytes :: ·)) left := by
  have hparse := readRpcPayload_parses hsteady
  rw [hpending, parseFrame_frame] at hparse
  unfold readFrames
  refine hparse.bind ?_
  intro next hnext hleft
  obtain ⟨last, hlast, hlastPending, hcall⟩ := hrest next hnext hleft
  cases answer with
  | ok payloads =>
    have hread : Parses (readFrames count) next (.ok payloads) left := ⟨last, hlast, hlastPending, hcall⟩
    exact hread.bind fun final hfinal hpending => parses_pure hfinal hpending _
  | error error =>
    refine ⟨last, hlast, hlastPending, ?_⟩
    show EStateM.bind (readFrames count) _ next = _
    unfold EStateM.bind
    rw [hcall]
    rfl

/-- Messages that were written are read before whatever comes after them. -/
theorem readFrames_stream {answer : Except (FrameError Kind) (List (List UInt8))}
    (hrest : ∀ next, Steady next → pending next = rest → Parses (readFrames count) next answer left)
    (payloads : List FramePayload) (hsteady : Steady source)
    (hpending : pending source = frameStream payloads ++ rest) :
    Parses (readFrames (payloads.length + count)) source (answer.map (payloads.map (·.bytes) ++ ·)) left := by
  induction payloads generalizing source with
  | nil =>
    have hnext := hrest source hsteady hpending
    rw [length_nil, Nat.zero_add]
    cases answer <;> exact hnext
  | cons payload payloads ih =>
    have hcount : (payload :: payloads).length + count = (payloads.length + count) + 1 := by
      rw [length_cons]
      omega
    unfold frameStream at hpending
    rw [flatMap_cons, append_assoc] at hpending
    have hnext := readFrames_succ hsteady hpending fun next hsteady' hpending' => ih hsteady' hpending'
    rw [hcount]
    cases answer <;> exact hnext

theorem readFrames_end (hsteady : Steady source) (hpending : pending source = []) :
    Parses (readFrames (count + 1)) source (.ok []) [] := by
  have hparse := readRpcPayload_parses hsteady
  rw [hpending] at hparse
  unfold readFrames
  exact hparse.bind fun next hnext hleft => parses_pure hnext hleft _

theorem readFrames_torn (hsteady : Steady source) {error : FrameError Kind} (hpending : pending source = bytes)
    (hparse : parseFrame bytes = (.error error, [])) :
    Parses (readFrames (count + 1)) source (.error error) [] := by
  have hread := readRpcPayload_parses hsteady
  rw [hpending, hparse] at hread
  obtain ⟨last, hlast, hlastPending, hcall⟩ := hread
  refine ⟨last, hlast, hlastPending, ?_⟩
  unfold readFrames
  show EStateM.bind readRpcPayload _ source = _
  unfold EStateM.bind
  rw [hcall]

theorem readFrames_zero (hsteady : Steady source) (hpending : pending source = left) :
    Parses (readFrames 0) source (.ok []) left :=
  parses_pure hsteady hpending []

def EndsInside (payloads : List FramePayload) (taken : Nat) : Prop :=
  taken < (frameStream payloads).length ∧
    ∀ complete, complete <+: payloads → (frameStream complete).length ≠ taken

theorem frameStream_append (payloads more : List FramePayload) :
    frameStream (payloads ++ more) = frameStream payloads ++ frameStream more :=
  flatMap_append

theorem endsInside_split {payloads : List FramePayload} (h : EndsInside payloads taken) :
    ∃ complete payload rest part, payloads = complete ++ payload :: rest ∧ 0 < part ∧
      part < payload.frame.length ∧
      (frameStream payloads).take taken = frameStream complete ++ payload.frame.take part := by
  induction payloads generalizing taken with
  | nil =>
    have hnot := h.1
    rw [show frameStream [] = [] from rfl, length_nil] at hnot
    omega
  | cons payload payloads ih =>
    have hcons : frameStream (payload :: payloads) = payload.frame ++ frameStream payloads := flatMap_cons
    obtain ⟨hshort, hboundary⟩ := h
    rw [hcons, length_append] at hshort
    have hstart : taken ≠ 0 := (hboundary [] nil_prefix).symm
    by_cases hfirst : taken < payload.frame.length
    · refine ⟨[], payload, payloads, taken, rfl, by omega, hfirst, ?_⟩
      rw [hcons, take_append_of_le_length (Nat.le_of_lt hfirst)]
      rfl
    have hinside : EndsInside payloads (taken - payload.frame.length) := by
      refine ⟨by omega, ?_⟩
      intro complete hcomplete heq
      apply hboundary (payload :: complete) (cons_prefix_cons.mpr ⟨rfl, hcomplete⟩)
      rw [show frameStream (payload :: complete) = payload.frame ++ frameStream complete from
        flatMap_cons, length_append, heq]
      omega
    obtain ⟨complete, torn, rest, part, hsplit, hpos, hpart, htake⟩ := ih hinside
    refine ⟨payload :: complete, torn, rest, part, by rw [hsplit]; rfl, hpos, hpart, ?_⟩
    rw [hcons, take_append, take_of_length_le (by omega), htake, ← append_assoc]
    rfl

end Frames

section Written

/-- The writer takes the bytes and nothing else changes. -/
def Took (sink : FrameSink Kind) (bytes : List UInt8) (after : FrameSink Kind) : Prop :=
  after = { sink with written := sink.written ++ bytes }

theorem Took.trans {sink next last : FrameSink Kind} {more : List UInt8} (h : Took sink bytes next)
    (h' : Took next more last) : Took sink (bytes ++ more) last := by
  unfold Took at h h' ⊢
  rw [h', h, append_assoc]

theorem writeAllAt_took {stage : FrameIoStage} {sink : FrameSink Kind} (hsink : sink.failure stage = none) :
    Holds (writeAllAt bytes stage) sink (fun _ after => Took sink bytes after) (fun _ _ => False) := by
  simp only [writeAllAt, holds_do, hsink]
  rfl

theorem writeRpcPayload_took {sink : FrameSink Kind} (hsink : ∀ stage, sink.failure stage = none) :
    Holds (writeRpcPayload payload.bytes) sink (fun _ after => Took sink payload.frame after)
      (fun _ _ => False) := by
  have hfits := payload.fits
  have hsmall : ¬ u32Max < payload.bytes.length := by
    unfold maxWireMessageBytes at hfits
    unfold u32Max
    omega
  simp only [writeRpcPayload, holds_do]
  refine ⟨fun hlarge => hsmall hlarge, fun _ => ?_⟩
  refine holds_mono (writeAllAt_took (hsink _)) ?_ (fun _ _ hfalse => hfalse)
  intro _ length hlength
  have hfailure : length.failure = sink.failure := by rw [hlength]
  refine holds_mono (writeAllAt_took (by rw [hfailure, hsink])) ?_ (fun _ _ hfalse => hfalse)
  intro _ whole hwhole
  have hfailure' : whole.failure = sink.failure := by rw [hwhole, hfailure]
  refine holds_mono (writeAllAt_took (by rw [hfailure', hsink])) ?_ (fun _ _ hfalse => hfalse)
  intro _ flushed hflushed
  have hall := (hlength.trans hwhole).trans hflushed
  rw [append_nil] at hall
  exact hall

/-- A writer that takes everything takes the concatenation of the frames. -/
theorem writeRpcPayloads_took (payloads : List FramePayload) {sink : FrameSink Kind}
    (hsink : ∀ stage, sink.failure stage = none) :
    Holds (each writeRpcPayload (payloads.map (·.bytes))) sink
      (fun _ after => Took sink (frameStream payloads) after) (fun _ _ => False) := by
  induction payloads generalizing sink with
  | nil =>
    show Took sink [] sink
    unfold Took
    rw [append_nil]
  | cons payload payloads ih =>
    simp only [map_cons, each, holds_do]
    refine holds_mono (writeRpcPayload_took hsink) ?_ (fun _ _ hfalse => hfalse)
    intro _ next hnext
    have hfailure : ∀ stage, next.failure stage = none := by
      rw [hnext]
      exact hsink
    refine holds_mono (ih hfailure) ?_ (fun _ _ hfalse => hfalse)
    intro _ last hlast
    exact hnext.trans hlast

end Written

/-- However the written frames arrive, exactly the messages are read, and then the end; a stream that
ends inside a frame is an error after the whole messages; and a length over the limit is refused with
the payload still unread. -/
theorem framing_roundTrip (payloads : List FramePayload) :
    (∀ sink : FrameSink Kind, sink.written = [] → (∀ stage, sink.failure stage = none) →
      ∀ source : List (Arrival Kind), Steady source →
        pending source = (final (each writeRpcPayload (payloads.map (·.bytes))) sink).written →
        ∀ count, payloads.length < count → Parses (readFrames count) source (.ok (payloads.map (·.bytes))) []) ∧
    (∀ source : List (Arrival Kind), Steady source → ∀ taken, EndsInside payloads taken →
      pending source = (frameStream payloads).take taken →
      ∃ complete, complete <+: payloads ∧
        (∀ count ≤ complete.length, ∃ left,
          Parses (readFrames count) source (.ok ((complete.take count).map (·.bytes))) left) ∧
        ∃ error : FrameError Kind, error.Torn ∧
          ∀ count, complete.length < count → Parses (readFrames count) source (.error error) []) ∧
    ∀ source : List (Arrival Kind), Steady source → ∀ declared, maxWireMessageBytes < declared →
      declared ≤ u32Max → ∀ rest, pending source = toBeBytes frameLengthBytes declared ++ rest →
      Parses readRpcPayload source (.error (.payloadTooLarge declared maxWireMessageBytes)) rest := by
  refine ⟨?_, ?_, ?_⟩
  · intro sink hempty hsink source hsteady hpending count hcount
    have htook : (final (each writeRpcPayload (payloads.map (·.bytes))) sink).written =
        frameStream payloads := by
      refine holds_final (P := fun after => after.written = frameStream payloads)
        (holds_mono (writeRpcPayloads_took payloads hsink) ?_ (fun _ _ hfalse => hfalse.elim))
      intro _ after hafter
      rw [hafter, hempty]
      exact nil_append _
    have hstream : pending source = frameStream payloads ++ [] := by
      rw [hpending, htook, append_nil]
    have hend : ∀ next : List (Arrival Kind), Steady next → pending next = [] →
        Parses (readFrames ((count - payloads.length - 1) + 1)) next (.ok []) [] :=
      fun next hnext hnone => readFrames_end hnext hnone
    have hread := readFrames_stream hend payloads hsteady hstream
    have hsum : payloads.length + ((count - payloads.length - 1) + 1) = count := by omega
    rw [hsum] at hread
    show Parses (readFrames count) source (.ok (payloads.map (·.bytes))) []
    rw [← append_nil (payloads.map (·.bytes))]
    exact hread
  · intro source hsteady taken hinside hpending
    obtain ⟨complete, payload, rest, part, hsplit, hpos, hpart, htake⟩ := endsInside_split hinside
    rw [htake] at hpending
    refine ⟨complete, ⟨payload :: rest, hsplit.symm⟩, ?_, ?_⟩
    · intro count hcount
      have hstream : pending source = frameStream (complete.take count) ++
          (frameStream (complete.drop count) ++ payload.frame.take part) := by
        rw [hpending, ← append_assoc, ← frameStream_append, take_append_drop]
      have hread := readFrames_stream (fun _ hnext hleft => readFrames_zero hnext hleft)
        (complete.take count) hsteady hstream
      have hlength : (complete.take count).length + 0 = count := by
        rw [length_take]
        omega
      rw [hlength] at hread
      refine ⟨frameStream (complete.drop count) ++ payload.frame.take part, ?_⟩
      rw [← append_nil ((complete.take count).map (·.bytes))]
      exact hread
    obtain ⟨error, htorn, hparse⟩ : ∃ error : FrameError Kind, error.Torn ∧
        parseFrame (payload.frame.take part) = (.error error, []) :=
      parseFrame_torn payload hpos hpart
    refine ⟨error, htorn, ?_⟩
    intro count hcount
    have hend : ∀ next : List (Arrival Kind), Steady next →
        pending next = payload.frame.take part →
        Parses (readFrames ((count - complete.length - 1) + 1)) next (.error error) [] :=
      fun next hnext hleft => readFrames_torn hnext hleft hparse
    have hread := readFrames_stream hend complete hsteady hpending
    have hsum : complete.length + ((count - complete.length - 1) + 1) = count := by omega
    rw [hsum] at hread
    exact hread
  · intro source hsteady declared hlarge hbound rest hpending
    have hparse := readRpcPayload_parses hsteady
    have hheader : (toBeBytes frameLengthBytes declared).length = frameLengthBytes := toBeBytes_length _ _
    have hdeclared : fromBeBytes (toBeBytes frameLengthBytes declared) = declared := by
      apply fromBeBytes_toBeBytes
      unfold u32Max at hbound
      unfold frameLengthBytes
      omega
    have hlong : ¬ (toBeBytes frameLengthBytes declared ++ rest).length < frameLengthBytes := by
      rw [length_append, hheader]
      omega
    have hsome : toBeBytes frameLengthBytes declared ++ rest ≠ [] := by
      intro hempty
      rw [hempty] at hlong
      exact hlong (by decide)
    have hrefused : (parseFrame (pending source) : Except (FrameError Kind) _ × _) =
        (.error (.payloadTooLarge declared maxWireMessageBytes), rest) := by
      unfold parseFrame
      rw [hpending, if_neg hsome, if_neg hlong, take_left' hheader, drop_left' hheader]
      dsimp only
      rw [hdeclared, if_neg (by omega), if_pos hlarge]
    rw [hrefused] at hparse
    exact hparse

def samplePayloads : List FramePayload := [⟨[1, 2, 3], by decide, by decide⟩, ⟨[7], by decide, by decide⟩]

/-- The frames of the sample payloads, torn in a header and in a payload and interrupted. -/
def sampleStream : List (Arrival Empty) :=
  [.piece 0 [0], .interrupted, .piece 0 [3, 1], .piece 2 [3, 0, 0, 0, 1], .interrupted, .piece 7 []]

theorem framing_roundTrip_sample :
    Parses (readFrames 3) sampleStream (.ok [[1, 2, 3], [7]]) [] ∧
      ∃ error : FrameError Empty, error.Torn ∧ Parses (readFrames 3) (sampleStream.take 4) (.error error) [] := by
  have hsteady : ∀ count, Steady (sampleStream.take count) := fun _ error => error.elim
  have hstream : pending sampleStream = frameStream samplePayloads := by decide
  obtain ⟨hwhole, htorn, -⟩ := @framing_roundTrip Empty samplePayloads
  have hwritten : (final (each writeRpcPayload (samplePayloads.map (·.bytes)))
      (⟨[], fun _ => none⟩ : FrameSink Empty)).written = frameStream samplePayloads := by decide
  refine ⟨hwhole ⟨[], fun _ => none⟩ rfl (fun _ => rfl) _ (hsteady 6) (hstream.trans hwritten.symm) 3 (by decide), ?_⟩
  have hinside : EndsInside samplePayloads 11 := by
    have hbounds : ∀ count ≤ 2, (frameStream (samplePayloads.take count)).length ≠ 11 := by decide
    refine ⟨by decide, fun complete hprefix => ?_⟩
    rw [prefix_iff_eq_take.mp hprefix]
    exact hbounds _ hprefix.length_le
  obtain ⟨complete, hprefix, -, error, hkind, hfails⟩ := htorn _ (hsteady 4) 11 hinside (by decide)
  exact ⟨error, hkind, hfails 3 (Nat.lt_succ_of_le hprefix.length_le)⟩

end HyperfluxNext
