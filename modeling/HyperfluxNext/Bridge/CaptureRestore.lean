import HyperfluxNext.Bridge.StableRuns
import HyperfluxNext.Restoration.FileStoreSpec
import HyperfluxNext.Restoration.Migration

namespace HyperfluxNext

open Procedure List

structure Reproduces (frame : LightingFrame) (intent : PersistedStableIntent) : Prop where
  slots : intent.applicationSlotCount.get = frame.colors.length
  lighting : validateCapture intent.lighting frame.colors = .ok ()

variable {frame : LightingFrame} {intent : PersistedStableIntent}

theorem Reproduces.rebound {old : PersistedStableIntent} (h : Reproduces frame old)
    (hrebound : Rebound old intent) : Reproduces frame intent := by
  refine ⟨?_, ?_⟩
  · rw [hrebound.slots]
    exact h.slots
  rw [hrebound.lighting]
  exact h.lighting

/-- An accepted frame has as many colours as its device has slots, and a bounded number of them. -/
theorem validateFramePayloads_frame {bindings : List DeviceProfileBinding} {frames : List LightingFrame}
    {count : Nat} (h : validateFramePayloads bindings frames count = .ok ()) (hframe : frame ∈ frames) :
    1 ≤ frame.colors.length ∧ frame.colors.length ≤ 4096 ∧
      ∀ binding, bindings.find? (·.deviceId = frame.deviceId) = some binding →
        binding.applicationSlotCount.get = frame.colors.length := by
  induction frames generalizing count with
  | nil => cases hframe
  | cons first frames ih =>
    unfold validateFramePayloads at h
    obtain ⟨_, hempty, h⟩ := bind_eq_ok h
    obtain ⟨_, hmany, h⟩ := bind_eq_ok h
    obtain ⟨_, _, h⟩ := bind_eq_ok h
    split at h
    · cases h
    next binding hbinding =>
      obtain ⟨_, hslots, h⟩ := bind_eq_ok h
      obtain hfirst | hlater := mem_cons.mp hframe
      · subst hfirst
        have hpos := length_pos_iff.mpr (reject_eq_ok hempty)
        refine ⟨hpos, Nat.not_lt.mp (reject_eq_ok hmany), fun other hother => ?_⟩
        obtain rfl : other = binding := Option.some.inj (hother.symm.trans hbinding)
        exact not_not.mp (reject_eq_ok hslots)
      · exact ih h hlater

theorem validateTransaction_payload {request : TransactionRequest} (h : validateTransaction request = .ok ())
    (hframe : frame ∈ request.frames) :
    1 ≤ frame.colors.length ∧ frame.colors.length ≤ 4096 ∧
      ∀ binding, request.deviceProfiles.find? (·.deviceId = frame.deviceId) = some binding →
        binding.applicationSlotCount.get = frame.colors.length := by
  unfold validateTransaction at h
  obtain ⟨_, _, h⟩ := bind_eq_ok h
  obtain ⟨_, _, h⟩ := bind_eq_ok h
  obtain ⟨_, _, h⟩ := bind_eq_ok h
  obtain ⟨_, _, h⟩ := bind_eq_ok h
  obtain ⟨_, hpayloads, _⟩ := bind_eq_ok h
  exact validateFramePayloads_frame hpayloads hframe

variable {record : RestoreRecord}

section Rebuild

theorem validateTransaction_single {request : TransactionRequest} {binding : DeviceProfileBinding}
    {colors : List RgbColor} {index : FrameIndex} (hindex : index.get = 0)
    (hclass : request.transactionClass = .restore) (hintents : request.stableIntents = [])
    (hresources : request.resources = [⟨request.receiverId, request.generationId, binding.deviceId, .lighting⟩])
    (hbindings : request.deviceProfiles = [binding])
    (hframes : request.frames = [⟨binding.deviceId, index, colors⟩])
    (hslots : binding.applicationSlotCount.get = colors.length) (hpos : 1 ≤ colors.length)
    (hbound : colors.length ≤ 4096) : validateTransaction request = .ok () := by
  have hresource : validateResources request.resources = .ok () := by
    rw [hresources]
    simp [validateResources, reject, anyWindowUnordered, bind, Except.bind]
  have hscope : validateTransactionScope request = .ok () := by
    simp [validateTransactionScope, reject, hclass, hresources, bind, Except.bind]
  have htopology : validateFrameTopology request = .ok [binding.deviceId] := by
    simp [validateFrameTopology, reject, hframes, hindex, bind, Except.bind, pure, Except.pure]
  have hprofiles : validateProfileBindings request [binding.deviceId] = .ok () := by
    have hnonzero : ¬ binding.applicationSlotCount.get = 0 := by omega
    simp [validateProfileBindings, reject, hbindings, hnonzero, anyWindowUnordered, bind, Except.bind]
  have hpayloads : validateFramePayloads request.deviceProfiles request.frames 0 = .ok () := by
    have hnonempty : colors ≠ [] := length_pos_iff.mp hpos
    have hmany : ¬ 4096 < colors.length := by omega
    have haggregate : ¬ 16384 < colors.length := by omega
    simp [validateFramePayloads, reject, hframes, hbindings, hnonempty, hmany, haggregate, hslots, bind,
      Except.bind, pure, Except.pure]
  have hstable : validateStableIntents request [binding.deviceId] = .ok () := by
    simp [validateStableIntents, reject, hclass, hintents]
  have hcoverage : validateResourceCoverage request [binding.deviceId] = .ok () := by
    simp [validateResourceCoverage, reject, hframes, hresources, bind, Except.bind]
  unfold validateTransaction
  simp only [bind, Except.bind, hresource, hscope, htopology, hprofiles, hpayloads, hstable, hcoverage]

theorem utf8ByteSize_repr {n k : Nat} (h : n < 10 ^ (k + 1)) : n.repr.utf8ByteSize ≤ k + 1 := by
  have hdigit : ∀ d < 10, (Nat.digitChar d).utf8Size = 1 := by decide
  induction k generalizing n with
  | zero => rw [Nat.repr_of_lt (by omega), String.utf8ByteSize_singleton, hdigit n (by omega)]
  | succ k ih =>
    by_cases hsmall : n < 10
    · rw [Nat.repr_of_lt hsmall, String.utf8ByteSize_singleton, hdigit n hsmall]
      omega
    have hquotient : n / 10 < 10 ^ (k + 1) := by
      have hpow : 10 ^ (k + 1 + 1) = 10 * 10 ^ (k + 1) := Nat.pow_succ'
      omega
    have hrest := ih hquotient
    rw [Nat.repr_of_ge (by omega), String.utf8ByteSize_append, String.utf8ByteSize_singleton,
      hdigit (n % 10) (by omega)]
    omega

theorem typedId_fits (idPrefix suffix : String) (h : idPrefix.utf8ByteSize + 1 + suffix.utf8ByteSize ≤ 128) :
    ∃ id : Text 1 128, typedId idPrefix suffix = .ok id ∧ id.asStr = idPrefix ++ "-" ++ suffix := by
  have hsize : (idPrefix ++ "-" ++ suffix).utf8ByteSize = idPrefix.utf8ByteSize + 1 + suffix.utf8ByteSize := by
    rw [String.utf8ByteSize_append, String.utf8ByteSize_append]
    rfl
  have hfits : 1 ≤ (idPrefix ++ "-" ++ suffix).utf8ByteSize ∧
      (idPrefix ++ "-" ++ suffix).utf8ByteSize ≤ 128 := by omega
  unfold typedId Text.tryFrom
  rw [dif_pos hfits]
  exact ⟨_, rfl, rfl⟩

variable [RestorationDigests]

/-- The claim of a valid record is named by a digest, which leaves room for the names of its
attempts. -/
theorem attemptSuffix_size (h : validateRecord record = .ok ()) (number : RestoreAttemptNumber)
    : (attemptSuffix record.claimId number).utf8ByteSize ≤ 83 := by
  have hclaim : record.claimId.asStr.utf8ByteSize = 72 := by
    unfold validateRecord at h
    obtain ⟨_, _, h⟩ := bind_eq_ok h
    obtain ⟨claimId, hnamed, h⟩ := bind_eq_ok h
    obtain ⟨_, hsame, _⟩ := bind_eq_ok h
    rw [← not_not.mp (reject_eq_ok hsame)]
    unfold claimIdForRecord claimIdFromIdentity at hnamed
    generalize RestorationDigests.claimDigest _ = digest at hnamed
    have hdigest : digest.asStr.utf8ByteSize = 64 := Nat.le_antisymm digest.upper digest.lower
    have hprefixed : "restore".utf8ByteSize = 7 := by decide
    obtain ⟨id, hid, hname⟩ := typedId_fits "restore" digest.asStr (by omega)
    cases hid.symm.trans hnamed
    rw [hname, String.utf8ByteSize_append, String.utf8ByteSize_append, hdigest, hprefixed]
    rfl
  have hnumber : number.get.repr.utf8ByteSize ≤ 10 := by
    have hbound : number.get ≤ 4294967295 := number.upper
    exact utf8ByteSize_repr (by omega)
  unfold attemptSuffix
  rw [String.utf8ByteSize_append, String.utf8ByteSize_append, hclaim]
  show 72 + "-".utf8ByteSize + number.get.repr.utf8ByteSize ≤ 83
  have hdash : "-".utf8ByteSize = 1 := by decide
  omega

omit [RestorationDigests] in
/-- The colours an intent stands for. -/
theorem lightingColors_reproduces (h : Reproduces frame intent) (hpos : 1 ≤ frame.colors.length) :
    lightingColors intent = .ok frame.colors := by
  obtain ⟨hslots, hlighting⟩ := h
  unfold lightingColors
  dsimp only
  rw [if_neg (by omega)]
  cases hsaved : intent.lighting with
  | off =>
    rw [hsaved] at hlighting
    have hblack : frame.colors.all isBlack = true := by simpa using reject_eq_ok hlighting
    refine congrArg Except.ok ?_
    rw [hslots]
    refine (eq_replicate_iff.mpr ⟨rfl, fun color hcolor => ?_⟩).symm
    have hzero := all_eq_true.mp hblack color hcolor
    unfold isBlack at hzero
    obtain ⟨hred, hgreen, hblue⟩ := of_decide_eq_true hzero
    obtain ⟨⟨red, _, _⟩, ⟨green, _, _⟩, ⟨blue, _, _⟩⟩ := color
    dsimp only at hred hgreen hblue
    subst hred hgreen hblue
    rfl
  | «static» colors =>
    rw [hsaved] at hlighting
    have hsame : colors = frame.colors := not_not.mp (reject_eq_ok hlighting)
    dsimp only
    rw [if_pos (by rw [hsame, hslots]), hsame]

/-- The attempt built from the intent is an accepted request for the frame's colours. -/
theorem buildAttempt_reproduces (hrecord : validateRecord record = .ok ()) (h : Reproduces frame intent)
    (hpos : 1 ≤ frame.colors.length) (hbound : frame.colors.length ≤ 4096) (authority : RestorationAuthority)
    (number : RestoreAttemptNumber) :
    ∃ attempt, buildAttempt record intent authority number = .ok attempt ∧
      validateTransaction attempt.request = .ok () ∧
      attempt.request.receiverId = record.receiverId ∧
      attempt.request.generationId = record.generationId ∧
      attempt.request.frames = [⟨record.deviceId, .lit 0, frame.colors⟩] := by
  have hsize := attemptSuffix_size hrecord number
  have hsizes : "restore-tx".utf8ByteSize = 10 ∧ "restore-lease-request".utf8ByteSize = 21 ∧
      "restore-request".utf8ByteSize = 15 ∧ "restore-lease".utf8ByteSize = 13 := by decide
  obtain ⟨htx, hleaseRequest, hrequest, hlease⟩ := hsizes
  obtain ⟨transactionId, htransactionId, _⟩ := typedId_fits "restore-tx"
    (attemptSuffix record.claimId number) (by omega)
  obtain ⟨leaseRequestId, hleaseRequestId, _⟩ := typedId_fits "restore-lease-request"
    (attemptSuffix record.claimId number) (by omega)
  obtain ⟨requestId, hrequestId, _⟩ := typedId_fits "restore-request"
    (attemptSuffix record.claimId number) (by omega)
  obtain ⟨leaseId, hleaseId, _⟩ := typedId_fits "restore-lease" (attemptSuffix record.claimId number) (by omega)
  have hvalid : validateTransaction ⟨requestId, transactionId, authority.clientId, leaseId,
      record.receiverId, record.generationId, intent.receiverProfileId, intent.receiverProfileDigest,
      [⟨record.deviceId, intent.profileId, intent.profileDigest, intent.applicationSlotCount⟩],
      .restore, [], authority.deadlineMs,
      [lightingResource record.receiverId record.generationId record.deviceId],
      [⟨record.deviceId, .lit 0, frame.colors⟩]⟩ = .ok () :=
    validateTransaction_single rfl rfl rfl rfl rfl rfl h.slots hpos hbound
  unfold buildAttempt canonicalRequestDigest
  simp only [lightingColors_reproduces h hpos, htransactionId, hleaseRequestId, hrequestId, hleaseId,
    hvalid, bind, Except.bind, Except.mapError, pure, Except.pure]
  exact ⟨_, rfl, hvalid, rfl, rfl, rfl⟩

end Rebuild

section Capture

variable [RestorationDigests] {entries : List PersistedStableEntry}

omit [RestorationDigests] in
theorem find_of_distinct {entry : PersistedStableEntry} {deviceId : LogicalDeviceId}
    (h : entries.find? (·.deviceId = deviceId) = some entry) :
    entry ∈ entries ∧ entry.deviceId = deviceId :=
  ⟨mem_of_find?_eq_some h, by simpa using find?_some h⟩

variable {request : TransactionRequest} {terminal : TransactionTerminal} {capturedAt : WallClockUnixMs}
  {captures : List StableIntentCapture}

/-- What one frame leaves: the stored intent that it repeats, or the change that stores it. -/
theorem captureFrame_reproduces {capture : FrameCapture} (hvalid : validateTransaction request = .ok ())
    (hframe : frame ∈ request.frames) (hentries : ∀ entry ∈ entries, entry.receiverId = request.receiverId)
    (h : captureFrame request terminal captures entries capturedAt frame = .ok capture) :
    Reproduces frame capture.intent ∧ capture.intent.receiverId = request.receiverId ∧
      capture.intent.deviceId = frame.deviceId ∧
      (.present capture.intent ∈ entries ∨
        ∃ revision, capture.change? = some ⟨revision, .present capture.intent⟩) := by
  unfold captureFrame at h
  split at h
  · cases h
  next found _ =>
    obtain ⟨_, hlighting, h⟩ := bind_eq_ok h
    split at h
    · cases h
    next binding hbinding =>
      obtain ⟨revision, _, h⟩ := bind_eq_ok h
      have hslots := (validateTransaction_payload hvalid hframe).2.2 binding hbinding
      have hmade : Reproduces frame
          (capturedIntent request terminal capturedAt frame binding found.lighting revision) :=
        ⟨hslots, hlighting⟩
      unfold settleFrame at h
      split at h
      next existing hcurrent =>
        obtain ⟨hmem, hdevice⟩ := find_of_distinct hcurrent
        split at h
        · split at h
          next hexact =>
            cases h
            unfold exactReplay at hexact
            obtain ⟨_, _, _, _, _, _, hcount, _, hsame⟩ := of_decide_eq_true hexact
            refine ⟨⟨?_, ?_⟩, hentries _ hmem, hdevice, .inl hmem⟩
            · show existing.applicationSlotCount.get = frame.colors.length
              rw [hcount]
              exact hmade.slots
            show validateCapture existing.lighting frame.colors = .ok ()
            rw [hsame]
            exact hmade.lighting
          · cases h
        cases h
        exact ⟨hmade, rfl, rfl, .inr ⟨_, rfl⟩⟩
      · cases h
        exact ⟨hmade, rfl, rfl, .inr ⟨_, rfl⟩⟩
      · cases h
        exact ⟨hmade, rfl, rfl, .inr ⟨_, rfl⟩⟩

variable {T : Type}

structure CapturesLighting (request : TransactionRequest) (intents : List PersistedStableIntent)
    (s s' : RestorationState T) : Prop where
  valid : validateTransaction request = .ok ()
  core : s'.core = s.core
  distinct : OneEntryEach s'
  frames : ∀ frame ∈ request.frames, ∃ intent ∈ intents, Saved s' intent ∧
    intent.receiverId = request.receiverId ∧ intent.deviceId = frame.deviceId ∧ Reproduces frame intent

theorem commitStableTransaction_captures {s : RestorationState T} (h : OneEntryEach s) :
    Holds (commitStableTransaction request terminal captures capturedAt) s
      (fun intents s' => CapturesLighting request intents s s') (fun _ _ => True) := by
  simp only [commitStableTransaction, holds_do]
  refine ⟨fun _ _ => ⟨fun _ hvalid => ⟨fun captures _ => ⟨fun entries hentries =>
    ⟨fun frames hframes => ?_, fun _ _ => trivial⟩, fun _ _ => trivial⟩, fun _ _ => trivial⟩,
    fun _ _ => trivial⟩, fun _ _ => trivial⟩
  have hown : ∀ entry ∈ entries, entry.receiverId = request.receiverId :=
    fun entry hentry => ((loaded_entry hentries).mp hentry).2
  have hstored : ∀ intent, .present intent ∈ entries → Saved s intent :=
    fun intent hmem => saved_of_loaded hentries hmem
  split
  next hreplayed =>
    simp only [holds_do]
    refine ⟨fun _ => trivial, fun hnone => ⟨hvalid, rfl, h, fun frame hframe => ?_⟩⟩
    obtain ⟨capture, hcapture, hmade⟩ := mapM_ok_image hframes frame hframe
    obtain ⟨hlight, hreceiver, hdevice, hkept | ⟨revision, hchange⟩⟩ :=
      captureFrame_reproduces hvalid hframe hown hmade
    · exact ⟨_, mem_map_of_mem hcapture, hstored _ hkept, hreceiver, hdevice, hlight⟩
    have hmem := mem_filterMap.mpr ⟨capture, hcapture, hchange⟩
    rw [not_not.mp hnone] at hmem
    cases hmem
  next hfresh =>
    simp only [holds_do]
    refine holds_mono (saveStableEntries_overlaid h) ?_ (fun _ _ _ => trivial)
    intro _ s' hs
    refine ⟨hvalid, hs.core, hs.distinct, fun frame hframe => ?_⟩
    obtain ⟨capture, hcapture, hmade⟩ := mapM_ok_image hframes frame hframe
    obtain ⟨hlight, hreceiver, hdevice, _⟩ := captureFrame_reproduces hvalid hframe hown hmade
    refine ⟨_, mem_map_of_mem hcapture, ?_, hreceiver, hdevice, hlight⟩
    refine (hs.entries _).mpr (.inl ?_)
    have hchanged : ∃ revision, capture.change? = some ⟨revision, .present capture.intent⟩ := by
      cases capture with
      | replayed existing => exact absurd (any_eq_true.mpr ⟨_, hcapture, rfl⟩) hfresh
      | change revision intent => exact ⟨revision, rfl⟩
    obtain ⟨revision, hchange⟩ := hchanged
    have hmem := mem_filterMap.mpr ⟨capture, hcapture, hchange⟩
    exact mem_map.mpr ⟨_, (sortBy_perm _ _ _).mem_iff.mpr hmem, rfl⟩

theorem commitDeclaredStableTransaction_captures {s : RestorationState T} (h : OneEntryEach s) :
    Holds (commitDeclaredStableTransaction request terminal capturedAt) s
      (fun outcome s' => ∀ intents, outcome = .captured intents →
        CapturesLighting request intents s s') (fun _ _ => True) := by
  unfold commitDeclaredStableTransaction
  split
  · exact fun _ hnone => (by cases hnone)
  simp only [holds_do]
  refine ⟨fun _ _ => ⟨fun captures _ => ?_, fun _ _ => trivial⟩, fun _ _ => trivial⟩
  refine holds_post (commitStableTransaction_captures h) ?_
  intro intents s' hs _ hsame
  cases hsame
  exact hs

end Capture

section Later

variable {T : Type} [ReceiverTransport T] [RestorationDigests]

def BackendStep.sends (step : BackendStep T) (s : RestorationState T) : List StableWrite :=
  match step.op with
  | .dispatchNext now ports preparedAt _ => sentNext now ports preparedAt (step.enter s)
  | .crashDispatched now ports preparedAt _ => sentNext now ports preparedAt (step.enter s)
  | _ => []

/-- What comes after a capture: calls on the backend that send no other static lighting to the
device, and stores opened again on the bytes they were written as. -/
inductive BackendLater [DocumentCodec] (receiverId : ReceiverId) (deviceId : LogicalDeviceId)
    (start : RestorationState T) : RestorationState T → Prop
  | start : BackendLater receiverId deviceId start start
  | step {s : RestorationState T} (step : BackendStep T)
      (before : BackendLater receiverId deviceId start s)
      (others : ∀ write ∈ step.sends s, write.covers receiverId deviceId = false) :
      BackendLater receiverId deviceId start (step.run ⟨s, []⟩).state
  | reopen {s : RestorationState T} {config : FilePersistenceConfig} {bytes : List UInt8}
      {faults : List (Option PersistenceIoStage)} {opened : OpenStore}
      (before : BackendLater receiverId deviceId start s)
      (written : DocumentCodec.toVec bridgePersistenceSchema s.store.document = some bytes)
      (opens : openWithCommitter config (some bytes) faults = .ok opened) :
      BackendLater receiverId deviceId start
        { s with store := ⟨config.maxReceivers, opened.document, s.store.commits⟩ }

theorem BackendStep.run_sends (step : BackendStep T) (run : BackendRun T) (h : IntentsChecked run.state) :
    Settles (step.sends run.state) (step.enter run.state) (step.run run).state := by
  have hchecked := (step.enter_rebinds h).checked
  unfold BackendStep.run BackendStep.sends
  dsimp only
  cases step.op with
  | queue op => exact op.call_settles hchecked
  | dispatchNext => exact backendDispatchNext_settles hchecked
  | crashPrepared => exact (holds_final (prepareNext_settles hchecked)).restarted _
  | crashDispatched => exact (prepareAndSend_settles hchecked).restarted _
  | planRestore => exact (planRestore_framed _ _).settles hchecked
  | rebind => exact (migrateCompatibleStableIntents_framed _ _ _).settles hchecked
  | advanceClaim => exact (advanceClaim_framed _ _ _ _).settles hchecked
  | dispatchClaim => exact (dispatchClaim_framed _ _ _).settles hchecked
  | retireGeneration => exact (retireGeneration_framed _ _ _).settles hchecked
  | restart capacity => exact (Rebinds.refl hchecked).settles.restarted capacity

theorem backendReach_checked {ok : RestorationState T → BackendStep T → Prop} {run : BackendRun T}
    (h : BackendReach ok run) : IntentsChecked run.state := by
  induction h with
  | start s capacity coordinator entries =>
    refine ⟨entries, fun queued hqueued => ?_⟩
    rw [(new_safe coordinator).1] at hqueued
    cases hqueued
  | @step run step _ _ ih => exact (step.run_sends run ih).checked

section
omit [ReceiverTransport T] [RestorationDigests]

def HoldsLighting (receiverId : ReceiverId) (frame : LightingFrame) (s : RestorationState T) : Prop :=
  ∀ intent, Saved s intent → intent.receiverId = receiverId → intent.deviceId = frame.deviceId →
    Reproduces frame intent

theorem CapturesLighting.holdsLighting {request : TransactionRequest} {intents : List PersistedStableIntent}
    {s s' : RestorationState T} (h : CapturesLighting request intents s s') (hframe : frame ∈ request.frames)
    : HoldsLighting request.receiverId frame s' := by
  intro intent hsaved hreceiver hdevice
  obtain ⟨captured, _, hstored, hreceiver', hdevice', hlight⟩ := h.frames frame hframe
  have hkey : entryKey (.present intent) = entryKey (.present captured) := by
    show (intent.receiverId, intent.deviceId) = (captured.receiverId, captured.deviceId)
    rw [hreceiver, hdevice, hreceiver', hdevice']
  have hsame := inj_on_of_nodup_map h.distinct hsaved hstored hkey
  cases hsame
  exact hlight

end

theorem backendLater_holdsLighting [DocumentCodec] {receiverId : ReceiverId} {start later : RestorationState T}
    (h : BackendLater receiverId frame.deviceId start later) (hchecked : IntentsChecked start)
    (hlight : HoldsLighting receiverId frame start) :
    IntentsChecked later ∧ HoldsLighting receiverId frame later := by
  induction h with
  | start => exact ⟨hchecked, hlight⟩
  | @step s step _ others ih =>
    obtain ⟨hchecked, hlight⟩ := ih
    have hsettles := step.run_sends ⟨s, []⟩ hchecked
    refine ⟨hsettles.checked, fun intent hsaved hreceiver hdevice => ?_⟩
    obtain ⟨⟨old, hold, hrebound⟩, _⟩ | ⟨write, hsent, hcaptured⟩ := hsettles.saved intent hsaved
    · refine Reproduces.rebound (hlight old hold ?_ ?_) hrebound
      · exact hrebound.receiver.symm.trans hreceiver
      · exact hrebound.device.symm.trans hdevice
    have hcovers := hcaptured.covers
    have hmem : write ∈ step.sends s := by
      rw [show step.sends s = [write] from hsent]
      exact mem_singleton.mpr rfl
    rw [hreceiver, hdevice, others write hmem] at hcovers
    cases hcovers
  | @reopen s config bytes faults opened _ written opens ih =>
    obtain ⟨hchecked, hlight⟩ := ih
    have hload := (openWithCommitter_ok opens).2.1
    have hread := DocumentCodec.fromSlice_toVec _ _ _ written
    have hsame : opened.document = s.store.document := by
      unfold loadDocument at hload
      dsimp only at hload
      rw [hread] at hload
      split at hload
      · cases hload
      · exact (congrArg Prod.snd (Except.ok.inj hload)).symm
    refine ⟨⟨?_, hchecked.queue⟩, fun intent hsaved => hlight intent ?_⟩
    · show (opened.document.stableEntries.map entryKey).Nodup
      rw [hsame]
      exact hchecked.distinct
    have hsaved : .present intent ∈ opened.document.stableEntries := hsaved
    rw [hsame] at hsaved
    exact hsaved

omit [ReceiverTransport T] in
theorem currentIntent_saved {s : RestorationState T} (h : currentIntent record s.store = .ok (some intent)) :
    Saved s intent ∧ intent.receiverId = record.receiverId ∧ intent.deviceId = record.deviceId := by
  unfold currentIntent at h
  obtain ⟨entries, hentries, h⟩ := bind_eq_ok h
  have hfound : entries.findSome? _ = some intent := Except.ok.inj h
  obtain ⟨entry, hentry, hmatch⟩ := exists_of_findSome?_eq_some hfound
  cases entry with
  | deleted tombstone => cases hmatch
  | present found =>
    dsimp only at hmatch
    split at hmatch
    next hmatches =>
      cases hmatch
      obtain ⟨hstored, hreceiver⟩ := (loaded_entry hentries).mp hentry
      exact ⟨hstored, hreceiver, hmatches.1⟩
    · cases hmatch

/-- What a definitive static lighting transaction set on a device is what a restore of the captured
intent sends to it, whatever the backend did in between. -/
theorem backendReach_capture_restores [DocumentCodec]
    {ok : RestorationState T → BackendStep T → Prop} {run : BackendRun T} (hrun : BackendReach ok run)
    {request : TransactionRequest} {terminal : TransactionTerminal} {capturedAt : WallClockUnixMs}
    {intents : List PersistedStableIntent}
    (hcapture : answer (commitDeclaredStableTransaction request terminal capturedAt) run.state =
      .ok (.captured intents)) :
    ∀ frame ∈ request.frames,
      (∃ intent ∈ intents, intent.deviceId = frame.deviceId ∧
        Saved (final (commitDeclaredStableTransaction request terminal capturedAt) run.state) intent) ∧
      ∀ later, BackendLater request.receiverId frame.deviceId
          (final (commitDeclaredStableTransaction request terminal capturedAt) run.state) later →
        ∀ record, validateRecord record = .ok () → record.receiverId = request.receiverId →
          record.deviceId = frame.deviceId →
          ∀ intent, currentIntent record later.store = .ok (some intent) →
            ∀ authority number, ∃ attempt, buildAttempt record intent authority number = .ok attempt ∧
              validateTransaction attempt.request = .ok () ∧
              attempt.request.receiverId = record.receiverId ∧
              attempt.request.generationId = record.generationId ∧
              attempt.request.frames = [⟨frame.deviceId, .lit 0, frame.colors⟩] := by
  have hchecked := backendReach_checked hrun
  have hcaptures := holds_of_answer (commitDeclaredStableTransaction_captures hchecked.distinct)
    hcapture intents rfl
  intro frame hframe
  obtain ⟨intent, hintent, hsaved, _, hdevice, _⟩ := hcaptures.frames frame hframe
  refine ⟨⟨intent, hintent, hdevice, hsaved⟩, ?_⟩
  intro later hlater record hrecord hreceiver hrecordDevice current hcurrent authority number
  have hstart : IntentsChecked
      (final (commitDeclaredStableTransaction request terminal capturedAt) run.state) := by
    refine ⟨hcaptures.distinct, ?_⟩
    rw [hcaptures.core]
    exact hchecked.queue
  obtain ⟨_, hlight⟩ := backendLater_holdsLighting hlater hstart (hcaptures.holdsLighting hframe)
  obtain ⟨hstored, hcurrentReceiver, hcurrentDevice⟩ := currentIntent_saved hcurrent
  have hreproduces := hlight current hstored (hcurrentReceiver.trans hreceiver)
    (hcurrentDevice.trans hrecordDevice)
  obtain ⟨hpos, hbound, _⟩ := validateTransaction_payload hcaptures.valid hframe
  have hbuilt := buildAttempt_reproduces hrecord hreproduces hpos hbound authority number
  rw [hrecordDevice] at hbuilt
  exact hbuilt

end Later

def redRequest : TransactionRequest :=
  { sampleStatic (.lit "paint") with
    stableIntents := [⟨sampleKeyboard.deviceId, .static⟩]
    frames := [⟨sampleKeyboard.deviceId, .lit 0,
      [⟨.lit 255, .lit 0, .lit 0⟩]⟩] }

def redTerminal : TransactionTerminal :=
  ⟨redRequest.requestId, sampleDigest, redRequest.transactionId, redRequest.receiverId,
    redRequest.generationId, .succeeded, .lit 1, .lit 1,
    .committed, true, false, .unverified, .lit 1, none, none⟩

def redStart : BackendRun FixedTransport := ⟨sampleStart FixedTransport deliveringTransport, []⟩

def redIntent : PersistedStableIntent :=
  { sampleIntent with
    deviceId := sampleKeyboard.deviceId
    sourceTransactionId := redRequest.transactionId
    lighting := .static [⟨.lit 255, .lit 0, .lit 0⟩] }

def redRecord : RestoreRecord :=
  ⟨currentSchemaVersion, sampleClaim, sampleTrigger.triggerId, .deviceReturn, redRequest.receiverId,
    redRequest.generationId, sampleKeyboard.deviceId, redIntent.revision, redIntent.contentDigest,
    .lit 1, none, .planned⟩

theorem backendReach_capture_restores_sample :
    letI := sampleRestorationDigests
    ∃ attempt, buildAttempt redRecord redIntent (sampleAuthority sampleNonce) (.lit 1) =
        .ok attempt ∧
      validateTransaction attempt.request = .ok () ∧
      attempt.request.receiverId = redRecord.receiverId ∧
      attempt.request.generationId = redRecord.generationId ∧
      attempt.request.frames = redRequest.frames := by
  let _ := sampleRestorationDigests
  let _ := sampleCodec
  have hstart : BackendReach (fun _ _ => True) redStart := .start _ 1 rfl nodup_nil
  have hcapture : answer (commitDeclaredStableTransaction redRequest redTerminal
      (.lit 0)) redStart.state = .ok (.captured [redIntent]) := by decide +kernel
  obtain ⟨_, hlater⟩ := backendReach_capture_restores hstart hcapture _ mem_cons_self
  refine hlater _ (.step (lightStep keyboardLeases (.restart 1)) .start fun _ hmem => by cases hmem)
    redRecord (by decide +kernel) rfl rfl redIntent (by decide +kernel) _ _

end HyperfluxNext
