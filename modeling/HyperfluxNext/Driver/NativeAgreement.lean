import HyperfluxNext.Driver.NativeReport
import HyperfluxNext.Library.Lockstep
import HyperfluxNext.Profiles.NativeReportSpec

namespace HyperfluxNext

open Procedure XorSum NativeReport NativeKernel

def NativeReport.NativeRouteLane.slot : NativeRouteLane → Nat
  | .pointer => EndpointSlot.pointerLane
  | .keyboard => EndpointSlot.keyboardLane

variable {native : NativeReport.NativeExchangeRecord}

variable {report request response : List UInt8} {profile : HfxReceiverProfile}

theorem hfxNativeChecksum_entry (hlayout : Layout native) (hlength : report.length = native.reportBytes) :
    hfxNativeChecksum (receiverTableEntry native) report = native.reportFormat.checksum.compute report := by
  have hend : native.reportFormat.checksum.endOffsetExclusive ≤ report.length := by
    rw [hlength]
    exact hlayout.end_le
  exact foldl_positions hend

theorem hfxNativeChecksumValid_entry (hlayout : Layout native) (hlength : report.length = native.reportBytes) :
    hfxNativeChecksumValid (receiverTableEntry native) report = true ↔
      native.reportFormat.checksum.compute report =
        reportByte report native.reportFormat.checksum.resultOffset := by
  unfold hfxNativeChecksumValid
  rw [hfxNativeChecksum_entry hlayout hlength, decide_eq_true_iff]
  constructor
  · intro h
    exact h.2
  intro h
  exact ⟨rfl, h⟩

theorem hfxNativeRequestReportValid_entry (hprofile : validateNativeExchangeRecord native = .ok ())
    (hlength : report.length = native.reportBytes) :
    hfxNativeRequestReportValid (receiverTableEntry native) report = true ↔
      validateNativeRequest native report = .ok () := by
  have hlayout := validateNativeExchangeRecord_layout hprofile
  unfold hfxNativeRequestReportValid
  rw [decide_eq_true_iff, hfxNativeChecksumValid_entry hlayout hlength]
  constructor
  · intro h
    obtain ⟨hstatus, hprotocol, hsize, hchecksum, htrailer⟩ := h
    exact validateNativeRequest_of_valid hprofile
      ⟨⟨hprotocol, hsize, hchecksum, htrailer⟩, hlayout, hlength, hstatus⟩
  intro h
  have hvalid := validateNativeRequest_valid h
  exact ⟨hvalid.status, hvalid.protocolType, hvalid.dataSize, hvalid.checksum, hvalid.trailer⟩

theorem hfxNativeResponseReportValid_entry (hprofile : validateNativeExchangeRecord native = .ok ())
    (hlength : report.length = native.reportBytes) :
    hfxNativeResponseReportValid (receiverTableEntry native) report = true ↔
      validateNativeResponse native report = .ok () := by
  have hlayout := validateNativeExchangeRecord_layout hprofile
  unfold hfxNativeResponseReportValid
  rw [decide_eq_true_iff, hfxNativeChecksumValid_entry hlayout hlength]
  constructor
  · intro h
    obtain ⟨hminimum, hmaximum, hprotocol, hsize, hchecksum, htrailer⟩ := h
    exact validateNativeResponse_of_valid hprofile
      ⟨⟨hprotocol, hsize, hchecksum, htrailer⟩, hlayout, hlength, hminimum, hmaximum⟩
  intro h
  have hvalid := validateNativeResponse_valid h
  exact ⟨hvalid.minimum, hvalid.maximum, hvalid.protocolType, hvalid.dataSize, hvalid.checksum, hvalid.trailer⟩

theorem replaceSelector_entry (hlayout : Layout native) (hlength : report.length = native.reportBytes)
    (selector : UInt8) :
    replaceSelector (receiverTableEntry native) selector report = writeSelector native selector report := by
  have hset : (report.set native.reportFormat.transactionId.offset selector).length = native.reportBytes := by
    rw [List.length_set, hlength]
  by_cases hcovered : Covered native
  · rw [writeSelector_covered hcovered]
    unfold replaceSelector hfxNativeChecksumUpdate
    dsimp only
    rw [if_pos ⟨hcovered.1, hcovered.2⟩]
    show List.set _ _ (hfxNativeChecksum _ _) = _
    rw [← hfxNativeChecksum_entry hlayout hset]
    rfl
  rw [writeSelector_uncovered hcovered]
  unfold replaceSelector
  dsimp only
  rw [if_neg]
  · rfl
  intro h
  exact hcovered ⟨h.1, h.2⟩

theorem hfxNativeRouteSelector_entry (lane : NativeRouteLane) :
    hfxNativeRouteSelector (receiverTableEntry native) lane.slot =
      .ok (native.routeSelector.map (·.laneSelector lane)) := by
  unfold hfxNativeRouteSelector receiverTableEntry
  cases native.routeSelector with
  | none => rfl
  | some selector => cases lane <;> rfl

theorem receiverTableEntry_restores (hlayout : Layout native)
    {selector : NativeRouteSelectorRecord} (hselector : native.routeSelector = some selector) :
    (receiverTableEntry native).nativeRestoreOriginalResponse = true := by
  have hrestores := hlayout.restores selector hselector
  unfold receiverTableEntry
  rw [hselector]
  exact hrestores

/-- Both sides send the receiver the same bytes of a valid request, or both refuse it. -/
theorem hfxNativeRouteRequest_lockstep {lane : NativeRouteLane}
    (hvalid : validateNativeRequest native request = .ok ()) :
    Lockstep (hfxNativeRouteRequest (receiverTableEntry native) lane.slot)
      (routeNativeRequest native lane) request
      (fun routing rewrite routed => routing = (rewrite.applicationSelector, rewrite.translated) ∧
        routed.getD native.reportFormat.transactionId.offset 0 = rewrite.receiverSelector) := by
  have hprofile := validateNativeRequest_profile hvalid
  have hlayout := validateNativeExchangeRecord_layout hprofile
  have hlength := (validateNativeRequest_valid hvalid).length
  unfold hfxNativeRouteRequest routeNativeRequest
  apply lockstep_left (a := request) rfl
  apply lockstep_right (b := request) rfl
  apply lockstep_left (a := native.routeSelector.map (·.laneSelector lane))
  · rw [hfxNativeRouteSelector_entry]
    rfl
  apply lockstep_right (b := ())
  · rw [hvalid]
    rfl
  cases native.routeSelector with
  | none => exact lockstep_pure ⟨rfl, rfl⟩
  | some selector =>
    show Lockstep (ite (reportByte request native.reportFormat.transactionId.offset =
      selector.laneSelector lane) _ _) (ite _ _ _) _ _
    by_cases hsame : reportByte request native.reportFormat.transactionId.offset = selector.laneSelector lane
    · rw [if_pos hsame, if_pos hsame]
      exact lockstep_pure ⟨rfl, hsame⟩
    rw [if_neg hsame, if_neg hsame, replaceSelector_entry hlayout hlength]
    have hwritten : (writeSelector native (selector.laneSelector lane) request).length =
        native.reportBytes := by
      rw [writeSelector_length, hlength]
    apply lockstep_bind (R := fun _ _ t => t = writeSelector native (selector.laneSelector lane) request)
      (lockstep_set rfl)
    intro u v routed hrouted
    apply lockstep_bind (R := fun _ _ t => t = writeSelector native (selector.laneSelector lane) request)
    · apply lockstep_check
      · rw [not_not, hfxNativeRequestReportValid_entry hprofile hwritten]
      intro _
      exact hrouted
    intro u v routed hrouted
    rw [hrouted]
    exact lockstep_pure ⟨rfl, writeSelector_byte hlayout hlength _⟩

/-- Both sides give back the same bytes of a valid response, or both refuse it. -/
theorem hfxNativeRestoreResponse_lockstep {rewrite : NativeRouteRewrite}
    (hvalid : validateNativeResponse native response = .ok ())
    (hprofile : validateNativeExchangeRecord native = .ok ()) :
    Lockstep (hfxNativeRestoreResponse (receiverTableEntry native) rewrite.applicationSelector
        rewrite.receiverSelector rewrite.translated)
      (restoreNativeResponse native rewrite) response (fun _ _ _ => True) := by
  have hlayout := validateNativeExchangeRecord_layout hprofile
  have hlength := (validateNativeResponse_valid hvalid).length
  unfold hfxNativeRestoreResponse restoreNativeResponse
  apply lockstep_left (a := response) rfl
  apply lockstep_right (b := response) rfl
  apply lockstep_right (b := ())
  · rw [hvalid]
    rfl
  by_cases htranslated : rewrite.translated = false
  · rw [if_pos htranslated, if_pos htranslated]
    exact lockstep_pure trivial
  rw [if_neg htranslated, if_neg htranslated]
  cases hselector : native.routeSelector with
  | none =>
    have hrestores : (receiverTableEntry native).nativeRestoreOriginalResponse = false := by
      unfold receiverTableEntry
      rw [hselector]
      rfl
    rw [hrestores]
    exact lockstep_throw
  | some selector =>
    have hrestores := hlayout.restores selector hselector
    have hkernel := receiverTableEntry_restores hlayout hselector
    apply lockstep_bind (R := fun _ _ t => t = response)
    · apply lockstep_refuse
      · rw [hrestores, hkernel]
      intro _
      rfl
    intro _ _ t ht
    apply lockstep_bind (R := fun _ _ t => t = response)
    · apply lockstep_refuse
      · rfl
      intro _
      exact ht
    intro _ _ t ht
    rw [replaceSelector_entry hlayout hlength]
    apply lockstep_bind (R := fun _ _ _ => True) (lockstep_set trivial)
    intro _ _ t _
    have hwritten : (writeSelector native rewrite.applicationSelector response).length =
        native.reportBytes := by
      rw [writeSelector_length, hlength]
    apply lockstep_check
    · rw [not_not, hfxNativeResponseReportValid_entry hprofile hwritten]
    intro _
    trivial

theorem hfxNativeResponseMatches_entry (hvalid : validateNativeRequest native request = .ok ())
    (hlength : response.length = native.reportBytes) :
    hfxNativeResponseMatches (receiverTableEntry native) request response = true ↔
      nativeResponseMatches native request response = .ok true := by
  have hprofile := validateNativeRequest_profile hvalid
  rw [nativeResponseMatches_ok, ← hfxNativeResponseReportValid_entry hprofile hlength]
  have hranges : (receiverTableEntry native).ranges =
      native.matchRanges.map fun range => ⟨range.offset, range.length⟩ := by
    unfold HfxReceiverProfile.ranges receiverTableEntry
    apply List.take_of_length_le
    exact Nat.le_of_eq (List.length_map _)
  have hall : ((receiverTableEntry native).ranges.all fun range =>
      decide ((request.drop range.offset).take range.length =
        (response.drop range.offset).take range.length)) =
        rangesMatch native.matchRanges request response := by
    rw [hranges, List.all_map]
    unfold rangesMatch slice
    congr 1
    funext range
    simp only [Function.comp, Nat.add_sub_cancel_left]
  unfold hfxNativeResponseMatches
  rw [hall]
  constructor
  · intro h
    split at h
    · cases h
    next hresponse =>
      split at h
      · cases h
      next htransaction => exact ⟨hvalid, not_not.mp hresponse, not_not.mp htransaction, h⟩
  intro h
  obtain ⟨_, hresponse, hmatch⟩ := h
  have htransaction : ¬ (request.getD (receiverTableEntry native).nativeTransactionIdOffset 0 ^^^
      response.getD (receiverTableEntry native).nativeTransactionIdOffset 0) &&&
        (receiverTableEntry native).nativeTransactionIdMatchMask ≠ 0 :=
    not_not.mpr hmatch.transaction
  rw [if_neg (not_not.mpr hresponse), if_neg htransaction]
  exact hmatch.ranges

theorem generateReceiverProfile_entry (h : generateReceiverProfile native = some profile)
    : profile = receiverTableEntry native := by
  unfold generateReceiverProfile at h
  split at h
  · cases h
  · exact (Option.some.inj h).symm

theorem hfxNativeProfileValid_bytes (h : hfxNativeProfileValid profile = true)
    : profile.nativeReportBytes = hfxUapiNativeReportBytes := by
  unfold hfxNativeProfileValid at h
  split at h
  · cases h
  next hchecks => exact not_not.mp (not_or.mp (not_or.mp hchecks).2).1

/-- A routed exchange is repaired to what the caller asked, and the driver translates alike. -/
theorem nativeExchange_translation (native : NativeReport.NativeExchangeRecord)
    (hprofile : validateNativeExchangeRecord native = .ok ()) :
    (∀ lane request routed response restored rewrite,
      validateNativeRequest native request = .ok () →
      routeNativeRequest native lane request = .ok rewrite routed →
      nativeResponseMatches native routed response = .ok true →
      restoreNativeResponse native rewrite response = .ok () restored →
        nativeResponseMatches native request restored = .ok true ∧
          SameButSelector native request routed ∧ SameButSelector native response restored) ∧
    ∀ profile, generateReceiverProfile native = some profile → hfxNativeProfileValid profile = true →
      (∀ lane request, validateNativeRequest native request = .ok () →
        Lockstep (hfxNativeRouteRequest profile lane.slot) (routeNativeRequest native lane) request
          (fun routing rewrite routed => routing = (rewrite.applicationSelector, rewrite.translated) ∧
            routed.getD native.reportFormat.transactionId.offset 0 = rewrite.receiverSelector)) ∧
      (∀ request response, validateNativeRequest native request = .ok () →
        response.length = hfxUapiNativeReportBytes →
        (hfxNativeResponseMatches profile request response = true ↔
          nativeResponseMatches native request response = .ok true)) ∧
      ∀ rewrite response, response.length = hfxUapiNativeReportBytes →
        hfxNativeResponseReportValid profile response = true →
        Lockstep (hfxNativeRestoreResponse profile rewrite.applicationSelector
            rewrite.receiverSelector rewrite.translated)
          (restoreNativeResponse native rewrite) response (fun _ _ _ => True) := by
  constructor
  · intro lane request routed response restored rewrite _ hroute hmatches hrestore
    exact routeNativeRequest_restores hroute hmatches hrestore
  intro profile hgenerated haccepted
  have hentry := generateReceiverProfile_entry hgenerated
  subst hentry
  have hbytes : native.reportBytes = hfxUapiNativeReportBytes := hfxNativeProfileValid_bytes haccepted
  refine ⟨?_, ?_, ?_⟩
  · intro lane request hvalid
    exact hfxNativeRouteRequest_lockstep hvalid
  · intro request response hvalid hlength
    exact hfxNativeResponseMatches_entry hvalid (hlength.trans hbytes.symm)
  intro rewrite response hlength hresponse
  rw [hfxNativeResponseReportValid_entry hprofile (hlength.trans hbytes.symm)] at hresponse
  exact hfxNativeRestoreResponse_lockstep hresponse hprofile

def hyperfluxV2Exchange : NativeReport.NativeExchangeRecord where
  protocolFamily := "razer-feature-report-v1"
  reportBytes := 90
  maxResponseAttempts := 5
  reportFormat :=
    { requestStatus := ⟨0, 0⟩
      responseStatus := ⟨0, 1, 5⟩
      protocolType := ⟨4, 0⟩
      dataSize := ⟨5, 80⟩
      checksum := ⟨.xor8, 2, 88, 88⟩
      trailer := ⟨89, 0⟩
      transactionId := ⟨1, 255⟩ }
  routeSelector := some ⟨.transactionId, 31, 159, true⟩
  matchRanges := [⟨2, 2⟩, ⟨6, 2⟩]

def sampleReport (status selector : UInt8) : List UInt8 :=
  [status, selector, 0, 0, 0, 2, 15, 130] ++ List.replicate 80 0 ++ [143, 0]

theorem nativeExchange_translation_sample :
    (nativeResponseMatches hyperfluxV2Exchange (sampleReport 0 85) (sampleReport 2 85) = .ok true ∧
      SameButSelector hyperfluxV2Exchange (sampleReport 0 85) (sampleReport 0 159) ∧
      SameButSelector hyperfluxV2Exchange (sampleReport 2 159) (sampleReport 2 85)) ∧
    (hfxNativeResponseMatches (receiverTableEntry hyperfluxV2Exchange) (sampleReport 0 159)
        (sampleReport 2 159) = true ↔
      nativeResponseMatches hyperfluxV2Exchange (sampleReport 0 159) (sampleReport 2 159) = .ok true) :=
  ⟨(nativeExchange_translation hyperfluxV2Exchange (by decide +kernel)).1 .keyboard
      (sampleReport 0 85) (sampleReport 0 159) (sampleReport 2 159) (sampleReport 2 85) ⟨85, 159, true⟩
      (by decide +kernel) (by rfl) (by decide +kernel) (by rfl),
    ((nativeExchange_translation hyperfluxV2Exchange (by decide +kernel)).2
      (receiverTableEntry hyperfluxV2Exchange) (by decide +kernel) (by decide +kernel)).2.1
      (sampleReport 0 159) (sampleReport 2 159) (by decide +kernel) (by decide +kernel)⟩

/-- An untranslated response is handed on by the driver as it came, and checked by the library. -/
theorem nativeExchange_translation_unchecked :
    ¬ ∀ native profile lane request routed response rewrite,
      validateNativeExchangeRecord native = .ok () → generateReceiverProfile native = some profile →
      hfxNativeProfileValid profile = true → validateNativeRequest native request = .ok () →
      routeNativeRequest native lane request = .ok rewrite routed →
      response.length = hfxUapiNativeReportBytes →
        Lockstep (hfxNativeRestoreResponse profile rewrite.applicationSelector
            rewrite.receiverSelector rewrite.translated)
          (restoreNativeResponse native rewrite) response (fun _ _ _ => True) := by
  intro h
  exact h hyperfluxV2Exchange (receiverTableEntry hyperfluxV2Exchange) .keyboard (sampleReport 0 159)
    (sampleReport 0 159) (List.replicate 90 0) ⟨159, 159, false⟩ (by decide +kernel) (by decide +kernel)
    (by decide +kernel) (by decide +kernel) (by rfl) (by decide +kernel)

end HyperfluxNext
