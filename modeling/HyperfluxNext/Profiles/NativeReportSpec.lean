import HyperfluxNext.Profiles.NativeReport

namespace HyperfluxNext

open Procedure XorSum List

namespace NativeReport

theorem reject_ok {ε : Type} {c : Prop} [Decidable c] {e : ε} : reject c e = .ok () ↔ ¬ c :=
  ⟨reject_eq_ok, reject_of_not⟩

theorem bind_ok {ε : Type} {r s : Except ε Unit} : (do r; s) = .ok () ↔ r = .ok () ∧ s = .ok () := by
  constructor
  · intro h
    obtain ⟨u, hu, hs⟩ := bind_eq_ok h
    exact ⟨hu, hs⟩
  intro h
  show (r >>= fun _ => s) = .ok ()
  rw [h.1]
  exact h.2

variable {profile : NativeExchangeRecord}

/-- Where the fields of a report stand, as far as the checks of a profile promise it. -/
structure Layout (profile : NativeExchangeRecord) : Prop where
  selector_lt : profile.reportFormat.transactionId.offset < profile.reportBytes
  result_lt : profile.reportFormat.checksum.resultOffset < profile.reportBytes
  end_le : profile.reportFormat.checksum.endOffsetExclusive ≤ profile.reportBytes
  result_outside : profile.reportFormat.checksum.resultOffset < profile.reportFormat.checksum.startOffset ∨
    profile.reportFormat.checksum.endOffsetExclusive ≤ profile.reportFormat.checksum.resultOffset
  restores : ∀ selector, profile.routeSelector = some selector → selector.restoreOriginalResponse = true

theorem validateNativeExchangeRecord_layout (h : validateNativeExchangeRecord profile = .ok ()) :
    Layout profile := by
  unfold validateNativeExchangeRecord at h
  obtain ⟨hfields, h⟩ := bind_ok.mp h
  obtain ⟨hselector, _⟩ := bind_ok.mp h
  have hfields := reject_ok.mp hfields
  have hselector := reject_ok.mp hselector
  push Not at hfields
  obtain ⟨_, hoffsets, _, hend, hresult, _⟩ := hfields
  have hoffsets : ∀ offset ∈ profile.reportFormat.offsets, offset < profile.reportBytes := by
    intro offset hoffset
    by_contra hge
    apply hoffsets
    exact any_eq_true.mpr ⟨offset, hoffset, decide_eq_true (Nat.not_lt.mp hge)⟩
  constructor
  · apply hoffsets
    simp [NativeReportFormatRecord.offsets]
  · apply hoffsets
    simp [NativeReportFormatRecord.offsets]
  · omega
  · by_cases hstart : profile.reportFormat.checksum.startOffset ≤ profile.reportFormat.checksum.resultOffset
    · have hpast := hresult hstart
      exact .inr (by omega)
    · exact .inl (Nat.not_le.mp hstart)
  intro selector hsome
  rw [hsome] at hselector
  by_contra hrestore
  apply hselector
  exact decide_eq_true (.inr (.inr (.inr (.inr hrestore))))

/-- What a report of either direction keeps. -/
structure CommonReport (profile : NativeExchangeRecord) (report : List UInt8) : Prop where
  protocolType : reportByte report profile.reportFormat.protocolType.offset =
    profile.reportFormat.protocolType.value
  dataSize : reportByte report profile.reportFormat.dataSize.offset ≤ profile.reportFormat.dataSize.maximum
  checksum : profile.reportFormat.checksum.compute report =
    reportByte report profile.reportFormat.checksum.resultOffset
  trailer : reportByte report profile.reportFormat.trailer.offset = profile.reportFormat.trailer.value

variable {report left right request response routed restored : List UInt8} {offset : Nat}
  {rewrite : NativeRouteRewrite} {lane : NativeRouteLane} {u : Unit} (selector : UInt8)

theorem validateCommonReport_iff : validateCommonReport profile report = .ok () ↔ CommonReport profile report := by
  unfold validateCommonReport
  rw [bind_ok, bind_ok, bind_ok, reject_ok, reject_ok, reject_ok, reject_ok]
  constructor
  · intro h
    exact ⟨not_not.mp h.1, UInt8.not_lt.mp h.2.1, not_not.mp h.2.2.1, not_not.mp h.2.2.2⟩
  intro h
  exact ⟨not_not.mpr h.protocolType, UInt8.not_lt.mpr h.dataSize, not_not.mpr h.checksum, not_not.mpr h.trailer⟩

structure ValidRequest (profile : NativeExchangeRecord) (report : List UInt8) : Prop
    extends CommonReport profile report where
  layout : Layout profile
  length : report.length = profile.reportBytes
  status : reportByte report profile.reportFormat.requestStatus.offset =
    profile.reportFormat.requestStatus.value

structure ValidResponse (profile : NativeExchangeRecord) (report : List UInt8) : Prop
    extends CommonReport profile report where
  layout : Layout profile
  length : report.length = profile.reportBytes
  minimum : profile.reportFormat.responseStatus.minimum ≤
    reportByte report profile.reportFormat.responseStatus.offset
  maximum : reportByte report profile.reportFormat.responseStatus.offset ≤
    profile.reportFormat.responseStatus.maximum

theorem validateNativeRequest_valid (h : validateNativeRequest profile report = .ok ())
    : ValidRequest profile report := by
  unfold validateNativeRequest at h
  obtain ⟨hprofile, h⟩ := bind_ok.mp h
  obtain ⟨hlength, h⟩ := bind_ok.mp h
  obtain ⟨hstatus, hcommon⟩ := bind_ok.mp h
  exact ⟨validateCommonReport_iff.mp hcommon, validateNativeExchangeRecord_layout hprofile,
    not_not.mp (reject_ok.mp hlength), not_not.mp (reject_ok.mp hstatus)⟩

theorem validateNativeRequest_of_valid (hprofile : validateNativeExchangeRecord profile = .ok ())
    (h : ValidRequest profile report) :
    validateNativeRequest profile report = .ok () := by
  unfold validateNativeRequest
  rw [bind_ok, bind_ok, bind_ok]
  exact ⟨hprofile, reject_ok.mpr (not_not.mpr h.length), reject_ok.mpr (not_not.mpr h.status),
    validateCommonReport_iff.mpr h.toCommonReport⟩

theorem validateNativeResponse_valid (h : validateNativeResponse profile report = .ok ())
    : ValidResponse profile report := by
  unfold validateNativeResponse at h
  obtain ⟨hprofile, h⟩ := bind_ok.mp h
  obtain ⟨hlength, h⟩ := bind_ok.mp h
  obtain ⟨hstatus, hcommon⟩ := bind_ok.mp h
  have hstatus := not_or.mp (reject_ok.mp hstatus)
  exact ⟨validateCommonReport_iff.mp hcommon, validateNativeExchangeRecord_layout hprofile,
    not_not.mp (reject_ok.mp hlength), UInt8.not_lt.mp hstatus.1, UInt8.not_lt.mp hstatus.2⟩

theorem validateNativeResponse_of_valid (hprofile : validateNativeExchangeRecord profile = .ok ())
    (h : ValidResponse profile report) :
    validateNativeResponse profile report = .ok () := by
  unfold validateNativeResponse
  rw [bind_ok, bind_ok, bind_ok]
  exact ⟨hprofile, reject_ok.mpr (not_not.mpr h.length),
    reject_ok.mpr (not_or.mpr ⟨UInt8.not_lt.mpr h.minimum, UInt8.not_lt.mpr h.maximum⟩),
    validateCommonReport_iff.mpr h.toCommonReport⟩

theorem validateNativeRequest_profile (h : validateNativeRequest profile report = .ok ()) :
    validateNativeExchangeRecord profile = .ok () := by
  unfold validateNativeRequest at h
  exact (bind_ok.mp h).1

def Covered (profile : NativeExchangeRecord) : Prop :=
  profile.reportFormat.checksum.startOffset ≤ profile.reportFormat.transactionId.offset ∧
    profile.reportFormat.transactionId.offset < profile.reportFormat.checksum.endOffsetExclusive

structure SameButSelector (profile : NativeExchangeRecord) (before after : List UInt8) : Prop where
  length : after.length = before.length
  outside : ∀ offset, offset ≠ profile.reportFormat.transactionId.offset →
    (Covered profile → offset ≠ profile.reportFormat.checksum.resultOffset) →
    after[offset]? = before[offset]?

theorem SameButSelector.refl (report : List UInt8) : SameButSelector profile report report :=
  ⟨rfl, fun _ _ _ => rfl⟩

theorem writeSelector_covered (hcovered : Covered profile) (selector : UInt8) (report : List UInt8) :
    writeSelector profile selector report =
      (report.set profile.reportFormat.transactionId.offset selector).set
        profile.reportFormat.checksum.resultOffset
        (profile.reportFormat.checksum.compute
          (report.set profile.reportFormat.transactionId.offset selector)) := by
  unfold writeSelector updateChecksumIfCovered
  rw [if_neg]
  intro h
  have := hcovered.1
  have := hcovered.2
  omega

theorem writeSelector_uncovered (hcovered : ¬ Covered profile) (selector : UInt8) (report : List UInt8) :
    writeSelector profile selector report = report.set profile.reportFormat.transactionId.offset selector := by
  unfold writeSelector updateChecksumIfCovered
  rw [if_pos]
  by_contra h
  apply hcovered
  constructor <;> omega

theorem writeSelector_length (report : List UInt8) :
    (writeSelector profile selector report).length = report.length := by
  by_cases hcovered : Covered profile
  · rw [writeSelector_covered hcovered, length_set, length_set]
  · rw [writeSelector_uncovered hcovered, length_set]

theorem writeSelector_same (report : List UInt8) :
    SameButSelector profile report (writeSelector profile selector report) := by
  constructor
  · exact writeSelector_length selector report
  intro offset hselector hresult
  by_cases hcovered : Covered profile
  · rw [writeSelector_covered hcovered, getElem?_set_ne (hresult hcovered).symm, getElem?_set_ne hselector.symm]
  · rw [writeSelector_uncovered hcovered, getElem?_set_ne hselector.symm]

theorem writeSelector_selector (hlayout : Layout profile) (hlength : report.length = profile.reportBytes)
    (selector : UInt8) :
    (writeSelector profile selector report)[profile.reportFormat.transactionId.offset]? = some selector := by
  have hbound : profile.reportFormat.transactionId.offset < report.length := by
    rw [hlength]
    exact hlayout.selector_lt
  by_cases hcovered : Covered profile
  · have hne : profile.reportFormat.checksum.resultOffset ≠ profile.reportFormat.transactionId.offset := by
      have := hlayout.result_outside
      have := hcovered.1
      have := hcovered.2
      omega
    rw [writeSelector_covered hcovered, getElem?_set_ne hne, getElem?_set_self hbound]
  · rw [writeSelector_uncovered hcovered, getElem?_set_self hbound]

theorem compute_set (hlayout : Layout profile) (hcovered : Covered profile)
    (hlength : report.length = profile.reportBytes) (selector : UInt8) :
    profile.reportFormat.checksum.compute (report.set profile.reportFormat.transactionId.offset selector) =
      profile.reportFormat.checksum.compute report ^^^
        reportByte report profile.reportFormat.transactionId.offset ^^^ selector := by
  have hstart := hcovered.1
  have hend := hcovered.2
  have hle := hlayout.end_le
  have hslice : (slice report profile.reportFormat.checksum.startOffset
      profile.reportFormat.checksum.endOffsetExclusive).length =
        profile.reportFormat.checksum.endOffsetExclusive - profile.reportFormat.checksum.startOffset :=
    slice_length (by omega)
  have hindex : profile.reportFormat.transactionId.offset - profile.reportFormat.checksum.startOffset <
      (slice report profile.reportFormat.checksum.startOffset
        profile.reportFormat.checksum.endOffsetExclusive).length := by
    omega
  have hbyte : (slice report profile.reportFormat.checksum.startOffset
      profile.reportFormat.checksum.endOffsetExclusive)[profile.reportFormat.transactionId.offset -
        profile.reportFormat.checksum.startOffset]? =
      report[profile.reportFormat.checksum.startOffset + (profile.reportFormat.transactionId.offset -
        profile.reportFormat.checksum.startOffset)]? :=
    slice_getElem? (by omega)
  rw [Nat.add_sub_cancel' hstart, getElem?_eq_getElem hindex] at hbyte
  show xorSum (slice (report.set _ selector) _ _) = xorSum (slice report _ _) ^^^ _ ^^^ _
  rw [slice_set_inside hstart, xorSum_set hindex]
  unfold reportByte
  rw [getD_eq_getElem?_getD, ← hbyte]
  rfl

theorem reportByte_of_getElem? {value : UInt8} (h : report[offset]? = some value)
    : reportByte report offset = value := by
  unfold reportByte
  rw [getD_eq_getElem?_getD, h]
  rfl

theorem reportByte_congr (h : left[offset]? = right[offset]?) :
    reportByte left offset = reportByte right offset := by
  unfold reportByte
  rw [getD_eq_getElem?_getD, getD_eq_getElem?_getD, h]

theorem getElem?_of_reportByte (hlength : left.length = right.length)
    (h : reportByte left offset = reportByte right offset) :
    left[offset]? = right[offset]? := by
  by_cases hbound : offset < left.length
  · have hright : offset < right.length := by omega
    unfold reportByte at h
    rw [getD_eq_getElem?_getD, getD_eq_getElem?_getD, getElem?_eq_getElem hbound,
      getElem?_eq_getElem hright] at h
    rw [getElem?_eq_getElem hbound, getElem?_eq_getElem hright]
    exact congrArg some h
  · rw [getElem?_eq_none (Nat.not_lt.mp hbound), getElem?_eq_none (by omega)]

theorem writeSelector_byte (hlayout : Layout profile) (hlength : report.length = profile.reportBytes)
    (selector : UInt8) :
    reportByte (writeSelector profile selector report) profile.reportFormat.transactionId.offset = selector :=
  reportByte_of_getElem? (writeSelector_selector hlayout hlength selector)

theorem writeSelector_result (hlayout : Layout profile) (hcovered : Covered profile)
    (hlength : report.length = profile.reportBytes)
    (hchecksum : profile.reportFormat.checksum.compute report =
      reportByte report profile.reportFormat.checksum.resultOffset) (selector : UInt8) :
    reportByte (writeSelector profile selector report) profile.reportFormat.checksum.resultOffset =
      reportByte report profile.reportFormat.checksum.resultOffset ^^^
        reportByte report profile.reportFormat.transactionId.offset ^^^ selector := by
  have hbound : profile.reportFormat.checksum.resultOffset <
      (report.set profile.reportFormat.transactionId.offset selector).length := by
    rw [length_set, hlength]
    exact hlayout.result_lt
  rw [writeSelector_covered hcovered]
  rw [reportByte_of_getElem? (getElem?_set_self hbound), compute_set hlayout hcovered hlength, hchecksum]

theorem writeSelector_agree (hlayout : Layout profile) (hrequest : request.length = profile.reportBytes)
    (hresponse : response.length = profile.reportBytes)
    (hrequestSum : profile.reportFormat.checksum.compute request =
      reportByte request profile.reportFormat.checksum.resultOffset)
    (hresponseSum : profile.reportFormat.checksum.compute response =
      reportByte response profile.reportFormat.checksum.resultOffset) {receiver : UInt8}
    (hreceiver : reportByte response profile.reportFormat.transactionId.offset = receiver)
    (hagree : (writeSelector profile receiver request)[offset]? = response[offset]?) :
    request[offset]? = (writeSelector profile
      (reportByte request profile.reportFormat.transactionId.offset) response)[offset]? := by
  have hlength : request.length = (writeSelector profile
      (reportByte request profile.reportFormat.transactionId.offset) response).length := by
    rw [writeSelector_length, hrequest, hresponse]
  by_cases hselector : offset = profile.reportFormat.transactionId.offset
  · apply getElem?_of_reportByte hlength
    rw [hselector, writeSelector_byte hlayout hresponse]
  by_cases hresult : Covered profile ∧ offset = profile.reportFormat.checksum.resultOffset
  · obtain ⟨hcovered, hoffset⟩ := hresult
    have hbytes := reportByte_congr hagree
    rw [hoffset, writeSelector_result hlayout hcovered hrequest hrequestSum] at hbytes
    apply getElem?_of_reportByte hlength
    rw [hoffset, writeSelector_result hlayout hcovered hresponse hresponseSum, ← hbytes, hreceiver]
    -- Both selectors cancel out.
    rw [UInt8.xor_assoc _ receiver receiver, UInt8.xor_self, UInt8.xor_zero, UInt8.xor_assoc,
      UInt8.xor_self, UInt8.xor_zero]
  have houtside : Covered profile → offset ≠ profile.reportFormat.checksum.resultOffset := by
    intro hcovered heq
    exact hresult ⟨hcovered, heq⟩
  rw [(writeSelector_same _ response).outside offset hselector houtside, ← hagree,
    (writeSelector_same receiver request).outside offset hselector houtside]

theorem slice_congr {left' right' : List UInt8} {start stop : Nat}
    (h : ∀ offset : Nat, left[offset]? = right[offset]? → left'[offset]? = right'[offset]?)
    (hslice : slice left start stop = slice right start stop) :
    slice left' start stop = slice right' start stop := by
  apply ext_getElem?
  intro position
  by_cases hinside : position < stop - start
  · have hposition := congrArg (fun bytes => bytes[position]?) hslice
    rw [slice_getElem? hinside, slice_getElem? hinside] at hposition
    rw [slice_getElem? hinside, slice_getElem? hinside]
    exact h _ hposition
  unfold slice
  rw [getElem?_take, getElem?_take, if_neg hinside, if_neg hinside]

theorem rangesMatch_congr {ranges : List NativeMatchRangeRecord} {request' response' : List UInt8}
    (h : ∀ offset : Nat, request[offset]? = response[offset]? → request'[offset]? = response'[offset]?)
    (hmatch : rangesMatch ranges request response = true) :
    rangesMatch ranges request' response' = true := by
  unfold rangesMatch at hmatch ⊢
  rw [all_eq_true] at hmatch ⊢
  intro range hrange
  exact decide_eq_true (slice_congr h (of_decide_eq_true (hmatch range hrange)))

/-- The transaction and every declared range of the two reports agree. -/
structure Matches (profile : NativeExchangeRecord) (request response : List UInt8) : Prop where
  transaction : (reportByte request profile.reportFormat.transactionId.offset ^^^
    reportByte response profile.reportFormat.transactionId.offset) &&&
      profile.reportFormat.transactionId.matchMask = 0
  ranges : rangesMatch profile.matchRanges request response = true

theorem nativeResponseMatches_ok :
    nativeResponseMatches profile request response = .ok true ↔
      validateNativeRequest profile request = .ok () ∧
        validateNativeResponse profile response = .ok () ∧ Matches profile request response := by
  unfold nativeResponseMatches
  constructor
  · intro h
    obtain ⟨u, hrequest, h⟩ := bind_eq_ok h
    obtain ⟨v, hresponse, h⟩ := bind_eq_ok h
    dsimp only at h
    split at h
    · cases h
    next htransaction => exact ⟨hrequest, hresponse, not_not.mp htransaction, Except.ok.inj h⟩
  intro h
  obtain ⟨hrequest, hresponse, hmatch⟩ := h
  rw [hrequest, hresponse]
  show (if _ then _ else _) = _
  rw [if_neg (not_not.mpr hmatch.transaction), hmatch.ranges]
  rfl

/-- The request as the lane's receiver is sent it, and what the caller keeps of the selector. -/
theorem routeNativeRequest_ok (h : routeNativeRequest profile lane request = .ok rewrite routed) :
    validateNativeRequest profile request = .ok () ∧
      rewrite.applicationSelector = reportByte request profile.reportFormat.transactionId.offset ∧
      (rewrite.translated = false ∧ routed = request ∨
        rewrite.translated = true ∧ routed = writeSelector profile rewrite.receiverSelector request ∧
          validateNativeRequest profile routed = .ok ()) := by
  have hroute : Holds (routeNativeRequest profile lane) request
      (fun rewrite routed => validateNativeRequest profile request = .ok () ∧
        rewrite.applicationSelector = reportByte request profile.reportFormat.transactionId.offset ∧
        (rewrite.translated = false ∧ routed = request ∨
          rewrite.translated = true ∧ routed = writeSelector profile rewrite.receiverSelector request ∧
            validateNativeRequest profile routed = .ok ())) (fun _ _ => True) := by
    unfold routeNativeRequest
    rw [holds_bind, holds_get, holds_bind, holds_lift]
    constructor
    · intro u hvalid
      cases profile.routeSelector with
      | none => exact ⟨hvalid, rfl, .inl ⟨rfl, rfl⟩⟩
      | some selector =>
        show Holds (ite _ _ _) _ _ _
        split
        · exact ⟨hvalid, rfl, .inl ⟨rfl, rfl⟩⟩
        rw [holds_bind, holds_set, holds_bind, holds_lift]
        constructor
        · intro v hrouted
          exact ⟨hvalid, rfl, .inr ⟨rfl, rfl, hrouted⟩⟩
        intro e he
        trivial
    intro e he
    trivial
  have hresult := holds_ok hroute h
  exact hresult

theorem restoreNativeResponse_ok (h : restoreNativeResponse profile rewrite response = .ok u restored) :
    validateNativeResponse profile response = .ok () ∧
      (rewrite.translated = false ∧ restored = response ∨
        rewrite.translated = true ∧
          reportByte response profile.reportFormat.transactionId.offset = rewrite.receiverSelector ∧
          restored = writeSelector profile rewrite.applicationSelector response ∧
          validateNativeResponse profile restored = .ok ()) := by
  have hrestore : Holds (restoreNativeResponse profile rewrite) response
      (fun _ restored => validateNativeResponse profile response = .ok () ∧
        (rewrite.translated = false ∧ restored = response ∨
          rewrite.translated = true ∧
            reportByte response profile.reportFormat.transactionId.offset = rewrite.receiverSelector ∧
            restored = writeSelector profile rewrite.applicationSelector response ∧
            validateNativeResponse profile restored = .ok ())) (fun _ _ => True) := by
    unfold restoreNativeResponse
    rw [holds_bind, holds_get, holds_bind, holds_lift]
    constructor
    · intro v hvalid
      split
      next htranslated => exact ⟨hvalid, .inl ⟨htranslated, rfl⟩⟩
      next htranslated =>
        have htranslated : rewrite.translated = true := by simpa using htranslated
        cases profile.routeSelector with
        | none => trivial
        | some selector =>
          show Holds (do refuse _ _; _) _ _ _
          rw [holds_bind, holds_refuse]
          constructor
          · intro hnot
            trivial
          intro hreturns
          rw [holds_bind, holds_refuse]
          constructor
          · intro hother
            trivial
          intro hreceiver
          rw [holds_bind, holds_set, holds_lift]
          constructor
          · intro w hrestored
            exact ⟨hvalid, .inr ⟨htranslated, not_not.mp hreceiver, rfl, hrestored⟩⟩
          intro e he
          trivial
    · intro e he
      trivial
  have hresult := holds_ok hrestore h
  exact hresult

/-- The response given back matches the request as the caller wrote it. -/
theorem routeNativeRequest_restores (hroute : routeNativeRequest profile lane request = .ok rewrite routed)
    (hmatches : nativeResponseMatches profile routed response = .ok true)
    (hrestore : restoreNativeResponse profile rewrite response = .ok u restored) :
    nativeResponseMatches profile request restored = .ok true ∧
      SameButSelector profile request routed ∧ SameButSelector profile response restored := by
  obtain ⟨hrequest, happlication, hrouted⟩ := routeNativeRequest_ok hroute
  obtain ⟨hresponse, hrestored⟩ := restoreNativeResponse_ok hrestore
  cases htranslated : rewrite.translated with
  | false =>
    obtain ⟨_, rfl⟩ | ⟨hother, _⟩ := hrouted
    · obtain ⟨_, rfl⟩ | ⟨hother, _⟩ := hrestored
      · exact ⟨hmatches, .refl _, .refl _⟩
      · exact absurd (htranslated.symm.trans hother) Bool.false_ne_true
    · exact absurd (htranslated.symm.trans hother) Bool.false_ne_true
  | true =>
    obtain ⟨hother, _⟩ | ⟨_, hrouted, _⟩ := hrouted
    · exact absurd (hother.symm.trans htranslated) Bool.false_ne_true
    obtain ⟨hother, _⟩ | ⟨_, hreceiver, hrestored, hagain⟩ := hrestored
    · exact absurd (hother.symm.trans htranslated) Bool.false_ne_true
    have hvalid := validateNativeRequest_valid hrequest
    have hanswer := validateNativeResponse_valid hresponse
    obtain ⟨_, _, hmatch⟩ := nativeResponseMatches_ok.mp hmatches
    rw [happlication] at hrestored
    have hagree : ∀ offset : Nat,
        routed[offset]? = response[offset]? → request[offset]? = restored[offset]? := by
      intro offset heq
      rw [hrouted] at heq
      rw [hrestored]
      exact writeSelector_agree hvalid.layout hvalid.length hanswer.length hvalid.checksum
        hanswer.checksum hreceiver heq
    have hselector : reportByte restored profile.reportFormat.transactionId.offset =
        reportByte request profile.reportFormat.transactionId.offset := by
      rw [hrestored, writeSelector_byte hanswer.layout hanswer.length]
    refine ⟨nativeResponseMatches_ok.mpr ⟨hrequest, hagain, ?_, ?_⟩, ?_, ?_⟩
    · rw [hselector, UInt8.xor_self, UInt8.zero_and]
    · exact rangesMatch_congr hagree hmatch.ranges
    · rw [hrouted]
      exact writeSelector_same _ _
    rw [hrestored]
    exact writeSelector_same _ _

end NativeReport

end HyperfluxNext
