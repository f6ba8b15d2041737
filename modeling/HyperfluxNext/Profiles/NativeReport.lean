import HyperfluxNext.Library.Procedure
import HyperfluxNext.Library.XorSum

namespace HyperfluxNext

open Procedure XorSum

namespace NativeReport

structure NativeMatchRangeRecord where
  offset : Nat
  length : Nat

inductive NativeChecksumAlgorithm where
  | xor8

structure NativeByteValueRecord where
  offset : Nat
  value : UInt8

structure NativeByteRangeRecord where
  offset : Nat
  minimum : UInt8
  maximum : UInt8

structure NativeDataSizeRecord where
  offset : Nat
  maximum : UInt8

structure NativeChecksumRecord where
  algorithm : NativeChecksumAlgorithm
  startOffset : Nat
  endOffsetExclusive : Nat
  resultOffset : Nat

structure NativeTransactionIdRecord where
  offset : Nat
  matchMask : UInt8

inductive NativeRouteSelectorField where
  | transactionId
deriving DecidableEq

structure NativeRouteSelectorRecord where
  field : NativeRouteSelectorField
  pointerLane : UInt8
  keyboardLane : UInt8
  restoreOriginalResponse : Bool

structure NativeReportFormatRecord where
  requestStatus : NativeByteValueRecord
  responseStatus : NativeByteRangeRecord
  protocolType : NativeByteValueRecord
  dataSize : NativeDataSizeRecord
  checksum : NativeChecksumRecord
  trailer : NativeByteValueRecord
  transactionId : NativeTransactionIdRecord

structure NativeExchangeRecord where
  protocolFamily : String
  reportBytes : Nat
  maxResponseAttempts : Nat
  reportFormat : NativeReportFormatRecord
  routeSelector : Option NativeRouteSelectorRecord
  matchRanges : List NativeMatchRangeRecord

inductive NativeReportValidationError where
  | invalidProfile | invalidLength | invalidRequestStatus | invalidResponseStatus
  | invalidProtocolType | invalidDataSize | invalidChecksum | invalidTrailer
deriving DecidableEq

inductive NativeRouteLane where
  | pointer | keyboard

structure NativeRouteRewrite where
  applicationSelector : UInt8
  receiverSelector : UInt8
  translated : Bool

/-- The ranges are not empty, do not overlap and stay inside the report. -/
def validateMatchRanges (reportBytes : Nat) :
    Nat → List NativeMatchRangeRecord → Except NativeReportValidationError Unit
  | _, [] => .ok ()
  | previousEnd, range :: ranges => do
    reject (range.length = 0 ∨ range.offset < previousEnd ∨ reportBytes < range.offset + range.length)
      .invalidProfile
    validateMatchRanges reportBytes (range.offset + range.length) ranges

def NativeReportFormatRecord.offsets (format : NativeReportFormatRecord) : List Nat :=
  [format.requestStatus.offset, format.responseStatus.offset, format.protocolType.offset,
    format.dataSize.offset, format.checksum.resultOffset, format.trailer.offset,
    format.transactionId.offset]

def validateNativeExchangeRecord (profile : NativeExchangeRecord) :
    Except NativeReportValidationError Unit := do
  let checksum := profile.reportFormat.checksum
  reject (profile.reportBytes = 0 ∨
      (profile.reportFormat.offsets.any fun offset => profile.reportBytes ≤ offset) ∨
      checksum.endOffsetExclusive ≤ checksum.startOffset ∨
      profile.reportBytes < checksum.endOffsetExclusive ∨
      (checksum.startOffset ≤ checksum.resultOffset ∧ checksum.resultOffset < checksum.endOffsetExclusive) ∨
      profile.matchRanges = []) .invalidProfile
  reject (profile.routeSelector.any fun selector => selector.field ≠ .transactionId ∨
      selector.pointerLane = 0 ∨ selector.keyboardLane = 0 ∨
      selector.pointerLane = selector.keyboardLane ∨ ¬ selector.restoreOriginalResponse) .invalidProfile
  validateMatchRanges profile.reportBytes 0 profile.matchRanges

/-- One byte of a report. The checks of the profile keep every offset inside it. -/
def reportByte (report : List UInt8) (offset : Nat) : UInt8 := report.getD offset 0

def NativeChecksumRecord.compute (checksum : NativeChecksumRecord) (report : List UInt8) : UInt8 :=
  match checksum.algorithm with
  | .xor8 => xorSum (slice report checksum.startOffset checksum.endOffsetExclusive)

def validateReportLength (profile : NativeExchangeRecord) (report : List UInt8) :
    Except NativeReportValidationError Unit :=
  reject (report.length ≠ profile.reportBytes) .invalidLength

def validateCommonReport (profile : NativeExchangeRecord) (report : List UInt8) :
    Except NativeReportValidationError Unit := do
  let format := profile.reportFormat
  reject (reportByte report format.protocolType.offset ≠ format.protocolType.value) .invalidProtocolType
  reject (format.dataSize.maximum < reportByte report format.dataSize.offset) .invalidDataSize
  reject (format.checksum.compute report ≠ reportByte report format.checksum.resultOffset) .invalidChecksum
  reject (reportByte report format.trailer.offset ≠ format.trailer.value) .invalidTrailer

/-- Validates one opaque request against its generated protocol format. -/
def validateNativeRequest (profile : NativeExchangeRecord) (report : List UInt8) :
    Except NativeReportValidationError Unit := do
  validateNativeExchangeRecord profile
  validateReportLength profile report
  let status := profile.reportFormat.requestStatus
  reject (reportByte report status.offset ≠ status.value) .invalidRequestStatus
  validateCommonReport profile report

/-- Validates one response; a failure status is the device's own and passes. -/
def validateNativeResponse (profile : NativeExchangeRecord) (report : List UInt8) :
    Except NativeReportValidationError Unit := do
  validateNativeExchangeRecord profile
  validateReportLength profile report
  let status := profile.reportFormat.responseStatus
  reject (reportByte report status.offset < status.minimum ∨
    status.maximum < reportByte report status.offset) .invalidResponseStatus
  validateCommonReport profile report

def rangesMatch (ranges : List NativeMatchRangeRecord) (request response : List UInt8) : Bool :=
  ranges.all fun range => slice request range.offset (range.offset + range.length) =
    slice response range.offset (range.offset + range.length)

/-- Checks one structurally valid response against declarative request fields. -/
def nativeResponseMatches (profile : NativeExchangeRecord) (request response : List UInt8) :
    Except NativeReportValidationError Bool := do
  validateNativeRequest profile request
  validateNativeResponse profile response
  let transaction := profile.reportFormat.transactionId
  if (reportByte request transaction.offset ^^^ reportByte response transaction.offset) &&&
      transaction.matchMask ≠ 0 then
    return false
  else
    return rangesMatch profile.matchRanges request response

def updateChecksumIfCovered (profile : NativeExchangeRecord) (changedOffset : Nat)
    (report : List UInt8) : List UInt8 :=
  let checksum := profile.reportFormat.checksum
  if changedOffset < checksum.startOffset ∨ checksum.endOffsetExclusive ≤ changedOffset then report
  else report.set checksum.resultOffset (checksum.compute report)

def writeSelector (profile : NativeExchangeRecord) (selector : UInt8) (report : List UInt8) : List UInt8 :=
  updateChecksumIfCovered profile profile.reportFormat.transactionId.offset
    (report.set profile.reportFormat.transactionId.offset selector)

def NativeRouteSelectorRecord.laneSelector (selector : NativeRouteSelectorRecord) : NativeRouteLane → UInt8
  | .pointer => selector.pointerLane
  | .keyboard => selector.keyboardLane

abbrev ReportM := EStateM NativeReportValidationError (List UInt8)

/-- Rewrites only the route selector and keeps the original one for the repair of the response. -/
def routeNativeRequest (profile : NativeExchangeRecord) (lane : NativeRouteLane) :
    ReportM NativeRouteRewrite := do
  let report ← get
  lift id (validateNativeRequest profile report)
  let applicationSelector := reportByte report profile.reportFormat.transactionId.offset
  match profile.routeSelector with
  | none => pure ⟨applicationSelector, applicationSelector, false⟩
  | some selector =>
    if applicationSelector = selector.laneSelector lane then
      pure ⟨applicationSelector, selector.laneSelector lane, false⟩
    else do
      set (writeSelector profile (selector.laneSelector lane) report)
      lift id (validateNativeRequest profile (writeSelector profile (selector.laneSelector lane) report))
      pure ⟨applicationSelector, selector.laneSelector lane, true⟩

def restoreNativeResponse (profile : NativeExchangeRecord) (rewrite : NativeRouteRewrite) : ReportM Unit := do
  let report ← get
  lift id (validateNativeResponse profile report)
  if rewrite.translated = false then
    pure ()
  else
    match profile.routeSelector with
    | none => throw .invalidProfile
    | some selector => do
      refuse (¬ selector.restoreOriginalResponse) .invalidProfile
      refuse (reportByte report profile.reportFormat.transactionId.offset ≠ rewrite.receiverSelector)
        .invalidProfile
      set (writeSelector profile rewrite.applicationSelector report)
      lift id (validateNativeResponse profile (writeSelector profile rewrite.applicationSelector report))

end NativeReport

end HyperfluxNext
