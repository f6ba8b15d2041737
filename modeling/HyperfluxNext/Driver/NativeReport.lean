import HyperfluxNext.Driver.Uapi
import HyperfluxNext.Profiles.NativeReport

namespace HyperfluxNext

open Procedure

namespace NativeKernel

namespace ExchangeKind

def none : Nat := 0
def razerFeatureReportV1 : Nat := 1

end ExchangeKind

namespace ChecksumKind

def none : Nat := 0
def xor8 : Nat := 1

end ChecksumKind

namespace RouteSelectorKind

def none : Nat := 0
def transactionId : Nat := 1

end RouteSelectorKind

def matchRangeCapacity : Nat := 4

structure HfxNativeMatchRange where
  offset : Nat
  length : Nat
deriving DecidableEq

/-- The part of a receiver's table entry that its native exchanges read. -/
structure HfxReceiverProfile where
  nativeExchangeKind : Nat
  nativeReportBytes : Nat
  nativeMaxResponseAttempts : Nat
  nativeMatchRangeCount : Nat
  nativeRequestStatusOffset : Nat
  nativeResponseStatusOffset : Nat
  nativeProtocolTypeOffset : Nat
  nativeDataSizeOffset : Nat
  nativeChecksumKind : Nat
  nativeChecksumStartOffset : Nat
  nativeChecksumEndOffset : Nat
  nativeChecksumResultOffset : Nat
  nativeTrailerOffset : Nat
  nativeTransactionIdOffset : Nat
  nativeRequestStatusValue : UInt8
  nativeResponseStatusMinimum : UInt8
  nativeResponseStatusMaximum : UInt8
  nativeProtocolTypeValue : UInt8
  nativeMaxDataSize : UInt8
  nativeTrailerValue : UInt8
  nativeTransactionIdMatchMask : UInt8
  nativePointerRouteSelector : UInt8
  nativeKeyboardRouteSelector : UInt8
  nativeRestoreOriginalResponse : Bool
  nativeRouteSelectorKind : Nat
  nativeMatchRanges : List HfxNativeMatchRange
deriving DecidableEq

def HfxReceiverProfile.ranges (profile : HfxReceiverProfile) : List HfxNativeMatchRange :=
  profile.nativeMatchRanges.take profile.nativeMatchRangeCount

def matchRangesValid (reportBytes : Nat) : Nat → List HfxNativeMatchRange → Bool
  | _, [] => true
  | previousEnd, range :: ranges =>
    if range.length = 0 ∨ range.offset < previousEnd ∨ reportBytes < range.offset + range.length then
      false
    else matchRangesValid reportBytes (range.offset + range.length) ranges

def hfxNativeProfileValid (profile : HfxReceiverProfile) : Bool :=
  if profile.nativeExchangeKind ≠ ExchangeKind.razerFeatureReportV1 ∨
      profile.nativeReportBytes ≠ hfxUapiNativeReportBytes ∨
      profile.nativeMaxResponseAttempts = 0 ∨ 16 < profile.nativeMaxResponseAttempts ∨
      profile.nativeMatchRangeCount = 0 ∨ matchRangeCapacity < profile.nativeMatchRangeCount ∨
      profile.nativeReportBytes ≤ profile.nativeRequestStatusOffset ∨
      profile.nativeReportBytes ≤ profile.nativeResponseStatusOffset ∨
      profile.nativeResponseStatusMaximum < profile.nativeResponseStatusMinimum ∨
      profile.nativeReportBytes ≤ profile.nativeProtocolTypeOffset ∨
      profile.nativeReportBytes ≤ profile.nativeDataSizeOffset ∨
      profile.nativeChecksumKind ≠ ChecksumKind.xor8 ∨
      profile.nativeChecksumEndOffset ≤ profile.nativeChecksumStartOffset ∨
      profile.nativeReportBytes < profile.nativeChecksumEndOffset ∨
      profile.nativeReportBytes ≤ profile.nativeChecksumResultOffset ∨
      (profile.nativeChecksumStartOffset ≤ profile.nativeChecksumResultOffset ∧
        profile.nativeChecksumResultOffset < profile.nativeChecksumEndOffset) ∨
      profile.nativeReportBytes ≤ profile.nativeTrailerOffset ∨
      profile.nativeReportBytes ≤ profile.nativeTransactionIdOffset ∨
      (profile.nativeRouteSelectorKind = RouteSelectorKind.none ∧
        (profile.nativePointerRouteSelector ≠ 0 ∨ profile.nativeKeyboardRouteSelector ≠ 0 ∨
          profile.nativeRestoreOriginalResponse)) ∨
      (profile.nativeRouteSelectorKind ≠ RouteSelectorKind.none ∧
        (profile.nativeRouteSelectorKind ≠ RouteSelectorKind.transactionId ∨
          profile.nativePointerRouteSelector = 0 ∨ profile.nativeKeyboardRouteSelector = 0 ∨
          profile.nativePointerRouteSelector = profile.nativeKeyboardRouteSelector ∨
          ¬ profile.nativeRestoreOriginalResponse)) then
    false
  else matchRangesValid profile.nativeReportBytes 0 profile.ranges

def hfxNativeChecksum (profile : HfxReceiverProfile) (report : List UInt8) : UInt8 :=
  (List.range' profile.nativeChecksumStartOffset
    (profile.nativeChecksumEndOffset - profile.nativeChecksumStartOffset)).foldl
      (fun checksum index => checksum ^^^ report.getD index 0) 0

def hfxNativeChecksumValid (profile : HfxReceiverProfile) (report : List UInt8) : Bool :=
  profile.nativeChecksumKind = ChecksumKind.xor8 ∧
    hfxNativeChecksum profile report = report.getD profile.nativeChecksumResultOffset 0

def hfxNativeChecksumUpdate (profile : HfxReceiverProfile) (report : List UInt8) : List UInt8 :=
  report.set profile.nativeChecksumResultOffset (hfxNativeChecksum profile report)

def hfxNativeRequestReportValid (profile : HfxReceiverProfile) (report : List UInt8) : Bool :=
  report.getD profile.nativeRequestStatusOffset 0 = profile.nativeRequestStatusValue ∧
    report.getD profile.nativeProtocolTypeOffset 0 = profile.nativeProtocolTypeValue ∧
    report.getD profile.nativeDataSizeOffset 0 ≤ profile.nativeMaxDataSize ∧
    hfxNativeChecksumValid profile report ∧
    report.getD profile.nativeTrailerOffset 0 = profile.nativeTrailerValue

def hfxNativeResponseReportValid (profile : HfxReceiverProfile) (report : List UInt8) : Bool :=
  let status := report.getD profile.nativeResponseStatusOffset 0
  profile.nativeResponseStatusMinimum ≤ status ∧ status ≤ profile.nativeResponseStatusMaximum ∧
    report.getD profile.nativeProtocolTypeOffset 0 = profile.nativeProtocolTypeValue ∧
    report.getD profile.nativeDataSizeOffset 0 ≤ profile.nativeMaxDataSize ∧
    hfxNativeChecksumValid profile report ∧
    report.getD profile.nativeTrailerOffset 0 = profile.nativeTrailerValue

def hfxNativeRouteSelector (profile : HfxReceiverProfile) (endpointSlot : Nat) : Except Int (Option UInt8) :=
  if profile.nativeRouteSelectorKind = RouteSelectorKind.none then .ok none
  else if profile.nativeRouteSelectorKind ≠ RouteSelectorKind.transactionId then
    .error (-Errno.eopnotsupp)
  else if endpointSlot = EndpointSlot.pointerLane then .ok (some profile.nativePointerRouteSelector)
  else if endpointSlot = EndpointSlot.keyboardLane then .ok (some profile.nativeKeyboardRouteSelector)
  else .error (-Errno.einval)

def replaceSelector (profile : HfxReceiverProfile) (selector : UInt8) (report : List UInt8) : List UInt8 :=
  let offset := profile.nativeTransactionIdOffset
  if profile.nativeChecksumStartOffset ≤ offset ∧ offset < profile.nativeChecksumEndOffset then
    hfxNativeChecksumUpdate profile (report.set offset selector)
  else report.set offset selector

/-- Answers the application's selector and whether it was translated. -/
def hfxNativeRouteRequest (profile : HfxReceiverProfile) (endpointSlot : Nat) :
    EStateM Int (List UInt8) (UInt8 × Bool) := do
  let request ← get
  let applicationSelector := request.getD profile.nativeTransactionIdOffset 0
  match ← lift id (hfxNativeRouteSelector profile endpointSlot) with
  | none => pure (applicationSelector, false)
  | some receiverSelector =>
    if applicationSelector = receiverSelector then
      pure (applicationSelector, false)
    else do
      set (replaceSelector profile receiverSelector request)
      refuse (¬ hfxNativeRequestReportValid profile (replaceSelector profile receiverSelector request))
        (-Errno.einval)
      pure (applicationSelector, true)

def hfxNativeRestoreResponse (profile : HfxReceiverProfile)
    (applicationSelector receiverSelector : UInt8) (translated : Bool) :
    EStateM Int (List UInt8) Unit := do
  let response ← get
  if translated = false then
    pure ()
  else do
    refuse (¬ profile.nativeRestoreOriginalResponse) (-Errno.eopnotsupp)
    refuse (response.getD profile.nativeTransactionIdOffset 0 ≠ receiverSelector) (-Errno.eproto)
    set (replaceSelector profile applicationSelector response)
    refuse (¬ hfxNativeResponseReportValid profile
      (replaceSelector profile applicationSelector response)) (-Errno.eproto)

def hfxNativeResponseMatches (profile : HfxReceiverProfile) (request response : List UInt8) : Bool :=
  if ¬ hfxNativeResponseReportValid profile response then false
  else if (request.getD profile.nativeTransactionIdOffset 0 ^^^
      response.getD profile.nativeTransactionIdOffset 0) &&& profile.nativeTransactionIdMatchMask ≠ 0 then
    false
  else profile.ranges.all fun range =>
    (request.drop range.offset).take range.length = (response.drop range.offset).take range.length

end NativeKernel

namespace NativeReport

def receiverTableEntry (native : NativeExchangeRecord) : NativeKernel.HfxReceiverProfile :=
  let format := native.reportFormat
  {
    nativeExchangeKind := NativeKernel.ExchangeKind.razerFeatureReportV1
    nativeReportBytes := native.reportBytes
    nativeMaxResponseAttempts := native.maxResponseAttempts
    nativeMatchRangeCount := native.matchRanges.length
    nativeRequestStatusOffset := format.requestStatus.offset
    nativeResponseStatusOffset := format.responseStatus.offset
    nativeProtocolTypeOffset := format.protocolType.offset
    nativeDataSizeOffset := format.dataSize.offset
    nativeChecksumKind := match format.checksum.algorithm with
      | .xor8 => NativeKernel.ChecksumKind.xor8
    nativeChecksumStartOffset := format.checksum.startOffset
    nativeChecksumEndOffset := format.checksum.endOffsetExclusive
    nativeChecksumResultOffset := format.checksum.resultOffset
    nativeTrailerOffset := format.trailer.offset
    nativeTransactionIdOffset := format.transactionId.offset
    nativeRequestStatusValue := format.requestStatus.value
    nativeResponseStatusMinimum := format.responseStatus.minimum
    nativeResponseStatusMaximum := format.responseStatus.maximum
    nativeProtocolTypeValue := format.protocolType.value
    nativeMaxDataSize := format.dataSize.maximum
    nativeTrailerValue := format.trailer.value
    nativeTransactionIdMatchMask := format.transactionId.matchMask
    nativePointerRouteSelector := (native.routeSelector.map (·.pointerLane)).getD 0
    nativeKeyboardRouteSelector := (native.routeSelector.map (·.keyboardLane)).getD 0
    nativeRestoreOriginalResponse := (native.routeSelector.map (·.restoreOriginalResponse)).getD false
    nativeRouteSelectorKind := match native.routeSelector with
      | none => NativeKernel.RouteSelectorKind.none
      | some selector => match selector.field with
        | .transactionId => NativeKernel.RouteSelectorKind.transactionId
    nativeMatchRanges := native.matchRanges.map fun range => ⟨range.offset, range.length⟩
  }

def generateReceiverProfile (native : NativeExchangeRecord) : Option NativeKernel.HfxReceiverProfile :=
  if native.protocolFamily ≠ "razer-feature-report-v1" then none
  else some (receiverTableEntry native)

end NativeReport

end HyperfluxNext
