import HyperfluxNext.Domain.Values

namespace HyperfluxNext

inductive TransactionState where
  | created | validated | ownershipBound | generationBound | queued | sent | healthPending
  | succeeded | failed | revoked | superseded
deriving DecidableEq

inductive QueueAdmission where
  | enqueued | coalesced | rejectedFull | rejectedDeadline | rejectedInvalid
deriving DecidableEq

inductive SideEffectCertainty where
  | none | possible | partially | committed
deriving DecidableEq

inductive DeviceApplicationState where
  | unverified | confirmed | rejected
deriving DecidableEq

inductive ProtocolErrorKind where
  | incompatibleVersion | unsupportedFeature | invalidRequest | ownershipConflict
  | staleGeneration | deadlineExceeded | queueFull | transportFailure | outcomeUnknown
  | outcomeEvicted | internalFailure
deriving DecidableEq

inductive EventKind where
  | receiverAvailable | receiverSuspended | receiverUnavailable | deviceAvailable
  | deviceSleeping | deviceUnavailable | deviceUnknown | batteryUpdated | ownershipChanged
  | generationReplaced | transactionCompleted | restoreCompleted | diagnosticRaised
deriving DecidableEq

inductive ResourceKind where
  | lighting | settings | pairing | nativeControl
deriving DecidableEq

/-- The declaration order, which the derived order of the source follows. -/
def ResourceKind.rank : ResourceKind → Nat
  | .lighting => 0
  | .settings => 1
  | .pairing => 2
  | .nativeControl => 3

theorem ResourceKind.rank_injective {a b : ResourceKind} (h : a.rank = b.rank) : a = b := by
  cases a <;> cases b <;> simp_all [rank]

inductive DeviceKind where
  | receiver | mat | mouse | keyboard | unknown
deriving DecidableEq

inductive PairingState where
  | paired | unpaired | unknown
deriving DecidableEq

inductive RouteKind where
  | hyperfluxWireless | directUsb | bluetooth
deriving DecidableEq

inductive ConnectionMode where
  | hyperflux24ghz | directUsb | bluetooth | unknown
deriving DecidableEq

inductive RouteState where
  | available | unavailable | stale | unknown
deriving DecidableEq

inductive PowerState where
  | on | off | unknown
deriving DecidableEq

inductive SleepState where
  | awake | asleep | unknown
deriving DecidableEq

inductive ActivityState where
  | active | idle | unknown
deriving DecidableEq

inductive ContactState where
  | onMat | offMat | unknown | notApplicable
deriving DecidableEq

inductive FreshnessState where
  | fresh | stale | unknown
deriving DecidableEq

inductive PresenceState where
  | available | sleeping | unavailable | unknown
deriving DecidableEq

inductive BatteryCharge where
  | charging | discharging
deriving DecidableEq

inductive EvidenceConfidence where
  | observed | derived | inferred | unknown
deriving DecidableEq

theorem observed_known : EvidenceConfidence.observed ≠ .unknown := by decide

inductive ReceiverLifecycleState where
  | active | suspended | partiallySuspended | disconnecting | unknown
deriving DecidableEq

inductive ApplyOutcome where
  | applied | ignoredOlderObservation | rejectedStaleGeneration | rejectedReceiverAbsent
  | rejectedUnknownDevice | rejectedUnavailableRoute | rejectedUnqualifiedWrite
  | rejectedInvalidTransition | rejectedTransportFailure | recordedMalformedObservation
deriving DecidableEq

inductive ReturnPhase where
  | stable | quiescentCandidate | returning | synchronized | unavailable
deriving DecidableEq

inductive RestoreDeliveryState where
  | notAttempted | receiverRejected | outcomeUncertain | receiverDelivered | childRejected
  | childConfirmed
deriving DecidableEq

inductive ProfileKind where
  | receiver | child | surface
deriving DecidableEq

inductive SupportLevel where
  | candidate | identified | readOnly | telemetryQualified | lightingQualified | settingsQualified
  | pairingQualified | productionQualified

inductive TransactionClass where
  | effectFrame | staticLighting | deviceSetting | restore | pairing
deriving DecidableEq

inductive StableLightingMode where
  | static | off
deriving DecidableEq

inductive LeaseState where
  | requested | granted | renewed | released | expired | revoked
deriving DecidableEq

inductive DeviceWriteReadiness where
  | ready | sleeping | unavailable | unknown
deriving DecidableEq

inductive RestoreTriggerKind where
  | serviceStart | receiverGeneration | systemResume | deviceReturn
deriving DecidableEq

inductive RestoreDeferReason where
  | deviceSleeping | deviceUnavailable | deviceUnknown | ownershipConflict | sessionUnavailable
  | deadlineElapsed | safeTransactionFailure
deriving DecidableEq

inductive RestoreInvalidationReason where
  | supersededTrigger | staleGeneration | intentChanged | profileChanged | restoreDisabled
deriving DecidableEq

end HyperfluxNext
