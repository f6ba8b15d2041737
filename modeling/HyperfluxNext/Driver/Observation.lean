import HyperfluxNext.Driver.Uapi
import HyperfluxNext.Library.NumberedLog
import HyperfluxNext.Library.RingBuffer

namespace HyperfluxNext

def hfxObservationCapacity : Nat := 256

def hfxUapiMaxObservations : Nat := 32

def hfxUapiReadObservationsBytes : Nat := 1328

def hfxUapiObservationBatchFlagCursorGap : UInt32 := 1

structure HfxUapiObservation where
  sequence : Nat := 0
  observedBoottimeNs : Nat := 0
  kind : Nat := 0
  endpointSlot : Nat := 0
  source : Nat := 0
  confidence : Nat := 0
  value : Nat := 0
  auxiliary : Nat := 0
deriving DecidableEq

structure HfxUapiReadObservations where
  version : Nat
  size : Nat
  receiverGeneration : Nat
  afterSequence : Nat
  oldestSequence : Nat := 0
  latestSequence : Nat := 0
  flags : UInt32 := 0
  count : Nat := 0
  observations : List HfxUapiObservation := List.replicate hfxUapiMaxObservations {}

/-- The part of a receiver that its observation lock guards. -/
structure ObservationRing where
  generation : Nat
  observationRing : RingBuffer HfxUapiObservation hfxObservationCapacity
  nextObservationSequence : Nat

def ObservationRing.empty (generation : Nat) : ObservationRing where
  generation := generation
  observationRing :=
    { slots := Vector.replicate hfxObservationCapacity {}
      head := 0
      count := 0
      head_lt := by decide
      count_le := Nat.zero_le _ }
  nextObservationSequence := 0

/-- What a caller reports; the ring numbers it. -/
structure ObservationReport where
  nowNs : Nat
  kind : Nat
  endpointSlot : Nat
  source : Nat
  confidence : Nat
  value : Nat
  auxiliary : Nat

def ObservationReport.numbered (report : ObservationReport) (sequence : Nat) : HfxUapiObservation where
  sequence := sequence
  observedBoottimeNs := report.nowNs
  kind := report.kind
  endpointSlot := report.endpointSlot
  source := report.source
  confidence := report.confidence
  value := report.value
  auxiliary := report.auxiliary

def hfxObservationAppendLocked (receiver : ObservationRing) (report : ObservationReport) : ObservationRing :=
  if receiver.nextObservationSequence = u64Max then receiver
  else
    { receiver with
      nextObservationSequence := receiver.nextObservationSequence + 1
      observationRing :=
        receiver.observationRing.push (report.numbered (receiver.nextObservationSequence + 1)) }

/-- The loop over the ring from an offset on; it stops when the batch is full. -/
def collectObservations (ring : RingBuffer HfxUapiObservation hfxObservationCapacity) :
    List Nat → HfxUapiReadObservations → HfxUapiReadObservations
  | [], query => query
  | offset :: offsets, query =>
    if query.count < hfxUapiMaxObservations then
      let observation := ring.slot (ring.start + offset)
      if observation.sequence ≤ query.afterSequence then collectObservations ring offsets query
      else collectObservations ring offsets
        { query with
          count := query.count + 1
          observations := query.observations.set query.count observation }
    else query

def hfxObservationRead (receiver : ObservationRing) (query : HfxUapiReadObservations) :
    Except Int HfxUapiReadObservations :=
  if query.version ≠ hfxUapiAbiVersion ∨ query.size ≠ hfxUapiReadObservationsBytes then
    .error (-Errno.eproto)
  else if query.receiverGeneration ≠ receiver.generation then .error (-Errno.estale)
  else if query.oldestSequence ≠ 0 ∨ query.latestSequence ≠ 0 ∨ query.flags ≠ 0 ∨ query.count ≠ 0 ∨
      query.observations ≠ List.replicate hfxUapiMaxObservations {} then .error (-Errno.einval)
  else if receiver.nextObservationSequence < query.afterSequence then .error (-Errno.erange)
  else
    let ring := receiver.observationRing
    let latest := receiver.nextObservationSequence
    if ring.count = 0 then .ok { query with oldestSequence := 0, latestSequence := latest }
    else
      let oldest := (ring.slot ring.start).sequence
      let gap := query.afterSequence ≠ 0 ∧ query.afterSequence < oldest ∧ 1 < oldest - query.afterSequence
      let flagged := if gap then
          { query with flags := query.flags ||| hfxUapiObservationBatchFlagCursorGap }
        else query
      .ok { collectObservations ring (List.range ring.count) flagged with
        oldestSequence := oldest
        latestSequence := latest }

end HyperfluxNext
