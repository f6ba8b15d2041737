import HyperfluxNext.Protocol.Canonical
import HyperfluxNext.Protocol.Validation

namespace HyperfluxNext

open Procedure

structure EventCursor where
  streamId : StreamId
  streamEpoch : StreamEpoch
  projectionRevision : ProjectionRevision
  sequence : SequenceNumber

structure SubscriptionRequest where
  clientId : ClientId
  subscriptionId : Option SubscriptionId
  expectedCursor : Option EventCursor
  maxEvents : EventBatchLimit

structure EventBatch where
  subscriptionId : SubscriptionId
  nextCursor : EventCursor
  events : List BridgeEvent
  oldestAvailable : SequenceNumber
  latestAvailable : SequenceNumber
  droppedEvents : DroppedEventCount
  cursorGap : Bool
  hasMore : Bool

def validateEventBatch (batch : EventBatch) : Except ProtocolWireError Unit := do
  reject (batch.events.length > 256) (.invalidResponse "event batch exceeds the event bound")
  reject (batch.latestAvailable < batch.oldestAvailable ∨
      anyWindowUnordered (batch.events.map (·.sequence)) ∨
      (batch.events.any fun event =>
        event.sequence < batch.oldestAvailable ∨ batch.latestAvailable < event.sequence) ∨
      (batch.events.getLast?.any fun event => event.sequence ≠ batch.nextCursor.sequence) ∨
      (batch.cursorGap ∧ (batch.events ≠ [] ∨ batch.hasMore)) ∨
      (batch.hasMore ∧ batch.latestAvailable ≤ batch.nextCursor.sequence))
    (.invalidResponse "event batch cursor and sequence facts contradict")

end HyperfluxNext
