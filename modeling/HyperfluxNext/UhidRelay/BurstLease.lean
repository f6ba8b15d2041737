import HyperfluxNext.Protocol.Messages
import HyperfluxNext.UhidRelay.Endpoint

namespace HyperfluxNext

namespace UhidRelay

def leaseDurationMs : Nat := 30000

/-- Instants and durations are in nanoseconds. -/
def leaseIdleRelease : Nat := 25 * 1000000

def leaseRenewAfter : Nat := leaseDurationMs / 2 * 1000000

/-- The lease operations one burst needs. Each may change the channel, and time may pass in each. -/
class LeaseChannel (C : Type) where
  now : C → Nat × C
  acquire : ResourceKey → C → Except BridgeExchangeFailure LeaseId × C
  renew : LeaseId → C → Except BridgeExchangeFailure Unit × C
  exchangeLeased : LeaseId → FeatureReport → C → BridgeExchangeResult × C
  release : LeaseId → C → C

structure HeldLease where
  leaseId : LeaseId
  grantedAt : Nat
  lastExchange : Nat

/-- Keeps one `NativeControl` lease across a burst of exchanges. -/
structure BurstLease where
  held : Option HeldLease

def BridgeExchangeResult.isMatched : BridgeExchangeResult → Bool
  | .matchedResponse _ => true
  | _ => false

namespace BurstLease

def releaseDeadline (lease : BurstLease) : Option Nat :=
  lease.held.map fun held => held.lastExchange + leaseIdleRelease

variable {C : Type} [LeaseChannel C]

def release (lease : BurstLease) (channel : C) : BurstLease × C :=
  match lease.held with
  | some held => (⟨none⟩, LeaseChannel.release held.leaseId channel)
  | none => (lease, channel)

/-- A failed renewal gives the lease back, so that this exchange acquires afresh. -/
def renewIfDue (now : Nat) (lease : BurstLease) (channel : C) : BurstLease × C :=
  match lease.held with
  | none => (lease, channel)
  | some held =>
    if now - held.grantedAt < leaseRenewAfter then (lease, channel)
    else
      match LeaseChannel.renew held.leaseId channel with
      | (.ok _, channel) => (⟨some { held with grantedAt := now }⟩, channel)
      | (.error _, channel) => lease.release channel

def heldOrAcquired (resource : ResourceKey) (started : Nat) (lease : BurstLease) (channel : C) :
    Except BridgeExchangeFailure LeaseId × BurstLease × C :=
  match lease.held with
  | some held => (.ok held.leaseId, lease, channel)
  | none =>
    match LeaseChannel.acquire resource channel with
    | (.ok leaseId, channel) => (.ok leaseId, ⟨some ⟨leaseId, started, started⟩⟩, channel)
    | (.error failure, channel) => (.error failure, lease, channel)

/-- A matched exchange keeps the lease, any other outcome gives it back at once. -/
def settle (result : BridgeExchangeResult) (lease : BurstLease) (channel : C) : BurstLease × C :=
  match result, lease.held with
  | .matchedResponse _, some held =>
    let reading := LeaseChannel.now channel
    (⟨some { held with lastExchange := reading.1 }⟩, reading.2)
  | _, _ => lease.release channel

def exchange (resource : ResourceKey) (report : FeatureReport) (lease : BurstLease) (channel : C) :
    BridgeExchangeResult × BurstLease × C :=
  let started := LeaseChannel.now channel
  let renewed := lease.renewIfDue started.1 started.2
  match heldOrAcquired resource started.1 renewed.1 renewed.2 with
  | (.error failure, lease, channel) => (.notSent failure, lease, channel)
  | (.ok leaseId, lease, channel) =>
    let answered := LeaseChannel.exchangeLeased leaseId report channel
    (answered.1, lease.settle answered.1 answered.2)

def releaseIfIdle (now : Nat) (lease : BurstLease) (channel : C) : BurstLease × C :=
  if lease.releaseDeadline.any (· ≤ now) then lease.release channel else (lease, channel)

end BurstLease

/-- One relay endpoint's bridge connection, the resource of its route, and the lease it keeps across a burst. -/
structure NativeBridge (C : Type) where
  channel : C
  resource : Option ResourceKey
  lease : BurstLease

namespace NativeBridge

variable {C : Type}

def connect (channel : C) (resource : Option ResourceKey) : NativeBridge C := ⟨channel, resource, ⟨none⟩⟩

variable [LeaseChannel C]

def releaseIdleLease (now : Nat) (bridge : NativeBridge C) : NativeBridge C :=
  let (lease, channel) := bridge.lease.releaseIfIdle now bridge.channel
  { bridge with channel := channel, lease := lease }

def releaseLease (bridge : NativeBridge C) : NativeBridge C :=
  let (lease, channel) := bridge.lease.release bridge.channel
  { bridge with channel := channel, lease := lease }

end NativeBridge

instance {C : Type} [LeaseChannel C] : BridgeExchange (NativeBridge C) where
  exchange report bridge :=
    match bridge.resource with
    | none => (.notSent .missingRouteAuthority, bridge)
    | some resource =>
      let (result, lease, channel) := bridge.lease.exchange resource report bridge.channel
      (result, { bridge with channel := channel, lease := lease })

end UhidRelay

end HyperfluxNext
