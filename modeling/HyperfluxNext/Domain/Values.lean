import Mathlib.Algebra.Order.Ring.Nat

namespace HyperfluxNext

def u16Max : Nat := 65535

def u32Max : Nat := 4294967295

def u64Max : Nat := 18446744073709551615

/-- A domain number: the canonical range is checked when the value is built. -/
structure Bounded (lo hi : Nat) where
  get : Nat
  lower : lo ≤ get
  upper : get ≤ hi
deriving DecidableEq

def Bounded.tryFrom (lo hi value : Nat) : Option (Bounded lo hi) :=
  if h : lo ≤ value ∧ value ≤ hi then some ⟨value, h.1, h.2⟩ else none

instance {lo hi : Nat} : LE (Bounded lo hi) := ⟨fun a b => a.get ≤ b.get⟩

instance {lo hi : Nat} : LT (Bounded lo hi) := ⟨fun a b => a.get < b.get⟩

instance {lo hi : Nat} (a b : Bounded lo hi) : Decidable (a ≤ b) := inferInstanceAs (Decidable (a.get ≤ b.get))

instance {lo hi : Nat} (a b : Bounded lo hi) : Decidable (a < b) := inferInstanceAs (Decidable (a.get < b.get))

instance {lo hi : Nat} : Ord (Bounded lo hi) := ⟨compareOn Bounded.get⟩

theorem Bounded.le_iff {lo hi : Nat} {a b : Bounded lo hi} : a ≤ b ↔ a.get ≤ b.get := Iff.rfl

theorem Bounded.lt_iff {lo hi : Nat} {a b : Bounded lo hi} : a < b ↔ a.get < b.get := Iff.rfl

theorem Bounded.ext_get {lo hi : Nat} {a b : Bounded lo hi} (h : a.get = b.get) : a = b := by
  cases a; cases b; simp_all

theorem Bounded.tryFrom_of_mem {lo hi value : Nat} (hl : lo ≤ value) (hu : value ≤ hi) :
    Bounded.tryFrom lo hi value = some ⟨value, hl, hu⟩ := by
  simp [Bounded.tryFrom, hl, hu]

theorem Bounded.get_of_tryFrom {lo hi value : Nat} {b : Bounded lo hi}
    (h : Bounded.tryFrom lo hi value = some b) : b.get = value := by
  unfold Bounded.tryFrom at h
  split at h
  · cases h; rfl
  · cases h

/-- A domain identity or digest: a text whose length in bytes lies in the canonical range. -/
structure Text (lo hi : Nat) where
  asStr : String
  lower : lo ≤ asStr.utf8ByteSize
  upper : asStr.utf8ByteSize ≤ hi
deriving DecidableEq

def Text.tryFrom (lo hi : Nat) (value : String) : Option (Text lo hi) :=
  if h : lo ≤ value.utf8ByteSize ∧ value.utf8ByteSize ≤ hi then some ⟨value, h.1, h.2⟩ else none

theorem Text.ext_asStr {lo hi : Nat} {a b : Text lo hi} (h : a.asStr = b.asStr) : a = b := by
  cases a; cases b; simp_all

instance : LawfulBEq (Text 1 128) := inferInstance

instance {lo hi : Nat} : Ord (Text lo hi) := ⟨compareOn Text.asStr⟩

instance {lo hi : Nat} : Std.TransOrd (Text lo hi) := inferInstanceAs (Std.TransCmp (compareOn Text.asStr))

instance {lo hi : Nat} : Std.LawfulEqOrd (Text lo hi) where
  eq_of_compare h := Text.ext_asStr (Std.LawfulEqOrd.eq_of_compare h)

instance {lo hi : Nat} : Std.TransOrd (Bounded lo hi) := inferInstanceAs (Std.TransCmp (compareOn Bounded.get))

instance {lo hi : Nat} : Std.LawfulEqOrd (Bounded lo hi) where
  eq_of_compare h := Bounded.ext_get (Std.LawfulEqOrd.eq_of_compare h)

abbrev GenerationId := Bounded 1 u64Max
abbrev SequenceNumber := Bounded 0 u64Max
abbrev LedCount := Bounded 0 4096
abbrev CarrierIndex := Bounded 0 4095
abbrev MonotonicMs := Bounded 0 u64Max
abbrev FrameIndex := Bounded 0 u32Max
abbrev FrameCount := Bounded 1 4096
abbrev ColorChannel := Bounded 0 255
abbrev DeliveredFrameCount := Bounded 0 4096
abbrev LeaseDurationMs := Bounded 1000 3600000
abbrev StreamEpoch := Bounded 1 u64Max
abbrev ProjectionRevision := Bounded 1 u32Max
abbrev DroppedEventCount := Bounded 0 u64Max
abbrev IntentRevision := Bounded 1 u64Max
abbrev PersistenceRevision := Bounded 1 u64Max
abbrev PersistenceSchemaVersion := Bounded 1 u16Max
abbrev RestoreAttemptNumber := Bounded 1 u32Max
abbrev AuthorizationEpoch := Bounded 1 u64Max
abbrev DispatchNonce := Bounded 1 u64Max
abbrev WallClockUnixMs := Bounded 0 u64Max
abbrev VendorId := Bounded 0 u16Max
abbrev ProductId := Bounded 0 u16Max
abbrev BatteryPercent := Bounded 0 100
abbrev EventBatchLimit := Bounded 1 256

abbrev ReceiverId := Text 1 128
abbrev LogicalDeviceId := Text 1 128
abbrev LeaseId := Text 1 128
abbrev TransactionId := Text 1 128
abbrev ProfileId := Text 1 128
abbrev ClientId := Text 1 128
abbrev RequestId := Text 1 128
abbrev FindingId := Text 1 128
abbrev StreamId := Text 1 128
abbrev SubscriptionId := Text 1 128
abbrev SessionId := Text 1 128
abbrev RestoreClaimId := Text 1 128
abbrev RestoreTriggerId := Text 1 128
abbrev EndpointId := Text 1 128
abbrev EvidenceClaimId := Text 1 128
abbrev CapabilityId := Text 1 128
abbrev ProfileDigest := Text 64 64
abbrev RequestDigest := Text 64 64
abbrev IntentDigest := Text 64 64

theorem litChecked : true = true := rfl

/-- A literal number; its range is evaluated where it is written. -/
abbrev Bounded.lit {lo hi : Nat} (value : Nat) (h : decide (lo ≤ value ∧ value ≤ hi) = true := by exact litChecked) :
    Bounded lo hi :=
  ⟨value, (of_decide_eq_true h).1, (of_decide_eq_true h).2⟩

/-- A literal text, as a literal number. -/
abbrev Text.lit {lo hi : Nat} (value : String)
    (h : decide (lo ≤ value.utf8ByteSize ∧ value.utf8ByteSize ≤ hi) = true := by exact litChecked) : Text lo hi :=
  ⟨value, (of_decide_eq_true h).1, (of_decide_eq_true h).2⟩

end HyperfluxNext
