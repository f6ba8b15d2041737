import Std.Data.TreeMap
import HyperfluxNext.Domain.Enums

namespace HyperfluxNext

structure RuntimeCapability where
  id : CapabilityId
  supportLevel : SupportLevel
  writable : Bool

structure RuntimeQualificationMigration where
  fromRuntimeDigest : ProfileDigest
  preserveStageRoles : List String

structure RuntimeLightingTopology where
  applicationSlotCount : LedCount
  carrierCount : LedCount
  rows : Nat
  columns : Nat
  applicationIndexToCarrier : List CarrierIndex

structure NativeExchangeProfile where
  protocolFamily : String
  reportBytes : Nat

/-- The parts of a generated profile that the bridge authorizes and the encoder paints by. -/
structure RuntimeProfile where
  profileId : ProfileId
  runtimeDigest : ProfileDigest
  profileKind : ProfileKind
  deviceKind : DeviceKind
  vendorId : Option VendorId
  protocolFamily : Option String
  receiverProtocols : List String
  routes : List RouteKind
  supportedChildKinds : List DeviceKind
  requiredSiblingKinds : List DeviceKind
  capabilities : List RuntimeCapability
  nativeExchange : Option NativeExchangeProfile
  lighting : Option RuntimeLightingTopology
  qualificationMigrations : List RuntimeQualificationMigration

structure RuntimeProfileCatalog where
  profiles : Std.TreeMap ProfileId RuntimeProfile
  receivers : VendorId → ProductId → Option ProfileId

namespace RuntimeProfileCatalog

def profile (catalog : RuntimeProfileCatalog) (profileId : ProfileId) : Option RuntimeProfile :=
  catalog.profiles[profileId]?

def receiver (catalog : RuntimeProfileCatalog) (vendorId : VendorId) (productId : ProductId) :
    Option RuntimeProfile :=
  (catalog.receivers vendorId productId).bind catalog.profile

end RuntimeProfileCatalog

end HyperfluxNext
