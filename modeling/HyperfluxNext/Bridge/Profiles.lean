import HyperfluxNext.Core.Ports
import HyperfluxNext.Lifecycle.Machine
import HyperfluxNext.Profiles.Catalog

namespace HyperfluxNext

structure ReceiverProfileBinding where
  receiverId : ReceiverId
  generationId : GenerationId
  profileId : ProfileId
  profileDigest : ProfileDigest
  protocolFamily : String

inductive ProfileBindingOutcome where
  | bound
  | unchanged
  | replaced (previousGeneration : GenerationId)

inductive RuntimeProfileAuthorityError where
  | invalidCapacity
  | unsupportedReceiver (vendorId : VendorId) (productId : ProductId)
  | missingProtocolFamily (profileId : ProfileId)
  | capacityExhausted
  | conflictingBinding (receiverId : ReceiverId) (generationId : GenerationId)

structure RuntimeProfileAuthority where
  catalog : RuntimeProfileCatalog
  capacity : Nat
  bindings : Std.TreeMap ReceiverId ReceiverProfileBinding

namespace RuntimeProfileAuthority

def new (catalog : RuntimeProfileCatalog) (capacity : Nat) :
    Except RuntimeProfileAuthorityError RuntimeProfileAuthority :=
  if 1 ≤ capacity ∧ capacity ≤ 16 then .ok ⟨catalog, capacity, ∅⟩ else .error .invalidCapacity

def bind (authority : RuntimeProfileAuthority) (next : ReceiverProfileBinding) :
    Except RuntimeProfileAuthorityError (ProfileBindingOutcome × RuntimeProfileAuthority) :=
  match authority.bindings[next.receiverId]? with
  | some current =>
    if next.generationId = current.generationId then
      if current.profileId = next.profileId ∧ current.profileDigest = next.profileDigest ∧
          current.protocolFamily = next.protocolFamily then
        .ok (.unchanged, authority)
      else
        .error (.conflictingBinding next.receiverId next.generationId)
    else
      .ok (.replaced current.generationId,
        { authority with bindings := authority.bindings.insert next.receiverId next })
  | none =>
    if authority.bindings.size = authority.capacity then
      .error .capacityExhausted
    else
      .ok (.bound, { authority with bindings := authority.bindings.insert next.receiverId next })

/-- Binds one observed receiver USB identity to one exact generation. -/
def bindReceiver (authority : RuntimeProfileAuthority) (receiverId : ReceiverId)
    (generationId : GenerationId) (vendorId : VendorId) (productId : ProductId) :
    Except RuntimeProfileAuthorityError (ProfileBindingOutcome × RuntimeProfileAuthority) :=
  match authority.catalog.receiver vendorId productId with
  | none => .error (.unsupportedReceiver vendorId productId)
  | some profile =>
    match profile.protocolFamily with
    | none => .error (.missingProtocolFamily profile.profileId)
    | some protocolFamily =>
      authority.bind ⟨receiverId, generationId, profile.profileId, profile.runtimeDigest, protocolFamily⟩

/-- Removes only the exact active generation binding. -/
def retire (authority : RuntimeProfileAuthority) (receiverId : ReceiverId)
    (generationId : GenerationId) : Bool × RuntimeProfileAuthority :=
  if authority.bindings[receiverId]?.any (·.generationId = generationId) then
    (true, { authority with bindings := authority.bindings.erase receiverId })
  else
    (false, authority)

def binding (authority : RuntimeProfileAuthority) (receiverId : ReceiverId) : Option ReceiverProfileBinding :=
  authority.bindings[receiverId]?

end RuntimeProfileAuthority

end HyperfluxNext
