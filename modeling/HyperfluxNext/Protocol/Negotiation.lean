import HyperfluxNext.Domain.Values
import HyperfluxNext.Library.Procedure

namespace HyperfluxNext

open Procedure

abbrev ProtocolSessionId := Text 1 128
abbrev NegotiationToken := Text 1 160
abbrev ProtocolFeatureId := Text 1 128
abbrev ProtocolVersion := Bounded 1 u16Max
abbrev ServerInstanceId := Text 1 128
abbrev ComponentVersion := Text 1 64
abbrev ClientName := Text 1 128

structure ProtocolVersionDescriptor where
  version : Nat
  catalogFeatures : List String
  servedFeatures : List String

/-- The protocol versions a bridge serves, in ascending order. -/
structure ProtocolContract where
  versions : List ProtocolVersionDescriptor

structure ClientHello where
  clientId : ClientId
  clientName : ClientName
  minimumVersion : ProtocolVersion
  maximumVersion : ProtocolVersion
  requiredFeatures : List ProtocolFeatureId
  optionalFeatures : List ProtocolFeatureId
deriving DecidableEq

structure ServerHello where
  selectedVersion : ProtocolVersion
  serverInstanceId : ServerInstanceId
  protocolSessionId : ProtocolSessionId
  negotiationToken : NegotiationToken
  bridgeVersion : ComponentVersion
  enabledFeatures : List ProtocolFeatureId
  eventBufferCapacity : Nat
deriving DecidableEq

structure NegotiationContext where
  serverInstanceId : ServerInstanceId
  protocolSessionId : ProtocolSessionId
  negotiationToken : NegotiationToken
  bridgeVersion : ComponentVersion
  eventBufferCapacity : Nat

inductive NegotiationError where
  | invalidClientRange | invalidServerRange | incompatibleVersion | tooManyFeatures
  | duplicateFeature | unsupportedRequiredFeatures (features : List ProtocolFeatureId)
  | invalidBridgeContract
deriving DecidableEq

def ascending (features : List String) : Bool :=
  match features with
  | first :: second :: rest => first < second && ascending (second :: rest)
  | _ => true

def ascendingVersions (versions : List ProtocolVersionDescriptor) : Bool :=
  match versions with
  | first :: second :: rest => first.version < second.version && ascendingVersions (second :: rest)
  | _ => true

def validateContractVersions : List ProtocolVersionDescriptor → Except NegotiationError Unit
  | [] => .ok ()
  | version :: versions => do
    reject (version.version = 0 ∨ 64 < version.servedFeatures.length ∨
      ¬ ascending version.servedFeatures ∨
      (version.servedFeatures.any fun feature => feature ∉ version.catalogFeatures))
      .invalidBridgeContract
    validateContractVersions versions

def validateContract (contract : ProtocolContract) : Except NegotiationError Unit := do
  reject (contract.versions = [] ∨ ¬ ascendingVersions contract.versions) .invalidServerRange
  validateContractVersions contract.versions

def serves (version : ProtocolVersionDescriptor) (feature : ProtocolFeatureId) : Bool :=
  feature.asStr ∈ version.servedFeatures

def unsupportedFeatures (hello : ClientHello) (versions : List ProtocolVersionDescriptor) :
    List ProtocolFeatureId :=
  let unsupported := hello.requiredFeatures.filter fun feature => ¬ versions.any (serves · feature)
  if unsupported = [] then hello.requiredFeatures else unsupported

def serverHello (hello : ClientHello) (context : NegotiationContext)
    (selected : ProtocolVersionDescriptor) : Except NegotiationError ServerHello :=
  let unsupported := hello.requiredFeatures.filter fun feature => ¬ serves selected feature
  if unsupported ≠ [] then .error (.unsupportedRequiredFeatures unsupported)
  else
    match Bounded.tryFrom 1 u16Max selected.version with
    | none => .error .invalidBridgeContract
    | some selectedVersion => .ok {
        selectedVersion := selectedVersion
        serverInstanceId := context.serverInstanceId
        protocolSessionId := context.protocolSessionId
        negotiationToken := context.negotiationToken
        bridgeVersion := context.bridgeVersion
        enabledFeatures := ((hello.requiredFeatures ++ hello.optionalFeatures).filter
          fun feature => serves selected feature).mergeSort fun left right => left.asStr ≤ right.asStr
        eventBufferCapacity := context.eventBufferCapacity }

def negotiateWithContract (hello : ClientHello) (context : NegotiationContext)
    (contract : ProtocolContract) : Except NegotiationError ServerHello := do
  reject (hello.maximumVersion < hello.minimumVersion) .invalidClientRange
  validateContract contract
  reject (64 < hello.requiredFeatures.length ∨ 64 < hello.optionalFeatures.length) .tooManyFeatures
  reject (¬ hello.requiredFeatures.Nodup ∨ ¬ hello.optionalFeatures.Nodup ∨
    (hello.requiredFeatures.any fun feature => feature ∈ hello.optionalFeatures)) .duplicateFeature
  let overlapping := contract.versions.filter fun version =>
    hello.minimumVersion.get ≤ version.version ∧ version.version ≤ hello.maximumVersion.get
  reject (overlapping = []) .incompatibleVersion
  match overlapping.reverse.find? fun version => hello.requiredFeatures.all (serves version) with
  | none => throw (.unsupportedRequiredFeatures (unsupportedFeatures hello overlapping))
  | some selected => serverHello hello context selected

variable {hello : ClientHello} {context : NegotiationContext} {answer : ServerHello}

theorem serverHello_identities {selected : ProtocolVersionDescriptor}
    (h : serverHello hello context selected = .ok answer) :
    answer.protocolSessionId = context.protocolSessionId ∧
      answer.negotiationToken = context.negotiationToken := by
  unfold serverHello at h
  dsimp only at h
  split at h
  · cases h
  split at h
  · cases h
  cases h
  exact ⟨rfl, rfl⟩

/-- An answer carries the identities it was asked to carry. -/
theorem negotiateWithContract_identities {contract : ProtocolContract}
    (h : negotiateWithContract hello context contract = .ok answer) :
    answer.protocolSessionId = context.protocolSessionId ∧
      answer.negotiationToken = context.negotiationToken := by
  unfold negotiateWithContract at h
  obtain ⟨_, _, h⟩ := bind_eq_ok h
  obtain ⟨_, _, h⟩ := bind_eq_ok h
  obtain ⟨_, _, h⟩ := bind_eq_ok h
  obtain ⟨_, _, h⟩ := bind_eq_ok h
  dsimp only at h
  obtain ⟨_, _, h⟩ := bind_eq_ok h
  split at h
  · cases h
  · exact serverHello_identities h

end HyperfluxNext
