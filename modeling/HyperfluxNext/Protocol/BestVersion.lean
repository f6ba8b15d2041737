import HyperfluxNext.Protocol.Negotiation
import Mathlib.Data.List.Sort
import Mathlib.Data.String.Basic

namespace HyperfluxNext

open Procedure List

/-- An offer that negotiation reads: an interval, and at most 64 features on each list, each of them once. -/
structure ClientHello.WellFormed (hello : ClientHello) : Prop where
  range : hello.minimumVersion.get ≤ hello.maximumVersion.get
  few : hello.requiredFeatures.length ≤ 64 ∧ hello.optionalFeatures.length ≤ 64
  nodup : hello.requiredFeatures.Nodup ∧ hello.optionalFeatures.Nodup
  disjoint : ∀ feature ∈ hello.requiredFeatures, feature ∉ hello.optionalFeatures

def ClientHello.Fits (hello : ClientHello) (version : ProtocolVersionDescriptor) : Prop :=
  (hello.minimumVersion.get ≤ version.version ∧ version.version ≤ hello.maximumVersion.get) ∧
    ∀ feature ∈ hello.requiredFeatures, serves version feature = true

structure BestAnswer (hello : ClientHello) (context : NegotiationContext) (contract : ProtocolContract)
    (answer : ServerHello) (selected : ProtocolVersionDescriptor) : Prop where
  served : selected ∈ contract.versions
  fits : hello.Fits selected
  newest : ∀ version ∈ contract.versions, hello.Fits version → version.version ≤ selected.version
  version : answer.selectedVersion.get = selected.version
  enabled : ∀ feature, feature ∈ answer.enabledFeatures ↔
    (feature ∈ hello.requiredFeatures ∨ feature ∈ hello.optionalFeatures) ∧ serves selected feature = true
  sorted : answer.enabledFeatures.Pairwise fun left right => left.asStr < right.asStr
  identities : answer = ⟨answer.selectedVersion, context.serverInstanceId, context.protocolSessionId,
    context.negotiationToken, context.bridgeVersion, answer.enabledFeatures, context.eventBufferCapacity⟩

variable {hello : ClientHello} {context : NegotiationContext} {contract : ProtocolContract} {answer : ServerHello}
  {selected : ProtocolVersionDescriptor}

theorem ascendingVersions_pairwise {versions : List ProtocolVersionDescriptor}
    (h : ascendingVersions versions = true) :
    versions.Pairwise fun earlier later => earlier.version < later.version := by
  induction versions with
  | nil => exact .nil
  | cons first rest ih =>
    cases rest with
    | nil => simp
    | cons second rest =>
      simp only [ascendingVersions, Bool.and_eq_true, decide_eq_true_eq] at h
      have hrest := ih h.2
      refine .cons ?_ hrest
      intro later hlater
      obtain rfl | hlater := mem_cons.mp hlater
      · exact h.1
      have := rel_of_pairwise_cons hrest hlater
      omega

theorem validateContract_ascending (h : validateContract contract = .ok ()) :
    contract.versions.Pairwise fun earlier later => earlier.version < later.version := by
  obtain ⟨_, hrange, _⟩ := bind_eq_ok h
  have hrange := reject_eq_ok hrange
  simp only [not_or, Bool.not_eq_true, Bool.not_eq_false] at hrange
  exact ascendingVersions_pairwise (by simpa using hrange.2)

/-- The versions in the client's range, the newest first. -/
def ClientHello.inReach (hello : ClientHello) (contract : ProtocolContract) : List ProtocolVersionDescriptor :=
  (contract.versions.filter fun version =>
    hello.minimumVersion.get ≤ version.version ∧ version.version ≤ hello.maximumVersion.get).reverse

theorem mem_inReach {version : ProtocolVersionDescriptor} : version ∈ hello.inReach contract ↔
    version ∈ contract.versions ∧ hello.minimumVersion.get ≤ version.version ∧
      version.version ≤ hello.maximumVersion.get := by
  simp [ClientHello.inReach]

theorem negotiate_eq_ok (hcontract : validateContract contract = .ok ()) :
    negotiateWithContract hello context contract = .ok answer ↔ hello.WellFormed ∧
      ∃ selected, (hello.inReach contract).find? (fun version => hello.requiredFeatures.all (serves version)) =
        some selected ∧ serverHello hello context selected = .ok answer := by
  constructor
  · intro h
    obtain ⟨_, hrange, h⟩ := bind_eq_ok h
    obtain ⟨_, _, h⟩ := bind_eq_ok h
    obtain ⟨_, hfew, h⟩ := bind_eq_ok h
    obtain ⟨_, hduplicate, h⟩ := bind_eq_ok h
    obtain ⟨_, _, h⟩ := bind_eq_ok h
    have hfew := reject_eq_ok hfew
    have hduplicate := reject_eq_ok hduplicate
    simp only [not_or, not_not, any_eq_true, decide_eq_true_eq, not_exists, not_and] at hduplicate
    refine ⟨⟨Nat.not_lt.mp fun hlt => reject_eq_ok hrange (Bounded.lt_iff.mpr hlt), by omega, ⟨hduplicate.1, hduplicate.2.1⟩, hduplicate.2.2⟩, ?_⟩
    split at h
    · cases h
    next selected hfind => exact ⟨selected, hfind, h⟩
  intro ⟨hwell, selected, hfind, hanswer⟩
  have hreach := mem_of_find?_eq_some hfind
  have hnonempty : (contract.versions.filter fun version =>
      hello.minimumVersion.get ≤ version.version ∧ version.version ≤ hello.maximumVersion.get) ≠ [] := by
    intro hempty
    rw [ClientHello.inReach, hempty] at hreach
    exact not_mem_nil hreach
  have hdisjoint : (hello.requiredFeatures.any fun feature => feature ∈ hello.optionalFeatures) = false := by
    simpa using hwell.disjoint
  have hfew := hwell.few
  have hrange : ¬ hello.maximumVersion < hello.minimumVersion := fun hlt =>
    absurd (Bounded.lt_iff.mp hlt) (Nat.not_lt.mpr hwell.range)
  unfold negotiateWithContract
  simp only [reject_of_not hrange, hcontract, bind, Except.bind]
  rw [reject_of_not (by omega)]
  dsimp only
  rw [reject_of_not (by simp [hwell.nodup.1, hwell.nodup.2, hdisjoint])]
  dsimp only
  rw [reject_of_not hnonempty]
  dsimp only
  unfold ClientHello.inReach at hfind
  rw [hfind]
  exact hanswer

theorem serverHello_fields (h : serverHello hello context selected = .ok answer) :
    (∀ feature ∈ hello.requiredFeatures, serves selected feature = true) ∧
      answer.selectedVersion.get = selected.version ∧
      answer = ⟨answer.selectedVersion, context.serverInstanceId, context.protocolSessionId,
        context.negotiationToken, context.bridgeVersion,
        ((hello.requiredFeatures ++ hello.optionalFeatures).filter fun feature =>
          serves selected feature).mergeSort fun left right => left.asStr ≤ right.asStr,
        context.eventBufferCapacity⟩ := by
  unfold serverHello at h
  dsimp only at h
  split at h
  · cases h
  next hserved =>
    split at h
    · cases h
    next version hversion =>
      cases h
      exact ⟨by simpa [filter_eq_nil_iff] using hserved, Bounded.get_of_tryFrom hversion, rfl⟩

theorem serverHello_eq_ok (hfits : hello.Fits selected) :
    ∃ answer, serverHello hello context selected = .ok answer := by
  have hserved : (hello.requiredFeatures.filter fun feature => ¬ serves selected feature) = [] := by
    simpa [filter_eq_nil_iff] using hfits.2
  have hlow := hello.minimumVersion.lower
  have hhigh := hello.maximumVersion.upper
  have hrange := hfits.1
  have hversion := Bounded.tryFrom_of_mem (show 1 ≤ selected.version by omega)
    (show selected.version ≤ u16Max by omega)
  unfold serverHello
  dsimp only
  rw [if_neg (not_not.mpr hserved), hversion]
  exact ⟨_, rfl⟩

theorem enabled_sorted (features : List ProtocolFeatureId) (hnodup : features.Nodup) :
    (features.mergeSort fun left right => left.asStr ≤ right.asStr).Pairwise
      fun left right => left.asStr < right.asStr := by
  have hsorted : (features.mergeSort fun left right => left.asStr ≤ right.asStr).Pairwise
      fun left right => decide (left.asStr ≤ right.asStr) = true :=
    pairwise_mergeSort (by simpa using fun a b c => String.le_trans) (by simpa using fun a b => le_total _ _)
      features
  have hdistinct := (mergeSort_perm features fun left right => left.asStr ≤ right.asStr).nodup_iff.mpr hnodup
  refine (hsorted.and hdistinct).imp ?_
  intro left right h
  exact lt_of_le_of_ne (by simpa using h.1) fun heq => h.2 (Text.ext_asStr heq)

theorem negotiate_best (hcontract : validateContract contract = .ok ())
    (h : negotiateWithContract hello context contract = .ok answer) :
    hello.WellFormed ∧ ∃ selected, BestAnswer hello context contract answer selected := by
  obtain ⟨hwell, selected, hfind, hanswer⟩ := (negotiate_eq_ok hcontract).mp h
  obtain ⟨hserved, hversion, hanswer⟩ := serverHello_fields hanswer
  have henabled := congrArg ServerHello.enabledFeatures hanswer
  dsimp only at henabled
  have hreach := mem_inReach.mp (mem_of_find?_eq_some hfind)
  refine ⟨hwell, selected, hreach.1, ⟨hreach.2, hserved⟩, ?_, hversion, ?_, ?_, henabled ▸ hanswer⟩
  · intro version hmem hfits
    obtain ⟨-, newer, older, hsplit, hfail⟩ := find?_eq_some_iff_append.mp hfind
    have horder : (hello.inReach contract).Pairwise fun newer older => older.version < newer.version := by
      unfold ClientHello.inReach
      rw [pairwise_reverse]
      exact (validateContract_ascending hcontract).filter _
    have hin : version ∈ newer ++ selected :: older := hsplit ▸ mem_inReach.mpr ⟨hmem, hfits.1⟩
    rw [hsplit] at horder
    obtain hnewer | hrest := mem_append.mp hin
    · have := hfail version hnewer
      simp only [Bool.not_eq_true', all_eq_false] at this
      obtain ⟨feature, hfeature, hnot⟩ := this
      exact absurd (hfits.2 feature hfeature) hnot
    obtain rfl | holder := mem_cons.mp hrest
    · exact Nat.le_refl _
    have := rel_of_pairwise_cons (pairwise_append.mp horder).2.1 holder
    omega
  · intro feature
    rw [henabled, (mergeSort_perm _ _).mem_iff]
    simp [or_and_right]
  · rw [henabled]
    apply enabled_sorted
    apply List.Nodup.filter
    exact nodup_append.mpr ⟨hwell.nodup.1, hwell.nodup.2, fun a ha b hb hab => hwell.disjoint a ha (hab ▸ hb)⟩

theorem negotiate_answers (hcontract : validateContract contract = .ok ()) :
    (∃ answer, negotiateWithContract hello context contract = .ok answer) ↔
      hello.WellFormed ∧ ∃ version ∈ contract.versions, hello.Fits version := by
  constructor
  · intro ⟨answer, h⟩
    obtain ⟨hwell, selected, hbest⟩ := negotiate_best hcontract h
    exact ⟨hwell, selected, hbest.served, hbest.fits⟩
  intro ⟨hwell, version, hmem, hfits⟩
  have hsome : ((hello.inReach contract).find? fun version =>
      hello.requiredFeatures.all (serves version)).isSome := by
    rw [find?_isSome]
    exact ⟨version, mem_inReach.mpr ⟨hmem, hfits.1⟩, all_eq_true.mpr hfits.2⟩
  obtain ⟨selected, hfind⟩ := Option.isSome_iff_exists.mp hsome
  have hselected : hello.Fits selected := ⟨(mem_inReach.mp (mem_of_find?_eq_some hfind)).2, by
    simpa using find?_some hfind⟩
  obtain ⟨answer, hanswer⟩ : ∃ answer, serverHello hello context selected = .ok answer :=
    serverHello_eq_ok hselected
  exact ⟨answer, (negotiate_eq_ok hcontract).mpr ⟨hwell, selected, hfind, hanswer⟩⟩

theorem BestAnswer.unique {other : ServerHello} {selected' : ProtocolVersionDescriptor}
    (hcontract : validateContract contract = .ok ()) (h : BestAnswer hello context contract answer selected)
    (h' : BestAnswer hello context contract other selected') : answer = other := by
  have hversion : selected.version = selected'.version :=
    Nat.le_antisymm (h'.newest selected h.served h.fits) (h.newest selected' h'.served h'.fits)
  have hdistinct : (contract.versions.map (·.version)).Nodup :=
    pairwise_map.mpr ((validateContract_ascending hcontract).imp Nat.ne_of_lt)
  have hselected : selected = selected' := inj_on_of_nodup_map hdistinct h.served h'.served hversion
  have hfeatures : answer.enabledFeatures = other.enabledFeatures := by
    refine List.Perm.eq_of_pairwise (fun _ _ _ _ hab hba => absurd hab (lt_asymm hba)) h.sorted h'.sorted ?_
    have hnodup : ∀ {features : List ProtocolFeatureId},
        features.Pairwise (fun left right => left.asStr < right.asStr) → features.Nodup := by
      intro features hsorted
      exact hsorted.imp fun hlt heq => absurd (heq ▸ hlt) (lt_irrefl _)
    rw [perm_ext_iff_of_nodup (hnodup h.sorted) (hnodup h'.sorted)]
    intro feature
    rw [h.enabled, h'.enabled, hselected]
  have hselectedVersion : answer.selectedVersion = other.selectedVersion :=
    Bounded.ext_get (h.version.trans (hversion.trans h'.version.symm))
  rw [h.identities, h'.identities, hfeatures, hselectedVersion]

/-- Negotiation answers with the newest version that fits a well-formed offer and with nothing else, whatever
the order of the offer's lists; it refuses exactly the offers that are malformed or that no version fits. -/
theorem negotiation_best (context : NegotiationContext) (hcontract : validateContract contract = .ok ())
    (hello : ClientHello) :
    (∀ answer, negotiateWithContract hello context contract = .ok answer ↔
      hello.WellFormed ∧ ∃ selected, BestAnswer hello context contract answer selected) ∧
    ((∃ error, negotiateWithContract hello context contract = .error error) ↔
      ¬ hello.WellFormed ∨ ∀ version ∈ contract.versions, ¬ hello.Fits version) ∧
    (∀ required optional : List ProtocolFeatureId, required.Perm hello.requiredFeatures →
      optional.Perm hello.optionalFeatures → ∀ answer, negotiateWithContract hello context contract = .ok answer →
      negotiateWithContract { hello with requiredFeatures := required, optionalFeatures := optional }
        context contract = .ok answer) := by
  have hanswers : ∀ (hello : ClientHello) answer, negotiateWithContract hello context contract = .ok answer ↔
      hello.WellFormed ∧ ∃ selected, BestAnswer hello context contract answer selected := by
    intro hello answer
    refine ⟨negotiate_best hcontract, ?_⟩
    intro ⟨hwell, selected, hbest⟩
    obtain ⟨other, h⟩ := (negotiate_answers hcontract).mpr ⟨hwell, selected, hbest.served, hbest.fits⟩
    obtain ⟨_, _, hother⟩ := negotiate_best hcontract h
    rw [hbest.unique hcontract hother]
    exact h
  refine ⟨hanswers hello, ?_, ?_⟩
  · have hsome : (∃ answer, negotiateWithContract hello context contract = .ok answer) ↔
        hello.WellFormed ∧ ∃ version ∈ contract.versions, hello.Fits version := negotiate_answers hcontract
    cases h : negotiateWithContract hello context contract with
    | error error =>
      have hnone : ¬ (hello.WellFormed ∧ ∃ version ∈ contract.versions, hello.Fits version) := by
        rw [← hsome, h]
        simp
      have hbad := not_and_or.mp hnone
      simpa using hbad
    | ok answer =>
      obtain ⟨hwell, version, hmem, hfits⟩ := hsome.mp ⟨answer, h⟩
      simpa [hwell] using ⟨version, hmem, hfits⟩
  intro required optional hrequired hoptional answer h
  obtain ⟨hwell, selected, hbest⟩ := (hanswers hello answer).mp h
  have hfits : ∀ version, ClientHello.Fits { hello with
      requiredFeatures := required, optionalFeatures := optional } version ↔ hello.Fits version := by
    intro version
    simp [ClientHello.Fits, hrequired.mem_iff]
  refine (hanswers _ answer).mpr ⟨⟨hwell.range, ?_, ?_, ?_⟩, selected, hbest.served, ?_, ?_, hbest.version, ?_,
    hbest.sorted, hbest.identities⟩
  · exact ⟨hrequired.length_eq ▸ hwell.few.1, hoptional.length_eq ▸ hwell.few.2⟩
  · exact ⟨hrequired.nodup_iff.mpr hwell.nodup.1, hoptional.nodup_iff.mpr hwell.nodup.2⟩
  · simpa [hrequired.mem_iff, hoptional.mem_iff] using hwell.disjoint
  · exact (hfits selected).mpr hbest.fits
  · simpa [hfits] using hbest.newest
  · simpa [hrequired.mem_iff, hoptional.mem_iff] using hbest.enabled

def servedSample : ProtocolContract := ⟨[⟨5, ["lighting-v1"], ["lighting-v1"]⟩]⟩

def negotiationSample : NegotiationContext :=
  ⟨.lit "bridge", .lit "session", .lit "token",
    .lit "1.0.0", 64⟩

def lightingFeature : ProtocolFeatureId := .lit "lighting-v1"

def helloSample (required : List ProtocolFeatureId) : ClientHello :=
  ⟨.lit "client", .lit "client", .lit 5,
    .lit 5, required, []⟩

/-- The newest of three versions does not serve lighting. -/
def versionsSample : ProtocolContract :=
  ⟨[⟨5, ["lighting-v1"], ["lighting-v1"]⟩, ⟨6, ["lighting-v1", "native-v1"], ["lighting-v1", "native-v1"]⟩,
    ⟨7, ["lighting-v1", "native-v1"], ["native-v1"]⟩]⟩

def rangeSample : ClientHello :=
  { helloSample [lightingFeature] with
    maximumVersion := .lit 7
    optionalFeatures := [.lit "restore-v1", .lit "native-v1"] }

theorem negotiation_best_sample : ∃ answer selected,
    BestAnswer rangeSample negotiationSample versionsSample answer selected ∧ selected.version = 6 := by
  have h := negotiation_best negotiationSample (show validateContract versionsSample = .ok () by decide)
    rangeSample
  obtain ⟨answer, hanswer, hversion⟩ : ∃ answer,
      negotiateWithContract rangeSample negotiationSample versionsSample = .ok answer ∧
        answer.selectedVersion.get = 6 := ⟨_, rfl, rfl⟩
  obtain ⟨-, selected, hbest⟩ := (h.1 answer).mp hanswer
  exact ⟨answer, selected, hbest, hbest.version.symm.trans hversion⟩

/-- An offer that names one feature twice is refused although a version fits it. -/
theorem duplicate_offer_refused :
    negotiateWithContract (helloSample [lightingFeature, lightingFeature]) negotiationSample servedSample =
        .error .duplicateFeature ∧
      ∃ version ∈ servedSample.versions, (helloSample [lightingFeature, lightingFeature]).Fits version :=
  ⟨by decide, _, mem_singleton.mpr rfl, ⟨by decide, by decide⟩⟩

end HyperfluxNext
