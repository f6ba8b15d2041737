import HyperfluxNext.Bridge.NativeRoutes
import HyperfluxNext.Library.OrderedMaps

namespace HyperfluxNext

open Procedure OrderedMaps RuntimeIdentityIssuer

variable [RouteTokenDigest] {token : NativeRouteToken} {processPrefix : String}

def TokensDiffer (processPrefix : String) : Prop :=
  ∀ a b, a ≤ u64Max → b ≤ u64Max →
    RouteTokenDigest.routeToken processPrefix a = RouteTokenDigest.routeToken processPrefix b → a = b

def IssuedIn (processPrefix : String) (first last : Nat) (token : NativeRouteToken) : Prop :=
  ∃ sequence, first ≤ sequence ∧ sequence < last ∧ token = RouteTokenDigest.routeToken processPrefix sequence

theorem IssuedIn.mono {first last first' last' : Nat} (h : IssuedIn processPrefix first last token)
    (hfirst : first' ≤ first) (hlast : last ≤ last') :
    IssuedIn processPrefix first' last' token := by
  obtain ⟨sequence, hlow, hhigh, htoken⟩ := h
  exact ⟨sequence, by omega, by omega, htoken⟩

/-- Tokens of two separate ranges differ. -/
theorem IssuedIn.apart (hdiffer : TokensDiffer processPrefix) {first middle middle' last : Nat}
    (hmiddle : middle ≤ middle') (hlast : last ≤ u64Max) (h : IssuedIn processPrefix first middle token)
    (h' : IssuedIn processPrefix middle' last token) : False := by
  obtain ⟨sequence, _, hhigh, htoken⟩ := h
  obtain ⟨later, hlow, hlater, hsame⟩ := h'
  have heq := hdiffer sequence later (by omega) (by omega) (htoken.symm.trans hsame)
  omega

omit [RouteTokenDigest] in
def TokensApart (routes : Std.TreeMap NativeRouteKey NativeRoute) : Prop :=
  ∀ (key other : NativeRouteKey) (route found : NativeRoute) (token : NativeRouteToken),
    routes[key]? = some route → routes[other]? = some found →
    route.routeToken = some token → found.routeToken = some token → key = other

namespace NativeRouteJournal

omit [RouteTokenDigest] in
structure BoundTo (route bound : NativeRoute) : Prop where
  same : bound = { route with routeToken := bound.routeToken, resource := bound.resource }
  token : bound.routeToken.isSome = route.writable
  resource : bound.resource = if route.writable then some (nativeResource route) else none

variable {route bound : NativeRoute} {journal : NativeRouteJournal} {offered : List NativeRoute}
  {issuer after : RuntimeIdentityIssuer} {incoming : Std.TreeMap NativeRouteKey NativeRoute}

section
omit [RouteTokenDigest]

theorem BoundTo.key (h : BoundTo route bound) : bound.key = route.key := by
  rw [h.same]
  rfl

theorem BoundTo.writable (h : BoundTo route bound) : bound.writable = route.writable := by
  rw [h.same]
  rfl

theorem BoundTo.keptToken (h : BoundTo route bound) (journal : NativeRouteJournal)
    : journal.keptToken bound = journal.keptToken route := by
  rw [h.same]
  rfl

theorem keptToken_current (h : journal.keptToken route = some token) :
    ∃ previous, journal.current[route.key]? = some previous ∧
      previous.generationId = route.generationId ∧ previous.writable = true ∧
      previous.routeToken = some token := by
  unfold NativeRouteJournal.keptToken at h
  split at h
  · cases h
  next previous hprevious =>
    split at h
    next hsame => exact ⟨previous, hprevious, hsame.1, hsame.2, h⟩
    · cases h

theorem keptToken_of_current {previous : NativeRoute} (hprevious : journal.current[route.key]? = some previous)
    (hgeneration : previous.generationId = route.generationId) (hwritable : previous.writable = true) :
    journal.keptToken route = previous.routeToken := by
  unfold NativeRouteJournal.keptToken
  rw [hprevious]
  exact if_pos ⟨hgeneration, hwritable⟩

end

theorem nativeRouteToken_issued (issuer : RuntimeIdentityIssuer) :
    Holds nativeRouteToken issuer
      (fun token after => RuntimeIdentityIssuer.Advanced issuer after ∧
        IssuedIn issuer.processPrefix issuer.nextSequence after.nextSequence token)
      (fun _ _ => True) := by
  simp only [nativeRouteToken, holds_do]
  refine holds_mono takeSequence_advanced ?_ (fun _ _ _ => trivial)
  intro sequence after hafter
  obtain ⟨hsequence, hsame, hnext⟩ := hafter
  refine ⟨⟨hsame, by omega⟩, sequence, by omega, by omega, ?_⟩
  rfl

/-- What binding a route gives. -/
structure Authorized (journal : NativeRouteJournal) (issuer : RuntimeIdentityIssuer)
    (route bound : NativeRoute) (after : RuntimeIdentityIssuer) : Prop where
  advanced : RuntimeIdentityIssuer.Advanced issuer after
  boundTo : BoundTo route bound
  token : ∀ token, bound.routeToken = some token → journal.keptToken route = some token ∨
    IssuedIn issuer.processPrefix issuer.nextSequence after.nextSequence token
  kept : route.writable = true → ∀ token, journal.keptToken route = some token → bound.routeToken = some token

theorem bindRouteAuthority_authorized (journal : NativeRouteJournal) (route : NativeRoute)
    (issuer : RuntimeIdentityIssuer) :
    Holds (journal.bindRouteAuthority route) issuer
      (fun bound after => Authorized journal issuer route bound after) (fun _ _ => True) := by
  unfold bindRouteAuthority
  split
  next hclosed =>
    refine ⟨.refl issuer, ⟨rfl, hclosed.symm, ?_⟩, fun token htoken => (by cases htoken), ?_⟩
    · rw [hclosed]
      rfl
    intro hopen
    rw [hclosed] at hopen
    cases hopen
  next hopen =>
    have hwritable : route.writable = true := Bool.of_not_eq_false hopen
    have hresource : some (nativeResource route) =
        if route.writable then some (nativeResource route) else none := by
      rw [hwritable]
      rfl
    split
    next token htoken =>
      refine ⟨.refl issuer, ⟨rfl, hwritable.symm, hresource⟩, ?_, ?_⟩
      · intro found hfound
        cases hfound
        exact .inl htoken
      intro _ found hfound
      rw [htoken] at hfound
      cases hfound
      rfl
    next hnone =>
      simp only [holds_do]
      refine holds_mono (nativeRouteToken_issued issuer) ?_ (fun _ _ _ => trivial)
      intro token after hissued
      refine ⟨hissued.1, ⟨rfl, hwritable.symm, hresource⟩, ?_, ?_⟩
      · intro found hfound
        cases hfound
        exact .inr hissued.2
      intro _ found hfound
      rw [hnone] at hfound
      cases hfound

structure TokensHeld (journal : NativeRouteJournal) (issuer : RuntimeIdentityIssuer) : Prop where
  issued : ∀ (key : NativeRouteKey) (route : NativeRoute) (token : NativeRouteToken),
    journal.current[key]? = some route → route.routeToken = some token →
    IssuedIn issuer.processPrefix 0 issuer.nextSequence token
  apart : TokensApart journal.current

structure Bound (journal : NativeRouteJournal) (offered : List NativeRoute)
    (issuer after : RuntimeIdentityIssuer) (incoming : Std.TreeMap NativeRouteKey NativeRoute) : Prop where
  advanced : RuntimeIdentityIssuer.Advanced issuer after
  bound : ∀ (key : NativeRouteKey) (route : NativeRoute), incoming[key]? = some route →
    route.key = key ∧ ∃ raw ∈ offered, BoundTo raw route
  all : ∀ raw ∈ offered, ∃ route, incoming[raw.key]? = some route ∧ BoundTo raw route
  tokens : ∀ (key : NativeRouteKey) (route : NativeRoute) (token : NativeRouteToken),
    incoming[key]? = some route → route.routeToken = some token →
    journal.keptToken route = some token ∨
      IssuedIn issuer.processPrefix issuer.nextSequence after.nextSequence token
  kept : ∀ (key : NativeRouteKey) (route : NativeRoute) (token : NativeRouteToken),
    incoming[key]? = some route → route.writable = true → journal.keptToken route = some token →
    route.routeToken = some token
  apart : TokensApart incoming

theorem Bound.nothing (journal : NativeRouteJournal) (issuer : RuntimeIdentityIssuer) :
    Bound journal [] issuer issuer ∅ := by
  have hnone : ∀ key : NativeRouteKey, (∅ : Std.TreeMap NativeRouteKey NativeRoute)[key]? = none :=
    fun _ => Std.TreeMap.getElem?_emptyc
  have hnot : ∀ (key : NativeRouteKey) (route : NativeRoute),
      (∅ : Std.TreeMap NativeRouteKey NativeRoute)[key]? = some route → False := by
    intro key route hfound
    rw [hnone] at hfound
    cases hfound
  exact ⟨.refl issuer, fun key route hfound => (hnot key route hfound).elim, fun _ hmem => (by cases hmem),
    fun key route _ hfound => (hnot key route hfound).elim,
    fun key route _ hfound => (hnot key route hfound).elim,
    fun key _ route _ _ hfound => (hnot key route hfound).elim⟩

/-- Binding one more route under a new key. -/
theorem Bound.insert {last : RuntimeIdentityIssuer} (hdiffer : TokensDiffer issuer.processPrefix)
    (hheld : TokensHeld journal issuer) (h : Bound journal offered issuer after incoming) {raw : NativeRoute}
    (hnew : raw.key ∉ incoming) (hauthorized : Authorized journal after raw route last) :
    Bound journal (offered ++ [raw]) issuer last (incoming.insert raw.key route) := by
  have hhead := h.advanced.processPrefix
  have hlater := h.advanced.later
  have hmore := hauthorized.advanced.later
  have hbound := last.representable
  have hrouteKey : route.key = raw.key := hauthorized.boundTo.key
  have hlookup : ∀ key : NativeRouteKey, (incoming.insert raw.key route)[key]? =
      if key = raw.key then some route else incoming[key]? :=
    fun key => getElem?_insert_of raw.key key route
  have hcases : ∀ (key : NativeRouteKey) (found : NativeRoute),
      (incoming.insert raw.key route)[key]? = some found →
      (key = raw.key ∧ found = route) ∨ (key ≠ raw.key ∧ incoming[key]? = some found) := by
    intro key found hfound
    rw [hlookup] at hfound
    by_cases hkey : key = raw.key
    · rw [if_pos hkey] at hfound
      exact .inl ⟨hkey, (Option.some.inj hfound).symm⟩
    rw [if_neg hkey] at hfound
    exact .inr ⟨hkey, hfound⟩
  -- A token is kept from the same key, was issued before this route, or is issued for it.
  have hnewToken : ∀ token, route.routeToken = some token → journal.keptToken route = some token ∨
      IssuedIn issuer.processPrefix after.nextSequence last.nextSequence token := by
    intro token htoken
    rw [hauthorized.boundTo.keptToken, ← hhead]
    exact hauthorized.token token htoken
  have hdistinct : ∀ (key : NativeRouteKey) (found : NativeRoute) (token : NativeRouteToken),
      incoming[key]? = some found → found.routeToken = some token → route.routeToken = some token →
      key = raw.key := by
    intro key found token hfound htoken hmine
    have hkey := (h.bound key found hfound).1
    obtain hkept | hfresh := h.tokens key found token hfound htoken
    · obtain ⟨previous, hprevious, _, _, hprevToken⟩ := keptToken_current hkept
      obtain hkept' | hfresh' := hnewToken token hmine
      · obtain ⟨other, hother, _, _, hotherToken⟩ := keptToken_current hkept'
        have hsame := hheld.apart _ _ previous other token hprevious hother hprevToken hotherToken
        rw [hkey, hrouteKey] at hsame
        exact hsame
      have hissued := hheld.issued _ previous token hprevious hprevToken
      exact (hissued.apart hdiffer hlater hbound hfresh').elim
    obtain hkept' | hfresh' := hnewToken token hmine
    · obtain ⟨other, hother, _, _, hotherToken⟩ := keptToken_current hkept'
      have hissued := hheld.issued _ other token hother hotherToken
      exact (hissued.apart hdiffer (Nat.le_refl _) (by omega) hfresh).elim
    · exact (hfresh.apart hdiffer (Nat.le_refl _) hbound hfresh').elim
  refine ⟨h.advanced.trans hauthorized.advanced, ?_, ?_, ?_, ?_, ?_⟩
  · intro key found hfound
    obtain ⟨hkey, hsame⟩ | ⟨_, hold⟩ := hcases key found hfound
    · rw [hsame]
      exact ⟨hrouteKey.trans hkey.symm, raw, List.mem_append_right _ List.mem_cons_self, hauthorized.boundTo⟩
    obtain ⟨hkey, other, hother, hboundTo⟩ := h.bound key found hold
    exact ⟨hkey, other, List.mem_append_left _ hother, hboundTo⟩
  · intro other hother
    obtain hold | hlast := List.mem_append.mp hother
    · obtain ⟨found, hfound, hboundTo⟩ := h.all other hold
      have hne : other.key ≠ raw.key := by
        intro heq
        rw [heq] at hfound
        exact hnew (Std.TreeMap.mem_iff_isSome_getElem?.mpr (by rw [hfound]; rfl))
      exact ⟨found, by rw [hlookup, if_neg hne, hfound], hboundTo⟩
    rw [List.mem_singleton.mp hlast]
    exact ⟨route, by rw [hlookup, if_pos rfl], hauthorized.boundTo⟩
  · intro key found token hfound htoken
    obtain ⟨_, hsame⟩ | ⟨_, hold⟩ := hcases key found hfound
    · rw [hsame] at htoken ⊢
      obtain hkept | hfresh := hnewToken token htoken
      · exact .inl hkept
      · exact .inr (hfresh.mono hlater (Nat.le_refl _))
    obtain hkept | hfresh := h.tokens key found token hold htoken
    · exact .inl hkept
    · exact .inr (hfresh.mono (Nat.le_refl _) hmore)
  · intro key found token hfound hwritable hkept
    obtain ⟨_, hsame⟩ | ⟨_, hold⟩ := hcases key found hfound
    · rw [hsame] at hwritable hkept ⊢
      rw [hauthorized.boundTo.writable] at hwritable
      rw [hauthorized.boundTo.keptToken] at hkept
      exact hauthorized.kept hwritable token hkept
    · exact h.kept key found token hold hwritable hkept
  intro key other found second token hfound hsecond htoken htoken'
  obtain ⟨hkey, hsame⟩ | ⟨_, hold⟩ := hcases key found hfound
  · obtain ⟨hkey', _⟩ | ⟨_, hold'⟩ := hcases other second hsecond
    · exact hkey.trans hkey'.symm
    rw [hsame] at htoken
    exact hkey.trans (hdistinct other second token hold' htoken' htoken).symm
  obtain ⟨hkey', hsame'⟩ | ⟨_, hold'⟩ := hcases other second hsecond
  · rw [hsame'] at htoken'
    exact (hdistinct key found token hold htoken htoken').trans hkey'.symm
  · exact h.apart key other found second token hold hold' htoken htoken'

theorem bindRoutes_bound (hdiffer : TokensDiffer issuer.processPrefix) (hheld : TokensHeld journal issuer)
    (routes : List NativeRoute) (h : Bound journal offered issuer after incoming) :
    Holds (journal.bindRoutes incoming routes) after
      (fun incoming' last => Bound journal (offered ++ routes) issuer last incoming')
      (fun _ _ => True) := by
  induction routes generalizing offered after incoming with
  | nil =>
    rw [List.append_nil]
    exact h
  | cons route routes ih =>
    simp only [bindRoutes, holds_do]
    refine ⟨fun _ => trivial, fun hnew => ?_⟩
    refine holds_mono (bindRouteAuthority_authorized journal route after) ?_ (fun _ _ _ => trivial)
    intro bound last hauthorized
    have hnext := ih (h.insert hdiffer hheld hnew hauthorized)
    rw [List.append_assoc] at hnext
    exact hnext

end NativeRouteJournal

end HyperfluxNext
