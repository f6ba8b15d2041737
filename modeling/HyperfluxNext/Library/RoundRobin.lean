import Mathlib.Data.Finset.Sort
import Mathlib.Data.Nat.ModEq

namespace RoundRobin

open List

variable {κ : Type} [LinearOrder κ] {ready : Finset κ} {key next : κ} {keys : List κ}

def least (ready : Finset κ) : Option κ := (ready.sort (· ≤ ·)).head?

def nextTurn (ready : Finset κ) (last : Option κ) : Option κ :=
  match last with
  | none => least ready
  | some key => (least (ready.filter (key < ·))).or (least ready)

theorem least_eq_some (h : least ready = some key) : key ∈ ready ∧ ∀ other ∈ ready, key ≤ other := by
  unfold least at h
  obtain ⟨rest, hsorted⟩ := head?_eq_some_iff.mp h
  have hpairwise := ready.pairwise_sort (· ≤ ·)
  have hmem : ∀ other, other ∈ ready ↔ other ∈ key :: rest := by
    intro other
    rw [← hsorted, Finset.mem_sort]
  rw [hsorted] at hpairwise
  refine ⟨(hmem key).mpr mem_cons_self, ?_⟩
  intro other hother
  obtain hsame | hrest := mem_cons.mp ((hmem other).mp hother)
  · exact le_of_eq hsame.symm
  · exact (pairwise_cons.mp hpairwise).1 other hrest

theorem least_eq_none : least ready = none ↔ ready = ∅ := by
  unfold least
  rw [head?_eq_none_iff, ← length_eq_zero_iff, Finset.length_sort, Finset.card_eq_zero]

theorem nextTurn_mem {last : Option κ} (h : nextTurn ready last = some next) : next ∈ ready := by
  unfold nextTurn at h
  cases last with
  | none => exact (least_eq_some h).1
  | some key =>
    obtain habove | ⟨-, hleast⟩ := Option.or_eq_some_iff.mp h
    · exact (Finset.mem_filter.mp (least_eq_some habove).1).1
    · exact (least_eq_some hleast).1

theorem nextTurn_isSome (last : Option κ) : nextTurn ready last = none ↔ ready = ∅ := by
  unfold nextTurn
  cases last with
  | none => exact least_eq_none
  | some key =>
    rw [Option.or_eq_none_iff, least_eq_none, least_eq_none]
    constructor
    · exact fun h => h.2
    intro h
    rw [h]
    exact ⟨rfl, rfl⟩

def rank (ready : Finset κ) (key : κ) : Nat := (ready.filter (· < key)).card

theorem rank_lt (h : key ∈ ready) : rank ready key < ready.card := by
  apply Finset.card_lt_card
  refine ⟨Finset.filter_subset _ _, fun hsubset => ?_⟩
  exact lt_irrefl key (Finset.mem_filter.mp (hsubset h)).2

/-- A turn goes to the next rank, and around to the first one behind the last. -/
theorem rank_nextTurn (hkey : key ∈ ready) (h : nextTurn ready (some key) = some next) :
    rank ready next = (rank ready key + 1) % ready.card := by
  unfold nextTurn at h
  obtain habove | ⟨hnone, hleast⟩ := Option.or_eq_some_iff.mp h
  · obtain ⟨hmem, hfirst⟩ := least_eq_some habove
    obtain ⟨hready, hlt⟩ := Finset.mem_filter.mp hmem
    have hbelow : ready.filter (· < next) = insert key (ready.filter (· < key)) := by
      ext other
      rw [Finset.mem_insert, Finset.mem_filter, Finset.mem_filter]
      constructor
      · intro ⟨hother, hunder⟩
        obtain hless | heq | hmore := lt_trichotomy other key
        · exact .inr ⟨hother, hless⟩
        · exact .inl heq
        · exact absurd (hfirst other (Finset.mem_filter.mpr ⟨hother, hmore⟩)) (not_le.mpr hunder)
      intro hother
      obtain hsame | ⟨hother, hless⟩ := hother
      · rw [hsame]
        exact ⟨hkey, hlt⟩
      · exact ⟨hother, lt_trans hless hlt⟩
    have hnot : key ∉ ready.filter (· < key) := fun hself => lt_irrefl key (Finset.mem_filter.mp hself).2
    have hrank : rank ready next = rank ready key + 1 := by
      unfold rank
      rw [hbelow, Finset.card_insert_of_notMem hnot]
    have hbound := rank_lt hready
    rw [hrank, Nat.mod_eq_of_lt (by omega)]
  · have hlast : rank ready key + 1 = ready.card := by
      have hbelow : ready.filter (· < key) = ready.erase key := by
        ext other
        rw [Finset.mem_filter, Finset.mem_erase]
        constructor
        · exact fun ⟨hother, hless⟩ => ⟨ne_of_lt hless, hother⟩
        intro ⟨hne, hother⟩
        refine ⟨hother, lt_of_le_of_ne (not_lt.mp fun hmore => ?_) hne⟩
        have hmem : other ∈ ready.filter (key < ·) := Finset.mem_filter.mpr ⟨hother, hmore⟩
        rw [least_eq_none.mp hnone] at hmem
        exact absurd hmem (Finset.notMem_empty other)
      unfold rank
      rw [hbelow]
      exact Finset.card_erase_add_one hkey
    have hfirst : rank ready next = 0 := by
      unfold rank
      rw [Finset.card_eq_zero, Finset.filter_eq_empty_iff]
      exact fun other hother => not_lt.mpr ((least_eq_some hleast).2 other hother)
    rw [hfirst, hlast, Nat.mod_self]

theorem rank_turns (hmem : ∀ key ∈ keys, key ∈ ready)
    (hturns : keys.IsChain fun key next => nextTurn ready (some key) = some next) {first : κ}
    (hfirst : keys[0]? = some first) (index : Nat) {key : κ} (hkey : keys[index]? = some key) :
    rank ready key = (rank ready first + index) % ready.card := by
  induction index generalizing key with
  | zero =>
    rw [hfirst] at hkey
    cases hkey
    have hbound := rank_lt (hmem first (List.mem_of_getElem? hfirst))
    rw [Nat.add_zero, Nat.mod_eq_of_lt hbound]
  | succ index ih =>
    obtain ⟨hindex, hget⟩ := List.getElem?_eq_some_iff.mp hkey
    have hprior : keys[index]? = some keys[index] := List.getElem?_eq_getElem (by omega)
    have hturn := List.isChain_iff_getElem.mp hturns index hindex
    rw [hget] at hturn
    rw [rank_nextTurn (hmem _ (List.mem_of_getElem? hprior)) hturn, ih hprior, Nat.mod_add_mod, Nat.add_assoc]

theorem turns_nodup (hmem : ∀ key ∈ keys, key ∈ ready)
    (hturns : keys.IsChain fun key next => nextTurn ready (some key) = some next)
    (hlength : keys.length ≤ ready.card) : keys.Nodup := by
  rw [nodup_iff_getElem?_ne_getElem?]
  intro index other hlt hother hsame
  have hfirst : keys[0]? = some keys[0] := getElem?_eq_getElem (by omega)
  have hlater : keys[other]? = some keys[other] := getElem?_eq_getElem hother
  have hrank := rank_turns hmem hturns hfirst index (hsame.trans hlater)
  have hrank' := rank_turns hmem hturns hfirst other hlater
  have hbound := rank_lt (hmem _ (mem_of_getElem? hfirst))
  have hmod : (rank ready keys[0] + index) % ready.card = (rank ready keys[0] + other) % ready.card :=
    hrank.symm.trans hrank'
  have hcong : index ≡ other [MOD ready.card] := Nat.ModEq.add_left_cancel' _ hmod
  have heq := Nat.ModEq.eq_of_lt_of_lt hcong (by omega) (by omega)
  omega

theorem turns_complete (hmem : ∀ key ∈ keys, key ∈ ready)
    (hturns : keys.IsChain fun key next => nextTurn ready (some key) = some next)
    (hlength : keys.length = ready.card) : ∀ key ∈ ready, key ∈ keys := by
  have hnodup := turns_nodup hmem hturns (le_of_eq hlength)
  have hsubset : keys.toFinset ⊆ ready := fun key hkey => hmem key (mem_toFinset.mp hkey)
  have hcard : ready.card ≤ keys.toFinset.card := by
    rw [toFinset_card_of_nodup hnodup, hlength]
  intro key hkey
  rw [← Finset.eq_of_subset_of_card_le hsubset hcard] at hkey
  exact mem_toFinset.mp hkey

end RoundRobin
