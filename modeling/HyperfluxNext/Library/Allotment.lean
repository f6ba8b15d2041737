import HyperfluxNext.Library.OrderedMaps
import Mathlib.Algebra.Order.BigOperators.Group.List
import Mathlib.Algebra.Order.Ring.Nat

/-! Tables whose entries each take a place in one of some slots, with limited room in every slot. -/

namespace Allotment

open List Std.TreeMap

/-- The places that are left where one slot is empty. -/
theorem sum_add_le {S : Type} {taken room : S → Nat} (hroom : ∀ slot, taken slot ≤ room slot)
    {slots : List S} {slot : S} (hmem : slot ∈ slots) (hempty : taken slot = 0) :
    (slots.map taken).sum + room slot ≤ (slots.map room).sum := by
  induction slots with
  | nil => cases hmem
  | cons first slots ih =>
    rw [map_cons, map_cons, sum_cons, sum_cons]
    have hrest : (slots.map taken).sum ≤ (slots.map room).sum := sum_le_sum fun other _ => hroom other
    obtain hfirst | hlater := mem_cons.mp hmem
    · subst hfirst
      omega
    have hslots := ih hlater
    have hhead := hroom first
    omega

theorem length_le_sum_countP {V S : Type} {holds : S → V → Bool} {slots : List S} {values : List V}
    (h : ∀ value ∈ values, ∃ slot ∈ slots, holds slot value = true) :
    values.length ≤ (slots.map fun slot => values.countP (holds slot)).sum := by
  induction values with
  | nil => exact Nat.zero_le _
  | cons value values ih =>
    have hrest := ih fun other hmem => h other (mem_cons_of_mem value hmem)
    obtain ⟨slot, hslot, hholds⟩ := h value mem_cons_self
    have hcons : (slots.map fun slot => (value :: values).countP (holds slot)) =
        slots.map fun slot => values.countP (holds slot) + if holds slot value = true then 1 else 0 := by
      apply map_congr_left
      intro other _
      rw [countP_cons]
    have hone : 1 ≤ (slots.map fun slot => if holds slot value = true then 1 else 0).sum := by
      apply single_le_sum (fun _ _ => Nat.zero_le _)
      have hone := mem_map_of_mem (f := fun slot => if holds slot value = true then 1 else 0) hslot
      rw [if_pos hholds] at hone
      exact hone
    rw [hcons, sum_map_add, length_cons]
    omega

variable {K V S : Type} [Ord K]

def taken (holds : S → V → Bool) (t : Std.TreeMap K V) (slot : S) : Nat :=
  (t.filter fun _ value => holds slot value).size

structure Allotted (holds : S → V → Bool) (room : S → Nat) (slots : List S) (t : Std.TreeMap K V) :
    Prop where
  placed : ∀ (key : K) (value : V), t[key]? = some value → ∃ slot ∈ slots, holds slot value = true
  within : ∀ slot : S, taken holds t slot ≤ room slot

variable {holds : S → V → Bool} {room : S → Nat} {slots : List S} {t t' : Std.TreeMap K V}

theorem Allotted.more {slots' : List S} (h : Allotted holds room slots t)
    (hmore : ∀ slot ∈ slots, slot ∈ slots') : Allotted holds room slots' t where
  placed key value hfound := by
    obtain ⟨slot, hslot, hholds⟩ := h.placed key value hfound
    exact ⟨slot, hmore slot hslot, hholds⟩
  within := h.within

variable [Std.TransOrd K] [Std.LawfulEqOrd K]

theorem mem_filter_iff (keep : V → Bool) (t : Std.TreeMap K V) (key : K) :
    key ∈ t.filter (fun _ value => keep value) ↔ ∃ value, t[key]? = some value ∧ keep value = true := by
  rw [mem_iff_isSome_getElem?, Option.isSome_iff_exists]
  simp only [getElem?_filter', Option.filter_eq_some_iff]

theorem Allotted.empty : Allotted holds room slots (∅ : Std.TreeMap K V) where
  placed key value hfound := by
    rw [getElem?_emptyc] at hfound
    cases hfound
  within slot := by
    have hnone : ∀ key : K, key ∈ (∅ : Std.TreeMap K V).filter (fun _ value => holds slot value) →
        key ∈ (∅ : Std.TreeMap K V) := fun key hkey => mem_of_mem_filter hkey
    exact Nat.le_trans (OrderedMaps.size_le_of_mem hnone) (Nat.zero_le _)

/-- A table whose entries were there already, in the same slots. -/
theorem Allotted.thinned (h : Allotted holds room slots t)
    (hthin : ∀ (key : K) (value : V), t'[key]? = some value →
      ∃ old, t[key]? = some old ∧ ∀ slot, holds slot value = holds slot old) :
    Allotted holds room slots t' where
  placed key value hfound := by
    obtain ⟨old, hold, hsame⟩ := hthin key value hfound
    obtain ⟨slot, hslot, hholds⟩ := h.placed key old hold
    exact ⟨slot, hslot, by rw [hsame]; exact hholds⟩
  within slot := by
    apply Nat.le_trans _ (h.within slot)
    apply OrderedMaps.size_le_of_mem
    intro key hkey
    rw [mem_filter_iff] at hkey ⊢
    obtain ⟨value, hfound, hholds⟩ := hkey
    obtain ⟨old, hold, hsame⟩ := hthin key value hfound
    exact ⟨old, hold, by rw [← hsame]; exact hholds⟩

theorem size_le_length {keys : List K} (h : ∀ key : K, key ∈ t → key ∈ keys) : t.size ≤ keys.length := by
  have hsubset : t.keys ⊆ keys := fun key hkey => h key (Std.TreeMap.mem_keys.mp hkey)
  have hlength := (subperm_of_subset nodup_keys hsubset).length_le
  rw [length_keys] at hlength
  exact hlength

theorem taken_eq_zero {slot : S} (h : ∀ (key : K) (value : V), t[key]? = some value → holds slot value = false) :
    taken holds t slot = 0 := by
  have hnone : (t.filter fun _ value => holds slot value).size ≤ ([] : List K).length := by
    apply size_le_length
    intro key hkey
    rw [mem_filter_iff] at hkey
    obtain ⟨value, hfound, hholds⟩ := hkey
    rw [h key value hfound] at hholds
    cases hholds
  exact Nat.eq_zero_of_le_zero hnone

/-- New entries for an empty slot, no more of them than it has room for. -/
theorem Allotted.filled (h : Allotted holds room slots t) {slot : S} (hslot : slot ∈ slots)
    (hempty : ∀ (key : K) (value : V), t[key]? = some value → holds slot value = false) {keys : List K}
    (hlength : keys.length ≤ room slot)
    (hnew : ∀ (key : K) (value : V), t'[key]? = some value → t[key]? = some value ∨
      key ∈ keys ∧ ∀ other, holds other value = true ↔ other = slot) :
    Allotted holds room slots t' where
  placed key value hfound := by
    obtain hold | ⟨_, hholds⟩ := hnew key value hfound
    · exact h.placed key value hold
    · exact ⟨slot, hslot, (hholds slot).mpr rfl⟩
  within other := by
    by_cases hother : other = slot
    · apply Nat.le_trans _ (Nat.le_trans hlength (Nat.le_of_eq (by rw [hother])))
      apply size_le_length
      intro key hkey
      rw [mem_filter_iff] at hkey
      obtain ⟨value, hfound, hholds⟩ := hkey
      obtain hold | hinserted := hnew key value hfound
      · rw [hother, hempty key value hold] at hholds
        cases hholds
      · exact hinserted.1
    apply Nat.le_trans _ (h.within other)
    apply OrderedMaps.size_le_of_mem
    intro key hkey
    rw [mem_filter_iff] at hkey ⊢
    obtain ⟨value, hfound, hholds⟩ := hkey
    obtain hold | hinserted := hnew key value hfound
    · exact ⟨value, hold, hholds⟩
    · exact absurd ((hinserted.2 other).mp hholds) hother

/-- Where a slot is empty, the table can still take as many entries as that slot has room for. -/
theorem Allotted.size_add_le (h : Allotted holds room slots t) {slot : S} (hslot : slot ∈ slots)
    (hempty : ∀ (key : K) (value : V), t[key]? = some value → holds slot value = false) :
    t.size + room slot ≤ (slots.map room).sum := by
  have hcount : ∀ other : S, taken holds t other = t.values.countP (holds other) := by
    intro other
    unfold taken
    rw [← length_toList, toList_filter, OrderedMaps.values_eq_map_toList, countP_map, countP_eq_length_filter]
    rfl
  have hvalues : t.values.length ≤ (slots.map fun slot => t.values.countP (holds slot)).sum := by
    apply length_le_sum_countP
    intro value hvalue
    rw [OrderedMaps.values_eq_map_toList] at hvalue
    obtain ⟨entry, hentry, hsame⟩ := mem_map.mp hvalue
    have hfound := mem_toList_iff_getElem?_eq_some.mp hentry
    rw [hsame] at hfound
    exact h.placed entry.1 value hfound
  have hlength : t.values.length = t.size := by
    rw [OrderedMaps.values_eq_map_toList, length_map, length_toList]
  have htaken : (fun slot => t.values.countP (holds slot)) = taken holds t :=
    funext fun slot => (hcount slot).symm
  rw [htaken] at hvalues
  have hsum := sum_add_le h.within hslot (taken_eq_zero hempty)
  omega

end Allotment
