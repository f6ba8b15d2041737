import Std.Data.TreeMap
import Mathlib.Data.List.Nodup
import Mathlib.Data.List.Perm.Basic

namespace OrderedMaps

open List Std.TreeMap

variable {K V : Type} [Ord K]

theorem values_eq_map_toList (t : Std.TreeMap K V) : t.values = t.toList.map (·.2) := by
  have hfold : t.values = t.foldr (fun _ value values => value :: values) [] := rfl
  rw [hfold, foldr_eq_foldr_toList, map_eq_foldr]

theorem size_eq_length_values (t : Std.TreeMap K V) : t.size = t.values.length := by
  rw [values_eq_map_toList, length_map, length_toList]

/-- Of the entries, those that stay are the ones that do not go. -/
theorem size_filter_not (t : Std.TreeMap K V) (goes : V → Bool) :
    (t.filter fun _ value => ! goes value).size + (t.values.filter goes).length = t.size := by
  have hsplit := length_eq_countP_add_countP (fun entry : K × V => goes entry.2) (l := t.toList)
  simp only [Bool.not_eq_true, Bool.decide_eq_false] at hsplit
  rw [← length_toList, ← length_toList, toList_filter,
    values_eq_map_toList, filter_map, length_map, ← countP_eq_length_filter,
    ← countP_eq_length_filter, Nat.add_comm]
  exact hsplit.symm

variable [Std.TransOrd K]

theorem nodup_toList (t : Std.TreeMap K V) : t.toList.Nodup := by
  have hkeys : (t.toList.map Prod.fst).Nodup := by
    rw [map_fst_toList_eq_keys]
    exact nodup_keys
  exact List.Nodup.of_map Prod.fst hkeys

variable {t : Std.TreeMap K V} {key : K} {value : V}

theorem mem_of_rel {W : Type} {other : Std.TreeMap K W} {r : V → W → Prop}
    (h : Option.Rel r t[key]? other[key]?) (hmem : key ∈ other) : key ∈ t := by
  rw [mem_iff_isSome_getElem?] at hmem ⊢
  cases hold : t[key]? with
  | some _ => rfl
  | none =>
    rw [hold] at h
    cases hnew : other[key]? with
    | none =>
      rw [hnew] at hmem
      cases hmem
    | some _ =>
      rw [hnew] at h
      cases h

variable [Std.LawfulEqOrd K]

theorem size_le_of_mem {other : Std.TreeMap K V} (h : ∀ key : K, key ∈ t → key ∈ other) : t.size ≤ other.size := by
  have hsubset : t.keys ⊆ other.keys := by
    intro key hkey
    exact Std.TreeMap.mem_keys.mpr (h key (Std.TreeMap.mem_keys.mp hkey))
  have hlength := (subperm_of_subset nodup_keys hsubset).length_le
  rw [length_keys, length_keys] at hlength
  exact hlength

variable [DecidableEq K]

theorem getElem?_erase_of (key other : K) : (t.erase key)[other]? = if other = key then none else t[other]? := by
  rw [getElem?_erase]
  by_cases heq : other = key
  · simp [heq]
  have hne : compare key other ≠ .eq := fun h => heq (Std.LawfulEqCmp.compare_eq_iff_eq.mp h).symm
  simp [heq, hne]

theorem getElem?_insert_of (key other : K) (value : V) :
    (t.insert key value)[other]? = if other = key then some value else t[other]? := by
  rw [Std.TreeMap.getElem?_insert]
  by_cases heq : other = key
  · simp [heq]
  have hne : compare key other ≠ .eq := fun h => heq (Std.LawfulEqCmp.compare_eq_iff_eq.mp h).symm
  simp [heq, hne]

/-- The entry of a key, with all the others. -/
theorem toList_perm_erase (h : t[key]? = some value) : t.toList.Perm ((key, value) :: (t.erase key).toList) := by
  have hnotin : (key, value) ∉ (t.erase key).toList := by
    intro hmem
    have hfound := mem_toList_iff_getElem?_eq_some.mp hmem
    rw [getElem?_erase_of, if_pos rfl] at hfound
    cases hfound
  rw [perm_ext_iff_of_nodup (nodup_toList t) (nodup_cons.mpr ⟨hnotin, nodup_toList _⟩)]
  intro entry
  obtain ⟨other, found⟩ := entry
  rw [mem_cons, mem_toList_iff_getElem?_eq_some, mem_toList_iff_getElem?_eq_some, getElem?_erase_of]
  by_cases heq : other = key
  · subst heq
    simp [h, eq_comm]
  · simp [heq]

theorem erase_toList_perm (h : t[key]? = none) : t.toList.Perm (t.erase key).toList := by
  rw [perm_ext_iff_of_nodup (nodup_toList t) (nodup_toList _)]
  intro entry
  obtain ⟨other, found⟩ := entry
  rw [mem_toList_iff_getElem?_eq_some, mem_toList_iff_getElem?_eq_some, getElem?_erase_of]
  by_cases heq : other = key
  · subst heq
    simp [h]
  · simp [heq]

theorem insert_toList_perm (t : Std.TreeMap K V) (key : K) (value : V) :
    (t.insert key value).toList.Perm ((key, value) :: (t.erase key).toList) := by
  have hfound : (t.insert key value)[key]? = some value := by
    rw [getElem?_insert_of, if_pos rfl]
  refine (toList_perm_erase hfound).trans (List.Perm.cons _ ?_)
  rw [perm_ext_iff_of_nodup (nodup_toList _) (nodup_toList _)]
  intro entry
  obtain ⟨other, found⟩ := entry
  rw [mem_toList_iff_getElem?_eq_some, mem_toList_iff_getElem?_eq_some,
    getElem?_erase_of, getElem?_erase_of, getElem?_insert_of]
  by_cases heq : other = key
  · simp [heq]
  · simp [heq]

omit [DecidableEq K] in
theorem toList_eq_of_lookup {other : Std.TreeMap K V} (h : ∀ key : K, t[key]? = other[key]?) :
    t.toList = other.toList :=
  equiv_iff_toList_eq.mp (Std.TreeMap.Equiv.of_forall_constGet?_eq h)

/-- The map that is made of a map's entries agrees with it. -/
theorem getElem?_ofList_toList (t : Std.TreeMap K V) (key : K) :
    (Std.TreeMap.ofList t.toList)[key]? = t[key]? := by
  have hdistinct := distinct_keys_toList (t := t)
  cases hkey : t[key]? with
  | some value =>
    have hmem : (key, value) ∈ t.toList := mem_toList_iff_getElem?_eq_some.mpr hkey
    exact getElem?_ofList_of_mem Std.ReflCmp.compare_self hdistinct hmem
  | none =>
    apply getElem?_ofList_of_contains_eq_false
    rw [map_fst_toList_eq_keys, contains_eq_mem, decide_eq_false_iff_not,
      Std.TreeMap.mem_keys, mem_iff_isSome_getElem?, hkey]
    exact Bool.false_ne_true

theorem values_perm_erase (h : t[key]? = some value) : t.values.Perm (value :: (t.erase key).values) := by
  rw [values_eq_map_toList, values_eq_map_toList]
  exact (toList_perm_erase h).map (·.2)

theorem erase_values_perm (h : t[key]? = none) : t.values.Perm (t.erase key).values := by
  rw [values_eq_map_toList, values_eq_map_toList]
  exact (erase_toList_perm h).map (·.2)

theorem insert_values_perm (t : Std.TreeMap K V) (key : K) (value : V) :
    (t.insert key value).values.Perm (value :: (t.erase key).values) := by
  rw [values_eq_map_toList, values_eq_map_toList]
  exact (insert_toList_perm t key value).map (·.2)

omit [DecidableEq K] in
theorem mem_values : value ∈ t.values ↔ ∃ key : K, t[key]? = some value := by
  rw [values_eq_map_toList, mem_map]
  constructor
  · intro ⟨entry, hentry, hvalue⟩
    exact ⟨entry.1, by rw [← hvalue]; exact mem_toList_iff_getElem?_eq_some.mp hentry⟩
  intro ⟨key, hkey⟩
  exact ⟨(key, value), mem_toList_iff_getElem?_eq_some.mpr hkey, rfl⟩

omit [Std.LawfulEqOrd K] [DecidableEq K] in
theorem isEmpty_eq_false : t.isEmpty = false ↔ ∃ (key : K) (value : V), t[key]? = some value := by
  rw [Std.TreeMap.isEmpty_eq_false_iff_exists_mem]
  constructor
  · intro ⟨key, hmem⟩
    exact ⟨key, t[key], Std.TreeMap.getElem?_eq_some_getElem hmem⟩
  intro ⟨key, value, hkey⟩
  refine ⟨key, ?_⟩
  rw [Std.TreeMap.mem_iff_isSome_getElem?, hkey]
  rfl

end OrderedMaps
