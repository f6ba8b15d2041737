import Mathlib.Data.List.Basic

/-! Logs that number their elements from one and hold the newest of them. -/

namespace NumberedLog

open List

variable {α : Type} {number : α → Nat}

/-- The elements of a history are numbered from one without a hole, and the window is its tail. -/
structure Window (number : α → Nat) (history window : List α) : Prop where
  numbers : history.map number = List.range' 1 history.length
  suffix : window <:+ history

theorem Window.nil : Window number [] [] := ⟨rfl, suffix_refl []⟩

variable {history window : List α} {element : α}

theorem Window.length_le (h : Window number history window) : window.length ≤ history.length :=
  h.suffix.length_le

theorem numbers_push (h : history.map number = List.range' 1 history.length)
    (helement : number element = history.length + 1) :
    (history ++ [element]).map number = List.range' 1 (history ++ [element]).length := by
  rw [map_append, h, length_append, length_singleton, ← List.range'_append_1,
    map_cons, map_nil, helement, Nat.add_comm]
  rfl

theorem Window.push (h : Window number history window) (helement : number element = history.length + 1) :
    Window number (history ++ [element]) (window ++ [element]) := by
  obtain ⟨before, heq⟩ := h.suffix
  refine ⟨numbers_push h.numbers helement, before, ?_⟩
  rw [← append_assoc, heq]

theorem Window.push_drop (h : Window number history window) (helement : number element = history.length + 1) :
    Window number (history ++ [element]) (window.drop 1 ++ [element]) := by
  obtain ⟨before, heq⟩ := (drop_suffix 1 window).trans h.suffix
  refine ⟨numbers_push h.numbers helement, before, ?_⟩
  rw [← append_assoc, heq]

theorem Window.eq_drop (h : Window number history window) :
    window = history.drop (history.length - window.length) :=
  suffix_iff_eq_drop.mp h.suffix

theorem Window.window_numbers (h : Window number history window) :
    window.map number = List.range' (history.length - window.length + 1) window.length := by
  have hlength := h.length_le
  have hmap : (history.drop (history.length - window.length)).map number =
      (List.range' 1 history.length).drop (history.length - window.length) := by
    rw [← h.numbers, map_drop]
  rw [← h.eq_drop, drop_range'] at hmap
  rw [hmap, Nat.mul_one, Nat.add_comm 1]
  congr 1
  omega

theorem filter_after (bound : Nat) (elements : List α) (start : Nat)
    (h : elements.map number = List.range' start elements.length) :
    (elements.filter fun element => bound < number element) = elements.drop (bound + 1 - start) := by
  induction elements generalizing start with
  | nil => simp
  | cons element elements ih =>
    rw [map_cons, length_cons, List.range'_succ] at h
    obtain ⟨hnumber, hrest⟩ := List.cons.inj h
    have htail := ih (start + 1) hrest
    by_cases hafter : bound < number element
    · have hwhole : bound + 1 - (start + 1) = 0 := by omega
      have hhere : bound + 1 - start = 0 := by omega
      rw [hwhole, drop_zero] at htail
      rw [filter_cons_of_pos (by simpa using hafter), htail, hhere, drop_zero]
    have hnext : bound + 1 - start = (bound + 1 - (start + 1)) + 1 := by omega
    rw [filter_cons_of_neg (by simpa using hafter), htail, hnext, drop_succ_cons]

/-- Nothing after a number that the window reaches back to is missing from it. -/
theorem Window.after (h : Window number history window) {bound : Nat}
    (hbound : history.length - window.length ≤ bound) :
    (window.filter fun element => bound < number element) = history.drop bound := by
  have hlength := h.length_le
  rw [filter_after bound window _ h.window_numbers]
  calc window.drop (bound + 1 - (history.length - window.length + 1))
      = (history.drop (history.length - window.length)).drop
          (bound + 1 - (history.length - window.length + 1)) := by rw [← h.eq_drop]
    _ = history.drop bound := by
        rw [drop_drop]
        congr 1
        omega

theorem Window.numbers_after (h : Window number history window) (bound count : Nat) :
    ((history.drop bound).take count).map number =
      List.range' (bound + 1) (min count (history.length - bound)) := by
  rw [map_take, map_drop, h.numbers]
  apply ext_getElem
  · simp only [length_take, length_drop, length_range']
  intro index hleft hright
  simp only [getElem_take, getElem_drop, getElem_range']
  omega

/-- The last of the elements after a number is as far on as they are many. -/
theorem Window.last_after (h : Window number history window) (bound count : Nat) :
    (((history.drop bound).take count).getLast?.map number).getD bound =
      bound + min count (history.length - bound) := by
  rw [← getLast?_map, h.numbers_after]
  by_cases hempty : min count (history.length - bound) = 0
  · rw [hempty]
    rfl
  rw [getLast?_range', if_neg hempty, Option.getD_some]
  omega

theorem Window.pairwise_lt (h : Window number history window) (bound count : Nat) :
    ((history.drop bound).take count).Pairwise fun left right => number left < number right := by
  have hnumbers := h.numbers_after bound count
  rw [← pairwise_map (f := number), hnumbers]
  exact pairwise_lt_range'

end NumberedLog
