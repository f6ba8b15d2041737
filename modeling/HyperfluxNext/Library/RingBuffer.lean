import Mathlib.Data.List.Basic

/-- A ring of fixed capacity: the next slot to write and how many slots are in use. -/
structure RingBuffer (α : Type) (capacity : Nat) where
  slots : Vector α capacity
  head : Nat
  count : Nat
  head_lt : head < capacity
  count_le : count ≤ capacity

namespace RingBuffer

open List

variable {α : Type} {capacity : Nat}

theorem capacity_pos (ring : RingBuffer α capacity) : 0 < capacity :=
  Nat.lt_of_le_of_lt (Nat.zero_le _) ring.head_lt

/-- The slot of the oldest element. -/
def start (ring : RingBuffer α capacity) : Nat := (ring.head + capacity - ring.count) % capacity

def slot (ring : RingBuffer α capacity) (index : Nat) : α :=
  have := Nat.mod_lt index ring.capacity_pos
  ring.slots[index % capacity]

/-- Writes over the oldest element when the ring is full. -/
def push (ring : RingBuffer α capacity) (element : α) : RingBuffer α capacity where
  slots := ring.slots.set ring.head element ring.head_lt
  head := (ring.head + 1) % capacity
  count := if ring.count < capacity then ring.count + 1 else ring.count
  head_lt := Nat.mod_lt _ ring.capacity_pos
  count_le := by
    have := ring.count_le
    split <;> omega

/-- The elements in use, the oldest first. -/
def contents (ring : RingBuffer α capacity) : List α :=
  (List.range ring.count).map fun offset => ring.slot (ring.start + offset)

section

variable (ring : RingBuffer α capacity)

theorem contents_length : ring.contents.length = ring.count := by
  unfold contents
  rw [length_map, length_range]

theorem contents_getElem {position : Nat} (h : position < ring.contents.length) :
    ring.contents[position] = ring.slot (ring.start + position) := by
  simp [contents]

theorem slot_mod (index : Nat) :
    ring.slot (index % capacity) = ring.slot index := by
  unfold slot
  simp only [Nat.mod_mod]

theorem slot_start (offset : Nat) :
    ring.slot (ring.start + offset) = ring.slot (ring.head + capacity - ring.count + offset) := by
  rw [← slot_mod ring (ring.start + offset), ← slot_mod ring (_ + offset)]
  unfold start
  rw [Nat.mod_add_mod]

theorem slot_push_head (element : α) :
    (ring.push element).slot (ring.head + capacity) = element := by
  unfold slot push
  simp [Nat.mod_eq_of_lt ring.head_lt]

theorem slot_push_other (element : α) {index : Nat}
    (h : index % capacity ≠ ring.head) : (ring.push element).slot index = ring.slot index := by
  unfold slot push
  dsimp only
  rw [Vector.getElem_set_ne _ _ (Ne.symm h)]

end

/-- A slot of a window that ends before the head is not the slot of the head. -/
theorem mod_ne_head {head capacity back : Nat} (hhead : head < capacity) (hback : 0 < back)
    (hcapacity : back < capacity) : (head + capacity - back) % capacity ≠ head := by
  by_cases hwrap : head < back
  · rw [Nat.mod_eq_of_lt (by omega)]
    omega
  have hsplit : head + capacity - back = head - back + capacity := by omega
  rw [hsplit, Nat.add_mod_right, Nat.mod_eq_of_lt (by omega)]
  omega

theorem slot_push_window (ring : RingBuffer α capacity) (element : α) {back : Nat} (hback : 0 < back)
    (hcapacity : back < capacity) :
    (ring.push element).slot (ring.head + capacity - back) = ring.slot (ring.head + capacity - back) :=
  slot_push_other ring element (mod_ne_head ring.head_lt hback hcapacity)

theorem push_start (ring : RingBuffer α capacity) (element : α) (offset : Nat)
    (hcount : (ring.push element).count ≤ capacity) :
    (ring.push element).slot ((ring.push element).start + offset) =
      (ring.push element).slot (ring.head + 1 + capacity - (ring.push element).count + offset) := by
  rw [slot_start]
  rw [← slot_mod _ (_ + offset), ← slot_mod _ (ring.head + 1 + capacity - _ + offset)]
  congr 1
  show ((ring.head + 1) % capacity + capacity - (ring.push element).count + offset) % capacity = _
  have hleft : (ring.head + 1) % capacity + capacity - (ring.push element).count + offset =
      (ring.head + 1) % capacity + (capacity - (ring.push element).count + offset) := by
    omega
  have hright : ring.head + 1 + capacity - (ring.push element).count + offset =
      ring.head + 1 + (capacity - (ring.push element).count + offset) := by
    omega
  rw [hleft, hright, Nat.mod_add_mod]

/-- The new element stands last; the oldest one left when the ring was full. -/
theorem push_contents (ring : RingBuffer α capacity) (element : α) :
    (ring.push element).contents =
      ring.contents.drop (if ring.count < capacity then 0 else 1) ++ [element] := by
  have hle := ring.count_le
  have hpos := ring.capacity_pos
  have hcount : (ring.push element).count = if ring.count < capacity then ring.count + 1 else ring.count := rfl
  have hdrop : (ring.contents.drop (if ring.count < capacity then 0 else 1)).length + 1 =
      (ring.push element).count := by
    rw [length_drop, contents_length, hcount]
    split <;> omega
  apply ext_getElem
  · rw [contents_length, length_append, length_singleton, hdrop]
  intro position hleft hright
  rw [contents_length] at hleft
  rw [contents_getElem, push_start ring element position (ring.push element).count_le]
  by_cases hlast : position + 1 = (ring.push element).count
  · rw [getElem_append_right (by omega), getElem_singleton]
    have hindex : ring.head + 1 + capacity - (ring.push element).count + position = ring.head + capacity := by
      have := (ring.push element).count_le
      omega
    rw [hindex, slot_push_head]
  rw [getElem_append_left (by omega), getElem_drop, contents_getElem, slot_start]
  have hcapacity : (ring.push element).count ≤ capacity := (ring.push element).count_le
  have hback : ring.head + 1 + capacity - (ring.push element).count + position =
      ring.head + capacity - ((ring.push element).count - 1 - position) := by
    omega
  have hwindow : ring.head + capacity - ((ring.push element).count - 1 - position) =
      ring.head + capacity - ring.count + ((if ring.count < capacity then 0 else 1) + position) := by
    by_cases hroom : ring.count < capacity
    · rw [if_pos hroom] at hcount ⊢
      omega
    rw [if_neg hroom] at hcount ⊢
    omega
  rw [← hwindow, hback]
  exact slot_push_window ring element (by omega) (by omega)

end RingBuffer
