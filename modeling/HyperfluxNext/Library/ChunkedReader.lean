import Mathlib.Data.List.Basic

/-! Byte streams that arrive in pieces, with interruptions in between, and numbers in byte order. -/

namespace ChunkedReader

open List

variable {E : Type}

/-- What one read of a stream may meet; a piece is never empty, as an empty read means the end. -/
inductive Arrival (E : Type) where
  | piece (first : UInt8) (more : List UInt8)
  | interrupted
  | failed (error : E)

/-- The bytes that are still to come. -/
def pending : List (Arrival E) → List UInt8
  | [] => []
  | .piece first more :: rest => first :: more ++ pending rest
  | .interrupted :: rest => pending rest
  | .failed _ :: rest => pending rest

/-- No read of the stream fails. -/
def Steady (source : List (Arrival E)) : Prop := ∀ error, Arrival.failed error ∉ source

inductive ReadAnswer (E : Type) where
  | count (bytes : List UInt8)
  | interrupted
  | failed (error : E)

/-- The bytes put back in front of a stream. -/
def unread (bytes : List UInt8) (source : List (Arrival E)) : List (Arrival E) :=
  match bytes with
  | [] => source
  | first :: more => .piece first more :: source

def read (room : Nat) : List (Arrival E) → ReadAnswer E × List (Arrival E)
  | [] => (.count [], [])
  | .piece first more :: rest => (.count ((first :: more).take room), unread ((first :: more).drop room) rest)
  | .interrupted :: rest => (.interrupted, rest)
  | .failed error :: rest => (.failed error, rest)

variable {room : Nat} {source rest : List (Arrival E)}

theorem read_count_length {bytes : List UInt8} (h : read room source = (.count bytes, rest))
    : bytes.length ≤ room := by
  unfold read at h
  split at h
  · cases h
    exact Nat.zero_le _
  · cases h
    exact length_take_le _ _
  · cases h
  · cases h

theorem read_interrupted_length (h : read room source = (.interrupted, rest)) : rest.length < source.length := by
  unfold read at h
  split at h
  · cases h
  · cases h
  · cases h
    exact Nat.lt_succ_self _
  · cases h

set_option linter.unusedVariables false in
/-- Reads until the room is filled or the stream ends, and again after each interruption. -/
def readInto (room : Nat) (source : List (Arrival E)) : Except E (List UInt8) × List (Arrival E) :=
  if room = 0 then
    (.ok [], source)
  else
    match h : read room source with
    | (.count bytes, rest) =>
      if hend : bytes = [] then
        (.ok [], rest)
      else
        match readInto (room - bytes.length) rest with
        | (.ok more, last) => (.ok (bytes ++ more), last)
        | (.error error, last) => (.error error, last)
    | (.interrupted, rest) => readInto room rest
    | (.failed error, rest) => (.error error, rest)
termination_by (room, source.length)
decreasing_by
  · apply Prod.Lex.left
    have hroom := read_count_length h
    have hpos := length_pos_iff.mpr hend
    omega
  apply Prod.Lex.right
  exact read_interrupted_length h

theorem pending_unread (bytes : List UInt8) (source : List (Arrival E)) :
    pending (unread bytes source) = bytes ++ pending source := by
  cases bytes with
  | nil | cons first more => rfl

theorem Steady.tail {arrival : Arrival E} (h : Steady (arrival :: source)) : Steady source :=
  fun error hmem => h error (mem_cons_of_mem _ hmem)

theorem Steady.unread (h : Steady source) (bytes : List UInt8) : Steady (unread bytes source) := by
  cases bytes with
  | nil => exact h
  | cons first more =>
    intro error hmem
    obtain heq | hrest := mem_cons.mp hmem
    · cases heq
    · exact h error hrest

theorem read_steady (room : Nat) (hsteady : Steady source) :
    Steady (read room source).2 ∧
      ((∃ bytes, (read room source).1 = .count bytes ∧ bytes = (pending source).take bytes.length ∧
        pending (read room source).2 = (pending source).drop bytes.length ∧
        (bytes = [] → room = 0 ∨ pending source = [])) ∨
      ((read room source).1 = .interrupted ∧ pending (read room source).2 = pending source)) := by
  cases source with
  | nil => exact ⟨hsteady, .inl ⟨[], rfl, rfl, rfl, fun _ => .inr rfl⟩⟩
  | cons arrival rest =>
    cases arrival with
    | piece first more =>
      have hlength : ((first :: more).take room).length = min room (first :: more).length := length_take
      have htake : (first :: more).take (min room (first :: more).length) = (first :: more).take room := by
        rw [take_eq_take_iff]
        omega
      have hdrop : (first :: more).drop (min room (first :: more).length) = (first :: more).drop room := by
        by_cases hroom : room ≤ (first :: more).length
        · rw [Nat.min_eq_left hroom]
        have hshort : (first :: more).length ≤ room := by omega
        rw [Nat.min_eq_right hshort, drop_length, drop_eq_nil_of_le hshort]
      refine ⟨hsteady.tail.unread _, .inl ⟨(first :: more).take room, rfl, ?_, ?_, ?_⟩⟩
      · rw [hlength]
        show _ = ((first :: more) ++ pending rest).take _
        rw [take_append_of_le_length (Nat.min_le_right _ _), htake]
      · rw [hlength]
        show pending (unread ((first :: more).drop room) rest) = ((first :: more) ++ pending rest).drop _
        rw [drop_append_of_le_length (Nat.min_le_right _ _), hdrop, pending_unread]
      intro hnil
      rw [hnil] at hlength
      rw [length_nil, length_cons] at hlength
      exact .inl (by omega)
    | interrupted => exact ⟨hsteady.tail, .inr ⟨rfl, rfl⟩⟩
    | failed error => exact absurd mem_cons_self (hsteady error)

theorem readInto_zero (source : List (Arrival E)) : readInto 0 source = (.ok [], source) := by
  rw [readInto, if_pos rfl]

theorem readInto_end (hroom : room ≠ 0) (h : read room source = (.count [], rest))
    : readInto room source = (.ok [], rest) := by
  rw [readInto, if_neg hroom]
  split
  next bytes last heq =>
    rw [h] at heq
    cases heq
    rw [dif_pos rfl]
  next heq =>
    rw [h] at heq
    cases heq
  next heq =>
    rw [h] at heq
    cases heq

theorem readInto_count {bytes : List UInt8} (hroom : room ≠ 0) (h : read room source = (.count bytes, rest))
    (hend : bytes ≠ []) :
    readInto room source = ((readInto (room - bytes.length) rest).1.map (bytes ++ ·),
      (readInto (room - bytes.length) rest).2) := by
  rw [readInto, if_neg hroom]
  split
  next found last heq =>
    rw [h] at heq
    cases heq
    rw [dif_neg hend]
    cases readInto (room - bytes.length) rest with
    | mk answer last => cases answer <;> rfl
  next heq =>
    rw [h] at heq
    cases heq
  next heq =>
    rw [h] at heq
    cases heq

theorem readInto_interrupted (hroom : room ≠ 0) (h : read room source = (.interrupted, rest))
    : readInto room source = readInto room rest := by
  rw [readInto, if_neg hroom]
  split
  next heq =>
    rw [h] at heq
    cases heq
  next last heq =>
    rw [h] at heq
    cases heq
    rfl
  next heq =>
    rw [h] at heq
    cases heq

/-- However a steady stream arrives, the bytes read are its first ones. -/
theorem readInto_steady (room : Nat) (source : List (Arrival E)) (hsteady : Steady source) :
    (readInto room source).1 = .ok ((pending source).take room) ∧
      pending (readInto room source).2 = (pending source).drop room ∧
      Steady (readInto room source).2 := by
  by_cases hroom : room = 0
  · rw [hroom, readInto_zero]
    exact ⟨rfl, rfl, hsteady⟩
  obtain ⟨hlast, hcount | hinterrupted⟩ := read_steady room hsteady
  · obtain ⟨bytes, hbytes, htaken, hpending, hend⟩ := hcount
    have hread : read room source = (.count bytes, (read room source).2) := Prod.ext hbytes rfl
    have hlength := read_count_length hread
    by_cases hempty : bytes = []
    · rw [hempty] at hread hpending
      have hnone : pending source = [] := (hend hempty).resolve_left hroom
      rw [readInto_end hroom hread, hnone]
      refine ⟨by rw [take_nil], ?_, hlast⟩
      rw [hpending, hnone, drop_nil, drop_nil]
    have hpos := length_pos_iff.mpr hempty
    obtain ⟨hmore, hrest, hsteady'⟩ := readInto_steady (room - bytes.length) (read room source).2 hlast
    rw [readInto_count hroom hread hempty]
    have hsplit : room = bytes.length + (room - bytes.length) := by omega
    refine ⟨?_, ?_, hsteady'⟩
    · show (readInto _ _).1.map (bytes ++ ·) = _
      rw [hmore, hpending]
      show Except.ok (bytes ++ _) = _
      conv_rhs => rw [hsplit, take_add, ← htaken]
    show pending (readInto _ _).2 = _
    rw [hrest, hpending, drop_drop, ← hsplit]
  · obtain ⟨hanswer, hsame⟩ := hinterrupted
    have hread : read room source = (.interrupted, (read room source).2) := Prod.ext hanswer rfl
    have hshorter := read_interrupted_length hread
    rw [readInto_interrupted hroom hread, ← hsame]
    exact readInto_steady room (read room source).2 hlast
termination_by (room, source.length)

end ChunkedReader
