import Mathlib.Data.List.Basic

/-! Exclusive-or checksums over a part of a byte string. -/

namespace XorSum

open List

def xorSum (bytes : List UInt8) : UInt8 := bytes.foldl (fun value byte => value ^^^ byte) 0

def slice (bytes : List UInt8) (start stop : Nat) : List UInt8 := (bytes.drop start).take (stop - start)

theorem foldl_xor (bytes : List UInt8) (start : UInt8) :
    bytes.foldl (fun value byte => value ^^^ byte) start = start ^^^ xorSum bytes := by
  induction bytes generalizing start with
  | nil => exact UInt8.xor_zero.symm
  | cons byte bytes ih =>
    unfold xorSum
    rw [foldl_cons, foldl_cons, ih, ih (0 ^^^ byte), UInt8.zero_xor, UInt8.xor_assoc]

theorem xorSum_cons (byte : UInt8) (bytes : List UInt8) : xorSum (byte :: bytes) = byte ^^^ xorSum bytes := by
  unfold xorSum
  rw [foldl_cons, foldl_xor, UInt8.zero_xor]
  rfl

variable {bytes : List UInt8} {index start stop : Nat}

theorem xorSum_set (h : index < bytes.length) (value : UInt8) :
    xorSum (bytes.set index value) = xorSum bytes ^^^ bytes[index] ^^^ value := by
  induction bytes generalizing index with
  | nil => exact absurd h (Nat.not_lt_zero _)
  | cons byte bytes ih =>
    cases index with
    | zero =>
      rw [set_cons_zero, xorSum_cons, xorSum_cons, getElem_cons_zero]
      have hswap : byte ^^^ xorSum bytes ^^^ byte = xorSum bytes := by
        rw [UInt8.xor_comm byte (xorSum bytes), UInt8.xor_assoc, UInt8.xor_self, UInt8.xor_zero]
      rw [hswap, UInt8.xor_comm]
    | succ index =>
      have hrest : index < bytes.length := Nat.lt_of_succ_lt_succ h
      rw [set_cons_succ, xorSum_cons, xorSum_cons, ih hrest, getElem_cons_succ,
        UInt8.xor_assoc, UInt8.xor_assoc, UInt8.xor_assoc]

theorem slice_length (h : stop ≤ bytes.length) : (slice bytes start stop).length = stop - start := by
  unfold slice
  rw [length_take, length_drop]
  omega

theorem slice_getElem? (h : index < stop - start) :
    (slice bytes start stop)[index]? = bytes[start + index]? := by
  unfold slice
  rw [getElem?_take, if_pos h, getElem?_drop]

/-- A byte inside the part is replaced in the part. -/
theorem slice_set_inside (hstart : start ≤ index) (value : UInt8) :
    slice (bytes.set index value) start stop = (slice bytes start stop).set (index - start) value := by
  unfold slice
  rw [drop_set, if_neg (Nat.not_lt.mpr hstart), take_set]

/-- The loop over the positions of the part gives its sum. -/
theorem foldl_positions (h : stop ≤ bytes.length) :
    (List.range' start (stop - start)).foldl (fun value index => value ^^^ bytes.getD index 0) 0 =
      xorSum (slice bytes start stop) := by
  have hmap : (List.range' start (stop - start)).map (fun index => bytes.getD index 0) =
      slice bytes start stop := by
    apply ext_getElem?
    intro position
    by_cases hinside : position < stop - start
    · have hbound : start + position < bytes.length := by omega
      rw [slice_getElem? hinside, getElem?_map, getElem?_range' hinside, Nat.one_mul,
        Option.map_some, getD_eq_getElem?_getD, getElem?_eq_getElem hbound]
      rfl
    have hleft : ((List.range' start (stop - start)).map fun index => bytes.getD index 0).length ≤
        position := by
      rw [length_map, length_range']
      omega
    have hright : (slice bytes start stop).length ≤ position := by
      rw [slice_length h]
      omega
    rw [getElem?_eq_none hleft, getElem?_eq_none hright]
  unfold xorSum
  rw [← hmap, foldl_map]

end XorSum
