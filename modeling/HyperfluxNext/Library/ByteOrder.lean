import Mathlib.Algebra.Ring.Nat
import Mathlib.Tactic.Basic

/-! Numbers as bytes, the most significant byte first. -/

namespace ByteOrder

def toBeBytes : Nat → Nat → List UInt8
  | 0, _ => []
  | width + 1, value => toBeBytes width (value / 256) ++ [UInt8.ofNat value]

def fromBeBytes (bytes : List UInt8) : Nat := bytes.foldl (fun value byte => value * 256 + byte.toNat) 0

@[simp] theorem toBeBytes_length (width value : Nat) : (toBeBytes width value).length = width := by
  induction width generalizing value with
  | zero => rfl
  | succ width ih => rw [toBeBytes, List.length_append, ih, List.length_singleton]

theorem fromBeBytes_toBeBytes {width value : Nat} (h : value < 256 ^ width) :
    fromBeBytes (toBeBytes width value) = value := by
  induction width generalizing value with
  | zero =>
    rw [Nat.pow_zero] at h
    have hzero : value = 0 := by omega
    rw [hzero]
    rfl
  | succ width ih =>
    rw [Nat.pow_succ] at h
    have hhigh : fromBeBytes (toBeBytes width (value / 256)) = value / 256 := ih (by omega)
    have hlow : (UInt8.ofNat value).toNat = value % 256 := UInt8.toNat_ofNat'
    unfold fromBeBytes at hhigh
    unfold fromBeBytes toBeBytes
    rw [List.foldl_append, hhigh, List.foldl_cons, List.foldl_nil, hlow]
    omega

end ByteOrder
