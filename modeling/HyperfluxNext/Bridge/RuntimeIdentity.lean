import HyperfluxNext.Bridge.NativeActor

namespace HyperfluxNext

open Procedure

inductive RuntimeIdentityError where
  | sequenceExhausted | invalidGeneratedIdentity

/-- Collision-free process-scoped identities for runtime-owned objects. -/
structure RuntimeIdentityIssuer where
  processPrefix : String
  nextSequence : Nat
  representable : nextSequence ≤ u64Max

abbrev IdentityM := EStateM RuntimeIdentityError RuntimeIdentityIssuer

/-- The SHA-256 of a process prefix and a sequence, in lower-case hexadecimal. -/
class RouteTokenDigest where
  routeToken : String → Nat → NativeRouteToken

def hexDigit (value : Nat) : Char := "0123456789abcdef".toList.getD value '0'

/-- The digits of a number that fits in the given width, with leading zeros. -/
def hexDigits : Nat → Nat → List Char
  | 0, _ => []
  | width + 1, value => hexDigits width (value / 16) ++ [hexDigit (value % 16)]

namespace RuntimeIdentityIssuer

/-- The issuer of a process, from the entropy its prefix is made of. -/
def new (bytes : List UInt8) : RuntimeIdentityIssuer :=
  ⟨String.ofList (bytes.flatMap lowerHexPair), 1, by decide⟩

def takeSequence : IdentityM Nat := do
  let issuer ← get
  if h : issuer.nextSequence + 1 ≤ u64Max then
    set { issuer with nextSequence := issuer.nextSequence + 1, representable := h }
    pure issuer.nextSequence
  else
    throw .sequenceExhausted

def nativeRouteToken [RouteTokenDigest] : IdentityM NativeRouteToken := do
  let issuer ← get
  let sequence ← takeSequence
  pure (RouteTokenDigest.routeToken issuer.processPrefix sequence)

end RuntimeIdentityIssuer

theorem hexDigit_injective {a b : Nat} (ha : a < 16) (hb : b < 16) (h : hexDigit a = hexDigit b) : a = b := by
  have hall : ∀ a b : Fin 16, hexDigit a = hexDigit b → a = b := by decide
  have heq := hall ⟨a, ha⟩ ⟨b, hb⟩ h
  exact congrArg Fin.val heq

theorem hexDigits_injective {width a b : Nat} (ha : a < 16 ^ width) (hb : b < 16 ^ width)
    (h : hexDigits width a = hexDigits width b) : a = b := by
  induction width generalizing a b with
  | zero => omega
  | succ width ih =>
    rw [Nat.pow_succ] at ha hb
    simp only [hexDigits] at h
    have hparts := List.append_inj' h rfl
    have hhigh : a / 16 = b / 16 := ih (by omega) (by omega) hparts.1
    have hlow : a % 16 = b % 16 := by
      have hdigit := List.cons.inj hparts.2
      exact hexDigit_injective (by omega) (by omega) hdigit.1
    omega

theorem hexDigits_size (width value : Nat) : (String.ofList (hexDigits width value)).utf8ByteSize = width := by
  induction width generalizing value with
  | zero => rfl
  | succ width ih =>
    have hdigit : ∀ digit : Fin 16, (String.ofList [hexDigit digit]).utf8ByteSize = 1 := by
      decide +kernel
    have hlast := hdigit ⟨value % 16, Nat.mod_lt _ (by decide)⟩
    simp only [hexDigits, String.ofList_append, String.utf8ByteSize_append]
    rw [ih, hlast]

/-- A sequence in place of its digest. -/
def sampleDigits (sequence : Nat) : Text 64 64 :=
  ⟨String.ofList (hexDigits 64 sequence), Nat.le_of_eq (hexDigits_size 64 sequence).symm,
    Nat.le_of_eq (hexDigits_size 64 sequence)⟩

theorem sampleDigits_injective {a b : Nat} (ha : a ≤ u64Max) (hb : b ≤ u64Max)
    (h : sampleDigits a = sampleDigits b) : a = b := by
  unfold sampleDigits at h
  have hdigits := String.ofList_injective (congrArg Text.asStr h)
  have hwidth : u64Max < 16 ^ 64 := by decide
  exact hexDigits_injective (Nat.lt_of_le_of_lt ha hwidth) (Nat.lt_of_le_of_lt hb hwidth) hdigits

namespace RuntimeIdentityIssuer

/-- Sequences were taken and nothing else. -/
structure Advanced (before after : RuntimeIdentityIssuer) : Prop where
  processPrefix : after.processPrefix = before.processPrefix
  later : before.nextSequence ≤ after.nextSequence

theorem Advanced.refl (issuer : RuntimeIdentityIssuer) : Advanced issuer issuer := ⟨rfl, Nat.le_refl _⟩

theorem Advanced.trans {first second third : RuntimeIdentityIssuer} (h : Advanced first second)
    (h' : Advanced second third) : Advanced first third :=
  ⟨h'.processPrefix.trans h.processPrefix, Nat.le_trans h.later h'.later⟩

variable {issuer : RuntimeIdentityIssuer}

theorem takeSequence_advanced :
    Holds takeSequence issuer
      (fun sequence after => sequence = issuer.nextSequence ∧
        after.processPrefix = issuer.processPrefix ∧ after.nextSequence = issuer.nextSequence + 1)
      (fun _ after => after = issuer) := by
  simp only [takeSequence, holds_do]
  split
  · exact ⟨rfl, rfl, rfl⟩
  · exact rfl

end RuntimeIdentityIssuer

end HyperfluxNext
