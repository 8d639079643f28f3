import Mathlib.Algebra.Group.Nat.Defs
import Mathlib.Data.List.Induction

namespace FixedWidth

/-!
# Numbers of a fixed width

Numbers as the bytes that `struct` and `int.from_bytes` read and write, the
highest byte first.
-/

/-- Bytes as they are read and written. -/
abbrev Bytes := List UInt8

/-- The number of the bytes, the highest one first. -/
def unpack (bytes : Bytes) : Nat :=
  bytes.foldl (fun value byte => value * 256 + byte.toNat) 0

/-- The bytes of a number, the highest one first. -/
def pack : Nat → Nat → Bytes
  | 0, _ => []
  | width + 1, value => pack width (value / 256) ++ [UInt8.ofNat (value % 256)]

theorem unpack_concat (bytes : Bytes) (byte : UInt8) :
    unpack (bytes ++ [byte]) = unpack bytes * 256 + byte.toNat := by
  rw [unpack, List.foldl_append]
  rfl

/-- A number has as many bytes as it is wide. -/
@[simp] theorem length_pack (width value : Nat) :
    (pack width value).length = width := by
  induction width generalizing value with
  | zero => rfl
  | succ width inductionHypothesis =>
      rw [pack, List.length_append, inductionHypothesis]
      rfl

theorem unpack_pack {width value : Nat} (fits : value < 256 ^ width) :
    unpack (pack width value) = value := by
  induction width generalizing value with
  | zero =>
      rw [Nat.pow_zero, Nat.lt_one_iff] at fits
      rw [fits]
      rfl
  | succ width inductionHypothesis =>
      rw [Nat.pow_succ] at fits
      have smaller : value / 256 < 256 ^ width :=
        Nat.div_lt_of_lt_mul (by rwa [Nat.mul_comm])
      rw [pack, unpack_concat, inductionHypothesis smaller, UInt8.toNat_ofNat']
      omega

theorem pack_unpack (bytes : Bytes) :
    pack bytes.length (unpack bytes) = bytes := by
  induction bytes using List.reverseRecOn with
  | nil => rfl
  | append_singleton bytes byte inductionHypothesis =>
      have isByte := byte.toNat_lt
      have high : (unpack bytes * 256 + byte.toNat) / 256 = unpack bytes := by
        omega
      have low : (unpack bytes * 256 + byte.toNat) % 256 = byte.toNat := by
        omega
      rw [unpack_concat, List.length_append, List.length_singleton, pack,
        high, low, inductionHypothesis, UInt8.ofNat_toNat]

end FixedWidth
