import Mathlib.Algebra.Group.Nat.Defs

namespace Doubles

/-!
# Sums and differences of doubles

A number is counted in units of 2 ^ -1074, of which every nonnegative finite
binary64 number is a whole number.  Results are rounded to 53 significant bits,
ties to even; the exponent has no upper bound.
-/

/-- How many low bits are rounded away. -/
def excess (value : Nat) : Nat :=
  value.log2 - 52

/-- The nearest multiple of a power of two, in its units; ties to even. -/
def nearest (value bits : Nat) : Nat :=
  let rest := 2 * (value % 2 ^ bits)
  if rest < 2 ^ bits ∨ (rest = 2 ^ bits ∧ value / 2 ^ bits % 2 = 0) then
    value / 2 ^ bits
  else
    value / 2 ^ bits + 1

/-- The double nearest to a number. -/
def round (value : Nat) : Nat :=
  nearest value (excess value) * 2 ^ excess value

/-- The sum of two doubles. -/
def add (first second : Nat) : Nat :=
  round (first + second)

/-- The difference of two doubles, the second of which is not larger. -/
def sub (first second : Nat) : Nat :=
  round (first - second)

/-- How many bits there are below one. -/
@[irreducible] def scale : Nat :=
  1074

/-- One second. -/
def second : Nat :=
  2 ^ scale

theorem two_mul_second : 2 * second = 2 ^ (scale + 1) := by
  rw [second, Nat.pow_succ']

theorem nearest_le {value bits : Nat} :
    nearest value bits ≤ value / 2 ^ bits + 1 := by
  rw [nearest]
  split <;> omega

/-- What does not exceed a power of two is not rounded above it. -/
theorem round_le_two_pow {value bits : Nat} (isBelow : value ≤ 2 ^ bits) :
    round value ≤ 2 ^ bits := by
  rcases Nat.eq_or_lt_of_le isBelow with rfl | isLess
  · have isExcess : excess (2 ^ bits) = bits - 52 := by
      rw [excess, Nat.log2_two_pow]
    have divides : 2 ^ bits % 2 ^ (bits - 52) = 0 :=
      Nat.mod_eq_zero_of_dvd (Nat.pow_dvd_pow 2 (Nat.sub_le _ _))
    have isNearest : nearest (2 ^ bits) (bits - 52) =
        2 ^ bits / 2 ^ (bits - 52) := by
      rw [nearest, divides, if_pos (Or.inl (Nat.two_pow_pos _))]
    rw [round, isExcess, isNearest]
    exact Nat.div_mul_le_self _ _
  · by_cases small : value < 2 ^ 53
    · have isExcess : excess value = 0 := by
        rw [excess, Nat.sub_eq_zero_iff_le]
        by_cases isZero : value = 0
        · rw [isZero]
          decide
        · exact Nat.le_of_lt_succ ((Nat.log2_lt isZero).mpr small)
      have isSame : round value = value := by
        simp [round, isExcess, nearest, Nat.mod_one]
      rw [isSame]
      exact isBelow
    · have notZero : value ≠ 0 := by
        rintro rfl
        exact small (Nat.two_pow_pos _)
      have isLog : value.log2 < bits := (Nat.log2_lt notZero).mpr isLess
      have large : 53 ≤ value.log2 :=
        (Nat.le_log2 notZero).mpr (Nat.le_of_not_lt small)
      have isWhole : 2 ^ 53 * 2 ^ excess value = 2 ^ (value.log2 + 1) := by
        rw [← Nat.pow_add, excess]
        congr 1
        omega
      have isQuotient : value / 2 ^ excess value < 2 ^ 53 := by
        rw [Nat.div_lt_iff_lt_mul (Nat.two_pow_pos _), isWhole]
        exact Nat.lt_log2_self
      calc
        round value ≤ 2 ^ 53 * 2 ^ excess value :=
          Nat.mul_le_mul_right _ (Nat.le_trans nearest_le isQuotient)
        _ = 2 ^ (value.log2 + 1) := isWhole
        _ ≤ 2 ^ bits := Nat.pow_le_pow_right (by decide) isLog

end Doubles
