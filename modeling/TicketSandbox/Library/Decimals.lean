import Mathlib.Algebra.Group.Nat.Defs
import Mathlib.Data.List.Basic

namespace Decimals

/-!
# Finite decimals and their text

A finite decimal keeps the exponent that it was written with, so that one
number has many texts.  Those written with exactly one fraction digit are told
apart by their texts as they are by their numbers.
-/

abbrev Text := List Char

/-- A finite decimal: the sign, the digits as a number, the exponent. -/
structure Decimal where
  isNegative : Bool
  coefficient : Nat
  exponent : Int

/-- The digits before the `dot`, the point, and the digits behind it. -/
def pointed (digits : Text) (dot : Int) : Text :=
  if dot ≤ 0 then
    '0' :: '.' :: (List.replicate (-dot).toNat '0' ++ digits)
  else if digits.length ≤ dot then
    digits ++ List.replicate (dot - digits.length).toNat '0'
  else
    digits.take dot.toNat ++ '.' :: digits.drop dot.toNat

namespace Decimal

variable (decimal : Decimal)

/-- The digits of the coefficient. -/
def digits : Text :=
  Nat.toDigits 10 decimal.coefficient

/-- How many of the digits stand before the point. -/
def leftDigits : Int :=
  decimal.exponent + decimal.digits.length

/-- Where the point is put. -/
def dotPlace : Int :=
  if decimal.exponent ≤ 0 ∧ -6 < decimal.leftDigits then decimal.leftDigits
  else 1

/-- What is written behind the digits when the point was moved. -/
def power (shift : Int) : Text :=
  if shift = 0 then []
  else if 0 < shift then 'E' :: '+' :: Nat.toDigits 10 shift.natAbs
  else 'E' :: '-' :: Nat.toDigits 10 shift.natAbs

/-- The text of the decimal. -/
def str (decimal : Decimal) : Text :=
  (if decimal.isNegative = true then ['-'] else []) ++
    pointed decimal.digits decimal.dotPlace ++
    power (decimal.leftDigits - decimal.dotPlace)

/-- The decimal is written with exactly one fraction digit and no minus. -/
def IsPlain : Prop :=
  decimal.exponent = -1 ∧ decimal.isNegative = false
  deriving Decidable

/-- The number of tenths, for a decimal with at most one fraction digit. -/
def tenths : Nat :=
  decimal.coefficient * 10 ^ (decimal.exponent + 1).toNat

/-- So many tenths, written with one fraction digit. -/
def ofTenths (tenths : Nat) : Decimal where
  isNegative := false
  coefficient := tenths
  exponent := -1

theorem IsPlain.ofTenths {decimal : Decimal} (plain : decimal.IsPlain) :
    ofTenths decimal.tenths = decimal := by
  obtain ⟨isNegative, coefficient, exponent⟩ := decimal
  obtain ⟨rfl, rfl⟩ := plain
  simp [Decimal.ofTenths, tenths]

theorem str_ofTenths (tenths : Nat) :
    (ofTenths tenths).str = pointed (Nat.toDigits 10 tenths)
        ((Nat.toDigits 10 tenths).length - 1 : Nat) := by
  have isPositive : 0 < (Nat.toDigits 10 tenths).length :=
    List.length_pos_iff.mpr Nat.toDigits_ne_nil
  have left : (ofTenths tenths).leftDigits =
        ((Nat.toDigits 10 tenths).length - 1 : Nat) := by
    simp only [leftDigits, digits, ofTenths]
    omega
  have dot : (ofTenths tenths).dotPlace = (ofTenths tenths).leftDigits :=
    if_pos ⟨Int.negSucc_le_zero 0, by rw [left]; omega⟩
  have noPower : power 0 = [] := rfl
  rw [str, dot, Int.sub_self, noPower, List.append_nil, left]
  rfl

theorem ofDigitChars_str_ofTenths (tenths : Nat) :
    Nat.ofDigitChars 10 ((ofTenths tenths).str.filter Char.isDigit) 0 =
      tenths := by
  have allDigits :
      (Nat.toDigits 10 tenths).filter Char.isDigit = Nat.toDigits 10 tenths :=
    List.filter_eq_self.mpr fun char member =>
      Nat.isDigit_of_mem_toDigits (by decide) (by decide) member
  rw [str_ofTenths, pointed]
  split
  · rename_i few
    have noZeros :
        (-(((Nat.toDigits 10 tenths).length - 1 : Nat) : Int)).toNat = 0 := by
      omega
    rw [noZeros]
    simp [allDigits, Nat.ofDigitChars_cons, Nat.ofDigitChars_ten_toDigits]
  · rename_i many
    split
    · rename_i short
      omega
    · rw [Int.toNat_natCast, List.filter_append,
        List.filter_cons_of_neg (by decide), ← List.filter_append,
        List.take_append_drop, allDigits, Nat.ofDigitChars_ten_toDigits]

theorem str_ofTenths_injective {first second : Nat}
    (same : (ofTenths first).str = (ofTenths second).str) :
    first = second := by
  rw [← ofDigitChars_str_ofTenths first, same, ofDigitChars_str_ofTenths]

theorem mem_str_ofTenths
    {char : Char} {tenths : Nat} (member : char ∈ (ofTenths tenths).str) :
    char = '.' ∨ char.isDigit = true := by
  have digit {char : Char} (member : char ∈ Nat.toDigits 10 tenths) :
      char = '.' ∨ char.isDigit = true :=
    .inr (Nat.isDigit_of_mem_toDigits (by decide) (by decide) member)
  have zeros {count : Nat} (member : char ∈ List.replicate count '0') :
      char = '.' ∨ char.isDigit = true :=
    .inr (List.eq_of_mem_replicate member ▸ rfl)
  rw [str_ofTenths, pointed] at member
  split at member
  · rcases List.mem_cons.mp member with rfl | member
    · exact .inr rfl
    · rcases List.mem_cons.mp member with rfl | member
      · exact .inl rfl
      · exact (List.mem_append.mp member).elim zeros digit
  · split at member
    · exact (List.mem_append.mp member).elim digit zeros
    · rcases List.mem_append.mp member with before | behind
      · exact digit (List.mem_of_mem_take before)
      · rcases List.mem_cons.mp behind with rfl | behind
        · exact .inl rfl
        · exact digit (List.mem_of_mem_drop behind)

theorem point_mem_str_ofTenths (tenths : Nat) :
    '.' ∈ (ofTenths tenths).str := by
  have isPositive : 0 < (Nat.toDigits 10 tenths).length :=
    List.length_pos_iff.mpr Nat.toDigits_ne_nil
  rw [str_ofTenths, pointed]
  split
  · exact List.mem_cons_of_mem _ List.mem_cons_self
  · rw [if_neg (by omega)]
    exact List.mem_append_right _ List.mem_cons_self

/-- With at most one fraction digit, only a plain decimal has the text of a
number of tenths. -/
theorem isPlain_of_str
    {decimal : Decimal} {tenths : Nat} (places : -1 ≤ decimal.exponent)
    (same : decimal.str = (ofTenths tenths).str) :
    decimal.IsPlain := by
  have chars {char : Char} (member : char ∈ decimal.str) :
      char = '.' ∨ char.isDigit = true :=
    mem_str_ofTenths (same ▸ member)
  have isPositive : 0 < decimal.digits.length :=
    List.length_pos_iff.mpr Nat.toDigits_ne_nil
  refine ⟨?_, ?_⟩
  · rcases Int.lt_trichotomy decimal.exponent 0 with below | isZero | above
    · omega
    · have left : decimal.leftDigits = decimal.digits.length := by
        rw [leftDigits, isZero, Int.zero_add]
      have dot : decimal.dotPlace = decimal.leftDigits :=
        if_pos ⟨Int.le_of_eq isZero, by omega⟩
      have whole :
          pointed decimal.digits decimal.digits.length = decimal.digits := by
        rw [pointed, if_neg (by omega), if_pos (Int.le_refl _), Int.sub_self,
          Int.toNat_zero, List.replicate_zero, List.append_nil]
      have noPower : power 0 = [] := rfl
      have point : '.' ∈ decimal.str := same ▸ point_mem_str_ofTenths tenths
      rw [str, dot, left, Int.sub_self, whole, noPower, List.append_nil]
        at point
      have isDigit : '.' ∈ decimal.digits := by
        split at point
        · simpa using point
        · exact point
      exact absurd (Nat.isDigit_of_mem_toDigits (by decide) (by decide) isDigit)
        (by decide)
    · have dot : decimal.dotPlace = 1 :=
        if_neg fun isDot => absurd isDot.1 (by omega)
      have shift : 0 < decimal.leftDigits - decimal.dotPlace := by
        rw [dot, leftDigits]
        omega
      have letter : 'E' ∈ power (decimal.leftDigits - decimal.dotPlace) := by
        rw [power, if_neg (Int.ne_of_gt shift), if_pos shift]
        exact List.mem_cons_self
      exact absurd (chars (List.mem_append_right _ letter)) (by decide)
  · cases isNegative : decimal.isNegative with
    | false => rfl
    | true =>
        have minus : '-' ∈ decimal.str := by
          rw [str, if_pos isNegative, List.append_assoc]
          exact List.mem_cons_self
        exact absurd (chars minus) (by decide)

example : (Decimal.mk false 5 0).str = "5".toList := by decide

example : (Decimal.mk false 50 (-1)).str = "5.0".toList := by decide

end Decimal

end Decimals
