import Mathlib.Algebra.Order.Field.Rat
import Mathlib.Algebra.Order.Field.Power
import Mathlib.Tactic.GCongr
import Mathlib.Tactic.NormNum
import Mathlib.Tactic.Positivity

/-!
# Decimal numbers and Python values

The finite decimals of the general decimal arithmetic: a sign, a coefficient and an exponent.
Decimals of one numeric value may have different exponents, and different texts then: in plain
notation when the exponent is not positive and the number is not too small, else in scientific
notation.

Then the values that `json.loads` can return, and decimals. The type of floats is a parameter. A
dictionary is the list of its entries.
-/

namespace AiAnalytics.Lib

structure Decimal where
  negative : Bool
  coefficient : Nat
  exponent : Int
deriving DecidableEq, Repr

namespace Decimal

variable (d : Decimal)

def sign : Int := if d.negative then -1 else 1

def value : ℚ := d.sign * d.coefficient * 10 ^ d.exponent

def digits : List Char := Nat.toDigits 10 d.coefficient

def leftDigits : Int := d.exponent + d.digits.length

def dotPlace : Int := if d.exponent ≤ 0 ∧ -6 < d.leftDigits then d.leftDigits else 1

def intPart : List Char :=
  if d.dotPlace ≤ 0 then ['0']
  else if d.digits.length ≤ d.dotPlace then
    d.digits ++ List.replicate (d.dotPlace - d.digits.length).toNat '0'
  else d.digits.take d.dotPlace.toNat

def fracPart : List Char :=
  if d.dotPlace ≤ 0 then '.' :: (List.replicate (-d.dotPlace).toNat '0' ++ d.digits)
  else if d.digits.length ≤ d.dotPlace then []
  else '.' :: d.digits.drop d.dotPlace.toNat

def signedText (n : Int) : List Char :=
  (if n < 0 then '-' else '+') :: Nat.toDigits 10 n.natAbs

def expPart : List Char :=
  if d.leftDigits = d.dotPlace then [] else 'E' :: signedText (d.leftDigits - d.dotPlace)

def str : List Char :=
  (if d.negative then ['-'] else []) ++ d.intPart ++ d.fracPart ++ d.expPart

def toInt : Int :=
  d.sign * (if 0 ≤ d.exponent then d.coefficient * 10 ^ d.exponent.toNat
    else d.coefficient / 10 ^ (-d.exponent).toNat : Nat)

def TinyDigit : Prop := 0 < d.coefficient ∧ d.coefficient < 10 ∧ d.exponent < -6

instance : Decidable d.TinyDigit := inferInstanceAs (Decidable (_ ∧ _ ∧ _))

variable {d}

section Text

theorem length_digits_pos : 0 < d.digits.length := Nat.length_toDigits_pos

theorem length_digits_le_one_iff : d.digits.length ≤ 1 ↔ d.coefficient < 10 := by
  rw [digits, Nat.length_toDigits_le_iff (by decide) (by decide), pow_one]

theorem point_not_mem_toDigits (n : Nat) : '.' ∉ Nat.toDigits 10 n := fun hmem =>
  absurd (Nat.isDigit_of_mem_toDigits (by decide) (by decide) hmem) (by decide)

theorem point_not_mem_intPart : '.' ∉ d.intPart := by
  have hdigits : '.' ∉ d.digits := point_not_mem_toDigits _
  unfold intPart
  split
  · decide
  · split
    · simp [hdigits, List.mem_replicate]
    · exact fun hmem => hdigits (List.mem_of_mem_take hmem)

theorem point_not_mem_expPart : '.' ∉ d.expPart := by
  have hdigits := point_not_mem_toDigits (d.leftDigits - d.dotPlace).natAbs
  unfold expPart signedText
  split
  · decide
  · split <;> simp [hdigits]

theorem point_mem_fracPart_iff : '.' ∈ d.fracPart ↔ d.dotPlace < d.digits.length := by
  have hpos := d.length_digits_pos
  unfold fracPart
  split
  · simp
    omega
  · split
    · simpa using by omega
    · simp
      omega

theorem point_mem_str_iff : '.' ∈ d.str ↔ d.dotPlace < d.digits.length := by
  have hsign : '.' ∉ (if d.negative then ['-'] else []) := by
    split <;> simp
  simp only [str, List.mem_append, hsign, point_not_mem_intPart, point_not_mem_expPart,
    point_mem_fracPart_iff, false_or, or_false]

theorem exponent_nonneg_or_of_point_not_mem (hpoint : '.' ∉ d.str) :
    0 ≤ d.exponent ∨ d.coefficient = 0 ∨ d.TinyDigit := by
  rw [point_mem_str_iff, dotPlace, not_lt] at hpoint
  by_cases hint : 0 ≤ d.exponent
  · exact .inl hint
  split at hpoint
  case isTrue => rw [leftDigits] at hpoint; omega
  case isFalse hsci =>
    have hdigits : d.digits.length ≤ 1 := by exact_mod_cast hpoint
    have hpos := d.length_digits_pos
    rw [leftDigits] at hsci
    rcases Nat.eq_zero_or_pos d.coefficient with hzero | hcoeff
    · exact .inr (.inl hzero)
    · exact .inr (.inr ⟨hcoeff, length_digits_le_one_iff.mp hdigits, by omega⟩)

theorem point_not_mem_of_tinyDigit (htiny : d.TinyDigit) : '.' ∉ d.str := by
  have hdigits := length_digits_le_one_iff.mpr htiny.2.1
  have hsmall := htiny.2.2
  rw [point_mem_str_iff, dotPlace, if_neg]
  · omega
  · rw [leftDigits]
    omega

end Text

section Value

theorem sign_ne_zero : d.sign ≠ 0 := by
  unfold sign
  split <;> decide

theorem value_eq_zero_iff : d.value = 0 ↔ d.coefficient = 0 := by
  have hpow : (10 : ℚ) ^ d.exponent ≠ 0 := zpow_ne_zero _ (by norm_num)
  simp [value, sign_ne_zero, hpow]

theorem toInt_of_exponent_nonneg (hint : 0 ≤ d.exponent) : (d.toInt : ℚ) = d.value := by
  obtain ⟨n, hn⟩ := Int.eq_ofNat_of_zero_le hint
  rw [toInt, if_pos hint, value, hn]
  push_cast
  rw [zpow_natCast, Int.toNat_natCast, mul_assoc]

theorem toInt_of_coefficient_eq_zero (hzero : d.coefficient = 0) : (d.toInt : ℚ) = d.value := by
  simp [toInt, value, hzero]

theorem toInt_of_tinyDigit (htiny : d.TinyDigit) : d.toInt = 0 := by
  obtain ⟨-, hdigit, hsmall⟩ := htiny
  have hpow : 10 ≤ 10 ^ (-d.exponent).toNat := by
    calc 10 = 10 ^ 1 := rfl
      _ ≤ 10 ^ (-d.exponent).toNat := Nat.pow_le_pow_right (by decide) (by omega)
  rw [toInt, if_neg (by omega), Nat.div_eq_of_lt (by omega)]
  simp

theorem toInt_eq_value_iff (hpoint : '.' ∉ d.str) : (d.toInt : ℚ) = d.value ↔ ¬ d.TinyDigit := by
  constructor
  · intro heq htiny
    rw [toInt_of_tinyDigit htiny, Int.cast_zero, eq_comm, value_eq_zero_iff] at heq
    exact htiny.1.ne' heq
  · intro htiny
    rcases exponent_nonneg_or_of_point_not_mem hpoint with hint | hzero | h
    · exact toInt_of_exponent_nonneg hint
    · exact toInt_of_coefficient_eq_zero hzero
    · exact absurd h htiny

theorem value_ne_intCast_of_tinyDigit (htiny : d.TinyDigit) (n : Int) : d.value ≠ n := by
  obtain ⟨hpos, hdigit, hsmall⟩ := htiny
  have habs : |d.value| = d.coefficient * 10 ^ d.exponent := by
    rw [value, abs_mul, abs_mul, Nat.abs_cast, abs_of_pos (zpow_pos (by norm_num : (0 : ℚ) < 10) _)]
    have hsign : |(d.sign : ℚ)| = 1 := by
      unfold sign
      split <;> norm_num
    rw [hsign, one_mul]
  have hlt : |d.value| < 1 := by
    have hcoeff : (d.coefficient : ℚ) < 10 := by exact_mod_cast hdigit
    calc |d.value| = d.coefficient * 10 ^ d.exponent := habs
      _ < 10 * 10 ^ d.exponent := by gcongr
      _ = 10 ^ (1 + d.exponent) := by rw [zpow_add₀ (by norm_num), zpow_one]
      _ ≤ 10 ^ (0 : Int) := zpow_le_zpow_right₀ (by norm_num) (by omega)
      _ = 1 := zpow_zero _
  intro heq
  rw [heq] at hlt
  have hzero : n = 0 := Int.abs_lt_one_iff.mp (by exact_mod_cast hlt)
  rw [hzero, Int.cast_zero, value_eq_zero_iff] at heq
  exact hpos.ne' heq

theorem toInt_eq_of_value_eq {n : Int} (hvalue : d.value = n) : d.toInt = n := by
  by_cases hint : 0 ≤ d.exponent
  · have hcast := toInt_of_exponent_nonneg hint
    rw [hvalue] at hcast
    exact_mod_cast hcast
  · obtain ⟨k, hk⟩ := Int.eq_ofNat_of_zero_le (show 0 ≤ -d.exponent by omega)
    have hexp : d.exponent = -(k : Int) := by omega
    have hscaled : d.sign * d.coefficient = n * 10 ^ k := by
      have hpow : (10 : ℚ) ^ k ≠ 0 := pow_ne_zero _ (by norm_num)
      rw [value, hexp, zpow_neg, zpow_natCast, mul_inv_eq_iff_eq_mul₀ hpow] at hvalue
      exact_mod_cast hvalue
    have hsign : d.sign * d.sign = 1 := by
      unfold sign
      split <;> decide
    have hcoeff : (d.coefficient : Int) = d.sign * n * 10 ^ k := by
      calc (d.coefficient : Int) = d.sign * d.sign * d.coefficient := by rw [hsign, one_mul]
        _ = d.sign * (d.sign * d.coefficient) := mul_assoc _ _ _
        _ = d.sign * n * 10 ^ k := by rw [hscaled, mul_assoc]
    have hdiv : ((d.coefficient / 10 ^ k : Nat) : Int) = d.sign * n := by
      push_cast
      rw [hcoeff, Int.mul_ediv_cancel _ (pow_ne_zero _ (by norm_num))]
    rw [toInt, if_neg hint, hk, Int.toNat_natCast, hdiv, ← mul_assoc, hsign, one_mul]

end Value

example : (⟨false, 1, -7⟩ : Decimal).str = "1E-7".toList := by decide

example : (⟨true, 1230, -1⟩ : Decimal).str = "-123.0".toList := by decide

end Decimal

inductive PyValue (Float : Type) where
  | none
  | bool (b : Bool)
  | int (n : Int)
  | float (x : Float)
  | decimal (d : Decimal)
  | str (s : String)
  | list (items : List (PyValue Float))
  | dict (entries : List (String × PyValue Float))
deriving Repr

/-- The conversions between floats and decimals. A finite float is seen as the decimal value of its
shortest `repr`; `value` is `none` for the others. -/
structure FloatOps (Float : Type) where
  value : Float → Option ℚ
  /-- `Decimal(str(x))` -/
  toDecimal : Float → Decimal
  /-- `float(d)` -/
  ofDecimal : Decimal → Float

def PyValue.number {Float : Type} (ops : FloatOps Float) : PyValue Float → Option ℚ
  | .int n => some n
  | .float x => ops.value x
  | .decimal d => some d.value
  | _ => Option.none

/-- `repr` is the text of the float's value, and reading back any text of that value gives the
float's value again. -/
structure FloatOps.Lawful {Float : Type} (ops : FloatOps Float) : Prop where
  value_toDecimal : ∀ x q, ops.value x = some q → (ops.toDecimal x).value = q
  value_ofDecimal : ∀ x d, ops.value x = some d.value → ops.value (ops.ofDecimal d) = some d.value

end AiAnalytics.Lib
