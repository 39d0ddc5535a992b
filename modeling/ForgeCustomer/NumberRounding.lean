import Mathlib

/-!
# Numbers with a bounded count of digits

Rational numbers rounded to the grid whose step follows their size, ties to the even neighbour: what a double
holds, and what is left of a double written in decimal.
-/
namespace ForgeCustomer.NumberRounding

/-- The nearest integer, of two equally near ones the even one. -/
def roundHalfEven (q : ℚ) : ℤ :=
  let below := ⌊q⌋
  let rest := q - below
  if rest < 1 / 2 then below
  else if 1 / 2 < rest then below + 1
  else if below % 2 = 0 then below
  else below + 1

/-- The nearest multiple of `base ^ exponent`. -/
def roundAt (base : ℕ) (exponent : ℤ) (q : ℚ) : ℚ :=
  roundHalfEven (q / (base : ℚ) ^ exponent) * (base : ℚ) ^ exponent

/-- The nearest double: 53 binary digits, fewer below `2 ^ -1022`. The exponent has no upper bound. -/
def float8 (q : ℚ) : ℚ := roundAt 2 (max (Int.log 2 |q| - 52) (-1074)) q

/-- A double has to stay below `2 ^ 1024`. -/
def InRange (q : ℚ) : Prop := |q| < 2 ^ 1024

instance (q : ℚ) : Decidable (InRange q) := inferInstanceAs (Decidable (_ < _))

/-- A double in decimal, as `%.15g` writes it. -/
def numericOfFloat8 (q : ℚ) : ℚ := roundAt 10 (Int.log 10 |q| - 14) q

lemma roundHalfEven_intCast (n : ℤ) : roundHalfEven n = n := by
  have hrest : (n : ℚ) - n < 1 / 2 := by
    rw [sub_self]
    norm_num
  simp only [roundHalfEven, Int.floor_intCast]
  rw [if_pos hrest]

/-- An integer is on every grid of step one or finer. -/
lemma roundAt_intCast {base : ℕ} {exponent : ℤ} (hbase : 0 < base) (hexponent : exponent ≤ 0) (n : ℤ) :
    roundAt base exponent n = n := by
  obtain ⟨digits, hdigits⟩ := Int.eq_ofNat_of_zero_le (neg_nonneg.mpr hexponent)
  obtain rfl : exponent = -digits := by omega
  have hpower : (base : ℚ) ^ digits ≠ 0 := by positivity
  have hscaled : (n : ℚ) / (base : ℚ) ^ (-(digits : ℤ)) = ((n * (base : ℤ) ^ digits : ℤ) : ℚ) := by
    rw [zpow_neg, zpow_natCast, div_inv_eq_mul]
    push_cast
    rfl
  rw [roundAt, hscaled, roundHalfEven_intCast, zpow_neg, zpow_natCast]
  push_cast
  exact mul_inv_cancel_right₀ hpower _

/-- The leading digit of a number below `base ^ (digits + 1)`. -/
lemma log_le_of_lt {base : ℕ} (digits : ℕ) (hbase : 1 < base) {q : ℚ} (hq : |q| < (base : ℚ) ^ (digits + 1)) :
    Int.log base |q| ≤ digits := by
  rcases (abs_nonneg q).eq_or_lt with hzero | hpos
  · rw [← hzero, Int.log_zero_right]
    omega
  · have hsize : |q| < (base : ℚ) ^ ((digits + 1 : ℕ) : ℤ) := by rwa [zpow_natCast]
    have hlog := (Int.lt_zpow_iff_log_lt hbase hpos).mp hsize
    omega

lemma float8_intCast {n : ℤ} (hn : |n| < 2 ^ 53) : float8 n = n := by
  have hsize : |(n : ℚ)| < ((2 : ℕ) : ℚ) ^ (52 + 1) := by exact_mod_cast hn
  have hlog := log_le_of_lt 52 one_lt_two hsize
  refine roundAt_intCast two_pos ?_ n
  omega

/-- Past 53 binary digits an integer is lost in a double, past 15 decimal ones in its notation. -/
example : float8 9007199254740993 = 9007199254740992 ∧ numericOfFloat8 9007199254740992 = 9007199254740990 := by
  decide +kernel

end ForgeCustomer.NumberRounding
