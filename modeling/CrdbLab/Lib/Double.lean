import CrdbLab.Lib.Rounding
import Mathlib.Data.Int.Log
import Mathlib.Data.Rat.Floor

/-!
Arithmetic in double precision.

A double has 53 significant binary digits, down to the smallest exponent. The result of an
operation is the double nearest to the exact value, a tie going to the one whose last digit is
even. Values beyond the largest double are not modelled: the exponent has no upper end here.
-/

namespace CrdbLab.Lib.Double

open CrdbLab.Lib.Rounding

/-- The exponent of the last digit that is kept of a value. -/
def lastExponent (x : ℚ) : ℤ := max (-1074) (Int.log 2 |x| - 52)

/-- The smallest positive double. -/
def smallest : ℚ := 2 ^ (-1074 : ℤ)

/-- The unit of the last digit. -/
def ulp (x : ℚ) : ℚ := 2 ^ lastExponent x

/-- The double nearest to a value. -/
def double (x : ℚ) : ℚ := halfEven (x / ulp x) * ulp x

/-- `round(x, n)`: the double nearest to the value rounded to `n` decimals. -/
def roundDouble (n : ℕ) (x : ℚ) : ℚ := double (roundTo n x)

/-- The values that are doubles. -/
def IsDouble (x : ℚ) : Prop := double x = x

instance (x : ℚ) : Decidable (IsDouble x) := inferInstanceAs (Decidable (double x = x))

/-! ### The last digit -/

lemma ulp_pos (x : ℚ) : 0 < ulp x := zpow_pos (by norm_num) _

lemma ulp_ne_zero (x : ℚ) : ulp x ≠ 0 := (ulp_pos x).ne'

@[simp] lemma ulp_neg (x : ℚ) : ulp (-x) = ulp x := by
  simp only [ulp, lastExponent, abs_neg]

/-- `n` digits more. -/
lemma two_pow_mul_ulp (n : ℕ) (x : ℚ) : 2 ^ n * ulp x = 2 ^ (n + lastExponent x) := by
  rw [zpow_add₀ (by norm_num), ulp, zpow_natCast]

/-- A value has at most 53 digits up to its last one. -/
lemma abs_lt_ulp (x : ℚ) : |x| < 2 ^ 53 * ulp x := by
  have hlog : |x| < (2 : ℚ) ^ (Int.log 2 |x| + 1) := by
    exact_mod_cast Int.lt_zpow_succ_log_self (b := 2) (by norm_num) |x|
  have hle : (2 : ℚ) ^ (Int.log 2 |x| + 1) ≤ 2 ^ ((53 : ℕ) + lastExponent x) := by
    refine zpow_le_zpow_right₀ (by norm_num) ?_
    unfold lastExponent
    push_cast
    omega
  rw [two_pow_mul_ulp]
  exact hlog.trans_le hle

/-- Above the smallest exponent it has all 53. -/
lemma ulp_le_abs {x : ℚ} (hx : x ≠ 0) (h : -1074 < lastExponent x) : 2 ^ 52 * ulp x ≤ |x| := by
  have hlast : (52 : ℕ) + lastExponent x = Int.log 2 |x| := by
    unfold lastExponent at h ⊢
    push_cast
    omega
  rw [two_pow_mul_ulp, hlast]
  exact_mod_cast Int.zpow_log_le_self (b := 2) (by norm_num) (abs_pos.mpr hx)

/-- The last digit of a value between two powers of two. -/
lemma lastExponent_eq {x : ℚ} {e : ℤ} (hlow : 2 ^ e ≤ |x|) (hhigh : |x| < 2 ^ (e + 1))
    (he : -1022 ≤ e) : lastExponent x = e - 52 := by
  have hpos : 0 < |x| := (zpow_pos (by norm_num) e).trans_le hlow
  have hle : e ≤ Int.log 2 |x| := (Int.zpow_le_iff_le_log (b := 2) (by norm_num) hpos).mp (by
    exact_mod_cast hlow)
  have hlt : Int.log 2 |x| < e + 1 := (Int.lt_zpow_iff_log_lt (b := 2) (by norm_num) hpos).mp (by
    exact_mod_cast hhigh)
  unfold lastExponent
  omega

lemma smallest_pos : 0 < smallest := zpow_pos (by norm_num) _

lemma ulp_le {x : ℚ} (hx : x ≠ 0) : ulp x ≤ |x| / 2 ^ 52 + smallest := by
  rcases lt_or_ge (-1074) (lastExponent x) with h | h
  · have hdiv : ulp x ≤ |x| / 2 ^ 52 := by
      rw [le_div_iff₀' (by norm_num)]
      exact ulp_le_abs hx h
    exact hdiv.trans (le_add_of_nonneg_right smallest_pos.le)
  · have hlast : lastExponent x = -1074 := le_antisymm h (le_max_left _ _)
    have hnonneg : 0 ≤ |x| / 2 ^ 52 := by positivity
    rw [ulp, hlast]
    exact le_add_of_nonneg_left hnonneg

/-- The last digit of a larger value stands no lower. -/
lemma ulp_mono {x y : ℚ} (hx : x ≠ 0) (h : |x| ≤ |y|) : lastExponent x ≤ lastExponent y := by
  have hlog : Int.log 2 |x| ≤ Int.log 2 |y| := Int.log_mono_right (abs_pos.mpr hx) h
  unfold lastExponent
  omega

/-! ### Doubles -/

@[simp] lemma double_zero : double 0 = 0 := by
  rw [double, zero_div, halfEven_zero, Int.cast_zero, zero_mul]

@[simp] lemma double_neg (x : ℚ) : double (-x) = -double x := by
  rw [double, double, ulp_neg, neg_div, halfEven_neg, Int.cast_neg, neg_mul]

/-- **A value with at most 53 digits is a double.** -/
lemma isDouble_of_digits {m e : ℤ} (hm : |m| ≤ 2 ^ 53) (he : -1074 ≤ e) :
    IsDouble (m * 2 ^ e) := by
  rcases eq_or_ne m 0 with rfl | hne
  · simp [IsDouble]
  set x : ℚ := m * 2 ^ e with hxdef
  have hpow : (0 : ℚ) < 2 ^ e := zpow_pos (by norm_num) _
  have hx : x ≠ 0 := mul_ne_zero (Int.cast_ne_zero.mpr hne) hpow.ne'
  have habs : |x| ≤ 2 ^ 53 * 2 ^ e := by
    rw [hxdef, abs_mul, abs_of_pos hpow]
    gcongr
    exact_mod_cast hm
  -- the value is a whole number of units of its last digit
  have hwhole : ∃ k : ℤ, x = k * ulp x := by
    rcases le_or_gt (lastExponent x) e with hle | hgt
    · refine ⟨m * 2 ^ (e - lastExponent x).toNat, ?_⟩
      have hsum : (2 : ℚ) ^ e = 2 ^ (e - lastExponent x).toNat * ulp x := by
        rw [two_pow_mul_ulp]
        congr 1
        omega
      push_cast
      rw [hxdef, mul_assoc, ← hsum]
    · have hge := ulp_le_abs hx (he.trans_lt hgt)
      have hstep : 2 * 2 ^ e ≤ ulp x := by
        have : (2 : ℚ) ^ (e + 1) ≤ 2 ^ lastExponent x :=
          zpow_le_zpow_right₀ (by norm_num) (by omega)
        rw [zpow_add₀ (by norm_num), zpow_one, mul_comm] at this
        exact this
      have hulp : 2 * 2 ^ e = ulp x := by linarith
      have hfull : |x| = 2 ^ 52 * ulp x := le_antisymm (by linarith) hge
      rcases le_total 0 x with hsign | hsign
      · refine ⟨2 ^ 52, ?_⟩
        rw [abs_of_nonneg hsign] at hfull
        exact_mod_cast hfull
      · refine ⟨-2 ^ 52, ?_⟩
        rw [abs_of_nonpos hsign] at hfull
        push_cast
        linarith
  obtain ⟨k, hk⟩ := hwhole
  have hquot : x / ulp x = k := by
    rw [div_eq_iff (ulp_ne_zero x)]
    exact hk
  rw [IsDouble, double, hquot, halfEven_intCast]
  exact hk.symm

lemma abs_double_sub_le (x : ℚ) : |double x - x| ≤ ulp x / 2 := by
  have h := abs_halfEven_sub_le (x / ulp x)
  have he : double x - x = (halfEven (x / ulp x) - x / ulp x) * ulp x := by
    rw [sub_mul, div_mul_cancel₀ _ (ulp_ne_zero x), double]
  rw [he, abs_mul, abs_of_pos (ulp_pos x)]
  have := mul_le_mul_of_nonneg_right h (ulp_pos x).le
  linarith

/-- **The error of an operation**, relative to the exact result, and half the smallest double. -/
lemma abs_double_sub_le_rel (x : ℚ) : |double x - x| ≤ |x| / 2 ^ 53 + smallest / 2 := by
  rcases eq_or_ne x 0 with rfl | hx
  · simpa using (half_pos smallest_pos).le
  · have h := abs_double_sub_le x
    have hulp := ulp_le hx
    linarith

/-- What is rounded has at most 53 digits. -/
lemma abs_digits_le (x : ℚ) : |halfEven (x / ulp x)| ≤ 2 ^ 53 := by
  have hlt : |x / ulp x| ≤ 2 ^ 53 := by
    rw [abs_div, abs_of_pos (ulp_pos x), div_le_iff₀ (ulp_pos x)]
    exact (abs_lt_ulp x).le
  obtain ⟨hlow, hhigh⟩ := abs_le.mp hlt
  have hlow' : ((-2 ^ 53 : ℤ) : ℚ) ≤ x / ulp x := by exact_mod_cast hlow
  have hhigh' : x / ulp x ≤ ((2 ^ 53 : ℤ) : ℚ) := by exact_mod_cast hhigh
  rw [abs_le]
  constructor
  · simpa only [halfEven_intCast] using halfEven_mono hlow'
  · simpa only [halfEven_intCast] using halfEven_mono hhigh'

lemma isDouble_double (x : ℚ) : IsDouble (double x) :=
  isDouble_of_digits (abs_digits_le x) (le_max_left _ _)

/-- Twice a double is one. -/
lemma IsDouble.add_self {x : ℚ} (h : IsDouble x) : IsDouble (x + x) := by
  obtain ⟨m, hm, e, he, hx⟩ : ∃ m : ℤ, |m| ≤ 2 ^ 53 ∧ ∃ e : ℤ, -1074 ≤ e ∧ x = m * 2 ^ e :=
    ⟨halfEven (x / ulp x), abs_digits_le x, lastExponent x, le_max_left _ _, h.symm⟩
  have hsum : x + x = m * 2 ^ (e + 1) := by
    rw [zpow_add₀ (by norm_num), zpow_one, hx]
    ring
  rw [hsum]
  exact isDouble_of_digits hm (by omega)

lemma double_nonneg {x : ℚ} (h : 0 ≤ x) : 0 ≤ double x := by
  have hq : 0 ≤ x / ulp x := div_nonneg h (ulp_pos x).le
  have := halfEven_mono hq
  rw [halfEven_zero] at this
  exact mul_nonneg (by exact_mod_cast this) (ulp_pos x).le

/-- Rounding keeps the order of values that are not negative. -/
lemma double_le_double_of_nonneg {x y : ℚ} (hx : 0 ≤ x) (h : x ≤ y) : double x ≤ double y := by
  rcases hx.eq_or_lt with rfl | hpos
  · rw [double_zero]
    exact double_nonneg h
  have habs : |x| ≤ |y| := by rwa [abs_of_pos hpos, abs_of_pos (hpos.trans_le h)]
  rcases (ulp_mono hpos.ne' habs).eq_or_lt with heq | hlt
  · have hulp : ulp x = ulp y := by rw [ulp, ulp, heq]
    have hq : x / ulp y ≤ y / ulp y := div_le_div_of_nonneg_right h (ulp_pos y).le
    rw [double, double, hulp]
    exact mul_le_mul_of_nonneg_right (by exact_mod_cast halfEven_mono hq) (ulp_pos y).le
  · -- the last digits differ: a power of two lies between the two values
    have hmiddle : (2 : ℚ) ^ 53 * ulp x ≤ 2 ^ 52 * ulp y := by
      rw [two_pow_mul_ulp, two_pow_mul_ulp]
      refine zpow_le_zpow_right₀ (by norm_num) ?_
      push_cast
      omega
    have hlow : double x ≤ 2 ^ 53 * ulp x := by
      have hq : x / ulp x ≤ ((2 ^ 53 : ℤ) : ℚ) := by
        rw [div_le_iff₀ (ulp_pos x)]
        push_cast
        have := (abs_lt_ulp x).le
        rwa [abs_of_pos hpos] at this
      have hle := halfEven_mono hq
      rw [halfEven_intCast] at hle
      exact mul_le_mul_of_nonneg_right (by exact_mod_cast hle) (ulp_pos x).le
    have hhigh : 2 ^ 52 * ulp y ≤ double y := by
      have hy : 0 < y := hpos.trans_le h
      have hq : ((2 ^ 52 : ℤ) : ℚ) ≤ y / ulp y := by
        rw [le_div_iff₀ (ulp_pos y)]
        push_cast
        have := ulp_le_abs hy.ne' ((le_max_left _ _).trans_lt hlt)
        rwa [abs_of_pos hy] at this
      have hle := halfEven_mono hq
      rw [halfEven_intCast] at hle
      exact mul_le_mul_of_nonneg_right (by exact_mod_cast hle) (ulp_pos y).le
    exact hlow.trans (hmiddle.trans hhigh)

/-- **Rounding keeps the order.** -/
lemma double_mono : Monotone double := by
  intro x y h
  rcases le_total 0 x with hx | hx
  · exact double_le_double_of_nonneg hx h
  rcases le_total 0 y with hy | hy
  · have hneg := double_nonneg (neg_nonneg.mpr hx)
    rw [double_neg] at hneg
    linarith [double_nonneg hy]
  · have := double_le_double_of_nonneg (neg_nonneg.mpr hy) (neg_le_neg h)
    rw [double_neg, double_neg] at this
    linarith

lemma roundDouble_mono (n : ℕ) : Monotone (roundDouble n) := fun _ _ h => double_mono (roundTo_mono n h)

@[simp] lemma double_double (x : ℚ) : double (double x) = double x := isDouble_double x

lemma IsDouble.double_le {x y : ℚ} (hy : IsDouble y) (h : x ≤ y) : double x ≤ y :=
  (double_mono h).trans_eq hy

/-! ### The error of a chain of operations -/

/-- A double is a whole number of the smallest one. -/
lemma IsDouble.exists_mul_smallest {x : ℚ} (h : IsDouble x) : ∃ k : ℤ, x = k * smallest := by
  have hlast : (-1074 : ℤ) ≤ lastExponent x := le_max_left _ _
  have hulp : ulp x = 2 ^ (lastExponent x + 1074).toNat * smallest := by
    rw [ulp, smallest, ← zpow_natCast, ← zpow_add₀ (by norm_num)]
    congr 1
    omega
  refine ⟨halfEven (x / ulp x) * 2 ^ (lastExponent x + 1074).toNat, ?_⟩
  push_cast
  rw [mul_assoc, ← hulp]
  exact h.symm

/-- **A sum of doubles has a relative error only.** -/
lemma IsDouble.abs_double_add_le {x y : ℚ} (hx : IsDouble x) (hy : IsDouble y) :
    |double (x + y) - (x + y)| ≤ |x + y| / 2 ^ 53 := by
  rcases eq_or_ne (x + y) 0 with hzero | hne
  · simp [hzero]
  rcases lt_or_ge (-1074) (lastExponent (x + y)) with hlast | hlast
  · have herror := abs_double_sub_le (x + y)
    have hulp := ulp_le_abs hne hlast
    linarith
  · -- among the smallest numbers every whole number of the smallest one is kept
    obtain ⟨k, hk⟩ := hx.exists_mul_smallest
    obtain ⟨l, hl⟩ := hy.exists_mul_smallest
    have hulp : ulp (x + y) = smallest := by
      rw [ulp, le_antisymm hlast (le_max_left _ _), smallest]
    have hquot : (x + y) / ulp (x + y) = ((k + l : ℤ) : ℚ) := by
      rw [hulp, hk, hl, ← add_mul, mul_div_assoc, div_self smallest_pos.ne', mul_one]
      push_cast
      rfl
    have hexact : double (x + y) = x + y := by
      rw [double, hquot, halfEven_intCast, ← hquot, div_mul_cancel₀ _ (ulp_ne_zero _)]
    rw [hexact, sub_self, abs_zero]
    positivity

lemma isDouble_neg {x : ℚ} (h : IsDouble x) : IsDouble (-x) := by
  rw [IsDouble, double_neg, h]

lemma IsDouble.abs_double_sub_le {x y : ℚ} (hx : IsDouble x) (hy : IsDouble y) :
    |double (x - y) - (x - y)| ≤ |x - y| / 2 ^ 53 := by
  rw [sub_eq_add_neg x y]
  exact hx.abs_double_add_le (isDouble_neg hy)

/-- The error of a product whose factors have one. -/
lemma abs_double_mul_sub_le {a b x y : ℚ} (ha : |a - x| ≤ |x| / 2 ^ 53)
    (hb : |b - y| ≤ |y| / 2 ^ 53) :
    |double (a * b) - x * y| ≤ 5 / 2 ^ 53 * |x * y| + smallest / 2 := by
  have hax : |a| ≤ 2 * |x| := by
    have := abs_sub_abs_le_abs_sub a x
    have hx := abs_nonneg x
    linarith
  have hfactors : |a * b - x * y| ≤ 3 / 2 ^ 53 * |x * y| := by
    have hsplit : a * b - x * y = (a - x) * y + a * (b - y) := by ring
    calc |a * b - x * y| ≤ |a - x| * |y| + |a| * |b - y| := by
          rw [hsplit, ← abs_mul, ← abs_mul]
          exact abs_add_le _ _
      _ ≤ |x| / 2 ^ 53 * |y| + 2 * |x| * (|y| / 2 ^ 53) := by gcongr
      _ = 3 / 2 ^ 53 * |x * y| := by
          rw [abs_mul]
          ring
  have hproduct : |a * b| ≤ 2 * |x * y| := by
    have := abs_sub_abs_le_abs_sub (a * b) (x * y)
    have hxy := abs_nonneg (x * y)
    linarith
  have hround := abs_double_sub_le_rel (a * b)
  have htriangle := abs_sub_le (double (a * b)) (a * b) (x * y)
  linarith

/-- The error of a quotient whose numerator and denominator have one. -/
lemma abs_div_sub_div_le {a b x y ε : ℚ} (hy : 0 < y) (ha : |a - x| ≤ ε)
    (hb : |b - y| ≤ y / 2 ^ 53) : |a / b - x / y| ≤ 4 / 3 * (ε + |x| / 2 ^ 53) / y := by
  have hlow : 3 / 4 * y ≤ b := by linarith [(abs_le.mp hb).1]
  have hpos : 0 < b := by linarith
  have hsplit : a / b - x / y = ((a - x) + x / y * (y - b)) / b := by
    field_simp
    ring
  have hnum : |(a - x) + x / y * (y - b)| ≤ ε + |x| / 2 ^ 53 := by
    have hb' : |y - b| ≤ y / 2 ^ 53 := by rwa [abs_sub_comm]
    calc |(a - x) + x / y * (y - b)| ≤ |a - x| + |x / y| * |y - b| := by
          rw [← abs_mul]
          exact abs_add_le _ _
      _ ≤ ε + |x / y| * (y / 2 ^ 53) := by gcongr
      _ = ε + |x| / 2 ^ 53 := by
          rw [abs_div, abs_of_pos hy]
          field_simp
  rw [hsplit, abs_div, abs_of_pos hpos, div_le_div_iff₀ hpos hy]
  have hnonneg : 0 ≤ ε + |x| / 2 ^ 53 := (abs_nonneg _).trans hnum
  have hleft := mul_le_mul_of_nonneg_right hnum hy.le
  have hright := mul_le_mul_of_nonneg_left hlow hnonneg
  linarith

/-! ### Values of moderate size -/

/-- Rounding a value of limited size moves it by little. -/
lemma abs_double_sub_le_of_le {x ε : ℚ} (hε : smallest ≤ ε) (h : |x| ≤ 2 ^ 52 * ε) :
    |double x - x| ≤ ε := by
  have herror := abs_double_sub_le_rel x
  linarith

lemma abs_double_sub_le_of_abs_le {x : ℚ} (h : |x| ≤ 2 ^ 40) : |double x - x| ≤ 1 / 2 ^ 12 :=
  abs_double_sub_le_of_le (by decide +kernel) (h.trans (by norm_num))

lemma abs_roundDouble_sub_le {x : ℚ} (h : |x| ≤ 2 ^ 39) : |roundDouble 3 x - x| ≤ 1 / 1000 := by
  have hround := abs_le.mp (abs_roundTo_sub_le 3 x)
  have habs := abs_le.mp h
  have hsize : |roundTo 3 x| ≤ 2 ^ 40 := by
    rw [abs_le]
    constructor <;> norm_num at hround habs ⊢ <;> linarith
  have hdouble := abs_le.mp (abs_double_sub_le_of_abs_le hsize)
  rw [abs_le]
  unfold roundDouble
  norm_num at hround hdouble ⊢
  constructor <;> linarith

/-- The double of a value and that of its decimal stay so close that a difference does too. -/
lemma abs_double_roundDouble_sub_le {x y : ℚ} (hx : |x| ≤ 2 ^ 36) (hy : |y| ≤ 2 ^ 36) :
    |double (roundDouble 3 y - x) - double (y - x)| ≤ 7 / 10 ^ 4 := by
  have hsmall : smallest ≤ 1 / 2 ^ 14 := by decide +kernel
  have hx' := abs_le.mp hx
  have hy' := abs_le.mp hy
  have hround := abs_le.mp (abs_roundTo_sub_le 3 y)
  norm_num at hx' hy' hround
  have hnear : ∀ z, -274877906944 ≤ z → z ≤ 274877906944 →
      -(1 / 16384) ≤ double z - z ∧ double z - z ≤ 1 / 16384 := by
    intro z hlow hhigh
    have hsize : |z| ≤ 2 ^ 52 * (1 / 2 ^ 14) := by
      rw [abs_le]
      norm_num
      exact ⟨hlow, hhigh⟩
    have h := abs_le.mp (abs_double_sub_le_of_le hsmall hsize)
    norm_num at h
    exact ⟨by linarith [h.1], by linarith [h.2]⟩
  have hdecimal := hnear (roundTo 3 y) (by linarith) (by linarith)
  have hwritten := hnear (roundDouble 3 y - x)
    (by unfold roundDouble; linarith) (by unfold roundDouble; linarith)
  have hobserved := hnear (y - x) (by linarith) (by linarith)
  rw [abs_le]
  unfold roundDouble at *
  norm_num
  constructor <;> linarith

example : double (1 / 10) = 3602879701896397 / 36028797018963968 := by decide +kernel

end CrdbLab.Lib.Double
