import Mathlib.Data.Rat.Floor
import Mathlib.Algebra.Order.Field.Basic
import Mathlib.Data.Int.ConditionallyCompleteOrder
import Mathlib.Tactic.Linarith
import Mathlib.Tactic.Positivity
import Mathlib.Tactic.FieldSimp
import Mathlib.Tactic.NormNum

/-!
Rounding to a number of decimals, a tie going to the even neighbour.

The nearest integer is taken with the floor of an ordered field, and a value is rounded to
`n` decimals by rounding its multiple by `10 ^ n`. What the development uses of rounding is
here: it is monotone, it moves a value by at most half a unit of the last decimal, and it
fixes the values that already have so few decimals.
-/

namespace CrdbLab.Lib.Rounding

variable {K : Type*} [Field K] [LinearOrder K] [IsStrictOrderedRing K] [FloorRing K]

/-- The nearest integer, a tie going to the even one. -/
def halfEven (x : K) : ℤ :=
  if x - ⌊x⌋ < 1 / 2 then ⌊x⌋
  else if 1 / 2 < x - ⌊x⌋ then ⌊x⌋ + 1
  else if Even ⌊x⌋ then ⌊x⌋ else ⌊x⌋ + 1

omit [IsStrictOrderedRing K] in
lemma halfEven_cases (x : K) :
    (halfEven x = ⌊x⌋ ∧ x - ⌊x⌋ ≤ 1 / 2) ∨ (halfEven x = ⌊x⌋ + 1 ∧ 1 / 2 ≤ x - ⌊x⌋) := by
  unfold halfEven
  split_ifs with h1 h2 h3
  · exact Or.inl ⟨rfl, h1.le⟩
  · exact Or.inr ⟨rfl, h2.le⟩
  · exact Or.inl ⟨rfl, not_lt.mp h2⟩
  · exact Or.inr ⟨rfl, not_lt.mp h1⟩

@[simp] lemma halfEven_intCast (n : ℤ) : halfEven (n : K) = n := by
  simp [halfEven]

@[simp] lemma halfEven_zero : halfEven (0 : K) = 0 := by
  simp [halfEven]

lemma abs_halfEven_sub_le (x : K) : |(halfEven x : K) - x| ≤ 1 / 2 := by
  have hlo := Int.floor_le x
  have hhi := Int.lt_floor_add_one x
  rcases halfEven_cases x with ⟨he, hx⟩ | ⟨he, hx⟩ <;> rw [he, abs_le]
  · exact ⟨by linarith, by linarith⟩
  · push_cast
    exact ⟨by linarith, by linarith⟩

/-- Rounding is the same on both sides of zero. -/
lemma halfEven_neg (x : K) : halfEven (-x) = -halfEven x := by
  rcases eq_or_ne (⌊x⌋ : K) x with hint | hne
  · rw [← hint, ← Int.cast_neg, halfEven_intCast, halfEven_intCast]
  · have hlt : (⌊x⌋ : K) < x := lt_of_le_of_ne (Int.floor_le x) hne
    have hfloor : ⌊-x⌋ = -⌊x⌋ - 1 := by
      have := Int.lt_floor_add_one x
      rw [Int.floor_eq_iff]
      push_cast
      constructor <;> linarith
    have hfract : -x - (⌊-x⌋ : K) = 1 - (x - ⌊x⌋) := by
      rw [hfloor]
      push_cast
      ring
    have hparity : Even (-⌊x⌋ - 1) ↔ ¬ Even ⌊x⌋ := by
      rw [Int.even_sub_one, even_neg]
    unfold halfEven
    rw [hfract, hfloor]
    rcases lt_trichotomy (x - ⌊x⌋) (1 / 2) with hlow | htie | hhigh
    · rw [if_pos hlow, if_neg (by linarith), if_pos (by linarith)]
      ring
    · rw [htie]
      norm_num only [lt_irrefl, if_false, hparity]
      split_ifs
      · omega
      · omega
    · rw [if_pos (by linarith), if_neg (by linarith), if_pos hhigh]
      ring

lemma halfEven_mono : Monotone (halfEven : K → ℤ) := by
  intro x y hxy
  rcases (Int.floor_mono hxy).lt_or_eq with hlt | heq
  · -- different floors: the smaller one rounds up to at most the larger floor
    have hx : halfEven x ≤ ⌊x⌋ + 1 := by
      rcases halfEven_cases x with ⟨he, -⟩ | ⟨he, -⟩ <;> omega
    have hy : ⌊y⌋ ≤ halfEven y := by
      rcases halfEven_cases y with ⟨he, -⟩ | ⟨he, -⟩ <;> omega
    omega
  · unfold halfEven
    rw [← heq]
    have hsub : x - (⌊x⌋ : K) ≤ y - ⌊x⌋ := by linarith
    split_ifs <;> first | omega | (exfalso; linarith)

/-- Half a unit above an integer is rounded to the integer if that is even. -/
lemma halfEven_intCast_add_half (m : ℤ) :
    halfEven ((m : K) + 1 / 2) = if Even m then m else m + 1 := by
  have hfloor : ⌊(m : K) + 1 / 2⌋ = m := by
    rw [Int.floor_eq_iff]
    constructor <;> linarith
  have hfract : (m : K) + 1 / 2 - m = 1 / 2 := by ring
  unfold halfEven
  rw [hfloor, hfract, if_neg (lt_irrefl _), if_neg (lt_irrefl _)]

/-- Half a unit above any other value is rounded to the next integer. -/
lemma halfEven_add_half {x : K} (h : (⌊x⌋ : K) < x) : halfEven (x + 1 / 2) = ⌈x⌉ := by
  have hlt := Int.lt_floor_add_one x
  have hceil : ⌈x⌉ = ⌊x⌋ + 1 := by
    rw [Int.ceil_eq_iff]
    push_cast
    constructor <;> linarith
  unfold halfEven
  rcases lt_or_ge (x - ⌊x⌋) (1 / 2) with hsmall | hlarge
  · have hfloor : ⌊x + 1 / 2⌋ = ⌊x⌋ := by
      rw [Int.floor_eq_iff]
      constructor <;> linarith
    rw [hfloor, hceil, if_neg (by linarith), if_pos (by linarith)]
  · have hfloor : ⌊x + 1 / 2⌋ = ⌊x⌋ + 1 := by
      rw [Int.floor_eq_iff]
      push_cast
      constructor <;> linarith
    rw [hfloor, hceil, if_pos (by push_cast; linarith)]

/-- An integer added moves the nearest integer with it, unless a tie meets an odd integer. -/
lemma halfEven_add_intCast {x : K} {k : ℤ} (h : x - ⌊x⌋ ≠ 1 / 2 ∨ Even k) :
    halfEven (x + k) = halfEven x + k := by
  have hfract : x + k - (⌊x⌋ + k : ℤ) = x - ⌊x⌋ := by
    push_cast
    ring
  unfold halfEven
  rw [Int.floor_add_intCast, hfract]
  rcases lt_trichotomy (x - ⌊x⌋) (1 / 2) with hlt | heq | hgt
  · simp only [hlt, if_true]
  · have hparity : Even (⌊x⌋ + k) ↔ Even ⌊x⌋ := by
      rw [Int.even_add]
      simp only [h.resolve_left (not_not.mpr heq), iff_true]
    simp only [heq, lt_irrefl, if_false, hparity]
    split_ifs <;> ring
  · simp only [not_lt.mpr hgt.le, hgt, if_true, if_false]
    ring

/-- What is rounded above an integer lies above the half beyond it, or on it beside an odd one. -/
lemma lt_halfEven_iff {k : ℤ} {x : K} :
    k < halfEven x ↔ (k : K) + 1 / 2 < x ∨ x = k + 1 / 2 ∧ Odd k := by
  have hround := abs_le.mp (abs_halfEven_sub_le x)
  rcases lt_trichotomy x ((k : K) + 1 / 2) with hlt | rfl | hgt
  · have hle : halfEven x < k + 1 := by
      have : (halfEven x : K) < ((k + 1 : ℤ) : K) := by
        push_cast
        linarith
      exact_mod_cast this
    exact iff_of_false (by omega) (not_or.mpr ⟨hlt.not_gt, fun h => hlt.ne h.1⟩)
  · rw [halfEven_intCast_add_half]
    split_ifs with heven
    · simp [Int.not_odd_iff_even.mpr heven]
    · simp [Int.not_even_iff_odd.mp heven]
  · have hlt : k < halfEven x := by
      have : (k : K) < halfEven x := by linarith
      exact_mod_cast this
    exact iff_of_true hlt (Or.inl hgt)

/-- What is rounded below an integer lies below the half before it, or on it beside an odd one. -/
lemma halfEven_lt_iff {k : ℤ} {x : K} :
    halfEven x < k ↔ x < k - 1 / 2 ∨ x = k - 1 / 2 ∧ Odd k := by
  have hround := abs_le.mp (abs_halfEven_sub_le x)
  rcases lt_trichotomy x ((k : K) - 1 / 2) with hlt | hx | hgt
  · have hlt' : halfEven x < k := by
      have : (halfEven x : K) < k := by linarith
      exact_mod_cast this
    exact iff_of_true hlt' (Or.inl hlt)
  · have htie : x = ((k - 1 : ℤ) : K) + 1 / 2 := by
      push_cast
      linarith
    have hparity : Odd k ↔ Even (k - 1) := by
      rw [Int.even_sub_one, Int.not_even_iff_odd]
    rw [htie, halfEven_intCast_add_half, ← htie, hparity]
    split_ifs with heven
    · simp [hx, heven]
    · simp [hx, heven]
  · have hle : k < halfEven x + 1 := by
      have : (k : K) < ((halfEven x + 1 : ℤ) : K) := by
        push_cast
        linarith
      exact_mod_cast this
    exact iff_of_false (by omega) (not_or.mpr ⟨hgt.not_gt, fun h => hgt.ne' h.1⟩)

/-- Values less than a unit apart have the same nearest integer or neighbours. -/
lemma halfEven_le_add_one {x y : K} (h : x < y + 1) : halfEven x ≤ halfEven y + 1 := by
  have hx := (abs_le.mp (abs_halfEven_sub_le x)).2
  have hy := (abs_le.mp (abs_halfEven_sub_le y)).1
  have hlt : halfEven x < halfEven y + 2 := by
    have : (halfEven x : K) < ((halfEven y + 2 : ℤ) : K) := by
      push_cast
      linarith
    exact_mod_cast this
  omega

/-- Between values more than two units apart a whole number is passed over. -/
lemma halfEven_add_one_lt {x y : K} (h : x + 2 < y) : halfEven x + 1 < halfEven y := by
  have hx := (abs_le.mp (abs_halfEven_sub_le x)).2
  have hy := (abs_le.mp (abs_halfEven_sub_le y)).1
  have hlt : ((halfEven x + 1 : ℤ) : K) < halfEven y := by
    push_cast
    linarith
  exact_mod_cast hlt

/-- `x` to `n` decimals. -/
def roundTo (n : ℕ) (x : K) : K := halfEven (x * 10 ^ n) / 10 ^ n

@[simp] lemma roundTo_zero (n : ℕ) : roundTo n (0 : K) = 0 := by
  simp [roundTo]

lemma roundTo_mono (n : ℕ) : Monotone (roundTo n : K → K) := by
  intro x y hxy
  have hmul : x * 10 ^ n ≤ y * 10 ^ n := by gcongr
  unfold roundTo
  gcongr
  exact halfEven_mono hmul

/-- A value that has at most `n` decimals is its own rounding. -/
lemma roundTo_grid (n : ℕ) (k : ℤ) : roundTo n ((k : K) / 10 ^ n) = k / 10 ^ n := by
  unfold roundTo
  rw [div_mul_cancel₀ _ (by positivity), halfEven_intCast]

/-- A whole number of units of the last decimal moves the rounding with it, unless a tie meets
an odd number of them. -/
lemma roundTo_add_grid {n : ℕ} {x : K} {k : ℤ}
    (h : x * 10 ^ n - ⌊x * 10 ^ n⌋ ≠ 1 / 2 ∨ Even k) :
    roundTo n (x + k / 10 ^ n) = roundTo n x + k / 10 ^ n := by
  have hmul : (x + k / 10 ^ n) * 10 ^ n = x * 10 ^ n + k := by
    rw [add_mul, div_mul_cancel₀ _ (by positivity)]
  unfold roundTo
  rw [hmul, halfEven_add_intCast h]
  push_cast
  rw [add_div]

@[simp] lemma roundTo_one (n : ℕ) : roundTo n (1 : K) = 1 := by
  have h : (1 : K) = ((10 ^ n : ℤ) : K) / 10 ^ n := by
    push_cast
    rw [div_self (by positivity)]
  rw [h, roundTo_grid, ← h]

/-- **Rounding moves a value by at most half a unit of the last decimal.** -/
lemma abs_roundTo_sub_le (n : ℕ) (x : K) : |roundTo n x - x| ≤ 1 / 2 / 10 ^ n := by
  have hpos : (0 : K) < 10 ^ n := by positivity
  have h := abs_halfEven_sub_le (x * 10 ^ n)
  have he : roundTo n x - x = (halfEven (x * 10 ^ n) - x * 10 ^ n) / 10 ^ n := by
    unfold roundTo
    field_simp
  rw [he, abs_div, abs_of_pos hpos]
  gcongr

lemma roundTo_le_one {n : ℕ} {x : K} (h : x ≤ 1) : roundTo n x ≤ 1 := by
  simpa using roundTo_mono n h

lemma roundTo_nonneg {n : ℕ} {x : K} (h : 0 ≤ x) : 0 ≤ roundTo n x := by
  simpa using roundTo_mono n h

/-- Values more than a unit of the last decimal apart stay apart. -/
lemma roundTo_lt_roundTo {n : ℕ} {x y : K} (h : x + 1 / 10 ^ n < y) :
    roundTo n x < roundTo n y := by
  have hx := (abs_le.mp (abs_roundTo_sub_le n x)).2
  have hy := (abs_le.mp (abs_roundTo_sub_le n y)).1
  have hunit : (1 : K) / 10 ^ n = 1 / 2 / 10 ^ n + 1 / 2 / 10 ^ n := by ring
  linarith

/-! ### Fixed-point text -/

/-- The decimal digits of `k`, filled up with zeros on the left to `n` of them. -/
def padded (n k : ℕ) : String :=
  let digits := toString k
  String.ofList (List.replicate (n - digits.length) '0') ++ digits

/-- The text of `x` with exactly `n` decimals. -/
def fixed (n : ℕ) (x : K) : String :=
  let k := (halfEven (x * 10 ^ n)).natAbs
  (if x < 0 then "-" else "") ++ toString (k / 10 ^ n) ++
    (if n = 0 then "" else "." ++ padded n (k % 10 ^ n))

/-- The text of a number that has at most `n` decimals: trailing zeros are dropped, but one
decimal stays. -/
def shortest (n : ℕ) (x : K) : String :=
  let k := (halfEven (x * 10 ^ n)).natAbs
  let kept := ((padded n (k % 10 ^ n)).toList.reverse.dropWhile (· = '0')).reverse
  (if x < 0 then "-" else "") ++ toString (k / 10 ^ n) ++ "." ++
    if kept = [] then "0" else String.ofList kept

end CrdbLab.Lib.Rounding

namespace CrdbLab.Lib.OrderStat

open CrdbLab.Lib.Rounding

/-- The position of the nearest rank of `q` among `n` entries. -/
def nearestRank {K : Type*} [Field K] [LinearOrder K] [FloorRing K] (n : ℕ) (q : K) : ℕ :=
  (min ((n : ℤ) - 1) (max 0 (halfEven (q * n + 1 / 2) - 1))).toNat

end CrdbLab.Lib.OrderStat
