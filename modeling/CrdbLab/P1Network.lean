import CrdbLab.Lib.OrderStat

/-!
The two nearest-rank quantiles of the source against each other.

The network phase takes the rank by a ceiling, the probe by rounding half a unit above it. A
tie of that rounding goes to the even neighbour, which is one rank too far where the rank
itself is odd.
-/

namespace CrdbLab.P1Network

open CrdbLab.Lib.Rounding CrdbLab.Lib.KeySort CrdbLab.Lib.OrderStat

/-- The rank of the quantile `q` among `n` samples. -/
def rank (n : ℕ) (q : ℚ) : ℤ := max 1 (min n (-⌊-n * q⌋))

/-- The quantile of samples in order. -/
def quantile (ordered : List ℚ) (q : ℚ) : Except String ℚ :=
  if ordered = [] then .error "no samples"
  else
    match ordered[(rank ordered.length q - 1).toNat]? with
    | some value => .ok value
    | none => .error "list index out of range"

/-- The value is the `k`th smallest of the list. -/
def IsSmallest (values : List ℚ) (k : ℤ) (value : ℚ) : Prop :=
  0 < k ∧ (sorted values)[(k - 1).toNat]? = some value

/-- Both quantiles are the value of the nearest rank. -/
def Agree (values : List ℚ) (q : ℚ) : Prop :=
  ∃ value, Lib.OrderStat.quantile values q = some value ∧
    quantile (sorted values) q = .ok value ∧ IsSmallest values ⌈q * values.length⌉ value

/-- The rank is an odd integer below the length, and the value after it is another one. -/
def OddRank (values : List ℚ) (q : ℚ) : Prop :=
  ∃ m : ℕ, Odd m ∧ q * values.length = m ∧ m < values.length ∧
    (sorted values)[m - 1]? ≠ (sorted values)[m]?

variable {values : List ℚ} {q : ℚ}

/-! ### The ranks -/

section Rank

variable {n : ℕ} (hn : 0 < n) (h0 : 0 < q) (h1 : q ≤ 1)

include hn h0 h1

lemma ceil_rank : 1 ≤ ⌈q * n⌉ ∧ ⌈q * n⌉ ≤ n := by
  have hn' : (0 : ℚ) < n := by exact_mod_cast hn
  refine ⟨Int.one_le_ceil_iff.mpr (mul_pos h0 hn'), Int.ceil_le.mpr ?_⟩
  push_cast
  exact mul_le_of_le_one_left hn'.le h1

/-- The rank of the network phase is the nearest rank. -/
lemma rank_eq : rank n q = ⌈q * n⌉ := by
  obtain ⟨hlo, hhi⟩ := ceil_rank hn h0 h1
  have hceil : -⌊-(n : ℚ) * q⌋ = ⌈q * n⌉ := by
    rw [neg_mul, mul_comm, Int.floor_neg, neg_neg]
  rw [rank, hceil, min_eq_right hhi, max_eq_right hlo]

/-- The rank of the probe is the nearest rank, or the next one where that is an odd integer
below the length. -/
lemma nearestRank_eq : (nearestRank n q : ℤ) =
    if q * n = ⌈q * n⌉ ∧ Odd ⌈q * n⌉ ∧ ⌈q * n⌉ < n then ⌈q * n⌉ else ⌈q * n⌉ - 1 := by
  obtain ⟨hlo, hhi⟩ := ceil_rank hn h0 h1
  rcases (Int.floor_le (q * n)).lt_or_eq with hlt | heq
  · have hne : q * n ≠ ⌈q * n⌉ := by
      intro h
      rw [h, Int.floor_intCast] at hlt
      exact lt_irrefl _ hlt
    rw [if_neg fun h => hne h.1, nearestRank, halfEven_add_half hlt]
    omega
  · have hceil : ⌈q * n⌉ = ⌊q * n⌋ := by
      rw [← heq, Int.ceil_intCast, Int.floor_intCast]
    have hround : halfEven (q * n + 1 / 2) =
        if Even ⌈q * n⌉ then ⌈q * n⌉ else ⌈q * n⌉ + 1 := by
      rw [hceil, ← halfEven_intCast_add_half (K := ℚ), heq]
    have hint : q * n = ⌈q * n⌉ := by
      rw [hceil, heq]
    rw [nearestRank, hround]
    rcases Int.even_or_odd ⌈q * n⌉ with heven | hodd
    · rw [if_pos heven, if_neg fun h => Int.not_odd_iff_even.mpr heven h.2.1]
      omega
    · rw [if_neg (Int.not_even_iff_odd.mpr hodd)]
      by_cases hlast : ⌈q * n⌉ < n
      · rw [if_pos ⟨hint, hodd, hlast⟩]
        omega
      · rw [if_neg fun h => hlast h.2.2]
        omega

end Rank

/-! ### The values -/

section Values

variable (hne : values ≠ []) (h0 : 0 < q) (h1 : q ≤ 1)

include hne h0 h1

/-- The network phase's quantile is the value of the nearest rank. -/
lemma quantile_eq_ok_iff (value : ℚ) :
    quantile (sorted values) q = .ok value ↔ IsSmallest values ⌈q * values.length⌉ value := by
  have hn : 0 < values.length := List.length_pos_iff.mpr hne
  obtain ⟨hlo, hhi⟩ := ceil_rank hn h0 h1
  have hs : sorted values ≠ [] := by
    rw [← List.length_pos_iff, length_sortOn]
    exact hn
  unfold quantile IsSmallest
  rw [if_neg hs, length_sortOn, rank_eq hn h0 h1]
  cases (sorted values)[(⌈q * values.length⌉ - 1).toNat]? with
  | none => simp
  | some v =>
    have hpos : 0 < ⌈q * values.length⌉ := hlo
    simp [hpos]

/-- The probe's quantile is the same value, or the next one where the rank is an odd integer
below the length. -/
lemma quantile_eq_some_iff (value : ℚ) :
    Lib.OrderStat.quantile values q = some value ↔
      (sorted values)[(if q * values.length = ⌈q * values.length⌉ ∧ Odd ⌈q * values.length⌉ ∧
        ⌈q * values.length⌉ < values.length then ⌈q * values.length⌉
        else ⌈q * values.length⌉ - 1).toNat]? = some value := by
  have hn : 0 < values.length := List.length_pos_iff.mpr hne
  rw [Lib.OrderStat.quantile, if_neg hne, ← nearestRank_eq hn h0 h1, Int.toNat_natCast]

/-- The condition names the rank. -/
lemma oddRank_iff : OddRank values q ↔
    (q * values.length = ⌈q * values.length⌉ ∧ Odd ⌈q * values.length⌉ ∧
      ⌈q * values.length⌉ < values.length) ∧
    (sorted values)[(⌈q * values.length⌉ - 1).toNat]? ≠
      (sorted values)[⌈q * values.length⌉.toNat]? := by
  obtain ⟨hlo, -⟩ := ceil_rank (List.length_pos_iff.mpr hne) h0 h1
  constructor
  · rintro ⟨m, hodd, hm, hlt, hdiffer⟩
    have hceil : ⌈q * values.length⌉ = m := by
      rw [hm, Int.ceil_natCast]
    have hbefore : ((m : ℤ) - 1).toNat = m - 1 := by omega
    rw [hceil, hbefore, Int.toNat_natCast]
    refine ⟨⟨?_, by exact_mod_cast hodd, by exact_mod_cast hlt⟩, hdiffer⟩
    exact_mod_cast hm
  · rintro ⟨⟨hint, hodd, hlt⟩, hdiffer⟩
    obtain ⟨m, hm⟩ := Int.eq_ofNat_of_zero_le (show 0 ≤ ⌈q * values.length⌉ by omega)
    have hbefore : ((m : ℤ) - 1).toNat = m - 1 := by omega
    rw [hm] at hint hodd hlt hdiffer
    rw [hbefore, Int.toNat_natCast] at hdiffer
    exact ⟨m, by exact_mod_cast hodd, by exact_mod_cast hint, by exact_mod_cast hlt, hdiffer⟩

end Values

/-- **The two quantiles agree unless the rank is odd**: they are both the `⌈q n⌉`th smallest
value, but for a rank that is an odd integer below the length, after which another value
comes. -/
theorem quantiles_agree_iff (hne : values ≠ []) (h0 : 0 < q) (h1 : q ≤ 1) :
    Agree values q ↔ ¬ OddRank values q := by
  obtain ⟨hlo, hhi⟩ := ceil_rank (List.length_pos_iff.mpr hne) h0 h1
  have hlt : (⌈q * values.length⌉ - 1).toNat < (sorted values).length := by
    rw [length_sortOn]
    omega
  have hvalue := List.getElem?_eq_getElem hlt
  generalize (sorted values)[(⌈q * values.length⌉ - 1).toNat] = value at hvalue
  have hsmallest : IsSmallest values ⌈q * values.length⌉ value := ⟨by omega, hvalue⟩
  have hagree : Agree values q ↔ Lib.OrderStat.quantile values q = some value := by
    constructor
    · rintro ⟨v, hv, -, -, hsmall⟩
      rw [hv, ← hsmall, hvalue]
    · exact fun h => ⟨value, h, (quantile_eq_ok_iff hne h0 h1 value).mpr hsmallest, hsmallest⟩
  rw [hagree, quantile_eq_some_iff hne h0 h1, oddRank_iff hne h0 h1, hvalue]
  split_ifs with hodd
  · rw [and_iff_right hodd, not_not, eq_comm]
  · exact iff_of_true hvalue fun h => hodd h.1

/-- The rank is a whole number and a half. -/
theorem agree_three : Agree [3, 1, 2] (1 / 2) :=
  (quantiles_agree_iff (by simp) (by norm_num) (by norm_num)).mpr <| by
    rintro ⟨m, -, hm, -, -⟩
    have h : (3 : ℚ) = 2 * m := by
      have := hm
      norm_num at this
      linarith
    have h' : (3 : ℕ) = 2 * m := by exact_mod_cast h
    omega

/-- The numbers from one to twenty. -/
def twenty : List ℚ := (List.range' 1 20).map fun n : ℕ => (n : ℚ)

/-- With twenty samples the 95th percentile has rank nineteen; the probe takes the largest. -/
theorem twenty_not_agree :
    Lib.OrderStat.quantile twenty (95 / 100) = some 20 ∧
    quantile (sorted twenty) (95 / 100) = .ok 19 ∧ ¬ Agree twenty (95 / 100) := by
  have hprobe : Lib.OrderStat.quantile twenty (95 / 100) = some 20 := by decide +kernel
  have hnetwork : quantile (sorted twenty) (95 / 100) = .ok 19 := by decide +kernel
  refine ⟨hprobe, hnetwork, ?_⟩
  rintro ⟨value, hvalue, hother, -⟩
  rw [hprobe, Option.some.injEq] at hvalue
  rw [hnetwork, Except.ok.injEq, ← hvalue] at hother
  norm_num at hother

end CrdbLab.P1Network
