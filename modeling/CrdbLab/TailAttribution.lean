import CrdbLab.ReportedOutage
import Mathlib.Tactic.FieldSimp

/-!
When a gap after the fault is taken to be the fault's.

The rates at which the gaps before and after the fault exceed the healthy 95th percentile are
compared by their quotient. Where no healthy gap exceeds it there is no quotient, and the
comparison is answered with no. The rates and the quotient are rounded, which can miss a quotient
that is exactly one and a half. Where too few gaps closed before the fault no comparison is
made, and the outage is attributed to the fault without one.
-/

namespace CrdbLab.TailAttribution

open CrdbLab.Lib.Rounding CrdbLab.Lib.Double CrdbLab.Lib.OrderStat CrdbLab.Optional
open CrdbLab.RtoProbe CrdbLab.MeasureRto CrdbLab.ReportedOutage

/-! ### The rates -/

section Rates

variable (preGaps postGaps : List ℚ)

/-- The healthy 95th percentile. -/
def reference : ℚ := orZero (quantile preGaps (95 / 100))

/-- How many of the gaps exceed it. -/
def exceedances (gaps : List ℚ) : ℕ := (gaps.filter (reference preGaps < ·)).length

/-- Some gap after the fault exceeds the reference, and they do so at one and a half times the
rate from before the fault or more. -/
def HeavierTail : Prop :=
  (∃ g ∈ postGaps, reference preGaps < g) ∧
    3 * exceedances preGaps preGaps * postGaps.length ≤
      exceedances preGaps postGaps * 2 * preGaps.length

/-- The share of the gaps that exceed the reference, as it is rounded. -/
def rate (gaps : List ℚ) : ℚ := double (exceedances preGaps gaps / gaps.length)

/-- The rounded rates are so far apart that their quotient is rounded to one and a half or
more. -/
def RatesApart : Prop :=
  0 < rate preGaps preGaps ∧ (3 / 2 - 1 / 2 ^ 53) * rate preGaps preGaps ≤ rate preGaps postGaps

/-- The comparison is made, and its answer is whether the tail is heavier. -/
def DecidesByRate : Prop :=
  ∃ test, tailAttribution preGaps postGaps = .tested test ∧
    (test.heavierAfterFault = true ↔ HeavierTail preGaps postGaps)

end Rates

section Comparison

variable {preGaps postGaps : List ℚ}

lemma exceedances_pos_iff {gaps : List ℚ} :
    0 < exceedances preGaps gaps ↔ ∃ g ∈ gaps, reference preGaps < g := by
  simp [exceedances, List.length_pos_iff_exists_mem]

/-- What is rounded to one and a half or more: the last digit of it is even, so the middle below
it belongs to it. -/
lemma three_halves_le_double {x : ℚ} (hx : 0 ≤ x) : 3 / 2 ≤ double x ↔ 3 / 2 - 1 / 2 ^ 53 ≤ x := by
  have htie : double (3 / 2 - 1 / 2 ^ 53) = 3 / 2 := by decide +kernel
  constructor
  · intro h
    by_contra hnot
    have hlt : x < 3 / 2 - 1 / 2 ^ 53 := not_le.mp hnot
    rcases le_or_gt x 1 with hle | hgt
    · have hone : double 1 = 1 := by decide +kernel
      have hmono := double_mono hle
      linarith
    · have hexp : lastExponent x = 0 - 52 := by
        refine lastExponent_eq ?_ ?_ (by norm_num)
        · rw [abs_of_nonneg hx]
          simpa using hgt.le
        · rw [abs_of_nonneg hx, zero_add, zpow_one]
          linarith
      have hround : halfEven (x / ulp x) < 3 * 2 ^ 51 := by
        refine halfEven_lt_iff.mpr (Or.inl ?_)
        rw [div_lt_iff₀ (ulp_pos x), ulp, hexp]
        norm_num
        linarith
      have hlast : (halfEven (x / ulp x) : ℚ) ≤ 3 * 2 ^ 51 - 1 := by
        exact_mod_cast Int.le_sub_one_of_lt hround
      have hvalue : double x ≤ (3 * 2 ^ 51 - 1) * ulp x :=
        mul_le_mul_of_nonneg_right hlast (ulp_pos x).le
      rw [ulp, hexp] at hvalue
      norm_num at hvalue
      linarith
  · intro h
    exact htie.symm.trans_le (double_mono h)

/-- The answer of the comparison. -/
lemma tailAttribution_tested (h : 20 ≤ preGaps.length) (hpost : postGaps ≠ []) :
    ∃ test, tailAttribution preGaps postGaps = .tested test ∧
      (test.heavierAfterFault = true ↔ RatesApart preGaps postGaps) := by
  have hfew : ¬ (preGaps.length < 20 ∨ postGaps = []) := by
    rintro (hlt | hnil)
    · omega
    · exact hpost hnil
  unfold tailAttribution
  rw [if_neg hfew]
  refine ⟨_, rfl, ?_⟩
  show (if 0 < rate preGaps preGaps then
      some (double (rate preGaps postGaps / rate preGaps preGaps)) else none).any (3 / 2 ≤ ·) =
    true ↔ _
  by_cases hrate : 0 < rate preGaps preGaps
  · have hquotient : 0 ≤ rate preGaps postGaps / rate preGaps preGaps :=
      div_nonneg (double_nonneg (by positivity)) hrate.le
    rw [if_pos hrate, Option.any_some, decide_eq_true_eq, three_halves_le_double hquotient,
      le_div_iff₀ hrate, RatesApart, and_iff_right hrate]
  · simp [hrate, RatesApart]

lemma decidesByRate_iff_ratesApart (h : 20 ≤ preGaps.length) (hpost : postGaps ≠ []) :
    DecidesByRate preGaps postGaps ↔
      (RatesApart preGaps postGaps ↔ HeavierTail preGaps postGaps) := by
  obtain ⟨test, htest, hheavier⟩ := tailAttribution_tested h hpost
  rw [← hheavier, DecidesByRate, htest]
  constructor
  · rintro ⟨_, ⟨⟩, hiff⟩
    exact hiff
  · exact fun hiff => ⟨test, rfl, hiff⟩

/-- Where a healthy gap exceeds the reference, the comparison is that of the products. -/
lemma heavierTail_iff (hpost : postGaps ≠ []) (hover : ∃ g ∈ preGaps, reference preGaps < g) :
    HeavierTail preGaps postGaps ↔
      3 * exceedances preGaps preGaps * postGaps.length ≤
        exceedances preGaps postGaps * 2 * preGaps.length := by
  refine and_iff_right_of_imp fun hproducts => exceedances_pos_iff.mp ?_
  have hpos : 0 < 3 * exceedances preGaps preGaps * postGaps.length :=
    Nat.mul_pos (Nat.mul_pos (by decide) (exceedances_pos_iff.mpr hover))
      (List.length_pos_iff.mpr hpost)
  refine Nat.pos_of_ne_zero fun hzero => ?_
  simp only [hzero, Nat.zero_mul] at hproducts
  omega

lemma not_decidesByRate {default : Bool}
    (hanswer : (tailAttribution preGaps postGaps).heavierAfterFault default = false)
    (hheavier : HeavierTail preGaps postGaps) : ¬ DecidesByRate preGaps postGaps := by
  rintro ⟨test, htest, hiff⟩
  rw [htest] at hanswer
  have hnot : test.heavierAfterFault = false := hanswer
  rw [hiff.mpr hheavier] at hnot
  cases hnot

lemma exceedances_le (preGaps gaps : List ℚ) : exceedances preGaps gaps ≤ gaps.length :=
  List.length_filter_le _ _

lemma abs_rate_sub_le (preGaps gaps : List ℚ) :
    |rate preGaps gaps - exceedances preGaps gaps / gaps.length| ≤ 1 / 2 ^ 52 := by
  have hle : |(exceedances preGaps gaps / gaps.length : ℚ)| ≤ 1 := by
    rw [abs_of_nonneg (by positivity)]
    exact div_le_one_of_le₀ (by exact_mod_cast exceedances_le preGaps gaps) (by positivity)
  have herror := abs_double_sub_le_rel (exceedances preGaps gaps / gaps.length)
  have hsmall : smallest / 2 ≤ 1 / 2 ^ 53 := by decide +kernel
  unfold rate
  linarith

/-- **Only a quotient of exactly one and a half is moved** by rounding, for up to 2^24 gaps on
either side. -/
theorem decidesByRate_of_ne (h : 20 ≤ preGaps.length) (hpost : postGaps ≠ [])
    (hpreSize : preGaps.length ≤ 2 ^ 24) (hpostSize : postGaps.length ≤ 2 ^ 24)
    (hover : ∃ g ∈ preGaps, reference preGaps < g)
    (hne : 3 * exceedances preGaps preGaps * postGaps.length ≠
      exceedances preGaps postGaps * 2 * preGaps.length) : DecidesByRate preGaps postGaps := by
  rw [decidesByRate_iff_ratesApart h hpost, heavierTail_iff hpost hover]
  have hpre := abs_le.mp (abs_rate_sub_le preGaps preGaps)
  have hpost' := abs_le.mp (abs_rate_sub_le preGaps postGaps)
  have hn : (0 : ℚ) < postGaps.length := by exact_mod_cast List.length_pos_iff.mpr hpost
  have hm : (0 : ℚ) < preGaps.length := by exact_mod_cast (by omega : 0 < preGaps.length)
  have hone : (1 : ℚ) ≤ exceedances preGaps preGaps := by
    exact_mod_cast exceedances_pos_iff.mpr hover
  have hmsize : (preGaps.length : ℚ) ≤ 2 ^ 24 := by exact_mod_cast hpreSize
  have hnsize : (postGaps.length : ℚ) ≤ 2 ^ 24 := by exact_mod_cast hpostSize
  have hlow : 1 / 2 ^ 24 ≤ (exceedances preGaps preGaps : ℚ) / preGaps.length := by
    rw [div_le_div_iff₀ (by norm_num) hm]
    nlinarith
  have hhigh : (exceedances preGaps preGaps : ℚ) / preGaps.length ≤ 1 :=
    div_le_one_of_le₀ (by exact_mod_cast exceedances_le preGaps preGaps) hm.le
  have hrate : 0 < rate preGaps preGaps := by linarith
  -- a whole unit between the products keeps the two rates apart by more than their errors
  have hunit : 1 / 2 ^ 49 ≤ 1 / (2 * (postGaps.length * preGaps.length) : ℚ) := by
    refine one_div_le_one_div_of_le (by positivity) ?_
    nlinarith
  have hdiff : (exceedances preGaps postGaps : ℚ) / postGaps.length -
      3 / 2 * (exceedances preGaps preGaps / preGaps.length) =
      (exceedances preGaps postGaps * 2 * preGaps.length -
        3 * exceedances preGaps preGaps * postGaps.length) *
        (1 / (2 * (postGaps.length * preGaps.length))) := by
    field_simp
  have hunitPos : (0 : ℚ) ≤ 1 / (2 * (postGaps.length * preGaps.length)) := by positivity
  rw [RatesApart, and_iff_right hrate]
  rcases lt_or_gt_of_ne hne with hlt | hgt
  · have hstep : (1 : ℚ) ≤ exceedances preGaps postGaps * 2 * preGaps.length -
        3 * exceedances preGaps preGaps * postGaps.length := by
      have : (3 * exceedances preGaps preGaps * postGaps.length : ℚ) + 1 ≤
          exceedances preGaps postGaps * 2 * preGaps.length := by exact_mod_cast hlt
      linarith
    have hgap := mul_le_mul_of_nonneg_right hstep hunitPos
    refine iff_of_true ?_ hlt.le
    linarith
  · have hstep : (exceedances preGaps postGaps * 2 * preGaps.length -
        3 * exceedances preGaps preGaps * postGaps.length : ℚ) ≤ -1 := by
      have : (exceedances preGaps postGaps * 2 * preGaps.length : ℚ) + 1 ≤
          3 * exceedances preGaps preGaps * postGaps.length := by exact_mod_cast hgt
      linarith
    have hgap := mul_le_mul_of_nonneg_right hstep hunitPos
    refine iff_of_false (not_le.mpr ?_) (not_le.mpr hgt)
    linarith

end Comparison

/-! ### What is offered for quoting -/

/-- A recovery time is offered only where the comparison was made and found a heavier tail,
and so none is offered where too few gaps closed before the fault to make it. -/
structure RestsOnTest (attempts : List ProbeAttempt) (faultOffsetS : ℚ)
    (observationEndS : Option ℚ) : Prop where
  tested : (measureRto attempts faultOffsetS observationEndS).quotableValueS ≠ none →
    ∃ test, (measureRto attempts faultOffsetS observationEndS).attribution =
      some (.tested test) ∧ test.heavierAfterFault = true
  declines : (healthyGaps attempts faultOffsetS).length < 20 →
    (measureRto attempts faultOffsetS observationEndS).quotableValueS = none

section Quoting

variable {attempts : List ProbeAttempt} {faultOffsetS : ℚ}

lemma outage_ne_none_iff : outage attempts faultOffsetS ≠ none ↔
    ∃ p ∈ gaps attempts, Qualifies attempts faultOffsetS p := by
  rw [ne_eq, outage_eq_none_iff]
  simp only [Qualifies, not_forall, not_le, exists_prop]

lemma postGaps_ne_nil {p : ProbeAttempt × ProbeAttempt} (hp : p ∈ gaps attempts)
    (hq : Qualifies attempts faultOffsetS p) : postGaps attempts faultOffsetS ≠ [] := by
  have hmem : gapLength p ∈ postGaps attempts faultOffsetS :=
    List.mem_map.mpr ⟨p, by simp [hp, hq.1], rfl⟩
  exact List.ne_nil_of_mem hmem

/-- With too few gaps before the fault the outage counts as attributable. -/
lemma attributable_of_few (h : (healthyGaps attempts faultOffsetS).length < 20) :
    attributable attempts faultOffsetS = true := by
  unfold attributable attribution tailAttribution
  rw [if_pos (Or.inl h)]
  rfl

lemma attribution_of_enough (h : 20 ≤ (healthyGaps attempts faultOffsetS).length)
    (hpost : postGaps attempts faultOffsetS ≠ []) :
    ∃ test, attribution attempts faultOffsetS = .tested test ∧
      attributable attempts faultOffsetS = test.heavierAfterFault := by
  obtain ⟨test, htest, -⟩ := tailAttribution_tested h hpost
  refine ⟨test, htest, ?_⟩
  unfold attributable attribution
  rw [htest]
  rfl

/-- Three writes, the fault after the second. -/
def earlyFault : List ProbeAttempt :=
  [⟨0, 0, 1 / 10, "ok", 0, "", ""⟩, ⟨1, 1 / 10, 1 / 5, "ok", 0, "", ""⟩,
    ⟨2, 2, 5, "ok", 0, "", ""⟩]

end Quoting

end CrdbLab.TailAttribution
