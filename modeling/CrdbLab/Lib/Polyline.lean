import CrdbLab.Lib.Double
import Mathlib.Algebra.Order.Field.Basic
import Mathlib.Tactic.Linarith
import Mathlib.Tactic.FieldSimp
import Mathlib.Tactic.Ring

/-!
Reading a polyline given by its vertices.

Between two neighbouring vertices the value is taken on the segment that joins them. In exact
arithmetic it lies above every lower bound of the vertices. In double precision it is computed
on the segment at its right end too, and differs a little from the value of the vertex there.
-/

namespace CrdbLab.Lib.Polyline

variable {K : Type*}

section Reading

variable [LinearOrder K] {value : K × K → K × K → K → K}

/-- The value on the first segment whose abscissas hold `x`, and the last vertex's if there
is none. `value` gives it on one segment. -/
def read (value : K × K → K × K → K → K) (x : K) : List (K × K) → Option K
  | [] => none
  | [p] => some p.2
  | p :: q :: l => if p.1 ≤ x ∧ x ≤ q.1 then some (value p q x) else read value x (q :: l)

lemma read_isSome {x : K} {l : List (K × K)} (h : l ≠ []) :
    (read value x l).isSome := by
  fun_induction read value x l with
  | case1 => exact absurd rfl h
  | case2 => rfl
  | case3 => rfl
  | case4 p q l hx ih => exact ih (by simp)

/-- At the first vertex the value is that of the vertex if each segment gives it so. -/
lemma read_first {p : K × K} {l : List (K × K)}
    (h : (p :: l).Pairwise fun p q => p.1 < q.1) (hvalue : ∀ q, value p q p.1 = p.2) :
    read value p.1 (p :: l) = some p.2 := by
  cases l with
  | nil => rfl
  | cons q l =>
    have hlt := (List.pairwise_cons.mp h).1 q (by simp)
    rw [read, if_pos ⟨le_rfl, hlt.le⟩, hvalue]

/-- Right of a vertex, up to the next one, the polyline is their segment. -/
lemma read_between {l : List (K × K)}
    (h : l.Pairwise fun p q => p.1 < q.1) {p q : K × K} (hp : p ∈ l) (hq : q ∈ l)
    (hnone : ∀ r ∈ l, r.1 ≤ p.1 ∨ q.1 ≤ r.1) {x : K} (hlo : p.1 < x) (hhi : x ≤ q.1) :
    read value x l = some (value p q x) := by
  induction l with
  | nil => simp at hp
  | cons a t ih =>
    obtain ⟨ha, ht⟩ := List.pairwise_cons.mp h
    have hax : a.1 < x := by
      rcases List.mem_cons.mp hp with rfl | hp'
      · exact hlo
      · exact (ha p hp').trans hlo
    have hqt : q ∈ t := by
      rcases List.mem_cons.mp hq with rfl | hq'
      · exact absurd hax (not_lt.mpr hhi)
      · exact hq'
    cases t with
    | nil => simp at hqt
    | cons b t =>
      rw [read]
      have htail := List.pairwise_cons.mp ht
      by_cases hx : a.1 ≤ x ∧ x ≤ b.1
      · have hbp : ¬ b.1 ≤ p.1 := fun hle => absurd (hle.trans_lt hlo) (not_lt.mpr hx.2)
        have hqb : q = b := by
          rcases List.mem_cons.mp hqt with rfl | hq'
          · rfl
          · rcases hnone b (by simp) with hle | hle
            · exact absurd hle hbp
            · exact absurd (htail.1 q hq') (not_lt.mpr hle)
        have hpa : p = a := by
          rcases List.mem_cons.mp hp with rfl | hp'
          · rfl
          · refine absurd ?_ hbp
            rcases List.mem_cons.mp hp' with rfl | hp''
            · exact le_rfl
            · exact (htail.1 p hp'').le
        rw [if_pos hx, hqb, hpa]
      · have hbx : b.1 < x := not_le.mp fun hle => hx ⟨hax.le, hle⟩
        have hpt : p ∈ b :: t := by
          rcases List.mem_cons.mp hp with rfl | hp'
          · rcases hnone b (by simp) with hle | hle
            · exact absurd (ha b (by simp)) (not_lt.mpr hle)
            · exact absurd (hle.trans_lt hbx) (not_lt.mpr hhi)
          · exact hp'
        rw [if_neg hx]
        exact ih ht hpt hqt fun r hr => hnone r (List.mem_cons_of_mem a hr)

end Reading

variable [Field K] [LinearOrder K]

/-- The value at `x` on the segment from `p` to `q`. On an upright segment it is that of `p`. -/
def segment (p q : K × K) (x : K) : K :=
  if q.1 = p.1 then p.2 else p.2 + (q.2 - p.2) * (x - p.1) / (q.1 - p.1)

lemma segment_right {p q : K × K} (h : p.1 ≠ q.1) : segment p q q.1 = q.2 := by
  have hw : q.1 - p.1 ≠ 0 := sub_ne_zero.mpr h.symm
  rw [segment, if_neg h.symm, mul_div_assoc, div_self hw]
  ring

section Bounds

variable [IsStrictOrderedRing K]

/-- The value on a segment is a mean of the values at its ends, weighted by the distances to
the other end. -/
lemma segment_eq_mean {p q : K × K} (h : p.1 < q.1) (x : K) :
    segment p q x = (p.2 * (q.1 - x) + q.2 * (x - p.1)) / (q.1 - p.1) := by
  have hw : q.1 - p.1 ≠ 0 := (sub_pos.mpr h).ne'
  rw [segment, if_neg h.ne']
  field_simp
  ring

lemma lt_segment {m x : K} {p q : K × K} (hp : m < p.2) (hq : m < q.2) (hlo : p.1 ≤ x)
    (hhi : x ≤ q.1) : m < segment p q x := by
  rcases (hlo.trans hhi).eq_or_lt with h | h
  · rw [segment, if_pos h.symm]
    exact hp
  · have hw := sub_pos.mpr h
    rw [segment_eq_mean h, lt_div_iff₀ hw]
    have h1 : m * (q.1 - x) ≤ p.2 * (q.1 - x) :=
      mul_le_mul_of_nonneg_right hp.le (by linarith)
    have h2 : m * (x - p.1) ≤ q.2 * (x - p.1) :=
      mul_le_mul_of_nonneg_right hq.le (by linarith)
    rcases hlo.eq_or_lt with rfl | hlt
    · have := mul_lt_mul_of_pos_right hp hw
      linarith
    · have := mul_lt_mul_of_pos_right hq (sub_pos.mpr hlt)
      linarith

/-- On a segment the value lies between the values at its ends. -/
lemma segment_mem {x : K} {p q : K × K} (h : p.1 < q.1) (hlo : p.1 ≤ x) (hhi : x ≤ q.1) :
    min p.2 q.2 ≤ segment p q x ∧ segment p q x ≤ max p.2 q.2 := by
  have hw := sub_pos.mpr h
  have hleft : 0 ≤ q.1 - x := by linarith
  have hright : 0 ≤ x - p.1 := by linarith
  rw [segment_eq_mean h, le_div_iff₀ hw, div_le_iff₀ hw]
  constructor
  · have h1 := mul_le_mul_of_nonneg_right (min_le_left p.2 q.2) hleft
    have h2 := mul_le_mul_of_nonneg_right (min_le_right p.2 q.2) hright
    linarith
  · have h1 := mul_le_mul_of_nonneg_right (le_max_left p.2 q.2) hleft
    have h2 := mul_le_mul_of_nonneg_right (le_max_right p.2 q.2) hright
    linarith

lemma lt_read {m x y : K} {l : List (K × K)} (h : ∀ p ∈ l, m < p.2) (hy : read segment x l = some y) :
    m < y := by
  fun_induction read segment x l with
  | case1 => simp at hy
  | case2 p =>
    obtain rfl := Option.some.inj hy
    exact h p (by simp)
  | case3 p q l hx =>
    obtain rfl := Option.some.inj hy
    exact lt_segment (h p (by simp)) (h q (by simp)) hx.1 hx.2
  | case4 p q l hx ih => exact ih (fun r hr => h r (List.mem_cons_of_mem p hr)) hy

end Bounds

/-! ### In double precision -/

section Doubles

open CrdbLab.Lib.Double

/-- The value on the segment from `p` to `q`, each operation rounded. -/
def segmentDouble (p q : ℚ × ℚ) (x : ℚ) : ℚ :=
  if q.1 = p.1 then p.2
  else double (p.2 +
    double (double (double (q.2 - p.2) * double (x - p.1)) / double (q.1 - p.1)))

/-- At the left end nothing is lost. -/
lemma segmentDouble_left {p q : ℚ × ℚ} (h : IsDouble p.2) : segmentDouble p q p.1 = p.2 := by
  unfold segmentDouble
  split_ifs
  · rfl
  · simpa [IsDouble] using h

/-- How far a value on a segment can be from the exact one. -/
def segmentError (p q : ℚ × ℚ) : ℚ :=
  (|p.2| + |q.2|) / 2 ^ 49 + 4 * smallest * (1 + 1 / (q.1 - p.1))

/-- **The error of a value on a segment.** -/
theorem abs_segmentDouble_sub_le {p q : ℚ × ℚ} {x : ℚ} (hp : IsDouble p.1 ∧ IsDouble p.2)
    (hq : IsDouble q.1 ∧ IsDouble q.2) (hx : IsDouble x) (hlo : p.1 ≤ x) (hhi : x ≤ q.1)
    (h : p.1 < q.1) : |segmentDouble p q x - segment p q x| ≤ segmentError p q := by
  have hw : 0 < q.1 - p.1 := sub_pos.mpr h
  rw [segmentDouble, segment, if_neg h.ne', if_neg h.ne', segmentError]
  have hrise := hq.2.abs_double_sub_le hp.2
  have hstep := hx.abs_double_sub_le hp.1
  have hwidth := hq.1.abs_double_sub_le hp.1
  rw [abs_of_pos hw] at hwidth
  set d := q.2 - p.2 with hd
  set w := q.1 - p.1
  set product := double (double d * double (x - p.1))
  have hproduct := abs_double_mul_sub_le hrise hstep
  have hquot := abs_div_sub_div_le hw hproduct hwidth
  set quot := product / double w
  set exact := d * (x - p.1) / w with hexact
  -- the share of the rise that is due at `x` is no more than the rise
  have hshare : |d * (x - p.1)| / w ≤ |d| := by
    rw [div_le_iff₀ hw, abs_mul, abs_of_nonneg (sub_nonneg.mpr hlo)]
    exact mul_le_mul_of_nonneg_left (by linarith) (abs_nonneg d)
  have hexactLe : |exact| ≤ |d| := by
    rw [hexact, abs_div, abs_of_pos hw]
    exact hshare
  have hquotLe : |quot - exact| ≤ 8 / 2 ^ 53 * |d| + 2 / 3 * (smallest * (1 / w)) := by
    refine hquot.trans ?_
    have heq : 4 / 3 * (5 / 2 ^ 53 * |d * (x - p.1)| + smallest / 2 +
        |d * (x - p.1)| / 2 ^ 53) / w =
        8 / 2 ^ 53 * (|d * (x - p.1)| / w) + 2 / 3 * (smallest * (1 / w)) := by ring
    rw [heq]
    linarith
  have hround := abs_double_sub_le_rel quot
  have hsum := (hp.2).abs_double_add_le (isDouble_double quot)
  have hdLe : |d| ≤ |p.2| + |q.2| := by
    rw [hd, add_comm]
    exact abs_sub _ _
  have hsmall : 0 ≤ smallest * (1 / w) :=
    mul_nonneg smallest_pos.le (one_div_pos.mpr hw).le
  have hquotAbs : |quot| ≤ |quot - exact| + |exact| := by
    have := abs_sub_abs_le_abs_sub quot exact
    linarith
  have hdoubleAbs : |double quot| ≤ |double quot - quot| + |quot| := by
    have := abs_sub_abs_le_abs_sub (double quot) quot
    linarith
  have hsumAbs := abs_add_le p.2 (double quot)
  have hsplit : double (p.2 + double quot) - (p.2 + exact) =
      (double (p.2 + double quot) - (p.2 + double quot)) +
        ((double quot - quot) + (quot - exact)) := by ring
  have htotal : |double (p.2 + double quot) - (p.2 + exact)| ≤
      |double (p.2 + double quot) - (p.2 + double quot)| +
        (|double quot - quot| + |quot - exact|) := by
    rw [hsplit]
    exact (abs_add_le _ _).trans (add_le_add_right (abs_add_le _ _) _)
  have hp0 := abs_nonneg p.2
  have hq0 := abs_nonneg q.2
  have hs0 := smallest_pos
  have hmul : 4 * smallest * (1 + 1 / w) = 4 * smallest + 4 * (smallest * (1 / w)) := by ring
  rw [hmul]
  linarith

end Doubles

end CrdbLab.Lib.Polyline
