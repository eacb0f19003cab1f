import CrdbLab.MatchedThroughput

/-!
Which matched throughput compares the engines at the most similar utilisation.

At one throughput the utilisations are its quotients by the two peaks, so their distance grows
with the throughput: the least confounded point is always the one of lightest load.
-/

namespace CrdbLab.UtilisationGap

open CrdbLab.Lib.Rounding CrdbLab.Lib.KeySort CrdbLab.Lib.OrderStat CrdbLab.Optional
open CrdbLab.MatchedThroughput

section Statement

variable (a b : Curve) (quantile : Quantile)

/-- The distance of the utilisations at a throughput, before rounding. -/
def gapAt (tps : ℚ) : ℚ := |tps / peak a - tps / peak b|

/-- A tier throughput inside both ranges at which both curves can be read. -/
structure Matches (tps : ℚ) : Prop where
  candidate : tps ∈ candidates a b
  low : overlapLow a b ≤ tps
  high : tps ≤ overlapHigh a b
  point : (matchedPoint a b quantile tps).isSome

/-- The gap widens with the throughput, and the point of the lightest load comes first and is
the least confounded. -/
structure WidensWithLoad (m : Matched) : Prop where
  reported : ∀ tps, Matches a b quantile tps → ∃ p ∈ m.points,
    matchedPoint a b quantile tps = some p ∧ p.utilisationGap = some (roundTo 3 (gapAt a b tps))
  widens : ∀ x y, Matches a b quantile x → Matches a b quantile y → x ≤ y →
    gapAt a b x ≤ gapAt a b y
  lightest : m.points ≠ [] → m.leastConfounded = m.points.head? ∧
    ∃ x, Matches a b quantile x ∧ (∀ y, Matches a b quantile y → x ≤ y) ∧
      m.points.head? = matchedPoint a b quantile x

end Statement

variable {a b : Curve} {quantile : Quantile}

lemma gapAt_mono {x y : ℚ} (hx : 0 ≤ x) (hxy : x ≤ y) : gapAt a b x ≤ gapAt a b y := by
  have hfactor : ∀ z, 0 ≤ z → gapAt a b z = z * |1 / peak a - 1 / peak b| := by
    intro z hz
    have hz' : z / peak a - z / peak b = z * (1 / peak a - 1 / peak b) := by ring
    rw [gapAt, hz', abs_mul, abs_of_nonneg hz]
  rw [hfactor x hx, hfactor y (hx.trans hxy)]
  exact mul_le_mul_of_nonneg_right hxy (abs_nonneg _)

lemma mem_candidates {tps : ℚ} :
    tps ∈ candidates a b ↔ ∃ t ∈ a ++ b, t.meanTotalTps = tps := by
  simp only [candidates, mem_sortOn, List.mem_dedup, throughputs, ← List.map_append,
    List.mem_map]

lemma candidate_pos (hpos : ∀ t ∈ a ++ b, 0 < t.meanTotalTps) {tps : ℚ}
    (h : tps ∈ candidates a b) : 0 < tps := by
  obtain ⟨t, ht, rfl⟩ := mem_candidates.mp h
  exact hpos t ht

lemma utilisationGap_of_matchedPoint (hpos : ∀ t ∈ a ++ b, 0 < t.meanTotalTps) {tps : ℚ}
    (htps : 0 < tps) {p : MatchedPoint} (h : matchedPoint a b quantile tps = some p) :
    p.utilisationGap = some (roundTo 3 (gapAt a b tps)) := by
  unfold matchedPoint at h
  split at h
  · next ya yb hya hyb =>
    split_ifs at h
    have hpa : 0 < peak a := peak_pos (fun t ht => hpos t (List.mem_append_left b ht))
      (Option.isSome_iff_exists.mpr ⟨ya, hya⟩)
    have hpb : 0 < peak b := peak_pos (fun t ht => hpos t (List.mem_append_right a ht))
      (Option.isSome_iff_exists.mpr ⟨yb, hyb⟩)
    obtain rfl := Option.some.inj h
    simp [utilisation, utilisationGap, hpa.ne', hpb.ne', htps.ne', gapAt]
  · simp at h

/-- The tier throughputs inside both ranges. -/
def overlap (a b : Curve) : List ℚ :=
  (candidates a b).filter fun tps => overlapLow a b ≤ tps ∧ tps ≤ overlapHigh a b

lemma matchedPoints_eq :
    matchedPoints a b quantile = (overlap a b).filterMap (matchedPoint a b quantile) := rfl

lemma overlap_ordered : Ordered id (overlap a b) := (ordered_sortOn id _).filter _

lemma mem_overlap {tps : ℚ} : tps ∈ overlap a b ↔
    tps ∈ candidates a b ∧ overlapLow a b ≤ tps ∧ tps ≤ overlapHigh a b := by
  simp [overlap]

lemma matches_iff {tps : ℚ} : Matches a b quantile tps ↔
    tps ∈ overlap a b ∧ (matchedPoint a b quantile tps).isSome := by
  rw [mem_overlap]
  exact ⟨fun h => ⟨⟨h.candidate, h.low, h.high⟩, h.point⟩,
    fun h => ⟨h.1.1, h.1.2.1, h.1.2.2, h.2⟩⟩

lemma utilisationGap_isSome (hpos : ∀ t ∈ a ++ b, 0 < t.meanTotalTps) :
    ∀ p ∈ matchedPoints a b quantile, p.utilisationGap.isSome := by
  intro p hp
  obtain ⟨tps, htps, hpoint⟩ := List.mem_filterMap.mp hp
  have hcandidate := (mem_overlap.mp htps).1
  rw [utilisationGap_of_matchedPoint hpos (candidate_pos hpos hcandidate) hpoint]
  rfl

/-- From point to point the reported gap never decreases. -/
lemma matchedPoints_ordered (hpos : ∀ t ∈ a ++ b, 0 < t.meanTotalTps) :
    Ordered (fun p : MatchedPoint => p.utilisationGap.getD 0) (matchedPoints a b quantile) := by
  rw [matchedPoints_eq]
  refine List.pairwise_filterMap.mpr ?_
  refine overlap_ordered.imp_of_mem fun {x y} hx hy hxy p hp q hq => ?_
  have hx0 := candidate_pos hpos (mem_overlap.mp hx).1
  have hy0 := candidate_pos hpos (mem_overlap.mp hy).1
  dsimp only
  rw [utilisationGap_of_matchedPoint hpos hx0 hp, utilisationGap_of_matchedPoint hpos hy0 hq]
  exact roundTo_mono 3 (gapAt_mono hx0.le hxy)

lemma leastConfounded_eq_head? (hpos : ∀ t ∈ a ++ b, 0 < t.meanTotalTps) :
    leastConfounded (matchedPoints a b quantile) = (matchedPoints a b quantile).head? := by
  rw [leastConfounded, List.filter_eq_self.mpr (utilisationGap_isSome hpos)]
  exact argmin_eq_head? _ (matchedPoints_ordered hpos)

/-- **The least confounded point is the one of lightest load.** -/
theorem matchedThroughput_widens {crdb pg : Sweep} {op : String} {m : Matched}
    (ha : throughputLatencyCurve crdb op = .ok a) (hb : throughputLatencyCurve pg op = .ok b)
    (hpos : ∀ t ∈ a ++ b, 0 < t.meanTotalTps)
    (hm : matchedThroughput crdb pg op quantile = .ok m) : WidensWithLoad a b quantile m := by
  have hwidens : ∀ x y, Matches a b quantile x → Matches a b quantile y → x ≤ y →
      gapAt a b x ≤ gapAt a b y := fun x y hx _ hxy =>
    gapAt_mono (candidate_pos hpos hx.candidate).le hxy
  rcases lt_or_ge (overlapHigh a b) (overlapLow a b) with hover | hover
  · simp only [matchedThroughput, ha, hb, bind, Except.bind, pure, Except.pure, if_pos hover,
      Except.ok.injEq] at hm
    subst hm
    refine ⟨fun tps h => ?_, hwidens, fun h => absurd rfl h⟩
    exact absurd (h.low.trans h.high) (not_le.mpr hover)
  · simp only [matchedThroughput, ha, hb, bind, Except.bind, pure, Except.pure,
      if_neg (not_lt.mpr hover), Except.ok.injEq] at hm
    subst hm
    refine ⟨fun tps h => ?_, hwidens, fun hne => ⟨leastConfounded_eq_head? hpos, ?_⟩⟩
    · obtain ⟨hmem, hsome⟩ := matches_iff.mp h
      obtain ⟨p, hp⟩ := Option.isSome_iff_exists.mp hsome
      exact ⟨p, List.mem_filterMap.mpr ⟨tps, hmem, hp⟩, hp,
        utilisationGap_of_matchedPoint hpos (candidate_pos hpos h.candidate) hp⟩
    · obtain ⟨x, hx, hsome, hhead, hmin⟩ := head?_filterMap id overlap_ordered hne
      refine ⟨x, matches_iff.mpr ⟨hx, hsome⟩, fun y hy => ?_, hhead⟩
      obtain ⟨hmem, hy'⟩ := matches_iff.mp hy
      exact hmin y hmem hy'

/-- Two rising curves. -/
theorem rising_widens : ∃ m,
    matchedThroughput (updateSweep "crdb" [50, 100]) (updateSweep "pg" [40, 60, 90]) "update"
      .p50Ms = .ok m ∧ m.points.length = 3 ∧
    WidensWithLoad (updateCurve [50, 100]) (updateCurve [40, 60, 90]) .p50Ms m := by
  obtain ⟨m, hm⟩ : ∃ m, matchedThroughput (updateSweep "crdb" [50, 100])
      (updateSweep "pg" [40, 60, 90]) "update" .p50Ms = .ok m := ⟨_, rfl⟩
  refine ⟨m, hm, ?_, matchedThroughput_widens (by decide +kernel) (by decide +kernel)
    (by decide +kernel) hm⟩
  obtain rfl := Except.ok.inj hm
  decide +kernel

end CrdbLab.UtilisationGap
