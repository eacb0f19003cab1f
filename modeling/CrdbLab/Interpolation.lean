import CrdbLab.MatchedThroughput

/-!
What a curve says between its tiers.

On the rising branch a curve is the polyline through its tiers, linear between neighbours in
throughput and missing outside. It is computed in double precision: exactly at the lowest tier,
elsewhere up to a rounding error, at the other tiers too. The tiers after the peak have no part
in it.
-/

namespace CrdbLab.Interpolation

open CrdbLab.Lib.Double CrdbLab.Lib.KeySort CrdbLab.Lib.Polyline CrdbLab.MatchedThroughput

/-! ### Reading the rising branch -/

section Branch

variable {curve : Curve} {column : Quantile} {value : ℚ × ℚ → ℚ × ℚ → ℚ → ℚ}

/-- A tier as a vertex in one latency column. -/
def vertex (column : Quantile) (t : CurvePoint) : ℚ × ℚ :=
  (t.meanTotalTps, t.quantiles.column column)

lemma vertices_strict (h : ((risingBranch curve).map CurvePoint.meanTotalTps).Nodup) :
    (vertices curve column).Pairwise fun p q => p.1 < q.1 :=
  List.pairwise_map.mpr (strict_sortOn _ h)

lemma vertex_mem {t : CurvePoint} (h : t ∈ risingBranch curve) :
    vertex column t ∈ vertices curve column :=
  mem_vertices.mpr ⟨t, h, rfl⟩

lemma ne_nil_of_mem_risingBranch {t : CurvePoint} (h : t ∈ risingBranch curve) : curve ≠ [] :=
  List.ne_nil_of_mem (mem_of_mem_risingBranch h)

lemma interpolateBy_eq_read {tps : ℚ} (h : (interpolateBy value curve tps column).isSome) :
    interpolateBy value curve tps column = read value tps (vertices curve column) := by
  unfold interpolateBy at h ⊢
  dsimp only at h ⊢
  split
  · next hfirst hlast =>
    simp only [hfirst, hlast] at h
    split_ifs at h ⊢ with hout
    · simp at h
    · rfl
  · next hno =>
    split at h
    · next hfirst hlast => exact absurd hlast (hno _ _ hfirst)
    · simp at h

/-- Missing below the lowest and above the highest tier of the branch. -/
lemma interpolateBy_eq_none_iff (h : curve ≠ []) (tps : ℚ) :
    interpolateBy value curve tps column = none ↔
      (∀ t ∈ risingBranch curve, tps < t.meanTotalTps) ∨
        ∀ t ∈ risingBranch curve, t.meanTotalTps < tps := by
  have hpeak : peak curve < tps ↔ ∀ t ∈ risingBranch curve, t.meanTotalTps < tps := by
    obtain ⟨top, htop, heq⟩ := exists_peak_risingBranch h
    constructor
    · exact fun hlt t ht => lt_of_le_of_lt (le_peak (mem_of_mem_risingBranch ht)) hlt
    · exact fun hall => heq ▸ hall top htop
  rw [← hpeak, ← Option.not_isSome_iff_eq_none, interpolateBy_isSome_iff value h, not_and_or,
    not_le]
  push Not
  rfl

/-- At the lowest tier of the branch the curve has the latency of that tier. -/
lemma interpolateDouble_lowest (h : ((risingBranch curve).map CurvePoint.meanTotalTps).Nodup)
    {t : CurvePoint} (ht : t ∈ risingBranch curve)
    (hlow : ∀ v ∈ risingBranch curve, t.meanTotalTps ≤ v.meanTotalTps)
    (hdouble : IsDouble (t.quantiles.column column)) :
    interpolateDouble curve t.meanTotalTps column = some (t.quantiles.column column) := by
  have hsome : (interpolateBy segmentDouble curve t.meanTotalTps column).isSome :=
    (interpolateBy_isSome_iff _ (ne_nil_of_mem_risingBranch ht) _ _).mpr
      ⟨⟨t, ht, le_rfl⟩, le_peak (mem_of_mem_risingBranch ht)⟩
  rw [interpolateDouble, interpolateBy_eq_read hsome]
  have hmem : vertex column t ∈ vertices curve column := vertex_mem ht
  have hstrict : (vertices curve column).Pairwise fun p q => p.1 < q.1 := vertices_strict h
  cases hvertices : vertices curve column with
  | nil =>
    rw [hvertices] at hmem
    exact absurd hmem (by simp)
  | cons p l =>
    rw [hvertices] at hmem hstrict
    -- the first vertex is that of a tier no lower
    have hp : p = vertex column t := by
      rcases List.mem_cons.mp hmem with heq | htail
      · exact heq.symm
      · obtain ⟨v, hv, rfl⟩ := mem_vertices.mp (hvertices ▸ List.mem_cons_self (a := p) (l := l))
        exact absurd ((List.pairwise_cons.mp hstrict).1 _ htail) (not_lt.mpr (hlow v hv))
    rw [hp] at hstrict ⊢
    exact read_first hstrict fun q => segmentDouble_left hdouble

/-- Right of a tier of the branch, up to the next one in throughput, the curve is read on their
segment. -/
lemma interpolateBy_between (h : ((risingBranch curve).map CurvePoint.meanTotalTps).Nodup)
    {t u : CurvePoint} (ht : t ∈ risingBranch curve) (hu : u ∈ risingBranch curve)
    (hnone : ∀ v ∈ risingBranch curve,
      v.meanTotalTps ≤ t.meanTotalTps ∨ u.meanTotalTps ≤ v.meanTotalTps)
    {tps : ℚ} (hlo : t.meanTotalTps < tps) (hhi : tps ≤ u.meanTotalTps) :
    interpolateBy value curve tps column = some (value (vertex column t) (vertex column u) tps) := by
  have hsome : (interpolateBy value curve tps column).isSome :=
    (interpolateBy_isSome_iff _ (ne_nil_of_mem_risingBranch ht) _ _).mpr
      ⟨⟨t, ht, hlo.le⟩, hhi.trans (le_peak (mem_of_mem_risingBranch hu))⟩
  rw [interpolateBy_eq_read hsome]
  refine read_between (vertices_strict h) (vertex_mem ht) (vertex_mem hu) (fun r hr => ?_) hlo hhi
  obtain ⟨v, hv, rfl⟩ := mem_vertices.mp hr
  exact hnone v hv

end Branch

/-! ### The branch as the tiers up to the peak -/

/-- The tier at which the throughput peaks for the first time as the concurrency grows. -/
structure IsFirstPeak (curve : Curve) (top : CurvePoint) : Prop where
  mem : top ∈ curve
  highest : ∀ t ∈ curve, t.meanTotalTps ≤ top.meanTotalTps
  first : ∀ t ∈ curve, t.meanTotalTps = top.meanTotalTps → top.concurrency ≤ t.concurrency

/-- The tiers of no higher concurrency. -/
def upTo (curve : Curve) (top : CurvePoint) : Curve :=
  curve.filter fun t => t.concurrency ≤ top.concurrency

section UpTo

variable {curve : Curve} {top : CurvePoint}

lemma IsFirstPeak.peak_eq (h : IsFirstPeak curve top) : peak curve = top.meanTotalTps := by
  obtain ⟨t, ht, heq⟩ := List.mem_map.mp (peak_mem (List.ne_nil_of_mem h.mem))
  refine le_antisymm ?_ (le_peak h.mem)
  rw [← heq]
  exact h.highest t ht

lemma exists_isFirstPeak (h : curve ≠ []) : ∃ top, IsFirstPeak curve top := by
  obtain ⟨t, ht, htop⟩ := exists_peak_risingBranch h
  have hmem : t ∈ curve.filter fun t => t.meanTotalTps = peak curve :=
    List.mem_filter.mpr ⟨mem_of_mem_risingBranch ht, by simpa using htop⟩
  obtain ⟨top, htop⟩ : ∃ top, (curve.filter fun t => t.meanTotalTps = peak curve).argmin
      CurvePoint.concurrency = some top :=
    Option.ne_none_iff_exists'.mp fun hnone =>
      List.ne_nil_of_mem hmem (List.argmin_eq_none.mp hnone)
  obtain ⟨hcurve, heq⟩ := List.mem_filter.mp (List.argmin_mem htop)
  rw [decide_eq_true_eq] at heq
  refine ⟨top, hcurve, fun u hu => ?_, fun u hu hpeak => ?_⟩
  · rw [heq]
    exact le_peak hu
  · exact List.le_of_mem_argmin
      (List.mem_filter.mpr ⟨hu, by simpa using hpeak.trans heq⟩) htop

/-- With distinct concurrencies the rising branch is what the sorted curve holds up to the
first peak. -/
lemma risingBranch_eq (h : IsFirstPeak curve top)
    (hconc : (curve.map CurvePoint.concurrency).Nodup) :
    risingBranch curve = sortOn CurvePoint.concurrency (upTo curve top) := by
  have hne := List.ne_nil_of_mem h.mem
  have hstrict := strict_sortOn CurvePoint.concurrency hconc
  have hpeak : peak (sortOn CurvePoint.concurrency curve) = top.meanTotalTps :=
    (peak_sortOn hne).trans h.peak_eq
  have htop : top ∈ sortOn CurvePoint.concurrency curve := (mem_sortOn _).mpr h.mem
  have hidx : (throughputs (sortOn CurvePoint.concurrency curve)).idxOf top.meanTotalTps <
      (sortOn CurvePoint.concurrency curve).length := by
    rw [← List.length_map CurvePoint.meanTotalTps]
    exact List.idxOf_lt_length_of_mem (List.mem_map.mpr ⟨top, htop, rfl⟩)
  have hconcurrency : ((sortOn CurvePoint.concurrency curve)[(throughputs
      (sortOn CurvePoint.concurrency curve)).idxOf top.meanTotalTps]).concurrency =
      top.concurrency := by
    refine le_antisymm (key_getElem_idxOf_le _ (ordered_sortOn _ _) htop hidx) ?_
    refine h.first _ ((mem_sortOn _).mp (List.getElem_mem hidx)) ?_
    have hlt : (throughputs (sortOn CurvePoint.concurrency curve)).idxOf top.meanTotalTps <
        (throughputs (sortOn CurvePoint.concurrency curve)).length := by
      rw [throughputs, List.length_map]
      exact hidx
    have hget := List.getElem_idxOf hlt
    simp only [throughputs, List.getElem_map] at hget
    exact hget
  unfold risingBranch
  dsimp only
  rw [hpeak, take_eq_filter _ hstrict hidx, hconcurrency, upTo, sortOn_filter]

lemma mem_risingBranch_iff (h : IsFirstPeak curve top)
    (hconc : (curve.map CurvePoint.concurrency).Nodup) {t : CurvePoint} :
    t ∈ risingBranch curve ↔ t ∈ upTo curve top := by
  rw [risingBranch_eq h hconc, mem_sortOn]

/-- The branch depends on the tiers up to the peak alone. -/
lemma risingBranch_congr {curve' : Curve} (h : IsFirstPeak curve top)
    (h' : IsFirstPeak curve' top) (hconc : (curve.map CurvePoint.concurrency).Nodup)
    (hconc' : (curve'.map CurvePoint.concurrency).Nodup)
    (hmem : ∀ t, t ∈ upTo curve' top ↔ t ∈ upTo curve top) :
    risingBranch curve' = risingBranch curve := by
  have hnodup : ∀ c : Curve, (c.map CurvePoint.concurrency).Nodup →
      ((upTo c top).map CurvePoint.concurrency).Nodup := fun c hc =>
    hc.sublist (List.filter_sublist.map _)
  rw [risingBranch_eq h hconc, risingBranch_eq h' hconc']
  refine eq_of_mem_iff CurvePoint.concurrency (strict_sortOn _ (hnodup _ hconc'))
    (strict_sortOn _ (hnodup _ hconc)) fun t => ?_
  rw [mem_sortOn, mem_sortOn, hmem]

end UpTo

/-! ### The curve between its tiers -/

/-- The value at a throughput on the line through two tiers. -/
def linear (t u : CurvePoint) (column : Quantile) (tps : ℚ) : ℚ :=
  t.quantiles.column column + (u.quantiles.column column - t.quantiles.column column) *
    (tps - t.meanTotalTps) / (u.meanTotalTps - t.meanTotalTps)

/-- How far the computed value can be from it. -/
def readError (t u : CurvePoint) (column : Quantile) : ℚ :=
  (|t.quantiles.column column| + |u.quantiles.column column|) / 2 ^ 49 +
    4 * smallest * (1 + 1 / (u.meanTotalTps - t.meanTotalTps))

/-- One tier follows the other in throughput. -/
structure Neighbours (tiers : Curve) (t u : CurvePoint) : Prop where
  left : t ∈ tiers
  right : u ∈ tiers
  rising : t.meanTotalTps < u.meanTotalTps
  between : ∀ v ∈ tiers, v.meanTotalTps ≤ t.meanTotalTps ∨ u.meanTotalTps ≤ v.meanTotalTps

/-- A tier that is not the lowest one follows another. -/
lemma exists_neighbours {tiers : Curve} {u v : CurvePoint} (hu : u ∈ tiers) (hv : v ∈ tiers)
    (hlt : v.meanTotalTps < u.meanTotalTps) : ∃ t, Neighbours tiers t u := by
  have hmem : v ∈ tiers.filter fun t => t.meanTotalTps < u.meanTotalTps :=
    List.mem_filter.mpr ⟨hv, by simpa using hlt⟩
  obtain ⟨t, ht⟩ : ∃ t, (tiers.filter fun t => t.meanTotalTps < u.meanTotalTps).argmax
      CurvePoint.meanTotalTps = some t :=
    Option.ne_none_iff_exists'.mp fun hnone =>
      List.ne_nil_of_mem hmem (List.argmax_eq_none.mp hnone)
  obtain ⟨hleft, hbelow⟩ := List.mem_filter.mp (List.argmax_mem ht)
  refine ⟨t, hleft, hu, by simpa using hbelow, fun w hw => ?_⟩
  rcases lt_or_ge w.meanTotalTps u.meanTotalTps with hwu | hwu
  · exact Or.inl (List.le_of_mem_argmax (List.mem_filter.mpr ⟨hw, by simpa using hwu⟩) ht)
  · exact Or.inr hwu

/-- The curve is the polyline through the tiers up to the peak, up to rounding, and nothing
else. -/
structure ReadsTiers (curve : Curve) (top : CurvePoint) (column : Quantile) : Prop where
  missing : ∀ tps, interpolateDouble curve tps column = none ↔
    (∀ t ∈ upTo curve top, tps < t.meanTotalTps) ∨ ∀ t ∈ upTo curve top, t.meanTotalTps < tps
  at_lowest : ∀ t ∈ upTo curve top, (∀ v ∈ upTo curve top, t.meanTotalTps ≤ v.meanTotalTps) →
    interpolateDouble curve t.meanTotalTps column = some (t.quantiles.column column)
  at_tier : ∀ u ∈ upTo curve top, (∃ v ∈ upTo curve top, v.meanTotalTps < u.meanTotalTps) →
    ∃ t, Neighbours (upTo curve top) t u ∧
      ∃ y, interpolateDouble curve u.meanTotalTps column = some y ∧
        |y - u.quantiles.column column| ≤ readError t u column
  between : ∀ t u, Neighbours (upTo curve top) t u →
    ∀ tps, IsDouble tps → t.meanTotalTps < tps → tps < u.meanTotalTps →
      (∃ y, interpolateDouble curve tps column = some y ∧
        |y - linear t u column tps| ≤ readError t u column) ∧
      min (t.quantiles.column column) (u.quantiles.column column) ≤ linear t u column tps ∧
      linear t u column tps ≤ max (t.quantiles.column column) (u.quantiles.column column)
  independent : ∀ curve' : Curve, (curve'.map CurvePoint.concurrency).Nodup →
    IsFirstPeak curve' top → (∀ t, t ∈ upTo curve' top ↔ t ∈ upTo curve top) →
    ∀ tps, interpolateDouble curve' tps column = interpolateDouble curve tps column

lemma segment_eq_linear {t u : CurvePoint} (column : Quantile)
    (h : t.meanTotalTps < u.meanTotalTps) (tps : ℚ) :
    Lib.Polyline.segment (vertex column t) (vertex column u) tps = linear t u column tps := by
  rw [Lib.Polyline.segment, vertex, vertex, if_neg h.ne', linear]

/-- The figures of a tier are doubles. -/
def Doubles (column : Quantile) (t : CurvePoint) : Prop :=
  IsDouble t.meanTotalTps ∧ IsDouble (t.quantiles.column column)

/-- Right of a tier, up to the next one, the computed value is close to the line through them. -/
lemma interpolateDouble_near {curve : Curve} {column : Quantile}
    (h : ((risingBranch curve).map CurvePoint.meanTotalTps).Nodup)
    (hdoubles : ∀ t ∈ risingBranch curve, Doubles column t) {t u : CurvePoint}
    (hnext : Neighbours (risingBranch curve) t u) {tps : ℚ} (htps : IsDouble tps)
    (hlo : t.meanTotalTps < tps) (hhi : tps ≤ u.meanTotalTps) :
    ∃ y, interpolateDouble curve tps column = some y ∧
      |y - linear t u column tps| ≤ readError t u column := by
  refine ⟨_, interpolateBy_between h hnext.left hnext.right hnext.between hlo hhi, ?_⟩
  rw [← segment_eq_linear column hnext.rising]
  exact abs_segmentDouble_sub_le (p := vertex column t) (q := vertex column u)
    (hdoubles t hnext.left) (hdoubles u hnext.right) htps hlo.le hhi hnext.rising

/-- **A curve is read through its tiers up to the first peak**: exactly at the lowest of them,
up to rounding at the others and linearly between neighbours, not at all outside, and whatever
comes after the peak. -/
theorem interpolate_readsTiers {curve : Curve} (hne : curve ≠ [])
    (hconc : (curve.map CurvePoint.concurrency).Nodup) :
    ∃ top, IsFirstPeak curve top ∧
      (((upTo curve top).map CurvePoint.meanTotalTps).Nodup →
        ∀ column, (∀ t ∈ upTo curve top, Doubles column t) → ReadsTiers curve top column) := by
  obtain ⟨top, htop⟩ := exists_isFirstPeak hne
  refine ⟨top, htop, fun htps column hdoubles => ?_⟩
  have hmem : ∀ t, t ∈ risingBranch curve ↔ t ∈ upTo curve top := fun t =>
    mem_risingBranch_iff htop hconc
  have hnodup : ((risingBranch curve).map CurvePoint.meanTotalTps).Nodup := by
    rw [risingBranch_eq htop hconc]
    exact ((sortOn_perm _ _).map _).nodup_iff.mpr htps
  have hbranch : ∀ t ∈ risingBranch curve, Doubles column t := fun t ht =>
    hdoubles t ((hmem t).mp ht)
  have hnext : ∀ {t u}, Neighbours (upTo curve top) t u → Neighbours (risingBranch curve) t u :=
    fun h => ⟨(hmem _).mpr h.left, (hmem _).mpr h.right, h.rising,
      fun v hv => h.between v ((hmem v).mp hv)⟩
  refine ⟨fun tps => ?_, fun t ht hlow => ?_, fun u hu hlower => ?_,
    fun t u h tps hd hlo hhi => ?_, fun curve' hconc' htop' hsame tps => ?_⟩
  · rw [interpolateDouble, interpolateBy_eq_none_iff hne]
    simp only [hmem]
  · exact interpolateDouble_lowest hnodup ((hmem t).mpr ht)
      (fun v hv => hlow v ((hmem v).mp hv)) (hdoubles t ht).2
  · obtain ⟨v, hv, hlt⟩ := hlower
    obtain ⟨t, h⟩ := exists_neighbours hu hv hlt
    refine ⟨t, h, ?_⟩
    have hend : linear t u column u.meanTotalTps = u.quantiles.column column := by
      rw [← segment_eq_linear column h.rising]
      exact segment_right h.rising.ne
    rw [← hend]
    exact interpolateDouble_near hnodup hbranch (hnext h) (hdoubles u h.right).1 h.rising le_rfl
  · refine ⟨interpolateDouble_near hnodup hbranch (hnext h) hd hlo hhi.le, ?_⟩
    rw [← segment_eq_linear column h.rising]
    exact segment_mem (p := vertex column t) (q := vertex column u) h.rising hlo.le hhi.le
  · unfold interpolateDouble interpolateBy vertices
    rw [risingBranch_congr htop htop' hconc hconc' hsame]

/-- A curve given by its tiers' throughputs and latencies from concurrency 1 on. -/
def latencyCurve (tiers : List (ℚ × ℚ)) : Curve :=
  tiers.zipIdx.map fun (x, i) => ⟨i + 1, "update", x.1, ⟨x.2, x.2, x.2, x.2⟩⟩

def foldedTiers : List (ℚ × ℚ) := [(50, 1), (80, 2), (100, 4), (70, 8)]

instance (column : Quantile) (t : CurvePoint) : Decidable (Doubles column t) :=
  inferInstanceAs (Decidable (_ ∧ _))

/-- A curve that folds back after its third tier. -/
theorem folded_readsTiers : ∃ top, IsFirstPeak (latencyCurve foldedTiers) top ∧
    ReadsTiers (latencyCurve foldedTiers) top .p50Ms := by
  have hne : latencyCurve foldedTiers ≠ [] := by decide +kernel
  obtain ⟨top, htop, hreads⟩ := interpolate_readsTiers hne (by decide +kernel)
  have hdistinct : ((latencyCurve foldedTiers).map CurvePoint.meanTotalTps).Nodup := by
    decide +kernel
  have hdoubles : ∀ t ∈ latencyCurve foldedTiers, Doubles .p50Ms t := by decide +kernel
  exact ⟨top, htop, hreads (hdistinct.sublist (List.filter_sublist.map _)) _
    fun t ht => hdoubles t (List.mem_filter.mp ht).1⟩

/-- Two tiers with 0.1 and 0.3 milliseconds. -/
def fractionTiers : List (ℚ × ℚ) := [(100, double (1 / 10)), (200, double (3 / 10))]

/-- At the second of them the curve has 0.30000000000000004, which is the latency of neither, and
between them it is not on the line through them. -/
theorem rounded_at_tier :
    IsFirstPeak (latencyCurve fractionTiers)
      ⟨2, "update", 200, ⟨double (3 / 10), double (3 / 10), double (3 / 10), double (3 / 10)⟩⟩ ∧
    (∀ t ∈ latencyCurve fractionTiers, Doubles .p50Ms t) ∧
    interpolateDouble (latencyCurve fractionTiers) 200 .p50Ms =
      some (5404319552844596 / 2 ^ 54) ∧
    double (3 / 10) < 5404319552844596 / 2 ^ 54 ∧
    interpolateDouble (latencyCurve fractionTiers) 110 .p50Ms ≠
      interpolate (latencyCurve fractionTiers) 110 .p50Ms := by
  refine ⟨⟨?_, ?_, ?_⟩, ?_, ?_, ?_, ?_⟩ <;> decide +kernel

end CrdbLab.Interpolation
