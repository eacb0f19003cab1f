import CrdbLab.Lib.OrderStat
import CrdbLab.Lib.Polyline
import CrdbLab.Optional
import Mathlib.Data.List.MinMax
import Mathlib.Data.List.Dedup
import Mathlib.Data.String.Basic
import Mathlib.Order.WithBot

/-!
The two engines' throughput-latency curves, and their latencies at matched throughput.

A curve is read by interpolation, and only on its rising branch, the tiers up to the peak.
The range in which the two curves are said to overlap is taken over all tiers instead, so
that a curve that folds back below its first tiers overlaps where it cannot be read.
-/

namespace CrdbLab.MatchedThroughput

open CrdbLab.Lib.Rounding CrdbLab.Lib.KeySort CrdbLab.Lib.OrderStat CrdbLab.Lib.Polyline
open CrdbLab.Optional

/-- The latency columns of a curve. -/
inductive Quantile | p50Ms | p95Ms | p99Ms | pmaxMs
  deriving DecidableEq, Repr

structure Quantiles where
  p50Ms : ℚ
  p95Ms : ℚ
  p99Ms : ℚ
  pmaxMs : ℚ
  deriving DecidableEq, Repr

def Quantiles.column (q : Quantiles) : Quantile → ℚ
  | .p50Ms => q.p50Ms
  | .p95Ms => q.p95Ms
  | .p99Ms => q.p99Ms
  | .pmaxMs => q.pmaxMs

/-- One row of the aggregation by tier. -/
structure Tier where
  concurrency : ℤ
  meanTotalTps : ℚ
  deriving DecidableEq, Repr

/-- One row of the aggregation by tier and operation. -/
structure OpLatency where
  concurrency : ℤ
  op : String
  quantiles : Quantiles
  deriving DecidableEq, Repr

/-- A sweep over the tiers of one engine, as aggregated from its run. `ops` are
those of the whole table in order, the two aggregations leave the warm-up out. -/
structure Sweep where
  runId : String
  ops : List String
  perTier : List Tier
  latencyByOp : List OpLatency
  deriving DecidableEq, Repr

structure CurvePoint where
  concurrency : ℤ
  op : String
  meanTotalTps : ℚ
  quantiles : Quantiles
  deriving DecidableEq, Repr

abbrev Curve := List CurvePoint

/-- What is raised where there is no curve: `KeyError('concurrency')` with no row to aggregate,
and the message for an operation that is not reported. -/
inductive CurveError where
  | noTier
  | unknownOp (runId op : String) (observed : List String)
  deriving DecidableEq, Repr

/-- The curve of one operation, by concurrency. -/
def throughputLatencyCurve (sweep : Sweep) (op : String) : Except CurveError Curve :=
  let lat := sweep.latencyByOp.filter fun l => l.op = op
  if sweep.perTier = [] then .error .noTier
  else if lat = [] then .error (.unknownOp sweep.runId op sweep.ops)
  else
    .ok (sortOn CurvePoint.concurrency (sweep.perTier.flatMap fun t =>
      (lat.filter fun l => l.concurrency = t.concurrency).map fun l =>
        ⟨t.concurrency, op, t.meanTotalTps, l.quantiles⟩))

/-- The largest and the smallest of the numbers. -/
def highest (l : List ℚ) : ℚ := l.max?.getD 0

def lowest (l : List ℚ) : ℚ := l.min?.getD 0

/-! ### Saturation -/

/-- The gain of the last tier below which a curve counts as saturated. -/
def saturationTolerance : ℚ := 1 / 20

structure Saturation where
  peakTps : Option ℚ
  peakConcurrency : Option ℤ := none
  finalTierGain : Option (WithTop ℚ) := none
  saturated : Option Bool
  detail : String
  deriving DecidableEq

/-- The text of a gain in percent to one decimal. -/
def gainText : WithTop ℚ → String
  | ⊤ => "inf%"
  | (x : ℚ) => fixed 1 (100 * x) ++ "%"

/-- Whether the peak throughput is a capacity, or only a lower bound on one. -/
def saturation (tiers : List Tier) : Saturation :=
  let ordered := sortOn Tier.concurrency tiers
  let values := ordered.map Tier.meanTotalTps
  match values.reverse with
  | last :: before :: _ =>
    let peak := highest values
    let gain : WithTop ℚ := if before ≠ 0 then ↑((last - before) / before) else ⊤
    let saturated := decide (gain < saturationTolerance)
    { peakTps := some (roundTo 1 peak)
      peakConcurrency := (ordered[values.idxOf peak]?).map Tier.concurrency
      finalTierGain := some (gain.map (roundTo 4))
      saturated := some saturated
      detail :=
        if saturated then "throughput has flattened, so the peak is the measured capacity"
        else "throughput is still rising by " ++ gainText gain ++ " at the highest tier " ++
          "measured, so the peak is a lower bound on capacity, not capacity" }
  | _ =>
    { peakTps := values.max?
      saturated := none
      detail := "a single tier cannot establish whether the curve has flattened" }

/-- Advice on making the two ranges overlap. -/
def overlapRemedy (crdb pg : Sweep) : String :=
  let tps := fun tiers : List Tier => tiers.map Tier.meanTotalTps
  let a := crdb.perTier
  let b := pg.perTier
  let pgSlower := decide (highest (tps b) < highest (tps a))
  let (slower, faster) := if pgSlower then (b, a) else (a, b)
  let slowerName := if pgSlower then "PostgreSQL" else "CockroachDB"
  let fasterName := if pgSlower then "CockroachDB" else "PostgreSQL"
  if (saturation slower).saturated = some true then
    slowerName ++ " has already saturated (peak " ++ fixed 0 (highest (tps slower)) ++
      " ops/s), so a higher concurrency tier cannot raise it into " ++ fasterName ++
      "'s range and would lower it. The only way to an overlap is to measure " ++ fasterName ++
      " at *lower* concurrency, below its current minimum of " ++
      fixed 0 (lowest (tps faster)) ++ " ops/s"
  else
    slowerName ++ " is still rising at its highest tier, so extending its sweep upward " ++
      "should close the gap; failing that, measure " ++ fasterName ++ " at lower concurrency"

/-! ### Reading a curve -/

/-- The throughputs of a curve. -/
def throughputs (curve : Curve) : List ℚ := curve.map CurvePoint.meanTotalTps

def peak (curve : Curve) : ℚ := highest (throughputs curve)

/-- The tiers up to the first one at the peak. -/
def risingBranch (curve : Curve) : Curve :=
  let ordered := sortOn CurvePoint.concurrency curve
  ordered.take ((throughputs ordered).idxOf (peak ordered) + 1)

/-- The rising branch by throughput, as vertices in one latency column. -/
def vertices (curve : Curve) (column : Quantile) : List (ℚ × ℚ) :=
  (sortOn CurvePoint.meanTotalTps (risingBranch curve)).map fun p =>
    (p.meanTotalTps, p.quantiles.column column)

/-- The latency at a throughput, missing outside what the rising branch covers. `value` gives
it on one segment. -/
def interpolateBy (value : ℚ × ℚ → ℚ × ℚ → ℚ → ℚ) (curve : Curve) (tps : ℚ)
    (column : Quantile) : Option ℚ :=
  let points := vertices curve column
  match points.head?, points.getLast? with
  | some first, some last =>
    if tps < first.1 ∨ last.1 < tps then none else read value tps points
  | _, _ => none

/-- The latency at a throughput, in exact arithmetic. -/
def interpolate : Curve → ℚ → Quantile → Option ℚ := interpolateBy segment

/-- The latency at a throughput as it is computed. -/
def interpolateDouble : Curve → ℚ → Quantile → Option ℚ := interpolateBy segmentDouble

/-! ### Matched throughput -/

inductive MeasuredIn | both | cockroachDB | postgreSQL
  deriving DecidableEq, Repr

structure MatchedPoint where
  throughputTps : ℚ
  crdbLatencyMs : ℚ
  pgLatencyMs : ℚ
  overheadX : ℚ
  crdbUtilisation : Option ℚ
  pgUtilisation : Option ℚ
  utilisationGap : Option ℚ
  measuredIn : MeasuredIn
  deriving DecidableEq, Repr

structure Matched where
  comparable : Bool
  reason : Option String := none
  crdbRangeTps : Option (ℚ × ℚ) := none
  pgRangeTps : Option (ℚ × ℚ) := none
  remedy : Option String := none
  operation : Option String := none
  quantile : Option Quantile := none
  overlapTps : Option (ℚ × ℚ) := none
  points : List MatchedPoint
  leastConfounded : Option MatchedPoint := none
  caveat : Option String := none
  deriving DecidableEq, Repr

section Overlap

variable (a b : Curve)

/-- The lower end of the throughputs inside both measured ranges. -/
def overlapLow : ℚ := max (lowest (throughputs a)) (lowest (throughputs b))

/-- The upper end, which is the lower of the two peaks. -/
def overlapHigh : ℚ := min (peak a) (peak b)

/-- The tier throughputs of either engine. -/
def candidates : List ℚ := sorted (throughputs a ++ throughputs b).dedup

def utilisation (tps peak : ℚ) : Option ℚ := if peak ≠ 0 then some (tps / peak) else none

/-- The distance of two utilisations, where both are known and not zero. -/
def utilisationGap (utilA utilB : Option ℚ) : Option ℚ :=
  match utilA, utilB with
  | some x, some y => if x ≠ 0 ∧ y ≠ 0 then some (roundTo 3 |x - y|) else none
  | _, _ => none

def measuredIn (tps : ℚ) : MeasuredIn :=
  if tps ∈ throughputs a ∧ tps ∈ throughputs b then .both
  else if tps ∈ throughputs a then .cockroachDB
  else .postgreSQL

/-- The comparison at one throughput, missing where either engine cannot be read there. -/
def matchedPoint (quantile : Quantile) (tps : ℚ) : Option MatchedPoint :=
  match interpolate a tps quantile, interpolate b tps quantile with
  | some ya, some yb =>
    if ya ≤ 0 then none
    else
      let utilA := utilisation tps (peak a)
      let utilB := utilisation tps (peak b)
      some
        { throughputTps := roundTo 1 tps
          crdbLatencyMs := roundTo 3 ya
          pgLatencyMs := roundTo 3 yb
          overheadX := roundTo 2 (yb / ya)
          crdbUtilisation := roundedIf 3 utilA
          pgUtilisation := roundedIf 3 utilB
          utilisationGap := utilisationGap utilA utilB
          measuredIn := measuredIn a b tps }
  | _, _ => none

def matchedPoints (quantile : Quantile) : List MatchedPoint :=
  ((candidates a b).filter fun tps => overlapLow a b ≤ tps ∧ tps ≤ overlapHigh a b).filterMap
    (matchedPoint a b quantile)

end Overlap

/-- The first point with the narrowest gap between the utilisations. -/
def leastConfounded (points : List MatchedPoint) : Option MatchedPoint :=
  (points.filter fun p => p.utilisationGap.isSome).argmin fun p => p.utilisationGap.getD 0

/-- Both engines' latencies at each tier throughput inside both ranges. -/
def matchedThroughput (crdb pg : Sweep) (op : String) (quantile : Quantile) :
    Except CurveError Matched := do
  let a ← throughputLatencyCurve crdb op
  let b ← throughputLatencyCurve pg op
  if overlapHigh a b < overlapLow a b then
    return {
      comparable := false
      reason := some ("the two engines' measured throughput ranges do not overlap: " ++
        "CockroachDB spans " ++ fixed 0 (lowest (throughputs a)) ++ "-" ++ fixed 0 (peak a) ++
        " ops/s and PostgreSQL " ++ fixed 0 (lowest (throughputs b)) ++ "-" ++
        fixed 0 (peak b) ++ " ops/s. There is no load level at which both were measured, so " ++
        "a matched-throughput comparison would have to extrapolate one curve beyond the data " ++
        "defining it")
      crdbRangeTps := some (roundTo 1 (lowest (throughputs a)), roundTo 1 (peak a))
      pgRangeTps := some (roundTo 1 (lowest (throughputs b)), roundTo 1 (peak b))
      remedy := some (overlapRemedy crdb pg)
      points := [] }
  let points := matchedPoints a b quantile
  return {
    comparable := !points.isEmpty
    operation := some op
    quantile := some quantile
    overlapTps := some (roundTo 1 (overlapLow a b), roundTo 1 (overlapHigh a b))
    points := points
    leastConfounded := leastConfounded points
    caveat := some ("values at a throughput not measured for an engine are linearly " ++
      "interpolated between its bracketing tiers; the true curve is convex near saturation, " ++
      "so interpolated latency is an underestimate there") }

/-! ### Where a curve can be read -/

section Reading

variable {curve : Curve}

lemma le_highest {l : List ℚ} {x : ℚ} (h : x ∈ l) : x ≤ highest l := by
  cases hm : l.max? with
  | none =>
    rw [List.max?_eq_none_iff.mp hm] at h
    simp at h
  | some m => simpa [highest, hm] using (List.max?_eq_some_iff.mp hm).2 x h

lemma highest_mem {l : List ℚ} (h : l ≠ []) : highest l ∈ l := by
  cases hm : l.max? with
  | none => exact absurd (List.max?_eq_none_iff.mp hm) h
  | some m => simpa [highest, hm] using List.max?_mem hm

lemma le_peak {t : CurvePoint} (h : t ∈ curve) : t.meanTotalTps ≤ peak curve :=
  le_highest (List.mem_map.mpr ⟨t, h, rfl⟩)

lemma peak_mem (h : curve ≠ []) : peak curve ∈ throughputs curve :=
  highest_mem (by simpa [throughputs] using h)

lemma peak_sortOn (h : curve ≠ []) : peak (sortOn CurvePoint.concurrency curve) = peak curve := by
  have hs : sortOn CurvePoint.concurrency curve ≠ [] := sortOn_ne_nil _ h
  obtain ⟨t, ht, hte⟩ := List.mem_map.mp (peak_mem hs)
  obtain ⟨u, hu, hue⟩ := List.mem_map.mp (peak_mem h)
  refine le_antisymm ?_ ?_
  · rw [← hte]
    exact le_peak ((mem_sortOn _).mp ht)
  · rw [← hue]
    exact le_peak ((mem_sortOn _).mpr hu)

lemma mem_of_mem_risingBranch {t : CurvePoint} (h : t ∈ risingBranch curve) : t ∈ curve :=
  (mem_sortOn _).mp (List.mem_of_mem_take h)

/-- The rising branch ends at the peak. -/
lemma exists_peak_risingBranch (h : curve ≠ []) :
    ∃ t ∈ risingBranch curve, t.meanTotalTps = peak curve := by
  have hs : sortOn CurvePoint.concurrency curve ≠ [] := sortOn_ne_nil _ h
  have hlt := List.idxOf_lt_length_of_mem (peak_mem hs)
  have hget := List.getElem_idxOf hlt
  simp only [throughputs, List.length_map, List.getElem_map] at hlt hget
  refine ⟨_, List.mem_take_iff_getElem.mpr ⟨_, ?_, rfl⟩, hget.trans (peak_sortOn h)⟩
  simp only [throughputs]
  omega

lemma mem_vertices {column : Quantile} {v : ℚ × ℚ} :
    v ∈ vertices curve column ↔
      ∃ t ∈ risingBranch curve, (t.meanTotalTps, t.quantiles.column column) = v := by
  simp [vertices]

lemma vertices_ordered (column : Quantile) : Ordered Prod.fst (vertices curve column) :=
  List.pairwise_map.mpr (ordered_sortOn _ _)

/-- **Where a curve can be read**: from the lowest tier of the rising branch to the peak. -/
lemma interpolateBy_isSome_iff (value : ℚ × ℚ → ℚ × ℚ → ℚ → ℚ) (h : curve ≠ []) (tps : ℚ)
    (column : Quantile) : (interpolateBy value curve tps column).isSome ↔
      (∃ t ∈ risingBranch curve, t.meanTotalTps ≤ tps) ∧ tps ≤ peak curve := by
  obtain ⟨top, htop, hpeak⟩ := exists_peak_risingBranch h
  have hne : vertices curve column ≠ [] :=
    List.ne_nil_of_mem (mem_vertices.mpr ⟨top, htop, rfl⟩)
  obtain ⟨first, hfirst⟩ := Option.isSome_iff_exists.mp (List.isSome_head?.mpr hne)
  obtain ⟨last, hlast⟩ := Option.isSome_iff_exists.mp (List.getLast?_isSome.mpr hne)
  have hlow : ∀ v ∈ vertices curve column, first.1 ≤ v.1 :=
    key_head_le Prod.fst (vertices_ordered column) hfirst
  have hhigh : ∀ v ∈ vertices curve column, v.1 ≤ last.1 :=
    key_le_getLast Prod.fst (vertices_ordered column) hlast
  have hlastPeak : last.1 = peak curve := by
    obtain ⟨t, ht, rfl⟩ := mem_vertices.mp (List.mem_of_getLast? hlast)
    refine le_antisymm (le_peak (mem_of_mem_risingBranch ht)) ?_
    rw [← hpeak]
    exact hhigh _ (mem_vertices.mpr ⟨top, htop, rfl⟩)
  have hfirstIff : first.1 ≤ tps ↔ ∃ t ∈ risingBranch curve, t.meanTotalTps ≤ tps := by
    refine ⟨fun hle => ?_, fun ⟨t, ht, hle⟩ => ?_⟩
    · obtain ⟨t, ht, rfl⟩ := mem_vertices.mp (List.mem_of_head? hfirst)
      exact ⟨t, ht, hle⟩
    · exact (hlow _ (mem_vertices.mpr ⟨t, ht, rfl⟩)).trans hle
  rw [← hfirstIff, ← hlastPeak]
  simp only [interpolateBy, hfirst, hlast]
  split_ifs with hout
  · simp only [Option.isSome_none, Bool.false_eq_true, false_iff, not_and, not_le]
    intro hle
    exact hout.resolve_left (not_lt.mpr hle)
  · rw [not_or, not_lt, not_lt] at hout
    exact iff_of_true (read_isSome hne) hout

lemma interpolate_isSome_iff (h : curve ≠ []) (tps : ℚ) (column : Quantile) :
    (interpolate curve tps column).isSome ↔
      (∃ t ∈ risingBranch curve, t.meanTotalTps ≤ tps) ∧ tps ≤ peak curve :=
  interpolateBy_isSome_iff segment h tps column

lemma interpolate_pos {column : Quantile} (hpos : ∀ t ∈ curve, 0 < t.quantiles.column column)
    {tps y : ℚ} (h : interpolate curve tps column = some y) : 0 < y := by
  simp only [interpolate, interpolateBy] at h
  split at h
  · split_ifs at h
    refine lt_read (fun v hv => ?_) h
    obtain ⟨t, ht, rfl⟩ := mem_vertices.mp hv
    exact hpos t (mem_of_mem_risingBranch ht)
  · simp at h

/-- Where a curve with positive throughputs can be read, its peak is positive. -/
lemma peak_pos (hpos : ∀ t ∈ curve, 0 < t.meanTotalTps) {tps : ℚ} {column : Quantile}
    (h : (interpolate curve tps column).isSome) : 0 < peak curve := by
  have hne : curve ≠ [] := by
    rintro rfl
    simp [interpolate, interpolateBy, vertices, risingBranch] at h
  obtain ⟨t, ht, heq⟩ := List.mem_map.mp (peak_mem hne)
  exact heq ▸ hpos t ht

end Reading

/-! ### What the result carries -/

/-- A refusal carries a reason and a remedy, and ranges that overlap give a point. -/
def ExplainsRefusal (a b : Curve) (m : Matched) : Prop :=
  (m.comparable = false → m.reason ≠ none ∧ m.remedy ≠ none) ∧
  (overlapLow a b ≤ overlapHigh a b → m.points ≠ [])

/-- Some tier of the rising branch lies at or below a throughput. -/
def RisesFrom (curve : Curve) (tps : ℚ) : Prop :=
  ∃ t ∈ risingBranch curve, t.meanTotalTps ≤ tps

section Result

variable {a b : Curve} {quantile : Quantile}

lemma overlapHigh_mem_candidates (ha : a ≠ []) (hb : b ≠ []) :
    overlapHigh a b ∈ candidates a b := by
  rw [candidates, mem_sortOn, List.mem_dedup, List.mem_append]
  rcases min_choice (peak a) (peak b) with h | h
  · exact Or.inl (by rw [overlapHigh, h]; exact peak_mem ha)
  · exact Or.inr (by rw [overlapHigh, h]; exact peak_mem hb)

/-- With positive latencies a point is missing only where a curve cannot be read. -/
lemma matchedPoint_isSome_iff (hpos : ∀ t ∈ a, 0 < t.quantiles.column quantile) (tps : ℚ) :
    (matchedPoint a b quantile tps).isSome ↔
      (interpolate a tps quantile).isSome ∧ (interpolate b tps quantile).isSome := by
  unfold matchedPoint
  cases hya : interpolate a tps quantile with
  | none => simp
  | some ya =>
    have hya0 := interpolate_pos hpos hya
    cases interpolate b tps quantile with
    | none => simp
    | some yb => simp [not_le.mpr hya0]

/-- If the engines can be compared anywhere in the overlap, they can be at its upper end. -/
lemma matchedPoints_ne_nil_iff (ha : a ≠ []) (hb : b ≠ [])
    (hpos : ∀ t ∈ a, 0 < t.quantiles.column quantile)
    (hover : overlapLow a b ≤ overlapHigh a b) :
    matchedPoints a b quantile ≠ [] ↔
      RisesFrom a (overlapHigh a b) ∧ RisesFrom b (overlapHigh a b) := by
  have hread : ∀ tps ≤ overlapHigh a b,
      ((matchedPoint a b quantile tps).isSome ↔ RisesFrom a tps ∧ RisesFrom b tps) := by
    intro tps htps
    rw [matchedPoint_isSome_iff hpos, interpolate_isSome_iff ha, interpolate_isSome_iff hb,
      and_iff_left (htps.trans (min_le_left _ _)), and_iff_left (htps.trans (min_le_right _ _))]
    rfl
  refine ⟨fun hne => ?_, fun h => ?_⟩
  · obtain ⟨point, hpoint⟩ := List.exists_mem_of_ne_nil _ hne
    obtain ⟨tps, htps, hsome⟩ := List.mem_filterMap.mp hpoint
    have hle : tps ≤ overlapHigh a b := (of_decide_eq_true (List.mem_filter.mp htps).2).2
    obtain ⟨⟨t, ht, htle⟩, u, hu, hule⟩ :=
      (hread tps hle).mp (Option.isSome_iff_exists.mpr ⟨point, hsome⟩)
    exact ⟨⟨t, ht, htle.trans hle⟩, u, hu, hule.trans hle⟩
  · obtain ⟨point, hsome⟩ := Option.isSome_iff_exists.mp ((hread _ le_rfl).mpr h)
    refine List.ne_nil_of_mem (List.mem_filterMap.mpr
      ⟨_, List.mem_filter.mpr ⟨?_, ?_⟩, hsome⟩)
    · exact overlapHigh_mem_candidates ha hb
    · exact decide_eq_true ⟨hover, le_rfl⟩

/-- Ranges that do not overlap are refused with a reason and a remedy. -/
lemma explainsRefusal_of_disjoint {crdb pg : Sweep} {op : String} {m : Matched}
    (ha : throughputLatencyCurve crdb op = .ok a) (hb : throughputLatencyCurve pg op = .ok b)
    (hm : matchedThroughput crdb pg op quantile = .ok m)
    (hover : overlapHigh a b < overlapLow a b) : ExplainsRefusal a b m := by
  simp only [matchedThroughput, ha, hb, bind, Except.bind, pure, Except.pure, if_pos hover,
    Except.ok.injEq] at hm
  subst hm
  exact ⟨fun _ => ⟨by simp, by simp⟩, fun hle => absurd hle (not_le.mpr hover)⟩

/-- On ranges that overlap, the result carries neither a reason nor a remedy. -/
lemma explainsRefusal_of_overlap {crdb pg : Sweep} {op : String} {m : Matched}
    (ha : throughputLatencyCurve crdb op = .ok a) (hb : throughputLatencyCurve pg op = .ok b)
    (hm : matchedThroughput crdb pg op quantile = .ok m)
    (hover : overlapLow a b ≤ overlapHigh a b) :
    ExplainsRefusal a b m ↔ matchedPoints a b quantile ≠ [] := by
  simp only [matchedThroughput, ha, hb, bind, Except.bind, pure, Except.pure,
    if_neg (not_lt.mpr hover), Except.ok.injEq] at hm
  subst hm
  simp [ExplainsRefusal, hover]

/-- **When a refusal is explained**: the ranges do not overlap, or the lower of the two peaks
is within reach of both rising branches. -/
theorem explainsRefusal_iff {crdb pg : Sweep} {op : String}
    (ha : throughputLatencyCurve crdb op = .ok a) (hb : throughputLatencyCurve pg op = .ok b)
    (hane : a ≠ []) (hbne : b ≠ [])
    (hpos : ∀ t ∈ a ++ b, 0 < t.meanTotalTps ∧ 0 < t.quantiles.column quantile) :
    (∃ m, matchedThroughput crdb pg op quantile = .ok m ∧ ExplainsRefusal a b m) ↔
      overlapHigh a b < overlapLow a b ∨
        RisesFrom a (overlapHigh a b) ∧ RisesFrom b (overlapHigh a b) := by
  have hlat : ∀ t ∈ a, 0 < t.quantiles.column quantile := fun t ht =>
    (hpos t (List.mem_append_left b ht)).2
  obtain ⟨m, hm⟩ : ∃ m, matchedThroughput crdb pg op quantile = .ok m := by
    simp only [matchedThroughput, ha, hb, bind, Except.bind, pure, Except.pure]
    split_ifs <;> exact ⟨_, rfl⟩
  have hresult : (∃ m, matchedThroughput crdb pg op quantile = .ok m ∧ ExplainsRefusal a b m) ↔
      ExplainsRefusal a b m := by
    simp [hm]
  rw [hresult]
  rcases lt_or_ge (overlapHigh a b) (overlapLow a b) with hover | hover
  · exact iff_of_true (explainsRefusal_of_disjoint ha hb hm hover) (Or.inl hover)
  · rw [explainsRefusal_of_overlap ha hb hm hover, matchedPoints_ne_nil_iff hane hbne hlat hover,
      or_iff_right (not_lt.mpr hover)]

end Result

/-- A sweep with one operation, given by its tiers' throughputs from concurrency 1 on. -/
def updateSweep (runId : String) (tps : List ℚ) : Sweep where
  runId := runId
  ops := ["update"]
  perTier := tps.zipIdx.map fun (x, i) => ⟨i + 1, x⟩
  latencyByOp := tps.zipIdx.map fun (_, i) => ⟨i + 1, "update", ⟨1, 2, 3, 4⟩⟩

/-- The curve of that sweep. -/
def updateCurve (tps : List ℚ) : Curve :=
  tps.zipIdx.map fun (x, i) => ⟨i + 1, "update", x, ⟨1, 2, 3, 4⟩⟩

/-- Two curves that rise through a common range are compared there. -/
theorem rising_explainsRefusal :
    ∃ m, matchedThroughput (updateSweep "crdb" [50, 100]) (updateSweep "pg" [40, 60]) "update"
      .p50Ms = .ok m ∧ ExplainsRefusal (updateCurve [50, 100]) (updateCurve [40, 60]) m :=
  (explainsRefusal_iff (by decide +kernel) (by decide +kernel) (by decide +kernel)
    (by decide +kernel) (by decide +kernel)).mpr
    (Or.inr ⟨⟨⟨1, "update", 50, ⟨1, 2, 3, 4⟩⟩, by decide +kernel, by decide +kernel⟩,
      ⟨1, "update", 40, ⟨1, 2, 3, 4⟩⟩, by decide +kernel, by decide +kernel⟩)

/-- A curve that folds back at once overlaps the other where it cannot be read: the result
is a refusal with neither a reason nor a remedy. -/
theorem foldedBack_unexplained :
    throughputLatencyCurve (updateSweep "crdb" [100, 50]) "update" = .ok (updateCurve [100, 50]) ∧
    throughputLatencyCurve (updateSweep "pg" [40, 60]) "update" = .ok (updateCurve [40, 60]) ∧
    ∃ m, matchedThroughput (updateSweep "crdb" [100, 50]) (updateSweep "pg" [40, 60]) "update"
      .p50Ms = .ok m ∧ m.comparable = false ∧ m.reason = none ∧ m.remedy = none ∧
      ¬ ExplainsRefusal (updateCurve [100, 50]) (updateCurve [40, 60]) m := by
  refine ⟨by decide +kernel, by decide +kernel, _, rfl, by decide +kernel, by decide +kernel,
    by decide +kernel, fun h => ?_⟩
  exact (h.1 (by decide +kernel)).1 (by decide +kernel)

end CrdbLab.MatchedThroughput
