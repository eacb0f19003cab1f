import CrdbLab.Interpolation
import CrdbLab.Lib.FirstKept

/-!
The two engines' latencies at matched utilisation.

A level is a tier's throughput over its engine's peak. Levels are kept under their rounded
value, the first one of each; a tier whose level rounds like an earlier one is read at that
level instead of its own. The throughput at a level is computed back from it, and can come out
below the lowest tier, where the curve has no value.
-/

namespace CrdbLab.MatchedUtilisation

open CrdbLab.Lib.Rounding CrdbLab.Lib.Double CrdbLab.Lib.KeySort CrdbLab.Lib.FirstKept
open CrdbLab.MatchedThroughput CrdbLab.Interpolation

structure UtilisationPoint where
  utilisation : ℚ
  crdbTps : ℚ
  pgTps : ℚ
  crdbLatencyMs : ℚ
  pgLatencyMs : ℚ
  overheadX : ℚ
  deriving DecidableEq, Repr

structure MatchedAtUtilisation where
  comparable : Bool
  reason : Option String := none
  operation : Option String := none
  quantile : Option Quantile := none
  holdsFixed : Option String := none
  crdbPeakTps : Option ℚ := none
  pgPeakTps : Option ℚ := none
  utilisationRange : Option (ℚ × ℚ) := none
  points : List UtilisationPoint
  caveat : Option String := none
  deriving DecidableEq, Repr

/-- The throughputs of a curve over its peak. -/
def ratios (curve : Curve) : List ℚ :=
  (throughputs curve).map fun tps => double (tps / peak curve)

section Levels

variable (a b : Curve)

/-- The lowest utilisation inside both measured ranges. -/
def utilisationLow : ℚ :=
  max (double (lowest (throughputs a) / peak a)) (double (lowest (throughputs b) / peak b))

/-- The ratios under their rounded values. -/
def levels : List (ℚ × ℚ) := keepFirst (roundDouble 3) (ratios a ++ ratios b)

/-- The comparison at one level, missing where either engine cannot be read there. -/
def utilisationPoint (quantile : Quantile) (u : ℚ) : Option UtilisationPoint :=
  let ta := double (u * peak a)
  let tb := double (u * peak b)
  match interpolateDouble a ta quantile, interpolateDouble b tb quantile with
  | some ya, some yb =>
    if ya ≤ 0 then none
    else
      some
        { utilisation := roundDouble 3 u
          crdbTps := roundDouble 1 ta
          pgTps := roundDouble 1 tb
          crdbLatencyMs := roundDouble 3 ya
          pgLatencyMs := roundDouble 3 yb
          overheadX := roundDouble 2 (double (yb / ya)) }
  | _, _ => none

def utilisationPoints (quantile : Quantile) : List UtilisationPoint :=
  (((sortOn Prod.fst (levels a b)).map Prod.snd).filter fun u =>
    utilisationLow a b ≤ u ∧ u ≤ 1).filterMap (utilisationPoint a b quantile)

end Levels

/-- Both engines' latencies at equal fractions of their own peaks. -/
def matchedUtilisation (crdb pg : Sweep) (op : String) (quantile : Quantile) :
    Except CurveError MatchedAtUtilisation := do
  let a ← throughputLatencyCurve crdb op
  let b ← throughputLatencyCurve pg op
  if peak a = 0 ∨ peak b = 0 then
    return {
      comparable := false
      reason := some "an engine reports no throughput"
      points := [] }
  if 1 < utilisationLow a b then
    return {
      comparable := false
      reason := some ("no utilisation level is inside both engines' measured ranges " ++
        "(CockroachDB from " ++ fixed 2 (utilisationLow a b) ++ ", PostgreSQL from " ++
        fixed 2 (double (lowest (throughputs b) / peak b)) ++ ")")
      points := [] }
  let points := utilisationPoints a b quantile
  return {
    comparable := !points.isEmpty
    operation := some op
    quantile := some quantile
    holdsFixed := some "utilisation (throughput differs between the engines)"
    crdbPeakTps := some (roundDouble 1 (peak a))
    pgPeakTps := some (roundDouble 1 (peak b))
    utilisationRange := some (roundDouble 3 (utilisationLow a b), roundDouble 3 1)
    points := points
    caveat := some ("the two engines are compared at different throughputs by construction, " ++
      "so a ratio here is not the cost of replication at any single offered load; capacity " ++
      "is each engine's own measured peak, which is a lower bound if that engine had not " ++
      "saturated") }

/-! ### What is asked of the points -/

inductive Engine | cockroachDB | postgreSQL
  deriving DecidableEq, Repr

def UtilisationPoint.latencyMs (p : UtilisationPoint) : Engine → ℚ
  | .cockroachDB => p.crdbLatencyMs
  | .postgreSQL => p.pgLatencyMs

section Statement

variable (a b : Curve) (quantile : Quantile)

def curveOf : Engine → Curve
  | .cockroachDB => a
  | .postgreSQL => b

/-- The throughput of a tier over the peak of its engine. -/
def share (e : Engine) (t : CurvePoint) : ℚ := t.meanTotalTps / peak (curveOf a b e)

/-- A level inside both ranges at which both curves can be read, in exact arithmetic. -/
structure Evaluable (u : ℚ) : Prop where
  low : ∀ e, lowest (throughputs (curveOf a b e)) / peak (curveOf a b e) ≤ u
  high : u ≤ 1
  read : ∀ e, (interpolate (curveOf a b e) (u * peak (curveOf a b e)) quantile).isSome

/-- Each tier that can be compared has its point, with the latency measured there. -/
def NeverShifts (points : List UtilisationPoint) : Prop :=
  ∀ e, ∀ t ∈ risingBranch (curveOf a b e), Evaluable a b quantile (share a b e t) →
    ∃ p ∈ points, p.utilisation = roundDouble 3 (double (share a b e t)) ∧
      p.latencyMs e = roundDouble 3 (t.quantiles.column quantile)

/-- The first ratio that rounds like the given one. -/
def firstAlike (u : ℚ) : Option ℚ :=
  (ratios a ++ ratios b).find? fun r => roundDouble 3 r = roundDouble 3 u

/-- The throughput of an engine at a ratio, computed back from it. -/
def throughputAt (e : Engine) (r : ℚ) : ℚ := double (r * peak (curveOf a b e))

/-- A ratio inside both ranges whose throughputs lie on both rising branches, with a positive
latency of CockroachDB. -/
structure Comparable (r : ℚ) : Prop where
  low : utilisationLow a b ≤ r
  high : r ≤ 1
  rises : ∀ e, RisesFrom (curveOf a b e) (throughputAt a b e r)
  below : ∀ e, throughputAt a b e r ≤ peak (curveOf a b e)
  positive : ∀ y, interpolateDouble a (throughputAt a b .cockroachDB r) quantile = some y → 0 < y

end Statement

/-! ### The points -/

variable {a b : Curve} {quantile : Quantile}

lemma firstAlike_congr {u v : ℚ} (h : roundDouble 3 u = roundDouble 3 v) :
    firstAlike a b u = firstAlike a b v := by
  rw [firstAlike, firstAlike, h]

lemma roundDouble_firstAlike {u r : ℚ} (h : firstAlike a b u = some r) :
    roundDouble 3 r = roundDouble 3 u :=
  of_decide_eq_true
    (List.find?_some (p := fun r => decide (roundDouble 3 r = roundDouble 3 u)) h)

/-- The levels are the ratios that are the first of those that round like them. -/
lemma exists_mem_levels_iff {r : ℚ} : (∃ k, (k, r) ∈ levels a b) ↔ firstAlike a b r = some r := by
  constructor
  · rintro ⟨k, hk⟩
    have hfind := mem_keepFirst_iff.mp hk
    have hround : roundDouble 3 r = k :=
      of_decide_eq_true (List.find?_some (p := fun x => decide (roundDouble 3 x = k)) hfind)
    rw [firstAlike, hround]
    exact hfind
  · exact fun h => ⟨roundDouble 3 r, mem_keepFirst_iff.mpr h⟩

lemma mem_utilisationPoints {p : UtilisationPoint} : p ∈ utilisationPoints a b quantile ↔
    ∃ r, firstAlike a b r = some r ∧ (utilisationLow a b ≤ r ∧ r ≤ 1) ∧
      utilisationPoint a b quantile r = some p := by
  have hlevel : ∀ r, r ∈ (sortOn Prod.fst (levels a b)).map Prod.snd ↔
      firstAlike a b r = some r := by
    intro r
    rw [← exists_mem_levels_iff, List.mem_map]
    constructor
    · rintro ⟨⟨k, _⟩, hk, rfl⟩
      exact ⟨k, (mem_sortOn _).mp hk⟩
    · rintro ⟨k, hk⟩
      exact ⟨(k, r), (mem_sortOn _).mpr hk, rfl⟩
  simp only [utilisationPoints, List.mem_filterMap, List.mem_filter, hlevel,
    decide_eq_true_eq, and_assoc]

/-- The latencies of a point are those of the curves at its level. -/
lemma utilisationPoint_spec {r : ℚ} {p : UtilisationPoint}
    (h : utilisationPoint a b quantile r = some p) : p.utilisation = roundDouble 3 r ∧
      ∀ e, (interpolateDouble (curveOf a b e) (throughputAt a b e r) quantile).map
        (roundDouble 3) = some (p.latencyMs e) := by
  unfold utilisationPoint at h
  dsimp only at h
  split at h
  · next ya yb hya hyb =>
    split_ifs at h
    obtain rfl := Option.some.inj h
    refine ⟨rfl, fun e => ?_⟩
    cases e with
    | cockroachDB => rw [throughputAt, curveOf, hya]; rfl
    | postgreSQL => rw [throughputAt, curveOf, hyb]; rfl
  · simp at h

/-- A level has its point exactly when it is comparable. -/
lemma utilisationPoint_isSome_iff (hcurves : ∀ e, curveOf a b e ≠ []) {r : ℚ}
    (hlow : utilisationLow a b ≤ r) (hhigh : r ≤ 1) :
    (utilisationPoint a b quantile r).isSome ↔ Comparable a b quantile r := by
  have hread : ∀ e, (interpolateDouble (curveOf a b e) (throughputAt a b e r) quantile).isSome ↔
      RisesFrom (curveOf a b e) (throughputAt a b e r) ∧
        throughputAt a b e r ≤ peak (curveOf a b e) :=
    fun e => interpolateBy_isSome_iff _ (hcurves e) _ _
  have hcrdb := hread .cockroachDB
  have hpg := hread .postgreSQL
  constructor
  · intro h
    unfold utilisationPoint at h
    dsimp only at h
    split at h
    · next ya yb hya hyb =>
      split_ifs at h with hpos
      · simp at h
      have hcrdb' := hcrdb.mp (by rw [throughputAt, curveOf, hya]; rfl)
      have hpg' := hpg.mp (by rw [throughputAt, curveOf, hyb]; rfl)
      refine ⟨hlow, hhigh, fun e => ?_, fun e => ?_, fun y hy => ?_⟩
      · cases e with
        | cockroachDB => exact hcrdb'.1
        | postgreSQL => exact hpg'.1
      · cases e with
        | cockroachDB => exact hcrdb'.2
        | postgreSQL => exact hpg'.2
      · obtain rfl : ya = y := Option.some.inj (hya.symm.trans hy)
        exact not_le.mp hpos
    · simp at h
  · intro h
    obtain ⟨ya, hya⟩ := Option.isSome_iff_exists.mp
      (hcrdb.mpr ⟨h.rises .cockroachDB, h.below .cockroachDB⟩)
    obtain ⟨yb, hyb⟩ := Option.isSome_iff_exists.mp
      (hpg.mpr ⟨h.rises .postgreSQL, h.below .postgreSQL⟩)
    have hpos := not_le.mpr (h.positive ya hya)
    simp only [throughputAt, curveOf] at hya hyb
    simp [utilisationPoint, hya, hyb, hpos]

/-- A point is labelled by a ratio if that ratio, or the first that rounds like it, is
comparable. -/
lemma exists_point_iff (hcurves : ∀ e, curveOf a b e ≠ []) {u y : ℚ} (e : Engine) :
    (∃ p ∈ utilisationPoints a b quantile, p.utilisation = roundDouble 3 u ∧
      p.latencyMs e = y) ↔ ∃ r, firstAlike a b u = some r ∧ Comparable a b quantile r ∧
        (interpolateDouble (curveOf a b e) (throughputAt a b e r) quantile).map
          (roundDouble 3) = some y := by
  constructor
  · rintro ⟨p, hp, hlabel, rfl⟩
    obtain ⟨r, hfirst, ⟨hlow, hhigh⟩, hpoint⟩ := mem_utilisationPoints.mp hp
    obtain ⟨hutilisation, hlatency⟩ := utilisationPoint_spec hpoint
    have hcompared := (utilisationPoint_isSome_iff hcurves hlow hhigh).mp (by rw [hpoint]; rfl)
    refine ⟨r, ?_, hcompared, hlatency e⟩
    rw [firstAlike_congr (hlabel.symm.trans hutilisation), hfirst]
  · rintro ⟨r, hfirst, hcompared, hlatency⟩
    have hround := roundDouble_firstAlike hfirst
    obtain ⟨p, hpoint⟩ := Option.isSome_iff_exists.mp
      ((utilisationPoint_isSome_iff hcurves hcompared.low hcompared.high).mpr hcompared)
    obtain ⟨hutilisation, hlatency'⟩ := utilisationPoint_spec hpoint
    refine ⟨p, mem_utilisationPoints.mpr
      ⟨r, ?_, ⟨hcompared.low, hcompared.high⟩, hpoint⟩, hutilisation.trans hround, ?_⟩
    · rw [firstAlike_congr hround, hfirst]
    · exact Option.some.inj ((hlatency' e).symm.trans hlatency)

variable (quantile) in
/-- On curves the comparison always has a result. -/
lemma exists_matchedUtilisation {crdb pg : Sweep} {op : String}
    (ha : throughputLatencyCurve crdb op = .ok a) (hb : throughputLatencyCurve pg op = .ok b) :
    ∃ m, matchedUtilisation crdb pg op quantile = .ok m := by
  simp only [matchedUtilisation, ha, hb, bind, Except.bind, pure, Except.pure]
  split_ifs <;> exact ⟨_, rfl⟩

/-- A curve that can be read has tiers, and with positive throughputs a positive peak. -/
lemma Evaluable.peak_pos {u : ℚ} (h : Evaluable a b quantile u)
    (hpos : ∀ t ∈ a ++ b, 0 < t.meanTotalTps) (e : Engine) :
    curveOf a b e ≠ [] ∧ 0 < peak (curveOf a b e) := by
  have hcurve : ∀ t ∈ curveOf a b e, 0 < t.meanTotalTps := by
    cases e with
    | cockroachDB => exact fun t ht => hpos t (List.mem_append_left b ht)
    | postgreSQL => exact fun t ht => hpos t (List.mem_append_right a ht)
  refine ⟨?_, MatchedThroughput.peak_pos hcurve (h.read e)⟩
  intro hnil
  have hread := h.read e
  rw [hnil] at hread
  simp [interpolate, interpolateBy, vertices, risingBranch] at hread

/-- What lies inside both ranges does so as computed. -/
lemma Evaluable.low_le_double {u : ℚ} (h : Evaluable a b quantile u) :
    utilisationLow a b ≤ double u :=
  max_le (double_mono (h.low .cockroachDB)) (double_mono (h.low .postgreSQL))

lemma Evaluable.double_le_one {u : ℚ} (h : Evaluable a b quantile u) : double u ≤ 1 := by
  have hone : IsDouble 1 := by decide +kernel
  exact hone.double_le h.high

/-- Where a level can be compared at all, the result has the points of the levels. -/
lemma points_eq {crdb pg : Sweep} {op : String} {m : MatchedAtUtilisation}
    (ha : throughputLatencyCurve crdb op = .ok a) (hb : throughputLatencyCurve pg op = .ok b)
    (hm : matchedUtilisation crdb pg op quantile = .ok m)
    (hpos : ∀ t ∈ a ++ b, 0 < t.meanTotalTps) {u : ℚ} (h : Evaluable a b quantile u) :
    m.points = utilisationPoints a b quantile := by
  have hpeaks : ¬ (peak a = 0 ∨ peak b = 0) := by
    rintro (hzero | hzero)
    · exact (h.peak_pos hpos .cockroachDB).2.ne' hzero
    · exact (h.peak_pos hpos .postgreSQL).2.ne' hzero
  have hlow : ¬ 1 < utilisationLow a b := not_lt.mpr (h.low_le_double.trans h.double_le_one)
  simp only [matchedUtilisation, ha, hb, bind, Except.bind, pure, Except.pure, if_neg hpeaks,
    if_neg hlow, Except.ok.injEq] at hm
  rw [← hm]

/-- A sweep with one operation, given by its tiers' throughputs and latencies from
concurrency 1 on. -/
def latencySweep (runId : String) (tiers : List (ℚ × ℚ)) : Sweep where
  runId := runId
  ops := ["update"]
  perTier := tiers.zipIdx.map fun (x, i) => ⟨i + 1, x.1⟩
  latencyByOp := tiers.zipIdx.map fun (x, i) => ⟨i + 1, "update", ⟨x.2, x.2, x.2, x.2⟩⟩

variable (quantile) in
/-- A tier whose latency no point of the levels gives is shifted. -/
lemma exists_shift {crdb pg : Sweep} {op : String}
    (ha : throughputLatencyCurve crdb op = .ok a) (hb : throughputLatencyCurve pg op = .ok b)
    (hpos : ∀ t ∈ a ++ b, 0 < t.meanTotalTps) {e : Engine} {t : CurvePoint}
    (ht : t ∈ risingBranch (curveOf a b e)) (heval : Evaluable a b quantile (share a b e t))
    (hnone : ∀ p ∈ utilisationPoints a b quantile,
      ¬ (p.utilisation = roundDouble 3 (double (share a b e t)) ∧
        p.latencyMs e = roundDouble 3 (t.quantiles.column quantile))) :
    ∃ m, matchedUtilisation crdb pg op quantile = .ok m ∧
      m.points = utilisationPoints a b quantile ∧ ¬ NeverShifts a b quantile m.points := by
  obtain ⟨m, hm⟩ := exists_matchedUtilisation quantile ha hb
  have hpoints := points_eq ha hb hm hpos heval
  refine ⟨m, hm, hpoints, fun hnever => ?_⟩
  obtain ⟨p, hp, hgiven⟩ := hnever e t ht heval
  exact hnone p (hpoints ▸ hp) hgiven

def crdbTiers : List (ℚ × ℚ) := [(2000, 10), (5004, 20), (10000, 40)]

def pgTiers : List (ℚ × ℚ) := [(2000, 10), (4996, 20), (10000, 60)]

end CrdbLab.MatchedUtilisation
