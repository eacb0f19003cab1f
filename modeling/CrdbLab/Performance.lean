import CrdbLab.SteadyState
import CrdbLab.FindRecovery
import Mathlib.Data.List.ReduceOption

/-!
The time until throughput was sustainably back, recomputed from the metrics table.

Under a bounded clock the fault is placed at both ends of the interval it may lie in, and
the two recovery times are reported as a range. Where neither end recovers for good, the
run is classified by what it settled to.
-/

namespace CrdbLab.Performance

open CrdbLab.Lib.Rounding CrdbLab.Lib.Double CrdbLab.Lib.OrderStat CrdbLab.Optional
open CrdbLab.Loader CrdbLab.Clocks CrdbLab.SteadyState CrdbLab.FindRecovery

/-- One recomputation, with the fault placed at `faultAtS`. -/
structure Recomputed where
  faultAtS : ℚ
  baselineTps : ℚ
  floorTps : ℚ
  recoveredAtS : Option ℚ
  rtoS : Option ℚ
  deriving DecidableEq, Repr

structure PerformanceRto where
  defined : Bool
  rtoS : Option ℚ := none
  rtoBoundsS : Option (ℚ × ℚ) := none
  recoveryThreshold : Option ℚ := none
  recoveryHoldS : Option ℚ := none
  recomputed : List Recomputed := []
  clock : Option Method := none
  recordedAtMeasurementTimeS : Option ℚ := none
  agreesWithRecorded : Option Bool := none
  recomputeDeltaS : Option ℚ := none
  postFaultState : Option PostFaultState := none
  classification : Option String := none
  claim : Option String := none
  detail : Option String := none
  deriving DecidableEq

/-- The sum of floats where it is not compensated. -/
def floatSum (l : List ℚ) : ℚ := l.foldl (fun total x => double (total + x)) 0

/-- The recovery time of a start. -/
def rtoOf (faultAtS startS : ℚ) : ℚ := roundDouble 3 (double (startS - faultAtS))

section Recovery

-- `sum` is the sum of floats, whose last digit depends on the interpreter
variable (sum : List ℚ → ℚ) (samples : List Sample) (threshold holdS faultAtS : ℚ)

/-- The mean of the last samples before the fault, or zero where there is none. -/
def baselineTps : ℚ :=
  let pre := (samples.filter fun s => s.offsetS < faultAtS).map Sample.tps
  if pre = [] then 0
  else double (sum (pre.rtake baselineIntervals) / (pre.rtake baselineIntervals).length)

/-- When throughput was back for good, with the fault at `faultAtS`. -/
def recovered : Option ℚ :=
  if 0 < baselineTps sum samples faultAtS then
    findRecovery samples faultAtS (baselineTps sum samples faultAtS) threshold holdS
  else none

def recompute : Recomputed where
  faultAtS := faultAtS
  baselineTps := roundTo 2 (baselineTps sum samples faultAtS)
  floorTps := roundTo 2 (double (baselineTps sum samples faultAtS * threshold))
  recoveredAtS := rounded 3 (recovered sum samples threshold holdS faultAtS)
  rtoS := (recovered sum samples threshold holdS faultAtS).map (rtoOf faultAtS)

end Recovery

section Run

variable (std sum : List ℚ → ℚ) (run : Run) (alignment : ClockAlignment)

def recoveryThreshold : ℚ :=
  run.events.recoveryThreshold.getD (run.chaos.recoveryThreshold.getD (double (4 / 5)))

def recoveryHoldS : ℚ := run.events.recoveryHoldS.getD (run.chaos.recoveryHoldS.getD 10)

/-- Throughput over time, on the clock the fault is placed on. -/
def series : List Sample :=
  (ticks run 0).filterMap fun t => (tickTime run alignment t).map fun at_ => ⟨at_, t.totalTps⟩

/-- The fault itself, or the ends of the interval it may lie in. -/
def faultPoints (wall : ℚ) : Except String (List ℚ) :=
  if onWall run alignment then .ok [wall]
  else (unpack (toGenerator alignment wall)).map fun (lower, upper) =>
    sorted [roundTo 3 lower, roundTo 3 upper].dedup

/-- The recovery time as it was recorded, which may be a recorded absence. -/
def recorded : Option ℚ :=
  match run.events.performanceRtoS with
  | some value => value
  | none => run.events.rtoS

/-- The record where every recomputation recovered, `rtos` being their recovery times. -/
def reportDefined (out : PerformanceRto) (recorded : Option ℚ) (rtos : List ℚ) : PerformanceRto :=
  match rtos.dedup with
  | [rto] =>
    let delta := recorded.map fun recorded => |double (recorded - rto)|
    { out with
      defined := true
      rtoS := some rto
      claim := some ("throughput was sustainably back within " ++ fixed 1 rto ++ " s")
      agreesWithRecorded := delta.map (· < 1)
      recomputeDeltaS := rounded 3 delta }
  | _ =>
    let low := orZero rtos.min?
    let high := orZero rtos.max?
    { out with
      defined := true
      rtoBoundsS := some (low, high)
      claim := some ("throughput was sustainably back within " ++ fixed 1 low ++ "-" ++
        fixed 1 high ++ " s; the range is the unmeasured clock offset, not variability in " ++
        "the system") }

/-- The record where one recomputation did not recover. -/
def reportUndefined (out : PerformanceRto) (floor : ℚ) (settled : PostFaultState) : PerformanceRto :=
  let out := { out with defined := false, postFaultState := some settled }
  match settled.settled, settled.meanTps with
  | some true, some meanTps =>
    if meanTps < floor then
      { out with
        classification := some "degraded_steady_state"
        claim := some ("performance RTO is undefined for this fault: throughput settled at a " ++
          "stable " ++ fixed 0 meanTps ++ " ops/s, below the " ++ fixed 0 floor ++
          " ops/s floor, and stayed there. This is a new stable state, not a slow recovery " ++
          "-- the metric does not apply while the node is down") }
    else
      { out with
        classification := some "recovered_without_holding"
        claim := some ("throughput returned above the floor but did not hold it for the " ++
          "required window") }
  | _, _ =>
    { out with
      classification := some "unsettled_within_run"
      claim := some ("throughput had neither recovered nor settled by the end of the run, so " ++
        "no recovery time can be stated") }

def performance : Except String PerformanceRto :=
  match (faultOffsets run alignment).wallOffsetS with
  | none => .ok { defined := false, detail := some "no fault was injected" }
  | some wall => do
    let points ← faultPoints run alignment wall
    let results := points.map
      (recompute sum (series run alignment) (recoveryThreshold run) (recoveryHoldS run))
    let rtos := results.map Recomputed.rtoS
    let out : PerformanceRto :=
      { defined := false
        recoveryThreshold := some (recoveryThreshold run)
        recoveryHoldS := some (recoveryHoldS run)
        recomputed := results
        clock := some alignment.method
        recordedAtMeasurementTimeS := recorded run }
    if rtos ≠ [] ∧ rtos.all Option.isSome then
      return reportDefined out (recorded run) rtos.reduceOption
    else
      let settled ← postFaultSteadyState std run alignment
      return reportUndefined out (orZero (results.head?.map Recomputed.floorTps)) settled

end Run

/-! ### What is reported under a bounded clock -/

variable {std sum : List ℚ → ℚ} {run : Run} {alignment : ClockAlignment} {wall : ℚ}

lemma reportUndefined_defined (out : PerformanceRto) (floor : ℚ) (settled : PostFaultState) :
    (reportUndefined out floor settled).defined = false := by
  unfold reportUndefined
  dsimp only
  split
  · split <;> rfl
  · rfl

lemma reportDefined_defined (out : PerformanceRto) (recorded : Option ℚ) (rtos : List ℚ) :
    (reportDefined out recorded rtos).defined = true := by
  unfold reportDefined
  split <;> rfl

/-- The two ends, which may fall together once they are rounded. -/
lemma faultPoints_bounded (hbounded : alignment.exact = false)
    (hle : alignment.lowerS ≤ alignment.upperS) :
    faultPoints run alignment wall = .ok
      (if roundTo 3 (wall - alignment.upperS) = roundTo 3 (wall - alignment.lowerS) then
        [roundTo 3 (wall - alignment.lowerS)]
      else [roundTo 3 (wall - alignment.upperS), roundTo 3 (wall - alignment.lowerS)]) := by
  have hround : roundTo 3 (wall - alignment.upperS) ≤ roundTo 3 (wall - alignment.lowerS) :=
    roundTo_mono 3 (by linarith)
  simp only [faultPoints, onWall, hbounded, Bool.false_and, Bool.false_eq_true, if_false,
    unpack_toGenerator hbounded, Except.map]
  congr 1
  by_cases heq : roundTo 3 (wall - alignment.upperS) = roundTo 3 (wall - alignment.lowerS)
  · rw [if_pos heq, heq]
    simp [Lib.KeySort.sortOn]
  · rw [if_neg heq, List.dedup_cons_of_notMem (by simpa using heq)]
    refine Lib.KeySort.sortOn_eq_self id ?_
    simpa using hround

lemma postFaultSteadyState_ok (h : ∀ wall, ∃ x, separation run alignment wall = .ok x) :
    ∃ state, postFaultSteadyState std run alignment = .ok state := by
  unfold postFaultSteadyState
  split
  · exact ⟨_, rfl⟩
  · next wall _ =>
    obtain ⟨x, hx⟩ := h wall
    rw [hx]
    dsimp only [bind, Except.bind]
    split <;> exact ⟨_, rfl⟩

/-- The report follows from the recovery times at the points where the fault is placed. -/
lemma performance_of_points {points : List ℚ} {state : PostFaultState}
    (hwall : run.events.injectedAtOffsetS = some wall)
    (hpoints : faultPoints run alignment wall = .ok points)
    (hstate : postFaultSteadyState std run alignment = .ok state) :
    ∃ out floor rtos, out.rtoBoundsS = none ∧ out.rtoS = none ∧
      rtos = points.map (fun x => (recompute sum (series run alignment) (recoveryThreshold run)
        (recoveryHoldS run) x).rtoS) ∧
      performance std sum run alignment = .ok
        (if rtos ≠ [] ∧ rtos.all Option.isSome then
          reportDefined out (recorded run) rtos.reduceOption
        else reportUndefined out floor state) := by
  unfold performance
  rw [faultOffsets_wallOffsetS, hwall]
  dsimp only
  rw [hpoints, hstate]
  dsimp only [bind, Except.bind]
  rw [List.map_map]
  refine ⟨_, _, _, ?_, ?_, rfl, (apply_ite Except.ok _ _ _).symm⟩
  · rfl
  · rfl

/-- The recovery depends on the fault through the samples before it alone. -/
lemma recovered_congr {samples : List Sample} {threshold holdS x y : ℚ}
    (h : ∀ s ∈ samples, (s.offsetS < x ↔ s.offsetS < y)) :
    recovered sum samples threshold holdS x = recovered sum samples threshold holdS y := by
  have hpre : samples.filter (fun s => s.offsetS < x) = samples.filter fun s => s.offsetS < y :=
    List.filter_congr fun s hs => decide_eq_decide.mpr (h s hs)
  have hpost : postFault samples x = postFault samples y := by
    refine List.filter_congr fun s hs => decide_eq_decide.mpr ?_
    rw [← not_lt, ← not_lt]
    exact not_congr (h s hs)
  have hbaseline : baselineTps sum samples x = baselineTps sum samples y := by
    unfold baselineTps
    rw [hpre]
  unfold recovered findRecovery
  rw [hbaseline, hpost]

end CrdbLab.Performance
